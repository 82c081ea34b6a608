import Mathlib.Data.List.Basic

/-!
# Programs that call another component

A method that calls operations of another component is a tree: it has returned,
or it makes a call and goes on with the answer.  The component is not part of
the tree, so the same method runs against an oracle, which answers from what
has been exchanged so far, and against a component that runs in parallel.

`Meets` is the weakest condition under which a method keeps an invariant of the
exchange, call by call, and returns with a postcondition, whatever the answers
are.  Both speak about what an observer has noted of the exchange.  The
condition follows the structure of the method by the rules for returning, for
a call and for a sequence.
-/

namespace RtmpCore

/-- A program over the calls `C`, where the call `c` is answered by an `R c`. -/
inductive Prog (C : Type) (R : C → Type) (α : Type) where
  | done (value : α)
  | call (c : C) (next : R c → Prog C R α)

namespace Prog

variable {C : Type} {R : C → Type} {α β : Type}

def bind : Prog C R α → (α → Prog C R β) → Prog C R β
  | done a, f => f a
  | call c next, f => call c fun answer => (next answer).bind f

instance : Monad (Prog C R) where
  pure := done
  bind := bind

/-- Make one call and return its answer. -/
def request (c : C) : Prog C R (R c) := call c done

/-- A call together with its answer. -/
abbrev Exchange (C : Type) (R : C → Type) := (c : C) × R c

/-- Run a program against an oracle, which answers a call from what has been
exchanged before it. -/
def exec (oracle : List (Exchange C R) → (c : C) → R c) :
    List (Exchange C R) → Prog C R α → List (Exchange C R) × α
  | trace, done a => (trace, a)
  | trace, call c next =>
    let answer := oracle trace c
    exec oracle (trace ++ [⟨c, answer⟩]) (next answer)

variable {σ : Type} {note : σ → Exchange C R → σ}

/-- An observer `note` follows the exchange.  After every exchange the
invariant holds of what was observed, and at the return the postcondition
does. -/
def Meets (note : σ → Exchange C R → σ) (inv : σ → Prop) (post : σ → α → Prop) :
    σ → Prog C R α → Prop
  | s, done a => post s a
  | s, call c next =>
    ∀ answer, inv (note s ⟨c, answer⟩) ∧ Meets note inv post (note s ⟨c, answer⟩) (next answer)

section Rules

variable {inv : σ → Prop} {post : σ → α → Prop} {s : σ}

@[simp] theorem meets_pure {a : α} :
    Meets note inv post s (pure a : Prog C R α) ↔ post s a := Iff.rfl

variable {post' : σ → β → Prop} {p : Prog C R α} {f : α → Prog C R β}

/-- The rule for a sequence: the rest is met after whatever the first part
leaves. -/
theorem meets_bind : Meets note inv post' s (p >>= f) ↔
      Meets note inv (fun s a => Meets note inv post' s (f a)) s p := by
  induction p generalizing s with
  | done a => exact Iff.rfl
  | call c next ih => exact forall_congr' fun answer => and_congr_right fun _ => ih answer

/-- The rule for a call that a program makes and goes on from. -/
theorem meets_request_bind {c : C} {f : R c → Prog C R α} :
    Meets note inv post s (request c >>= f) ↔ ∀ answer, inv (note s ⟨c, answer⟩) ∧
        Meets note inv post (note s ⟨c, answer⟩) (f answer) := Iff.rfl

theorem Meets.imp {inv' : σ → Prop} {post' : σ → α → Prop}
    (h : Meets note inv post s p) (hinv : ∀ s, inv s → inv' s)
    (hpost : ∀ s a, post s a → post' s a) : Meets note inv' post' s p := by
  induction p generalizing s with
  | done a => exact hpost s a h
  | call c next ih => exact fun answer => ⟨hinv _ (h answer).1, ih answer (h answer).2⟩

theorem Meets.mono {post' : σ → α → Prop}
    (h : Meets note inv post s p) (hpost : ∀ s a, post s a → post' s a) :
    Meets note inv post' s p :=
  h.imp (fun _ hinv => hinv) hpost

/-- What a first part leaves is what the rest starts from. -/
theorem Meets.bind (h : Meets note inv post s p)
    (hnext : ∀ s a, post s a → Meets note inv post' s (f a)) : Meets note inv post' s (p >>= f) :=
  meets_bind.mpr (h.mono hnext)

/-- A program run against any oracle returns with its postcondition. -/
theorem Meets.exec (h : Meets note inv post s p) (oracle : List (Exchange C R) → (c : C) → R c) :
    post ((p.exec oracle []).1.foldl note s) (p.exec oracle []).2 := by
  -- The induction runs over programs that start with some exchanges behind them.
  have hfrom : ∀ trace : List (Exchange C R), Meets note inv post (trace.foldl note s) p →
      post ((p.exec oracle trace).1.foldl note s) (p.exec oracle trace).2 := by
    clear h
    induction p with
    | done a => exact fun _ h => h
    | call c next ih =>
      intro trace h
      apply ih
      rw [List.foldl_concat]
      exact (h _).2
  exact hfrom [] h

end Rules

end Prog

end RtmpCore
