import Mathlib.Data.List.Induction
import Mathlib.Data.List.Nodup

/-!
# Runs of a machine

A machine performs a list of actions one after another.  Conditions on runs
are stated step by step, on the state in which an action is performed.  What
one step preserves under such a condition, every run that keeps to it
preserves.
-/

namespace RtmpCore.Run

variable {σ α : Type*} {step : σ → α → σ}

/-- The state after a list of actions. -/
def run (step : σ → α → σ) (s : σ) (actions : List α) : σ := actions.foldl step s

/-- Every action of the run is performed in a state that meets the
condition. -/
def Along (step : σ → α → σ) (P : σ → α → Prop) (s : σ) : List α → Prop
  | [] => True
  | a :: rest => P s a ∧ Along step P (step s a) rest

instance decidableAlong (P : σ → α → Prop) [∀ s a, Decidable (P s a)] :
    (s : σ) → (actions : List α) → Decidable (Along step P s actions)
  | _, [] => instDecidableTrue
  | s, a :: rest => @instDecidableAnd _ _ _ (decidableAlong P (step s a) rest)

variable {P : σ → α → Prop} {s : σ} {actions : List α}

theorem along_append {actions' : List α} : Along step P s (actions ++ actions') ↔
      Along step P s actions ∧ Along step P (run step s actions) actions' := by
  induction actions generalizing s with
  | nil => simp [Along, run]
  | cons a rest ih =>
    rw [List.cons_append, Along, ih, ← and_assoc]
    rfl

theorem along_and {Q : σ → α → Prop} (hP : Along step P s actions) (hQ : Along step Q s actions) :
    Along step (fun s a => P s a ∧ Q s a) s actions := by
  induction actions generalizing s with
  | nil => trivial
  | cons a rest ih => exact ⟨⟨hP.1, hQ.1⟩, ih hP.2 hQ.2⟩

theorem along_of_forall (h : ∀ front a rest, actions = front ++ a :: rest →
    P (run step s front) a) : Along step P s actions := by
  induction actions generalizing s with
  | nil => trivial
  | cons a rest ih =>
    refine ⟨h [] a rest rfl, ih fun front a' rest' hrest => ?_⟩
    exact h (a :: front) a' rest' (hrest ▸ rfl)

/-- What holds at the start and is preserved by every step holds after the
run. -/
theorem run_invariant (Inv : σ → Prop) (halong : Along step P s actions) (h : Inv s)
    (hstep : ∀ s a, P s a → Inv s → Inv (step s a)) : Inv (run step s actions) := by
  induction actions generalizing s with
  | nil => exact h
  | cons a rest ih =>
    obtain ⟨hhead, htail⟩ := halong
    exact ih htail (hstep s a hhead h)

/-- What every step preserves, every run preserves. -/
theorem run_invariant_always (Inv : σ → Prop) (h : Inv s) (hstep : ∀ s a, Inv s → Inv (step s a)) :
    Inv (run step s actions) :=
  run_invariant (P := fun _ _ => True) Inv (along_of_forall fun _ _ _ _ => trivial) h
    fun s a _ => hstep s a

/-- A loop that visits every item once. -/
theorem foldl_visits (step : σ → α → σ) (Inv : List α → σ → Prop) (hnodup : actions.Nodup)
    (h : Inv [] s)
    (hstep : ∀ {visited s a}, a ∉ visited → Inv visited s → Inv (a :: visited) (step s a)) :
    Inv actions.reverse (actions.foldl step s) := by
  induction actions using List.reverseRecOn with
  | nil => exact h
  | append_singleton rest a ih =>
    obtain ⟨hnew, hrest⟩ := (List.nodup_concat rest a).mp (by simpa using hnodup)
    simpa using hstep (by simpa using hnew) (ih hrest)

end RtmpCore.Run
