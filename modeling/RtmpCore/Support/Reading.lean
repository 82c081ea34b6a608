import Mathlib.Tactic.Common

/-!
# Reading with a flag

A reader may go on after its input has ended: it raises a flag, which stays up,
and reads something.  Such a reader refines one that stops there, if they agree
as long as the flag is down, and the flag goes up exactly where the other one
stops.
-/

namespace RtmpCore.Reading

open Option

variable {σ τ α α' β β' : Type} {failed : σ → Bool} {view : σ → τ}

/-- The flag stays up. -/
class Sticky (failed : σ → Bool) (m : StateM σ α) : Prop where
  kept : ∀ s, failed s = true → failed (m.run s).2 = true

namespace Sticky

instance pure (a : α) : Sticky failed (pure a : StateM σ α) where
  kept _ h := h

instance get : Sticky failed (get : StateM σ σ) where
  kept _ h := h

instance bind {m : StateM σ α} {f : α → StateM σ β} [hm : Sticky failed m]
    [hf : ∀ a, Sticky failed (f a)] : Sticky failed (m >>= f) where
  kept s h := (hf _).kept _ (hm.kept s h)

instance ite {c : Prop} [Decidable c] {m m' : StateM σ α} [hm : Sticky failed m]
    [hm' : Sticky failed m'] : Sticky failed (if c then m else m') := by
  by_cases h : c
  · rwa [if_pos h]
  · rwa [if_neg h]

end Sticky

/-- What a reader with a flag has to do with one that stops. -/
structure Refines (failed : σ → Bool) (view : σ → τ) (R : α → β → Prop)
    (m : StateM σ α) (p : StateT τ Option β) : Prop where
  stops : ∀ s, failed s = false → p.run (view s) = none → failed (m.run s).2 = true
  agrees : ∀ s, failed s = false → ∀ b t, p.run (view s) = some (b, t) →
    failed (m.run s).2 = false ∧ view (m.run s).2 = t ∧ R (m.run s).1 b

namespace Refines

variable {R : α → β → Prop} {S : α' → β' → Prop}

theorem pure {a : α} {b : β} (h : R a b) :
    Refines failed view R (pure a : StateM σ α) (pure b) where
  stops _ _ hnone := nomatch hnone
  agrees s hs b' t hsome := by
    cases hsome
    exact ⟨hs, rfl, h⟩

variable {m : StateM σ α} {p : StateT τ Option β}

theorem failure (h : ∀ s, failed (m.run s).2 = true) :
    Refines failed view R m (failure : StateT τ Option β) where
  stops s _ _ := h s
  agrees _ _ _ _ hsome := nomatch hsome

theorem bind {f : α → StateM σ α'} {g : β → StateT τ Option β'} [hstick : ∀ a, Sticky failed (f a)]
    (hm : Refines failed view R m p) (hf : ∀ a b, R a b → Refines failed view S (f a) (g b)) :
    Refines failed view S (m >>= f) (p >>= g) where
  stops s hs hnone := by
    rw [StateT.run_bind, bind_eq_bind, bind_eq_none_iff] at hnone
    cases hp : p.run (view s) with
    | none => exact (hstick _).kept _ (hm.stops s hs hp)
    | some found =>
      obtain ⟨hdown, hview, hval⟩ := hm.agrees s hs found.1 found.2 hp
      have hlater := hnone found hp
      rw [← hview] at hlater
      exact (hf _ _ hval).stops _ hdown hlater
  agrees s hs b' t hsome := by
    rw [StateT.run_bind, bind_eq_bind, bind_eq_some_iff] at hsome
    obtain ⟨found, hp, hlater⟩ := hsome
    obtain ⟨hdown, hview, hval⟩ := hm.agrees s hs found.1 found.2 hp
    rw [← hview] at hlater
    exact (hf _ _ hval).agrees _ hdown b' t hlater

theorem bind_pure {S : α' → β → Prop} {f : α → α'}
    (hm : Refines failed view R m p) (hf : ∀ a b, R a b → S (f a) b) :
    Refines failed view S (m >>= fun a => Pure.pure (f a)) p where
  stops s hs hnone := hm.stops s hs hnone
  agrees s hs b t hsome := by
    obtain ⟨hdown, hview, hval⟩ := hm.agrees s hs b t hsome
    exact ⟨hdown, hview, hf _ _ hval⟩

theorem ite {c c' : Prop} [Decidable c] [Decidable c'] (hc : c ↔ c') {m' : StateM σ α}
    {p' : StateT τ Option β} (h : Refines failed view R m p) (h' : Refines failed view R m' p') :
    Refines failed view R (if c then m else m') (if c' then p else p') := by
  by_cases hcase : c
  · rwa [if_pos hcase, if_pos (hc.mp hcase)]
  · rwa [if_neg hcase, if_neg (hcase ∘ hc.mpr)]

/-- A reader that looks at its state, where the flag is down. -/
theorem get_bind {f : σ → StateM σ α} (h : ∀ s, failed s = false → Refines failed view R (f s) p) :
    Refines failed view R (get >>= f) p where
  stops s hs hnone := (h s hs).stops s hs hnone
  agrees s hs b t hsome := (h s hs).agrees s hs b t hsome

end Refines

end RtmpCore.Reading
