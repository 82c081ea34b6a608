import Mathlib.Data.List.Induction
import Mathlib.Data.Set.Function

/-!
# References in custody

Objects are created and destroyed by their owners while a holder keeps
references to them in numbered seats.  The holder must let go of an object
before its owner destroys it.

`Custody held alive loose` says that every reference is to a living object,
that no object is referenced from two seats, and that the living objects
without a reference are the loose ones: those the holder has let go of and the
owner has yet to destroy.
-/

namespace RtmpCore.Support

open List Function

variable {S O : Type*}

structure Custody (held : S → Option O) (alive loose : Set O) : Prop where
  alive_of_held : ∀ {s o}, held s = some o → o ∈ alive
  seat_unique : ∀ {s s' o}, held s = some o → held s' = some o → s = s'
  not_loose : ∀ {s o}, held s = some o → o ∉ loose
  held_of_alive : ∀ {o}, o ∈ alive → o ∉ loose → ∃ s, held s = some o

namespace Custody

variable {held : S → Option O} {alive loose : Set O}

variable [DecidableEq S] {s : S} {o : O}

/-- A new object is created and referenced from a free seat. -/
theorem lend (h : Custody held alive loose) (hnew : o ∉ alive)
    (hfree : held s = none) (htight : o ∉ loose) :
    Custody (update held s (some o)) (insert o alive) loose where
  alive_of_held {s' o'} hs' := by
    rcases eq_or_ne s' s with rfl | hne
    · simp_all
    · rw [update_of_ne hne] at hs'
      exact Set.mem_insert_of_mem o (h.alive_of_held hs')
  seat_unique {s₁ s₂ o'} h₁ h₂ := by
    -- a seat other than the new one holds an object that was alive before
    have old : ∀ {s'}, s' ≠ s → update held s (some o) s' = some o' →
        o' ≠ o ∧ held s' = some o' := by
      intro s' hne hs'
      rw [update_of_ne hne] at hs'
      exact ⟨fun heq => hnew (heq ▸ h.alive_of_held hs'), hs'⟩
    by_cases hs₁ : s₁ = s <;> by_cases hs₂ : s₂ = s
    · rw [hs₁, hs₂]
    · simp only [hs₁, update_self, Option.some.injEq] at h₁
      exact absurd h₁.symm (old hs₂ h₂).1
    · simp only [hs₂, update_self, Option.some.injEq] at h₂
      exact absurd h₂.symm (old hs₁ h₁).1
    · exact h.seat_unique (old hs₁ h₁).2 (old hs₂ h₂).2
  not_loose {s' o'} hs' := by
    rcases eq_or_ne s' s with rfl | hne
    · simp only [update_self, Option.some.injEq] at hs'
      exact hs' ▸ htight
    · rw [update_of_ne hne] at hs'
      exact h.not_loose hs'
  held_of_alive {o'} ho' htight' := by
    rcases Set.mem_insert_iff.mp ho' with rfl | hold
    · exact ⟨s, by simp⟩
    · obtain ⟨s', hs'⟩ := h.held_of_alive hold htight'
      have hne : s' ≠ s := fun heq => by simp [heq, hfree] at hs'
      exact ⟨s', by rw [update_of_ne hne, hs']⟩

/-- A seat is emptied, and what was in it is then loose. -/
theorem vacate (h : Custody held alive loose) (s : S) :
    Custody (update held s none) alive ({o | held s = some o} ∪ loose) := by
  have remaining : ∀ {s' o'}, update held s none s' = some o' → s' ≠ s ∧ held s' = some o' := by
    intro s' o' hs'
    rcases eq_or_ne s' s with rfl | hne
    · simp at hs'
    · exact ⟨hne, by rwa [update_of_ne hne] at hs'⟩
  constructor
  · intro s' o' hs'
    exact h.alive_of_held (remaining hs').2
  · intro s₁ s₂ o' h₁ h₂
    exact h.seat_unique (remaining h₁).2 (remaining h₂).2
  · intro s' o' hs'
    obtain ⟨hne, hs''⟩ := remaining hs'
    rintro (hs | hloose)
    · exact hne (h.seat_unique hs'' hs)
    · exact h.not_loose hs'' hloose
  · intro o' ho' htight
    obtain ⟨hother, htight⟩ := not_or.mp htight
    obtain ⟨s', hs'⟩ := h.held_of_alive ho' htight
    have hne : s' ≠ s := by
      rintro rfl
      exact hother hs'
    exact ⟨s', by rw [update_of_ne hne, hs']⟩

/-- The holder lets go of an object, which is then loose. -/
theorem release (h : Custody held alive loose) (hs : held s = some o) :
    Custody (update held s none) alive (insert o loose) := by
  have hvacated := h.vacate s
  simp only [hs, Option.some.injEq, Set.ofPred_eq_eq_singleton', Set.singleton_union] at hvacated
  exact hvacated

omit [DecidableEq S] in
theorem destroy (h : Custody held alive loose) {gone : Set O}
    (hgone : gone ⊆ loose) : Custody held (alive \ gone) (loose \ gone) where
  alive_of_held hs := ⟨h.alive_of_held hs, fun hmem => h.not_loose hs (hgone hmem)⟩
  seat_unique := h.seat_unique
  not_loose hs hmem := h.not_loose hs hmem.1
  held_of_alive ho htight := h.held_of_alive ho.1 fun hloose => htight ⟨hloose, ho.2⟩

/-- The holder lets go of an object and its owner destroys it. -/
theorem evict (h : Custody held alive loose) (hs : held s = some o) :
    Custody (update held s none) (alive \ {o}) loose := by
  have hgone : {o} ⊆ insert o loose := by simp
  have hloose : insert o loose \ {o} = loose := by
    ext o'
    have hne : o' ∈ loose → o' ≠ o := by
      rintro hmem rfl
      exact h.not_loose hs hmem
    simpa using hne
  have hdestroyed := (h.release hs).destroy hgone
  rwa [hloose] at hdestroyed

omit [DecidableEq S] in
/-- When nothing is loose, the references are in bijection with the living
objects. -/
theorem bijOn (h : Custody held alive ∅) (p : Set O) :
    Set.BijOn Prod.snd {e : S × O | held e.1 = some e.2 ∧ e.2 ∈ p} {o | o ∈ alive ∧ o ∈ p} := by
  refine ⟨?_, ?_, ?_⟩
  · rintro ⟨s, o⟩ ⟨hs, hp⟩
    exact ⟨h.alive_of_held hs, hp⟩
  · rintro ⟨s, o⟩ ⟨hs, -⟩ ⟨s', o'⟩ ⟨hs', -⟩ heq
    obtain rfl : o = o' := heq
    exact congrArg (·, o) (h.seat_unique hs hs')
  · rintro o ⟨ho, hp⟩
    obtain ⟨s, hs⟩ := h.held_of_alive ho (Set.notMem_empty o)
    exact ⟨(s, o), ⟨hs, hp⟩, rfl⟩

end Custody

/-- The holder lets go of the listed objects, one after another. -/
inductive Releases [DecidableEq S] (held : S → Option O) : (S → Option O) → List O → Prop where
  | nil : Releases held held []
  | snoc {held' : S → Option O} {out : List O} {s : S} {o : O}
      (before : Releases held held' out) (hs : held' s = some o) :
      Releases held (update held' s none) (out ++ [o])

theorem Releases.held_before [DecidableEq S] {held held' : S → Option O}
    {out : List O} (h : Releases held held' out) {s : S} {o : O}
    (hs : held' s = some o) : held s = some o := by
  induction h with
  | nil => exact hs
  | @snoc held' out s' o' before _ ih =>
    rcases eq_or_ne s s' with rfl | hne
    · simp at hs
    · exact ih (by rwa [update_of_ne hne] at hs)

theorem Releases.single [DecidableEq S] {held : S → Option O} {s : S} {o : O}
    (hs : held s = some o) : Releases held (update held s none) [o] :=
  Releases.nil.snoc hs

theorem Releases.ofSeats [DecidableEq S] {held : S → Option O}
    (seats : List (S × O)) (hnd : (seats.map Prod.fst).Nodup)
    (hheld : ∀ seat ∈ seats, held seat.1 = some seat.2) :
    Releases held (fun s => if s ∈ seats.map Prod.fst then none else held s)
      (seats.map Prod.snd) := by
  induction seats using List.reverseRecOn with
  | nil => simpa using Releases.nil
  | append_singleton seats seat ih =>
    rw [map_append, nodup_append] at hnd
    obtain ⟨hnd, -, hdisjoint⟩ := hnd
    have hfsh : seat.1 ∉ seats.map Prod.fst := fun hmem => hdisjoint _ hmem _ (by simp) rfl
    have hbef := ih hnd fun other hmem => hheld other (mem_append_left _ hmem)
    have hseat : (if seat.1 ∈ seats.map Prod.fst then none else held seat.1) = some seat.2 := by
      rw [if_neg hfsh]
      exact hheld seat (by simp)
    have hseats : (fun s => if s ∈ (seats ++ [seat]).map Prod.fst then none
        else held s) = update (fun s => if s ∈ seats.map Prod.fst then none else held s)
          seat.1 none := by
      funext s
      rcases eq_or_ne s seat.1 with rfl | hne
      · simp
      · simp only [update_of_ne hne, map_append, map_cons,
          map_nil, mem_append, mem_singleton, hne, or_false]
    rw [hseats, map_append]
    exact hbef.snoc hseat

end RtmpCore.Support
