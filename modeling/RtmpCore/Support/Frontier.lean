import Mathlib.Data.Set.Insert
import Mathlib.Tactic.Common

/-!
# Consuming a numbered sequence

A consumer remembers the numbers it has taken.  It may forget old ones, so what
it remembers is downward closed only above a bound that never falls.  As long as
it takes every number together with all below it, it never takes a number twice
and never goes back.
-/

namespace RtmpCore.Frontier

open List

section Order

variable {κ : Type*} [LinearOrder κ] {bound bound' x y : κ} {seen : Set κ}

/-- Above the bound, everything below a number that was seen was seen. -/
def Closed (bound : κ) (seen : Set κ) : Prop := ∀ y ∈ seen, ∀ x, bound ≤ x → x ≤ y → x ∈ seen

theorem Closed.raise (h : Closed bound seen) (hle : bound ≤ bound') : Closed bound' seen :=
  fun y hy x hx hxy => h y hy x (hle.trans hx) hxy

theorem Closed.insert (h : Closed bound seen)
    (hbelow : ∀ y, bound ≤ y → y < x → y ∈ seen) : Closed bound (insert x seen) := by
  intro y hy z hz hzy
  rcases hy with rfl | hy
  · rcases hzy.lt_or_eq with hlt | rfl
    · exact .inr (hbelow z hz hlt)
    · exact .inl rfl
  · exact .inr (h y hy z hz hzy)

/-- What was not seen lies above everything that was. -/
theorem Closed.lt_of_mem (h : Closed bound seen) (hx : x ∉ seen) (hbd : bound ≤ x)
    (hy : y ∈ seen) : y < x := by
  by_contra hle
  exact hx (h y hy x hbd (not_lt.mp hle))

theorem Closed.forget (h : Closed bound seen) {floor : κ} (hfloor : floor ≤ bound) :
    Closed bound {x ∈ seen | floor ≤ x} :=
  fun y hy x hx hxy => ⟨h y hy.1 x hx hxy, hfloor.trans hx⟩

/-- Numbers that may be taken one after the other. -/
def Ready (bound : κ) : Set κ → List κ → Prop
  | _, [] => True
  | seen, x :: rest =>
    x ∉ seen ∧ bound ≤ x ∧ (∀ y, bound ≤ y → y < x → y ∈ seen) ∧ Ready bound (insert x seen) rest

/-- Taking the first numbers leaves the others ready. -/
theorem Ready.drop {numbers : List κ} (hcl : Closed bound seen)
    (hready : Ready bound seen numbers) (count : ℕ) :
    Closed bound (seen ∪ {x | x ∈ numbers.take count}) ∧
      Ready bound (seen ∪ {x | x ∈ numbers.take count}) (numbers.drop count) := by
  induction numbers generalizing seen count with
  | nil => simpa [Ready] using hcl
  | cons x rest ih =>
    cases count with
    | zero => simpa using ⟨hcl, hready⟩
    | succ count =>
      obtain ⟨-, -, hbelow, hrest⟩ := hready
      have htaken : seen ∪ {y | y ∈ (x :: rest).take (count + 1)} =
          Insert.insert x seen ∪ {y | y ∈ rest.take count} := by
        ext y
        simp only [take_succ_cons, mem_cons, Set.mem_union, Set.mem_ofPred_eq, Set.mem_insert_iff]
        tauto
      rw [htaken]
      exact ih (hcl.insert hbelow) hrest count

end Order

section Consecutive

variable {bound : ℕ} {seen : Set ℕ}

/-- Of consecutive numbers, those that were not seen are ready, when everything
before them was seen. -/
theorem ready_filter_range' (unseen : ℕ → Bool) (first count : ℕ)
    (hbd : bound ≤ first) (hbelow : ∀ y, bound ≤ y → y < first → y ∈ seen)
    (hunseen : ∀ x, first ≤ x → (unseen x = true ↔ x ∉ seen)) :
    Ready bound seen ((List.range' first count).filter unseen) := by
  induction count generalizing first seen with
  | zero => trivial
  | succ count ih =>
    rw [range'_succ]
    by_cases hx : unseen first = true
    · rw [filter_cons_of_pos hx]
      refine ⟨(hunseen first (Nat.le_refl _)).mp hx, hbd, hbelow, ?_⟩
      apply ih (first + 1) (by omega)
      · intro y hy hlt
        rcases Nat.lt_succ_iff_lt_or_eq.mp hlt with hlt | rfl
        · exact .inr (hbelow y hy hlt)
        · exact .inl rfl
      · intro x hle
        rw [hunseen x (by omega), Set.mem_insert_iff, not_or]
        exact ⟨fun h => ⟨by omega, h⟩, And.right⟩
    · rw [filter_cons_of_neg hx]
      have hfst : first ∈ seen := by
        by_contra hnot
        exact hx ((hunseen first (Nat.le_refl _)).mpr hnot)
      apply ih (first + 1) (by omega)
      · intro y hy hlt
        rcases Nat.lt_succ_iff_lt_or_eq.mp hlt with hlt | rfl
        · exact hbelow y hy hlt
        · exact hfst
      · intro x hle
        exact hunseen x (by omega)

/-- The first of the numbers from the bound on may be marked as seen without
being taken. -/
theorem Closed.union_range' (h : Closed bound seen) (count : ℕ) :
    Closed bound (seen ∪ {x | x ∈ List.range' bound count}) := by
  intro y hy x hx hxy
  rcases hy with hy | hy
  · exact .inl (h y hy x hx hxy)
  · right
    rw [Set.mem_ofPred_eq, mem_range'_1] at hy ⊢
    omega

end Consecutive

end RtmpCore.Frontier
