import Mathlib.Data.Finmap

/-!
# Tables of counters

Counters by key, as a program keeps them in a table.  A key without an entry
counts zero.  A counter that is counted down to zero loses its entry, and one
without an entry is not counted down.
-/

namespace RtmpCore.Support

open Function

abbrev Counters (κ : Type*) := AList fun _ : κ => UInt64

namespace Counters

variable {κ : Type*} [DecidableEq κ] (t : Counters κ) (k : κ)

def count : UInt64 := (t.lookup k).getD 0

def increment : Counters κ := t.insert k (t.count k + 1)

def decrement : Counters κ :=
  match t.lookup k with
  | none => t
  | some n => if n - 1 = 0 then t.erase k else t.insert k (n - 1)

/-- The number a key counts. -/
def amount : ℕ := (t.count k).toNat

/-- No entry counts zero. -/
def Positive : Prop := ∀ k, t.lookup k ≠ some 0

variable {t k}

theorem count_insert (n : UInt64) : count (t.insert k n) = update t.count k n := by
  funext k'
  rcases eq_or_ne k' k with rfl | hne
  · simp [count]
  · simp [count, hne]

theorem count_erase : count (t.erase k) = update t.count k 0 := by
  funext k'
  rcases eq_or_ne k' k with rfl | hne
  · simp [count]
  · simp [count, hne]

theorem amount_insert (n : UInt64) : amount (t.insert k n) = update t.amount k n.toNat := by
  funext k'
  rw [amount, count_insert]
  rcases eq_or_ne k' k with rfl | hne
  · simp
  · simp [hne, amount]

theorem toNat_count_add_one (h : t.amount k + 1 < 2 ^ 64) :
    (t.count k + 1).toNat = t.amount k + 1 := by
  exact Nat.mod_eq_of_lt h

theorem amount_increment (h : t.amount k + 1 < 2 ^ 64) :
    (t.increment k).amount = update t.amount k (t.amount k + 1) := by
  rw [increment, amount_insert, toNat_count_add_one h]

/-- A counter that counts something is counted down by one. -/
theorem amount_decrement (h : 0 < t.amount k) :
    (t.decrement k).amount = update t.amount k (t.amount k - 1) := by
  unfold decrement
  cases hent : t.lookup k with
  | none => simp [amount, count, hent] at h
  | some n =>
    have hn : t.amount k = n.toNat := by simp [amount, count, hent]
    have hpred : (n - 1).toNat = t.amount k - 1 := by
      rw [hn] at h ⊢
      exact UInt64.toNat_sub_of_le n 1 (UInt64.le_iff_toNat_le.mpr h)
    dsimp only
    split_ifs with hzero
    · rw [hzero] at hpred
      funext k'
      rw [amount, count_erase, ← hpred]
      rcases eq_or_ne k' k with rfl | hne
      · simp
      · simp [hne, amount]
    · rw [amount_insert, hpred]

/-- A table without zero entries is not changed at a key that counts zero. -/
theorem decrement_of_zero (hpos : t.Positive) (h : t.amount k = 0) : t.decrement k = t := by
  unfold decrement
  cases hent : t.lookup k with
  | none => rfl
  | some n =>
    have hn : n.toNat = 0 := by simpa [amount, count, hent] using h
    have hzero : n = 0 := UInt64.toNat_inj.mp hn
    exact absurd (hzero ▸ hent) (hpos k)

theorem positive_empty : Positive (∅ : Counters κ) := fun k => by simp

theorem Positive.insert (hpos : t.Positive) {n : UInt64} (hn : n ≠ 0) :
    Positive (t.insert k n) := by
  intro k'
  rcases eq_or_ne k' k with rfl | hne
  · simpa using hn
  · rw [AList.lookup_insert_ne hne]
    exact hpos k'

theorem Positive.increment (hpos : t.Positive) (h : t.amount k + 1 < 2 ^ 64) :
    (t.increment k).Positive := by
  refine hpos.insert fun hzero => ?_
  have hnat := toNat_count_add_one h
  rw [hzero] at hnat
  simp at hnat

theorem Positive.decrement (hpos : t.Positive) : (t.decrement k).Positive := by
  unfold Counters.decrement
  split
  · exact hpos
  · split_ifs with hzero
    · intro k'
      rcases eq_or_ne k' k with rfl | hne
      · simp
      · rw [AList.lookup_erase_ne hne]
        exact hpos k'
    · exact hpos.insert hzero

end Counters

end RtmpCore.Support
