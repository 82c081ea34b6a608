import Mathlib.Data.Finmap
import Mathlib.Algebra.Order.BigOperators.Group.List
import Mathlib.Algebra.Order.Ring.Nat

/-!
# Weighted totals over finite tables

A resource counter kept beside a table is correct when it equals the sum of a
weight over the table's entries.  The lemmas say how that sum and the number of
entries change under the table operations, and bound the sum when each entry's
weight is bounded.
-/

namespace RtmpCore.Table

open List AList

variable {κ υ : Type*}

/-- The sum of a weight over the entries of a table. -/
def total (weight : υ → ℕ) (t : AList fun _ : κ => υ) : ℕ := (t.entries.map fun e => weight e.2).sum

section Lookup

variable [DecidableEq κ] (weight : υ → ℕ) {t : AList fun _ : κ => υ} {k : κ} {v old : υ}

theorem total_erase (h : t.lookup k = some old) :
    weight old + total weight (t.erase k) = total weight t := by
  have hmem : k ∈ t.entries.keys := by
    rw [← AList.keys, ← AList.mem_keys, ← lookup_isSome, h]
    rfl
  obtain ⟨b, l₁, l₂, hnot, hents, herase⟩ := exists_of_kerase hmem
  have hb : b = old := by
    have hlook : t.entries.dlookup k = some old := h
    rw [hents, dlookup_append, dlookup_eq_none.mpr hnot] at hlook
    simpa using hlook
  subst hb
  have hsum : total weight (t.erase k) = ((l₁ ++ l₂).map fun e => weight e.2).sum := by
    rw [← herase]
    rfl
  rw [hsum, total, hents]
  simp only [map_append, map_cons, sum_append, sum_cons]
  omega

theorem total_insert_erase (t : AList fun _ : κ => υ) (k : κ) (v : υ) :
    total weight (t.insert k v) = weight v + total weight (t.erase k) := by
  simp [total, AList.erase]

theorem total_insert_new (h : t.lookup k = none) :
    total weight (t.insert k v) = weight v + total weight t := by
  rw [total, entries_insert_of_notMem (lookup_eq_none.mp h)]
  rfl

theorem total_insert_old (h : t.lookup k = some old) :
    total weight (t.insert k v) + weight old = weight v + total weight t := by
  rw [total_insert_erase, ← total_erase weight h]
  omega

theorem weight_le_total (h : t.lookup k = some old) : weight old ≤ total weight t := by
  rw [← total_erase weight h]
  omega

variable {weight} in
theorem total_le_of_forall {bound : ℕ} (h : ∀ k v, t.lookup k = some v → weight v ≤ bound) :
    total weight t ≤ t.keys.length * bound := by
  have hsum := sum_le_card_nsmul (t.entries.map fun e => weight e.2) bound (by
      intro n hn
      obtain ⟨e, he, rfl⟩ := mem_map.mp hn
      exact h e.1 e.2 (mem_lookup_iff.mpr he))
  simpa [total, AList.keys, List.keys] using hsum

theorem length_keys_insert_new (h : t.lookup k = none) :
    (t.insert k v).keys.length = t.keys.length + 1 := by
  have hnot : k ∉ t.keys := fun hk => lookup_eq_none.mp h hk
  simp [erase_of_not_mem hnot]

theorem length_keys_insert_old (h : t.lookup k = some old) :
    (t.insert k v).keys.length = t.keys.length := by
  have hmem : k ∈ t.keys := by
    rw [← AList.mem_keys, ← lookup_isSome, h]
    rfl
  have hpos : 0 < t.keys.length := length_pos_of_mem hmem
  rw [keys_insert, length_cons, length_erase_of_mem hmem]
  omega

theorem length_keys_erase (h : t.lookup k = some old) :
    (t.erase k).keys.length = t.keys.length - 1 := by
  have hmem : k ∈ t.keys := by
    rw [← AList.mem_keys, ← lookup_isSome, h]
    rfl
  rw [keys_erase, length_erase_of_mem hmem]

/-- A property of all entries is kept by storing an entry that has it. -/
theorem forall_lookup_insert {P : κ → υ → Prop}
    (h : ∀ k' v', t.lookup k' = some v' → P k' v') (hv : P k v) :
    ∀ k' v', (t.insert k v).lookup k' = some v' → P k' v' := by
  intro k' v' hlook
  by_cases hk : k' = k
  · subst hk
    rw [lookup_insert] at hlook
    cases hlook
    exact hv
  · rw [lookup_insert_ne hk] at hlook
    exact h k' v' hlook

theorem entries_subperm {t' : AList fun _ : κ => υ}
    (h : ∀ k v, t.lookup k = some v → t'.lookup k = some v) : t.entries.Subperm t'.entries := by
  refine subperm_of_subset t.nodupKeys.nodup ?_
  intro e he
  exact mem_lookup_iff.mp (h e.1 e.2 (mem_lookup_iff.mpr he))

variable {weight} in
theorem total_le_total {t' : AList fun _ : κ => υ}
    (h : ∀ k v, t.lookup k = some v → t'.lookup k = some v) : total weight t ≤ total weight t' := by
  obtain ⟨l, hperm, hsub⟩ := entries_subperm h
  unfold total
  rw [← (hperm.map _).sum_eq]
  exact (hsub.map _).sum_le_sum (fun _ _ => Nat.zero_le _)

theorem length_keys_le {t' : AList fun _ : κ => υ}
    (h : ∀ k v, t.lookup k = some v → t'.lookup k = some v) : t.keys.length ≤ t'.keys.length := by
  simpa [AList.keys, List.keys] using (entries_subperm h).length_le

end Lookup

end RtmpCore.Table
