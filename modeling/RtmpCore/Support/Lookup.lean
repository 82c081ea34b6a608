import Mathlib.Data.List.AList

/-!
# Tables as functions

A table is looked at through the function that looks keys up.  Inserting and
erasing are updates of that function.  A family of tables is a function of two
keys, of which one table is a row.
-/

namespace RtmpCore.Table

open List Function AList

variable {ι κ υ α : Type*}

/-- What an updated table holds is new, or was there before. -/
theorem update_eq_some [DecidableEq κ] {f : κ → Option υ} {k k' : κ} {new : Option υ} {v : υ}
    (h : update f k new k' = some v) : (k' = k ∧ new = some v) ∨ (k' ≠ k ∧ f k' = some v) := by
  by_cases hk : k' = k
  · rw [hk, update_self] at h
    exact .inl ⟨hk, h⟩
  · rw [update_of_ne hk] at h
    exact .inr ⟨hk, h⟩

section Lookup

variable [DecidableEq κ] (t : AList fun _ : κ => υ) (k : κ)

/-- The function that looks keys up in a table. -/
def find (k : κ) : Option υ := t.lookup k

theorem find_insert (v : υ) : find (t.insert k v) = update (find t) k (some v) := by
  funext k'
  rcases eq_or_ne k' k with rfl | hne
  · simp [find]
  · simp [find, hne]

theorem find_erase : find (t.erase k) = update (find t) k none := by
  funext k'
  rcases eq_or_ne k' k with rfl | hne
  · simp [find]
  · simp [find, hne]

variable {t k}

theorem lookup_foldl_insert (keys : List κ) (v : υ) :
    (keys.foldl (fun t key => t.insert key v) t).lookup k =
      if k ∈ keys then some v else t.lookup k := by
  induction keys generalizing t with
  | nil => simp
  | cons key rest ih =>
    rw [foldl_cons, ih]
    by_cases hrest : k ∈ rest
    · simp [hrest]
    · rcases eq_or_ne k key with rfl | hne
      · simp [hrest]
      · simp [hne]

theorem lookup_foldl_erase (keys : List κ) : (keys.foldl (fun t key => t.erase key) t).lookup k =
      if k ∈ keys then none else t.lookup k := by
  induction keys generalizing t with
  | nil => simp
  | cons key rest ih =>
    rw [foldl_cons, ih]
    by_cases hrest : k ∈ rest
    · simp [hrest]
    · rcases eq_or_ne k key with rfl | hne
      · simp [hrest]
      · simp [hne]

end Lookup

/-! ## Tables made of pairs -/

section Pairs

variable [DecidableEq κ] [BEq κ] [LawfulBEq κ] {t : AList fun _ : κ => υ}

omit [DecidableEq κ] in
theorem mem_of_lookup {l : List (κ × υ)} {k : κ} {v : υ} (h : l.lookup k = some v) :
    (k, v) ∈ l := by
  obtain ⟨front, back, rfl, -⟩ := lookup_eq_some_iff.mp h
  simp

omit [DecidableEq κ] in
/-- A list of pairs is looked up like anything that has the same pairs. -/
theorem lookup_eq_of_mem_iff {l : List (κ × υ)} {k : κ} {found : Option υ}
    (h : ∀ v, (k, v) ∈ l ↔ found = some v) : l.lookup k = found := by
  cases hlook : l.lookup k with
  | some v => exact ((h v).mp (mem_of_lookup hlook)).symm
  | none =>
    cases found with
    | none => rfl
    | some v =>
      have hne := lookup_eq_none_iff.mp hlook (k, v) ((h v).mpr rfl)
      simp at hne

/-- Pairs are put in where nothing stands yet: the first one counts. -/
theorem lookup_foldl_emplace (l : List (κ × υ)) (k : κ) :
    (l.foldl (fun t entry => if entry.1 ∈ t then t else t.insert entry.1 entry.2)
        t).lookup k = (t.lookup k).or (l.lookup k) := by
  induction l generalizing t with
  | nil => simp
  | cons entry rest ih =>
    rw [foldl_cons, ih, lookup_cons]
    split_ifs with hheld
    · rcases eq_or_ne k entry.1 with rfl | hne
      · obtain ⟨v, hv⟩ := Option.isSome_iff_exists.mp (lookup_isSome.mpr hheld)
        simp [hv]
      · rw [beq_false_of_ne hne]
    · rcases eq_or_ne k entry.1 with rfl | hne
      · simp [lookup_eq_none.mpr hheld]
      · rw [beq_false_of_ne hne, lookup_insert_ne hne]

/-- Pairs are put in whatever stands there: the last one counts. -/
theorem lookup_foldl_insert_pairs (l : List (κ × υ)) (k : κ) :
    (l.foldl (fun t entry => t.insert entry.1 entry.2) t).lookup k =
      (l.reverse.lookup k).or (t.lookup k) := by
  induction l generalizing t with
  | nil => simp
  | cons entry rest ih =>
    rw [foldl_cons, ih, reverse_cons, lookup_append, lookup_cons]
    rcases eq_or_ne k entry.1 with rfl | hne
    · simp
    · simp [beq_false_of_ne hne, lookup_insert_ne hne]

end Pairs

section Row

variable [DecidableEq ι]

/-- The family with one row replaced. -/
def setRow (f : ι × κ → α) (i : ι) (row : κ → α) (key : ι × κ) : α :=
  if key.1 = i then row key.2 else f key

theorem setRow_self (f : ι × κ → α) (i : ι) : setRow f i (fun k => f (i, k)) = f := by
  funext ⟨i', k⟩
  by_cases h : i' = i
  · simp [setRow, h]
  · simp [setRow, h]

theorem setRow_update [DecidableEq κ] (f : ι × κ → α) (i : ι) (k : κ) (a : α) :
    setRow f i (update (fun k => f (i, k)) k a) = update f (i, k) a := by
  funext ⟨i', k'⟩
  by_cases hi : i' = i
  · by_cases hk : k' = k <;> simp [setRow, hi, hk]
  · simp [setRow, hi]

end Row

end RtmpCore.Table
