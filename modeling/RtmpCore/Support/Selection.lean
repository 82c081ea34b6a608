import Mathlib.Data.List.MinMax
import Mathlib.Data.List.Rotate
import Mathlib.Data.Prod.Lex

/-!
# Selecting the least entries of a list

The entries of a list with the least key, in their order.  A chain of filters
that apply only where something passes them, and a running minimum, both compute
such a selection; a lexicographic key is selected for one component after the
other.  A cursor that goes round a list meets every entry once in a turn.
-/

namespace RtmpCore.Selection

open List

variable {α κ ρ : Type*} [LinearOrder κ] [LinearOrder ρ]

/-- The entries no other entry is below. -/
def leastBy (key : α → κ) (l : List α) : List α :=
  l.filter fun x => l.all fun y => decide (key x ≤ key y)

variable {key : α → κ} {l : List α} {x : α}

theorem mem_leastBy : x ∈ leastBy key l ↔ x ∈ l ∧ ∀ y ∈ l, key x ≤ key y := by simp [leastBy]

theorem leastBy_sublist (key : α → κ) (l : List α) : (leastBy key l).Sublist l := filter_sublist

theorem leastBy_ne_nil (h : l ≠ []) : leastBy key l ≠ [] := by
  have hsome : (l.argmin key).isSome := by
    rw [← Option.ne_none_iff_isSome]
    exact fun hnone => h (argmin_eq_none.mp hnone)
  obtain ⟨least, hleast⟩ := Option.isSome_iff_exists.mp hsome
  apply ne_nil_of_mem (a := least)
  exact mem_leastBy.mpr ⟨argmin_mem hleast, fun y hy => le_of_mem_argmin hy hleast⟩

/-- A lexicographic key selects by its first component, then by its second. -/
theorem leastBy_toLex (f : α → κ) (g : α → ρ) (l : List α) :
    leastBy (fun x => toLex (f x, g x)) l = leastBy g (leastBy f l) := by
  rw [leastBy.eq_def g, leastBy.eq_def f, filter_filter]
  apply filter_congr
  intro x hx
  rw [Bool.eq_iff_iff, Bool.and_eq_true]
  simp only [all_eq_true, mem_filter, decide_eq_true_eq, Prod.Lex.toLex_le_toLex]
  constructor
  · intro hleast
    have hfst : ∀ y ∈ l, f x ≤ f y := fun y hy => (hleast y hy).elim le_of_lt fun h => h.1.le
    refine ⟨?_, hfst⟩
    rintro y ⟨hy, hyleast⟩
    rcases hleast y hy with hlt | ⟨_, hle⟩
    · exact ((hyleast x hx).not_gt hlt).elim
    · exact hle
  · rintro ⟨hsnd, hfst⟩ y hy
    rcases (hfst y hy).lt_or_eq with hlt | heq
    · exact .inl hlt
    · refine .inr ⟨heq, hsnd y ⟨hy, fun z hz => ?_⟩⟩
      exact heq ▸ hfst z hz

/-! ## Conditional filters -/

/-- Keep the entries that pass, unless none does. -/
def prefer (p : α → Bool) (l : List α) : List α := if l.any p then l.filter p else l

theorem prefer_eq_leastBy (p : α → Bool) (l : List α) : prefer p l = leastBy (fun x => !p x) l := by
  unfold prefer
  split_ifs with hany
  · obtain ⟨best, hbest, hp⟩ := any_eq_true.mp hany
    apply filter_congr
    intro x _
    rw [Bool.eq_iff_iff, all_eq_true]
    constructor
    · intro hx y _
      simp [hx]
    · intro hall
      have hle : (!p x) ≤ !p best := of_decide_eq_true (hall best hbest)
      rw [hp] at hle
      cases hpass : p x with
      | true => rfl
      | false =>
        rw [hpass] at hle
        exact absurd hle (by decide)
  · have hnone : ∀ y ∈ l, p y = false := by simpa using hany
    symm
    apply filter_eq_self.mpr
    intro x hx
    simp only [all_eq_true, decide_eq_true_eq]
    intro y hy
    rw [hnone x hx, hnone y hy]

/-! ## A running minimum -/

theorem compare_eq_ite (a b : κ) :
    compare a b = if a < b then .lt else if b < a then .gt else .eq := by
  rcases lt_trichotomy a b with hlt | rfl | hgt
  · rw [if_pos hlt, compare_lt_iff_lt.mpr hlt]
  · rw [if_neg (lt_irrefl a), if_neg (lt_irrefl a), compare_eq_iff_eq.mpr rfl]
  · rw [if_neg hgt.not_gt, if_pos hgt, compare_gt_iff_gt.mpr hgt]

/-- A smaller entry replaces what was kept, an equal one joins it. -/
def keepLeast (cmp : α → α → Ordering) (kept : List α) (x : α) : List α :=
  match kept with
  | [] => [x]
  | front :: _ =>
    match cmp x front with
    | .lt => [x]
    | .eq => kept ++ [x]
    | .gt => kept

def runningLeast (cmp : α → α → Ordering) (l : List α) : List α := l.foldl (keepLeast cmp) []

theorem leastBy_concat (key : α → κ) (l : List α) (x : α) : leastBy key (l ++ [x]) =
      (leastBy key l).filter (fun y => decide (key y ≤ key x)) ++
        if ∀ y ∈ l, key x ≤ key y then [x] else [] := by
  unfold leastBy
  rw [filter_append, filter_filter]
  congr 1
  · apply filter_congr
    intro y _
    rw [Bool.and_comm]
    simp
  · rw [filter_singleton]
    simp [all_append]

theorem keepLeast_leastBy {cmp : α → α → Ordering} (key : α → κ)
    (hcmp : ∀ y ∈ l, cmp x y = compare (key x) (key y)) :
    keepLeast cmp (leastBy key l) x = leastBy key (l ++ [x]) := by
  rw [leastBy_concat]
  cases hkept : leastBy key l with
  | nil =>
    have hnil : l = [] := not_not.mp fun h => leastBy_ne_nil h hkept
    simp [keepLeast, hnil]
  | cons front kept =>
    have hsame : ∀ y ∈ front :: kept, y ∈ l ∧ ∀ z ∈ l, key y ≤ key z := by
      rw [← hkept]
      exact fun y hy => mem_leastBy.mp hy
    obtain ⟨hfront, hleast⟩ := hsame front mem_cons_self
    have heq : ∀ y ∈ front :: kept, key y = key front := fun y hy =>
      le_antisymm ((hsame y hy).2 front hfront) (hleast y (hsame y hy).1)
    rw [keepLeast, hcmp front hfront]
    -- the front of what was kept has the least key so far
    rcases lt_trichotomy (key x) (key front) with hlt | hxeq | hgt
    · have hnone : (front :: kept).filter (fun y => decide (key y ≤ key x)) = [] := by
        apply filter_eq_nil_iff.mpr
        intro y hy
        simpa [heq y hy] using hlt
      have hbelow : ∀ y ∈ l, key x ≤ key y := fun y hy => hlt.le.trans (hleast y hy)
      rw [compare_lt_iff_lt.mpr hlt, hnone, if_pos hbelow]
      rfl
    · have hall : (front :: kept).filter (fun y => decide (key y ≤ key x)) = front :: kept := by
        apply filter_eq_self.mpr
        intro y hy
        simp [heq y hy, hxeq]
      have hbelow : ∀ y ∈ l, key x ≤ key y := fun y hy => hxeq.le.trans (hleast y hy)
      rw [compare_eq_iff_eq.mpr hxeq, hall, if_pos hbelow]
    · have hall : (front :: kept).filter (fun y => decide (key y ≤ key x)) = front :: kept := by
        apply filter_eq_self.mpr
        intro y hy
        simpa [heq y hy] using hgt.le
      have hnot : ¬∀ y ∈ l, key x ≤ key y := fun h => (h front hfront).not_gt hgt
      rw [compare_gt_iff_gt.mpr hgt, hall, if_neg hnot, append_nil]

/-- A running minimum that compares like a key keeps the entries with the least
key. -/
theorem runningLeast_eq_leastBy {cmp : α → α → Ordering} (key : α → κ) (l : List α)
    (hcmp : ∀ x ∈ l, ∀ y ∈ l, cmp x y = compare (key x) (key y)) :
    runningLeast cmp l = leastBy key l := by
  induction l using List.reverseRecOn with
  | nil => rfl
  | append_singleton front x ih =>
    have hfront := ih fun y hy z hz => hcmp y (mem_append_left _ hy) z (mem_append_left _ hz)
    rw [runningLeast, foldl_concat, ← runningLeast, hfront]
    apply keepLeast_leastBy key
    exact fun y hy => hcmp x (by simp) y (mem_append_left _ hy)

/-! ## A cursor that goes round -/

/-- As many turns of a cursor as a list is long meet every entry once. -/
theorem perm_cursor (l : List α) (cursor : ℕ) :
    ((List.range l.length).map fun turn => l[(cursor + turn) % l.length]?).Perm (l.map some) := by
  have hrotate : (List.range l.length).map (fun turn => l[(cursor + turn) % l.length]?) =
      (l.rotate cursor).map some := by
    apply ext_getElem
    · simp
    · intro turn hturn _
      simp [Nat.add_comm cursor turn]
  rw [hrotate]
  exact (l.rotate_perm cursor).map some

end RtmpCore.Selection
