import Mathlib.Data.List.DropRight

/-!
# Searching and cutting lists

The operations a parser of text makes on its input: the place of the first
occurrence of a pattern, the parts before and after the first occurrence of an
element, and the removal of what surrounds a word.
-/

namespace RtmpCore.Text

open List Option

variable {α : Type*}

def unlines (sep : α) (ls : List (List α)) : List α := ls.flatMap (· ++ [sep])

@[simp] theorem unlines_cons (sep : α) (line : List α) (ls : List (List α)) :
    unlines sep (line :: ls) = line ++ sep :: unlines sep ls := by
  simp [unlines]

theorem unlines_append (sep : α) (ls ls' : List (List α)) :
    unlines sep (ls ++ ls') = unlines sep ls ++ unlines sep ls' :=
  flatMap_append

section Find

variable [DecidableEq α]

/-- The place of the first occurrence of a pattern. -/
def find (pattern : List α) : List α → Option ℕ
  | [] => if pattern = [] then some 0 else none
  | a :: rest =>
    if pattern.isPrefixOf (a :: rest) then some 0
    else (find pattern rest).map (· + 1)

/-- The place of the last occurrence of a pattern. -/
def rfind (pattern text : List α) : Option ℕ :=
  (find pattern.reverse text.reverse).map (text.length - pattern.length - ·)

variable {place count : ℕ}

variable {pattern text line front : List α} {a sep : α}

/-- What stands before, at and after the place that was found. -/
theorem find_eq_some (h : find pattern text = some place) :
    text = text.take place ++ pattern ++ text.drop (place + pattern.length) := by
  induction text generalizing place with
  | nil =>
    simp only [find] at h
    split at h
    next hemp => simp [hemp]
    · cases h
  | cons a rest ih =>
    simp only [find] at h
    split at h
    next hstarts =>
      obtain rfl : 0 = place := by simpa using h
      obtain ⟨suffix, hsuf⟩ := isPrefixOf_iff_prefix.mp hstarts
      rw [← hsuf]
      simp
    · obtain ⟨before, hbef, rfl⟩ := map_eq_some_iff.mp h
      have hsucc : before + 1 + pattern.length = (before + pattern.length) + 1 := by omega
      rw [hsucc]
      simpa using ih hbef

theorem add_length_le_of_find (h : find pattern text = some place) :
    place + pattern.length ≤ text.length := by
  induction text generalizing place with
  | nil =>
    simp only [find] at h
    split at h
    next hemp =>
      obtain rfl : 0 = place := by simpa using h
      simp [hemp]
    · cases h
  | cons a rest ih =>
    simp only [find] at h
    split at h
    next hstarts =>
      obtain rfl : 0 = place := by simpa using h
      simpa using (List.isPrefixOf_iff_prefix.mp hstarts).length_le
    · obtain ⟨before, hbef, rfl⟩ := map_eq_some_iff.mp h
      have hle := ih hbef
      rw [length_cons]
      omega

theorem find_eq_zero (h : pattern <+: text) : find pattern text = some 0 := by
  cases text with
  | nil => simp [find, prefix_nil.mp h]
  | cons a rest => rw [find, if_pos (List.isPrefixOf_iff_prefix.mpr h)]

/-- What was found is found at the same place in a longer text. -/
theorem find_append (h : find pattern text = some place) (more : List α) :
    find pattern (text ++ more) = some place := by
  induction text generalizing place with
  | nil =>
    simp only [find] at h
    split at h
    next hemp =>
      subst hemp
      cases more with
      | nil | cons => simpa [find] using h
    · cases h
  | cons a rest ih =>
    simp only [find] at h
    rw [cons_append, find]
    split at h
    next hstarts =>
      have hlong : pattern <+: a :: (rest ++ more) :=
        (List.isPrefixOf_iff_prefix.mp hstarts).trans (prefix_append (a :: rest) more)
      rw [if_pos (List.isPrefixOf_iff_prefix.mpr hlong)]
      exact h
    next hstarts =>
      obtain ⟨before, hbef, rfl⟩ := map_eq_some_iff.mp h
      rw [ih hbef]
      -- what stands later in the text leaves room for the pattern here
      have hroom := add_length_le_of_find hbef
      have hnot : ¬ pattern.isPrefixOf (a :: (rest ++ more)) = true := by
        intro hlong
        apply hstarts
        have hfront : a :: rest <+: a :: (rest ++ more) := prefix_append (a :: rest) more
        refine isPrefixOf_iff_prefix.mpr (prefix_of_prefix_length_le
            (List.isPrefixOf_iff_prefix.mp hlong) hfront ?_)
        rw [length_cons]
        omega
      rw [if_neg hnot]
      rfl

/-- What was found is found in every front part that holds it. -/
theorem find_take (h : find pattern text = some place) (hcnt : place + pattern.length ≤ count) :
    find pattern (text.take count) = some place := by
  induction text generalizing place count with
  | nil => simpa using h
  | cons a rest ih =>
    simp only [find] at h
    split at h
    next hstarts =>
      obtain rfl : 0 = place := by simpa using h
      obtain ⟨suffix, hsuf⟩ := isPrefixOf_iff_prefix.mp hstarts
      have hfront : pattern <+: (a :: rest).take count := by
        rw [← hsuf, take_append]
        rw [take_of_length_le (by omega)]
        exact prefix_append _ _
      exact find_eq_zero hfront
    next hstarts =>
      obtain ⟨before, hbef, rfl⟩ := map_eq_some_iff.mp h
      obtain ⟨fewer, rfl⟩ : ∃ fewer, count = fewer + 1 := ⟨count - 1, by omega⟩
      have hnot : ¬ pattern.isPrefixOf (a :: rest.take fewer) = true := by
        intro hfront
        apply hstarts
        refine isPrefixOf_iff_prefix.mpr ((List.isPrefixOf_iff_prefix.mp hfront).trans ?_)
        exact take_prefix (fewer + 1) (a :: rest)
      rw [take_succ_cons, find, if_neg hnot, ih hbef (by omega)]
      rfl

/-- Nothing is found in a text that is too short to reach to its end. -/
theorem find_take_eq_none
    (h : find pattern text = some place) (hcnt : count < place + pattern.length) :
    find pattern (text.take count) = none := by
  by_contra hfound
  obtain ⟨earlier, hearl⟩ := ne_none_iff_exists'.mp hfound
  have hsame := find_append hearl (text.drop count)
  rw [take_append_drop, h] at hsame
  have hroom := add_length_le_of_find hearl
  rw [length_take] at hroom
  cases hsame
  omega

/-- Every occurrence of a pattern is replaced, from the front.  The number bounds
the replacements. -/
def replaceAll (pattern replacement : List α) : ℕ → List α → List α
  | 0, text => text
  | rounds + 1, text =>
    match find pattern text with
    | none => text
    | some place =>
      text.take place ++ replacement ++ replaceAll pattern replacement rounds
          (text.drop (place + pattern.length))

theorem replaceAll_front (pattern replacement text : List α) (rounds : ℕ) :
    replaceAll pattern replacement (rounds + 1) (pattern ++ text) =
      replacement ++ replaceAll pattern replacement rounds text := by
  rw [replaceAll, find_eq_zero (prefix_append pattern text)]
  simp

theorem replaceAll_cons {replacement : List α} {rounds : ℕ} (h : ¬ pattern <+: a :: text) :
    replaceAll pattern replacement rounds (a :: text) =
      a :: replaceAll pattern replacement rounds text := by
  cases rounds with
  | zero => rfl
  | succ rounds =>
    have hnot : ¬ pattern.isPrefixOf (a :: text) = true := mt isPrefixOf_iff_prefix.mp h
    rw [replaceAll, replaceAll, find, if_neg hnot]
    cases find pattern text with
    | none => rfl
    | some place =>
      have hsucc : place + 1 + pattern.length = (place + pattern.length) + 1 := by omega
      simp only [map_some, hsucc, take_succ_cons, drop_succ_cons, cons_append]

/-- The parts before and after the first occurrence of an element. -/
def cut (a : α) (text : List α) : Option (List α × List α) :=
  if a ∈ text then some (text.takeWhile (· ≠ a), (text.dropWhile (· ≠ a)).tail)
  else none

/-- The lines of a text.  A text that does not end with a separator has a last
line without one. -/
def lines (sep : α) : List α → List (List α)
  | [] => []
  | a :: rest =>
    if a = sep then [] :: lines sep rest
    else
      match lines sep rest with
      | [] => [[a]]
      | line :: more => (a :: line) :: more

theorem lines_append (h : sep ∉ line) (rest : List α) :
    lines sep (line ++ sep :: rest) = line :: lines sep rest := by
  induction line with
  | nil => simp [lines]
  | cons a line ih =>
    obtain ⟨hne, hrest⟩ := not_or.mp (mt mem_cons.mpr h)
    rw [cons_append, lines, if_neg (Ne.symm hne), ih hrest]

/-- Lines without a separator are read back. -/
theorem lines_unlines {ls : List (List α)} (h : ∀ line ∈ ls, sep ∉ line) :
    lines sep (unlines sep ls) = ls := by
  induction ls with
  | nil => rfl
  | cons line ls ih =>
    rw [unlines_cons, lines_append (h line (by simp)),
      ih fun line hline => h line (mem_cons_of_mem _ hline)]

theorem notMem_of_mem_lines (h : line ∈ lines sep text) : sep ∉ line := by
  induction text generalizing line with
  | nil => cases h
  | cons a rest ih =>
    rw [lines] at h
    by_cases hsep : a = sep
    · rw [if_pos hsep] at h
      rcases mem_cons.mp h with rfl | hrest
      · exact not_mem_nil
      · exact ih hrest
    · rw [if_neg hsep] at h
      have hjoin : ∀ front : List α, sep ∉ front → sep ∉ a :: front :=
        fun front hfront hmem => (mem_cons.mp hmem).elim (fun heq => hsep heq.symm) hfront
      cases hlines : lines sep rest with
      | nil =>
        rw [hlines] at h
        rw [mem_singleton.mp h]
        exact hjoin [] not_mem_nil
      | cons first more =>
        rw [hlines] at h ih
        rcases mem_cons.mp h with rfl | hmore
        · exact hjoin first (ih mem_cons_self)
        · exact ih (mem_cons_of_mem _ hmore)

theorem cut_append (h : a ∉ front) (back : List α) :
    cut a (front ++ a :: back) = some (front, back) := by
  have hfront : ∀ b ∈ front, decide (b ≠ a) = true := fun b hb =>
    decide_eq_true fun heq => h (heq ▸ hb)
  rw [cut, takeWhile_append_of_pos hfront, dropWhile_append_of_pos hfront]
  simp

/-- The parts that are cut are parts of the text, and the first has not the
element at which it was cut. -/
theorem cut_eq_some {back : List α} (h : cut a text = some (front, back)) :
    front ++ a :: back = text ∧ a ∉ front := by
  unfold cut at h
  split_ifs at h with hmem
  cases h
  constructor
  · have hne : text.dropWhile (· ≠ a) ≠ [] := by
      intro hnil
      simpa using dropWhile_eq_nil_iff.mp hnil a hmem
    have hhead : (text.dropWhile (· ≠ a)).head hne = a := by
      simpa using head_dropWhile_not (· ≠ a) hne
    have hback : a :: (text.dropWhile (· ≠ a)).tail = text.dropWhile (· ≠ a) := by
      nth_rewrite 1 [← hhead]
      exact cons_head_tail hne
    rw [hback, takeWhile_append_dropWhile]
  · intro hfront
    simpa using mem_takeWhile_imp hfront

end Find

variable (blank : α → Bool) (text : List α)

/-- A word without the blanks around it. -/
def trim : List α := (text.dropWhile blank).rdropWhile blank

theorem trim_eq_self {blank : α → Bool} {text : List α}
    (h : ∀ a ∈ text, blank a = false) : trim blank text = text := by
  have hfront : text.dropWhile blank = text := by
    cases text with
    | nil => rfl
    | cons a rest => simp [h a (by simp)]
  rw [trim, hfront, rdropWhile_eq_self_iff]
  intro hne
  simp [h _ (getLast_mem hne)]

/-- Blanks may be dropped in front before a word is trimmed. -/
theorem trim_dropWhile {blank front : α → Bool}
    (h : ∀ a, front a = true → blank a = true) (text : List α) :
    trim blank (text.dropWhile front) = trim blank text := by
  induction text with
  | nil => rfl
  | cons a rest ih =>
    rw [dropWhile_cons]
    split
    next hfront => rw [ih, trim, trim, dropWhile_cons_of_pos (h a hfront)]
    · rfl

theorem isInfix_trim : trim blank text <:+: text :=
  (List.rdropWhile_prefix blank _).isInfix.trans (dropWhile_suffix blank).isInfix

theorem trim_trim : trim blank (trim blank text) = trim blank text := by
  have hfront : (trim blank text).dropWhile blank = trim blank text := by
    obtain ⟨back, hback⟩ := rdropWhile_prefix blank (text.dropWhile blank)
    have hsame := dropWhile_idempotent blank text
    rw [← trim] at hback
    rw [← hback] at hsame
    cases hword : trim blank text with
    | nil => rfl
    | cons a rest =>
      rw [hword, dropWhile_eq_self_iff] at hsame
      rw [dropWhile_eq_self_iff]
      intro _
      exact hsame (by simp)
  rw [trim, hfront]
  exact rdropWhile_idempotent blank _

theorem rdropWhile_append_blank {blank : α → Bool} {back : List α}
    (h : ∀ a ∈ back, blank a = true) (text : List α) :
    (text ++ back).rdropWhile blank = text.rdropWhile blank := by
  induction back using List.reverseRecOn with
  | nil => rw [append_nil]
  | append_singleton back a ih =>
    rw [← append_assoc, rdropWhile_concat_pos blank _ a (h a (by simp))]
    exact ih fun b hb => h b (mem_append_left _ hb)

theorem trim_surround {blank : α → Bool} {front back : List α}
    (hfront : ∀ a ∈ front, blank a = true) (hback : ∀ a ∈ back, blank a = true)
    (text : List α) : trim blank (front ++ (text ++ back)) = trim blank text := by
  rw [trim, dropWhile_append_of_pos hfront, dropWhile_append]
  split_ifs with hemp
  · have hnil : back.dropWhile blank = [] := dropWhile_eq_nil_iff.mpr hback
    rw [hnil, trim, isEmpty_iff.mp hemp]
  · exact rdropWhile_append_blank hback _

end RtmpCore.Text
