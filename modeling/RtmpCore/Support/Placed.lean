import Mathlib.Tactic.Common

/-!
# Lists standing inside a buffer

A reader that walks over a buffer with a cursor is verified against the layout
of the buffer: which piece stands at which offset.  `Placed data offset x` says
that `x` stands in `data` from `offset` on.  A placed concatenation is two
placed pieces, so a layout is taken apart piece by piece in the order in which
the reader advances.
-/

namespace RtmpCore

variable {α : Type*}

/-- The list `x` stands in `data` from `offset` on. -/
def Placed (data : List α) (offset : ℕ) (x : List α) : Prop :=
  ∃ before after, data = before ++ (x ++ after) ∧ before.length = offset

namespace Placed

variable {data x y : List α} {offset : ℕ}

theorem start (x after : List α) : Placed (x ++ after) 0 x := ⟨[], after, rfl, rfl⟩

theorem left (h : Placed data offset (x ++ y)) : Placed data offset x := by
  obtain ⟨before, after, rfl, hbef⟩ := h
  exact ⟨before, y ++ after, by simp, hbef⟩

theorem right (h : Placed data offset (x ++ y)) : Placed data (offset + x.length) y := by
  obtain ⟨before, after, rfl, rfl⟩ := h
  exact ⟨before ++ x, after, by simp, by simp⟩

theorem head {a : α} (h : Placed data offset (a :: x)) : Placed data offset [a] := left (x := [a]) h

theorem tail {a : α} (h : Placed data offset (a :: x)) : Placed data (offset + 1) x :=
  right (x := [a]) h

theorem add_length_le (h : Placed data offset x) : offset + x.length ≤ data.length := by
  obtain ⟨before, after, rfl, rfl⟩ := h
  simp only [List.length_append]
  omega

theorem getElem?_eq {a : α} (h : Placed data offset [a]) : data[offset]? = some a := by
  obtain ⟨before, after, rfl, rfl⟩ := h
  simp

theorem take_drop (h : Placed data offset x) : (data.drop offset).take x.length = x := by
  obtain ⟨before, after, rfl, rfl⟩ := h
  simp

end Placed

end RtmpCore
