import Mathlib.Tactic.Common

/-!
# Writing at an offset

The content of a file under positioned writes.  A write replaces what stands at
its offset and extends the file when it reaches past the end; a gap between the
end and the offset reads as the filler.  A write of nothing does nothing.  A
write that is cut into pieces, each continuing where the last one stopped, has
the effect of the whole write.
-/

namespace RtmpCore

open List

variable {α : Type*} {filler : α} {content : List α} {offset : ℕ}

/-- The part of a file before an offset, padded up to the offset. -/
def padded (filler : α) (content : List α) (offset : ℕ) : List α :=
  (content ++ List.replicate (offset - content.length) filler).take offset

/-- The content after `data` has been written at `offset`. -/
def overwrite (filler : α) (content : List α) (offset : ℕ) (data : List α) : List α :=
  if data.isEmpty then content
  else padded filler content offset ++ (data ++ content.drop (offset + data.length))

@[simp] theorem length_padded : (padded filler content offset).length = offset := by
  simp only [padded, length_take, length_append, length_replicate]
  omega

theorem padded_of_le (h : offset ≤ content.length) :
    padded filler content offset = content.take offset := by
  rw [padded, Nat.sub_eq_zero_of_le h, replicate_zero, append_nil]

theorem padded_append_left {front rest : List α} :
    padded filler (front ++ rest) front.length = front := by
  rw [padded_of_le (by simp), take_left]

@[simp] theorem overwrite_nil : overwrite filler content offset [] = content := rfl

theorem overwrite_of_ne_nil {data : List α} (h : data ≠ []) : overwrite filler content offset data =
      padded filler content offset ++ (data ++ content.drop (offset + data.length)) := by
  rw [overwrite, if_neg (by simpa using h)]

/-- A write continued where the last one stopped. -/
theorem overwrite_overwrite (x y : List α) :
    overwrite filler (overwrite filler content offset x) (offset + x.length) y =
      overwrite filler content offset (x ++ y) := by
  rcases eq_or_ne x [] with rfl | hx
  · rw [overwrite_nil, length_nil, Nat.add_zero, nil_append]
  rcases eq_or_ne y [] with rfl | hy
  · rw [overwrite_nil, append_nil]
  have hfront : offset + x.length = (padded filler content offset ++ x).length := by simp
  have hcont : overwrite filler content offset x = (padded filler content offset ++ x) ++
        content.drop (offset + x.length) := by
    rw [overwrite_of_ne_nil hx, append_assoc]
  rw [hcont]
  conv_lhs => rw [overwrite_of_ne_nil hy, hfront, padded_append_left]
  rw [drop_append, drop_eq_nil_of_le (by omega), nil_append,
    Nat.add_sub_cancel_left, ← hfront, drop_drop,
    overwrite_of_ne_nil (append_ne_nil_of_left_ne_nil hx y), length_append, Nat.add_assoc]
  simp only [append_assoc]

theorem overwrite_at_end (data : List α) :
    overwrite filler content content.length data = content ++ data := by
  rcases eq_or_ne data [] with rfl | hdata
  · rw [overwrite_nil, append_nil]
  · rw [overwrite_of_ne_nil hdata, padded_of_le (Nat.le_refl _),
      take_length, drop_eq_nil_of_le (by omega), append_nil]

theorem overwrite_middle {before old data after : List α}
    (hlen : old.length = data.length) (hoff : before.length = offset) :
    overwrite filler (before ++ (old ++ after)) offset data = before ++ (data ++ after) := by
  subst hoff
  rcases eq_or_ne data [] with rfl | hdata
  · rw [overwrite_nil, eq_nil_of_length_eq_zero hlen]
  · rw [overwrite_of_ne_nil hdata, padded_append_left, ← hlen,
      ← length_append, ← append_assoc before old, drop_left]

end RtmpCore
