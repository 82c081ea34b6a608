import Mathlib.Algebra.Order.BigOperators.Group.List
import RtmpCore.Http.Message

/-!
# The lines of a response head

The writer of response heads puts every header on a line of its own and escapes
nothing.  A head has no line breaks but the terminators of its lines exactly if no
text in it breaks a line.
-/

namespace RtmpCore.Http

open RtmpCore.Core List

/-- A text without a line break. -/
def SingleLine (text : Bytes) : Prop := 0x0D ∉ text ∧ 0x0A ∉ text
deriving Decidable

@[simp] theorem singleLine_nil : SingleLine [] := by decide

@[simp] theorem singleLine_append (text more : Bytes) :
    SingleLine (text ++ more) ↔ SingleLine text ∧ SingleLine more := by
  simp only [SingleLine, mem_append, not_or]
  exact and_and_and_comm

theorem singleLine_cons (b : UInt8) (text : Bytes) :
    SingleLine (b :: text) ↔ (b ≠ 0x0D ∧ b ≠ 0x0A) ∧ SingleLine text := by
  simp only [SingleLine, mem_cons, not_or, ne_comm (a := b)]
  exact and_and_and_comm

theorem singleLine_iff_forall {text : Bytes} :
    SingleLine text ↔ ∀ b ∈ text, b ≠ 0x0D ∧ b ≠ 0x0A := by
  constructor
  · rintro ⟨hcr, hlf⟩ b hb
    exact ⟨fun h => hcr (h ▸ hb), fun h => hlf (h ▸ hb)⟩
  · intro hall
    exact ⟨fun h => (hall _ h).1 rfl, fun h => (hall _ h).2 rfl⟩

/-- The carriage returns and line feeds of a text. -/
def breaks (text : Bytes) : ℕ := text.countP fun b => b = 0x0D ∨ b = 0x0A

theorem breaks_eq_zero {text : Bytes} : breaks text = 0 ↔ SingleLine text := by
  simp [breaks, singleLine_iff_forall]

theorem breaks_lines (lines : List Bytes) : breaks (lines.flatMap (· ++ crlf) ++ crlf) =
    (lines.map breaks).sum + 2 * (lines.length + 1) := by
  have hcrlf : crlf.countP (fun b => b = 0x0D ∨ b = 0x0A) = 2 := by decide
  induction lines with
  | nil => exact hcrlf
  | cons line rest ih =>
    rw [flatMap_cons, append_assoc, breaks, countP_append, countP_append, hcrlf]
    rw [breaks] at ih
    rw [ih, map_cons, sum_cons, length_cons, breaks]
    omega

@[simp] theorem singleLine_decimalText (n : ℕ) : SingleLine (decimalText n) := by
  refine singleLine_iff_forall.mpr fun b hb => ?_
  have hdigit := isDigit_of_mem_decimalText hb
  constructor <;>
  · rintro rfl
    revert hdigit
    decide

namespace HttpResponse

variable (response : HttpResponse) (keepAlive : Bool)

/-- The lines that are meant to stand in the head. -/
def headLines : List Bytes :=
  ("HTTP/1.1 " ++ decimalText response.status ++ [space] ++
      textBytes (reasonPhrase response.status)) ::
    ("Content-Type" ++ ": " ++ response.contentType) ::
    (if response.headers.any (·.1 = "Content-Length") then []
      else ["Content-Length" ++ ": " ++ decimalText response.payloadSize]) ++
    ("Connection" ++ ": " ++ textBytes (if keepAlive then "keep-alive" else "close")) ::
    response.headers.map fun (name, value) => name ++ ": " ++ value

/-- The head is its lines with their terminators, and one terminator more. -/
theorem serializeResponseHead_eq : serializeResponseHead response keepAlive =
    (response.headLines keepAlive).flatMap (· ++ crlf) ++ crlf := by
  unfold serializeResponseHead headLines
  split <;> simp [headerLine, flatMap_map]

/-- The bytes of the head have no carriage return and no line feed but those of the
terminators. -/
def WellFramed : Prop := breaks (serializeResponseHead response keepAlive) =
  2 * ((response.headLines keepAlive).length + 1)
deriving Decidable

theorem wellFramed_iff_lines : response.WellFramed keepAlive ↔
    ∀ line ∈ response.headLines keepAlive, SingleLine line := by
  rw [WellFramed, serializeResponseHead_eq, breaks_lines, Nat.add_eq_right,
    sum_eq_zero_iff, forall_mem_map]
  simp only [breaks_eq_zero]

/-- The texts of a head that its writer takes over as they are. -/
def texts : List Bytes :=
  response.contentType :: response.headers.flatMap fun (name, value) => [name, value]

theorem singleLine_reasonPhrase (status : ℕ) : SingleLine (textBytes (reasonPhrase status)) := by
  unfold reasonPhrase
  split <;> first | decide | (split <;> decide)

theorem wellFramed_iff :
    response.WellFramed keepAlive ↔ ∀ text ∈ response.texts, SingleLine text := by
  have hver : SingleLine "HTTP/1.1 " := by decide
  have hspace : SingleLine [space] := by decide
  have hcolon : SingleLine ": " := by decide
  have htype : SingleLine "Content-Type" := by decide
  have hlen : SingleLine "Content-Length" := by decide
  have hconn : SingleLine "Connection" := by decide
  have hkeep : SingleLine (textBytes (if keepAlive then "keep-alive" else "close")) := by
    cases keepAlive <;> decide
  have hstat := singleLine_reasonPhrase response.status
  have hfields : (∀ line ∈ response.headers.map fun (name, value) =>
        name ++ ": " ++ value, SingleLine line) ↔
      ∀ text ∈ response.headers.flatMap fun (name, value) => [name, value], SingleLine text := by
    simp only [forall_mem_map, mem_flatMap, forall_exists_index, and_imp]
    constructor
    · intro hall text field hfld htext
      have hline := hall field hfld
      simp only [singleLine_append] at hline
      simp only [mem_cons, not_mem_nil, or_false] at htext
      rcases htext with rfl | rfl
      · exact hline.1.1
      · exact hline.2
    · intro hall field hfld
      simp only [singleLine_append]
      exact ⟨⟨hall _ field hfld (by simp), hcolon⟩, hall _ field hfld (by simp)⟩
  rw [wellFramed_iff_lines]
  unfold headLines texts
  split <;>
    simp only [cons_append, nil_append, forall_mem_cons,
      singleLine_append, singleLine_decimalText, hver, hspace, hcolon, htype,
      hlen, hconn, hkeep, hstat, hfields, true_and]

end HttpResponse

end RtmpCore.Http
