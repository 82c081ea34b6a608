import RtmpCore.Media.SpsSyntax

/-!
# Picture sizes are exact where they fit

The parsers add the two ends of a cropping window in 32 bits, and keep 32 bits of
the size that is left.  What they report is congruent to the exact size, so it is
exact if that size is positive and has 32 bits.  The check of the window is made
with the wrapped sum and does not see to this.
-/

namespace RtmpCore.Media

open Bitstream Bitstream.BitReader

namespace Axis

variable (axis : Axis)

def size : ℤ := axis.coded - axis.unit * (axis.before + axis.after)

/-- The size can be reported. -/
def Fits : Prop := 0 < axis.size ∧ axis.size < 2 ^ 32

/-- What is cropped, with the sum of the ends in 32 bits. -/
def cropped : ℕ := axis.unit * ((axis.before + axis.after) % 2 ^ 32)

/-- The parser finds that something is left. -/
def Passes : Prop := axis.cropped < axis.coded

def reported : UInt32 := UInt32.ofNat (axis.coded - axis.cropped)

/-- What is reported is the exact size, and it is positive and has 32 bits. -/
def Exact (value : UInt32) : Prop := (value.toNat : ℤ) = axis.size ∧ axis.Fits

theorem reported_emod {axis : Axis} (h : axis.Passes) :
    (axis.reported.toNat : ℤ) = axis.size % 2 ^ 32 := by
  generalize hleft : (axis.before + axis.after) % 2 ^ 32 = left
  generalize hwraps : (axis.before + axis.after) / 2 ^ 32 = wraps
  have hsum : (axis.before + axis.after : ℤ) = left + 2 ^ 32 * wraps := by
    have hdiv := Nat.mod_add_div (axis.before + axis.after) (2 ^ 32)
    rw [hleft, hwraps] at hdiv
    exact_mod_cast hdiv.symm
  -- every time that the sum wraps, the size is off by a multiple of `2 ^ 32`
  have hsize : axis.size = (axis.coded - axis.cropped : ℕ) - 2 ^ 32 * (axis.unit * wraps : ℤ) := by
    rw [size, hsum, Nat.cast_sub h.le, cropped, hleft]
    push_cast
    ring
  rw [hsize, Int.sub_mul_emod_self_left]
  rfl

theorem exact_reported {axis : Axis} (h : axis.Passes) : axis.Exact axis.reported ↔ axis.Fits := by
  constructor
  · exact And.right
  · intro hfits
    refine ⟨?_, hfits⟩
    rw [reported_emod h]
    exact Int.emod_eq_of_lt hfits.1.le hfits.2

end Axis

namespace Picture

/-- Where the parser finds that something is left along both axes, the size that is
left fits. -/
def Honest (picture : Picture) : Prop :=
  picture.horizontal.Passes → picture.vertical.Passes →
    picture.horizontal.Fits ∧ picture.vertical.Fits

def Exact (picture : Picture) (dimensions : VideoDimensions) : Prop :=
  picture.horizontal.Exact dimensions.width ∧ picture.vertical.Exact dimensions.height

/-- What a parser reports of a picture. -/
def Reports (picture : Picture) (dimensions : VideoDimensions) : Prop :=
  picture.horizontal.Passes ∧ picture.vertical.Passes ∧
    dimensions = ⟨picture.horizontal.reported, picture.vertical.reported⟩

theorem exact_iff_honest {found : Option Picture} {result : Except Core.Error VideoDimensions}
    (h : ∀ dims, result = .ok dims ↔ ∃ pic ∈ found, pic.Reports dims) :
    (∀ dims, result = .ok dims → ∃ pic ∈ found, pic.Exact dims) ↔ ∀ pic ∈ found, pic.Honest := by
  constructor
  · intro hexact pic hpic hwidth hht
    have hreported := (h _).mpr ⟨pic, hpic, hwidth, hht, rfl⟩
    obtain ⟨same, hsame, hexact⟩ := hexact _ hreported
    cases Option.mem_unique hpic hsame
    exact ⟨hexact.1.2, hexact.2.2⟩
  · intro hhonest dims hres
    obtain ⟨pic, hpic, hwidth, hht, rfl⟩ := (h dims).mp hres
    obtain ⟨hfitsWidth, hfitsHeight⟩ := hhonest pic hpic hwidth hht
    exact ⟨pic, hpic, (Axis.exact_reported hwidth).mpr hfitsWidth,
      (Axis.exact_reported hht).mpr hfitsHeight⟩

theorem reports_iff (pic : Picture) (error : Core.Error) (dims : VideoDimensions) :
    (if pic.horizontal.coded ≤ pic.horizontal.cropped ∨
        pic.vertical.coded ≤ pic.vertical.cropped then .error error
      else .ok ⟨pic.horizontal.reported, pic.vertical.reported⟩ :
        Except Core.Error VideoDimensions) = .ok dims ↔
      pic.Reports dims := by
  unfold Reports Axis.Passes
  split_ifs with hwhole
  · refine ⟨nofun, fun h => ?_⟩
    omega
  · rw [not_or, not_le, not_le] at hwhole
    constructor
    · intro h
      cases h
      exact ⟨hwhole.1, hwhole.2, rfl⟩
    · rintro ⟨-, -, rfl⟩
      rfl

end Picture

theorem ite_subWidthC (chroma : UInt32) :
    (if chroma = 1 ∨ chroma = 2 then 2 else 1) = subWidthC chroma.toNat := by
  have hone : chroma = 1 ↔ chroma.toNat = 1 := UInt32.toNat_inj.symm
  have htwo : chroma = 2 ↔ chroma.toNat = 2 := UInt32.toNat_inj.symm
  simp only [subWidthC, hone, htwo]

theorem ite_subHeightC (chroma : UInt32) :
    (if chroma = 1 then 2 else 1) = subHeightC chroma.toNat := by
  have hone : chroma = 1 ↔ chroma.toNat = 1 := UInt32.toNat_inj.symm
  simp only [subHeightC, hone]

/-- A parser that reads a buffer from its start, looks at the flag, and reports. -/
theorem finish_ok_iff {γ : Type} {R : γ → Picture → Prop} {m : StateM BitReader γ}
    {p : Syntax Picture} (h : Reads R m p) {finish : γ → Except Core.Error VideoDimensions}
    (hfinish : ∀ geometry pic, R geometry pic → ∀ dims,
      finish geometry = .ok dims ↔ pic.Reports dims)
    {data : Bytes} {geometry : γ} {reader : BitReader}
    (hrun : m.run { data } = (geometry, reader)) (mistyped : Prop) [Decidable mistyped]
    (refused truncated : Core.Error) (dims : VideoDimensions) :
    (if mistyped then .error refused
      else if reader.overrun then .error truncated else finish geometry) = .ok dims ↔
      ∃ pic ∈ (if mistyped then none else (p.run (bitsOf data)).map Prod.fst),
        pic.Reports dims := by
  by_cases htype : mistyped
  · rw [if_pos htype, if_pos htype]
    exact ⟨nofun, fun ⟨_, hnone, _⟩ => nomatch hnone⟩
  rw [if_neg htype, if_neg htype]
  cases hread : p.run (bitsOf data) with
  | none =>
    have hoverrun := h.stops { data } rfl hread
    rw [hrun] at hoverrun
    rw [hoverrun]
    exact ⟨nofun, fun ⟨_, hnone, _⟩ => nomatch hnone⟩
  | some found =>
    obtain ⟨hdown, -, hval⟩ := h.agrees { data } rfl found.1 found.2 hread
    rw [hrun] at hdown hval
    rw [hdown, if_neg Bool.false_ne_true, hfinish _ _ hval]
    simp

/-! ## H.264 -/

namespace H264

/-- The picture that a NAL unit describes, if it is a parameter set that can be
read. -/
def pictureOf : Bytes → Option Picture
  | [] => none
  | header :: rest =>
    if header &&& 0x1F ≠ nalTypeSps then none
    else (Syntax.H264.picture.run (bitsOf (unescapeRbsp rest))).map Prod.fst

theorem dimensions_ok_iff (geometry : PictureGeometry) (dims : VideoDimensions) :
    geometry.dimensions = .ok dims ↔ geometry.picture.Reports dims := by
  rw [← Picture.reports_iff geometry.picture
    (malformed "H.264 SPS cropping window exceeds the coded picture")]
  unfold PictureGeometry.dimensions
  simp only [ite_subWidthC, ite_subHeightC]
  rfl

theorem parseSpsDimensions_ok_iff (nal : Bytes) (dims : VideoDimensions) :
    parseSpsDimensions nal = .ok dims ↔ ∃ pic ∈ pictureOf nal, pic.Reports dims := by
  cases nal with
  | nil => exact ⟨nofun, fun ⟨_, h, _⟩ => nomatch h⟩
  | cons header rest =>
    unfold parseSpsDimensions pictureOf
    dsimp only
    cases hrun : readGeometry.run { data := unescapeRbsp rest } with
    | mk geometry reader =>
      refine finish_ok_iff reads_geometry ?_ hrun _ _ _ dims
      rintro geometry _ rfl dims
      exact dimensions_ok_iff geometry dims

end H264

/-! ## HEVC -/

namespace Hevc

/-- The picture that a NAL unit describes, if it is a parameter set that can be
read. -/
def pictureOf : Bytes → Option Picture
  | header :: _ :: rest =>
    if (header >>> 1) &&& 0x3F ≠ nalTypeSps then none
    else (Syntax.Hevc.picture.run (bitsOf (unescapeRbsp rest))).map Prod.fst
  | _ => none

theorem dimensions_ok_iff (geometry : PictureGeometry) (dims : VideoDimensions) :
    geometry.dimensions = .ok dims ↔ geometry.picture.Reports dims := by
  unfold PictureGeometry.dimensions
  by_cases hzero : geometry.codedWidth = 0 ∨ geometry.codedHeight = 0
  · rw [if_pos hzero]
    refine ⟨nofun, fun h => ?_⟩
    have hwidth : geometry.codedWidth.toNat ≠ 0 := Nat.ne_zero_of_lt h.1
    have hht : geometry.codedHeight.toNat ≠ 0 := Nat.ne_zero_of_lt h.2.1
    rcases hzero with hzero | hzero
    · exact absurd (congrArg UInt32.toNat hzero) hwidth
    · exact absurd (congrArg UInt32.toNat hzero) hht
  · rw [if_neg hzero, ← Picture.reports_iff geometry.picture
      (malformed "HEVC SPS conformance window exceeds the coded picture")]
    simp only [ite_subWidthC, ite_subHeightC]
    rfl

theorem parseSpsDimensions_ok_iff (nal : Bytes) (dims : VideoDimensions) :
    parseSpsDimensions nal = .ok dims ↔ ∃ pic ∈ pictureOf nal, pic.Reports dims := by
  match nal with
  | [] | [_] => exact ⟨nofun, fun ⟨_, h, _⟩ => nomatch h⟩
  | header :: second :: rest =>
    unfold parseSpsDimensions pictureOf
    dsimp only
    cases hrun : readGeometry.run { data := unescapeRbsp rest } with
    | mk geometry reader =>
      refine finish_ok_iff reads_geometry ?_ hrun _ _ _ dims
      rintro geometry _ rfl dims
      exact dimensions_ok_iff geometry dims

end Hevc

/-! ## Sizes -/

/-- For every byte string: if a parser accepts it, the size that is reported is the
size of the picture it describes, positive and of 32 bits, exactly if such a size
is left wherever the wrapped windows pass the check.  What cannot be read is
refused. -/
theorem sps_dimensions_exact_iff (nal : List UInt8) :
    ((∀ dimensions, H264.parseSpsDimensions nal = .ok dimensions →
        ∃ picture ∈ H264.pictureOf nal, picture.Exact dimensions) ↔
      ∀ picture ∈ H264.pictureOf nal, picture.Honest) ∧
    ((∀ dimensions, Hevc.parseSpsDimensions nal = .ok dimensions →
        ∃ picture ∈ Hevc.pictureOf nal, picture.Exact dimensions) ↔
      ∀ picture ∈ Hevc.pictureOf nal, picture.Honest) :=
  ⟨Picture.exact_iff_honest (H264.parseSpsDimensions_ok_iff nal),
    Picture.exact_iff_honest (Hevc.parseSpsDimensions_ok_iff nal)⟩

/-- A parameter set of H.264 that is `2 ^ 28` macroblocks wide. -/
def wideSps : Bytes :=
  [0x67, 0x42, 0x00, 0x1E, 0xF8, 0x00, 0x00, 0x00, 0x20, 0x00, 0x00, 0x01, 0xC0]

/-- A parameter set of HEVC for 15 by 15 samples that crops `2 ^ 31` of them at
either end of a line. -/
def croppedSps : Bytes :=
  [0x42, 0x01, 0x00, 0xFF, 0xFF, 0xFF, 0xFF, 0xFF, 0xFF, 0xFF, 0xFF, 0xFF, 0xFF, 0xFF,
    0xFF, 0xC2, 0x01, 0x08, 0x00, 0x00, 0x00, 0x08, 0x00, 0x00, 0x00, 0x10, 0x00, 0x00,
    0x00, 0x10, 0x00, 0x00, 0x00, 0x38]

/-- The first is reported with the width 0, the second as if nothing were cropped. -/
theorem sps_dimensions_wrap : H264.parseSpsDimensions wideSps = .ok ⟨0, 16⟩ ∧
      (H264.pictureOf wideSps).map (fun picture => picture.horizontal.size) = some (2 ^ 32) ∧
      Hevc.parseSpsDimensions croppedSps = .ok ⟨15, 15⟩ ∧
      (Hevc.pictureOf croppedSps).map (fun picture => picture.horizontal.size) =
        some (15 - 2 ^ 32) := by
  decide +kernel

end RtmpCore.Media
