import RtmpCore.Media.BitSyntax
import RtmpCore.Media.Hevc

/-!
# The picture that a parameter set describes

The elements of a sequence parameter set and the picture they describe, in numbers
without a bound: along each axis a coded size and a cropping window.  The parsers
read the same elements, and give up exactly where these cannot be read.
-/

namespace RtmpCore.Media

open Bitstream Bitstream.BitReader Reading

/-- A picture along one axis: its coded size, and how many units are cropped at
either end. -/
structure Axis where
  coded : ℕ
  unit : ℕ
  before : ℕ := 0
  after : ℕ := 0
deriving DecidableEq

structure Picture where
  horizontal : Axis
  vertical : Axis
deriving DecidableEq

/-- How many luma samples a chroma sample covers along either axis. -/
def subWidthC (chromaFormatIdc : ℕ) : ℕ :=
  if chromaFormatIdc = 1 ∨ chromaFormatIdc = 2 then 2 else 1

def subHeightC (chromaFormatIdc : ℕ) : ℕ := if chromaFormatIdc = 1 then 2 else 1

namespace Syntax

/-- A picture and the window that is cropped from it, if there is one. -/
def window (cropped : ℕ → ℕ → ℕ → ℕ → Picture) : Syntax Picture := do
  if ← bit then
    let left ← ue
    let right ← ue
    let top ← ue
    let bottom ← ue
    return cropped left right top bottom
  else return cropped 0 0 0 0

/-! ## H.264 -/

namespace H264

/-- A scaling list of which `size` entries are left. -/
def scalingList (lastScale nextScale : ℤ) : ℕ → Syntax Unit
  | 0 => return
  | size + 1 => do
      let delta ← if nextScale ≠ 0 then se else pure 0
      let next := if nextScale ≠ 0 then (lastScale + delta + 256).tmod 256 else 0
      scalingList (if next = 0 then lastScale else next) next size

/-- The scaling lists from the `i`-th on, `count` of them. -/
def scalingLists (i : ℕ) : ℕ → Syntax Unit
  | 0 => return
  | count + 1 => do
      if ← bit then scalingList 8 8 (if i < 6 then 16 else 64)
      scalingLists (i + 1) count

def chromaFormat (profileIdc : UInt32) : Syntax ℕ := do
  if !H264.hasChromaBlock profileIdc then return 1
  let chromaFormatIdc ← ue
  if chromaFormatIdc = 3 then skip 1
  let _ ← ue
  let _ ← ue
  skip 1
  if ← bit then scalingLists 0 (if chromaFormatIdc ≠ 3 then 8 else 12)
  return chromaFormatIdc

def signed : ℕ → Syntax Unit
  | 0 => return
  | count + 1 => do
      let _ ← se
      signed count

/-- No more offsets are read than a parameter set may have. -/
def picOrderCnt : Syntax Unit := do
  let picOrderCntType ← ue
  if picOrderCntType = 0 then let _ ← ue
  else if picOrderCntType = 1 then
    skip 1
    let _ ← se
    let _ ← se
    let cycleLength ← ue
    signed (min cycleLength 256)

/-- The coded size in macroblocks, and the window. -/
def size (chromaFormatIdc : ℕ) : Syntax Picture := do
  let widthInMbsMinus1 ← ue
  let heightInMapUnitsMinus1 ← ue
  let frameMbsOnly ← bit
  if !frameMbsOnly then skip 1
  skip 1
  let fields := if frameMbsOnly then 1 else 2
  window fun left right top bottom => {
    horizontal := {
      coded := (widthInMbsMinus1 + 1) * 16
      unit := subWidthC chromaFormatIdc
      before := left
      after := right }
    vertical := {
      coded := (heightInMapUnitsMinus1 + 1) * 16 * fields
      unit := subHeightC chromaFormatIdc * fields
      before := top
      after := bottom } }

def picture : Syntax Picture := do
  let profileIdc ← u 8
  skip 8
  skip 8
  let _ ← ue
  let chromaFormatIdc ← chromaFormat (UInt32.ofNat profileIdc)
  let _ ← ue
  picOrderCnt
  let _ ← ue
  skip 1
  size chromaFormatIdc

end H264

/-! ## HEVC -/

namespace Hevc

def presence : ℕ → Syntax (List (Bool × Bool))
  | 0 => return []
  | count + 1 => do
      let profile ← bit
      let level ← bit
      let rest ← presence count
      return (profile, level) :: rest

def subLayers : List (Bool × Bool) → Syntax Unit
  | [] => return
  | (profile, level) :: rest => do
      skip (if profile then 88 else 0)
      skip (if level then 8 else 0)
      subLayers rest

def profileTierLevel (maxSubLayersMinus1 : ℕ) : Syntax Unit := do
  skip 8
  skip 32
  skip 48
  skip 8
  let present ← presence maxSubLayersMinus1
  skip (if 0 < maxSubLayersMinus1 then 2 * (8 - maxSubLayersMinus1) else 0)
  subLayers present

def picture : Syntax Picture := do
  skip 4
  let maxSubLayersMinus1 ← u 3
  skip 1
  profileTierLevel maxSubLayersMinus1
  let _ ← ue
  let chromaFormatIdc ← ue
  skip (if chromaFormatIdc = 3 then 1 else 0)
  let codedWidth ← ue
  let codedHeight ← ue
  window fun left right top bottom => {
    horizontal := {
      coded := codedWidth
      unit := subWidthC chromaFormatIdc
      before := left
      after := right }
    vertical := {
      coded := codedHeight
      unit := subHeightC chromaFormatIdc
      before := top
      after := bottom } }

end Hevc

end Syntax

/-! ## The parser of H.264 -/

/-- The end of a parameter set in either parser: with the four sizes of a window, or
without. -/
def readWindow {γ : Type} (plain : γ) (crop : UInt32 → UInt32 → UInt32 → UInt32 → γ) :
    StateM BitReader γ := do
  if ← flag then
    let left ← ue
    let right ← ue
    let top ← ue
    let bottom ← ue
    return crop left right top bottom
  else return plain

instance lasting_readWindow {γ : Type} (plain : γ)
    (crop : UInt32 → UInt32 → UInt32 → UInt32 → γ) : Lasting (readWindow plain crop) := by
  unfold readWindow
  infer_instance

theorem reads_window {γ : Type} {R : γ → Picture → Prop} {plain : γ}
    {crop : UInt32 → UInt32 → UInt32 → UInt32 → γ} {cropped : ℕ → ℕ → ℕ → ℕ → Picture}
    (hplain : R plain (cropped 0 0 0 0))
    (hcrop : ∀ left right top bottom, R (crop left right top bottom)
      (cropped left.toNat right.toNat top.toNat bottom.toNat)) :
    Reads R (readWindow plain crop) (Syntax.window cropped) := by
  refine reads_flag.bind ?_
  rintro given _ rfl
  refine .ite Iff.rfl ?_ (.pure hplain)
  refine reads_ue.bind fun left l hleft => reads_ue.bind fun right r hright => ?_
  refine reads_ue.bind fun top t htop => reads_ue.bind fun bottom b hbottom => .pure ?_
  have hcropped := hcrop left right top bottom
  rwa [hleft.1, hright.1, htop.1, hbottom.1] at hcropped

theorem toNat_add_one {a : UInt32} {n : ℕ} (h : Code a n) : (a + 1).toNat = n + 1 := by
  obtain ⟨hval, hn⟩ := h
  rw [UInt32.toNat_add, hval]
  exact Nat.mod_eq_of_lt hn

namespace H264

instance lasting_skipScalingList (size : ℕ) (lastScale nextScale : ℤ) :
    Lasting (skipScalingList lastScale nextScale size) := by
  induction size generalizing lastScale nextScale with
  | zero => exact .pure ()
  | succ size ih =>
    unfold skipScalingList
    dsimp only
    infer_instance

theorem reads_skipScalingList (size : ℕ) (lastScale nextScale : ℤ) :
    Reads Eq (skipScalingList lastScale nextScale size)
      (Syntax.H264.scalingList lastScale nextScale size) := by
  induction size generalizing lastScale nextScale with
  | zero => exact .pure rfl
  | succ size ih =>
    have hzero : Reads Eq (pure (0 : ℤ)) (pure 0) := .pure rfl
    refine .get_bind fun reader hdown => ?_
    rw [if_neg (by simp [hdown])]
    apply Refines.ite Iff.rfl
    · refine reads_se.bind ?_
      rintro delta _ rfl
      exact ih _ _
    · refine hzero.bind ?_
      rintro delta _ rfl
      exact ih _ _

instance lasting_skipScalingLists (count i : ℕ) : Lasting (skipScalingLists i count) := by
  induction count generalizing i with
  | zero => exact .pure ()
  | succ count ih =>
    unfold skipScalingLists
    dsimp only
    infer_instance

theorem reads_skipScalingLists (count i : ℕ) :
    Reads Eq (skipScalingLists i count) (Syntax.H264.scalingLists i count) := by
  induction count generalizing i with
  | zero => exact .pure rfl
  | succ count ih =>
    refine .get_bind fun reader hdown => ?_
    rw [if_neg (by simp [hdown])]
    refine reads_flag.bind ?_
    rintro given _ rfl
    exact .ite Iff.rfl ((reads_skipScalingList _ 8 8).bind fun _ _ _ => ih (i + 1)) (ih (i + 1))

set_option synthInstance.maxSize 1000 in
instance lasting_chromaFormat (profileIdc : UInt32) : Lasting (chromaFormat profileIdc) := by
  unfold chromaFormat
  dsimp only
  infer_instance

set_option synthInstance.maxSize 1000 in
theorem reads_chromaFormat (profileIdc : UInt32) :
    Reads Stands (chromaFormat profileIdc) (Syntax.H264.chromaFormat profileIdc) := by
  refine .ite Iff.rfl (.pure rfl) ?_
  refine reads_ue.bind fun format n hformat => ?_
  have hthree : format = 3 ↔ n = 3 := hformat.1.eq_iff (by rfl)
  have hlists : (if format ≠ 3 then 8 else 12) = if n ≠ 3 then 8 else 12 := by
    simp only [ne_eq, hthree]
  have hrest : Reads Stands (do
        let _ ← ue
        let _ ← ue
        skip 1
        if ← flag then
          skipScalingLists 0 (if format ≠ 3 then 8 else 12)
          return format
        else return format)
      (do
        let _ ← Syntax.ue
        let _ ← Syntax.ue
        Syntax.skip 1
        if ← Syntax.bit then
          Syntax.H264.scalingLists 0 (if n ≠ 3 then 8 else 12)
          return n
        else return n) := by
    refine reads_ue.bind fun _ _ _ => reads_ue.bind fun _ _ _ => ?_
    refine (reads_skip 1).bind fun _ _ _ => reads_flag.bind ?_
    rintro given _ rfl
    rw [hlists]
    refine .ite Iff.rfl ?_ (.pure hformat.1)
    exact (reads_skipScalingLists _ 0).bind fun _ _ _ => .pure hformat.1
  exact .ite hthree ((reads_skip 1).bind fun _ _ _ => hrest) hrest

instance lasting_skipSigned (count : ℕ) : Lasting (skipSigned count) := by
  induction count with
  | zero => exact .pure ()
  | succ count ih =>
    unfold skipSigned
    infer_instance

theorem reads_skipSigned (count : ℕ) : Reads Eq (skipSigned count) (Syntax.H264.signed count) := by
  induction count with
  | zero => exact .pure rfl
  | succ count ih =>
    refine .get_bind fun reader hdown => ?_
    rw [if_neg (by simp [hdown])]
    exact reads_se.bind fun _ _ _ => ih

instance lasting_skipPicOrderCnt : Lasting skipPicOrderCnt := by
  unfold skipPicOrderCnt
  infer_instance

theorem reads_skipPicOrderCnt : Reads Eq skipPicOrderCnt Syntax.H264.picOrderCnt := by
  refine reads_ue.bind fun type n htype => ?_
  refine .ite (htype.1.eq_iff (by rfl)) (reads_ue.bind fun _ _ _ => .pure rfl) ?_
  refine .ite (htype.1.eq_iff (by rfl)) ?_ (.pure rfl)
  refine (reads_skip 1).bind fun _ _ _ => reads_se.bind fun _ _ _ => ?_
  refine reads_se.bind fun _ _ _ => reads_ue.bind fun cycle length hcycle => ?_
  have hlen : cycle.toNat = length := hcycle.1
  rw [hlen]
  exact reads_skipSigned _

/-- The picture that a geometry describes, with the window it crops. -/
def PictureGeometry.picture (g : PictureGeometry) : Picture :=
  let fields := if g.frameMbsOnly then 1 else 2
  { horizontal := {
      coded := g.widthInMbs.toNat * 16
      unit := subWidthC g.chromaFormatIdc.toNat
      before := g.cropLeft.toNat
      after := g.cropRight.toNat }
    vertical := {
      coded := g.heightInMapUnits.toNat * 16 * fields
      unit := subHeightC g.chromaFormatIdc.toNat * fields
      before := g.cropTop.toNat
      after := g.cropBottom.toNat } }

/-- A geometry describes a picture. -/
def Describes (geometry : PictureGeometry) (picture : Picture) : Prop := geometry.picture = picture

/-- The second half of the parser. -/
def readSize (chroma : UInt32) : StateM BitReader PictureGeometry := do
  let width ← ue
  let height ← ue
  let frameMbsOnly ← flag
  if !frameMbsOnly then skip 1
  skip 1
  readWindow ⟨chroma, width + 1, height + 1, frameMbsOnly, 0, 0, 0, 0⟩
    (PictureGeometry.mk chroma (width + 1) (height + 1) frameMbsOnly)

set_option synthInstance.maxSize 1000 in
instance lasting_readSize (chroma : UInt32) : Lasting (readSize chroma) := by
  unfold readSize
  dsimp only
  infer_instance

set_option synthInstance.maxSize 1000 in
theorem reads_size {chroma : UInt32} {n : ℕ} (hchr : Stands chroma n) :
    Reads Describes (readSize chroma) (Syntax.H264.size n) := by
  unfold readSize Syntax.H264.size
  refine reads_ue.bind fun width w hwidth => reads_ue.bind fun height h hht => ?_
  refine reads_flag.bind ?_
  rintro frameMbsOnly _ rfl
  obtain rfl : chroma.toNat = n := hchr
  rw [← toNat_add_one hwidth, ← toNat_add_one hht]
  refine .ite Iff.rfl ?_ ?_
  · refine (reads_skip 1).bind fun _ _ _ => (reads_skip 1).bind fun _ _ _ => ?_
    exact reads_window rfl fun _ _ _ _ => rfl
  · refine (reads_skip 1).bind fun _ _ _ => ?_
    exact reads_window rfl fun _ _ _ _ => rfl

theorem readGeometry_eq : readGeometry = (do
      let profileIdc ← u 8
      skip 8
      skip 8
      let _ ← ue
      let chroma ← chromaFormat profileIdc
      let _ ← ue
      skipPicOrderCnt
      let _ ← ue
      skip 1
      readSize chroma) := rfl

set_option synthInstance.maxSize 1000 in
theorem reads_geometry : Reads Describes readGeometry Syntax.H264.picture := by
  rw [readGeometry_eq]
  refine (reads_u (by decide)).bind fun profileIdc profile hprofile => ?_
  obtain rfl : UInt32.ofNat profile = profileIdc := by rw [← hprofile.1, UInt32.ofNat_toNat]
  refine (reads_skip 8).bind fun _ _ _ => (reads_skip 8).bind fun _ _ _ => ?_
  refine reads_ue.bind fun _ _ _ => (reads_chromaFormat _).bind fun chroma c hchr => ?_
  refine reads_ue.bind fun _ _ _ => reads_skipPicOrderCnt.bind fun _ _ _ => ?_
  refine reads_ue.bind fun _ _ _ => (reads_skip 1).bind fun _ _ _ => ?_
  exact reads_size hchr

end H264

/-! ## The parser of HEVC -/

namespace Hevc

instance lasting_readPresence (count : ℕ) : Lasting (readPresence count) := by
  induction count with
  | zero => exact .pure []
  | succ count ih =>
    unfold readPresence
    infer_instance

theorem reads_readPresence (count : ℕ) :
    Reads Eq (readPresence count) (Syntax.Hevc.presence count) := by
  induction count with
  | zero => exact .pure rfl
  | succ count ih =>
    refine reads_flag.bind ?_
    rintro profile _ rfl
    refine reads_flag.bind ?_
    rintro level _ rfl
    refine ih.bind ?_
    rintro rest _ rfl
    exact .pure rfl

instance lasting_skipSubLayers (present : List (Bool × Bool)) :
    Lasting (skipSubLayers present) := by
  induction present with
  | nil => exact .pure ()
  | cons layer rest ih =>
    unfold skipSubLayers
    infer_instance

theorem reads_skipSubLayers (present : List (Bool × Bool)) :
    Reads Eq (skipSubLayers present) (Syntax.Hevc.subLayers present) := by
  induction present with
  | nil => exact .pure rfl
  | cons layer rest ih =>
    refine .get_bind fun reader hdown => ?_
    rw [if_neg (by simp [hdown])]
    exact (reads_skip _).bind fun _ _ _ => (reads_skip _).bind fun _ _ _ => ih

set_option synthInstance.maxSize 1000 in
instance lasting_skipProfileTierLevel (count : ℕ) : Lasting (skipProfileTierLevel count) := by
  unfold skipProfileTierLevel
  infer_instance

theorem reads_skipProfileTierLevel (count : ℕ) :
    Reads Eq (skipProfileTierLevel count) (Syntax.Hevc.profileTierLevel count) := by
  refine (reads_skip 8).bind fun _ _ _ => (reads_skip 32).bind fun _ _ _ => ?_
  refine (reads_skip 48).bind fun _ _ _ => (reads_skip 8).bind fun _ _ _ => ?_
  refine (reads_readPresence count).bind ?_
  rintro present _ rfl
  exact (reads_skip _).bind fun _ _ _ => reads_skipSubLayers present

/-- The picture that a geometry describes, with the window it crops. -/
def PictureGeometry.picture (g : PictureGeometry) : Picture where
  horizontal := {
    coded := g.codedWidth.toNat
    unit := subWidthC g.chromaFormatIdc.toNat
    before := g.winLeft.toNat
    after := g.winRight.toNat }
  vertical := {
    coded := g.codedHeight.toNat
    unit := subHeightC g.chromaFormatIdc.toNat
    before := g.winTop.toNat
    after := g.winBottom.toNat }

/-- A geometry describes a picture. -/
def Describes (geometry : PictureGeometry) (picture : Picture) : Prop := geometry.picture = picture

set_option synthInstance.maxSize 1000 in
theorem reads_geometry : Reads Describes readGeometry Syntax.Hevc.picture := by
  refine (reads_skip 4).bind fun _ _ _ => (reads_u (by decide)).bind fun layers l hlayers => ?_
  obtain rfl : layers.toNat = l := hlayers.1
  refine (reads_skip 1).bind fun _ _ _ => (reads_skipProfileTierLevel _).bind fun _ _ _ => ?_
  refine reads_ue.bind fun _ _ _ => reads_ue.bind fun chroma c hchr => ?_
  have hthree : chroma = 3 ↔ c = 3 := hchr.1.eq_iff (by rfl)
  simp only [hthree]
  refine (reads_skip _).bind fun _ _ _ => ?_
  refine reads_ue.bind fun width w hwidth => reads_ue.bind fun height h hht => ?_
  obtain ⟨⟨rfl, -⟩, ⟨rfl, -⟩, ⟨rfl, -⟩⟩ := hchr, hwidth, hht
  exact reads_window rfl fun _ _ _ _ => rfl

end Hevc

end RtmpCore.Media
