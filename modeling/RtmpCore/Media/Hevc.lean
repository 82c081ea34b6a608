import RtmpCore.Media.H264

/-!
# The picture size of HEVC

The size is read from a sequence parameter set, as it is for H.264.  The header of
the NAL unit has two bytes, and the size is given in luma samples.
-/

namespace RtmpCore.Media.Hevc

open RtmpCore.Core Bitstream

def nalTypeSps : UInt8 := 33

/-- Whether a profile and a level are given, for each of so many sub-layers. -/
def readPresence : ℕ → StateM BitReader (List (Bool × Bool))
  | 0 => return []
  | count + 1 => do
      let profile ← BitReader.flag
      let level ← BitReader.flag
      let rest ← readPresence count
      return (profile, level) :: rest

/-- Read over the profiles and levels that are given. -/
def skipSubLayers : List (Bool × Bool) → StateM BitReader Unit
  | [] => return
  | (profile, level) :: rest => do
      let reader ← get
      if reader.overrun then return
      BitReader.skip (if profile then 88 else 0)
      BitReader.skip (if level then 8 else 0)
      skipSubLayers rest

def skipProfileTierLevel (maxSubLayersMinus1 : ℕ) : StateM BitReader Unit := do
  BitReader.skip 8
  BitReader.skip 32
  BitReader.skip 48
  BitReader.skip 8
  let presence ← readPresence maxSubLayersMinus1
  -- two reserved bits for each sub-layer that is missing
  BitReader.skip (if 0 < maxSubLayersMinus1 then 2 * (8 - maxSubLayersMinus1) else 0)
  skipSubLayers presence

/-- The fields of a sequence parameter set that decide the picture size. -/
structure PictureGeometry where
  chromaFormatIdc : UInt32
  codedWidth : UInt32
  codedHeight : UInt32
  winLeft : UInt32 := 0
  winRight : UInt32 := 0
  winTop : UInt32 := 0
  winBottom : UInt32 := 0
deriving DecidableEq

def readGeometry : StateM BitReader PictureGeometry := do
  BitReader.skip 4
  let maxSubLayersMinus1 ← BitReader.u 3
  BitReader.skip 1
  skipProfileTierLevel maxSubLayersMinus1.toNat
  let _ ← BitReader.ue
  let chromaFormatIdc ← BitReader.ue
  BitReader.skip (if chromaFormatIdc = 3 then 1 else 0)
  let codedWidth ← BitReader.ue
  let codedHeight ← BitReader.ue
  let geometry : PictureGeometry := { chromaFormatIdc, codedWidth, codedHeight }
  if ← BitReader.flag then
    let winLeft ← BitReader.ue
    let winRight ← BitReader.ue
    let winTop ← BitReader.ue
    let winBottom ← BitReader.ue
    return { geometry with winLeft, winRight, winTop, winBottom }
  else return geometry

/-- The coded size less the conformance window. -/
def PictureGeometry.dimensions (geometry : PictureGeometry) : Except Error VideoDimensions :=
  if geometry.codedWidth = 0 ∨ geometry.codedHeight = 0 then
    .error (malformed "HEVC SPS declares a zero-sized picture")
  else
    let subWidthC := if geometry.chromaFormatIdc = 1 ∨ geometry.chromaFormatIdc = 2 then 2 else 1
    let subHeightC := if geometry.chromaFormatIdc = 1 then 2 else 1
    let codedWidth := geometry.codedWidth.toNat
    let codedHeight := geometry.codedHeight.toNat
    let croppedX := subWidthC * (geometry.winLeft + geometry.winRight).toNat
    let croppedY := subHeightC * (geometry.winTop + geometry.winBottom).toNat
    if codedWidth ≤ croppedX ∨ codedHeight ≤ croppedY then
      .error (malformed "HEVC SPS conformance window exceeds the coded picture")
    else
      .ok {
        width := UInt32.ofNat (codedWidth - croppedX)
        height := UInt32.ofNat (codedHeight - croppedY) }

def parseSpsDimensions : Bytes → Except Error VideoDimensions
  | header :: _ :: rest =>
    if (header >>> 1) &&& 0x3F ≠ nalTypeSps then .error (malformed "NAL unit is not an HEVC SPS")
    else
      let (geometry, reader) := readGeometry.run { data := unescapeRbsp rest }
      if reader.overrun then .error (malformed "truncated HEVC SPS")
      else geometry.dimensions
  | _ => .error (malformed "empty or truncated HEVC SPS NAL")

end RtmpCore.Media.Hevc
