import RtmpCore.Core.Error
import RtmpCore.Media.Bitstream

/-!
# H.264 in FLV video payloads

A video payload has a header of five bytes: frame type and codec, packet type
and composition time.  The body is either a decoder configuration record, with
the sequence and picture parameter sets, or a sample of length-prefixed NAL
units.  The picture size is read from the first sequence parameter set.
-/

namespace RtmpCore.Media

structure VideoDimensions where
  width : UInt32 := 0
  height : UInt32 := 0
deriving DecidableEq

def VideoDimensions.valid (dimensions : VideoDimensions) : Bool :=
  decide (dimensions.width > 0) && decide (dimensions.height > 0)

/-- Every parser of media payloads reports its errors in this form. -/
def malformed (what : String) : Core.Error where
  code := .malformedChunk
  category := .protocol
  message := what

namespace H264

open RtmpCore.Core Media.Bitstream

def frameTypeKey : UInt8 := 1
def codecIdAvc : UInt8 := 7

def avcPacketTypeSequenceHeader : UInt8 := 0
def avcPacketTypeNalu : UInt8 := 1

def nalTypeSps : UInt8 := 7

structure AvcDecoderConfig where
  naluLengthSize : UInt8 := 4
  sps : List Bytes := []
  pps : List Bytes := []
deriving DecidableEq

def AvcDecoderConfig.valid (config : AvcDecoderConfig) : Bool :=
  !config.sps.isEmpty && !config.pps.isEmpty

structure VideoTag where
  isKeyframe : Bool
  avcPacketType : UInt8
  compositionTimeMs : ℤ
  body : Bytes
deriving DecidableEq

/-- The composition time is a signed field of 24 bits. -/
def signExtend24 (value : UInt32) : ℤ :=
  if value &&& 0x00800000 = 0 then value.toNat else value.toNat - 2 ^ 24

def parseVideoTag : Bytes → Except Error VideoTag
  | header :: packetType :: c₀ :: c₁ :: c₂ :: body =>
    if header &&& 0x0F ≠ codecIdAvc then
      .error (malformed
        "unsupported FLV video codec id (HLS passthrough requires AVC/H.264)")
    else
      .ok {
        isKeyframe := (header >>> 4) &&& 0x0F = frameTypeKey
        avcPacketType := packetType
        compositionTimeMs := signExtend24 (readU24Be c₀ c₁ c₂)
        body }
  | _ => .error (malformed "FLV video payload shorter than 5 bytes")

/-- Read `count` parameter sets from an offset, each with a length of two bytes
before it, and the offset after them. -/
def readParameterSets (name : String) (record : Bytes) (offset : ℕ) :
    ℕ → Except Error (List Bytes × ℕ)
  | 0 => .ok ([], offset)
  | count + 1 => do
      if offset + 2 > record.length then throw (malformed ("truncated " ++ name ++ " length"))
      let len := (readU16BeAt record offset).toNat
      if offset + 2 + len > record.length then
        throw (malformed (name ++ " runs past end of record"))
      let set := (record.drop (offset + 2)).take len
      let (sets, offset') ← readParameterSets name record (offset + 2 + len) count
      return (set :: sets, offset')

def parseDecoderConfig (record : Bytes) : Except Error AvcDecoderConfig := do
  if record.length < 6 then throw (malformed "AVCDecoderConfigurationRecord too short")
  let spsCount := (byteAt record 5 &&& 0x1F).toNat
  let (sps, offset) ← readParameterSets "SPS" record 6 spsCount
  if record.length ≤ offset then throw (malformed "missing PPS count")
  let ppsCount := (byteAt record offset).toNat
  let (pps, _) ← readParameterSets "PPS" record (offset + 1) ppsCount
  let config : AvcDecoderConfig := {
    naluLengthSize := (byteAt record 4 &&& 0x03) + 1
    sps
    pps }
  if config.valid then return config
  else throw (malformed "AVC config carries no SPS/PPS")

/-! ## Annex B -/

def startCode : Bytes := [0, 0, 0, 1]

/-- The NAL units of a sample with start codes for length fields.  Those that
are written for every sample or keyframe anyway are left out. -/
def annexbUnits (lengthSize : ℕ) (parameterSets : Bool) : ℕ → Bytes → Except Error Bytes
  | _, [] | 0, _ => .ok []
  | rounds + 1, sample =>
    let length := (sample.take lengthSize).foldl (fun n b => n * 256 + b.toNat) 0
    let unit := (sample.drop lengthSize).take length
    let nalType := byteAt unit 0 &&& 0x1F
    if sample.length < lengthSize then .error (malformed "truncated AVCC NAL length prefix")
    else if sample.length < lengthSize + length then
      .error (malformed "AVCC NAL runs past end of sample")
    else do
      let others ← annexbUnits lengthSize parameterSets rounds (sample.drop (lengthSize + length))
      if length = 0 ∨ nalType = 9 ∨ parameterSets ∧ (nalType = nalTypeSps ∨ nalType = 8) then
        return others
      else return startCode ++ unit ++ others

def avccToAnnexb (sample : Bytes) (config : AvcDecoderConfig) (insertParameterSets : Bool) :
    Except Error Bytes :=
  let sets := if insertParameterSets then config.sps ++ config.pps else []
  if config.naluLengthSize < 1 ∨ 4 < config.naluLengthSize then
    .error (malformed "invalid NAL length size")
  else do
    let units ← annexbUnits config.naluLengthSize.toNat insertParameterSets sample.length sample
    return startCode ++ [0x09, 0xF0] ++ sets.flatMap (startCode ++ ·) ++ units

/-! ## The picture size -/

/-- Profiles whose parameter set has the chroma format and scaling lists. -/
def hasChromaBlock (profileIdc : UInt32) : Bool :=
  [100, 110, 122, 244, 44, 83, 86, 118, 128, 138, 139, 134, 135].contains
    profileIdc

/-- Read over a scaling list of which `size` entries are left.  The sums are exact,
where the 32-bit ones of the source may overflow. -/
def skipScalingList (lastScale nextScale : ℤ) : ℕ → StateM BitReader Unit
  | 0 => return
  | size + 1 => do
      let reader ← get
      if reader.overrun then return
      let delta ← if nextScale ≠ 0 then BitReader.se else pure 0
      let next := if nextScale ≠ 0 then (lastScale + delta + 256).tmod 256 else 0
      skipScalingList (if next = 0 then lastScale else next) next size

/-- Read over the scaling lists from the `i`-th on, `count` of them. -/
def skipScalingLists (i : ℕ) : ℕ → StateM BitReader Unit
  | 0 => return
  | count + 1 => do
      let reader ← get
      if reader.overrun then return
      if ← BitReader.flag then skipScalingList 8 8 (if i < 6 then 16 else 64)
      skipScalingLists (i + 1) count

/-- The chroma format, and what stands beside it in the high profiles. -/
def chromaFormat (profileIdc : UInt32) : StateM BitReader UInt32 := do
  if !hasChromaBlock profileIdc then return 1
  let chromaFormatIdc ← BitReader.ue
  if chromaFormatIdc = 3 then BitReader.skip 1
  let _ ← BitReader.ue
  let _ ← BitReader.ue
  BitReader.skip 1
  if ← BitReader.flag then skipScalingLists 0 (if chromaFormatIdc ≠ 3 then 8 else 12)
  return chromaFormatIdc

/-- Read over signed codes, at most `count` of them and none after the end of
the buffer. -/
def skipSigned : ℕ → StateM BitReader Unit
  | 0 => return
  | count + 1 => do
      let reader ← get
      if reader.overrun then return
      let _ ← BitReader.se
      skipSigned count

def skipPicOrderCnt : StateM BitReader Unit := do
  let picOrderCntType ← BitReader.ue
  if picOrderCntType = 0 then let _ ← BitReader.ue
  else if picOrderCntType = 1 then
    BitReader.skip 1
    let _ ← BitReader.se
    let _ ← BitReader.se
    let cycleLength ← BitReader.ue
    skipSigned (min cycleLength.toNat 256)

/-- The fields of a sequence parameter set that decide the picture size. -/
structure PictureGeometry where
  chromaFormatIdc : UInt32
  widthInMbs : UInt32
  heightInMapUnits : UInt32
  frameMbsOnly : Bool
  cropLeft : UInt32 := 0
  cropRight : UInt32 := 0
  cropTop : UInt32 := 0
  cropBottom : UInt32 := 0
deriving DecidableEq

def readGeometry : StateM BitReader PictureGeometry := do
  let profileIdc ← BitReader.u 8
  BitReader.skip 8
  BitReader.skip 8
  let _ ← BitReader.ue
  let chromaFormatIdc ← chromaFormat profileIdc
  let _ ← BitReader.ue
  skipPicOrderCnt
  let _ ← BitReader.ue
  BitReader.skip 1
  let widthInMbs := (← BitReader.ue) + 1
  let heightInMapUnits := (← BitReader.ue) + 1
  let frameMbsOnly ← BitReader.flag
  if !frameMbsOnly then BitReader.skip 1
  BitReader.skip 1
  let geometry : PictureGeometry := {
    chromaFormatIdc, widthInMbs, heightInMapUnits, frameMbsOnly }
  if ← BitReader.flag then
    let cropLeft ← BitReader.ue
    let cropRight ← BitReader.ue
    let cropTop ← BitReader.ue
    let cropBottom ← BitReader.ue
    return { geometry with cropLeft, cropRight, cropTop, cropBottom }
  else return geometry

/-- The coded size less the cropping window. -/
def PictureGeometry.dimensions (geometry : PictureGeometry) : Except Error VideoDimensions :=
  let subWidthC := if geometry.chromaFormatIdc = 1 ∨ geometry.chromaFormatIdc = 2 then 2 else 1
  let subHeightC := if geometry.chromaFormatIdc = 1 then 2 else 1
  let fields := if geometry.frameMbsOnly then 1 else 2
  let codedWidth := geometry.widthInMbs.toNat * 16
  let codedHeight := geometry.heightInMapUnits.toNat * 16 * fields
  let croppedX := subWidthC * (geometry.cropLeft + geometry.cropRight).toNat
  let croppedY := subHeightC * fields * (geometry.cropTop + geometry.cropBottom).toNat
  if codedWidth ≤ croppedX ∨ codedHeight ≤ croppedY then
    .error (malformed "H.264 SPS cropping window exceeds the coded picture")
  else
    .ok {
      width := UInt32.ofNat (codedWidth - croppedX)
      height := UInt32.ofNat (codedHeight - croppedY) }

def parseSpsDimensions : Bytes → Except Error VideoDimensions
  | [] => .error (malformed "empty H.264 SPS NAL")
  | header :: rest =>
    if header &&& 0x1F ≠ nalTypeSps then .error (malformed "NAL unit is not an H.264 SPS")
    else
      let (geometry, reader) := readGeometry.run { data := unescapeRbsp rest }
      if reader.overrun then .error (malformed "truncated H.264 SPS")
      else geometry.dimensions

def parseDimensions (config : AvcDecoderConfig) : Except Error VideoDimensions :=
  match config.sps with
  | [] => .error (malformed "AVC decoder config carries no SPS")
  | sps :: _ => parseSpsDimensions sps

end H264

end RtmpCore.Media
