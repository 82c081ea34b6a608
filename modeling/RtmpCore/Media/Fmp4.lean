import RtmpCore.Media.Aac

/-!
# The fragmented MP4 multiplexer

A file is a sequence of boxes.  A box has a size of four bytes, a type of four
characters and a body.  The source opens a box, writes its body and then
patches the size in; `box` is the bytes that leaves.

The init segment declares the tracks with their timescales.  A fragment holds
the samples of both tracks: a `moof` with one entry for each sample, and their
bytes in an `mdat`.
-/

namespace RtmpCore.Media.Mp4

open RtmpCore.Core Media.Aac

def movieTimescale : UInt32 := 1000
def videoTimescale : UInt32 := 90000

def videoTrackId : UInt32 := 1
def audioTrackId : UInt32 := 2

inductive VideoCodec where
  | none | h264 | hevc
deriving DecidableEq

structure Fmp4InitConfig where
  videoCodec : VideoCodec := .none
  videoDecoderConfig : Bytes := []
  videoDimensions : VideoDimensions := {}
  hasAudio : Bool := false
  audioConfig : AudioSpecificConfig := {}
  audioSpecificConfig : Bytes := []
deriving DecidableEq

variable (config : Fmp4InitConfig)

def Fmp4InitConfig.hasVideo : Bool := config.videoCodec ≠ .none

structure Fmp4Sample where
  data : Bytes
  duration : UInt32 := 0
  compositionOffset : ℤ := 0
  keyframe : Bool := false
deriving DecidableEq

structure Fmp4TrackFragment where
  baseDecodeTime : UInt64 := 0
  samples : List Fmp4Sample := []
deriving DecidableEq

def Fmp4TrackFragment.empty (fragment : Fmp4TrackFragment) : Bool := fragment.samples.isEmpty

/-! ## Boxes -/

def zeros (count : ℕ) : Bytes := List.replicate count 0

def box (code : String) (body : Bytes) : Bytes :=
  writeU32Be (UInt32.ofNat (8 + body.length)) ++ textBytes code ++ body

def fullBox (code : String) (version : UInt8) (flags : UInt32) (body : Bytes) : Bytes :=
  box code (version :: writeU24Be flags ++ body)

def identityMatrix : Bytes :=
  [0x00010000, 0, 0, 0, 0x00010000, 0, 0, 0, 0x40000000].flatMap writeU32Be

def hdlr (handler name : String) : Bytes :=
  fullBox "hdlr" 0 0
    (writeU32Be 0 ++ textBytes handler ++ zeros 12 ++ textBytes name ++ [0])

def dinf : Bytes := box "dinf" (fullBox "dref" 0 0 (writeU32Be 1 ++ fullBox "url " 0 1 []))

def descriptorHeader (tag : UInt8) (length : ℕ) : Bytes := [tag, UInt8.ofNat length &&& 0x7F]

def esds (audioSpecificConfig : Bytes) : Bytes :=
  let dsiLength := audioSpecificConfig.length
  let dcdLength := 13 + 2 + dsiLength
  let esLength := 3 + 2 + dcdLength + 2 + 1
  fullBox "esds" 0 0
    (descriptorHeader 0x03 esLength ++ writeU16Be 0 ++ [0] ++
      descriptorHeader 0x04 dcdLength ++ [0x40, 0x15] ++ writeU24Be 0 ++
      writeU32Be 0 ++ writeU32Be 0 ++
      descriptorHeader 0x05 dsiLength ++ audioSpecificConfig ++
      descriptorHeader 0x06 1 ++ [0x02])

def videoSampleEntry (codec : VideoCodec) (decoderConfig : Bytes)
    (dimensions : VideoDimensions) : Bytes :=
  box (if codec = .hevc then "hvc1" else "avc1")
    (zeros 6 ++ writeU16Be 1 ++ writeU16Be 0 ++ writeU16Be 0 ++ zeros 12 ++
      writeU16Be dimensions.width.toUInt16 ++
      writeU16Be dimensions.height.toUInt16 ++
      writeU32Be 0x00480000 ++ writeU32Be 0x00480000 ++ writeU32Be 0 ++
      writeU16Be 1 ++ zeros 32 ++ writeU16Be 0x0018 ++ writeU16Be 0xFFFF ++
      box (if codec = .hevc then "hvcC" else "avcC") decoderConfig)

def audioSampleEntry (config : AudioSpecificConfig) (audioSpecificConfig : Bytes) : Bytes :=
  let rate := config.sampleRate
  box "mp4a"
    (zeros 6 ++ writeU16Be 1 ++ zeros 8 ++
      writeU16Be config.channelConfiguration.toUInt16 ++ writeU16Be 16 ++
      writeU16Be 0 ++ writeU16Be 0 ++
      writeU32Be ((if rate > 0xFFFF then 0xFFFF else rate) <<< 16) ++
      esds audioSpecificConfig)

def emptySampleTables : Bytes :=
  fullBox "stts" 0 0 (writeU32Be 0) ++ fullBox "stsc" 0 0 (writeU32Be 0) ++
    fullBox "stsz" 0 0 (writeU32Be 0 ++ writeU32Be 0) ++
    fullBox "stco" 0 0 (writeU32Be 0)

def tkhd (trackId : UInt32) (isAudio : Bool) (dimensions : VideoDimensions) : Bytes :=
  fullBox "tkhd" 0 7
    (writeU32Be 0 ++ writeU32Be 0 ++ writeU32Be trackId ++ writeU32Be 0 ++
      writeU32Be 0 ++ zeros 8 ++ writeU16Be 0 ++ writeU16Be 0 ++
      writeU16Be (if isAudio then 0x0100 else 0) ++ writeU16Be 0 ++
      identityMatrix ++
      writeU32Be (if isAudio then 0 else dimensions.width <<< 16) ++
      writeU32Be (if isAudio then 0 else dimensions.height <<< 16))

def trex (trackId : UInt32) : Bytes :=
  fullBox "trex" 0 0
    (writeU32Be trackId ++ writeU32Be 1 ++ writeU32Be 0 ++ writeU32Be 0 ++ writeU32Be 0)

def mdhd (timescale : UInt32) : Bytes :=
  fullBox "mdhd" 0 0
    (writeU32Be 0 ++ writeU32Be 0 ++ writeU32Be timescale ++ writeU32Be 0 ++
      writeU16Be 0x55C4 ++ writeU16Be 0)

/-! ## The init segment -/

def mvhd : Bytes :=
  fullBox "mvhd" 0 0
    (writeU32Be 0 ++ writeU32Be 0 ++ writeU32Be movieTimescale ++ writeU32Be 0 ++
      writeU32Be 0x00010000 ++ writeU16Be 0x0100 ++ writeU16Be 0 ++ zeros 8 ++
      identityMatrix ++ zeros 24 ++ writeU32Be (audioTrackId + 1))

def videoTrak : Bytes :=
  let stsd := fullBox "stsd" 0 0 (writeU32Be 1 ++
    videoSampleEntry config.videoCodec config.videoDecoderConfig config.videoDimensions)
  let minf := box "minf" (fullBox "vmhd" 0 1 (writeU16Be 0 ++ zeros 6) ++ dinf ++
    box "stbl" (stsd ++ emptySampleTables))
  box "trak" (tkhd videoTrackId false config.videoDimensions ++
    box "mdia" (mdhd videoTimescale ++ hdlr "vide" "VideoHandler" ++ minf))

/-- The timescale an init segment declares for its audio track. -/
def audioTimescale : UInt32 := config.audioConfig.sampleRate

def audioTrak : Bytes :=
  let stsd := fullBox "stsd" 0 0 (writeU32Be 1 ++
    audioSampleEntry config.audioConfig config.audioSpecificConfig)
  let minf := box "minf" (fullBox "smhd" 0 0 (writeU16Be 0 ++ writeU16Be 0) ++
    dinf ++ box "stbl" (stsd ++ emptySampleTables))
  box "trak" (tkhd audioTrackId true {} ++
    box "mdia" (mdhd (audioTimescale config) ++ hdlr "soun" "SoundHandler" ++ minf))

def ftyp : Bytes := box "ftyp" ("iso6" ++ writeU32Be 0 ++ "iso6" ++ "mp41" ++ "cmfc")

def initSegment : Except Error Bytes := do
  if !config.hasVideo && !config.hasAudio then
    throw (malformed
      "fMP4 init segment needs at least one of a video or an audio track")
  if config.hasVideo && config.videoDecoderConfig.isEmpty then
    throw (malformed
      "fMP4 video track declared without an avcC/hvcC decoder configuration")
  if config.hasAudio && config.audioSpecificConfig.isEmpty then
    throw (malformed
      "fMP4 audio track declared without an AudioSpecificConfig")
  if config.hasVideo && !config.videoDimensions.valid then
    throw (malformed
      "fMP4 video track declared without usable picture dimensions")
  if config.hasAudio && audioTimescale config == 0 then
    throw (malformed "AudioSpecificConfig carries a reserved sampling index")
  let video := if config.hasVideo then videoTrak config else []
  let audio := if config.hasAudio then audioTrak config else []
  let mvex := box "mvex"
    ((if config.hasVideo then trex videoTrackId else []) ++
      (if config.hasAudio then trex audioTrackId else []))
  return ftyp ++ box "moov" (mvhd ++ video ++ audio ++ mvex)

/-! ## Fragments -/

def sampleFlagsSync : UInt32 := 0x02000000
def sampleFlagsNonSync : UInt32 := 0x01010000

def totalSampleBytes (fragment : Fmp4TrackFragment) : ℕ :=
  (fragment.samples.map fun sample => sample.data.length).sum

def trunEntry (sample : Fmp4Sample) : Bytes :=
  writeU32Be sample.duration ++ writeU32Be (UInt32.ofNat sample.data.length) ++
    writeU32Be (if sample.keyframe then sampleFlagsSync else sampleFlagsNonSync) ++
    writeU32Be (UInt32.ofInt sample.compositionOffset)

/-- One track of a `moof`.  The source writes a zero data offset and patches it
when the size of the `moof` is known; here the offset is an argument. -/
def traf (trackId : UInt32) (fragment : Fmp4TrackFragment) (dataOffset : UInt32) : Bytes :=
  box "traf"
    (fullBox "tfhd" 0 0x020000 (writeU32Be trackId) ++
      fullBox "tfdt" 1 0 (writeU64Be fragment.baseDecodeTime) ++
      fullBox "trun" 1 0x000F01
        (writeU32Be (UInt32.ofNat fragment.samples.length) ++
          writeU32Be dataOffset ++ fragment.samples.flatMap trunEntry))

def moof (sequenceNumber : UInt32) (video audio : Fmp4TrackFragment)
    (videoOffset audioOffset : UInt32) : Bytes :=
  box "moof"
    (fullBox "mfhd" 0 0 (writeU32Be sequenceNumber) ++
      (if video.empty then [] else traf videoTrackId video videoOffset) ++
      (if audio.empty then [] else traf audioTrackId audio audioOffset))

/-- The multiplexer keeps the number of the last fragment. -/
structure Fmp4Muxer where
  sequenceNumber : UInt32 := 0
deriving DecidableEq

/-- Append a fragment to `out`.  The audio timescale of the source's signature
is left out: nothing reads it. -/
def Fmp4Muxer.writeFragment (muxer : Fmp4Muxer) (out : Bytes)
    (video audio : Fmp4TrackFragment) : Except Error (Bytes × Fmp4Muxer) :=
  let videoBytes := totalSampleBytes video
  let mediaBytes := videoBytes + totalSampleBytes audio
  if video.empty && audio.empty then .error (malformed "fMP4 fragment carries no samples")
  else if 2 ^ 32 - 1 < mediaBytes + 8 then
    .error (malformed "fMP4 fragment exceeds the 32-bit mdat size limit")
  else
    let sequenceNumber := muxer.sequenceNumber + 1
    let moofSize := UInt32.ofNat (moof sequenceNumber video audio 0 0).length
    let videoOffset := moofSize + 8
    let audioOffset := moofSize + 8 + UInt32.ofNat videoBytes
    .ok (out ++ moof sequenceNumber video audio videoOffset audioOffset ++
      box "mdat" (video.samples.flatMap Fmp4Sample.data ++ audio.samples.flatMap Fmp4Sample.data),
      { sequenceNumber })

def styp : Bytes := box "styp" ("msdh" ++ writeU32Be 0 ++ "msdh" ++ "msix" ++ "cmfs")

end RtmpCore.Media.Mp4
