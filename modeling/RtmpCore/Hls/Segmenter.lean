import RtmpCore.Chunk.Types
import RtmpCore.Http.Message
import RtmpCore.Media.Aac

/-!
# The HLS segmenter

The segmenter repackages the audio and video messages of one publisher as
segments of a transport stream.  A segment is cut at a keyframe once it is long
enough, and before any frame when it has grown too long or too large.

A segment is kept as the access units that the multiplexer was given for it.
Their sizes are those of the packets it makes of them, behind two packets of
program tables.
-/

namespace RtmpCore.Hls

open RtmpCore.Core Chunk Http Media Media.H264 Media.Aac

/-- Durations are counted in milliseconds. -/
structure SegmenterConfig where
  targetDuration : ℤ := 4000
  maxSegmentBytes : ℕ := 16 * 1024 * 1024
  maxSegmentDuration : ℤ := 20000
  discontinuityThreshold : ℤ := 5000
  segmentNamePrefix : Bytes := "segment-"
  segmentNameSuffix : Bytes := ".ts"
  initialSequence : UInt64 := 0
  partTargetDuration : ℤ := 0
deriving DecidableEq

inductive AccessUnit where
  | video (timestamp : UInt32) (annexb : Bytes) (pts dts : UInt64) (keyframe : Bool)
  | audio (adts : Bytes) (pts : UInt64)
deriving DecidableEq

def kPacketSize : ℕ := 188

/-- The packets for `size` bytes, when the first one has a field in front. -/
def packetCount (size field : ℕ) : ℕ := 1 + (size - (184 - field) + 183) / 184

def AccessUnit.size : AccessUnit → ℕ
  | video _ annexb pts dts keyframe =>
    kPacketSize * packetCount (annexb.length + 9 + if dts = pts then 5 else 10)
      (if keyframe then 8 else 0)
  | audio adts _ => kPacketSize * packetCount (adts.length + 14) 0

/-- A coded frame, and the parameter sets it is converted with. -/
structure Frame where
  timestamp : UInt32
  tag : VideoTag
  config : AvcDecoderConfig

def Frame.annexb (frame : Frame) : Except Error Bytes :=
  avccToAnnexb frame.tag.body frame.config frame.tag.isKeyframe

structure TsPart where
  segmentSequence : UInt64
  index : UInt32
  name : Bytes
  units : List AccessUnit
  duration : ℤ
  independent : Bool
deriving DecidableEq

structure TsSegment where
  sequence : UInt64
  name : Bytes
  units : List AccessUnit
  duration : ℤ
  discontinuity : Bool
  parts : List TsPart
  iframePrefixBytes : ℕ
deriving DecidableEq

/-- The state of the segmenter, and the segments and parts it has handed to its
two callbacks.  `partStart` counts the access units before the open part. -/
structure Segmenter where
  config : SegmenterConfig := {}
  videoConfig : Option AvcDecoderConfig := none
  audioConfig : Option AudioSpecificConfig := none
  current : List AccessUnit := []
  segmentOpen : Bool := false
  segmentStartTs : UInt32 := 0
  lastTs : UInt32 := 0
  haveLastTs : Bool := false
  pendingDiscontinuity : Bool := false
  openParts : List TsPart := []
  partStart : ℕ := 0
  partIndex : UInt32 := 0
  partStartTs : UInt32 := 0
  partIndependent : Bool := false
  partHasMedia : Bool := false
  iframePrefixBytes : ℕ := 0
  nextSequence : UInt64 := config.initialSequence
  timelineBaseMs : ℤ := 0
  finalized : Bool := false
  segments : List TsSegment := []
  parts : List TsPart := []
deriving DecidableEq

namespace Segmenter

variable (s : Segmenter) (timestamp : UInt32)

def to90k (milliseconds : ℤ) : UInt64 := UInt64.ofNat (milliseconds + s.timelineBaseMs).toNat * 90

def isDiscontinuous : Bool :=
  s.haveLastTs && s.config.discontinuityThreshold < |(timestamp.toNat - s.lastTs.toNat : ℤ)|

def currentSize : ℕ := 2 * kPacketSize + (s.current.map AccessUnit.size).sum

/-! ## Segments and parts -/

def startSegment : Segmenter :=
  { s with
    current := []
    segmentOpen := true
    segmentStartTs := timestamp
    openParts := []
    partStart := 0
    partIndex := 0
    partStartTs := timestamp
    partIndependent := false
    partHasMedia := false
    iframePrefixBytes := 0 }

/-- The first part of a segment holds its program tables, so there is always
something to publish in it. -/
def maybeClosePart (force : Bool) : Segmenter :=
  let elapsed : ℤ := timestamp.toNat - s.partStartTs.toNat
  if s.config.partTargetDuration ≤ 0 ∨ s.segmentOpen = false ∨
      s.openParts ≠ [] ∧ s.current.length ≤ s.partStart ∨
      force = false ∧ elapsed < s.config.partTargetDuration then s
  else
    let part : TsPart :=
      { segmentSequence := s.nextSequence
        index := s.partIndex
        name := s.config.segmentNamePrefix ++ decimalText s.nextSequence.toNat ++ ([0x2E] ++
          decimalText s.partIndex.toNat ++ s.config.segmentNameSuffix)
        units := s.current.drop s.partStart
        duration := max 0 elapsed
        independent := s.partIndependent }
    { s with
      partStart := s.current.length
      partStartTs := timestamp
      partIndex := s.partIndex + 1
      partIndependent := false
      partHasMedia := false
      openParts := s.openParts ++ [part]
      parts := s.parts ++ [part] }

def publish : Segmenter :=
  let segment : TsSegment :=
    { sequence := s.nextSequence
      name := s.config.segmentNamePrefix ++ decimalText s.nextSequence.toNat ++
        s.config.segmentNameSuffix
      units := s.current
      duration := max 0 (s.lastTs.toNat - s.segmentStartTs.toNat)
      discontinuity := s.pendingDiscontinuity
      parts := s.openParts
      iframePrefixBytes := s.iframePrefixBytes }
  { s with
    nextSequence := s.nextSequence + 1
    current := []
    openParts := []
    partStart := 0
    partIndex := 0
    partHasMedia := false
    iframePrefixBytes := 0
    segmentOpen := false
    pendingDiscontinuity := false
    segments := s.segments ++ [segment] }

/-- A segment that holds only its program tables is not published. -/
def flushSegment : Segmenter :=
  if s.segmentOpen = false ∨ s.current = [] then { s with segmentOpen := false }
  else (s.maybeClosePart s.lastTs true).publish

/-- The next segment is marked as discontinuous. -/
def interrupt : Segmenter := { s.flushSegment with pendingDiscontinuity := true }

def markPublisherReconnect : Segmenter :=
  { s.interrupt with
    haveLastTs := false
    timelineBaseMs := s.timelineBaseMs + s.lastTs.toNat + 1
    videoConfig := none
    audioConfig := none }

def markMediaDiscontinuity : Segmenter :=
  { s.interrupt with videoConfig := none, audioConfig := none }

/-! ## Video -/

/-- A jump of the timestamps is taken out of the timeline. -/
def skip : Segmenter :=
  { s.interrupt with timelineBaseMs := s.timelineBaseMs + s.lastTs.toNat - timestamp.toNat + 1 }

/-- The frame is a keyframe, and the open segment is long enough. -/
def isDue (frame : Frame) : Bool :=
  frame.tag.isKeyframe &&
    s.config.targetDuration ≤ (frame.timestamp.toNat - s.segmentStartTs.toNat : ℤ)

def overLimit : Bool :=
  s.config.maxSegmentBytes ≤ s.currentSize ||
    s.config.maxSegmentDuration ≤ (timestamp.toNat - s.segmentStartTs.toNat : ℤ)

/-- End the open segment, if the frame does not belong to it.  After a jump none
is open. -/
def settle (frame : Frame) : Segmenter :=
  if s.isDiscontinuous frame.timestamp then s.skip frame.timestamp
  else if s.segmentOpen = false then s
  else if s.isDue frame then s.flushSegment
  else if s.overLimit frame.timestamp then s.interrupt
  else s

/-- The segment that a frame is written to. -/
def prepare (frame : Frame) : Segmenter :=
  let s := s.settle frame
  if s.segmentOpen then s else s.startSegment frame.timestamp

def writeFrame (frame : Frame) (annexb : Bytes) : Segmenter :=
  let { timestamp, tag, .. } := frame
  let written :=
    { s with
      current := s.current ++ [AccessUnit.video timestamp annexb
        (s.to90k (timestamp.toNat + tag.compositionTimeMs)) (s.to90k timestamp.toNat)
        tag.isKeyframe]
      partIndependent := s.partIndependent || tag.isKeyframe && !s.partHasMedia
      partHasMedia := true
      lastTs := timestamp
      haveLastTs := true }
  { written with
    iframePrefixBytes :=
      if tag.isKeyframe ∧ s.iframePrefixBytes = 0 then written.currentSize
      else s.iframePrefixBytes }.maybeClosePart timestamp false

def onFrame (frame : Frame) : Segmenter :=
  match frame.annexb with
  | .error _ => s.prepare frame
  | .ok annexb => (s.prepare frame).writeFrame frame annexb

def onVideoConfig (config : AvcDecoderConfig) : Segmenter :=
  let changed := s.videoConfig.any fun old => old.sps ≠ config.sps || old.pps ≠ config.pps
  { if changed then s.interrupt else s with videoConfig := some config }

def onVideo (message : RtmpMessage) : Segmenter :=
  if s.finalized ∨ message.payload = [] then s
  else
    match parseVideoTag message.payload with
    | .error _ => s
    | .ok tag =>
      if tag.avcPacketType = avcPacketTypeSequenceHeader then
        match parseDecoderConfig tag.body with
        | .error _ => s
        | .ok config => s.onVideoConfig config
      else if tag.avcPacketType ≠ avcPacketTypeNalu then s
      else
        match s.videoConfig with
        | none => s
        | some config => s.onFrame ⟨message.timestamp, tag, config⟩

/-! ## Audio -/

def adtsHeader (config : AudioSpecificConfig) (frameLength : ℕ) : Bytes :=
  let length := UInt32.ofNat (frameLength + 7) &&& 0x1FFF
  let profile := (config.objectType - 1) &&& 0x03
  [0xFF, 0xF1, (profile <<< 6) ||| ((config.samplingFrequencyIndex &&& 0x0F) <<< 2) |||
      ((config.channelConfiguration >>> 2) &&& 0x01),
    ((config.channelConfiguration &&& 0x03) <<< 6) ||| ((length >>> 11) &&& 0x03).toUInt8,
    (length >>> 3).toUInt8, ((length &&& 0x07) <<< 5).toUInt8 ||| 0x1F, 0xFC]

/-- The multiplexer refuses a frame too long for the length field of its packet. -/
def audioUnits (config : AudioSpecificConfig) (body : Bytes) : List AccessUnit :=
  let adts := adtsHeader config body.length ++ body
  if 0xFFFF < adts.length + 8 then [] else [.audio adts (s.to90k timestamp.toNat)]

def writeAudio (config : AudioSpecificConfig) (body : Bytes) : Segmenter :=
  { s with
    current := s.current ++ s.audioUnits timestamp config body
    partHasMedia := true
    lastTs := if s.haveLastTs then s.lastTs else timestamp
    haveLastTs := true }.maybeClosePart timestamp false

def onAudio (message : RtmpMessage) : Segmenter :=
  if s.finalized ∨ message.payload = [] then s
  else
    match parseAudioTag message.payload with
    | .error _ => s
    | .ok tag =>
      if tag.aacPacketType = aacPacketTypeSequenceHeader then
        match parseAudioSpecificConfig tag.body with
        | .error _ => s
        | .ok config =>
          { if s.audioConfig.any (· ≠ config) then s.interrupt else s with
            audioConfig := some config }
      else
        match s.audioConfig with
        | none => s
        | some config =>
          if s.segmentOpen = false ∨ tag.body = [] then s
          else s.writeAudio message.timestamp config tag.body

def finalize : Segmenter := if s.finalized then s else { s with finalized := true }.flushSegment

end Segmenter

inductive SegmenterEvent where
  | video (message : RtmpMessage)
  | audio (message : RtmpMessage)
  | publisherReconnect
  | mediaDiscontinuity
  | finalize
deriving DecidableEq

def Segmenter.perform (s : Segmenter) : SegmenterEvent → Segmenter
  | .video message => s.onVideo message
  | .audio message => s.onAudio message
  | .publisherReconnect => s.markPublisherReconnect
  | .mediaDiscontinuity => s.markMediaDiscontinuity
  | .finalize => s.finalize

end RtmpCore.Hls
