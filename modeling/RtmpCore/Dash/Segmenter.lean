import RtmpCore.Chunk.Types
import RtmpCore.Media.Fmp4

/-!
# The DASH segmenter

The segmenter repackages the audio and video messages of one publisher as
fragmented MP4.  A sample is buffered until its successor arrives, because its
duration is the distance to the successor.  A segment is cut at a keyframe once
it is long enough, and before the next frame when it has grown too large.

`TrackSample` and `PendingSample` keep with each sample the timestamp of its
message and the timeline base in force when the message arrived.  A segment
keeps the samples it was written from.  These are for the statements about the
output; nothing the source computes reads them.
-/

namespace RtmpCore.Dash

open Chunk Media Media.H264 Media.Aac
open Media.Mp4

/-- Durations are counted in milliseconds. -/
structure SegmenterConfig where
  targetDuration : ℤ := 4000
  maxSegmentBytes : ℕ := 16 * 1024 * 1024
  maxSegmentDuration : ℤ := 20000
  discontinuityThreshold : ℤ := 5000
  segmentNamePrefix : String := "chunk-"
  segmentNameSuffix : String := ".m4s"
  initialSequence : ℕ := 0
deriving DecidableEq

structure SegmenterStats where
  segmentsProduced : ℕ := 0
  videoFrames : ℕ := 0
  audioFrames : ℕ := 0
  droppedFrames : ℕ := 0
  forcedCuts : ℕ := 0
  initSegmentsProduced : ℕ := 0
deriving DecidableEq

structure PendingSample where
  data : Bytes
  timestampMs : UInt32
  compositionTimeMs : ℤ := 0
  keyframe : Bool
  timelineBase : ℤ
deriving DecidableEq

structure TrackSample where
  sample : Fmp4Sample
  timestampMs : UInt32
  timelineBase : ℤ
deriving DecidableEq

structure Track where
  samples : List TrackSample := []
  pending : Option PendingSample := none
  lastDuration90k : UInt32 := 0
  baseDecodeTime90k : UInt64 := 0
  baseSet : Bool := false
deriving DecidableEq

/-- What a segment holds of one track. -/
structure TrackFragment where
  baseDecodeTime : UInt64 := 0
  samples : List TrackSample := []
deriving DecidableEq

structure InitSegment where
  data : Bytes
  epoch : ℕ
  config : Fmp4InitConfig
deriving DecidableEq

structure Segment where
  number : ℕ
  name : String
  data : Bytes
  duration : ℤ
  initEpoch : ℕ
  video : TrackFragment
  audio : TrackFragment
deriving DecidableEq

/-- The state of the segmenter, and the segments it has handed to its two
callbacks. -/
structure Segmenter where
  config : SegmenterConfig
  stats : SegmenterStats := {}
  muxer : Fmp4Muxer := {}
  videoConfig : Option AvcDecoderConfig := none
  audioConfig : Option AudioSpecificConfig := none
  videoDecoderConfigRaw : Bytes := []
  audioSpecificConfigRaw : Bytes := []
  videoDimensions : VideoDimensions := {}
  initEpoch : ℕ := 0
  videoTrack : Track := {}
  audioTrack : Track := {}
  segmentOpen : Bool := false
  segmentStartTs : UInt32 := 0
  lastVideoTs : UInt32 := 0
  haveLastVideoTs : Bool := false
  segmentByteEstimate : ℕ := 0
  nextSequence : ℕ
  timelineBaseMs : ℤ := 0
  finalized : Bool := false
  segments : List Segment := []
  inits : List InitSegment := []
deriving DecidableEq

def Segmenter.initial (config : SegmenterConfig) : Segmenter where
  config
  nextSequence := config.initialSequence

/-! ## Tracks -/

/-- Milliseconds in units of 90 kHz, as a 32-bit duration and never zero
milliseconds. -/
def duration90k (milliseconds : ℤ) : UInt32 := UInt32.ofNat (max 1 milliseconds * 90).toNat

/-- The decode time of a timestamp on a timeline that starts at `base`. -/
def to90k (base milliseconds : ℤ) : UInt64 :=
  UInt64.ofNat ((max 0 (milliseconds + base)).toNat * 90)

namespace Track

variable (track : Track)

def empty : Bool := track.samples.isEmpty

def clear : Track := { track with samples := [] }

/-- The sample a pending one becomes once its duration is known. -/
def sampleOf (pending : PendingSample) (duration : UInt32) : TrackSample where
  sample := {
    data := pending.data
    duration
    compositionOffset := pending.compositionTimeMs * 90
    keyframe := pending.keyframe }
  timestampMs := pending.timestampMs
  timelineBase := pending.timelineBase

def commitPending (base : ℤ) (duration : UInt32) : Track :=
  match track.pending with
  | none => track
  | some pending =>
    { samples := track.samples ++ [sampleOf pending duration]
      pending := none
      lastDuration90k := duration
      baseDecodeTime90k :=
        if track.baseSet then track.baseDecodeTime90k
        else to90k base pending.timestampMs.toNat
      baseSet := true }

/-- The duration given to a sample without a successor. -/
def tailDuration (config : SegmenterConfig) : UInt32 :=
  if track.lastDuration90k = 0 then duration90k config.targetDuration
  else track.lastDuration90k

def closeTail (config : SegmenterConfig) (base : ℤ) : Track :=
  track.commitPending base (track.tailDuration config)

def fragment : TrackFragment :=
  if track.empty then {}
  else { baseDecodeTime := track.baseDecodeTime90k, samples := track.samples }

/-- Buffer a sample, after the pending one is committed with the distance to
it. -/
def push (base delta : ℤ) (pending : PendingSample) : Track :=
  { track.commitPending base (duration90k delta) with pending := some pending }

end Track

def TrackFragment.toFmp4 (fragment : TrackFragment) : Fmp4TrackFragment where
  baseDecodeTime := fragment.baseDecodeTime
  samples := fragment.samples.map TrackSample.sample

namespace Segmenter

variable (s : Segmenter) (message : RtmpMessage) (timestamp : UInt32) (body : Bytes)

def drop : Segmenter :=
  { s with stats := { s.stats with droppedFrames := s.stats.droppedFrames + 1 } }

/-! ## Writing segments -/

/-- The state once the tails of both tracks are closed. -/
def closeTails : Segmenter :=
  { s with
    videoTrack := s.videoTrack.closeTail s.config s.timelineBaseMs
    audioTrack := s.audioTrack.closeTail s.config s.timelineBaseMs }

def clearTracks : Segmenter :=
  { s with
    videoTrack := s.videoTrack.clear
    audioTrack := s.audioTrack.clear
    segmentOpen := false
    segmentByteEstimate := 0 }

/-- Hand a written segment to the callback. -/
def emit (data : Bytes) (video audio : TrackFragment) : Segmenter :=
  let span : ℤ := s.lastVideoTs.toNat - s.segmentStartTs.toNat
  let segment : Segment := {
    number := s.nextSequence
    name := s.config.segmentNamePrefix ++ toString s.nextSequence ++ s.config.segmentNameSuffix
    data
    duration := max 0 span
    initEpoch := s.initEpoch
    video
    audio }
  { s with
    nextSequence := s.nextSequence + 1
    stats := { s.stats with segmentsProduced := s.stats.segmentsProduced + 1 }
    segments := s.segments ++ [segment] }

def writeSegment : Segmenter :=
  let video := s.videoTrack.fragment
  let audio := s.audioTrack.fragment
  match s.muxer.writeFragment styp video.toFmp4 audio.toFmp4 with
  | .error _ => s.clearTracks.drop
  | .ok (data, muxer) => { s.clearTracks with muxer }.emit data video audio

def flushSegment : Segmenter :=
  let s := s.closeTails
  if s.videoTrack.empty && s.audioTrack.empty then { s with segmentOpen := false }
  else s.writeSegment

/-! ## Init segments -/

def fmp4InitConfig : Fmp4InitConfig where
  videoCodec := if s.videoConfig.isSome then .h264 else .none
  videoDecoderConfig := if s.videoConfig.isSome then s.videoDecoderConfigRaw else []
  videoDimensions := if s.videoConfig.isSome then s.videoDimensions else {}
  hasAudio := s.audioConfig.isSome
  audioConfig := s.audioConfig.getD {}
  audioSpecificConfig := if s.audioConfig.isSome then s.audioSpecificConfigRaw else []

def rebuildInitSegment : Segmenter :=
  if s.videoConfig.isNone && s.audioConfig.isNone then s
  else
    match initSegment s.fmp4InitConfig with
    | .error _ => s
    | .ok data =>
      let epoch := s.initEpoch + 1
      { s with
        initEpoch := epoch
        stats := { s.stats with initSegmentsProduced := s.stats.initSegmentsProduced + 1 }
        inits := s.inits ++ [{ data, epoch, config := s.fmp4InitConfig }] }

/-! ## Video -/

/-- What the segmenter makes of a video message. -/
inductive VideoInput where
  | ignored
  | rejected
  | header (body : Bytes) (config : AvcDecoderConfig)
  | frame (tag : VideoTag)
deriving DecidableEq

def videoInput : VideoInput :=
  if s.finalized || message.payload.isEmpty then .ignored
  else
    match parseVideoTag message.payload with
    | .error _ => .rejected
    | .ok tag =>
      if tag.avcPacketType = avcPacketTypeSequenceHeader then
        match parseDecoderConfig tag.body with
        | .error _ => .rejected
        | .ok config => .header tag.body config
      else if tag.avcPacketType ≠ avcPacketTypeNalu then .ignored
      else if s.videoConfig.isNone || s.videoDimensions.width == 0 then .rejected
      else .frame tag

/-- A decoder configuration with other parameter sets than the present one. -/
def videoConfigChanges (config : AvcDecoderConfig) : Bool :=
  s.videoConfig.any fun current => current.sps != config.sps || current.pps != config.pps

def onVideoHeader (config : AvcDecoderConfig) : Segmenter :=
  let hadConfig := s.videoConfig.isSome
  let changed := s.videoConfigChanges config
  let s := if changed then s.flushSegment else s
  let s := { s with videoConfig := some config, videoDecoderConfigRaw := body }
  match parseDimensions config with
  | .error _ => s
  | .ok dimensions =>
    let s := { s with videoDimensions := dimensions }
    if !hadConfig || changed then s.rebuildInitSegment else s

/-- The distance of a video timestamp from the last one. -/
def videoDelta : ℤ := if s.haveLastVideoTs then timestamp.toNat - s.lastVideoTs.toNat else 0

def discontinuous : Bool :=
  s.haveLastVideoTs && decide (s.config.discontinuityThreshold < |s.videoDelta timestamp|)

/-- The timeline base from a video timestamp on. -/
def timelineBaseAt : ℤ :=
  if s.discontinuous timestamp then s.timelineBaseMs + (s.lastVideoTs.toNat - timestamp.toNat + 1)
  else s.timelineBaseMs

/-- A discontinuity ends the segment and moves the timeline. -/
def breakTimeline : Segmenter :=
  if s.discontinuous timestamp then
    { s.flushSegment with timelineBaseMs := s.timelineBaseAt timestamp }
  else s

def elapsed : ℤ := timestamp.toNat - s.segmentStartTs.toNat

/-- An open segment is cut at a keyframe once it is long enough. -/
def cutsAtKeyframe (keyframe : Bool) : Bool :=
  s.segmentOpen && keyframe && decide (s.config.targetDuration ≤ s.elapsed timestamp)

/-- An open segment that is too large or too long is cut at any frame. -/
def cutsByForce : Bool :=
  s.segmentOpen && (decide (s.config.maxSegmentBytes ≤ s.segmentByteEstimate) ||
      decide (s.config.maxSegmentDuration ≤ s.elapsed timestamp))

def cutSegment (keyframe : Bool) : Segmenter :=
  if s.cutsAtKeyframe timestamp keyframe then s.flushSegment
  else if s.cutsByForce timestamp then
    { s with stats := { s.stats with forcedCuts := s.stats.forcedCuts + 1 } }
      |>.flushSegment
  else s

def openSegment : Segmenter :=
  if s.segmentOpen then s
  else { s with segmentOpen := true, segmentStartTs := timestamp }

def pushVideo (delta : ℤ) (tag : VideoTag) : Segmenter :=
  { s with
    videoTrack := s.videoTrack.push s.timelineBaseMs delta {
      data := tag.body
      timestampMs := timestamp
      compositionTimeMs := tag.compositionTimeMs
      keyframe := tag.isKeyframe
      timelineBase := s.timelineBaseMs }
    segmentByteEstimate := s.segmentByteEstimate + tag.body.length
    stats := { s.stats with videoFrames := s.stats.videoFrames + 1 }
    lastVideoTs := timestamp
    haveLastVideoTs := true }

def onVideoFrame (tag : VideoTag) : Segmenter :=
  let delta := s.videoDelta timestamp
  (((s.breakTimeline timestamp).cutSegment timestamp tag.isKeyframe).openSegment
    timestamp).pushVideo timestamp delta tag

def onVideo : Segmenter :=
  match s.videoInput message with
  | .ignored => s
  | .rejected => s.drop
  | .header body config => s.onVideoHeader body config
  | .frame tag => s.onVideoFrame message.timestamp tag

/-! ## Audio -/

inductive AudioInput where
  | ignored
  | rejected
  | header (body : Bytes) (config : AudioSpecificConfig)
  | frame (body : Bytes)
deriving DecidableEq

def audioInput : AudioInput :=
  if s.finalized || message.payload.isEmpty then .ignored
  else
    match parseAudioTag message.payload with
    | .error _ => .rejected
    | .ok tag =>
      if tag.aacPacketType = aacPacketTypeSequenceHeader then
        match parseAudioSpecificConfig tag.body with
        | .error _ => .rejected
        | .ok config => .header tag.body config
      else if s.audioConfig.isNone then .rejected
      else if !s.segmentOpen then .rejected
      else if tag.body.isEmpty then .ignored
      else .frame tag.body

def audioConfigChanges (config : AudioSpecificConfig) : Bool :=
  s.audioConfig.any fun current =>
    current.samplingFrequencyIndex != config.samplingFrequencyIndex ||
      current.channelConfiguration != config.channelConfiguration ||
      current.objectType != config.objectType

def onAudioHeader (config : AudioSpecificConfig) : Segmenter :=
  let hadConfig := s.audioConfig.isSome
  let changed := s.audioConfigChanges config
  let s := if changed then s.flushSegment else s
  let s := { s with audioConfig := some config, audioSpecificConfigRaw := body }
  if !hadConfig || changed then s.rebuildInitSegment else s

/-- The distance of an audio timestamp from the pending one. -/
def audioDelta : ℤ :=
  match s.audioTrack.pending with
  | none => 0
  | some pending => timestamp.toNat - pending.timestampMs.toNat

def onAudioFrame : Segmenter :=
  { s with
    audioTrack := s.audioTrack.push s.timelineBaseMs (s.audioDelta timestamp) {
      data := body
      timestampMs := timestamp
      keyframe := true
      timelineBase := s.timelineBaseMs }
    segmentByteEstimate := s.segmentByteEstimate + body.length
    stats := { s.stats with audioFrames := s.stats.audioFrames + 1 } }

def onAudio : Segmenter :=
  match s.audioInput message with
  | .ignored => s
  | .rejected => s.drop
  | .header body config => s.onAudioHeader body config
  | .frame body => s.onAudioFrame message.timestamp body

/-! ## The whole sink -/

def finalize : Segmenter := if s.finalized then s else { s with finalized := true }.flushSegment

def markPublisherReconnect : Segmenter :=
  let s := s.flushSegment
  { s with
    haveLastVideoTs := false
    timelineBaseMs := s.timelineBaseMs + (s.lastVideoTs.toNat + 1)
    videoConfig := none
    audioConfig := none
    videoTrack := {}
    audioTrack := {} }

/-- A call of the segmenter.  Metadata is ignored. -/
inductive Action where
  | metadata (message : RtmpMessage)
  | audio (message : RtmpMessage)
  | video (message : RtmpMessage)
  | finalize
  | reconnect
deriving DecidableEq

def perform : Action → Segmenter
  | .metadata _ => s
  | .audio message => s.onAudio message
  | .video message => s.onVideo message
  | .finalize => s.finalize
  | .reconnect => s.markPublisherReconnect

end Segmenter

end RtmpCore.Dash
