import RtmpCore.Dash.Segmenter
import RtmpCore.Support.Run

/-!
# What the segmenter buffers and writes

Decoder configurations decide whether a message is a frame, and the frames
decide what is written.  `Buffers` is the second half of the state: the two
tracks, the timeline and the fragments written so far.  Each call of the
segmenter leaves it alone, flushes it or adds one sample to it.
-/

namespace RtmpCore.Dash

open Chunk Media.H264 Media.Mp4

structure Buffers where
  config : SegmenterConfig
  video : Track := {}
  audio : Track := {}
  isOpen : Bool := false
  lastVideo : Option UInt32 := none
  base : ℤ := 0
  written : List (TrackFragment × TrackFragment) := []

namespace Buffers

variable (b : Buffers)

def closedVideo : Track := b.video.closeTail b.config b.base

def closedAudio : Track := b.audio.closeTail b.config b.base

/-- The buffered samples can be written: there is one, and the size field of
the `mdat` box can hold them. -/
def Writable : Prop :=
  ¬(b.closedVideo.empty ∧ b.closedAudio.empty) ∧ totalSampleBytes b.closedVideo.fragment.toFmp4 +
      totalSampleBytes b.closedAudio.fragment.toFmp4 + 8 ≤ 2 ^ 32 - 1
deriving Decidable

def flush : Buffers :=
  { b with
    video := b.closedVideo.clear
    audio := b.closedAudio.clear
    isOpen := false
    written :=
      if b.Writable then b.written ++ [(b.closedVideo.fragment, b.closedAudio.fragment)]
      else b.written }

/-- A segment is open, on a timeline with the given base. -/
def opened (base : ℤ) : Buffers := { b with base, isOpen := true }

def videoDelta (timestamp : UInt32) : ℤ :=
  b.lastVideo.elim 0 fun last => timestamp.toNat - last.toNat

def audioDelta (timestamp : UInt32) : ℤ :=
  b.audio.pending.elim 0 fun pending => timestamp.toNat - pending.timestampMs.toNat

def pushVideo (pending : PendingSample) : Buffers :=
  { b with
    video := b.video.push b.base (b.videoDelta pending.timestampMs) pending
    lastVideo := some pending.timestampMs }

def pushAudio (pending : PendingSample) : Buffers :=
  { b with audio := b.audio.push b.base (b.audioDelta pending.timestampMs) pending }

/-- Drop what the tracks remember, for a new publisher. -/
def restart (base : ℤ) : Buffers :=
  { b.flush with base, lastVideo := none, video := {}, audio := {} }

end Buffers

namespace Segmenter

def buffers (s : Segmenter) : Buffers where
  config := s.config
  video := s.videoTrack
  audio := s.audioTrack
  isOpen := s.segmentOpen
  lastVideo := if s.haveLastVideoTs then some s.lastVideoTs else none
  base := s.timelineBaseMs
  written := s.segments.map fun segment => (segment.video, segment.audio)

variable (s : Segmenter) (ts : UInt32) (body : Bytes)

@[simp] theorem buffers_drop : s.drop.buffers = s.buffers := rfl

theorem buffers_emit (data : Bytes) (video audio : TrackFragment) :
    (s.emit data video audio).buffers =
      { s.buffers with written := s.buffers.written ++ [(video, audio)] } := by
  simp [emit, buffers]

theorem buffers_rebuildInitSegment : s.rebuildInitSegment.buffers = s.buffers := by
  unfold rebuildInitSegment
  split
  · rfl
  · split <;> rfl

theorem Track_clear_of_empty {track : Track} (h : track.empty) : track.clear = track := by
  have hsamp : track.samples = [] := by simpa [Track.empty] using h
  cases track
  simp_all [Track.clear]

theorem fragment_toFmp4_empty (track : Track) : track.fragment.toFmp4.empty = track.empty := by
  unfold Track.fragment
  split
  · next h => simp [TrackFragment.toFmp4, Fmp4TrackFragment.empty, h]
  · next h =>
      simp only [Track.empty]
      cases track.samples <;> rfl

theorem writeFragment_eq_ok_iff {muxer : Fmp4Muxer} {out : Bytes}
    {video audio : Fmp4TrackFragment} :
    (∃ result, muxer.writeFragment out video audio = .ok result) ↔ ¬(video.empty ∧ audio.empty) ∧
        totalSampleBytes video + totalSampleBytes audio + 8 ≤ 2 ^ 32 - 1 := by
  unfold Fmp4Muxer.writeFragment
  simp only [Bool.and_eq_true]
  split
  · next h => simp [h]
  · next h =>
      split
      · next hlarge => simp; omega
      · next hlarge => simp [h]; omega

theorem buffers_flushSegment : s.flushSegment.buffers = s.buffers.flush := by
  unfold flushSegment
  simp only
  split
  · next hemp =>
      -- nothing is buffered: clearing and writing both do nothing
      have hboth : s.buffers.closedVideo.empty = true ∧ s.buffers.closedAudio.empty = true := by
        simpa [closeTails, Buffers.closedVideo, Buffers.closedAudio, buffers] using hemp
      have hnot : ¬s.buffers.Writable := fun h => h.1 hboth
      simp only [Buffers.flush, if_neg hnot, Track_clear_of_empty hboth.1,
        Track_clear_of_empty hboth.2]
      rfl
  · next hemp =>
      have hwr : s.buffers.Writable ↔ ∃ result, s.closeTails.muxer.writeFragment styp
            s.closeTails.videoTrack.fragment.toFmp4
            s.closeTails.audioTrack.fragment.toFmp4 = .ok result := by
        rw [writeFragment_eq_ok_iff, fragment_toFmp4_empty, fragment_toFmp4_empty]
        rfl
      dsimp only [writeSegment]
      split
      · next e herror =>
          have hnot : ¬s.buffers.Writable := by
            rw [hwr, herror]
            simp
          simp only [Buffers.flush, if_neg hnot]
          rfl
      · next data muxer hok =>
          have hyes : s.buffers.Writable := hwr.mpr ⟨_, hok⟩
          rw [buffers_emit, Buffers.flush, if_pos hyes]
          rfl

/-! ## What each call does to the buffers -/

/-- The frame with this timestamp ends the open segment. -/
def cuts (s : Segmenter) (timestamp : UInt32) (keyframe : Bool) : Bool :=
  s.discontinuous timestamp || s.cutsAtKeyframe timestamp keyframe || s.cutsByForce timestamp

/-- The frame with this timestamp is the first one of its segment. -/
def startsSegment (s : Segmenter) (timestamp : UInt32) (keyframe : Bool) : Bool :=
  !s.segmentOpen || s.cuts timestamp keyframe

def pendingVideo (s : Segmenter) (timestamp : UInt32) (tag : VideoTag) : PendingSample where
  data := tag.body
  timestampMs := timestamp
  compositionTimeMs := tag.compositionTimeMs
  keyframe := tag.isKeyframe
  timelineBase := s.timelineBaseAt timestamp

def pendingAudio (s : Segmenter) (timestamp : UInt32) (body : Bytes) : PendingSample where
  data := body
  timestampMs := timestamp
  keyframe := true
  timelineBase := s.timelineBaseMs

theorem videoDelta_buffers : s.buffers.videoDelta ts = s.videoDelta ts := by
  unfold Buffers.videoDelta videoDelta buffers
  cases s.haveLastVideoTs <;> rfl

theorem audioDelta_buffers : s.buffers.audioDelta ts = s.audioDelta ts := by
  unfold Buffers.audioDelta audioDelta buffers
  cases s.audioTrack.pending <;> rfl

theorem segmentOpen_flushSegment : s.flushSegment.segmentOpen = false :=
  congrArg Buffers.isOpen s.buffers_flushSegment

theorem buffers_cutSegment (keyframe : Bool) :
    ((s.breakTimeline ts).cutSegment ts keyframe).buffers =
      { (if s.cuts ts keyframe then s.buffers.flush else s.buffers) with
        base := s.timelineBaseAt ts } := by
  unfold breakTimeline
  split
  · next hbreak =>
      have hcut : s.cuts ts keyframe = true := by simp [cuts, hbreak]
      rw [if_pos hcut]
      have hopen := s.segmentOpen_flushSegment
      unfold cutSegment
      rw [if_neg (by simp [cutsAtKeyframe, hopen]),
        if_neg (by simp [cutsByForce, hopen]), ← buffers_flushSegment]
      rfl
  · next hbreak =>
      have hbase : s.timelineBaseAt ts = s.timelineBaseMs := by rw [timelineBaseAt, if_neg hbreak]
      rw [hbase]
      unfold cutSegment
      split
      · next hkey =>
          rw [if_pos (by simp [cuts, hkey]), buffers_flushSegment]
          rfl
      · next hkey =>
          split
          · next hforce =>
              rw [if_pos (by simp [cuts, hforce]), buffers_flushSegment]
              rfl
          · next hforce =>
              rw [if_neg (by simp_all [cuts])]
              rfl

theorem buffers_openSegment : (s.openSegment ts).buffers = s.buffers.opened s.timelineBaseMs := by
  unfold openSegment
  split
  · next hopen =>
      unfold Buffers.opened buffers
      rw [hopen]
  · rfl

/-- A video frame flushes the buffers if it ends the open segment, and becomes
the pending sample of its track. -/
theorem buffers_onVideoFrame (tag : VideoTag) : (s.onVideoFrame ts tag).buffers =
      ((if s.cuts ts tag.isKeyframe then s.buffers.flush
        else s.buffers).opened (s.timelineBaseAt ts)).pushVideo (s.pendingVideo ts tag) := by
  have hcut := s.buffers_cutSegment ts tag.isKeyframe
  unfold onVideoFrame
  generalize (s.breakTimeline ts).cutSegment ts tag.isKeyframe = c
    at hcut ⊢
  have hbase : c.timelineBaseMs = s.timelineBaseAt ts := congrArg Buffers.base hcut
  have hopen := c.buffers_openSegment ts
  rw [hcut, hbase] at hopen
  generalize c.openSegment ts = o at hopen ⊢
  have hobase : o.timelineBaseMs = s.timelineBaseAt ts := congrArg Buffers.base hopen
  have hlast : o.buffers.lastVideo = s.buffers.lastVideo := by
    rw [hopen]
    split <;> rfl
  have hdelta : o.buffers.videoDelta ts = s.videoDelta ts := by
    rw [← videoDelta_buffers, Buffers.videoDelta, Buffers.videoDelta, hlast]
  have hpush : (o.pushVideo ts (s.videoDelta ts) tag).buffers =
      o.buffers.pushVideo (s.pendingVideo ts tag) := by
    unfold Buffers.pushVideo
    rw [show (s.pendingVideo ts tag).timestampMs = ts from rfl, hdelta, pendingVideo, ← hobase]
    rfl
  rw [hpush, hopen]
  rfl

theorem buffers_onAudioFrame : (s.onAudioFrame ts body).buffers =
      s.buffers.pushAudio (s.pendingAudio ts body) := by
  unfold Buffers.pushAudio
  rw [audioDelta_buffers]
  rfl

theorem buffers_onVideoHeader (cfg : AvcDecoderConfig) : (s.onVideoHeader body cfg).buffers =
      if s.videoConfigChanges cfg then s.buffers.flush else s.buffers := by
  rw [← buffers_flushSegment, ← apply_ite buffers]
  dsimp only [onVideoHeader]
  split
  · rfl
  · split
    · rw [buffers_rebuildInitSegment]
      rfl
    · rfl

theorem buffers_onAudioHeader (cfg : Media.Aac.AudioSpecificConfig) :
    (s.onAudioHeader body cfg).buffers =
      if s.audioConfigChanges cfg then s.buffers.flush else s.buffers := by
  rw [← buffers_flushSegment, ← apply_ite buffers]
  dsimp only [onAudioHeader]
  split
  · rw [buffers_rebuildInitSegment]
    rfl
  · rfl

/-- The timestamp and the tag of the video frame a call brings. -/
def videoFrame (s : Segmenter) : Action → Option (UInt32 × VideoTag)
  | .video message =>
    match s.videoInput message with
    | .frame tag => some (message.timestamp, tag)
    | _ => none
  | _ => none

variable {msg : RtmpMessage} {tag : VideoTag}

theorem videoFrame_of_input {s : Segmenter} (h : s.videoInput msg = .frame tag) :
    (msg.timestamp, tag) ∈ s.videoFrame (.video msg) := by
  simp [videoFrame, h]

/-- The timestamp and the body of the audio frame a call brings. -/
def audioFrame (s : Segmenter) : Action → Option (UInt32 × Bytes)
  | .audio message =>
    match s.audioInput message with
    | .frame body => some (message.timestamp, body)
    | _ => none
  | _ => none

theorem audioFrame_of_input {s : Segmenter} {body : Bytes} (h : s.audioInput msg = .frame body) :
    (msg.timestamp, body) ∈ s.audioFrame (.audio msg) := by
  simp [audioFrame, h]

def endsSegment (s : Segmenter) : Action → Bool
  | .metadata _ => false
  | .audio message =>
    match s.audioInput message with
    | .header _ config => s.audioConfigChanges config
    | _ => false
  | .video message =>
    match s.videoInput message with
    | .header _ config => s.videoConfigChanges config
    | .frame tag => s.cuts message.timestamp tag.isKeyframe
    | _ => false
  | .finalize => !s.finalized
  | .reconnect => true

theorem endsSegment_frame {s : Segmenter} (h : s.videoInput msg = .frame tag) :
    s.endsSegment (.video msg) = s.cuts msg.timestamp tag.isKeyframe := by
  simp [endsSegment, h]

/-- Everything a call can do to the buffers. -/
inductive Performed (s : Segmenter) : Action → Buffers → Prop where
  | video {msg : RtmpMessage} {tag : VideoTag} (hinput : s.videoInput msg = .frame tag) :
      Performed s (.video msg) (((if s.cuts msg.timestamp tag.isKeyframe then s.buffers.flush
        else s.buffers).opened (s.timelineBaseAt msg.timestamp)).pushVideo
          (s.pendingVideo msg.timestamp tag))
  | audio {msg : RtmpMessage} {body : Bytes} (hinput : s.audioInput msg = .frame body) :
      Performed s (.audio msg) (s.buffers.pushAudio (s.pendingAudio msg.timestamp body))
  | reconnect (base : ℤ) : Performed s .reconnect (s.buffers.restart base)
  | quiet {act : Action} (hne : act ≠ .reconnect) :
      Performed s act (if s.endsSegment act then s.buffers.flush else s.buffers)

theorem buffers_perform (act : Action) : s.Performed act (s.perform act).buffers := by
  have quiet {act : Action} (heq : (s.perform act).buffers =
        if s.endsSegment act then s.buffers.flush else s.buffers)
      (hne : act ≠ .reconnect := by simp) : s.Performed act (s.perform act).buffers :=
    heq ▸ .quiet hne
  cases act with
  | metadata msg => exact quiet rfl
  | audio msg =>
    cases hinput : s.audioInput msg with
    | header body cfg =>
      exact quiet (by simp [perform, onAudio, endsSegment, hinput, buffers_onAudioHeader])
    | frame body =>
      simp only [perform, onAudio, hinput, buffers_onAudioFrame]
      exact .audio hinput
    | _ => exact quiet (by simp [perform, onAudio, endsSegment, hinput])
  | video msg =>
    cases hinput : s.videoInput msg with
    | header body cfg =>
      exact quiet (by simp [perform, onVideo, endsSegment, hinput, buffers_onVideoHeader])
    | frame tag =>
      simp only [perform, onVideo, hinput, buffers_onVideoFrame]
      exact .video hinput
    | _ => exact quiet (by simp [perform, onVideo, endsSegment, hinput])
  | finalize =>
    refine quiet ?_
    cases hfinal : s.finalized with
    | true => simp [perform, finalize, endsSegment, hfinal]
    | false =>
      rw [if_pos (by simp [endsSegment, hfinal]), perform, finalize,
        if_neg (by simp [hfinal]), buffers_flushSegment]
      rfl
  | reconnect =>
    have heq : (s.perform .reconnect).buffers = s.buffers.restart
        (s.flushSegment.timelineBaseMs + (s.flushSegment.lastVideoTs.toNat + 1)) := by
      rw [Buffers.restart, ← buffers_flushSegment]
      rfl
    exact heq ▸ .reconnect _

end Segmenter

end RtmpCore.Dash
