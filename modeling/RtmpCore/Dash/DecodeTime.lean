import RtmpCore.Dash.Gapless

/-!
# The decode time of a segment

Each track of a segment states the decode time of its first sample.  A track
latches that time when it commits its first sample, and keeps it when a segment
is flushed.  A later segment therefore states the time of the first one, which
is right only if its first sample has the same place on the timeline.
-/

namespace RtmpCore.Dash

open List Track

/-- The decode time a timestamp stands for on a timeline. -/
def decodeTime (timestamp : UInt32) (base : ℤ) : ℤ := 90 * (timestamp.toNat + base)

theorem toNat_to90k {ts : UInt32} {base : ℤ} (hnn : 0 ≤ decodeTime ts base)
    (hfits : decodeTime ts base < 2 ^ 64) :
    ((to90k base ts.toNat).toNat : ℤ) = decodeTime ts base := by
  unfold decodeTime at *
  unfold to90k
  rw [UInt64.toNat_ofNat']
  omega

/-- The fragment states the decode time of its first sample. -/
def TrackFragment.OnTime (fragment : TrackFragment) : Prop :=
  ∀ first ∈ fragment.samples.head?, (fragment.baseDecodeTime.toNat : ℤ) =
      decodeTime first.timestampMs first.timelineBase

instance (fragment : TrackFragment) : Decidable fragment.OnTime :=
  Option.decidableForallMem fragment.samples.head?

namespace Track

/-- The decode time a track has latched, or latches with its pending sample. -/
def latched (track : Track) (base : ℤ) : Option UInt64 :=
  if track.baseSet then some track.baseDecodeTime90k
  else track.pending.map fun pending => to90k base pending.timestampMs.toNat

/-- A sample can be the first one of a segment: its decode time is an unsigned
64-bit number and, if the track has latched one, that one. -/
def Anchors (track : Track) (base : ℤ) (timestamp : UInt32) (base' : ℤ) : Prop :=
  0 ≤ decodeTime timestamp base' ∧ decodeTime timestamp base' < 2 ^ 64 ∧
    ∀ time ∈ track.latched base, (time.toNat : ℤ) = decodeTime timestamp base'

instance (track : Track) (base : ℤ) (timestamp : UInt32) (base' : ℤ) :
    Decidable (track.Anchors base timestamp base') :=
  @instDecidableAnd _ _ _ (@instDecidableAnd _ _ _ (Option.decidableForallMem (track.latched base)))

/-- The first sample of the open segment has the decode time of the track, or
will give it its decode time. -/
structure Anchored (track : Track) (base : ℤ) : Prop where
  pendingBase : ∀ pending ∈ track.pending, pending.timelineBase = base
  committed : ∀ first ∈ track.samples.head?,
    track.baseSet = true ∧ (track.baseDecodeTime90k.toNat : ℤ) =
      decodeTime first.timestampMs first.timelineBase
  waiting : track.samples = [] → ∀ pending ∈ track.pending,
    0 ≤ decodeTime pending.timestampMs base ∧
    decodeTime pending.timestampMs base < 2 ^ 64 ∧
    (track.baseSet = true → (track.baseDecodeTime90k.toNat : ℤ) =
      decodeTime pending.timestampMs base)

variable {track : Track} {pending : PendingSample} {base delta : ℤ}

theorem anchored_idle (hpend : track.pending = none)
    (hsamp : track.samples = []) (base : ℤ) : track.Anchored base where
  pendingBase := by simp [hpend]
  committed := by simp [hsamp]
  waiting := by simp [hpend]

theorem baseSet_commitPending (h : track.pending = some pending) (base : ℤ) (duration : UInt32) :
    (track.commitPending base duration).baseSet = true := by
  simp [commitPending, h]

theorem Anchored.commitPending (h : track.Anchored base) (duration : UInt32) :
    ∀ first ∈ (track.commitPending base duration).samples.head?,
      (track.commitPending base duration).baseSet = true ∧
      ((track.commitPending base duration).baseDecodeTime90k.toNat : ℤ) =
        decodeTime first.timestampMs first.timelineBase := by
  cases hpend : track.pending with
  | none =>
    simp only [Track.commitPending, hpend]
    exact h.committed
  | some pending =>
    intro first hfst
    refine ⟨baseSet_commitPending hpend base duration, ?_⟩
    rw [samples_commitPending hpend] at hfst
    simp only [Track.commitPending, hpend]
    cases hsamp : track.samples with
    | nil =>
      obtain rfl : sampleOf pending duration = first := by simpa [hsamp] using hfst
      obtain ⟨hnn, hfits, hset⟩ := h.waiting hsamp pending hpend
      change _ = decodeTime pending.timestampMs pending.timelineBase
      rw [h.pendingBase pending hpend]
      split
      · next hbase => exact hset hbase
      · exact toNat_to90k hnn hfits
    | cons a rest =>
      obtain rfl : a = first := by simpa [hsamp] using hfst
      obtain ⟨hbase, htime⟩ := h.committed a (by simp [hsamp])
      rw [if_pos hbase]
      exact htime

theorem Anchored.onTime_fragment (h : track.Anchored base) (cfg : SegmenterConfig) :
    (track.closeTail cfg base).fragment.OnTime := by
  intro first hfst
  rw [Buffers.fragment_samples] at hfst
  have htime := (h.commitPending (track.tailDuration cfg) first hfst).2
  unfold fragment
  split
  · next hemp =>
      rw [show (track.closeTail cfg base).samples = [] by simpa [Track.empty] using hemp] at hfst
      simp at hfst
  · exact htime

/-- The decode time of a track whose segment has been flushed is the one it had
latched. -/
theorem latched_closeTail (track : Track) (cfg : SegmenterConfig) (base : ℤ) :
    (track.closeTail cfg base).baseSet = true →
      some (track.closeTail cfg base).baseDecodeTime90k = track.latched base := by
  unfold closeTail commitPending latched
  cases track.pending with
  | none =>
    intro hset
    simp [hset]
  | some pending =>
    cases track.baseSet <;> simp

theorem anchored_push_first (hidle : track.pending = none)
    (hsamp : track.samples = []) (hbase : pending.timelineBase = base)
    (hnn : 0 ≤ decodeTime pending.timestampMs base)
    (hfits : decodeTime pending.timestampMs base < 2 ^ 64)
    (htime : track.baseSet = true → (track.baseDecodeTime90k.toNat : ℤ) =
      decodeTime pending.timestampMs base) :
    (track.push base delta pending).Anchored base := by
  have hpush : track.push base delta pending = { track with pending := some pending } := by
    simp [push, Track.commitPending, hidle]
  rw [hpush]
  constructor
  · simpa using hbase
  · simp [hsamp]
  · intro _ p hp
    obtain rfl : pending = p := by simpa using hp
    exact ⟨hnn, hfits, htime⟩

theorem Anchored.push_next (h : track.Anchored base) {before : PendingSample}
    (hbef : track.pending = some before) (hbase : pending.timelineBase = base) :
    (track.push base delta pending).Anchored base := by
  constructor
  · intro p hp
    obtain rfl : pending = p := by simpa [push] using hp
    exact hbase
  · exact h.commitPending (duration90k delta)
  · intro hsamp
    have hne : (track.push base delta pending).samples =
        track.samples ++ [sampleOf before (duration90k delta)] :=
      samples_commitPending hbef _ _
    simp [hne] at hsamp

end Track

namespace Buffers

structure Anchored (b : Buffers) : Prop where
  video : b.video.Anchored b.base
  audio : b.audio.Anchored b.base
  written : ∀ w ∈ b.written, w.1.OnTime ∧ w.2.OnTime

theorem anchored_clear_closeTail (track : Track) (cfg : SegmenterConfig)
    (base base' : ℤ) : (track.closeTail cfg base).clear.Anchored base' :=
  anchored_idle (pending_clear_closeTail _ _ _) rfl base'

theorem Anchored.flush {b : Buffers} (h : b.Anchored) : b.flush.Anchored where
  video := anchored_clear_closeTail _ _ _ _
  audio := anchored_clear_closeTail _ _ _ _
  written := by
    intro w hw
    unfold Buffers.flush at hw
    split at hw
    · rcases mem_append.mp hw with hold | hnew
      · exact h.written w hold
      · obtain rfl := mem_singleton.mp hnew
        exact ⟨h.video.onTime_fragment _, h.audio.onTime_fragment _⟩
    · exact h.written w hw

end Buffers

namespace Segmenter

/-- Every sample that starts a track's part of a segment has the decode time the
track has latched, and the publisher stays connected. -/
def KeepsDecodeTime (s : Segmenter) (action : Action) : Prop :=
  action ≠ .reconnect ∧ (∀ frame ∈ s.videoFrame action,
      s.startsSegment frame.1 frame.2.isKeyframe = true →
        s.videoTrack.Anchors s.timelineBaseMs frame.1 (s.timelineBaseAt frame.1)) ∧
    ∀ frame ∈ s.audioFrame action, s.audioTrack.pending = none →
      s.audioTrack.Anchors s.timelineBaseMs frame.1 s.timelineBaseMs
deriving Decidable

variable {s : Segmenter} {ts : UInt32}

theorem timelineBaseAt_of_not_cuts {keyframe : Bool} (h : ¬s.cuts ts keyframe = true) :
    s.timelineBaseAt ts = s.timelineBaseMs := by
  have hbreak : ¬s.discontinuous ts = true := by
    intro hbreak
    exact h (by simp [cuts, hbreak])
  rw [timelineBaseAt, if_neg hbreak]

theorem anchored_onVideoFrame (h : s.buffers.Regular) (hanch : s.buffers.Anchored)
    {tag : Media.H264.VideoTag} (hstart : s.startsSegment ts tag.isKeyframe = true →
      s.videoTrack.Anchors s.timelineBaseMs ts (s.timelineBaseAt ts)) :
    (s.onVideoFrame ts tag).buffers.Anchored := by
  rw [buffers_onVideoFrame]
  split
  · next hcut =>
      obtain ⟨hnn, hfits, htime⟩ := hstart (by simp [startsSegment, hcut])
      refine ⟨?_, Buffers.anchored_clear_closeTail _ _ _ _, hanch.flush.written⟩
      refine anchored_push_first (Buffers.pending_clear_closeTail _ _ _) rfl rfl hnn hfits ?_
      intro hset
      exact htime _ (latched_closeTail _ _ _ hset).symm
  · next hcut =>
      have hbase := timelineBaseAt_of_not_cuts hcut
      have hop : s.buffers.opened (s.timelineBaseAt ts) = s.buffers.opened s.buffers.base := by
        rw [hbase]
        rfl
      rw [hop]
      refine ⟨?_, hanch.audio, hanch.written⟩
      cases hpend : s.buffers.video.pending with
      | none =>
        have hcl : s.segmentOpen = false := h.isOpen.trans (by rw [hpend]; rfl)
        obtain ⟨hnn, hfits, htime⟩ := hstart (by simp [startsSegment, hcl])
        rw [hbase] at hnn hfits htime
        refine anchored_push_first hpend (h.video.idle hpend) hbase hnn hfits ?_
        intro hset
        exact htime _ (if_pos hset)
      | some before => exact hanch.video.push_next hpend hbase

theorem anchored_onAudioFrame (h : s.buffers.Regular) (hanch : s.buffers.Anchored) {body : Bytes}
    (hstart : s.audioTrack.pending = none →
      s.audioTrack.Anchors s.timelineBaseMs ts s.timelineBaseMs) :
    (s.buffers.pushAudio (s.pendingAudio ts body)).Anchored := by
  refine ⟨hanch.video, ?_, hanch.written⟩
  cases hpend : s.buffers.audio.pending with
  | none =>
    obtain ⟨hnn, hfits, htime⟩ := hstart hpend
    refine anchored_push_first hpend (h.audio.idle hpend) rfl hnn hfits ?_
    intro hset
    exact htime _ (if_pos hset)
  | some before => exact hanch.audio.push_next hpend rfl

theorem anchored_perform {act : Action} (h : s.buffers.Regular) (hanch : s.buffers.Anchored)
    (hkeeps : s.KeepsDecodeTime act) : (s.perform act).buffers.Anchored := by
  obtain ⟨hconnected, hvid, haud⟩ := hkeeps
  have hcall := s.buffers_perform act
  generalize (s.perform act).buffers = after at hcall ⊢
  cases hcall with
  | @video msg tag hinput =>
    have hstart := hvid (msg.timestamp, tag) (videoFrame_of_input hinput)
    rw [← buffers_onVideoFrame]
    exact anchored_onVideoFrame h hanch hstart
  | @audio msg body hinput =>
    exact anchored_onAudioFrame h hanch (haud (msg.timestamp, body) (audioFrame_of_input hinput))
  | reconnect base => exact (hconnected rfl).elim
  | quiet hne =>
    split
    · exact hanch.flush
    · exact hanch

theorem anchored_initial (cfg : SegmenterConfig) : (initial cfg).buffers.Anchored where
  video := anchored_idle rfl rfl _
  audio := anchored_idle rfl rfl _
  written := by simp [initial, buffers]

/-- In a run in which every segment starts at the latched decode time, every
segment states the decode time of its first video and of its first audio
sample. -/
theorem onTime_of_keepsDecodeTime (config : SegmenterConfig) (actions : List Action)
    (hkeeps : Run.Along perform KeepsDecodeTime (initial config) actions) :
    ∀ segment ∈ (Run.run perform (initial config) actions).segments,
      segment.video.OnTime ∧ segment.audio.OnTime := by
  have hrun : (Run.run perform (initial config) actions).buffers.Regular ∧
      (Run.run perform (initial config) actions).buffers.Anchored := by
    refine Run.run_invariant (fun s => s.buffers.Regular ∧ s.buffers.Anchored)
      hkeeps ⟨regular_initial config, anchored_initial config⟩ ?_
    intro s action hkeep ⟨hregular, hanchored⟩
    exact ⟨regular_perform hregular action, anchored_perform hregular hanchored hkeep⟩
  intro segment hsegment
  refine hrun.2.written (segment.video, segment.audio) ?_
  exact mem_map.mpr ⟨segment, hsegment, rfl⟩

/-- The stream is cut by a new decoder configuration, and goes on at the
timestamp it started with. -/
def resumedFrames : List Action :=
  [videoHeader 0 30, keyframe 1000, videoHeader 1000 31, keyframe 1000, .finalize]

theorem onTime_resumedFrames : (Run.run perform (initial {}) resumedFrames).segments.length = 2 ∧
      ∀ segment ∈ (Run.run perform (initial {}) resumedFrames).segments,
        segment.video.OnTime ∧ segment.audio.OnTime :=
  ⟨by decide +kernel, onTime_of_keepsDecodeTime {} resumedFrames (by decide +kernel)⟩

/-- The second segment of a steady stream starts four seconds after the first
one and states the same decode time. -/
theorem steadyFrames_repeat_decodeTime :
    ∃ a b, (Run.run perform (initial {}) steadyFrames).segments = [a, b] ∧
      a.video.OnTime ∧ ¬b.video.OnTime := by
  obtain ⟨a, -, b, -, hsegments, htimes⟩ :
      let segments := (Run.run perform (initial {}) steadyFrames).segments
      ∃ a ∈ segments, ∃ b ∈ segments, segments = [a, b] ∧ a.video.OnTime ∧ ¬b.video.OnTime := by
    decide +kernel
  exact ⟨a, b, hsegments, htimes⟩

end Segmenter

end RtmpCore.Dash
