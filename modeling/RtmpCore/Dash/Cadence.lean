import Mathlib.Data.List.Chain
import RtmpCore.Dash.Buffers

/-!
# The durations of buffered samples

A sample that has a successor is committed with the distance to it.  The last
sample of a segment has none when it is committed, and repeats the duration
before it.  The segments of a run follow each other without a gap as long as
this guess is right.
-/

namespace RtmpCore.Dash

open Media.Mp4 List Track Option

/-! ## Durations follow the timestamps -/

/-- The first sample lasts until the second one. -/
def Follows (a b : TrackSample) : Prop :=
  a.sample.duration = duration90k (b.timestampMs.toNat - a.timestampMs.toNat)

namespace Track

/-- Every committed sample lasts until the next sample of the track. -/
structure Timed (track : Track) : Prop where
  chain : track.samples.IsChain Follows
  upToPending : ∀ a ∈ track.samples.getLast?, ∀ pending ∈ track.pending,
    Follows a (sampleOf pending 0)
  idle : track.pending = none → track.samples = []

theorem timed_new : Timed {} where
  chain := isChain_nil
  upToPending := by simp
  idle := fun _ => rfl

variable {track : Track} {pending : PendingSample}

theorem samples_commitPending (h : track.pending = some pending) (base : ℤ) (duration : UInt32) :
    (track.commitPending base duration).samples = track.samples ++ [sampleOf pending duration] := by
  simp [commitPending, h]

theorem isChain_commitPending (h : track.Timed) (base : ℤ) (duration : UInt32) :
    (track.commitPending base duration).samples.IsChain Follows := by
  unfold commitPending
  split
  · exact h.chain
  · next pending hpend =>
      refine isChain_append.mpr ⟨h.chain, isChain_singleton _, ?_⟩
      intro a ha b hb
      obtain rfl : sampleOf pending duration = b := by simpa using hb
      exact h.upToPending a ha pending hpend

theorem pending_commitPending (track : Track) (base : ℤ) (duration : UInt32) :
    (track.commitPending base duration).pending = none := by
  unfold commitPending
  split
  · next h => exact h
  · rfl

theorem timed_clear (track : Track) : track.clear.Timed where
  chain := isChain_nil
  upToPending := by simp [clear]
  idle := fun _ => rfl

/-- A pushed sample is timed when the distance passed with it is the one to the
pending sample. -/
theorem timed_push (h : track.Timed) {base delta : ℤ} (hdelta : ∀ before ∈ track.pending,
      delta = pending.timestampMs.toNat - before.timestampMs.toNat) :
    (track.push base delta pending).Timed where
  chain := isChain_commitPending h base _
  upToPending := by
    intro a ha b hb
    obtain rfl : pending = b := by simpa [push] using hb
    change a ∈ (track.commitPending base (duration90k delta)).samples.getLast?
      at ha
    cases hbef : track.pending with
    | none => simp [commitPending, hbef, h.idle hbef] at ha
    | some before =>
      rw [samples_commitPending hbef] at ha
      obtain rfl : sampleOf before (duration90k delta) = a := by simpa using ha
      rw [hdelta before hbef]
      rfl
  idle := by simp [push]

end Track

namespace Buffers

/-- The state between two calls.  A segment is open as long as a video sample
waits for its successor; audio waits only inside an open segment. -/
structure Regular (b : Buffers) : Prop where
  video : b.video.Timed
  audio : b.audio.Timed
  lastVideo : ∀ pending ∈ b.video.pending, b.lastVideo = some pending.timestampMs
  isOpen : b.isOpen = b.video.pending.isSome
  audioOpen : b.audio.pending.isSome → b.isOpen = true
  written : ∀ w ∈ b.written, w.1.samples ≠ [] ∧
    w.1.samples.IsChain Follows ∧ w.2.samples.IsChain Follows

theorem pending_clear_closeTail (track : Track) (cfg : SegmenterConfig)
    (base : ℤ) : (track.closeTail cfg base).clear.pending = none :=
  track.pending_commitPending base _

theorem closeTail_of_idle {track : Track} (h : track.pending = none)
    (cfg : SegmenterConfig) (base : ℤ) : track.closeTail cfg base = track := by
  simp [Track.closeTail, Track.commitPending, h]

variable {b : Buffers}

theorem samples_closedVideo {pending : PendingSample} (h : b.video.pending = some pending) :
    b.closedVideo.samples = b.video.samples ++
      [Track.sampleOf pending (b.video.tailDuration b.config)] :=
  samples_commitPending h _ _

theorem Regular.pending_of_writable (h : b.Regular)
    (hwr : b.Writable) : ∃ pending, b.video.pending = some pending := by
  rw [← isSome_iff_exists, ← h.isOpen]
  by_contra hcl
  have hvid : b.video.pending = none := by
    rw [← not_isSome_iff_eq_none, ← h.isOpen]
    exact hcl
  have haud : b.audio.pending = none := by
    rw [← not_isSome_iff_eq_none]
    exact fun hsome => hcl (h.audioOpen hsome)
  refine hwr.1 ⟨?_, ?_⟩
  · simp [closedVideo, closeTail_of_idle hvid, Track.empty, h.video.idle hvid]
  · simp [closedAudio, closeTail_of_idle haud, Track.empty, h.audio.idle haud]

theorem fragment_samples (track : Track) : track.fragment.samples = track.samples := by
  unfold Track.fragment Track.empty
  split
  · next h => simp_all
  · rfl

theorem Regular.flush (h : b.Regular) : b.flush.Regular where
  video := timed_clear _
  audio := timed_clear _
  lastVideo := by
    intro pending hpend
    simp [Buffers.flush, closedVideo, pending_clear_closeTail] at hpend
  isOpen := by simp [Buffers.flush, closedVideo, pending_clear_closeTail]
  audioOpen := by simp [Buffers.flush, closedAudio, pending_clear_closeTail]
  written := by
    intro w hw
    unfold Buffers.flush at hw
    split at hw
    · next hwr =>
        rcases mem_append.mp hw with hold | hnew
        · exact h.written w hold
        · obtain rfl := mem_singleton.mp hnew
          obtain ⟨pending, hpend⟩ := h.pending_of_writable hwr
          rw [fragment_samples, fragment_samples]
          refine ⟨?_, isChain_commitPending h.video _ _, isChain_commitPending h.audio _ _⟩
          simp [samples_closedVideo hpend]
    · exact h.written w hw

theorem Regular.pushVideo (h : b.Regular) (base : ℤ)
    (pending : PendingSample) : ((b.opened base).pushVideo pending).Regular :=
  { h with
    video := by
      refine timed_push h.video ?_
      intro before hbef
      change b.videoDelta pending.timestampMs = _
      rw [videoDelta, h.lastVideo before hbef]
      rfl
    lastVideo := by
      intro p hp
      obtain rfl : pending = p := by simpa [Buffers.pushVideo, Track.push] using hp
      rfl
    isOpen := rfl
    audioOpen := fun _ => rfl }

theorem Regular.pushAudio (h : b.Regular) (hopen : b.isOpen = true)
    (pending : PendingSample) : (b.pushAudio pending).Regular :=
  { h with
    audio := by
      refine timed_push h.audio ?_
      intro before hbef
      rw [audioDelta, show b.audio.pending = some before from hbef]
      rfl
    audioOpen := fun _ => hopen }

theorem Regular.restart (h : b.Regular) (base : ℤ) : (b.restart base).Regular where
  video := timed_new
  audio := timed_new
  lastVideo := by simp [Buffers.restart]
  isOpen := rfl
  audioOpen := by simp [Buffers.restart]
  written := h.flush.written

end Buffers

namespace Segmenter

theorem segmentOpen_of_audioFrame {s : Segmenter} {msg : Chunk.RtmpMessage}
    {body : Bytes} (h : s.audioInput msg = .frame body) : s.segmentOpen = true := by
  unfold audioInput at h
  split at h
  · cases h
  split at h
  · cases h
  split at h
  · split at h <;> cases h
  split at h
  · cases h
  split at h
  · cases h
  · next hopen => simpa using hopen

theorem regular_perform {s : Segmenter} (h : s.buffers.Regular) (act : Action) :
    (s.perform act).buffers.Regular := by
  have hcall := s.buffers_perform act
  generalize (s.perform act).buffers = after at hcall ⊢
  cases hcall with
  | video hinput =>
    split
    · exact h.flush.pushVideo _ _
    · exact h.pushVideo _ _
  | audio hinput => exact h.pushAudio (segmentOpen_of_audioFrame hinput) _
  | reconnect base => exact h.restart base
  | quiet hne =>
    split
    · exact h.flush
    · exact h

theorem regular_initial (cfg : SegmenterConfig) : (initial cfg).buffers.Regular where
  video := timed_new
  audio := timed_new
  lastVideo := by simp [initial, buffers]
  isOpen := rfl
  audioOpen := by simp [initial, buffers]
  written := by simp [initial, buffers]

/-- In every run the segments have video, and their samples last until the next. -/
theorem regular_run (cfg : SegmenterConfig) (acts : List Action) :
    (Run.run perform (initial cfg) acts).buffers.Regular :=
  Run.run_invariant_always (buffers · |>.Regular) (regular_initial cfg)
    fun _ act h => regular_perform h act

end Segmenter

end RtmpCore.Dash
