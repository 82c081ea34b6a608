import Mathlib.Tactic.Linarith
import RtmpCore.Dash.Cadence

/-!
# Segments without gaps

The samples of a segment cover the time from its first sample to the end of its
last one.  That end is where the next segment should start.  It does as long as
every frame that starts a segment arrives after the duration already given to
the sample before it.
-/

namespace RtmpCore.Dash

open Chunk Media.Mp4 List Function Track Option

/-! ## Where a segment ends -/

def totalDuration (samples : List TrackSample) : ℕ :=
  (samples.map fun sample => sample.sample.duration.toNat).sum

@[simp] theorem totalDuration_nil : totalDuration [] = 0 := rfl

@[simp] theorem totalDuration_append (samples samples' : List TrackSample) :
    totalDuration (samples ++ samples') = totalDuration samples + totalDuration samples' := by
  simp [totalDuration]

@[simp] theorem totalDuration_singleton (sample : TrackSample) :
    totalDuration [sample] = sample.sample.duration.toNat := by
  simp [totalDuration]

/-- The samples, played from the timestamp of the first one, last until a time
in units of 90 kHz. -/
def EndsAt (samples : List TrackSample) (time : ℤ) : Prop :=
  ∃ first, samples.head? = some first ∧
    90 * (first.timestampMs.toNat : ℤ) + totalDuration samples = time

/-- The second list starts where the first one ends. -/
def Meets (samples samples' : List TrackSample) : Prop :=
  ∃ first', samples'.head? = some first' ∧ EndsAt samples (90 * first'.timestampMs.toNat)

theorem toNat_duration90k {milliseconds : ℤ} (hpos : 0 < milliseconds)
    (hfits : 90 * milliseconds < 2 ^ 32) :
    ((duration90k milliseconds).toNat : ℤ) = 90 * milliseconds := by
  unfold duration90k
  rw [UInt32.toNat_ofNat']
  omega

namespace Track

/-- The timestamp of the first sample of the open segment. -/
def firstTs (track : Track) : Option UInt32 :=
  (track.samples.head?.map TrackSample.timestampMs).or (track.pending.map PendingSample.timestampMs)

def bufferedBytes (track : Track) : ℕ :=
  (track.samples.map fun sample => sample.sample.data.length).sum +
    (track.pending.map fun pending => pending.data.length).getD 0

theorem lastDuration90k_closeTail (track : Track) (cfg : SegmenterConfig) (base : ℤ) :
    (track.closeTail cfg base).lastDuration90k = if track.pending.isSome then track.tailDuration cfg
      else track.lastDuration90k := by
  unfold closeTail commitPending
  cases track.pending <;> rfl

theorem totalSampleBytes_closeTail (track : Track) (cfg : SegmenterConfig) (base : ℤ) :
    totalSampleBytes (track.closeTail cfg base).fragment.toFmp4 = track.bufferedBytes := by
  have hby : totalSampleBytes (track.closeTail cfg base).fragment.toFmp4 =
      ((track.closeTail cfg base).samples.map fun sample => sample.sample.data.length).sum := by
    simp [totalSampleBytes, TrackFragment.toFmp4, Buffers.fragment_samples, comp_def]
  rw [hby, bufferedBytes]
  cases hpend : track.pending with
  | none => simp [Buffers.closeTail_of_idle hpend]
  | some pending =>
    rw [closeTail, samples_commitPending hpend]
    simp [sampleOf]

end Track

namespace Buffers

/-- The time up to which the video written and committed reaches: the first
frame of the open segment or, between segments, the end of the last sample. -/
def cursor (b : Buffers) : ℤ :=
  match b.video.firstTs with
  | some first => 90 * first.toNat
  | none => 90 * (b.lastVideo.getD 0).toNat + b.video.lastDuration90k.toNat

structure Gapless (b : Buffers) : Prop where
  chain : (b.written.map fun w => w.1.samples).IsChain Meets
  reached : ∀ w ∈ b.written.getLast?, EndsAt w.1.samples b.cursor
  covered : ∀ pending ∈ b.video.pending, ∀ first ∈ b.video.firstTs,
    (totalDuration b.video.samples : ℤ) = 90 * (pending.timestampMs.toNat - first.toNat)
  fresh : b.lastVideo = none → b.written = []

/-- The samples buffered for both tracks fit in one `mdat` box. -/
def Fits (b : Buffers) : Prop := b.video.bufferedBytes + b.audio.bufferedBytes + 8 ≤ 2 ^ 32 - 1
deriving Decidable

variable {b : Buffers} {pending : PendingSample}

theorem firstTs_of_idle (h : b.Regular)
    (hidle : b.video.pending = none) : b.video.firstTs = none := by
  simp [Track.firstTs, hidle, h.video.idle hidle]

theorem firstTs_clear_closedVideo (b : Buffers) : b.closedVideo.clear.firstTs = none := by
  have hpend : b.closedVideo.clear.pending = none := pending_clear_closeTail _ _ _
  rw [Track.firstTs, hpend]
  rfl

theorem writable_of_fits
    (hpend : b.video.pending = some pending) (hfits : b.Fits) : b.Writable := by
  refine ⟨?_, ?_⟩
  · rintro ⟨hemp, -⟩
    simp [Track.empty, samples_closedVideo hpend] at hemp
  · rw [closedVideo, closedAudio, totalSampleBytes_closeTail, totalSampleBytes_closeTail]
    exact hfits

theorem endsAt_closedVideo (hgap : b.Gapless) (hpend : b.video.pending = some pending)
    {first : UInt32} (hfst : b.video.firstTs = some first) : EndsAt b.closedVideo.samples
      (90 * pending.timestampMs.toNat + (b.video.tailDuration b.config).toNat) := by
  have hcov := hgap.covered pending hpend first hfst
  rw [samples_closedVideo hpend]
  cases hsamp : b.video.samples with
  | nil =>
    refine ⟨Track.sampleOf pending (b.video.tailDuration b.config), rfl, ?_⟩
    simp [Track.sampleOf]
  | cons a rest =>
    obtain rfl : a.timestampMs = first := by simpa [Track.firstTs, hsamp] using hfst
    refine ⟨a, rfl, ?_⟩
    rw [hsamp] at hcov
    rw [totalDuration_append, totalDuration_singleton]
    push_cast
    rw [hcov]
    simp only [Track.sampleOf]
    ring

/-! ## What keeps the segments together -/

theorem Gapless.flush (hgap : b.Gapless) (h : b.Regular) (hfits : b.Fits) : b.flush.Gapless := by
  cases hpend : b.video.pending with
  | none =>
    have hnot : ¬b.Writable := by
      intro hwr
      obtain ⟨pending, hsome⟩ := h.pending_of_writable hwr
      simp [hpend] at hsome
    have hvid : b.closedVideo.clear = b.video := by
      rw [closedVideo, closeTail_of_idle hpend,
        Segmenter.Track_clear_of_empty (by simp [Track.empty, h.video.idle hpend])]
    rw [Buffers.flush, if_neg hnot, hvid]
    exact { hgap with }
  | some pending =>
    have hwrit : b.flush.written =
        b.written ++ [(b.closedVideo.fragment, b.closedAudio.fragment)] :=
      if_pos (writable_of_fits hpend hfits)
    obtain ⟨first, hfst⟩ : ∃ first, b.video.firstTs = some first := by
      rw [Track.firstTs, hpend]
      simp
    have hends := endsAt_closedVideo hgap hpend hfst
    have hcur : b.flush.cursor =
        90 * pending.timestampMs.toNat + (b.video.tailDuration b.config).toNat := by
      have hdur : b.flush.video.lastDuration90k = b.video.tailDuration b.config := by
        change b.closedVideo.lastDuration90k = _
        rw [closedVideo, lastDuration90k_closeTail, hpend]
        rfl
      rw [cursor, show b.flush.video.firstTs = none from
        firstTs_clear_closedVideo b, hdur,
        show b.flush.lastVideo = some pending.timestampMs from
          h.lastVideo pending hpend]
      rfl
    have hhead : b.closedVideo.fragment.samples.head?.map TrackSample.timestampMs = some first := by
      rw [fragment_samples, samples_closedVideo hpend, ← hfst, Track.firstTs, hpend]
      cases b.video.samples <;> rfl
    constructor
    · rw [hwrit, map_append]
      refine isChain_append.mpr ⟨hgap.chain, isChain_singleton _, ?_⟩
      intro samples hsamp samples' hsamp'
      obtain rfl : b.closedVideo.fragment.samples = samples' := by simpa using hsamp'
      obtain ⟨w, hw, rfl⟩ : ∃ w ∈ b.written.getLast?, w.1.samples = samples := by
        simpa [getLast?_map] using hsamp
      obtain ⟨sample, hsample, rfl⟩ := map_eq_some_iff.mp hhead
      refine ⟨sample, hsample, ?_⟩
      have hrch := hgap.reached w hw
      rwa [cursor, hfst] at hrch
    · intro w hw
      rw [hwrit] at hw
      obtain rfl : (b.closedVideo.fragment, b.closedAudio.fragment) = w := by simpa using hw
      rw [hcur, fragment_samples]
      exact hends
    · intro p hp
      simp [Buffers.flush, closedVideo, pending_clear_closeTail] at hp
    · intro hnone
      have hsome : b.flush.lastVideo = some pending.timestampMs := h.lastVideo pending hpend
      rw [hnone] at hsome
      cases hsome

theorem Gapless.startSegment (hgap : b.Gapless) (h : b.Regular)
    (hidle : b.video.pending = none) (base : ℤ)
    (hgapless : ∀ last ∈ b.lastVideo, (b.video.lastDuration90k.toNat : ℤ) =
      90 * (pending.timestampMs.toNat - last.toNat)) :
    ((b.opened base).pushVideo pending).Gapless := by
  have hsamp : ((b.opened base).pushVideo pending).video.samples = [] := by
    simp [Buffers.pushVideo, opened, Track.push, Track.commitPending, hidle, h.video.idle hidle]
  have hfst : ((b.opened base).pushVideo pending).video.firstTs = some pending.timestampMs := by
    rw [Track.firstTs, hsamp]
    rfl
  constructor
  · exact hgap.chain
  · intro w hw
    have hrch := hgap.reached w hw
    cases hlast : b.lastVideo with
    | none =>
      have hemp := hgap.fresh hlast
      change w ∈ b.written.getLast? at hw
      simp [hemp] at hw
    | some last =>
      have hdur := hgapless last hlast
      rw [cursor, firstTs_of_idle h hidle, hlast] at hrch
      rw [cursor, hfst]
      convert hrch using 1
      change _ = 90 * (last.toNat : ℤ) + _
      rw [hdur]
      ring
  · intro p hp first hfst'
    obtain rfl : pending = p := by simpa [Buffers.pushVideo, Track.push] using hp
    obtain rfl : pending.timestampMs = first := by simpa [hfst] using hfst'
    simp [hsamp]
  · intro hnone
    cases hnone

theorem Gapless.continueSegment (hgap : b.Gapless) (h : b.Regular)
    {before : PendingSample} (hbef : b.video.pending = some before) (base : ℤ)
    (hrises : before.timestampMs < pending.timestampMs)
    (hfits : 90 * ((pending.timestampMs.toNat : ℤ) - before.timestampMs.toNat) < 2 ^ 32) :
    ((b.opened base).pushVideo pending).Gapless := by
  have hlt : before.timestampMs.toNat < pending.timestampMs.toNat :=
    UInt32.lt_iff_toNat_lt.mp hrises
  have hdelta : b.videoDelta pending.timestampMs =
      pending.timestampMs.toNat - before.timestampMs.toNat := by
    rw [videoDelta, h.lastVideo before hbef]
    rfl
  have hsamp : ((b.opened base).pushVideo pending).video.samples = b.video.samples ++
        [Track.sampleOf before (duration90k (b.videoDelta pending.timestampMs))] :=
    samples_commitPending hbef _ _
  have hfst : ((b.opened base).pushVideo pending).video.firstTs = b.video.firstTs := by
    rw [Track.firstTs, hsamp, Track.firstTs, hbef]
    cases b.video.samples <;> rfl
  constructor
  · exact hgap.chain
  · intro w hw
    have hrch := hgap.reached w hw
    obtain ⟨first, hfst'⟩ : ∃ first, b.video.firstTs = some first := by
      rw [Track.firstTs, hbef]
      simp
    rw [cursor, hfst'] at hrch
    rwa [cursor, hfst, hfst']
  · intro p hp first hfst'
    obtain rfl : pending = p := by simpa [Buffers.pushVideo, Track.push] using hp
    rw [hfst] at hfst'
    have hcov := hgap.covered before hbef first hfst'
    rw [hsamp, totalDuration_append]
    push_cast
    rw [hcov, hdelta]
    change _ + ((duration90k _).toNat : ℤ) = _
    rw [toNat_duration90k (by omega) hfits]
    ring
  · intro hnone
    cases hnone

theorem Gapless.pushAudio (hgap : b.Gapless)
    (pending : PendingSample) : (b.pushAudio pending).Gapless :=
  ⟨hgap.chain, hgap.reached, hgap.covered, hgap.fresh⟩

end Buffers

namespace Segmenter

variable (s : Segmenter) (timestamp : UInt32)

/-- The duration of the last video sample before a segment that starts now: the
one it has, or the one it gets when the open segment is flushed. -/
def videoTail : UInt32 :=
  if s.videoTrack.pending.isSome then s.videoTrack.tailDuration s.config
  else s.videoTrack.lastDuration90k

/-- The timestamps of the video frames strictly increase, and the publisher
stays connected. -/
def Rises (action : Action) : Prop :=
  action ≠ .reconnect ∧ ∀ frame ∈ s.videoFrame action,
    s.haveLastVideoTs = true → s.lastVideoTs < frame.1
deriving Decidable

/-- A frame keeps the cadence when its distance from the last frame is the
duration already chosen for that frame, if it starts a segment, and fits in 32
bits otherwise. -/
def OnCadence (keyframe : Bool) : Prop :=
  let gap : ℤ := 90 * (timestamp.toNat - s.lastVideoTs.toNat)
  s.haveLastVideoTs = true →
    (s.startsSegment timestamp keyframe = true → (s.videoTail.toNat : ℤ) = gap) ∧
    (s.startsSegment timestamp keyframe = false → gap < 2 ^ 32)
deriving Decidable

def KeepsCadence (action : Action) : Prop :=
  (s.endsSegment action = true → s.buffers.Fits) ∧
    ∀ frame ∈ s.videoFrame action, s.OnCadence frame.1 frame.2.isKeyframe
deriving Decidable

theorem lastVideo_buffers {s : Segmenter} {last : UInt32} :
    last ∈ s.buffers.lastVideo ↔ s.haveLastVideoTs = true ∧ s.lastVideoTs = last := by
  unfold buffers
  cases s.haveLastVideoTs <;> simp

theorem lastDuration90k_flush : s.buffers.flush.video.lastDuration90k = s.videoTail :=
  lastDuration90k_closeTail _ _ _

theorem gapless_onVideoFrame {s : Segmenter} (h : s.buffers.Regular)
    (hgap : s.buffers.Gapless) {timestamp : UInt32} {tag : Media.H264.VideoTag}
    (hfits : s.cuts timestamp tag.isKeyframe = true → s.buffers.Fits)
    (hrises : s.haveLastVideoTs = true → s.lastVideoTs < timestamp)
    (hcad : s.OnCadence timestamp tag.isKeyframe) :
    (s.onVideoFrame timestamp tag).buffers.Gapless := by
  rw [buffers_onVideoFrame]
  split
  · next hcut =>
      refine (hgap.flush h (hfits hcut)).startSegment h.flush
        (Buffers.pending_clear_closeTail _ _ _) _ ?_
      intro last hlast
      obtain ⟨hhave, rfl⟩ := lastVideo_buffers.mp hlast
      rw [lastDuration90k_flush]
      exact (hcad hhave).1 (by simp [startsSegment, hcut])
  · next hcut =>
      cases hpend : s.buffers.video.pending with
      | none =>
        have hcl : s.segmentOpen = false := h.isOpen.trans (by rw [hpend]; rfl)
        refine hgap.startSegment h hpend _ ?_
        intro last hlast
        obtain ⟨hhave, rfl⟩ := lastVideo_buffers.mp hlast
        have htail := (hcad hhave).1 (by simp [startsSegment, hcl])
        rw [videoTail, show s.videoTrack.pending = none from hpend] at htail
        exact htail
      | some before =>
        have hopen : s.segmentOpen = true := h.isOpen.trans (by rw [hpend]; rfl)
        obtain ⟨hhave, hlast⟩ := lastVideo_buffers.mp (h.lastVideo before hpend)
        have hgapfits := (hcad hhave).2 (by simp [startsSegment, hopen, hcut])
        rw [hlast] at hgapfits
        have hlt := hrises hhave
        rw [hlast] at hlt
        exact hgap.continueSegment h hpend _ hlt hgapfits

theorem gapless_perform {s : Segmenter} {act : Action} (h : s.buffers.Regular)
    (hgap : s.buffers.Gapless) (hrises : s.Rises act)
    (hcad : s.KeepsCadence act) : (s.perform act).buffers.Gapless := by
  obtain ⟨hfits, hfr⟩ := hcad
  have hcall := s.buffers_perform act
  generalize (s.perform act).buffers = after at hcall ⊢
  cases hcall with
  | @video msg tag hinput =>
    have hmem := videoFrame_of_input hinput
    have hrise : s.haveLastVideoTs = true → s.lastVideoTs < msg.timestamp :=
      hrises.2 (msg.timestamp, tag) hmem
    have hkeep : s.OnCadence msg.timestamp tag.isKeyframe := hfr (msg.timestamp, tag) hmem
    rw [endsSegment_frame hinput] at hfits
    rw [← buffers_onVideoFrame]
    exact gapless_onVideoFrame h hgap hfits hrise hkeep
  | audio hinput => exact hgap.pushAudio _
  | reconnect base => exact (hrises.1 rfl).elim
  | quiet hne =>
    split
    · next hends => exact hgap.flush h (hfits hends)
    · exact hgap

theorem gapless_initial (cfg : SegmenterConfig) : (initial cfg).buffers.Gapless where
  chain := isChain_nil
  reached := by simp [initial, buffers]
  covered := by simp [initial, buffers]
  fresh := fun _ => rfl

/-- In a run whose frames keep the cadence, the durations of a segment add up to
the distance between its first video sample and that of the next segment. -/
theorem totalDuration_eq_distance (config : SegmenterConfig) (actions : List Action)
    (hrises : Run.Along perform Rises (initial config) actions)
    (hcadence : Run.Along perform KeepsCadence (initial config) actions)
    (front back : List Segment) {a b : Segment}
    (hconsecutive : (Run.run perform (initial config) actions).segments = front ++ a :: b :: back) :
    ∃ first first', a.video.samples.head? = some first ∧ b.video.samples.head? = some first' ∧
      (totalDuration a.video.samples : ℤ) =
        90 * (first'.timestampMs.toNat - first.timestampMs.toNat) := by
  have hrun : (Run.run perform (initial config) actions).buffers.Regular ∧
      (Run.run perform (initial config) actions).buffers.Gapless := by
    refine Run.run_invariant (fun s => s.buffers.Regular ∧ s.buffers.Gapless)
      (Run.along_and hrises hcadence) ⟨regular_initial config, gapless_initial config⟩ ?_
    intro s action ⟨hrise, hkeep⟩ ⟨hregular, hgap⟩
    exact ⟨regular_perform hregular action, gapless_perform hregular hgap hrise hkeep⟩
  have hchain : ((front ++ a :: b :: back).map fun segment =>
      segment.video.samples).IsChain Meets := by
    rw [← hconsecutive]
    simpa [buffers, comp_def] using hrun.2.chain
  rw [map_append] at hchain
  have hmeets : Meets a.video.samples b.video.samples :=
    (isChain_cons_cons.mp (isChain_append.mp hchain).2.1).1
  obtain ⟨first', hfirst', first, hfirst, hends⟩ := hmeets
  refine ⟨first, first', hfirst, hfirst', ?_⟩
  linarith

/-! ## Frames at a steady and at an uneven distance -/

/-- A sequence header for a picture of 16 by 16 luma samples. -/
def videoHeader (level : UInt8) : Action :=
  .video {
    messageTypeId := 9
    timestamp
    payload := [0x17, 0, 0, 0, 0, 1, 0x42, 0, level, 0xFF, 0xE1, 0, 6, 0x67, 0x42,
      0, level, 0xFB, 0xC0, 1, 0, 1, 0x68] }

def keyframe : Action :=
  .video {
    messageTypeId := 9
    timestamp
    payload := [0x17, 1, 0, 0, 0, 0x65] }

def steadyFrames : List Action :=
  [videoHeader 0 30, keyframe 1000, keyframe 3000, keyframe 5000, .finalize]

/-- The third keyframe of a steady stream starts a segment where the first one
ends. -/
theorem totalDuration_steadyFrames :
    ∃ a b, (Run.run perform (initial {}) steadyFrames).segments = [a, b] ∧
      ∃ first first', a.video.samples.head? = some first ∧ b.video.samples.head? = some first' ∧
        (totalDuration a.video.samples : ℤ) =
          90 * (first'.timestampMs.toNat - first.timestampMs.toNat) := by
  have hlength : (Run.run perform (initial {}) steadyFrames).segments.length = 2 := by
    decide +kernel
  obtain ⟨a, b, hsegments⟩ := length_eq_two.mp hlength
  refine ⟨a, b, hsegments, ?_⟩
  exact totalDuration_eq_distance {} steadyFrames (by decide +kernel)
    (by decide +kernel) [] [] hsegments

def unevenFrames : List Action :=
  [videoHeader 0 30, keyframe 1000, keyframe 3000, keyframe 6000, .finalize]

def videoTimestamp : Action → Option UInt32
  | .video message => some message.timestamp
  | _ => none

/-- The second keyframe is given the two seconds of the first one.  The third
one comes after three seconds, and the first segment is a second short. -/
theorem unevenFrames_leave_gap : ((unevenFrames.filterMap videoTimestamp).IsChain fun t t' =>
      t < t' ∧ t'.toNat - t.toNat ≤ 5000) ∧
    ∃ a b, (Run.run perform (initial {}) unevenFrames).segments = [a, b] ∧
      ∃ first first', a.video.samples.head? = some first ∧ b.video.samples.head? = some first' ∧
        (totalDuration a.video.samples : ℤ) ≠
          90 * (first'.timestampMs.toNat - first.timestampMs.toNat) := by
  refine ⟨by decide, ?_⟩
  obtain ⟨a, -, b, -, hsegments, first, hhead, first', hhead', hgap⟩ :
      let segments := (Run.run perform (initial {}) unevenFrames).segments
      ∃ a ∈ segments, ∃ b ∈ segments, segments = [a, b] ∧
        ∃ first ∈ a.video.samples.head?, ∃ first' ∈ b.video.samples.head?,
          (totalDuration a.video.samples : ℤ) ≠
            90 * (first'.timestampMs.toNat - first.timestampMs.toNat) := by
    decide +kernel
  exact ⟨a, b, hsegments, first, first', hhead, hhead', hgap⟩

end Segmenter

end RtmpCore.Dash
