import Mathlib.Tactic.LinearCombination
import RtmpCore.Dash.Gapless

/-!
# The clock of the audio track

The init segment declares the sample rate as the timescale of the audio track.
The durations of its samples are counted in units of 90 kHz.  No sample rate
comes close enough to 90 kHz for the two to agree, and what is left of a duration
that overflows misses the declared time as well.
-/

namespace RtmpCore.Dash

open Media.Aac Media.Mp4 List

/-- Read in the declared timescale, a sample lasts until the next one up to one
unit. -/
def InDeclaredTime (timescale : UInt32) (a b : TrackSample) : Prop :=
  |(a.sample.duration.toNat : ℤ) * 1000 -
    (b.timestampMs.toNat - a.timestampMs.toNat) * timescale.toNat| < 1000
deriving Decidable

theorem toNat_duration90k_eq_mod (milliseconds : ℤ) :
    ((duration90k milliseconds).toNat : ℤ) = 90 * max 1 milliseconds % 2 ^ 32 := by
  unfold duration90k
  rw [UInt32.toNat_ofNat']
  omega

theorem rate_far_from_90k {timescale : UInt32} (hrate : timescale ∈ samplingFrequencies) :
    7350 ≤ timescale.toNat ∧ (timescale.toNat + 1000 ≤ 90000 ∨ 91000 ≤ timescale.toNat) := by
  obtain ⟨i, rfl⟩ := get_of_mem hrate
  revert i
  decide

/-- The multiples of the distance to 90 kHz keep away from the overflows. -/
theorem rate_misses_overflow {timescale : UInt32} (hrate : timescale ∈ samplingFrequencies) :
    ∀ wraps < 12, 0 < wraps → timescale.toNat * (wraps + 1) ≤ 90000 →
      let far := 90000 - timescale.toNat
      1000 ≤ 1000 * 2 ^ 32 * wraps % far ∧ 1000 * 2 ^ 32 * wraps % far + 1000 ≤ far := by
  obtain ⟨i, rfl⟩ := get_of_mem hrate
  revert i
  decide +kernel

theorem far_from_multiples {far target : ℕ} (h : 1000 ≤ target % far ∧ target % far + 1000 ≤ far)
    (delta : ℤ) : 1000 ≤ |far * delta - target| := by
  have hsplit : (target : ℤ) = far * (target / far : ℕ) + (target % far : ℕ) := by
    exact_mod_cast (Nat.div_add_mod target far).symm
  generalize target / far = k at hsplit
  rw [le_abs, hsplit]
  rcases le_or_gt delta k with hle | hgt
  · right
    have := mul_le_mul_of_nonneg_left hle (Int.natCast_nonneg far)
    omega
  · left
    have := mul_le_mul_of_nonneg_left (Int.add_one_le_iff.mpr hgt) (Int.natCast_nonneg far)
    rw [mul_add] at this
    omega

/-- A duration in units of 90 kHz never agrees with the declared time. -/
theorem not_inDeclaredTime {timescale : UInt32}
    (hrate : timescale ∈ samplingFrequencies) {a b : TrackSample} (h : Follows a b) :
    ¬InDeclaredTime timescale a b := by
  obtain ⟨hlow, hfar⟩ := rate_far_from_90k hrate
  have hmiss := rate_misses_overflow hrate
  unfold InDeclaredTime
  rw [h, toNat_duration90k_eq_mod, not_lt]
  generalize (b.timestampMs.toNat : ℤ) - a.timestampMs.toNat = delta
  generalize timescale.toNat = rate at hlow hfar hmiss
  rcases le_or_gt delta 0 with hneg | hpos
  · -- the timestamps go back: the duration is one millisecond
    have hproduct : delta * rate ≤ 0 :=
      mul_nonpos_of_nonpos_of_nonneg hneg (Int.natCast_nonneg rate)
    rw [le_abs]
    omega
  rw [max_eq_right (by omega)]
  have hdivision := Int.emod_add_mul_ediv (90 * delta) (2 ^ 32)
  have hrest := Int.emod_lt_of_pos (90 * delta) (by decide : (0 : ℤ) < 2 ^ 32)
  have hrest' := Int.emod_nonneg (90 * delta) (by decide : (2 ^ 32 : ℤ) ≠ 0)
  obtain ⟨wraps, hwraps⟩ := Int.eq_ofNat_of_zero_le (by omega : 0 ≤ 90 * delta / 2 ^ 32)
  rw [hwraps] at hdivision
  generalize 90 * delta % 2 ^ 32 = rest at hdivision hrest hrest'
  have hdiff : rest * 1000 - delta * rate = (90000 - rate) * delta - 1000 * 2 ^ 32 * wraps := by
    linear_combination 1000 * hdivision
  by_contra hnear
  rw [not_le, hdiff, abs_lt] at hnear
  rcases Nat.eq_zero_or_pos wraps with rfl | hsome
  · -- no overflow: the two differ by the distance of the rates, each millisecond
    rcases hfar with hfar | hfar <;> zify at hfar <;> push_cast at hnear <;> nlinarith
  · have hle : rate * (wraps + 1) ≤ 90000 := by
      zify at hfar hsome ⊢
      rcases hfar with hfar | hfar <;> nlinarith
    have hfew : wraps < 12 := by nlinarith
    have hmiss := far_from_multiples (hmiss wraps hfew hsome hle) delta
    rw [le_abs, Nat.cast_sub (by nlinarith)] at hmiss
    push_cast at hmiss
    omega

namespace Segmenter

/-! ## The declared timescale is a sample rate -/

/-- The audio configuration in force, and those of all init segments, name a
sample rate of the table. -/
structure DeclaresRates (s : Segmenter) : Prop where
  current : ∀ config ∈ s.audioConfig, config.sampleRate ∈ samplingFrequencies
  declared : ∀ init ∈ s.inits, init.config.hasAudio = true →
    audioTimescale init.config ∈ samplingFrequencies

variable {body : Bytes} {cfg : AudioSpecificConfig} {s : Segmenter}

theorem sampleRate_of_parse (h : parseAudioSpecificConfig body = .ok cfg) :
    cfg.sampleRate ∈ samplingFrequencies := by
  obtain ⟨_, index, _, -, hlt, rfl⟩ := parseAudioSpecificConfig_eq_ok h
  change samplingFrequencies.getD index.toUInt8.toNat 0 ∈ samplingFrequencies
  rw [getD_eq_getElem _ _ hlt]
  exact getElem_mem hlt

section

variable (h : s.DeclaresRates)
include h

/-- Calls that touch neither the audio configuration nor the init segments. -/
theorem DeclaresRates.of_eq {s' : Segmenter}
    (hcfg : s'.audioConfig = s.audioConfig) (hinits : s'.inits = s.inits) : s'.DeclaresRates where
  current := by rw [hcfg]; exact h.current
  declared := by rw [hinits]; exact h.declared

theorem DeclaresRates.flushSegment : s.flushSegment.DeclaresRates := by
  dsimp only [Segmenter.flushSegment]
  split
  · exact h.of_eq rfl rfl
  · dsimp only [writeSegment]
    split
    · exact h.of_eq rfl rfl
    · exact h.of_eq rfl rfl

theorem DeclaresRates.rebuildInitSegment : s.rebuildInitSegment.DeclaresRates := by
  unfold Segmenter.rebuildInitSegment
  split
  · exact h
  · split
    · exact h
    · refine ⟨h.current, ?_⟩
      intro init hinit haud
      rcases mem_append.mp hinit with hold | hnew
      · exact h.declared init hold haud
      · obtain rfl := mem_singleton.mp hnew
        obtain ⟨cfg, hcfg⟩ := Option.isSome_iff_exists.mp haud
        have hrate := h.current cfg hcfg
        simpa [audioTimescale, fmp4InitConfig, hcfg] using hrate

theorem DeclaresRates.onVideoHeader (body : Bytes) (cfg : Media.H264.AvcDecoderConfig) :
    (s.onVideoHeader body cfg).DeclaresRates := by
  have hfl : (if s.videoConfigChanges cfg then s.flushSegment else s).DeclaresRates := by
    split
    · exact h.flushSegment
    · exact h
  dsimp only [Segmenter.onVideoHeader]
  split
  · exact hfl.of_eq rfl rfl
  · split
    · exact DeclaresRates.rebuildInitSegment (hfl.of_eq rfl rfl)
    · exact hfl.of_eq rfl rfl

theorem DeclaresRates.onAudioHeader (body : Bytes) (hrate : cfg.sampleRate ∈ samplingFrequencies) :
    (s.onAudioHeader body cfg).DeclaresRates := by
  have hfl : (if s.audioConfigChanges cfg then s.flushSegment else s).DeclaresRates := by
    split
    · exact h.flushSegment
    · exact h
  dsimp only [Segmenter.onAudioHeader]
  generalize (if s.audioConfigChanges cfg then s.flushSegment else s) = flushed
    at hfl ⊢
  have hset : ({ flushed with
      audioConfig := some cfg
      audioSpecificConfigRaw := body } : Segmenter).DeclaresRates := by
    refine ⟨?_, hfl.declared⟩
    simpa using hrate
  split
  · exact hset.rebuildInitSegment
  · exact hset

theorem DeclaresRates.onVideoFrame (ts : UInt32) (tag : Media.H264.VideoTag) :
    (s.onVideoFrame ts tag).DeclaresRates := by
  have hbreak : (s.breakTimeline ts).DeclaresRates := by
    unfold breakTimeline
    split
    · exact h.flushSegment.of_eq rfl rfl
    · exact h
  have hcut : ((s.breakTimeline ts).cutSegment ts tag.isKeyframe).DeclaresRates := by
    unfold cutSegment
    split
    · exact hbreak.flushSegment
    · split
      · exact DeclaresRates.flushSegment (hbreak.of_eq rfl rfl)
      · exact hbreak
  unfold Segmenter.onVideoFrame
  generalize (s.breakTimeline ts).cutSegment ts tag.isKeyframe = cut
    at hcut ⊢
  have hopen : (cut.openSegment ts).DeclaresRates := by
    unfold openSegment
    split
    · exact hcut
    · exact hcut.of_eq rfl rfl
  exact hopen.of_eq rfl rfl

end

theorem audioHeader_accepted {msg : Chunk.RtmpMessage} (h : s.audioInput msg = .header body cfg) :
    parseAudioSpecificConfig body = .ok cfg := by
  unfold audioInput at h
  split at h
  · cases h
  split at h
  · cases h
  split at h
  · split at h
    · cases h
    · next hparse =>
        cases h
        exact hparse
  · split at h
    · cases h
    split at h
    · cases h
    split at h <;> cases h

theorem declaresRates_perform (h : s.DeclaresRates)
    (act : Action) : (s.perform act).DeclaresRates := by
  cases act with
  | metadata msg => exact h
  | audio msg =>
    simp only [perform, onAudio]
    split
    · exact h
    · exact h.of_eq rfl rfl
    · next body cfg hinput =>
        exact h.onAudioHeader body (sampleRate_of_parse (audioHeader_accepted hinput))
    · exact h.of_eq rfl rfl
  | video msg =>
    simp only [perform, onVideo]
    split
    · exact h
    · exact h.of_eq rfl rfl
    · exact h.onVideoHeader _ _
    · exact h.onVideoFrame _ _
  | finalize =>
    simp only [perform, finalize]
    split
    · exact h
    · exact DeclaresRates.flushSegment (h.of_eq rfl rfl)
  | reconnect =>
    refine ⟨?_, h.flushSegment.declared⟩
    simp [perform, markPublisherReconnect]

theorem declaresRates_initial (cfg : SegmenterConfig) : (initial cfg).DeclaresRates where
  current := by simp [initial]
  declared := by simp [initial]

/-- No run declares a reserved sampling frequency. -/
theorem declaresRates_run (cfg : SegmenterConfig) (acts : List Action) :
    (Run.run perform (initial cfg) acts).DeclaresRates :=
  Run.run_invariant_always _ (declaresRates_initial cfg) fun _ act h => declaresRates_perform h act

/-- The audio of a segment keeps to the timescale that an init segment declares exactly
if there are no two samples of it. -/
theorem inDeclaredTime_iff_length_le_one (config : SegmenterConfig)
    (actions : List Action) {segment : Segment} {init : InitSegment}
    (hsegment : segment ∈ (Run.run perform (initial config) actions).segments)
    (hinit : init ∈ (Run.run perform (initial config) actions).inits)
    (haudio : init.config.hasAudio = true) :
    segment.audio.samples.IsChain (InDeclaredTime (audioTimescale init.config)) ↔
      segment.audio.samples.length ≤ 1 := by
  have hregular : (Run.run perform (initial config) actions).buffers.Regular :=
    Run.run_invariant_always (fun s : Segmenter => s.buffers.Regular)
      (regular_initial config) fun _ action h => regular_perform h action
  have hrates : (Run.run perform (initial config) actions).DeclaresRates :=
    Run.run_invariant_always DeclaresRates (declaresRates_initial config)
      fun _ action h => declaresRates_perform h action
  have hrate := hrates.declared init hinit haudio
  have hfollows : segment.audio.samples.IsChain Follows :=
    (hregular.written (segment.video, segment.audio) (mem_map.mpr ⟨segment, hsegment, rfl⟩)).2.2
  generalize segment.audio.samples = samples at hfollows ⊢
  rcases samples with _ | ⟨a, _ | ⟨b, rest⟩⟩
  · simp
  · simp
  · rw [isChain_cons_cons] at hfollows ⊢
    have hoff := not_inDeclaredTime hrate hfollows.1
    simp [hoff]

/-! ## A stereo stream at 44.1 kHz -/

def audioHeader : Action := .audio { messageTypeId := 8, payload := [0xAF, 0, 0x12, 0x10] }

def audioFrameAt (timestamp : UInt32) : Action :=
  .audio {
    messageTypeId := 8
    timestamp
    payload := [0xAF, 1, 0x21] }

def stereoFrames : List Action :=
  [videoHeader 0 30, audioHeader, keyframe 1000, audioFrameAt 1000, audioFrameAt 1023, .finalize]

theorem stereoFrames_output :
    let s := Run.run perform (initial {}) stereoFrames
    ∃ seg ∈ s.segments, ∃ init ∈ s.inits, init.epoch = seg.initEpoch ∧
      init.config.hasAudio = true ∧ audioTimescale init.config = 44100 ∧
      ¬seg.audio.samples.IsChain (InDeclaredTime 44100) := by
  decide +kernel

/-- The equivalence at the stereo stream: it has two samples. -/
theorem two_samples_stereoFrames : ∃ segment init,
      segment ∈ (Run.run perform (initial {}) stereoFrames).segments ∧
      init ∈ (Run.run perform (initial {}) stereoFrames).inits ∧
      init.config.hasAudio = true ∧ ¬segment.audio.samples.length ≤ 1 := by
  obtain ⟨segment, hsegment, init, hinit, -, haudio, hrate, htime⟩ := stereoFrames_output
  refine ⟨segment, init, hsegment, hinit, haudio, ?_⟩
  rw [← inDeclaredTime_iff_length_le_one {} stereoFrames hsegment hinit haudio, hrate]
  exact htime

/-- A frame of 23 milliseconds lasts 2070 units of the declared 44.1 kHz, which
are 47 milliseconds. -/
theorem stereoFrames_off_declared_time : ∃ segment init,
      segment ∈ (Run.run perform (initial {}) stereoFrames).segments ∧
      init ∈ (Run.run perform (initial {}) stereoFrames).inits ∧
      init.epoch = segment.initEpoch ∧ init.config.hasAudio = true ∧
      ¬segment.audio.samples.IsChain (InDeclaredTime (audioTimescale init.config)) := by
  obtain ⟨segment, hsegment, init, hinit, hepoch, haudio, hrate, htime⟩ := stereoFrames_output
  exact ⟨segment, init, hsegment, hinit, hepoch, haudio, hrate ▸ htime⟩

end Segmenter

end RtmpCore.Dash
