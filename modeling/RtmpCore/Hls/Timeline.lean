import RtmpCore.Hls.Segmenter
import RtmpCore.Support.Run
import Mathlib.Data.List.Chain

/-!
# What the segmenter writes

A player joins a stream at a segment, follows the clock of its frames, and adds
up the durations of its playlist.  Each of these rests on the frame that begins
a segment: that it is a keyframe, that it can be converted, and when it comes.
-/

namespace RtmpCore.Hls

open RtmpCore.Core Chunk Media.H264 Media.Aac Run List

def AccessUnit.dts : AccessUnit → Option UInt64
  | video _ _ _ dts _ => some dts
  | audio .. => none

def AccessUnit.frameTimestamp : AccessUnit → Option UInt32
  | video timestamp .. => some timestamp
  | audio .. => none

namespace Segmenter

variable {s : Segmenter} {frame : Frame} {timestamp : UInt32} {event : SegmenterEvent}

/-! ## What a step can do -/

/-- The frame of a message, if the segmenter takes it for one. -/
def codedFrame (s : Segmenter) : SegmenterEvent → Option Frame
  | .video message =>
    match parseVideoTag message.payload, s.videoConfig with
    | .ok tag, some config =>
      if s.finalized = false ∧ tag.avcPacketType = avcPacketTypeNalu then
        some ⟨message.timestamp, tag, config⟩
      else none
    | _, _ => none
  | _ => none

/-- A frame begins a segment. -/
def opens (s : Segmenter) (frame : Frame) : Bool :=
  s.isDiscontinuous frame.timestamp || !s.segmentOpen || s.isDue frame ||
    s.overLimit frame.timestamp

/-- What is closed under all that is done apart from writing. -/
structure Steady (Q : Segmenter → Prop) : Prop where
  part : ∀ {s timestamp force}, Q s → Q (s.maybeClosePart timestamp force)
  close : ∀ {s}, Q s → (s.segmentOpen = true → s.current = []) → Q { s with segmentOpen := false }
  publish : ∀ {s}, Q s → s.segmentOpen = true → Q s.publish
  mark : ∀ {s}, Q s → Q { s with pendingDiscontinuity := true }
  tune : ∀ {s videoConfig} (audioConfig finalized), Q s →
    (∀ config ∈ videoConfig, config ∈ s.videoConfig ∨ config.valid = true) →
    Q { s with videoConfig, audioConfig, finalized }

theorem valid_of_parse {record : Bytes} {config : AvcDecoderConfig}
    (h : parseDecoderConfig record = .ok config) : config.valid = true := by
  unfold parseDecoderConfig at h
  split at h
  · cases h
  · obtain ⟨⟨sps, offset⟩, -, h⟩ := bind_eq_ok.mp h
    dsimp only at h
    split at h
    · cases h
    · obtain ⟨⟨pps, _⟩, -, h⟩ := bind_eq_ok.mp h
      split at h
      · cases h
        assumption
      · cases h

theorem segmentOpen_maybeClosePart (force : Bool) :
    (s.maybeClosePart timestamp force).segmentOpen = s.segmentOpen := by
  unfold maybeClosePart
  dsimp only
  split <;> rfl

theorem segmentOpen_flushSegment : s.flushSegment.segmentOpen = false := by
  unfold flushSegment
  split <;> rfl

theorem segmentOpen_prepare : (s.prepare frame).segmentOpen = true := by
  unfold prepare
  dsimp only
  split
  · assumption
  · rfl

theorem segmentOpen_settle (hopens : s.opens frame = true) :
    (s.settle frame).segmentOpen = false := by
  unfold settle
  split_ifs with hjump hclosed hdue hlimit
  · exact segmentOpen_flushSegment
  · exact hclosed
  · exact segmentOpen_flushSegment
  · exact segmentOpen_flushSegment
  · simp_all [opens]

theorem marked_settle (hopens : s.opens frame = true) (hkey : frame.tag.isKeyframe = false)
    (hlead : s.segmentOpen = true ∨ s.isDiscontinuous frame.timestamp = true ∨
      s.pendingDiscontinuity = true) : (s.settle frame).pendingDiscontinuity = true := by
  unfold settle
  split_ifs with hjump hclosed hdue hlimit
  · rfl
  · simp_all
  · simp_all [isDue]
  · rfl
  · simp_all [opens]

/-- A frame is written to the open segment, or to a new one, where it has to be
converted. -/
theorem onFrame_rule {P : Segmenter → Prop} (h : P s)
    (hwrite : s.segmentOpen = true → ∀ annexb, P (s.writeFrame frame annexb))
    (hopens : s.opens frame = true → frame.annexb.isOk = true ∧
      ∀ annexb, frame.annexb = .ok annexb →
        P (((s.settle frame).startSegment frame.timestamp).writeFrame frame annexb)) :
    P (s.onFrame frame) := by
  unfold onFrame
  cases hcut : s.opens frame with
  | false =>
    have hopen : s.segmentOpen = true ∧ s.settle frame = s := by
      unfold settle
      simp_all [opens]
    have hsame : s.prepare frame = s := by
      rw [prepare, hopen.2, hopen.1]
      rfl
    rw [hsame]
    cases frame.annexb with
    | error _ => exact h
    | ok annexb => exact hwrite hopen.1 annexb
  | true =>
    have hstart : s.prepare frame = (s.settle frame).startSegment frame.timestamp := by
      rw [prepare, segmentOpen_settle hcut]
      rfl
    obtain ⟨hok, hwrite⟩ := hopens hcut
    cases hannexb : frame.annexb with
    | error _ =>
      rw [hannexb] at hok
      cases hok
    | ok annexb =>
      rw [hstart]
      exact hwrite annexb hannexb

namespace Steady

variable {Q : Segmenter → Prop} (hQ : Steady Q)
include hQ

theorem flushSegment (h : Q s) : Q s.flushSegment := by
  unfold Segmenter.flushSegment
  split
  next hidle =>
    apply hQ.close h
    intro hopen
    simpa [hopen] using hidle
  · apply hQ.publish (hQ.part h)
    simp_all [segmentOpen_maybeClosePart]

theorem interrupt (h : Q s) : Q s.interrupt := hQ.mark (hQ.flushSegment h)

theorem settle (h : Q s)
    (hjump : s.isDiscontinuous frame.timestamp = true → Q (s.skip frame.timestamp)) :
    Q (s.settle frame) := by
  unfold Segmenter.settle
  split_ifs with hdisc
  · exact hjump hdisc
  · exact h
  · exact hQ.flushSegment h
  · exact hQ.interrupt h
  · exact h

/-- A message is a frame, or audio for an open segment, or writes nothing. -/
theorem perform (h : Q s) (hframe : ∀ frame ∈ s.codedFrame event, Q (s.onFrame frame))
    (haudio : s.segmentOpen = true →
      ∀ timestamp config body, Q (s.writeAudio timestamp config body))
    (hrestart : event = .publisherReconnect → Q { s.interrupt with
      haveLastTs := false, timelineBaseMs := s.timelineBaseMs + s.lastTs.toNat + 1 }) :
    Q (s.perform event) := by
  cases event with
  | video message =>
    dsimp only [Segmenter.perform, onVideo]
    split
    · exact h
    · cases hparse : parseVideoTag message.payload with
      | error _ => exact h
      | ok tag =>
        dsimp only
        split
        · cases hconfig : parseDecoderConfig tag.body with
          | error _ => exact h
          | ok config =>
            have hvalid := valid_of_parse hconfig
            dsimp only [onVideoConfig]
            split
            · exact hQ.tune _ _ (hQ.interrupt h) (by simp [hvalid])
            · exact hQ.tune _ _ h (by simp [hvalid])
        · split
          · exact h
          · cases hconfig : s.videoConfig with
            | none => exact h
            | some config =>
              apply hframe ⟨message.timestamp, tag, config⟩
              simp_all [codedFrame]
  | audio message =>
    dsimp only [Segmenter.perform, onAudio]
    split
    · exact h
    · cases parseAudioTag message.payload with
      | error _ => exact h
      | ok tag =>
        dsimp only
        split
        · cases parseAudioSpecificConfig tag.body with
          | error _ => exact h
          | ok config =>
            dsimp only
            split
            · exact hQ.tune _ _ (hQ.interrupt h) fun _ => .inl
            · exact hQ.tune _ _ h fun _ => .inl
        · cases s.audioConfig with
          | none => exact h
          | some config =>
            dsimp only
            split
            · exact h
            · exact haudio (by simp_all) _ _ _
  | publisherReconnect => exact hQ.tune _ _ (hrestart rfl) nofun
  | mediaDiscontinuity => exact hQ.tune _ _ (hQ.interrupt h) nofun
  | finalize =>
    dsimp only [Segmenter.perform, Segmenter.finalize]
    split
    · exact h
    · exact hQ.flushSegment (hQ.tune _ _ h fun _ => .inl)

end Steady

/-! ## Joining at a segment -/

/-- The frame is coded at a moment of the run.  Its configuration is the one in force
then. -/
def CodedIn (config : SegmenterConfig) (events : List SegmenterEvent) (frame : Frame) : Prop :=
  ∃ front event rest, events = front ++ event :: rest ∧
    frame ∈ (run Segmenter.perform { config } front).codedFrame event

/-- The parameter sets of the configuration stand before the NAL units of the frame. -/
def BringsParameterSets (config : AvcDecoderConfig) (annexb : Bytes) : Prop :=
  config.valid = true ∧ ∃ units, annexb =
    startCode ++ [0x09, 0xF0] ++ (config.sps ++ config.pps).flatMap (startCode ++ ·) ++ units

/-- The first unit is a coded keyframe with its parameter sets, or a frame of a marked
segment. -/
def Joinable (coded : Frame → Prop) (discontinuity : Bool) : List AccessUnit → Prop
  | .video timestamp annexb _ _ keyframe :: _ =>
    (keyframe = true ∧ ∃ frame, coded frame ∧ frame.timestamp = timestamp ∧
      frame.annexb = .ok annexb ∧ BringsParameterSets frame.config annexb) ∨ discontinuity = true
  | _ => False

/-- A frame that begins a segment can be converted, and is a keyframe where no
mark is due. -/
def Leads (s : Segmenter) (event : SegmenterEvent) : Prop :=
  ∀ frame ∈ s.codedFrame event, s.opens frame = true → frame.annexb.isOk = true ∧
    (frame.tag.isKeyframe = true ∨ s.segmentOpen = true ∨
      s.isDiscontinuous frame.timestamp = true ∨ s.pendingDiscontinuity = true)
deriving Decidable

structure Joining (coded : Frame → Prop) (s : Segmenter) : Prop where
  parsed : ∀ config ∈ s.videoConfig, config.valid = true
  opened : s.segmentOpen = true → Joinable coded s.pendingDiscontinuity s.current
  published : ∀ segment ∈ s.segments, Joinable coded segment.discontinuity segment.units

section

variable {coded : Frame → Prop} {discontinuity : Bool} {units : List AccessUnit}

theorem Joinable.append (h : Joinable coded discontinuity units) (more : List AccessUnit) :
    Joinable coded discontinuity (units ++ more) := by
  match units, h with
  | .video .. :: _, h => exact h

theorem Joinable.mark (h : Joinable coded discontinuity units) : Joinable coded true units := by
  match units, h with
  | .video .. :: _, _ => exact .inr rfl

theorem steady_joining : Steady (Joining coded) where
  part h := by
    unfold maybeClosePart
    dsimp only
    split
    · exact h
    · exact { h with }
  close h _ := { h with opened := nofun }
  publish h hopen := by
    refine ⟨h.parsed, nofun, forall_mem_append.mpr ⟨h.published, ?_⟩⟩
    intro segment hmem
    rw [mem_singleton.mp hmem]
    exact h.opened hopen
  mark h := { h with opened := fun hopen => (h.opened hopen).mark }
  tune _ _ h hconfig :=
    { h with parsed := fun config hmem => (hconfig config hmem).elim (h.parsed config) id }

theorem bringsParameterSets (hvalid : frame.config.valid = true) {annexb : Bytes}
    (hkey : frame.tag.isKeyframe = true) (h : frame.annexb = .ok annexb) :
    BringsParameterSets frame.config annexb := by
  rw [Frame.annexb, hkey] at h
  unfold avccToAnnexb at h
  dsimp only at h
  split at h
  · cases h
  · obtain ⟨units, -, h⟩ := bind_eq_ok.mp h
    cases h
    exact ⟨hvalid, units, rfl⟩

theorem config_of_codedFrame (h : frame ∈ s.codedFrame event) : frame.config ∈ s.videoConfig := by
  unfold codedFrame at h
  split at h
  · split at h
    · split at h
      · cases h
        assumption
      · cases h
    · cases h
  · cases h

theorem Joining.perform (h : Joining coded s) (hleads : Leads s event)
    (hcoded : ∀ frame ∈ s.codedFrame event, coded frame) : Joining coded (s.perform event) := by
  have hstop := steady_joining.interrupt h
  apply steady_joining.perform h
  · intro frame hframe
    have hvalid := h.parsed _ (config_of_codedFrame hframe)
    apply onFrame_rule h
    · intro hopen annexb
      exact steady_joining.part { h with opened := fun _ => (h.opened hopen).append _ }
    · intro hopens
      obtain ⟨hok, hlead⟩ := hleads frame hframe hopens
      refine ⟨hok, fun annexb hannexb => ?_⟩
      have hsettled : Joining coded (s.settle frame) :=
        steady_joining.settle h fun _ => { hstop with }
      refine steady_joining.part { hsettled with opened := fun _ => ?_ }
      cases hkey : frame.tag.isKeyframe with
      | true =>
        exact .inl ⟨rfl, frame, hcoded frame hframe, rfl, hannexb,
          bringsParameterSets hvalid hkey hannexb⟩
      | false =>
        rw [hkey] at hlead
        exact .inr (marked_settle hopens hkey (hlead.resolve_left nofun))
  · intro hopen timestamp config body
    exact steady_joining.part { h with opened := fun _ => (h.opened hopen).append _ }
  · exact fun _ => { hstop with }

end

/-- When every frame that begins a segment can be converted and is a keyframe or
follows a mark, every published segment can be joined. -/
theorem run_joinable (config : SegmenterConfig) (events : List SegmenterEvent)
    (hleads : Along Segmenter.perform Leads { config } events) :
    ∀ segment ∈ (run Segmenter.perform { config } events).segments,
      Joinable (CodedIn config events) segment.discontinuity segment.units := by
  have hcoded : Along Segmenter.perform (fun s event => ∀ frame ∈ s.codedFrame event,
      CodedIn config events frame) { config } events :=
    along_of_forall fun front event rest hsplit frame hframe => ⟨front, event, rest, hsplit, hframe⟩
  have hjoining : Joining (CodedIn config events) (run Segmenter.perform { config } events) :=
    run_invariant _ (along_and hleads hcoded) ⟨nofun, nofun, nofun⟩
      fun _ _ hstep h => h.perform hstep.1 hstep.2
  exact hjoining.published

def headerMessage (timestamp : UInt32) : SegmenterEvent :=
  .video { timestamp, payload := [0x17, 0, 0, 0, 0, 1, 0x64, 0, 0x1F, 0xFF, 0xE1, 0, 1, 0x67,
    1, 0, 1, 0x68] }

def frameMessage (kind : UInt8) (timestamp : UInt32) : SegmenterEvent :=
  .video { timestamp, payload := [kind, 1, 0, 0, 0, 0, 0, 0, 1, 0x65] }

/-- A keyframe cut between two segments. -/
theorem run_joinable_keyframes :
    let events := [headerMessage 0, frameMessage 0x17 0, frameMessage 0x27 40,
      frameMessage 0x17 4000, .finalize]
    (run Segmenter.perform {} events).segments.length = 2 ∧
      ∀ segment ∈ (run Segmenter.perform {} events).segments,
        Joinable (CodedIn {} events) segment.discontinuity segment.units :=
  ⟨by decide +kernel, run_joinable {} _ (by decide +kernel)⟩

/-- A stream whose first frame is not a keyframe. -/
theorem run_not_joinable :
    let events := [headerMessage 0, frameMessage 0x27 0, .finalize]
    ¬∀ segment ∈ (run Segmenter.perform {} events).segments,
      Joinable (CodedIn {} events) segment.discontinuity segment.units := by
  intro events h
  have hjoin := h ⟨0, "segment-0.ts", [.video 0 [0, 0, 0, 1, 9, 0xF0, 0, 0, 0, 1, 0x65] 0 0 false],
    0, false, [], 0⟩ (by decide +kernel)
  simp [Joinable] at hjoin

/-! ## The clock of the video -/

/-- The decoding times of the frames written so far. -/
def decodingTimes (s : Segmenter) : List UInt64 :=
  (s.segments.flatMap TsSegment.units ++ if s.segmentOpen then s.current else []).filterMap
    AccessUnit.dts

/-- A frame is not earlier than the last one, or the jump is taken out of the
timeline and the frame is written. -/
def OnTime (s : Segmenter) (event : SegmenterEvent) : Prop :=
  ∀ frame ∈ s.codedFrame event, (if s.isDiscontinuous frame.timestamp then
      frame.timestamp ≤ s.lastTs ∨ frame.annexb.isOk = true
    else s.haveLastTs = true → s.lastTs ≤ frame.timestamp) ∧
    90 * (s.timelineBaseMs + max frame.timestamp.toNat (s.lastTs.toNat + 1)) < 2 ^ 64
deriving Decidable

/-- The times are in order, and none is beyond the point. -/
structure Paced (point : ℤ) (times : List UInt64) : Prop where
  sorted : times.Pairwise (· ≤ ·)
  reached : ∀ dts ∈ times, (dts.toNat : ℤ) ≤ 90 * point
  nonneg : 0 ≤ point

section

variable {point point' : ℤ} {times : List UInt64}

theorem Paced.mono (h : Paced point times) (hle : point ≤ point') : Paced point' times where
  sorted := h.sorted
  reached dts hmem := (h.reached dts hmem).trans (by omega)
  nonneg := h.nonneg.trans hle

theorem Paced.concat (h : Paced point times) (hle : point ≤ point') {dts : UInt64}
    (hdts : dts.toNat = 90 * point') : Paced point' (times ++ [dts]) := by
  refine ⟨pairwise_append.mpr ⟨h.sorted, pairwise_singleton _ _, ?_⟩, ?_, h.nonneg.trans hle⟩
  · intro past hpast last hlast
    have hreached := h.reached past hpast
    rw [mem_singleton.mp hlast, UInt64.le_iff_toNat_le]
    omega
  · refine forall_mem_append.mpr ⟨(h.mono hle).reached, ?_⟩
    intro last hlast
    rw [mem_singleton.mp hlast, hdts]

end

/-- What only writing changes: the times, and the fields that place the next one. -/
structure Track where
  times : List UInt64
  base : ℤ
  last : UInt32
  started : Bool

def track (s : Segmenter) : Track := ⟨s.decodingTimes, s.timelineBaseMs, s.lastTs, s.haveLastTs⟩

theorem steady_track (P : Track → Prop) : Steady fun s => P s.track where
  part {s timestamp force} h := by
    have hsame : (s.maybeClosePart timestamp force).track = s.track := by
      unfold maybeClosePart
      dsimp only
      split <;> rfl
    rwa [hsame]
  close {s} h hempty := by
    cases hopen : s.segmentOpen with
    | false => simpa [track, decodingTimes, hopen] using h
    | true => simpa [track, decodingTimes, hopen, hempty hopen] using h
  publish h hopen := by simpa [track, decodingTimes, Segmenter.publish, hopen] using h
  mark h := h
  tune _ _ h _ := h

/-- Where the timeline has arrived. -/
def Track.reach (t : Track) : ℤ := t.base + if t.started then t.last.toNat else 0

def Track.Timely (t : Track) : Prop := Paced t.reach t.times

theorem track_prepare : (s.prepare frame).track = { s.track with
    base := if s.isDiscontinuous frame.timestamp then
        s.timelineBaseMs + s.lastTs.toNat - frame.timestamp.toNat + 1
      else s.timelineBaseMs } := by
  have hsame := steady_track (· = s.track)
  have hsettle : (s.settle frame).track = { s.track with
      base := if s.isDiscontinuous frame.timestamp then
          s.timelineBaseMs + s.lastTs.toNat - frame.timestamp.toNat + 1
        else s.timelineBaseMs } := by
    by_cases hjump : s.isDiscontinuous frame.timestamp = true
    · rw [settle, if_pos hjump, if_pos hjump, ← hsame.interrupt rfl]
      rfl
    · rw [if_neg hjump]
      exact hsame.settle rfl fun hyes => absurd hyes hjump
  rw [← hsettle]
  unfold prepare
  dsimp only
  split
  · rfl
  · simp_all [track, decodingTimes, startSegment]

theorem timely_writeFrame {point : ℤ} (h : Paced point s.decodingTimes)
    (hopen : s.segmentOpen = true) {annexb : Bytes}
    (hle : point ≤ s.timelineBaseMs + frame.timestamp.toNat)
    (hfits : 90 * (s.timelineBaseMs + frame.timestamp.toNat) < 2 ^ 64) :
    (s.writeFrame frame annexb).track.Timely := by
  apply (steady_track Track.Timely).part
  have hdts : (s.to90k frame.timestamp.toNat).toNat =
      90 * (s.timelineBaseMs + frame.timestamp.toNat) := by
    have hnonneg := h.nonneg
    rw [to90k, UInt64.toNat_mul, UInt64.toNat_ofNat', UInt64.toNat_ofNat]
    simp only [Nat.reducePow, Nat.reduceMod]
    omega
  simpa [Track.Timely, Track.reach, track, decodingTimes, hopen, AccessUnit.dts]
    using h.concat hle hdts

theorem timely_onFrame (h : s.track.Timely) (hpace : if s.isDiscontinuous frame.timestamp then
        frame.timestamp ≤ s.lastTs ∨ frame.annexb.isOk = true
      else s.haveLastTs = true → s.lastTs ≤ frame.timestamp)
    (hfits : 90 * (s.timelineBaseMs + max frame.timestamp.toNat (s.lastTs.toNat + 1)) < 2 ^ 64) :
    (s.onFrame frame).track.Timely := by
  have hprep : (s.prepare frame).track = _ := track_prepare
  have htimes : (s.prepare frame).decodingTimes = s.decodingTimes := congrArg Track.times hprep
  -- The frame is placed behind what was reached, and so is what follows a frame that is lost.
  have hahead : s.track.reach ≤ (s.prepare frame).track.base + frame.timestamp.toNat ∧
      90 * ((s.prepare frame).track.base + frame.timestamp.toNat) < 2 ^ 64 ∧
      (frame.annexb.isOk = false → s.track.reach ≤ (s.prepare frame).track.reach) := by
    rw [hprep]
    simp only [UInt32.le_iff_toNat_le] at hpace
    by_cases hjump : s.isDiscontinuous frame.timestamp = true
    · have hstarted := (Bool.and_eq_true_iff.mp hjump).1
      rw [if_pos hjump] at hpace ⊢
      simp only [Track.reach, track, hstarted, if_true]
      refine ⟨by omega, by omega, fun hno => ?_⟩
      rw [hno] at hpace
      have hback := hpace.resolve_right nofun
      omega
    · rw [if_neg hjump] at hpace ⊢
      refine ⟨?_, by simp only; omega, fun _ => le_rfl⟩
      cases hstarted : s.haveLastTs with
      | true =>
        have hle := hpace hstarted
        simpa [Track.reach, track, hstarted] using hle
      | false => simp [Track.reach, track, hstarted]
  obtain ⟨hle, hfit, hdrop⟩ := hahead
  have hpast : Paced s.track.reach (s.prepare frame).decodingTimes := by
    rw [htimes]
    exact h
  unfold onFrame
  cases hannexb : frame.annexb with
  | error _ =>
    rw [hannexb] at hdrop
    exact hpast.mono (hdrop rfl)
  | ok annexb => exact timely_writeFrame hpast segmentOpen_prepare hle hfit

theorem timely_perform (h : s.track.Timely) (hontime : OnTime s event) :
    (s.perform event).track.Timely := by
  have hsteady := steady_track Track.Timely
  apply hsteady.perform h
  · exact fun frame hframe => timely_onFrame h (hontime frame hframe).1 (hontime frame hframe).2
  · intro hopen timestamp config body
    apply hsteady.part
    have htimes : (s.audioUnits timestamp config body).filterMap AccessUnit.dts = [] := by
      unfold audioUnits
      dsimp only
      split <;> rfl
    refine @Paced.mono s.track.reach _ _ ?_ ?_
    · simpa [Track.Timely, track, decodingTimes, hopen, htimes] using h
    · cases hstarted : s.haveLastTs with
      | true | false => simp [Track.reach, track, hstarted]
  · intro _
    refine (hsteady.interrupt h).mono ?_
    have hsame : s.interrupt.track = s.track := (steady_track (· = s.track)).interrupt rfl
    rw [hsame]
    cases hstarted : s.haveLastTs with
    | true => simp [Track.reach, track, hstarted]
    | false =>
      simp [Track.reach, track, hstarted]
      omega

/-- When every frame is ahead of the last one, or a jump that is written, the
decoding times never go back. -/
theorem run_decodingTimes (config : SegmenterConfig) (events : List SegmenterEvent)
    (hontime : Along Segmenter.perform OnTime { config } events) :
    (run Segmenter.perform { config } events).decodingTimes.Pairwise (· ≤ ·) :=
  (run_invariant (Track.Timely ∘ track) hontime ⟨.nil, nofun, le_rfl⟩
    fun _ _ hframe h => timely_perform h hframe).sorted

/-- A frame whose length field goes beyond it. -/
def brokenMessage (timestamp : UInt32) : SegmenterEvent :=
  .video { timestamp, payload := [0x17, 1, 0, 0, 0, 0, 0, 0, 9, 0x65] }

/-- A jump that is taken out, and a publisher that starts again from zero. -/
theorem run_decodingTimes_jump :
    let events := [headerMessage 0, frameMessage 0x17 0, frameMessage 0x17 100000,
      .publisherReconnect, headerMessage 0, frameMessage 0x17 0]
    (run Segmenter.perform {} events).decodingTimes = [0, 90, 180] ∧
      (run Segmenter.perform {} events).decodingTimes.Pairwise (· ≤ ·) :=
  ⟨by decide +kernel, run_decodingTimes {} _ (by decide +kernel)⟩

/-- The frame that jumps is not written, so that the next one jumps again and the
jump is taken out twice. -/
theorem run_decodingTimes_back :
    ¬(run Segmenter.perform {} [headerMessage 1000, frameMessage 0x17 1000, brokenMessage 100000,
      frameMessage 0x17 100040]).decodingTimes.Pairwise (· ≤ ·) := by
  decide +kernel

/-! ## Durations -/

def firstTimestamp (units : List AccessUnit) : Option UInt32 :=
  units.findSome? AccessUnit.frameTimestamp

def LastsUntil (timestamp : UInt32) (segment : TsSegment) : Prop :=
  ∃ first ∈ firstTimestamp segment.units, segment.duration = timestamp.toNat - first.toNat

/-- The segment lasts until the first frame of the next. -/
def Tiled (segment next : TsSegment) : Prop :=
  ∃ timestamp ∈ firstTimestamp next.units, LastsUntil timestamp segment

instance : DecidableRel Tiled := fun _ _ => inferInstanceAs (Decidable (∃ _ ∈ _, ∃ _ ∈ _, _))

/-- The timestamps go on from one frame to the next. -/
def Continuous (s : Segmenter) (event : SegmenterEvent) : Prop :=
  event ≠ .publisherReconnect ∧ ∀ frame ∈ s.codedFrame event,
    s.isDiscontinuous frame.timestamp = false ∧ (s.haveLastTs = true → s.lastTs ≤ frame.timestamp)
deriving Decidable

/-- A frame that begins a segment is written, with the timestamp of the frame
before it. -/
def Seamless (s : Segmenter) (event : SegmenterEvent) : Prop :=
  ∀ frame ∈ s.codedFrame event, s.opens frame = true →
    frame.annexb.isOk = true ∧ (s.haveLastTs = true → frame.timestamp = s.lastTs)
deriving Decidable

structure Tiles (s : Segmenter) : Prop where
  opened : s.segmentOpen = true → s.haveLastTs = true ∧ s.segmentStartTs ≤ s.lastTs ∧
    firstTimestamp s.current = some s.segmentStartTs
  fresh : s.haveLastTs = false → s.segments = []
  tiled : s.segments.IsChain Tiled
  final : ∀ segment ∈ s.segments.getLast?,
    LastsUntil (if s.segmentOpen then s.segmentStartTs else s.lastTs) segment

theorem firstTimestamp_append {units : List AccessUnit} (more : List AccessUnit)
    (h : firstTimestamp units = some timestamp) :
    firstTimestamp (units ++ more) = some timestamp := by
  unfold firstTimestamp at h ⊢
  rw [findSome?_append, h]
  rfl

theorem steady_tiles : Steady Tiles where
  part h := by
    unfold maybeClosePart
    dsimp only
    split
    · exact h
    · exact { h with }
  close {s} h hempty := by
    cases hopen : s.segmentOpen with
    | true =>
      obtain ⟨-, -, hfirst⟩ := h.opened hopen
      rw [hempty hopen] at hfirst
      cases hfirst
    | false => exact { h with opened := nofun, final := by simpa [hopen] using h.final }
  publish {s} h hopen := by
    obtain ⟨hhave, hle, hfirst⟩ := h.opened hopen
    have hfinal := h.final
    rw [hopen, if_pos rfl] at hfinal
    refine ⟨nofun, fun hnone => absurd (hhave.symm.trans hnone) nofun, ?_, ?_⟩
    · refine isChain_append.mpr ⟨h.tiled, .singleton _, ?_⟩
      rintro segment hlast _ ⟨⟩
      exact ⟨_, hfirst, hfinal segment hlast⟩
    · intro segment hlast
      rw [Segmenter.publish, getLast?_concat] at hlast
      obtain rfl := Option.some.inj hlast
      rw [UInt32.le_iff_toNat_le] at hle
      exact ⟨_, hfirst, max_eq_right (by omega)⟩
  mark h := { h with }
  tune _ _ h _ := { h with }

theorem Tiles.extend (h : Tiles s) (hopen : s.segmentOpen = true) {lastTs : UInt32}
    (hle : s.lastTs ≤ lastTs) (more : List AccessUnit) :
    Tiles { s with current := s.current ++ more, lastTs, haveLastTs := true } := by
  obtain ⟨-, hstart, hfirst⟩ := h.opened hopen
  refine ⟨fun _ => ⟨rfl, UInt32.le_trans hstart hle, firstTimestamp_append more hfirst⟩, nofun,
    h.tiled, ?_⟩
  have hfinal := h.final
  simpa [hopen] using hfinal

theorem Tiles.perform (h : Tiles s) (hcont : Continuous s event) (hseam : Seamless s event) :
    Tiles (s.perform event) := by
  apply steady_tiles.perform h
  · intro frame hframe
    obtain ⟨hjump, hahead⟩ := hcont.2 frame hframe
    apply onFrame_rule h
    · intro hopen annexb
      have hwritten := h.extend hopen (hahead (h.opened hopen).1) [.video frame.timestamp annexb
          (s.to90k (frame.timestamp.toNat + frame.tag.compositionTimeMs))
          (s.to90k frame.timestamp.toNat) frame.tag.isKeyframe]
      exact steady_tiles.part { hwritten with }
    · intro hopens
      obtain ⟨hok, hsame⟩ := hseam frame hframe hopens
      refine ⟨hok, fun annexb _ => ?_⟩
      have hno {P : Prop} (hyes : s.isDiscontinuous frame.timestamp = true) : P :=
        absurd (hjump.symm.trans hyes) nofun
      have hsettled : Tiles (s.settle frame) := steady_tiles.settle h hno
      have htrack := (steady_track (· = s.track)).settle rfl hno
      simp only [track, Track.mk.injEq] at htrack
      refine steady_tiles.part ⟨fun _ => ⟨rfl, UInt32.le_refl _, rfl⟩, nofun, hsettled.tiled, ?_⟩
      intro segment hlast
      have hfinal := hsettled.final segment hlast
      rw [segmentOpen_settle hopens, htrack.2.2.1] at hfinal
      cases hhave : s.haveLastTs with
      | true =>
        rw [← hsame hhave] at hfinal
        exact hfinal
      | false =>
        have hnone := hsettled.fresh (htrack.2.2.2.trans hhave)
        change segment ∈ (s.settle frame).segments.getLast? at hlast
        rw [hnone] at hlast
        cases hlast
  · intro hopen timestamp config body
    have hwritten := h.extend hopen (UInt32.le_refl _) (s.audioUnits timestamp config body)
    refine steady_tiles.part ?_
    rw [if_pos (h.opened hopen).1]
    exact { hwritten with }
  · exact fun heq => absurd heq hcont.1

/-- The durations from one segment to another add up to the time between their
first frames. -/
theorem sum_of_tiled {segment next : TsSegment} {between : List TsSegment}
    (h : (segment :: between ++ [next]).IsChain Tiled) :
    ∃ first ∈ firstTimestamp segment.units, ∃ last ∈ firstTimestamp next.units,
      ((segment :: between).map TsSegment.duration).sum = last.toNat - first.toNat := by
  induction between generalizing segment with
  | nil =>
    obtain ⟨⟨last, hlast, first, hfirst, hduration⟩, -⟩ := isChain_cons_cons.mp h
    exact ⟨first, hfirst, last, hlast, by simpa using hduration⟩
  | cons second rest ih =>
    obtain ⟨⟨middle, hmiddle, first, hfirst, hduration⟩, hrest⟩ := isChain_cons_cons.mp h
    obtain ⟨middle', hmiddle', last, hlast, hsum⟩ := ih hrest
    obtain rfl := Option.mem_unique hmiddle hmiddle'
    refine ⟨first, hfirst, last, hlast, ?_⟩
    rw [map_cons, sum_cons, hsum, hduration]
    omega

/-- When every segment begins with the timestamp of the frame before it, the durations
of the published segments tile the timeline. -/
theorem run_tiles (config : SegmenterConfig) (events : List SegmenterEvent)
    (hcont : Along Segmenter.perform Continuous { config } events)
    (hseam : Along Segmenter.perform Seamless { config } events) :
    let segments := (run Segmenter.perform { config } events).segments
    segments.IsChain Tiled ∧ ∀ segment between next, segment :: between ++ [next] <:+: segments →
      ∃ first ∈ firstTimestamp segment.units, ∃ last ∈ firstTimestamp next.units,
        ((segment :: between).map TsSegment.duration).sum = last.toNat - first.toNat := by
  have htiles := run_invariant Tiles (along_and hcont hseam)
    ⟨nofun, fun _ => rfl, .nil, nofun⟩ fun _ _ hstep h => h.perform hstep.1 hstep.2
  exact ⟨htiles.tiled, fun _ _ _ hrun => sum_of_tiled <| IsChain.infix htiles.tiled hrun⟩

/-- The keyframe of the cut has the timestamp of the frame before it. -/
theorem run_tiles_seamless :
    let segments := (run Segmenter.perform {} [headerMessage 0, frameMessage 0x17 0,
      frameMessage 0x27 4000, frameMessage 0x17 4000, .finalize]).segments
    segments.length = 2 ∧ segments.IsChain Tiled :=
  ⟨by decide +kernel, (run_tiles {} _ (by decide +kernel) (by decide +kernel)).1⟩

/-- The frame before the cut comes 40 milliseconds earlier, which the first segment
does not last. -/
theorem run_tiles_gap :
    ¬(run Segmenter.perform {} [headerMessage 0, frameMessage 0x17 0, frameMessage 0x27 3960,
      frameMessage 0x17 4000, .finalize]).segments.IsChain Tiled := by
  decide +kernel

/-! ## Numbers -/

/-- The parts bear the number of their segment, and count from zero in it. -/
def Counted (number : UInt64) (parts : List TsPart) : Prop :=
  parts.map (fun part => (part.segmentSequence, part.index)) =
    (range parts.length).map fun i => (number, .ofNat i)

/-- The segments are numbered from `first` on. -/
structure Numbered (first : UInt64) (s : Segmenter) : Prop where
  next : s.nextSequence = first + .ofNat s.segments.length
  opened : s.segmentOpen = true →
    s.partIndex = .ofNat s.openParts.length ∧ Counted s.nextSequence s.openParts
  published : s.segments.map (·.sequence) = (range s.segments.length).map (first + .ofNat ·)
  parts : ∀ segment ∈ s.segments, Counted segment.sequence segment.parts

theorem steady_numbered (first : UInt64) : Steady (Numbered first) where
  part h := by
    unfold maybeClosePart
    dsimp only
    split
    · exact h
    · refine { h with opened := fun hopen => ?_ }
      obtain ⟨hindex, hparts⟩ := h.opened hopen
      simp_all [Counted, range_succ]
  close h _ := { h with opened := nofun }
  publish h hopen := by
    obtain ⟨hnext, hopened, hpublished, hparts⟩ := h
    constructor <;> simp_all [Segmenter.publish, range_succ, or_imp, UInt64.add_assoc]
  mark h := { h with }
  tune _ _ h _ := { h with }

theorem Numbered.perform {first : UInt64} (h : Numbered first s) (event : SegmenterEvent) :
    Numbered first (s.perform event) := by
  have hsteady := steady_numbered first
  apply hsteady.perform h
  · intro frame _
    have hsettled : Numbered first (s.settle frame) :=
      hsteady.settle h fun _ => { hsteady.interrupt h with }
    have hprepared : Numbered first (s.prepare frame) := by
      unfold prepare
      dsimp only
      split
      · exact hsettled
      · exact { hsettled with opened := fun _ => ⟨rfl, rfl⟩ }
    unfold onFrame
    split
    · exact hprepared
    · exact hsteady.part { hprepared with }
  · exact fun _ _ _ _ => hsteady.part { h with }
  · exact fun _ => { hsteady.interrupt h with }

/-- In every run the published segments are numbered without a gap from the initial
number on, and so are the parts within each of them. -/
theorem run_numbered (config : SegmenterConfig) (events : List SegmenterEvent) :
    Numbered config.initialSequence (run Segmenter.perform { config } events) :=
  run_invariant_always _ ⟨by simp, nofun, rfl, nofun⟩ fun _ event h => h.perform event

end Segmenter

end RtmpCore.Hls
