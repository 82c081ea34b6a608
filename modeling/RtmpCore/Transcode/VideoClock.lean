import Mathlib.Tactic.Linarith
import RtmpCore.Support.Run

/-!
# The video clock of the source transcoder

Decoded pictures are selected against a deadline on the input clock.  Each
accepted picture moves the deadline by one output interval, and so it does with
the output clock.  A picture that has crossed more than one deadline restarts
the deadlines from itself, while the output clock still moves by one interval.

The decoder stands before this clock and the encoders behind it; a picture is
the timestamp the decoder gives it.
-/

namespace RtmpCore.Transcode

open List

/-- `outputIntervalOf fps` is the interval between two output pictures in units
of 90 kHz. -/
def outputIntervalOf (fps : UInt32) : ℤ := max 1 (90000 / (max fps.toNat 1 : ℕ))

def jitterToleranceOf (interval : ℤ) : ℤ := max 1 (interval / 20)

def backwardDiscontinuity90k : ℤ := 5 * 90000

def maxToleratedDrops : ℕ := 3

/-- The clock fields of the transcoder, with the input and output timestamps of
the pictures accepted so far. -/
structure SourceTranscoder where
  outputInterval90k : ℤ
  videoClockSet : Bool := false
  awaitingVideoReanchor : Bool := false
  lastInputVideoPts90k : ℤ := 0
  nextOutputVideoPts90k : ℤ := 0
  nextInputVideoPts90k : ℤ := 0
  consecutiveBackwardDrops : ℕ := 0
  accepted : List (ℤ × ℤ) := []
deriving DecidableEq

namespace SourceTranscoder

def initial (fps : UInt32) : SourceTranscoder where
  outputInterval90k := outputIntervalOf fps

variable (c : SourceTranscoder) (pts : ℤ)

def jitterTolerance90k : ℤ := jitterToleranceOf c.outputInterval90k

/-- Send an accepted picture to the encoders with the output timestamp. -/
def encode : SourceTranscoder :=
  { c with accepted := c.accepted ++ [(pts, c.nextOutputVideoPts90k)] }

def advanceOutput : SourceTranscoder :=
  { c with nextOutputVideoPts90k := c.nextOutputVideoPts90k + c.outputInterval90k }

/-- The first picture starts both clocks. -/
def startClock : SourceTranscoder :=
  { c with
    videoClockSet := true
    nextOutputVideoPts90k := pts
    nextInputVideoPts90k := pts + c.outputInterval90k
    lastInputVideoPts90k := pts
    consecutiveBackwardDrops := 0 }

/-- The first picture after a marked discontinuity restarts the input clock. -/
def reanchor : SourceTranscoder :=
  { c with
    lastInputVideoPts90k := pts
    nextInputVideoPts90k := pts + c.outputInterval90k
    consecutiveBackwardDrops := 0
    awaitingVideoReanchor := false }

def nextDeadline : ℤ :=
  let next := c.nextInputVideoPts90k + c.outputInterval90k
  if next ≤ pts + c.jitterTolerance90k then pts + c.outputInterval90k else next

/-- A picture whose timestamp does not go back by a little. -/
def sample : SourceTranscoder :=
  let delta := pts - c.lastInputVideoPts90k
  let c := { c with consecutiveBackwardDrops := 0, lastInputVideoPts90k := pts }
  if delta ≤ 0 ∨ backwardDiscontinuity90k < delta then
    { c with nextInputVideoPts90k := pts + c.outputInterval90k }
      |>.advanceOutput.encode pts
  else if pts + c.jitterTolerance90k < c.nextInputVideoPts90k then c
  else
    { c with nextInputVideoPts90k := c.nextDeadline pts }
      |>.advanceOutput.encode pts

def onPicture : SourceTranscoder :=
  if !c.videoClockSet then (c.startClock pts).encode pts
  else if c.awaitingVideoReanchor then (c.reanchor pts).advanceOutput.encode pts
  else
    let delta := pts - c.lastInputVideoPts90k
    if delta ≤ 0 ∧ -backwardDiscontinuity90k < delta then
      let drops := c.consecutiveBackwardDrops + 1
      if drops < maxToleratedDrops then { c with consecutiveBackwardDrops := drops }
      else c.sample pts
    else c.sample pts

def markDiscontinuity : SourceTranscoder :=
  { c with
    awaitingVideoReanchor := c.videoClockSet
    nextInputVideoPts90k := 0
    consecutiveBackwardDrops := 0 }

end SourceTranscoder

/-! ## The schedule of the input -/

/-- The deadline of the next picture, and by how much the deadlines have been
moved back so far. -/
structure Schedule where
  deadline : ℤ
  slip : ℤ := 0

namespace Schedule

/-- How far a picture is behind the deadline it would have without any slip. -/
def lateness (schedule : Schedule) (pts : ℤ) : ℤ := schedule.slip + (pts - schedule.deadline)

def accepts (schedule : Schedule) (interval pts : ℤ) : Bool :=
  decide (schedule.deadline ≤ pts + jitterToleranceOf interval)

/-- A picture that has crossed the next deadline too moves the deadlines by how
far it is behind its own. -/
def next (schedule : Schedule) (interval pts : ℤ) : Schedule :=
  if schedule.deadline + interval ≤ pts + jitterToleranceOf interval then
    { deadline := pts + interval, slip := schedule.slip + (pts - schedule.deadline) }
  else { schedule with deadline := schedule.deadline + interval }

def latenesses (interval : ℤ) : Schedule → List ℤ → List ℤ
  | _, [] => []
  | schedule, pts :: rest =>
    if schedule.accepts interval pts then
      schedule.lateness pts :: latenesses interval (schedule.next interval pts) rest
    else latenesses interval schedule rest

end Schedule

/-- How late the pictures of a source are, the first one being in time. -/
def latenessesOf (fps : UInt32) : List ℤ → List ℤ
  | [] => []
  | first :: rest =>
    0 :: Schedule.latenesses (outputIntervalOf fps)
      { deadline := first + outputIntervalOf fps } rest

/-- Timestamps strictly increase, by at most five seconds. -/
def Continuous (pictures : List ℤ) : Prop :=
  pictures.IsChain fun a b => a < b ∧ b - a ≤ backwardDiscontinuity90k
deriving Decidable

theorem outputIntervalOf_pos (fps : UInt32) : 0 < outputIntervalOf fps :=
  lt_of_lt_of_le Int.one_pos (le_max_left _ _)

theorem jitterToleranceOf_le {interval : ℤ} (hpos : 0 < interval) :
    jitterToleranceOf interval ≤ interval := by
  unfold jitterToleranceOf
  omega

/-- Deadlines are only ever moved back, so a picture is early by the tolerance
at most. -/
theorem Schedule.neg_tolerance_le_latenesses {interval : ℤ} (hpos : 0 < interval)
    {schedule : Schedule} (hslip : 0 ≤ schedule.slip) {pictures : List ℤ}
    {lateness : ℤ} (h : lateness ∈ schedule.latenesses interval pictures) :
    -jitterToleranceOf interval ≤ lateness := by
  have htolerance := jitterToleranceOf_le hpos
  induction pictures generalizing schedule with
  | nil => simp [latenesses] at h
  | cons pts rest ih =>
    unfold latenesses at h
    split at h
    · next haccs =>
        have hdeadline : schedule.deadline ≤ pts + jitterToleranceOf interval :=
          of_decide_eq_true haccs
        rcases mem_cons.mp h with rfl | hrest
        · unfold Schedule.lateness
          omega
        · refine ih ?_ hrest
          unfold next
          split
          · dsimp only
            omega
          · exact hslip
    · exact ih hslip h

namespace SourceTranscoder

/-! ## The clock follows the schedule -/

/-- The deadline of the clock is that of the schedule, and its output is behind
it by one interval and the slip. -/
structure Follows (c : SourceTranscoder) (schedule : Schedule) (last : ℤ) : Prop where
  clockSet : c.videoClockSet = true
  connected : c.awaitingVideoReanchor = false
  lastInput : c.lastInputVideoPts90k = last
  deadline : c.nextInputVideoPts90k = schedule.deadline
  output : c.nextOutputVideoPts90k + c.outputInterval90k + schedule.slip = schedule.deadline

/-- How far the input of an accepted picture is ahead of its output. -/
def drifts (c : SourceTranscoder) : List ℤ := c.accepted.map fun picture => picture.1 - picture.2

variable {c : SourceTranscoder} {schedule : Schedule} {last : ℤ} {pictures : List ℤ}

theorem Follows.onPicture {pts : ℤ} (h : c.Follows schedule last) (hlt : last < pts)
    (hstep : pts - last ≤ backwardDiscontinuity90k) :
    (c.onPicture pts).outputInterval90k = c.outputInterval90k ∧
      if schedule.accepts c.outputInterval90k pts then
        (c.onPicture pts).Follows (schedule.next c.outputInterval90k pts) pts ∧
          (c.onPicture pts).drifts = c.drifts ++ [schedule.lateness pts]
      else (c.onPicture pts).Follows schedule pts ∧ (c.onPicture pts).drifts = c.drifts := by
  have hpic : c.onPicture pts = c.sample pts := by
    rw [SourceTranscoder.onPicture, if_neg (by simp [h.clockSet]), if_neg (by simp [h.connected])]
    rw [h.lastInput, if_neg (by omega)]
  rw [hpic]
  dsimp only [sample]
  rw [h.lastInput, if_neg (by omega)]
  unfold jitterTolerance90k Schedule.accepts
  rw [h.deadline]
  split
  · next hearly =>
      rw [if_neg (by simpa using hearly)]
      exact ⟨rfl, ⟨h.clockSet, h.connected, rfl, rfl, h.output⟩, rfl⟩
  · next hdue =>
      rw [if_pos (by simpa using hdue)]
      refine ⟨rfl, ⟨h.clockSet, h.connected, rfl, ?_, ?_⟩, ?_⟩
      · simp only [Schedule.next]
        split
        · next hcrossed => exact if_pos hcrossed
        · next hcrossed => exact if_neg hcrossed
      · have houtput := h.output
        simp only [encode, advanceOutput, Schedule.next]
        split
        · linarith
        · linarith
      · have houtput := h.output
        simp only [drifts, encode, advanceOutput, map_append, map_cons, Schedule.lateness]
        congr 2
        linarith

theorem Follows.drifts_run (h : c.Follows schedule last) (hcont : Continuous (last :: pictures)) :
    (Run.run SourceTranscoder.onPicture c pictures).drifts =
      c.drifts ++ schedule.latenesses c.outputInterval90k pictures := by
  induction pictures generalizing c schedule last with
  | nil => simp [Run.run, Schedule.latenesses]
  | cons pts rest ih =>
    obtain ⟨⟨hlt, hstep⟩, hrest⟩ := isChain_cons_cons.mp hcont
    obtain ⟨hinterval, hcases⟩ := h.onPicture hlt hstep
    change (Run.run SourceTranscoder.onPicture (c.onPicture pts) rest).drifts = _
    unfold Schedule.latenesses
    split at hcases
    · next haccs =>
        obtain ⟨hfol, hdrift⟩ := hcases
        rw [ih hfol hrest, hinterval, hdrift, if_pos haccs, append_assoc]
        rfl
    · next haccs =>
        obtain ⟨hfol, hdrift⟩ := hcases
        rw [ih hfol hrest, hinterval, hdrift, if_neg haccs]

theorem follows_start (fps : UInt32) (first : ℤ) : ((initial fps).onPicture first).Follows
      { deadline := first + outputIntervalOf fps } first where
  clockSet := rfl
  connected := rfl
  lastInput := rfl
  deadline := rfl
  output := by simp [SourceTranscoder.onPicture, initial, startClock, encode]

theorem drifts_run (fps : UInt32) (hcont : Continuous pictures) :
    (Run.run SourceTranscoder.onPicture (initial fps) pictures).drifts =
      latenessesOf fps pictures := by
  cases pictures with
  | nil => rfl
  | cons first rest =>
    have hrun := (follows_start fps first).drifts_run hcont
    have hstart : ((initial fps).onPicture first).drifts = [0] := by
      simp [drifts, SourceTranscoder.onPicture, initial, startClock, encode]
    rw [hstart] at hrun
    exact hrun

theorem neg_interval_le_latenessesOf (fps : UInt32)
    {lateness : ℤ} (h : lateness ∈ latenessesOf fps pictures) :
    -(2 * outputIntervalOf fps) ≤ lateness := by
  have hpos := outputIntervalOf_pos fps
  cases pictures with
  | nil => simp [latenessesOf] at h
  | cons first rest =>
    rcases mem_cons.mp h with rfl | hrest
    · omega
    · have hge := Schedule.neg_tolerance_le_latenesses hpos le_rfl hrest
      have htolerance := jitterToleranceOf_le hpos
      omega

theorem head_accepted (fps : UInt32) (h : c.drifts = latenessesOf fps pictures)
    {start : ℤ × ℤ} (hstart : start ∈ c.accepted.head?) : start.1 - start.2 = 0 := by
  have hhead := congrArg List.head? h
  rw [drifts, head?_map, hstart] at hhead
  cases pictures with
  | nil => cases hhead
  | cons first rest => exact Option.some.inj hhead

/-- The output of a picture stays within two output intervals of its input,
relative to the first picture. -/
def KeepsSourceTime (c : SourceTranscoder) (interval : ℤ) : Prop :=
  ∀ start ∈ c.accepted.head?, ∀ picture ∈ c.accepted,
    |(picture.2 - start.2) - (picture.1 - start.1)| ≤ 2 * interval

/-- A continuous source keeps its time exactly when no picture is late by more
than two output intervals, where the delay of every picture that crossed more
than one deadline is carried over to the pictures after it. -/
theorem keepsSourceTime_iff (fps : UInt32) {pictures : List ℤ} (hcontinuous : Continuous pictures) :
    (Run.run SourceTranscoder.onPicture (initial fps) pictures).KeepsSourceTime
        (outputIntervalOf fps) ↔
      ∀ lateness ∈ latenessesOf fps pictures, lateness ≤ 2 * outputIntervalOf fps := by
  have hdrifts := drifts_run fps hcontinuous
  constructor
  · intro hkeeps lateness hlateness
    rw [← hdrifts] at hlateness
    obtain ⟨picture, hpicture, rfl⟩ := mem_map.mp hlateness
    have hstart := head?_eq_some_head (ne_nil_of_mem hpicture)
    have hzero := head_accepted fps hdrifts hstart
    have hbound := hkeeps _ hstart picture hpicture
    rw [abs_le] at hbound
    linarith
  · intro hlate start hstart picture hpicture
    have hmem : picture.1 - picture.2 ∈ latenessesOf fps pictures := by
      rw [← hdrifts]
      exact mem_map_of_mem hpicture
    have hupper := hlate _ hmem
    have hlower := neg_interval_le_latenessesOf fps hmem
    have hzero := head_accepted fps hdrifts hstart
    rw [abs_le]
    constructor <;> linarith

/-- Thirty pictures a second in, thirty out. -/
theorem keepsSourceTime_steady : (Run.run SourceTranscoder.onPicture (initial 30)
      [0, 2970, 6030, 9000]).KeepsSourceTime (outputIntervalOf 30) :=
  (keepsSourceTime_iff 30 (by decide)).mpr (by decide)

/-- Ten pictures a second in are played as thirty: the third picture leaves more
than two output intervals too early. -/
theorem keepsSourceTime_fails_for_slow_source : Continuous [0, 9000, 18000] ∧
      ¬(Run.run SourceTranscoder.onPicture (initial 30)
        [0, 9000, 18000]).KeepsSourceTime (outputIntervalOf 30) := by
  refine ⟨by decide, ?_⟩
  intro hkeeps
  have haccepted : (Run.run SourceTranscoder.onPicture (initial 30)
      [0, 9000, 18000]).accepted = [(0, 0), (9000, 3000), (18000, 6000)] := by
    decide
  unfold KeepsSourceTime at hkeeps
  rw [haccepted] at hkeeps
  have hbound := hkeeps (0, 0) rfl (18000, 6000) (by simp)
  revert hbound
  decide

end SourceTranscoder

end RtmpCore.Transcode
