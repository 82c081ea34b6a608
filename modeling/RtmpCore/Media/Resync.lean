import RtmpCore.Media.Handoff

/-!
# The resync flag

The worker of a hand-off queue asks after each message whether frames were
dropped in front of it.  Pushes may come between the two calls.  The flag is
raised when a keyframe is pushed, so it belongs to that keyframe only while
nothing else is in front of it.
-/

namespace RtmpCore.Media

open Run List HandoffRun

def MediaHandoffQueue.takeResync {M : Type} (q : MediaHandoffQueue M) :
    MediaHandoffQueue M × Bool :=
  ({ q with resyncPending := false }, q.resyncPending)

inductive WorkerAction where
  | push (message : HandoffMessage)
  | pop
  | takeResync
deriving DecidableEq

/-- A queue and its worker.  A message carries whether it is the first coded video
after a gap, `held` is the one that the worker has not asked about, and `answers`
are the marks of the messages it has asked about and what it was told. -/
structure WorkerRun where
  queue : MediaHandoffQueue (Bool × HandoffMessage)
  gap : Bool := false
  held : Option (Bool × HandoffMessage) := none
  answers : List (Bool × Bool) := []

namespace WorkerRun

/-- A push that is taken leaves no more messages than there were. -/
def abandons (s : WorkerRun) (m : HandoffMessage) : Bool :=
  let (queue, taken) := s.queue.push Prod.snd (false, m)
  taken && queue.queue.length ≤ s.queue.queue.length

/-- A gap lasts until coded video is taken, and begins where it is not. -/
def offer (s : WorkerRun) (m : HandoffMessage) (gap : Bool) : WorkerRun :=
  let pushed := s.queue.push Prod.snd (m.coded && gap, m)
  { s with queue := pushed.1, gap := if m.coded then !pushed.2 else gap }

def perform (s : WorkerRun) : WorkerAction → WorkerRun
  | .push m => s.offer m (s.gap || s.abandons m)
  | .pop =>
    if s.held.isSome then s
    else
      let (queue, held) := s.queue.pop Prod.snd
      { s with queue, held }
  | .takeResync =>
    match s.held with
    | none => s
    | some (mark, _) =>
      let (queue, answer) := s.queue.takeResync
      { s with queue, held := none, answers := s.answers ++ [(mark, answer)] }

variable {s : WorkerRun} {m : HandoffMessage}

/-- A keyframe that raises the flag is a picture behind a gap, and the next message
that the worker gets. -/
def Alone (s : WorkerRun) : WorkerAction → Prop
  | .push m =>
    let full := s.queue.overLimit m.payload.length
    (m.video && m.keyframe && (full || s.queue.awaitingKeyframe)) = true →
      m.coded = true ∧ s.held = none ∧ (full = false → s.queue.queue = []) ∧
        (s.queue.awaitingKeyframe = false → s.queue.queue ≠ [])
  | _ => True

instance (action : WorkerAction) : Decidable (s.Alone action) := by
  cases action <;> unfold Alone <;> infer_instance

/-- The marks of the messages that the worker has not asked about. -/
def marks (s : WorkerRun) : List Bool := (s.held.toList ++ s.queue.queue).map Prod.fst

/-- The flag is the mark of the next message to ask about, and no other has one. -/
structure Flagged (s : WorkerRun) : Prop where
  opened : s.queue.closed = false
  gap : s.gap = s.queue.awaitingKeyframe
  flag : ∀ i, s.marks.getD i false = (s.queue.resyncPending && i == 0)
  told : ∀ answer ∈ s.answers, answer.1 = answer.2

namespace Flagged

theorem append (h : s.Flagged) (gap : Bool) (hgap : gap = s.queue.awaitingKeyframe) :
    { s with queue := s.queue.append Prod.snd (false, m), gap }.Flagged where
  opened := h.opened
  gap := hgap
  flag i := by
    refine Eq.trans ?_ (h.flag i)
    simp only [marks, MediaHandoffQueue.append, map_append, ← append_assoc]
    rcases lt_or_ge i (map Prod.fst s.held.toList ++ map Prod.fst s.queue.queue).length with hi | hi
    · exact getD_append _ _ _ _ hi
    · rw [getD_append_right _ _ _ _ hi, getD_eq_default _ _ hi]
      cases i - (map Prod.fst s.held.toList ++ map Prod.fst s.queue.queue).length <;> rfl
  told := h.told

theorem single (h : s.Flagged) (hheld : s.held = none) {gap : Bool}
    {queue : MediaHandoffQueue (Bool × HandoffMessage)} (hqueue : queue.queue = [(true, m)])
    (hopen : queue.closed = false) (hgap : gap = queue.awaitingKeyframe)
    (hflag : queue.resyncPending = true) : { s with queue, gap }.Flagged where
  opened := hopen
  gap := hgap
  flag i := by cases i <;> simp [marks, hheld, hqueue, hflag]
  told := h.told

theorem push (h : s.Flagged) (halone : s.Alone (.push m)) : (s.perform (.push m)).Flagged := by
  have hopen := h.opened
  have hgap := h.gap
  change (s.offer m (s.gap || s.abandons m)).Flagged
  simp only [offer, abandons, MediaHandoffQueue.push, hopen]
  cases hkey : m.video && m.keyframe with
  | true =>
    cases hends : s.queue.overLimit m.payload.length || s.queue.awaitingKeyframe with
    | true =>
      obtain ⟨hcoded, hheld, hempty, hback⟩ := halone (by simp [hkey, hends])
      cases hover : s.queue.overLimit m.payload.length with
      | true =>
        have hbehind : (s.gap || decide (1 ≤ s.queue.queue.length)) = true := by
          have hpos := fun hwait => length_pos_iff.mpr (hback hwait)
          cases hwait : s.queue.awaitingKeyframe <;> simp_all
          omega
        simp only [hcoded, MediaHandoffQueue.clear, MediaHandoffQueue.append, if_true]
        exact h.single (m := m) hheld (by simp [hbehind]) rfl rfl rfl
      | false =>
        have hwait : s.queue.awaitingKeyframe = true := by simpa [hover] using hends
        simp only [hcoded, hwait, MediaHandoffQueue.append, hempty hover, if_true]
        exact h.single (m := m) hheld (by simp [hgap, hwait]) rfl rfl rfl
    | false =>
      obtain ⟨hover, hwait⟩ := Bool.or_eq_false_iff.mp hends
      simpa [hover, hwait, hgap, MediaHandoffQueue.append, hopen] using
        h.append (m := m) false hwait.symm
  | false =>
    have hvideo : (m.video && !m.sequenceHeader) = m.coded := rfl
    simp only [hvideo, Bool.false_eq_true, if_false]
    cases hcoded : m.coded with
    | true =>
      simp only [if_true]
      split_ifs with hrefused
      · exact { h with opened := rfl, gap := rfl }
      · obtain ⟨hwait, -⟩ := Bool.or_eq_false_iff.mp (Bool.eq_false_iff.mpr hrefused)
        simpa [hgap, hwait, MediaHandoffQueue.append, hopen] using
          h.append (m := m) false hwait.symm
    | false =>
      simp only [Bool.false_eq_true, if_false]
      split_ifs with hcapped
      · simpa using { h with opened := rfl }
      · simpa [hgap, MediaHandoffQueue.append, hopen] using h.append (m := m) _ rfl

theorem perform (h : s.Flagged) {action : WorkerAction} (halone : s.Alone action) :
    (s.perform action).Flagged := by
  have hflag := h.flag
  cases action with
  | push m => exact h.push halone
  | pop =>
    dsimp only [WorkerRun.perform]
    cases hheld : s.held with
    | some held => exact h
    | none =>
      rw [marks, hheld] at hflag
      cases hqueue : s.queue.queue with
      | nil =>
        simp only [MediaHandoffQueue.pop, hqueue] at hflag ⊢
        exact { h with flag := by simpa [marks, hqueue] using hflag }
      | cons front rest =>
        simp only [MediaHandoffQueue.pop, hqueue] at hflag ⊢
        exact { h with flag := hflag }
  | takeResync =>
    dsimp only [WorkerRun.perform, MediaHandoffQueue.takeResync]
    cases hheld : s.held with
    | none => exact h
    | some held =>
      rw [marks, hheld] at hflag
      refine { h with flag := fun i => by simpa [marks] using hflag (i + 1), told := ?_ }
      intro answer hanswer
      rcases mem_append.mp hanswer with hold | hnew
      · exact h.told answer hold
      · rw [mem_singleton.mp hnew]
        simpa using hflag 0

end Flagged

/-- When every keyframe that raises the flag is alone, the worker is told of a gap
exactly at the first coded video after it. -/
theorem run_answers (limits : HandoffLimits) (actions : List WorkerAction)
    (halone : Along perform Alone { queue := { limits } } actions) :
    ∀ answer ∈ (run perform { queue := { limits } } actions).answers, answer.1 = answer.2 :=
  (run_invariant Flagged halone ⟨rfl, rfl, fun _ => rfl, nofun⟩
    fun _ _ hstep h => h.perform hstep).told

/-- The keyframe behind the gap finds the queue empty. -/
theorem run_answers_drained :
    let answers := (run perform { queue := { limits := ⟨100, 1⟩ } } [.push avcInter, .push avcInter,
      .pop, .takeResync, .push avcKey, .pop, .takeResync]).answers
    answers = [(false, false), (true, true)] ∧ ∀ answer ∈ answers, answer.1 = answer.2 :=
  ⟨by decide, run_answers _ _ (by decide)⟩

/-- A frame from before the gap is still queued when the keyframe is pushed. -/
theorem run_answers_early :
    ¬∀ answer ∈ (run perform { queue := { limits := ⟨100, 2⟩ } } [.push avcInter, .push avcInter,
      .push avcInter, .pop, .takeResync, .push avcKey, .pop, .takeResync]).answers,
        answer.1 = answer.2 := by
  decide

end WorkerRun

end RtmpCore.Media
