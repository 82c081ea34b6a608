import RtmpCore.Live.Offers
import RtmpCore.Support.GatedLane
import RtmpCore.Support.Run

/-!
# The router's gate after a loss

For one destination and one stream, the non-sticky frames of the stream form a
gated lane: the frames in the destination's queue, the gate
`waitingForKeyframe`, and the frames dropped and drained.  Every call is a move
of that lane, with two exceptions.  A sticky frame that overflows the queue
sheds the partial GOP without closing the gate, and a sticky frame that is
flagged as a video keyframe opens a closed gate.  `SparesGop` excludes both;
runs that keep to it never forward past a hole.
-/

namespace RtmpCore.Live

open GatedLane Run MediaFrame PerWorkerQueue List Function

variable {F : Type} [MediaFrame F]

/-! ## One queue as a lane -/

/-- The non-sticky frames of a stream in a queue, behind its gate. -/
def PerWorkerQueue.lane (queue : PerWorkerQueue F) (streamId : StreamId)
    (arrived : ℕ) : Lane (QueuedFrame F) :=
  ⟨queue.frames.filter (inPartialGop streamId), streamId ∈ queue.waitingForKeyframe, arrived⟩

/-- A sticky frame spares the lane of its stream: it does not overflow a queue
that holds non-sticky frames of the stream, and it is not a keyframe for which
the gate would open. -/
def SparesGop (limits : RouterLimits) (queue : PerWorkerQueue F) (item : QueuedFrame F) : Prop :=
  item.isSticky = true →
    ((queue.coalesce item).wouldOverflow limits (payloadSize item.frame) = true →
      queue.frames.filter (inPartialGop item.streamId) = []) ∧
    (item.isResumePoint = true → item.streamId ∉ queue.waitingForKeyframe)
deriving Decidable

section Offer

variable {limits : RouterLimits} {queue : PerWorkerQueue F}
  {item : QueuedFrame F} {sid : StreamId} {offered : Offered F}

omit [MediaFrame F] in
theorem lane_eq {frames : List (QueuedFrame F)} {gated : Prop}
    (hfrs : queue.frames.filter (inPartialGop sid) = frames)
    (hgate : sid ∈ queue.waitingForKeyframe ↔ gated) (arrived : ℕ) :
    queue.lane sid arrived = ⟨frames, gated, arrived⟩ := by
  rw [PerWorkerQueue.lane, hfrs, propext hgate]

omit [MediaFrame F] in
theorem inPartialGop_of_gop {other : StreamId} (h : inPartialGop sid item = true) :
    inPartialGop other item = decide (sid = other) := by
  simp_all [inPartialGop]

theorem gop_unreplaced (sid : StreamId) (shed : Bool) :
    (unreplaced limits queue item shed).filter (inPartialGop sid) =
      if decide (sid = item.streamId ∧ overflows limits queue item = true) = shed then
        queue.frames.filter (inPartialGop sid)
      else [] := by
  have hsame : ∀ other ∈ queue.frames, (inPartialGop sid other && (!item.replaces other &&
      (overflows limits queue item && inPartialGop item.streamId other) == shed)) =
      (inPartialGop sid other &&
        decide (sid = item.streamId ∧ overflows limits queue item = true) == shed) := by
    intro other _
    cases hgop : inPartialGop sid other with
    | false => rfl
    | true => simp [replaces_of_gop item hgop, inPartialGop_of_gop hgop, Bool.and_comm]
  rw [unreplaced, filter_filter, filter_congr hsame]
  split
  next heq => simp [heq]
  next hne =>
    rw [beq_false_of_ne hne]
    simp

omit [MediaFrame F] in
theorem laneStep_idle {entry : QueuedFrame F → Prop} {serial : QueuedFrame F → ℕ}
    {queue' : PerWorkerQueue F} {dropped : List (QueuedFrame F)} {arrived bound : ℕ}
    (hfrs : queue'.frames.filter (inPartialGop sid) = queue.frames.filter (inPartialGop sid))
    (hgate : sid ∈ queue'.waitingForKeyframe ↔ sid ∈ queue.waitingForKeyframe)
    (hdrop : dropped.filter (inPartialGop sid) = []) (hbound : arrived ≤ bound) :
    LaneStep entry serial (queue.lane sid arrived)
      ((dropped.filter (inPartialGop sid)).map .lost) (queue'.lane sid bound) := by
  rw [hdrop, lane_eq hfrs hgate]
  exact LaneStep.idle hbound

/-- A frame of another stream, or a sticky frame that spares the lane. -/
theorem offer_idle {entry : QueuedFrame F → Prop} {serial : QueuedFrame F → ℕ}
    (hitem : inPartialGop sid item = false)
    (hspare : item.streamId = sid → SparesGop limits queue item) {arrived bound : ℕ}
    (hbound : arrived ≤ bound) : LaneStep entry serial (queue.lane sid arrived)
      (((queue.offer limits item).dropped.filter (inPartialGop sid)).map .lost)
      ((queue.offer limits item).queue.lane sid bound) := by
  have hsticky : item.streamId = sid → item.isSticky = true := by simpa [inPartialGop] using hitem
  have hempty (hshed : sid = item.streamId ∧ overflows limits queue item = true) :
      queue.frames.filter (inPartialGop sid) = [] := by
    rw [hshed.1]
    exact (hspare hshed.1.symm (hsticky hshed.1.symm)).1 hshed.2
  have hleft : (roomFor limits queue item).frames.filter (inPartialGop sid) =
      queue.frames.filter (inPartialGop sid) := by
    rw [frames_roomFor, gop_unreplaced]
    split
    · rfl
    next hshed => exact (hempty (by simpa using hshed)).symm
  have hdrop : (unreplaced limits queue item true).filter (inPartialGop sid) = [] := by
    rw [gop_unreplaced]
    split
    next hshed => exact hempty (of_decide_eq_true hshed)
    · rfl
  have hgate : sid ∈ (roomFor limits queue item).waitingForKeyframe ↔
      sid ∈ queue.waitingForKeyframe := by
    rcases eq_or_ne item.streamId sid with rfl | hne
    · have hopen := (hspare rfl (hsticky rfl)).2
      cases hresume : item.isResumePoint <;> simp_all [roomFor]
    · unfold roomFor
      split_ifs <;> simp [hne.symm]
  have hout := offer_outcome limits queue item
  generalize queue.offer limits item = offered at hout ⊢
  cases hout with
  | held hplain _ _ => exact laneStep_idle rfl Iff.rfl (by simp [hitem]) hbound
  | admitted _ _ =>
    refine laneStep_idle ?_ ?_ hdrop hbound
    · simp [hitem, hleft]
    · simp [hgate]
  | refused _ =>
    refine laneStep_idle ?_ ?_ ?_ hbound
    · simp [hleft]
    · unfold closed
      split
      · exact hgate
      next hplain =>
        have hne : sid ≠ item.streamId := fun heq => hplain (hsticky heq.symm)
        simp [hne, hgate]
    · simp [hitem, hdrop]

theorem offer_laneStep (item : QueuedFrame F) (serial : QueuedFrame F → ℕ)
    (hplain : item.isSticky = false) {arrived : ℕ} (hnew : arrived ≤ serial item) :
    LaneStep (fun x => x.isResumePoint = true) serial (queue.lane item.streamId arrived)
      (((queue.offer limits item).dropped.filter (inPartialGop item.streamId)).map .lost)
      ((queue.offer limits item).queue.lane item.streamId (serial item + 1)) := by
  have hin : inPartialGop item.streamId item = true := by simp [inPartialGop, hplain]
  have hout := offer_outcome limits queue item
  generalize queue.offer limits item = offered at hout ⊢
  cases hout with
  | held _ _ hgate =>
    have hlane := lane_eq rfl (iff_true_intro hgate) (serial item + 1)
    rw [filter_cons_of_pos hin, hlane]
    exact LaneStep.refuse hnew
  | admitted _ hopen =>
    have hopen := hopen.resolve_left (by simp [hplain])
    have hgate := hopen
    rw [← waiting_pushed] at hgate
    have hlane := lane_eq rfl (iff_false_intro hgate) (serial item + 1)
    rw [frames_pushed, frames_roomFor, filter_append, gop_unreplaced,
      filter_cons_of_pos hin] at hlane
    rw [gop_unreplaced, hlane]
    cases hover : overflows limits queue item with
    | true =>
      simp only [and_self, decide_true, Bool.true_eq_false, if_true, if_false]
      have hent : item.isResumePoint = true := by
        by_contra hresume
        simp [roomFor, hresume, hplain, hover] at hopen
      exact LaneStep.restart hent hnew
    | false =>
      simp only [Bool.false_eq_true, and_false, decide_false, if_true, if_false]
      have hent : item.streamId ∉ queue.waitingForKeyframe ∨ item.isResumePoint = true := by
        cases hresume : item.isResumePoint with
        | true => exact .inr rfl
        | false => exact .inl (by simpa [roomFor, hresume, hover] using hopen)
      exact LaneStep.push hent hnew
  | refused hfull =>
    have hgate : item.streamId ∈ (closed (roomFor limits queue item) item).waitingForKeyframe := by
      simp [closed, hplain]
    have hlane := lane_eq rfl (iff_true_intro hgate) (serial item + 1)
    rw [frames_closed, frames_roomFor, gop_unreplaced, if_neg (by simp [hfull hplain])] at hlane
    rw [filter_append, gop_unreplaced, if_pos (by simp [hfull hplain]),
      filter_cons_of_pos hin, hlane]
    exact LaneStep.shed hnew

end Offer

/-! ## Other parts of a call -/

theorem lane_endStream (queue : PerWorkerQueue F) {sid ended : StreamId}
    (h : ended ≠ sid) (isSource : Bool) (arrived : ℕ) :
    (queue.endStream ended isSource).lane sid arrived = queue.lane sid arrived := by
  have hfrs : (queue.frames.filter fun item =>
      !decide (item.streamId = ended)).filter (inPartialGop sid) =
        queue.frames.filter (inPartialGop sid) := by
    rw [filter_filter]
    apply filter_congr
    intro item _
    by_cases hitem : item.streamId = sid
    · simp [hitem, h.symm]
    · simp [inPartialGop, hitem]
  apply lane_eq
  · unfold endStream
    simp only
    split
    · exact (filter_cons_of_neg (by simp [inPartialGop, h])).trans hfrs
    · exact hfrs
  · unfold endStream
    simp only
    split <;> simp [signal, eraseFrames, h.symm]

theorem drainFrames_lane (queue : PerWorkerQueue F) (maxFrames : ℕ) (sid : StreamId) (arrived : ℕ) :
    ∃ rest, (queue.lane sid arrived).queued =
        (queue.drainFrames maxFrames).2.filter (inPartialGop sid) ++ rest ∧
      ∀ bound, (queue.drainFrames maxFrames).1.lane sid bound =
        ⟨rest, sid ∈ queue.waitingForKeyframe, bound⟩ := by
  refine ⟨(queue.frames.drop (min maxFrames queue.frames.length)).filter (inPartialGop sid), ?_, ?_⟩
  · rw [drainFrames, ← filter_append, take_append_drop]
    rfl
  · apply lane_eq
    all_goals
      unfold drainFrames
      simp only
      split <;> rfl

/-! ## Calls -/

section Calls

variable {n : ℕ}

/-- What a destination can observe of the lane of a stream. -/
def laneEvents (destination : Fin n) (streamId : StreamId)
    (log : List (RouterEvent n F)) : List (LaneEvent (QueuedFrame F)) :=
  log.filterMap fun
    | .dropped worker item =>
      if worker = destination ∧ inPartialGop streamId item then some (.lost item)
      else none
    | .drained worker item =>
      if worker = destination ∧ inPartialGop streamId item then some (.passed item)
      else none

omit [MediaFrame F] in
theorem laneEvents_append (dest : Fin n) (sid : StreamId) (log log' : List (RouterEvent n F)) :
    laneEvents dest sid (log ++ log') = laneEvents dest sid log ++ laneEvents dest sid log' :=
  filterMap_append

omit [MediaFrame F] in
theorem laneEvents_here (dest : Fin n) (sid : StreamId) (items : List (QueuedFrame F)) :
    laneEvents dest sid (items.map (.dropped dest)) = (items.filter (inPartialGop sid)).map .lost ∧
      laneEvents dest sid (items.map (.drained dest)) =
        (items.filter (inPartialGop sid)).map .passed := by
  induction items with
  | nil => exact ⟨rfl, rfl⟩
  | cons item rest ih =>
    cases h : inPartialGop sid item with
    | false | true => simpa [laneEvents, h] using ih

omit [MediaFrame F] in
theorem laneEvents_elsewhere {dest worker : Fin n} (h : worker ≠ dest) (sid : StreamId)
    (items : List (QueuedFrame F)) : laneEvents dest sid (items.map (.dropped worker)) = [] ∧
      laneEvents dest sid (items.map (.drained worker)) = [] := by
  simp [laneEvents, filterMap_map, h]

omit [MediaFrame F] in
theorem laneEvents_flatMap (dest : Fin n) (sid : StreamId)
    (dropped : Fin n → List (QueuedFrame F)) :
    laneEvents dest sid ((List.finRange n).flatMap fun worker =>
        (dropped worker).map (.dropped worker)) =
      ((dropped dest).filter (inPartialGop sid)).map .lost := by
  have hnd := nodup_finRange n
  have hmem := mem_finRange dest
  obtain ⟨before, after, hspl⟩ := append_of_mem hmem
  rw [hspl] at hnd ⊢
  have helse : ∀ workers : List (Fin n), dest ∉ workers →
      laneEvents dest sid (workers.flatMap fun worker =>
        (dropped worker).map (.dropped worker)) = [] := by
    intro workers hnot
    induction workers with
    | nil => rfl
    | cons worker rest ih =>
      rw [mem_cons, not_or] at hnot
      rw [flatMap_cons, laneEvents_append, ih hnot.2,
        (laneEvents_elsewhere (Ne.symm hnot.1) sid _).1]
      rfl
  have hbef : dest ∉ before := by
    intro hin
    exact (nodup_append.mp hnd).2.2 _ hin _ (mem_cons_self ..) rfl
  have hafter : dest ∉ after := (nodup_cons.mp (nodup_append.mp hnd).2.1).1
  rw [flatMap_append, flatMap_cons, laneEvents_append,
    laneEvents_append, helse before hbef, helse after hafter,
    (laneEvents_here dest sid _).1, nil_append, append_nil]

/-- Number the frame of a call. -/
def RouterCall.stamp (serial : ℕ) : RouterCall F → RouterCall (Stamped F)
  | .noteSubscription worker streamId delta => .noteSubscription worker streamId delta
  | .forward sourceWorker streamId frame isVideo isAudio isSticky isKeyframe =>
    .forward sourceWorker streamId ⟨serial, frame⟩ isVideo isAudio isSticky
      isKeyframe
  | .onStreamEnd sourceWorker streamId => .onStreamEnd sourceWorker streamId
  | .drain worker maxFrames => .drain worker maxFrames

/-- A router in use: the number of calls made, the router, whose frames carry
the number of the call that forwarded them, and everything observed. -/
structure RouterRun (n : ℕ) (F : Type) where
  calls : ℕ := 0
  router : CrossWorkerRouter n (Stamped F)
  log : List (RouterEvent n (Stamped F)) := []

def RouterRun.start (n : ℕ) (F : Type) (limits : RouterLimits) : RouterRun n F :=
  { router := { limits } }

def RouterRun.perform (state : RouterRun n F) (call : RouterCall F) : RouterRun n F :=
  let result := state.router.perform (call.stamp state.calls)
  ⟨state.calls + 1, result.1, state.log ++ result.2⟩

/-- The call does not end the stream, and if it forwards a sticky frame of the
stream, the frame spares the lane at the destination. -/
def CallSpares (destination : Fin n) (streamId : StreamId)
    (state : RouterRun n F) : RouterCall F → Prop
  | .forward sourceWorker forwarded frame isVideo isAudio isSticky isKeyframe =>
    forwarded = streamId → sourceWorker < n →
      state.router.demands sourceWorker forwarded isSticky destination = true →
      SparesGop state.router.limits (state.router.queues destination)
        ⟨forwarded, ⟨state.calls, frame⟩,
          CrossWorkerRouter.frameKind isVideo isAudio, isSticky, isKeyframe⟩
  | .onStreamEnd _ ended => ended ≠ streamId
  | .noteSubscription _ _ _ | .drain _ _ => True

instance (destination : Fin n) (streamId : StreamId) (state : RouterRun n F) (call : RouterCall F) :
    Decidable (CallSpares destination streamId state call) :=
  match call with
  | .forward .. => inferInstanceAs (Decidable (_ → _ → _ → SparesGop ..))
  | .onStreamEnd .. => inferInstanceAs (Decidable (_ ≠ _))
  | .noteSubscription .. | .drain .. => inferInstanceAs (Decidable True)

theorem perform_laneStep {dest : Fin n} {sid : StreamId}
    {state : RouterRun n F} {call : RouterCall F} (h : CallSpares dest sid state call) :
    LaneStep (fun item => item.isResumePoint = true) (fun item => item.frame.serial)
      ((state.router.queues dest).lane sid state.calls)
      (laneEvents dest sid (state.router.perform (call.stamp state.calls)).2)
      (((state.router.perform (call.stamp state.calls)).1.queues
        dest).lane sid (state.calls + 1)) := by
  obtain ⟨serial, router, log⟩ := state
  cases call with
  | noteSubscription worker other delta =>
    change LaneStep _ _ _ [] (PerWorkerQueue.lane
      ((router.noteSubscription worker other delta).queues dest) _ _)
    unfold CrossWorkerRouter.noteSubscription
    split <;> exact LaneStep.idle (Nat.le_succ _)
  | forward sourceWorker other frame isVideo isAudio isSticky isKeyframe =>
    change LaneStep _ _ _ (laneEvents dest sid
      (router.forward _ _ _ _ _ _ _).2) (PerWorkerQueue.lane
      ((router.forward _ _ _ _ _ _ _).1.queues dest) _ _)
    unfold CrossWorkerRouter.forward
    split
    case isTrue => exact LaneStep.idle (Nat.le_succ _)
    case isFalse hsrc =>
      rw [laneEvents_flatMap]
      simp only
      split
      case isFalse => exact LaneStep.idle (Nat.le_succ _)
      case isTrue hdemands =>
        by_cases hsame : other = sid
        · subst hsame
          have hspare := h rfl (Nat.lt_of_not_le hsrc) hdemands
          cases isSticky with
          | false =>
            let item : QueuedFrame (Stamped F) := ⟨other, ⟨serial, frame⟩,
              CrossWorkerRouter.frameKind isVideo isAudio, false, isKeyframe⟩
            exact offer_laneStep item (fun item => item.frame.serial) rfl
              le_rfl
          | true => exact offer_idle (by simp [inPartialGop]) (fun _ => hspare) (Nat.le_succ _)
        · exact offer_idle (by simp [inPartialGop, hsame]) (fun heq => absurd heq hsame)
            (Nat.le_succ _)
  | onStreamEnd sourceWorker ended =>
    change LaneStep _ _ _ [] (PerWorkerQueue.lane ((router.queues dest).endStream ended _) _ _)
    rw [lane_endStream _ h]
    exact LaneStep.idle (Nat.le_succ _)
  | drain worker maxFrames =>
    change LaneStep _ _ _ (laneEvents dest sid
      (router.drain worker maxFrames).2) (PerWorkerQueue.lane
      ((router.drain worker maxFrames).1.queues dest) _ _)
    unfold CrossWorkerRouter.drain
    split
    case isFalse => exact LaneStep.idle (Nat.le_succ _)
    case isTrue hwork =>
      dsimp only
      by_cases hsame : ⟨worker, hwork⟩ = dest
      · subst hsame
        obtain ⟨rest, hqd, hlane⟩ :=
          drainFrames_lane (router.queues ⟨worker, hwork⟩) maxFrames sid serial
        rw [(laneEvents_here _ _ _).2, update_self, hlane]
        exact LaneStep.pass hqd (Nat.le_succ _)
      · rw [(laneEvents_elsewhere hsame sid _).2, update_of_ne (Ne.symm hsame)]
        exact LaneStep.idle (Nat.le_succ _)

/-! ## Runs -/

/-- In a run that ends the stream nowhere, and in which every sticky frame of
the stream spares the lane, whatever a destination drains after a drop resumes
at a video keyframe. -/
theorem CrossWorkerRouter.resumes_at_keyframe (limits : RouterLimits)
    (destination : Fin n) (streamId : StreamId) (calls : List (RouterCall F))
    (h : Along RouterRun.perform (CallSpares destination streamId)
      (RouterRun.start n F limits) calls) :
    Resumes (fun item => item.isResumePoint = true) (fun item => item.frame.serial)
      (laneEvents destination streamId
        (run RouterRun.perform (RouterRun.start n F limits) calls).log) := by
  have hsound := run_invariant (fun state : RouterRun n F =>
    Sound (fun item : QueuedFrame (Stamped F) => item.isResumePoint = true)
      (fun item => item.frame.serial)
      ((state.router.queues destination).lane streamId state.calls)
      (laneEvents destination streamId state.log)) h
    (sound_empty (streamId ∈ (∅ : Finset StreamId)) 0) ?_
  · exact hsound.resumes
  · intro state call hcall hinv
    rw [RouterRun.perform, laneEvents_append]
    exact hinv.step (perform_laneStep hcall)

/-- A partial GOP is shed for a delta frame, the gate holds the next delta
frame back while a sticky frame passes, and the keyframe opens it. -/
def shedForDelta : List (RouterCall SharedMediaFrame) :=
  [.noteSubscription 1 ⟨1⟩ 1, .forward 0 ⟨1⟩ {} true false false true,
    .forward 0 ⟨1⟩ {} true false false false, .forward 0 ⟨1⟩ {} true false false false,
    .forward 0 ⟨1⟩ {} true false false false, .forward 0 ⟨1⟩ {} false false true false,
    .forward 0 ⟨1⟩ {} true false false true, .drain 1 10]

theorem CrossWorkerRouter.resumes_after_shedForDelta :
    let log := laneEvents (1 : Fin 2) ⟨1⟩ (run RouterRun.perform
      (RouterRun.start 2 SharedMediaFrame ⟨2, 0⟩) shedForDelta).log
    (losses log).map (fun loss => (loss.1.frame.serial,
        loss.2.map fun item => (item.frame.serial, item.isResumePoint))) =
      [(1, [(6, true)]), (2, [(6, true)]), (3, [(6, true)]), (4, [(6, true)])] ∧
    Resumes (fun item => item.isResumePoint = true) (fun item => item.frame.serial) log :=
  ⟨by decide +kernel, CrossWorkerRouter.resumes_at_keyframe ⟨2, 0⟩ 1 ⟨1⟩ shedForDelta
      (by decide +kernel)⟩

/-- A metadata frame arrives at a full queue: the partial GOP is shed for it,
and the next delta frame is forwarded. -/
def shedForMetadata : List (RouterCall SharedMediaFrame) :=
  [.noteSubscription 1 ⟨1⟩ 1, .forward 0 ⟨1⟩ {} true false false true,
    .forward 0 ⟨1⟩ {} true false false false, .forward 0 ⟨1⟩ {} false false true false,
    .forward 0 ⟨1⟩ {} true false false false, .drain 1 10]

theorem CrossWorkerRouter.shedForMetadata_forwards_past_hole :
    ¬Resumes (fun item => item.isResumePoint = true) (fun item => item.frame.serial)
      (laneEvents (1 : Fin 2) ⟨1⟩ (run RouterRun.perform
        (RouterRun.start 2 SharedMediaFrame ⟨2, 0⟩) shedForMetadata).log) := by
  intro h
  have hresume := h (⟨⟨1⟩, ⟨1, {}⟩, .video, false, true⟩, [⟨⟨1⟩, ⟨4, {}⟩, .video, false, false⟩])
    (by decide +kernel) ⟨⟨1⟩, ⟨4, {}⟩, .video, false, false⟩
    (by decide +kernel)
  exact absurd hresume (by decide)

end Calls

end RtmpCore.Live
