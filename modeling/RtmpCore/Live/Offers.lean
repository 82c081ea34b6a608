import RtmpCore.Live.Router

/-!
# One frame at one queue

A frame that is offered to a queue takes the place of an older sticky frame of its
kind, and may shed the frames of its stream to make room.  Then it goes to the end of
the queue, or is dropped.
-/

namespace RtmpCore.Live

open MediaFrame PerWorkerQueue List

variable {F : Type}

/-- The item takes the place of the other frame. -/
def QueuedFrame.replaces (item other : QueuedFrame F) : Bool :=
  item.isSticky && (other.streamId = item.streamId && other.isSticky && other.kind = item.kind)

variable [MediaFrame F]

section

variable (limits : RouterLimits) (queue : PerWorkerQueue F) (item : QueuedFrame F)

def overflows : Bool := (queue.coalesce item).wouldOverflow limits (payloadSize item.frame)

/-- The frames that are not replaced: those that are shed to make room, or the rest. -/
def unreplaced (shed : Bool) : List (QueuedFrame F) :=
  queue.frames.filter fun other =>
    !item.replaces other && (overflows limits queue item && inPartialGop item.streamId other) == shed

/-- The queue when there is room for the item. -/
def roomFor : PerWorkerQueue F :=
  let kept := queue.eraseFrames item.replaces
  { if overflows limits queue item then kept.eraseFrames (inPartialGop item.streamId) else kept with
    waitingForKeyframe :=
      if item.isResumePoint then queue.waitingForKeyframe.erase item.streamId
      else if !item.isSticky && overflows limits queue item then
        insert item.streamId queue.waitingForKeyframe
      else queue.waitingForKeyframe }

def pushed : PerWorkerQueue F :=
  let pushed : PerWorkerQueue F :=
    { queue with
      queuedBytes := queue.queuedBytes + payloadSize item.frame
      frames := queue.frames ++ [item] }
  if queue.frames = [] then pushed.signal else pushed

def closed : PerWorkerQueue F :=
  if item.isSticky then queue
  else { queue with waitingForKeyframe := insert item.streamId queue.waitingForKeyframe }

inductive Outcome : Offered F → Prop where
  | held (hplain : item.isSticky = false) (hresume : item.isResumePoint = false)
      (hgate : item.streamId ∈ queue.waitingForKeyframe) : Outcome ⟨queue, [item]⟩
  | admitted
      (hfits : (roomFor limits queue item).wouldOverflow limits (payloadSize item.frame) = false)
      (hopen : item.isSticky = true ∨
        item.streamId ∉ (roomFor limits queue item).waitingForKeyframe) :
    Outcome ⟨pushed (roomFor limits queue item) item, unreplaced limits queue item true⟩
  | refused (hfull : item.isSticky = false → overflows limits queue item = true) :
    Outcome ⟨closed (roomFor limits queue item) item, unreplaced limits queue item true ++ [item]⟩

@[simp] theorem frames_pushed : (pushed queue item).frames = queue.frames ++ [item] := by
  unfold pushed
  split <;> rfl

@[simp] theorem waiting_pushed :
    (pushed queue item).waitingForKeyframe = queue.waitingForKeyframe := by
  unfold pushed
  split <;> rfl

omit [MediaFrame F] in
@[simp] theorem frames_closed : (closed queue item).frames = queue.frames := by
  unfold closed
  split <;> rfl

theorem coalesce_eq : queue.coalesce item = queue.eraseFrames item.replaces := by
  unfold coalesce
  split
  next hsticky =>
    congr
    funext other
    simp [QueuedFrame.replaces, hsticky]
  next hplain =>
    have hnone : item.replaces = fun _ => false := by
      funext other
      simp [QueuedFrame.replaces, hplain]
    simp [hnone, eraseFrames]

omit [MediaFrame F] in
theorem replaces_of_gop {sid : StreamId} {other : QueuedFrame F}
    (h : inPartialGop sid other = true) : item.replaces other = false := by
  simp_all [inPartialGop, QueuedFrame.replaces]

theorem makeRoom_eq : { queue.coalesce item with
      waitingForKeyframe := if item.isResumePoint then queue.waitingForKeyframe.erase item.streamId
        else queue.waitingForKeyframe }.makeRoom limits item =
    ⟨roomFor limits queue item, unreplaced limits queue item true⟩ := by
  have hover : wouldOverflow limits { queue.coalesce item with
      waitingForKeyframe := if item.isResumePoint then queue.waitingForKeyframe.erase item.streamId
        else queue.waitingForKeyframe } (payloadSize item.frame) = overflows limits queue item := rfl
  unfold makeRoom
  rw [hover]
  unfold roomFor unreplaced
  rw [← coalesce_eq]
  cases overflows limits queue item with
  | false => simp
  | true =>
    rw [coalesce_eq]
    cases item.isResumePoint <;> cases item.isSticky <;> simp [eraseFrames, Bool.and_comm]

theorem frames_roomFor : (roomFor limits queue item).frames = unreplaced limits queue item false := by
  unfold roomFor unreplaced
  cases overflows limits queue item with
  | false => simp [eraseFrames]
  | true => simp [eraseFrames, Bool.and_comm]

theorem wouldOverflow_roomFor (h : overflows limits queue item = false) :
    (roomFor limits queue item).wouldOverflow limits (payloadSize item.frame) = false := by
  rw [← h, overflows, coalesce_eq]
  simp [roomFor, h, wouldOverflow]

theorem offer_outcome : Outcome limits queue item (queue.offer limits item) := by
  have hwaiting : (queue.coalesce item).waitingForKeyframe = queue.waitingForKeyframe := by
    rw [coalesce_eq]
    rfl
  unfold offer
  dsimp only
  rw [hwaiting]
  split
  next hheld =>
    obtain ⟨hgate, hplain, hresume⟩ := hheld
    simp only [Bool.not_eq_true'] at hplain hresume
    rw [show queue.coalesce item = queue by simp [coalesce, hplain]]
    exact .held hplain hresume hgate
  next hpass =>
    have hopened : (if item.streamId ∈ queue.waitingForKeyframe ∧ item.isResumePoint = true then
        { queue.coalesce item with waitingForKeyframe := queue.waitingForKeyframe.erase item.streamId }
        else queue.coalesce item) = { queue.coalesce item with
          waitingForKeyframe := if item.isResumePoint then queue.waitingForKeyframe.erase item.streamId
            else queue.waitingForKeyframe } := by
      cases item.isResumePoint with
      | false => simp [← hwaiting]
      | true =>
        by_cases hgate : item.streamId ∈ (queue.coalesce item).waitingForKeyframe <;>
          simp [hgate, ← hwaiting]
    rw [hopened, makeRoom_eq]
    unfold append
    dsimp only
    split
    next hadmit =>
      simp only [Bool.and_eq_true, Bool.not_eq_true', Bool.or_eq_true, decide_eq_true_eq] at hadmit
      exact .admitted hadmit.1 hadmit.2
    next hrefuse =>
      refine .refused fun hplain => ?_
      by_contra hover
      have hfits := wouldOverflow_roomFor limits queue item (by simpa using hover)
      cases hresume : item.isResumePoint <;> simp_all [roomFor]

end

end RtmpCore.Live
