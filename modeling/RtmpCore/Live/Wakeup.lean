import RtmpCore.Live.Offers
import RtmpCore.Support.Run

/-!
# Waking a worker

A producer writes the eventfd of a worker after it has let go of the queue, and only
if the queue was empty.  The worker resets the eventfd, takes some of the frames and
writes it again while some are left.
-/

namespace RtmpCore.Live

open MediaFrame PerWorkerQueue Run List

/-- A queue and its worker.  `counter` is the eventfd, `pending` counts the producers
that have still to write it, and `draining` is set between reading it and the end of
the drain. -/
structure Waking (F : Type) where
  queue : PerWorkerQueue F := {}
  counter : ℕ := 0
  pending : ℕ := 0
  draining : Bool := false

inductive WakeStep (F : Type) where
  | forward (item : QueuedFrame F)
  | streamEnd (streamId : StreamId) (isSource : Bool)
  | write
  | read
  | drain (maxFrames : ℕ)

namespace Waking

variable {F : Type} [MediaFrame F] {limits : RouterLimits}
  {queue queue' : PerWorkerQueue F} {s : Waking F}

/-- The writes of the eventfd that an operation on the queue asks for. -/
def raised (queue queue' : PerWorkerQueue F) : ℕ := queue'.wakeFd.getD 0 - queue.wakeFd.getD 0

/-- A producer is done with the queue. -/
def produce (s : Waking F) (queue : PerWorkerQueue F) : Waking F :=
  { s with queue, pending := s.pending + raised s.queue queue }

def perform (limits : RouterLimits) (s : Waking F) : WakeStep F → Waking F
  | .forward item => s.produce (s.queue.offer limits item).queue
  | .streamEnd streamId isSource => s.produce (s.queue.endStream streamId isSource)
  | .write => if s.pending = 0 then s else { s with pending := s.pending - 1, counter := s.counter + 1 }
  -- the worker reads until the counter is zero, so it may read again before it drains
  | .read => if s.counter = 0 then s else { s with counter := 0, draining := true }
  | .drain maxFrames =>
    let queue := (s.queue.drainFrames maxFrames).1
    if s.draining then
      { s with queue, counter := s.counter + raised s.queue queue, draining := false }
    else s

/-- Frames wait only where the worker is draining or will be woken. -/
def Awake (s : Waking F) : Prop :=
  s.queue.frames = [] ∨ s.draining = true ∨ 0 < s.counter ∨ 0 < s.pending

/-- The queue does not become filled. -/
def Quiet (queue queue' : PerWorkerQueue F) : Prop :=
  queue'.wakeFd = queue.wakeFd ∧ (queue.frames = [] → queue'.frames = [])

/-- The queue does not become filled without a signal. -/
def Signals (queue queue' : PerWorkerQueue F) : Prop :=
  Quiet queue queue' ∨ queue'.wakeFd = queue.wakeFd.map (· + 1)

theorem quiet_roomFor (limits : RouterLimits) (queue : PerWorkerQueue F) (item : QueuedFrame F) :
    Quiet queue (roomFor limits queue item) := by
  refine ⟨?_, fun hempty => by simp [frames_roomFor, unreplaced, hempty]⟩
  cases hover : overflows limits queue item <;> simp [roomFor, hover, eraseFrames]

theorem offer_signals (queue : PerWorkerQueue F) (item : QueuedFrame F) :
    Signals queue (queue.offer limits item).queue := by
  obtain ⟨hwake, hframes⟩ := quiet_roomFor limits queue item
  have hout := offer_outcome limits queue item
  generalize queue.offer limits item = offered at hout ⊢
  cases hout with
  | held _ _ _ => exact .inl ⟨rfl, id⟩
  | admitted _ _ =>
    dsimp only [pushed]
    split
    · exact .inr (by rw [← hwake]; rfl)
    next hfilled => exact .inl ⟨hwake, fun hempty => absurd (hframes hempty) hfilled⟩
  | refused _ =>
    dsimp only [closed]
    split <;> exact .inl ⟨hwake, hframes⟩

theorem endStream_signals (queue : PerWorkerQueue F) (streamId : StreamId) (isSource : Bool) :
    Signals queue (queue.endStream streamId isSource) := by
  unfold endStream
  dsimp only
  split
  · exact .inr rfl
  · exact .inl ⟨rfl, fun hempty => by simp [eraseFrames, hempty]⟩

theorem drainFrames_signals (queue : PerWorkerQueue F) (maxFrames : ℕ) :
    (queue.drainFrames maxFrames).1.frames = [] ∧
        (queue.drainFrames maxFrames).1.wakeFd = queue.wakeFd ∨
      (queue.drainFrames maxFrames).1.wakeFd = queue.wakeFd.map (· + 1) := by
  unfold drainFrames
  dsimp only
  split
  · exact .inr rfl
  next hempty => exact .inl ⟨not_not.mp hempty, rfl⟩

/-- The worker is awake, and its eventfd was created. -/
structure Ready (s : Waking F) : Prop where
  fd : s.queue.wakeFd.isSome
  awake : s.Awake

omit [MediaFrame F] in
theorem Ready.produce (h : s.Ready) (hsignals : Signals s.queue queue) :
    (s.produce queue).Ready := by
  obtain ⟨fd, hfd⟩ := Option.isSome_iff_exists.mp h.fd
  rcases hsignals with ⟨hsame, hframes⟩ | hraised
  · refine ⟨hsame ▸ h.fd, h.awake.imp hframes (Or.imp_right (Or.imp_right fun hpending => ?_))⟩
    exact Nat.lt_add_right _ hpending
  · refine ⟨by simp [Waking.produce, hraised, hfd], .inr (.inr (.inr ?_))⟩
    simp [Waking.produce, raised, hraised, hfd]

theorem Ready.perform (h : s.Ready) (step : WakeStep F) : (s.perform limits step).Ready := by
  cases step with
  | forward item => exact h.produce (offer_signals _ _)
  | streamEnd streamId isSource => exact h.produce (endStream_signals _ _ _)
  | write =>
    dsimp only [Waking.perform]
    split
    · exact h
    · exact ⟨h.fd, .inr (.inr (.inl (Nat.succ_pos _)))⟩
  | read =>
    dsimp only [Waking.perform]
    split
    · exact h
    · exact ⟨h.fd, .inr (.inl rfl)⟩
  | drain maxFrames =>
    dsimp only [Waking.perform]
    split
    · obtain ⟨fd, hfd⟩ := Option.isSome_iff_exists.mp h.fd
      rcases drainFrames_signals s.queue maxFrames with ⟨hempty, hsame⟩ | hraised
      · exact ⟨by simp [hsame, hfd], .inl hempty⟩
      · refine ⟨by simp [hraised, hfd], .inr (.inr (.inl ?_))⟩
        simp [raised, hraised, hfd]
    · exact h

/-- In every interleaving of the producers and the worker, frames wait only where the
worker is draining, its eventfd is set, or a producer is still to set it. -/
theorem run_awake (limits : RouterLimits) (steps : List (WakeStep F)) :
    (run (perform limits) ({} : Waking F) steps).Awake :=
  (run_invariant_always Ready ⟨rfl, .inl rfl⟩ fun _ step h => h.perform step).awake

/-! ## Order -/

/-- A worker with the frames that were forwarded to it and those it has drained. -/
structure Carried (F : Type) where
  waking : Waking F := {}
  forwarded : List (QueuedFrame F) := []
  drained : List (QueuedFrame F) := []

namespace Carried

def perform (limits : RouterLimits) (s : Carried F) (step : WakeStep F) : Carried F :=
  let waking := s.waking.perform limits step
  match step with
  | .forward item => { s with waking, forwarded := s.forwarded ++ [item] }
  | .drain maxFrames =>
    if s.waking.draining then
      { s with waking, drained := s.drained ++ (s.waking.queue.drainFrames maxFrames).2 }
    else s
  | .streamEnd .. | .write | .read => { s with waking }

/-- The frames drained and those that wait, but for the markers of a stream's end. -/
def media (s : Carried F) : List (QueuedFrame F) :=
  (s.drained ++ s.waking.queue.frames).filter (·.kind ≠ .streamEnd)

theorem offer_sublist (limits : RouterLimits) (queue : PerWorkerQueue F) (item : QueuedFrame F) :
    (queue.offer limits item).queue.frames.Sublist (queue.frames ++ [item]) := by
  have hroom : (roomFor limits queue item).frames.Sublist queue.frames := by
    rw [frames_roomFor]
    exact filter_sublist
  have hout := offer_outcome limits queue item
  generalize queue.offer limits item = offered at hout ⊢
  cases hout with
  | held => exact sublist_append_left ..
  | admitted => simpa using hroom
  | refused => simpa using hroom.trans (sublist_append_left ..)

theorem media_perform {s : Carried F} (h : s.media.Sublist s.forwarded) (step : WakeStep F) :
    (s.perform limits step).media.Sublist (s.perform limits step).forwarded := by
  cases step with
  | forward item =>
    have hoffered := (offer_sublist limits s.waking.queue item).append_left s.drained
    rw [← append_assoc] at hoffered
    refine (hoffered.filter _).trans ?_
    rw [filter_append]
    exact h.append filter_sublist
  | streamEnd streamId isSource =>
    refine .trans ?_ h
    simp only [media, perform, Waking.perform, produce, endStream, filter_append]
    -- the marker goes to the front, past the media
    split <;> exact (filter_sublist.filter _).append_left _
  | drain maxFrames =>
    simp only [perform, Waking.perform]
    split
    · simp only [media, drainFrames, append_assoc]
      split <;> simpa [media, signal] using h
    · exact h
  | write | read =>
    simp only [perform, Waking.perform]
    split <;> exact h

/-- In every interleaving the media that the worker drains, and then those that wait,
were forwarded to it.  None comes twice, and none passes another. -/
theorem run_media_sublist (limits : RouterLimits) (steps : List (WakeStep F)) :
    let s := run (perform limits) ({} : Carried F) steps
    s.media.Sublist s.forwarded :=
  run_invariant_always (fun s : Carried F => s.media.Sublist s.forwarded) (.refl _)
    fun _ step h => media_perform h step

end Carried

end Waking

end RtmpCore.Live
