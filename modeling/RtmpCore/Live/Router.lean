import Mathlib.Algebra.BigOperators.Fin
import Mathlib.Data.List.AList
import RtmpCore.Live.Types

/-!
# The cross-worker router

Every worker has its own fan-out, and the router carries the frames of a
publisher to the other workers.  Each worker has a bounded inbound queue.  A
frame is forwarded to the workers with a subscriber of its stream; sticky
frames, which hold decoder state, go to every worker.

When a frame does not fit, the queued frames of its stream are shed as a unit
and the stream waits for its next video keyframe.  The part of a call that
concerns one worker's queue runs under that queue's lock; `offer`, `endStream`
and `drainFrames` are these parts.
-/

namespace RtmpCore.Live

open MediaFrame Function

inductive FrameKind where
  | video | audio | metadata | streamEnd
deriving DecidableEq

structure QueuedFrame (F : Type) where
  streamId : StreamId
  frame : F
  kind : FrameKind
  isSticky : Bool := false
  isKeyframe : Bool := false
deriving DecidableEq

/-- The inbound queue of one worker.  `wakeFd` is the pending count of its
eventfd, if the eventfd could be created. -/
structure PerWorkerQueue (F : Type) where
  frames : List (QueuedFrame F) := []
  waitingForKeyframe : Finset StreamId := ∅
  queuedStreamEnds : Finset StreamId := ∅
  queuedBytes : ℕ := 0
  wakeFd : Option ℕ := some 0
deriving DecidableEq

structure RouterLimits where
  maxQueueFramesPerWorker : ℕ := 4096
  maxQueueBytesPerWorker : ℕ := 32 * 1024 * 1024

section Queue

variable {F : Type} [MediaFrame F]

/-- A video keyframe, the point at which a stream can be resumed. -/
def QueuedFrame.isResumePoint (item : QueuedFrame F) : Bool := item.kind = .video && item.isKeyframe

namespace PerWorkerQueue

variable (limits : RouterLimits) (queue : PerWorkerQueue F) (item : QueuedFrame F)

/-- Erase the frames that satisfy `p` and give back their bytes. -/
def eraseFrames (p : QueuedFrame F → Bool) : PerWorkerQueue F :=
  { queue with
    frames := queue.frames.filter fun item => !p item
    queuedBytes := (queue.frames.filter p).foldl
      (fun bytes item => bytes - min bytes (payloadSize item.frame))
      queue.queuedBytes }

/-- Only the newest sticky frame of a kind is kept. -/
def coalesce : PerWorkerQueue F :=
  if item.isSticky then
    queue.eraseFrames fun other =>
      other.streamId = item.streamId && other.isSticky && other.kind = item.kind
  else queue

def wouldOverflow (frameBytes : ℕ) : Bool :=
  (limits.maxQueueFramesPerWorker ≠ 0 ∧ limits.maxQueueFramesPerWorker ≤ queue.frames.length) ∨
  (limits.maxQueueBytesPerWorker ≠ 0 ∧ limits.maxQueueBytesPerWorker -
      min queue.queuedBytes limits.maxQueueBytesPerWorker < frameBytes)

/-- The frames that a shed of the stream removes. -/
def inPartialGop (streamId : StreamId) (item : QueuedFrame F) : Bool :=
  item.streamId = streamId && !item.isSticky

def signal : PerWorkerQueue F := { queue with wakeFd := queue.wakeFd.map (· + 1) }

/-- The result of offering a frame to a queue: the queue and the frames counted
as dropped. -/
structure Offered (F : Type) where
  queue : PerWorkerQueue F
  dropped : List (QueuedFrame F)

/-- On overflow the partial GOP of the item's stream is shed, and a frame that
cannot stand alone closes the gate. -/
def makeRoom : Offered F :=
  if queue.wouldOverflow limits (payloadSize item.frame) then
    let shed := queue.eraseFrames (inPartialGop item.streamId)
    ⟨if !item.isSticky && !item.isResumePoint then
        { shed with waitingForKeyframe := insert item.streamId shed.waitingForKeyframe }
      else shed,
      queue.frames.filter (inPartialGop item.streamId)⟩
  else ⟨queue, []⟩

/-- Append the item if it fits and the gate admits it. -/
def append (offered : Offered F) (item : QueuedFrame F) : Offered F :=
  let queue := offered.queue
  if !queue.wouldOverflow limits (payloadSize item.frame) &&
      (item.isSticky || item.streamId ∉ queue.waitingForKeyframe) then
    let pushed : PerWorkerQueue F :=
      { queue with
        queuedBytes := queue.queuedBytes + payloadSize item.frame
        frames := queue.frames ++ [item] }
    -- the worker is signalled only when its queue was empty
    ⟨if queue.frames = [] then pushed.signal else pushed, offered.dropped⟩
  else
    ⟨if item.isSticky then queue
      else { queue with waitingForKeyframe := insert item.streamId queue.waitingForKeyframe },
      offered.dropped ++ [item]⟩

/-- The part of `forward` that holds the lock of a destination's queue. -/
def offer : Offered F :=
  let queue := queue.coalesce item
  let waiting := item.streamId ∈ queue.waitingForKeyframe
  if waiting ∧ !item.isSticky ∧ !item.isResumePoint then ⟨queue, [item]⟩
  else
    let queue :=
      if waiting ∧ item.isResumePoint then
        { queue with waitingForKeyframe := queue.waitingForKeyframe.erase item.streamId }
      else queue
    append limits (queue.makeRoom limits item) item

/-- The part of `on_stream_end` that holds the lock of a queue. -/
def endStream (streamId : StreamId) (isSource : Bool) : PerWorkerQueue F :=
  let ended := ({ queue with
    waitingForKeyframe := queue.waitingForKeyframe.erase streamId
    queuedStreamEnds := queue.queuedStreamEnds.erase streamId }
      ).eraseFrames fun item => item.streamId = streamId
  if !isSource ∧ streamId ∉ ended.queuedStreamEnds then
    ({ ended with
      queuedStreamEnds := insert streamId ended.queuedStreamEnds
      frames := ⟨streamId, MediaFrame.empty, .streamEnd, false, false⟩ ::
        ended.frames } : PerWorkerQueue F).signal
  else ended

/-- The part of `drain` that holds the lock: the front frames leave the
queue. -/
def drainFrames (maxFrames : ℕ) : PerWorkerQueue F × List (QueuedFrame F) :=
  let count := min maxFrames queue.frames.length
  let drained := queue.frames.take count
  let rest : PerWorkerQueue F :=
    { queue with
      frames := queue.frames.drop count
      queuedBytes := drained.foldl (fun bytes item => bytes - min bytes (payloadSize item.frame))
        queue.queuedBytes
      queuedStreamEnds := drained.foldl (fun ends item =>
          if item.kind = .streamEnd then ends.erase item.streamId else ends)
        queue.queuedStreamEnds }
  (if rest.frames ≠ [] then rest.signal else rest, drained)

end PerWorkerQueue

end Queue

/-! ## The router -/

/-- The router of `n` workers: the number of subscribers by stream and worker,
the queues, and the number of dropped frames. -/
structure CrossWorkerRouter (n : ℕ) (F : Type) where
  limits : RouterLimits := {}
  counts : AList (fun _ : StreamId => Fin n → UInt32) := ∅
  queues : Fin n → PerWorkerQueue F := fun _ => {}
  droppedFrames : UInt64 := 0

/-- What a call lets a worker see, or keeps from it. -/
inductive RouterEvent (n : ℕ) (F : Type) where
  | dropped (destination : Fin n) (item : QueuedFrame F)
  | drained (worker : Fin n) (item : QueuedFrame F)

namespace CrossWorkerRouter

variable {n : ℕ} {F : Type} [MediaFrame F]

variable (router : CrossWorkerRouter n F) (sourceWorker : ℕ) (streamId : StreamId)

/-- A positive delta is added; a negative one, however large, takes one
subscriber away unless there is none. -/
def noteSubscription (worker : ℕ) (streamId : StreamId) (delta : ℤ) : CrossWorkerRouter n F :=
  if h : worker < n then
    let counters := (router.counts.lookup streamId).getD fun _ => 0
    let counter := counters ⟨worker, h⟩
    let counter' :=
      if 0 < delta then counter + UInt32.ofNat delta.toNat
      else if delta < 0 ∧ 0 < counter then counter - 1
      else counter
    { router with counts := router.counts.insert streamId (update counters ⟨worker, h⟩ counter') }
  else router

/-- Whether `forward` turns to this destination. -/
def demands (isSticky : Bool) (destination : Fin n) : Bool :=
  destination.val ≠ sourceWorker && (isSticky ||
      match router.counts.lookup streamId with
      | none => false
      | some counters => counters destination ≠ 0)

def frameKind (isVideo isAudio : Bool) : FrameKind :=
  if isVideo then .video else if isAudio then .audio else .metadata

def forward (frame : F) (isVideo isAudio isSticky isKeyframe : Bool) :
    CrossWorkerRouter n F × List (RouterEvent n F) :=
  if n ≤ sourceWorker then (router, [])
  else
    let item : QueuedFrame F := ⟨streamId, frame, frameKind isVideo isAudio, isSticky, isKeyframe⟩
    let offered := fun destination : Fin n =>
      if router.demands sourceWorker streamId isSticky destination then
        (router.queues destination).offer router.limits item
      else ⟨router.queues destination, []⟩
    ({ router with
        queues := fun destination => (offered destination).queue
        droppedFrames := router.droppedFrames +
          UInt64.ofNat (∑ destination, (offered destination).dropped.length) },
      (List.finRange n).flatMap fun destination =>
        (offered destination).dropped.map (.dropped destination))

/-- A source outside the workers broadcasts the end to all of them. -/
def onStreamEnd : CrossWorkerRouter n F :=
  { router with
    counts := router.counts.erase streamId
    queues := fun destination =>
      (router.queues destination).endStream streamId (destination.val = sourceWorker) }

def drain (worker maxFrames : ℕ) : CrossWorkerRouter n F × List (RouterEvent n F) :=
  if h : worker < n then
    let result := (router.queues ⟨worker, h⟩).drainFrames maxFrames
    ({ router with queues := update router.queues ⟨worker, h⟩ result.1 },
      result.2.map (.drained ⟨worker, h⟩))
  else (router, [])

end CrossWorkerRouter

/-- The calls the workers make. -/
inductive RouterCall (F : Type) where
  | noteSubscription (worker : ℕ) (streamId : StreamId) (delta : ℤ)
  | forward (sourceWorker : ℕ) (streamId : StreamId) (frame : F)
      (isVideo isAudio isSticky isKeyframe : Bool)
  | onStreamEnd (sourceWorker : ℕ) (streamId : StreamId)
  | drain (worker maxFrames : ℕ)

def CrossWorkerRouter.perform {n : ℕ} {F : Type} [MediaFrame F] (router : CrossWorkerRouter n F) :
    RouterCall F → CrossWorkerRouter n F × List (RouterEvent n F)
  | .noteSubscription worker streamId delta => (router.noteSubscription worker streamId delta, [])
  | .forward sourceWorker streamId frame isVideo isAudio isSticky isKeyframe =>
    router.forward sourceWorker streamId frame isVideo isAudio isSticky
      isKeyframe
  | .onStreamEnd sourceWorker streamId => (router.onStreamEnd sourceWorker streamId, [])
  | .drain worker maxFrames => router.drain worker maxFrames

end RtmpCore.Live
