import Mathlib.Data.List.AList
import RtmpCore.Chunk.Types
import RtmpCore.Live.Types
import RtmpCore.Media.Tag

/-!
# The live fan-out

Each worker has a fan-out that keeps, for every stream, the decoder headers,
the current group of pictures and the subscribers.  A subscriber has a queue
that decides frame by frame whether the viewer keeps up, waits for the next
keyframe or is evicted.  Media is decided on under the lock of its stream and
delivered after the lock is released, and the results of the deliveries are
folded back into the subscribers.

The subscribers' sinks are objects of the sessions.  The fan-out holds plain
pointers to them; `SinkRef` names the object a pointer was taken of.  The
functions here are the parts that run under a lock, so they end where a sink or
a hook is called.  Byte counters and metrics are left out.
-/

namespace RtmpCore.Live

open Media

inductive MediaKind where
  | audio | video | metadata
deriving DecidableEq

/-- A random-access video frame.  An AVC sequence header conventionally has
the keyframe type but is decoder configuration, not a frame. -/
def classifyIsVideoKeyframe (frame : SharedMediaFrame) : Bool :=
  match classifyVideoTag frame.payload with
  | none => false
  | some info =>
    (info.frameType = .keyFrame || info.frameType = .generatedKeyFrame) &&
      (info.codec ≠ .avc || info.avcPacketType = some .nalu)

def classifyIsVideoSequenceHeader (frame : SharedMediaFrame) : Bool :=
  match classifyVideoTag frame.payload with
  | none => false
  | some info => info.codec = .avc && info.avcPacketType = some .sequenceHeader

def classifyIsAudioSequenceHeader (frame : SharedMediaFrame) : Bool :=
  match classifyAudioTag frame.payload with
  | none => false
  | some info => info.codec = .aac && info.aacPacketType = some .sequenceHeader

/-! ## Viewer queues -/

/-- A limit of 0 is no limit. -/
structure QueueLimits where
  maxBytes : ℕ := 8 * 1024 * 1024
  maxPackets : ℕ := 1000
deriving DecidableEq

/-- What is still unsent on a connection. -/
structure QueueBacklog where
  bytes : ℕ := 0
  packets : ℕ := 0
deriving DecidableEq

inductive QueueDecision where
  | deliver | deliverResumed | dropAndWait | evict
deriving DecidableEq

structure ViewerQueue where
  limits : QueueLimits := {}
  maxFramesWaitingForKeyframe : ℕ := 250
  waitingForKeyframe : Bool := false
  framesWaited : ℕ := 0
  bytes : ℕ := 0
  packetCount : ℕ := 0
deriving DecidableEq

namespace ViewerQueue

variable (queue : ViewerQueue) (external : QueueBacklog)

def overBudget : Bool :=
  (queue.limits.maxBytes ≠ 0 && queue.limits.maxBytes < queue.bytes + external.bytes) ||
  (queue.limits.maxPackets ≠ 0 && queue.limits.maxPackets < queue.packetCount + external.packets)

def belowResumeWatermark : Bool :=
  (queue.limits.maxBytes = 0 || external.bytes ≤ max 1 (queue.limits.maxBytes / 2)) &&
  (queue.limits.maxPackets = 0 || external.packets ≤ max 1 (queue.limits.maxPackets / 2))

/-- Shed the backlog and wait for the next keyframe. -/
def startWaiting : ViewerQueue :=
  { queue with waitingForKeyframe := true, framesWaited := 0, bytes := 0, packetCount := 0 }

def offer (frameBytes : ℕ) (isVideo isKeyframe : Bool) : ViewerQueue × QueueDecision :=
  if queue.waitingForKeyframe then
    if isVideo && isKeyframe && queue.belowResumeWatermark external then
      ({ queue with
          waitingForKeyframe := false
          framesWaited := 0
          bytes := 0
          packetCount := 0 }, .deliverResumed)
    else
      let waited := { queue with framesWaited := queue.framesWaited + 1 }
      if queue.maxFramesWaitingForKeyframe < waited.framesWaited then (waited, .evict)
      else (waited, .dropAndWait)
  else if queue.overBudget external then (queue.startWaiting, .dropAndWait)
  else
    let recorded :=
      { queue with bytes := queue.bytes + frameBytes, packetCount := queue.packetCount + 1 }
    -- the frame that crosses the threshold is still delivered
    (if recorded.overBudget external then recorded.startWaiting else recorded, .deliver)

def noteFlushed (frameBytes : ℕ) : ViewerQueue :=
  { queue with
    bytes := if queue.bytes ≤ frameBytes then 0 else queue.bytes - frameBytes
    packetCount := queue.packetCount - 1 }

end ViewerQueue

/-! ## The group of pictures -/

structure GopLimits where
  maxBytes : ℕ := 16 * 1024 * 1024
  maxPackets : ℕ := 2000
  maxDuration : ℕ := 10000
deriving DecidableEq

structure GopCache where
  limits : GopLimits := {}
  frames : List SharedMediaFrame := []
  totalBytes : ℕ := 0
  startTimestamp : Option UInt32 := none
deriving DecidableEq

namespace GopCache

variable (cache : GopCache)

def clear : GopCache := { cache with frames := [], totalBytes := 0, startTimestamp := none }

def pushInternal (frame : SharedMediaFrame) : GopCache :=
  { cache with
    startTimestamp := some (cache.startTimestamp.getD frame.timestamp)
    frames := cache.frames ++ [frame]
    totalBytes := cache.totalBytes + frame.payload.length }

def overDuration : Bool :=
  match cache.startTimestamp, cache.frames.getLast? with
  | some start, some latest =>
    cache.limits.maxDuration ≠ 0 && start ≤ latest.timestamp &&
      cache.limits.maxDuration < (latest.timestamp - start).toNat
  | _, _ => false

def enforceLimits : GopCache :=
  if (cache.limits.maxBytes ≠ 0 && cache.limits.maxBytes < cache.totalBytes) ||
      (cache.limits.maxPackets ≠ 0 && cache.limits.maxPackets < cache.frames.length) ||
      cache.overDuration then cache.clear
  else cache

def beginNewGop (keyframe : SharedMediaFrame) : GopCache := cache.clear.pushInternal keyframe

/-- Nothing is kept before the first keyframe. -/
def push (frame : SharedMediaFrame) : GopCache :=
  if cache.frames = [] then cache
  else (cache.pushInternal frame).enforceLimits

end GopCache

/-! ## Streams and subscribers -/

/-- The relay object a sink pointer was taken of: the relay that a session
created for a message stream and a subscriber. -/
structure SinkRef where
  connection : UInt64
  messageStreamId : UInt32
  subscriberId : SubscriberId
deriving DecidableEq

structure Subscriber where
  sink : SinkRef
  queue : ViewerQueue
  consecutiveTransportDrops : ℕ := 0
  clientIp : Bytes := []
deriving DecidableEq

structure StreamState where
  metadata : Option SharedMediaFrame := none
  videoSequenceHeader : Option SharedMediaFrame := none
  audioSequenceHeader : Option SharedMediaFrame := none
  gopCache : GopCache := {}
  subscribers : AList (fun _ : SubscriberId => Subscriber) := ∅
deriving DecidableEq

structure LiveFanout where
  gopLimits : GopLimits := {}
  queueLimits : QueueLimits := {}
  maxFramesWaitingForKeyframe : ℕ := 250
  streams : AList (fun _ : StreamId => StreamState) := ∅
deriving DecidableEq

/-- A decided call of a sink: a media frame, or (with no kind) the notice of
eviction. -/
structure PendingDelivery where
  subscriberId : SubscriberId
  sink : SinkRef
  kind : Option MediaKind
  resendVideoSeqHeader : Option SharedMediaFrame := none
  resendAudioSeqHeader : Option SharedMediaFrame := none
deriving DecidableEq

namespace LiveFanout

variable (fanout : LiveFanout) (streamId : StreamId) (frame : SharedMediaFrame) (id : SubscriberId)

/-- The state of a stream, created if there is none. -/
def stateFor : StreamState :=
  (fanout.streams.lookup streamId).getD { gopCache := { limits := fanout.gopLimits } }

def setState (state : StreamState) : LiveFanout :=
  { fanout with streams := fanout.streams.insert streamId state }

def subscriber : Option Subscriber :=
  (fanout.streams.lookup streamId).bind (·.subscribers.lookup id)

def putSubscriber (entry : Subscriber) : LiveFanout :=
  let state := fanout.stateFor streamId
  fanout.setState streamId { state with subscribers := state.subscribers.insert id entry }

def dropSubscriber : LiveFanout :=
  match fanout.streams.lookup streamId with
  | none => fanout
  | some state => fanout.setState streamId { state with subscribers := state.subscribers.erase id }

/-- Cache the frame for subscribers to come.  Returns whether the frame is
decoder state and whether it is a keyframe. -/
def cacheFrame (state : StreamState) (kind : MediaKind)
    (frame : SharedMediaFrame) : StreamState × Bool × Bool :=
  match kind with
  | .video =>
    if classifyIsVideoSequenceHeader frame then
      ({ state with videoSequenceHeader := some frame }, true, false)
    else if classifyIsVideoKeyframe frame then
      ({ state with gopCache := state.gopCache.beginNewGop frame }, false, true)
    else ({ state with gopCache := state.gopCache.push frame }, false, false)
  | .audio =>
    if classifyIsAudioSequenceHeader frame then
      ({ state with audioSequenceHeader := some frame }, true, false)
    else ({ state with gopCache := state.gopCache.push frame }, false, false)
  | .metadata => ({ state with metadata := some frame }, true, false)

/-- One round of the loop in `dispatchLocked`: the subscriber's queue decides
about the frame. -/
def offerTo (kind : MediaKind) (isKeyframe : Bool) (progress : LiveFanout × List PendingDelivery)
    (id : SubscriberId) : LiveFanout × List PendingDelivery :=
  match progress.1.subscriber streamId id with
  | none => progress
  | some entry =>
    let (queue, decision) := entry.queue.offer {} frame.payload.length (kind = .video) isKeyframe
    let kept := progress.1.putSubscriber streamId id { entry with queue }
    match decision with
    | .deliver =>
      (kept, progress.2 ++ [{ subscriberId := id, sink := entry.sink, kind := some kind }])
    | .deliverResumed =>
      let state := progress.1.stateFor streamId
      (kept, progress.2 ++
        [{ subscriberId := id, sink := entry.sink, kind := some kind
           resendVideoSeqHeader := state.videoSequenceHeader
           resendAudioSeqHeader := state.audioSequenceHeader }])
    | .dropAndWait => (kept, progress.2)
    | .evict =>
      (progress.1.dropSubscriber streamId id, progress.2 ++
        [{ subscriberId := id, sink := entry.sink, kind := none }])

/-- Every subscriber of the stream is offered the frame. -/
def dispatchLocked (kind : MediaKind) (isKeyframe : Bool) : LiveFanout × List PendingDelivery :=
  (fanout.stateFor streamId).subscribers.keys.foldl
    (offerTo streamId frame kind isKeyframe) (fanout, [])

/-- Fold the result of one delivery back into its subscriber: too many failed
deliveries in a row evict it. -/
def foldResult (progress : LiveFanout × List SinkRef)
    (result : PendingDelivery × Bool) : LiveFanout × List SinkRef :=
  let (delivery, delivered) := result
  if delivery.kind = none then progress
  else
    match progress.1.subscriber streamId delivery.subscriberId with
    | none => progress
    | some entry =>
      if entry.sink ≠ delivery.sink then progress
      else if delivered then
        (progress.1.putSubscriber streamId delivery.subscriberId
          { entry with consecutiveTransportDrops := 0 }, progress.2)
      else if progress.1.maxFramesWaitingForKeyframe < entry.consecutiveTransportDrops + 1 then
        (progress.1.dropSubscriber streamId delivery.subscriberId, progress.2 ++ [entry.sink])
      else
        (progress.1.putSubscriber streamId delivery.subscriberId
          { entry with consecutiveTransportDrops :=
              entry.consecutiveTransportDrops + 1 }, progress.2)

/-- Add a subscriber, unless the identity is already subscribed. -/
def addSubscriber (sink : SinkRef) (clientIp : Bytes) : LiveFanout :=
  match (fanout.stateFor streamId).subscribers.lookup id with
  | some _ => fanout.setState streamId (fanout.stateFor streamId)
  | none => fanout.putSubscriber streamId id
      { sink
        queue :=
          { limits := fanout.queueLimits
            maxFramesWaitingForKeyframe := fanout.maxFramesWaitingForKeyframe }
        clientIp }

/-- What a new subscriber is sent first, with the call it is sent by: the
metadata and decoder headers, then the group of pictures. -/
def startup : List (MediaKind × SharedMediaFrame) :=
  let state := fanout.stateFor streamId
  let headers := state.metadata.toList ++ state.videoSequenceHeader.toList ++
    state.audioSequenceHeader.toList
  (headers.map fun frame =>
    (if classifyIsVideoSequenceHeader frame then .video
      else if classifyIsAudioSequenceHeader frame then .audio
      else .metadata, frame)) ++
  (state.gopCache.frames.map fun frame =>
    (if frame.messageTypeId = Chunk.MessageTypeId.video.code then .video else .audio, frame))

/-- Forget a stream.  Returns the sinks of its subscribers. -/
def removeStream : LiveFanout × List SinkRef :=
  ({ fanout with streams := fanout.streams.erase streamId },
    (fanout.stateFor streamId).subscribers.entries.map (·.2.sink))

end LiveFanout

end RtmpCore.Live
