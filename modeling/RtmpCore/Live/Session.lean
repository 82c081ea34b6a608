import RtmpCore.Amf0.Codec
import RtmpCore.Live.Fanout

/-!
# Sessions and their sinks

The state that the connections of a server share, and the calls that go from a
fan-out through the sinks back into the sessions.

A session belongs to one connection and runs on the worker whose fan-out it
was given, so the calls of one worker never overlap.  The stream registry and
the stream identities are shared by all workers; each call of them is atomic.

`World` is passed through every function.  Its log records the calls that
leave the modelled code: the handlers an embedder installs, the ingest and
recorder components and the hooks of the fan-outs.  A handler that is not
installed is one that ignores its calls; only where the code asks whether a
handler is there does the configuration say so.
-/

namespace RtmpCore.Live

open RtmpCore.Core Chunk Amf0 Function

/-! ## The registries -/

structure StreamRegistration where
  app : Bytes
  streamKey : Bytes
  connectionId : UInt64 := 0
  streamId : UInt32 := 0
  startTime : ℕ := 0
deriving DecidableEq

/-- The streams that are being published, by stream key. -/
abbrev StreamRegistry := AList fun _ : Bytes => StreamRegistration

namespace StreamRegistry

/-- The registry with the key registered, or nothing if another connection
publishes it. -/
def registerPublisher (registry : StreamRegistry) (app streamKey : Bytes)
    (connectionId : UInt64) (streamId : UInt32) (startTime : ℕ) : Option StreamRegistry :=
  let registered := registry.insert streamKey { app, streamKey, connectionId, streamId, startTime }
  match registry.lookup streamKey with
  | none => some registered
  | some current => if current.connectionId ≠ connectionId then none else some registered

def unregisterPublisher (registry : StreamRegistry) (streamKey : Bytes)
    (connectionId : UInt64) : StreamRegistry :=
  match registry.lookup streamKey with
  | none => registry
  | some current =>
    if current.connectionId = connectionId then registry.erase streamKey
    else registry

def unregisterAllForConnection (registry : StreamRegistry)
    (connectionId : UInt64) : StreamRegistry :=
  registry.keys.foldl (fun registry streamKey =>
      registry.unregisterPublisher streamKey connectionId) registry

end StreamRegistry

/-- The name under which the stream identities are kept: application and
stream key with a unit separator between them. -/
def makeKey (app streamKey : Bytes) : Bytes := app ++ 0x1f :: streamKey

/-! ## Sessions -/

inductive NetStreamState where
  | idle | publishing | playing
deriving DecidableEq

/-- A recorder that a factory made for an application and a stream. -/
structure RecorderRef where
  app : Bytes
  stream : Bytes
deriving DecidableEq

structure StreamSlot where
  state : NetStreamState := .idle
  streamKey : Bytes := []
  streamId : StreamId := {}
  recorder : Option RecorderRef := none
deriving DecidableEq

/-- The sink of one playing message stream. -/
structure PlaybackRelay where
  queue : ViewerQueue
  subscriberId : SubscriberId
  videoSequenceHeader : Option SharedMediaFrame := none
  audioSequenceHeader : Option SharedMediaFrame := none
deriving DecidableEq

/-- Which of its optional collaborators a session was given.  `liveFanout` is
the worker whose fan-out it uses. -/
structure SessionConfig where
  outgoingHandler : Bool := true
  mediaOutgoingHandler : Bool := false
  pendingQueueProvider : Bool := false
  mediaIngest : Bool := false
  recorder : Bool := false
  recorderFactory : Bool := false
  streamIdResolver : Bool := false
  playbackAuthorizer : Bool := false
  liveFanout : Option ℕ := none
  clientIp : Bytes := []
  playbackQueueLimits : QueueLimits := {}
deriving DecidableEq

structure CommandSession where
  config : SessionConfig
  connected : Bool := false
  appName : Bytes := []
  nextStreamId : UInt32 := 1
  lastCreatedStreamId : UInt32 := 0
  streams : AList (fun _ : UInt32 => StreamSlot) := ∅
  playbackRelays : AList (fun _ : UInt32 => PlaybackRelay) := ∅

/-- A call that leaves the modelled code.  The calls of a recorder name the
one the slot owns, or none for the one the session was given. -/
inductive Event where
  | sent (connection : UInt64) (message : RtmpMessage)
  | sentMedia (connection : UInt64) (frame : SharedMediaFrame)
      (chunkStreamId messageStreamId : UInt32)
  | pendingQueueRead (connection : UInt64)
  | publishStart (registration : StreamRegistration)
  | publishStop (streamKey : Bytes) (connection : UInt64)
  | viewerAttached (connection : UInt64) (app name : Bytes)
  | viewerDetached (connection : UInt64) (app name : Bytes)
  | ingested (connection : UInt64) (streamKey : Bytes) (message : RtmpMessage)
  | recorded (connection : UInt64) (recorder : Option RecorderRef) (message : RtmpMessage)
  | finalized (connection : UInt64) (recorder : Option RecorderRef)
  | forwarded (worker : ℕ) (streamId : StreamId) (frame : SharedMediaFrame)
      (kind : MediaKind) (isSticky isKeyframe : Bool)
  | subscription (worker : ℕ) (streamId : StreamId) (delta : ℤ)
  | streamEnd (worker : ℕ) (streamId : StreamId)
  | danglingSink (sink : SinkRef)
deriving DecidableEq

/-- What the injected functions answer during one call.  The backlog of a
connection may change from reading to reading, so it depends on how much has
happened before. -/
structure Answers where
  keyAllowed : Bool := true
  resolvedKey : Option Bytes := none
  playAllowed : Bool := true
  recorderMade : Bool := true
  startTime : ℕ := 0
  undefinedCast : UInt32 := 0
  pendingQueue : ℕ → QueueBacklog := fun _ => {}

/-- The shared state of a server.  `streamIdCount` and `subscriberIdCount` are
the counters from which identities are drawn. -/
structure World where
  registry : StreamRegistry := ∅
  streamIds : AList (fun _ : Bytes => StreamId) := ∅
  streamIdCount : ℕ := 0
  subscriberIdCount : ℕ := 0
  fanouts : ℕ → LiveFanout := fun _ => {}
  sessions : UInt64 → CommandSession
  log : List Event := []

namespace World

variable (w : World) (connection : UInt64) (messageStreamId : UInt32)

def emit (event : Event) : World := { w with log := w.log ++ [event] }

def setSession (session : CommandSession) : World :=
  { w with sessions := update w.sessions connection session }

def setFanout (worker : ℕ) (fanout : LiveFanout) : World :=
  { w with fanouts := update w.fanouts worker fanout }

def slot : Option StreamSlot := (w.sessions connection).streams.lookup messageStreamId

def setSlot (slot : StreamSlot) : World :=
  let session := w.sessions connection
  w.setSession connection { session with streams := session.streams.insert messageStreamId slot }

def relay : Option PlaybackRelay := (w.sessions connection).playbackRelays.lookup messageStreamId

def setRelay (relay : PlaybackRelay) : World :=
  let session := w.sessions connection
  w.setSession connection
    { session with playbackRelays := session.playbackRelays.insert messageStreamId relay }

def eraseRelay : World :=
  let session := w.sessions connection
  w.setSession connection
    { session with playbackRelays := session.playbackRelays.erase messageStreamId }

/-- The identity of a stream, drawn on first use. -/
def resolve (app streamKey : Bytes) : World × StreamId :=
  match w.streamIds.lookup (makeKey app streamKey) with
  | some id => (w, id)
  | none =>
    let id : StreamId := ⟨w.streamIdCount + 1⟩
    ({ w with
        streamIds := w.streamIds.insert (makeKey app streamKey) id
        streamIdCount := w.streamIdCount + 1 }, id)

/-! ## Outgoing messages -/

def kCommandChunkStreamId : UInt32 := 3
def kAudioChunkStreamId : UInt32 := 4
def kVideoChunkStreamId : UInt32 := 5
def kDataChunkStreamId : UInt32 := 6
def kUserControlStreamBegin : UInt16 := 0

def send (message : RtmpMessage) : World :=
  if (w.sessions connection).config.outgoingHandler then w.emit (.sent connection message)
  else w

def sendCommandMessage (values : List Amf0Value) : World :=
  w.send connection
    { chunkStreamId := kCommandChunkStreamId
      messageStreamId
      messageTypeId := MessageTypeId.amf0Command.code
      timestamp := 0
      payload := values.flatMap encode }

/-- The IEEE double of a number below 2^53. -/
def doubleOfNat (n : ℕ) : UInt64 :=
  if n = 0 then 0
  else
    let exponent := n.log2
    .ofNat ((1023 + exponent) * 2 ^ 52 + (n - 2 ^ exponent) * 2 ^ (52 - exponent))

def sendResult (transactionId : UInt64) (properties information : Amf0Value) : World :=
  w.sendCommandMessage connection 0
    [.string "_result", .number transactionId, properties, information]

def sendStatus (level code : String) (description : Bytes) : World :=
  w.sendCommandMessage connection messageStreamId
    [.string "onStatus", .number (doubleOfNat 0), .null, .object
        [("level", .string (textBytes level)), ("code", .string (textBytes code)),
          ("description", .string description)]]

def makeStreamBegin : RtmpMessage :=
  { chunkStreamId := kProtocolControlChunkStreamId
    messageStreamId := kProtocolControlMessageStreamId
    messageTypeId := MessageTypeId.userControlMessage.code
    payload := writeU16Be kUserControlStreamBegin ++ writeU32Be messageStreamId }

/-! ## Delivery to a viewer -/

/-- One media frame leaves for the client. -/
def emitFrame (w : World) (frame : SharedMediaFrame) : World :=
  let chunkStreamId :=
    if frame.messageTypeId = MessageTypeId.audio.code then kAudioChunkStreamId
    else if frame.messageTypeId = MessageTypeId.video.code then kVideoChunkStreamId
    else kDataChunkStreamId
  if (w.sessions connection).config.mediaOutgoingHandler then
    w.emit (.sentMedia connection frame chunkStreamId messageStreamId)
  else
    w.emit (.sent connection
      { chunkStreamId
        messageStreamId
        messageTypeId := frame.messageTypeId
        timestamp := frame.timestamp
        payload := frame.payload })

/-- What is still unsent on the connection, if it has a way to tell. -/
def readPendingQueue (answers : Answers) (w : World) (connection : UInt64) : World × QueueBacklog :=
  if (w.sessions connection).config.pendingQueueProvider then
    (w.emit (.pendingQueueRead connection), answers.pendingQueue w.log.length)
  else (w, {})

/-- Send a frame unless the viewer is behind.  Returns the viewer's queue and
whether the frame was sent. -/
def deliverPlaybackMessage (answers : Answers) (w : World)
    (connection : UInt64) (messageStreamId : UInt32) (frame : SharedMediaFrame)
    (relay : PlaybackRelay) (isVideo : Bool) : World × ViewerQueue × Bool :=
  let config := (w.sessions connection).config
  if !config.outgoingHandler && !config.mediaOutgoingHandler then (w, relay.queue, false)
  else
    let isKeyframe := isVideo && classifyIsVideoKeyframe frame
    let (w, pending) := w.readPendingQueue answers connection
    let (queue, decision) := relay.queue.offer pending frame.payload.length isVideo isKeyframe
    let flushed := queue.noteFlushed frame.payload.length
    match decision with
    | .dropAndWait | .evict => (w, queue, false)
    | .deliver => (w.emitFrame connection messageStreamId frame, flushed, true)
    | .deliverResumed =>
      -- the decoder is primed again before the keyframe
      let frames := relay.videoSequenceHeader.toList ++ relay.audioSequenceHeader.toList ++ [frame]
      (frames.foldl (emitFrame connection messageStreamId) w, flushed, true)

end World

/-- A relay keeps the decoder headers that pass through it. -/
def PlaybackRelay.noteHeader (relay : PlaybackRelay) (kind : MediaKind)
    (frame : SharedMediaFrame) : PlaybackRelay :=
  match kind with
  | .audio =>
    if classifyIsAudioSequenceHeader frame then { relay with audioSequenceHeader := some frame }
    else relay
  | .video =>
    if classifyIsVideoSequenceHeader frame then { relay with videoSequenceHeader := some frame }
    else relay
  | .metadata => relay

namespace World

/-! ## Calls through a sink pointer -/

variable (answers : Answers) (w : World) (kind : MediaKind) (worker : ℕ) (streamId : StreamId)
  (frame : SharedMediaFrame)

/-- The relay a sink pointer was taken of, while its session has it. -/
def sinkRelay (sink : SinkRef) : Option PlaybackRelay :=
  (w.relay sink.connection sink.messageStreamId).filter
    fun relay => relay.subscriberId = sink.subscriberId

/-- A media call of a sink.  What a call through a dangling pointer does is
undefined; it is recorded and has no other effect here. -/
def sinkOnMedia (sink : SinkRef) (kind : MediaKind) (frame : SharedMediaFrame) : World × Bool :=
  match w.sinkRelay sink with
  | none => (w.emit (.danglingSink sink), false)
  | some relay =>
    let noted := relay.noteHeader kind frame
    let (w, queue, delivered) :=
      w.deliverPlaybackMessage answers sink.connection sink.messageStreamId
        frame noted (kind = .video)
    (w.setRelay sink.connection sink.messageStreamId { noted with queue }, delivered)

/-- The playback on a message stream was ended from the outside. -/
def handlePlaybackEnded (level code description : String) (w : World)
    (connection : UInt64) (messageStreamId : UInt32) : World :=
  let ended : World :=
    match w.slot connection messageStreamId with
    | none => w
    | some slot =>
      let app := (w.sessions connection).appName
      let notified : World :=
        if slot.state = .playing then w.emit (.viewerDetached connection app slot.streamKey)
        else w
      (notified.setSlot connection messageStreamId { slot with state := .idle }).sendStatus
          connection messageStreamId level code (textBytes description)
  ended.eraseRelay connection messageStreamId

def handlePlaybackPublisherStopped : World → UInt64 → UInt32 → World :=
  handlePlaybackEnded "status" "NetStream.Play.UnpublishNotify"
    "Stream unpublished."

def handlePlaybackEvicted : World → UInt64 → UInt32 → World :=
  handlePlaybackEnded "error" "NetStream.Play.InsufficientBW"
    "Viewer fell too far behind."

/-- The call of a sink that ends its playback. -/
def sinkOnEnd (handler : World → UInt64 → UInt32 → World) (w : World) (sink : SinkRef) : World :=
  match w.sinkRelay sink with
  | none => w.emit (.danglingSink sink)
  | some _ => handler w sink.connection sink.messageStreamId

/-! ## The fan-out of a worker -/

/-- One decided delivery, with the headers to be sent before it. -/
def runDelivery (w : World) (delivery : PendingDelivery) : World × Bool :=
  let w := delivery.resendVideoSeqHeader.elim w fun header =>
    (w.sinkOnMedia answers delivery.sink .video header).1
  let w := delivery.resendAudioSeqHeader.elim w fun header =>
    (w.sinkOnMedia answers delivery.sink .audio header).1
  match delivery.kind with
  | some kind => w.sinkOnMedia answers delivery.sink kind frame
  | none => (w.sinkOnEnd handlePlaybackEvicted delivery.sink, false)

/-- The deliveries one after another, with their results. -/
def runDeliveryLoop (answers : Answers) (frame : SharedMediaFrame) (w : World) :
    List PendingDelivery → World × List (PendingDelivery × Bool)
  | [] => (w, [])
  | delivery :: rest =>
    let (w, delivered) := w.runDelivery answers frame delivery
    let (w, results) := runDeliveryLoop answers frame w rest
    (w, (delivery, delivered) :: results)

/-- An eviction for failed deliveries. -/
def evictForTransport (w : World) (sink : SinkRef) : World :=
  (w.emit (.subscription worker streamId (-1))).sinkOnEnd handlePlaybackEvicted sink

def runDeliveries (deliveries : List PendingDelivery) : World :=
  let (w, results) := w.runDeliveryLoop answers frame deliveries
  let (fanout, evictions) := results.foldl (LiveFanout.foldResult streamId) (w.fanouts worker, [])
  evictions.foldl (evictForTransport worker streamId) (w.setFanout worker fanout)

/-- A frame of a stream reaches the fan-out of a worker.  A frame that was
ingested there is offered to the router, a replayed one is not. -/
def onMedia (answers : Answers) (w : World) (worker : ℕ)
    (streamId : StreamId) (frame : SharedMediaFrame) (isReplayed : Bool) : World :=
  let fanout := w.fanouts worker
  let (state, isSticky, isKeyframe) := LiveFanout.cacheFrame (fanout.stateFor streamId) kind frame
  let (fanout, deliveries) :=
    (fanout.setState streamId state).dispatchLocked streamId frame kind
      isKeyframe
  let evicted := deliveries.filter fun delivery => delivery.kind = none
  let w := evicted.foldl (fun w _ => w.emit (.subscription worker streamId (-1)))
    (w.setFanout worker fanout)
  let w := w.runDeliveries answers worker streamId frame deliveries
  if isReplayed then w
  else w.emit (.forwarded worker streamId frame kind isSticky isKeyframe)

def onAudio := onMedia .audio
def onVideo := onMedia .video
def onMetadata := onMedia .metadata

/-- The entry point of the fan-out for each kind of media. -/
def onFrame : Answers → World → ℕ → StreamId → SharedMediaFrame → Bool → World :=
  match kind with
  | .audio => onAudio
  | .video => onVideo
  | .metadata => onMetadata

theorem onFrame_eq : onFrame kind = onMedia kind := by
  cases kind <;> rfl

def subscribe (subscriberId : SubscriberId) (sink : SinkRef) (clientIp : Bytes) : World :=
  let fanout := (w.fanouts worker).addSubscriber streamId subscriberId sink
    clientIp
  let w := (fanout.startup streamId).foldl
    (fun w item => (w.sinkOnMedia answers sink item.1 item.2).1)
    (w.setFanout worker fanout)
  w.emit (.subscription worker streamId 1)

def unsubscribe (subscriberId : SubscriberId) : World :=
  match (w.fanouts worker).subscriber streamId subscriberId with
  | none => w
  | some _ =>
    (w.setFanout worker ((w.fanouts worker).dropSubscriber streamId subscriberId)).emit
        (.subscription worker streamId (-1))

def publisherStopped (isReplayed : Bool) : World :=
  match (w.fanouts worker).streams.lookup streamId with
  | none => w
  | some _ =>
    let (fanout, sinks) := (w.fanouts worker).removeStream streamId
    let w := sinks.foldl (sinkOnEnd handlePlaybackPublisherStopped) (w.setFanout worker fanout)
    if isReplayed then w else w.emit (.streamEnd worker streamId)

end World

end RtmpCore.Live
