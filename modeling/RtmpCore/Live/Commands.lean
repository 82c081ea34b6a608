import Mathlib.Data.List.Dedup
import RtmpCore.Live.Session

/-!
# The command messages

What a session does with a message of its client: the commands `connect`,
`releaseStream`, `FCPublish`, `createStream`, `publish`, `play` and
`deleteStream`, and the media of a stream that is being published.  `Action`
collects everything that can happen to a server.
-/

namespace RtmpCore.Live

open Chunk Amf0

inductive CommandName where
  | connect | releaseStream | fcPublish | createStream | publish | play
  | deleteStream
deriving DecidableEq

namespace CommandName

def text : CommandName → Bytes
  | connect => "connect"
  | releaseStream => "releaseStream"
  | fcPublish => "FCPublish"
  | createStream => "createStream"
  | publish => "publish"
  | play => "play"
  | deleteStream => "deleteStream"

def ofText (name : Bytes) : Option CommandName :=
  [connect, releaseStream, fcPublish, createStream, publish, play,
    deleteStream].find? fun command => command.text = name

end CommandName

/-- A decoded command message.  The transaction id is an IEEE double. -/
structure Amf0Command where
  name : Bytes
  transactionId : UInt64 := 0
  commandObject : Amf0Value := .null
  arguments : List Amf0Value := []

/-- The command in a list of decoded values, if the first one is a name. -/
def Amf0Command.ofValues : List Amf0Value → Option Amf0Command
  | .string name :: rest =>
    some
      { name
        transactionId :=
          match rest.head? with
          | some (.number bits) => bits
          | _ => 0
        commandObject := rest[1]?.getD .null
        arguments := rest.drop 2 }
  | _ => none

/-- The command in a payload; malformed payloads have none. -/
def Amf0Command.decode (payload : Bytes) : Option Amf0Command :=
  match decodeAll payload with
  | .error _ => none
  | .ok values => Amf0Command.ofValues values

def stringArg : Amf0Value → Bytes
  | .string bytes => bytes
  | _ => []

/-- The first argument of a command, as a stream name. -/
def Amf0Command.streamName (command : Amf0Command) : Bytes :=
  (command.arguments.head?.map stringArg).getD []

/-- The name in front of a query string, and the query. -/
def splitQuery (name : Bytes) : Bytes × Bytes :=
  (name.takeWhile (· ≠ 0x3F), (name.dropWhile (· ≠ 0x3F)).drop 1)

/-- The conversion of a double to a 32-bit number: truncation towards zero
where the result can be represented, and undefined otherwise. -/
def castToU32 (bits : UInt64) : Option UInt32 :=
  let exponent := bits.toNat / 2 ^ 52 % 2 ^ 11
  let significand := 2 ^ 52 + bits.toNat % 2 ^ 52
  if exponent < 1023 then some 0
  else if bits.toNat / 2 ^ 63 = 1 ∨ 1023 + 32 ≤ exponent then none
  else some (.ofNat (significand / 2 ^ (1075 - exponent)))

/-- The stream name under which an authorised `publish` goes on the air.  The
key validator and the resolver may turn it down. -/
def publishIdentity (config : SessionConfig) (answers : Answers)
    (streamKey : Bytes) : Option Bytes :=
  if streamKey = [] ∨ answers.keyAllowed = false then none
  else if config.streamIdResolver then answers.resolvedKey
  else some streamKey

def playAuthorized (config : SessionConfig) (answers : Answers) : Bool :=
  !config.playbackAuthorizer || answers.playAllowed

namespace World

variable (answers : Answers) (w : World) (connection : UInt64) (command : Amf0Command)
  (messageStreamId : UInt32) (message : RtmpMessage)

def handleConnect : World :=
  let app := command.commandObject.find "app"
  let session := w.sessions connection
  (w.setSession connection
    { session with
      appName := (app.map stringArg).getD []
      connected := true }).sendResult connection command.transactionId (.object
          [("fmsVer", .string "FMS/3,0,1,123"), ("capabilities", .number (doubleOfNat 31))])
        (.object
          [("level", .string "status"), ("code", .string "NetConnection.Connect.Success"),
            ("description", .string "Connection succeeded."),
            ("objectEncoding", .number (doubleOfNat 0))])

def handleReleaseStream : World := w.sendResult connection command.transactionId .null .undefined

def handleFcPublish : World := w.sendResult connection command.transactionId .null .undefined

def handleCreateStream : World :=
  let session := w.sessions connection
  let streamId := session.nextStreamId
  (w.setSession connection
    { session with
      nextStreamId := streamId + 1
      lastCreatedStreamId := streamId
      streams := session.streams.insert streamId {} }).sendResult
        connection command.transactionId .null
        (.number (doubleOfNat streamId.toNat))

def handlePublish : World :=
  let session := w.sessions connection
  match publishIdentity session.config answers command.streamName with
  | none =>
    w.sendStatus connection messageStreamId "error"
      "NetStream.Publish.BadName"
      "Stream key rejected or missing."
  | some canonicalId =>
    match w.registry.registerPublisher session.appName canonicalId connection
        messageStreamId answers.startTime with
    | none =>
      w.sendStatus connection messageStreamId "error"
        "NetStream.Publish.BadName"
        "Stream key already in use by another publisher."
    | some registry =>
      let (resolved, streamId) := { w with registry }.resolve session.appName canonicalId
      let slot := (w.slot connection messageStreamId).getD {}
      let made : Option RecorderRef :=
        if answers.recorderMade then some ⟨session.appName, canonicalId⟩
        else none
      let published := resolved.setSlot connection messageStreamId
        { state := .publishing
          streamKey := canonicalId
          streamId
          recorder := if session.config.recorderFactory then made else slot.recorder }
      let started := published.sendStatus connection messageStreamId
        "status" "NetStream.Publish.Start"
        ("Publishing " ++ command.streamName ++ ".")
      match started.registry.lookup canonicalId with
      | none => started
      | some registration => started.emit (.publishStart registration)

/-- The slot that an authorised `play` command leaves behind. -/
def playingSlot (streamKey : Bytes) : StreamSlot :=
  { (w.slot connection messageStreamId).getD {} with
    state := .playing
    streamKey
    streamId := (w.resolve (w.sessions connection).appName streamKey).2 }

/-- An authorised `play` command, up to the point where it subscribes.  The
client waits for the stream-begin event before it renders anything. -/
def startPlaying (streamKey : Bytes) : World :=
  let (resolved, _) := w.resolve (w.sessions connection).appName streamKey
  let playing := resolved.setSlot connection messageStreamId
    (w.playingSlot connection messageStreamId streamKey)
  (playing.send connection (makeStreamBegin messageStreamId)).sendStatus
    connection messageStreamId "status" "NetStream.Play.Start"
    ("Started playing " ++ streamKey ++ ".")

/-- A relay with a new identity replaces the relay of the message stream and
is subscribed. -/
def attachRelay (worker : ℕ) (streamId : StreamId) : World :=
  let config := (w.sessions connection).config
  let subscriberId : SubscriberId := ⟨w.subscriberIdCount + 1⟩
  let relayed :=
    { w with subscriberIdCount := w.subscriberIdCount + 1 }.setRelay connection
      messageStreamId
      { queue := { limits := config.playbackQueueLimits }, subscriberId }
  relayed.subscribe answers worker streamId subscriberId
    ⟨connection, messageStreamId, subscriberId⟩ config.clientIp

def handlePlay : World :=
  let session := w.sessions connection
  let streamKey := (splitQuery command.streamName).1
  if playAuthorized session.config answers then
    let started := w.startPlaying connection messageStreamId streamKey
    let subscribed : World :=
      match session.config.liveFanout with
      | none => started
      | some worker =>
        if streamKey = [] then started
        else
          started.attachRelay answers connection messageStreamId worker
            (w.playingSlot connection messageStreamId streamKey).streamId
    subscribed.emit (.viewerAttached connection session.appName streamKey)
  else
    w.sendStatus connection messageStreamId "error" "NetStream.Play.Failed"
      "Playback not authorized."

/-- The end of a publication.  The slot's own recorder is finalized, or else
the one the session was given. -/
def stopPublishing (slot : StreamSlot) : World :=
  let config := (w.sessions connection).config
  let unregistered :=
    { w with registry := w.registry.unregisterPublisher slot.streamKey connection }
  let finalized : World :=
    if slot.recorder.isSome || config.recorder then
      unregistered.emit (.finalized connection slot.recorder)
    else unregistered
  let stopped := config.liveFanout.elim finalized fun worker =>
    finalized.publisherStopped worker slot.streamId false
  stopped.emit (.publishStop slot.streamKey connection)

/-- Take the relay of a playing message stream out of the fan-out. -/
def unsubscribeRelay (streamId : StreamId) : World :=
  match (w.sessions connection).config.liveFanout, w.relay connection messageStreamId with
  | some worker, some relay => w.unsubscribe worker streamId relay.subscriberId
  | _, _ => w

/-- The notice that a viewer left. -/
def detachViewer (name : Bytes) : World :=
  w.emit (.viewerDetached connection (w.sessions connection).appName name)

def eraseSlot : World :=
  let session := w.sessions connection
  w.setSession connection { session with streams := session.streams.erase messageStreamId }

/-- The argument of `deleteStream` is converted without a range check. -/
def deletedStreamId : Option UInt32 :=
  match command.arguments.head? with
  | some (.number bits) => some ((castToU32 bits).getD answers.undefinedCast)
  | _ => none

def deleteSlot (streamId : UInt32) : World :=
  match w.slot connection streamId with
  | none => w
  | some slot =>
    let stopped : World :=
      if slot.state = .publishing ∧ slot.streamKey ≠ [] then w.stopPublishing connection slot
      else if slot.state = .playing ∧ slot.streamKey ≠ [] then
        ((w.unsubscribeRelay connection streamId slot.streamId).eraseRelay
          connection streamId).detachViewer connection slot.streamKey
      else w
    stopped.eraseSlot connection streamId

def handleDeleteStream : World :=
  match deletedStreamId answers command with
  | none => w
  | some streamId => w.deleteSlot connection streamId

/-- What the end of the connection does for one message stream. -/
def closeSlot (w : World) (messageStreamId : UInt32) : World :=
  match w.slot connection messageStreamId with
  | none => w
  | some slot =>
    if slot.state = .publishing ∧ slot.streamKey ≠ [] then w.stopPublishing connection slot
    else if slot.state = .playing ∧ slot.streamKey ≠ [] then
      (w.unsubscribeRelay connection messageStreamId slot.streamId).detachViewer
        connection slot.streamKey
    else w

/-- The message streams of a connection, in an order that a hash table may
visit them in. -/
def visitOrder (order : List UInt32) : List UInt32 :=
  let keys := (w.sessions connection).streams.keys
  (order.filter (· ∈ keys) ++ keys).dedup

def onConnectionClosed (order : List UInt32) : World :=
  let visited := (w.visitOrder connection order).foldl (closeSlot connection) w
  let cleared := visited.setSession connection
    { visited.sessions connection with streams := ∅, playbackRelays := ∅ }
  { cleared with registry := cleared.registry.unregisterAllForConnection connection }

def routeMediaMessage (kind : MediaKind) : World :=
  let config := (w.sessions connection).config
  if !config.mediaIngest && !config.recorder && !config.recorderFactory &&
      config.liveFanout.isNone then w
  else
    match w.slot connection message.messageStreamId with
    | none => w
    | some slot =>
      if slot.state ≠ .publishing ∨ slot.streamKey = [] then w
      else
        let ingested : World :=
          if config.mediaIngest then w.emit (.ingested connection slot.streamKey message)
          else w
        let recorded : World :=
          if slot.recorder.isSome || config.recorder then
            ingested.emit (.recorded connection slot.recorder message)
          else ingested
        config.liveFanout.elim recorded fun worker =>
          recorded.onFrame kind answers worker slot.streamId
            { payload := message.payload
              messageTypeId := message.messageTypeId
              timestamp := message.timestamp } false

def dispatch : World :=
  match CommandName.ofText command.name with
  | some .connect => w.handleConnect connection command
  | some .releaseStream => w.handleReleaseStream connection command
  | some .fcPublish => w.handleFcPublish connection command
  | some .createStream => w.handleCreateStream connection command
  | some .publish => w.handlePublish answers connection command messageStreamId
  | some .play => w.handlePlay answers connection command messageStreamId
  | some .deleteStream => w.handleDeleteStream answers connection command
  | none => w

def mediaKind (messageTypeId : UInt8) : Option MediaKind :=
  if messageTypeId = MessageTypeId.audio.code then some .audio
  else if messageTypeId = MessageTypeId.video.code then some .video
  else if messageTypeId = MessageTypeId.amf0Data.code then some .metadata
  else none

/-- The command a message carries, if it is a command message that can be
decoded. -/
def commandOf : Option Amf0Command :=
  if message.messageTypeId = MessageTypeId.amf0Command.code then Amf0Command.decode message.payload
  else none

def handleMessage : World :=
  match mediaKind message.messageTypeId with
  | some kind => w.routeMediaMessage answers connection message kind
  | none =>
    match commandOf message with
    | none => w
    | some command => w.dispatch answers connection command message.messageStreamId

end World

/-- Everything that can happen to a server: a client's message, the end of a
connection (with the order in which its message streams are visited), and what
the router brings to a worker from another one. -/
inductive Action where
  | message (connection : UInt64) (message : RtmpMessage) (answers : Answers)
  | closed (connection : UInt64) (order : List UInt32)
  | replayedMedia (worker : ℕ) (streamId : StreamId) (kind : MediaKind)
      (frame : SharedMediaFrame) (answers : Answers)
  | replayedStop (worker : ℕ) (streamId : StreamId)

def World.perform (w : World) : Action → World
  | .message connection message answers => w.handleMessage answers connection message
  | .closed connection order => w.onConnectionClosed connection order
  | .replayedMedia worker streamId kind frame answers =>
    w.onFrame kind answers worker streamId frame true
  | .replayedStop worker streamId => w.publisherStopped worker streamId true

/-- A server before the first connection.  Every session is as its
configuration makes it. -/
def World.initial (config : UInt64 → SessionConfig)
    (fanout : ℕ → GopLimits × QueueLimits × ℕ) : World where
  sessions connection := { config := config connection }
  fanouts worker :=
    { gopLimits := (fanout worker).1
      queueLimits := (fanout worker).2.1
      maxFramesWaitingForKeyframe := (fanout worker).2.2 }

end RtmpCore.Live
