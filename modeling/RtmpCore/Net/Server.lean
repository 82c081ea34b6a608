import RtmpCore.Auth.Authenticator
import RtmpCore.Live.Commands
import RtmpCore.Live.Router
import RtmpCore.Net.Connection
import RtmpCore.Net.Handshake
import RtmpCore.Support.Table

/-!
# The server

The event loops of a server with the connections they own.  An event of a loop
is handled to its end before the next one.  While it is handled the code calls
back and forth: a message of a client makes its session send a reply, the reply
may overflow the write queue, and the overflow closes the connection inside the
call that handles the message.  What is left to be done in an event is
therefore a stack of tasks.  A task is taken off the top, and the calls it
makes are put in its place, so that a call is over before its caller goes on.

A handler of the command session is one task, and what it sends follows it.
This is the order of the code as long as no send closes the connection.  A send
that does, from inside a session, destroys the session while its functions are
still running; so does every failure of the decoder, which closes the connection
before it returns to the session.  What the code does then is undefined, and the
values that a session has here after such a close mean nothing: no theorem is
about a run that goes on from there.

The handlers read how much is queued on a connection through the answers they
are given, so nothing is assumed about these readings.
-/

namespace RtmpCore.Net

open Chunk Live Auth

/-- The settings of a server.  `services` says which of the optional services a
session is given. -/
structure ServerConfig where
  maximumConnections : ℕ := 2 ^ 32 - 1
  subscriberQueueMaxBytes : ℕ := 4 * 1024 * 1024
  subscriberQueueMaxPackets : ℕ := 512
  maximumRtmpMessageSize : UInt32 := 10 * 1024 * 1024
  outputChunkSize : UInt32 := 4096
  services : SessionConfig := {}

/-- A connection with what the loop keeps for it.  The connection outlives its
entry in the registry while an event that holds it is handled. -/
structure Peer where
  worker : ℕ
  tcp : TcpConnection
  registered : Bool := true
  handshake : HandshakeSession := {}
  handshakeListed : Bool := true
  session : Option RtmpConnectionSession := none
  sessionListed : Bool := false
  receivesSession : Bool := false

/-- A call on a connection that is still to be made or to be finished. -/
inductive PeerTask where
  | write (bytes : Bytes)
  | send (message : RtmpMessage)
  | sendMedia (frame : SharedMediaFrame) (chunkStreamId messageStreamId : UInt32)
  | handshakeComplete
  | handshakeFailed
  | installSession (trailing : Bytes)
  | decode (rounds : ℕ)
  | handleDecodedMessage (message : RtmpMessage)
  | flushPendingAcknowledgement
  | handleDecodeError
  | checkDecoder
  | closeConnection
  | finishClose

/-- A task of a loop: one of a connection, or a frame from another worker. -/
inductive LoopTask where
  | own (connection : UInt64) (task : PeerTask)
  | replay (worker : ℕ) (item : QueuedFrame SharedMediaFrame)

/-- What happens to a connection and is told apart here. -/
inductive PeerEvent where
  | admitted (clientIp : Bytes)
  | released (clientIp : Bytes)
  | closed
  | dispatched (message : RtmpMessage)
  | queued (bytes : Bytes)
deriving DecidableEq

/-- Next to the connections, the router between the workers and the shared
state of the sessions.  `nextConnectionId` is the counter of each worker. -/
structure Server (n : ℕ) where
  config : ServerConfig
  world : World
  authenticator : RtmpAuthenticator
  router : CrossWorkerRouter n SharedMediaFrame := {}
  peers : AList (fun _ : UInt64 => Peer) := ∅
  nextConnectionId : ℕ → UInt64 := fun _ => 1
  todo : List LoopTask := []
  trace : List (UInt64 × PeerEvent) := []

/-- What the kernel and the clock bring to a connection. -/
inductive PeerInput where
  | received (data : Bytes) (hello : ServerHello)
  | receiveFailed
  | sent (bytesSent : ℕ)
  | sendFailed
  | idleTimeout
  | handshakeTimeout
  | shutdown

inductive LoopEvent where
  | accepted (worker : ℕ) (clientIp : Bytes)
  | input (connection : UInt64) (input : PeerInput)
  | drained (worker maxFrames : ℕ)

/-- A step of the server: an event comes in, or the task on top is done, with
the answers of the injected functions and the order in which a hash table is
visited. -/
inductive Move where
  | event (event : LoopEvent)
  | run (answers : Answers) (order : List UInt32)

/-- What a call that leaves a session asks of the loop. -/
def taskOf : Event → Option LoopTask
  | .sent connection message => some (.own connection (.send message))
  | .sentMedia connection frame chunkStreamId messageStreamId =>
    some (.own connection (.sendMedia frame chunkStreamId messageStreamId))
  | _ => none

/-- The hooks of a fan-out call the router. -/
def routerCallOf : Event → Option (RouterCall SharedMediaFrame)
  | .forwarded worker streamId frame kind isSticky isKeyframe =>
    some (.forward worker streamId frame (kind = .video) (kind = .audio) isSticky isKeyframe)
  | .subscription worker streamId delta => some (.noteSubscription worker streamId delta)
  | .streamEnd worker streamId => some (.onStreamEnd worker streamId)
  | _ => none

/-! ## What a connection does -/

/-- What a task of a connection does to its command session: it is created, is
given a message or is closed. -/
inductive WorldCall where
  | create (config : SessionConfig)
  | message (message : RtmpMessage) (answers : Answers)
  | close (order : List UInt32)

/-- What a task of a connection does: the connection it leaves, the calls it
makes (those that the sessions ask for come first), and whether the address of
the connection is released. -/
structure Reaction where
  peer : Peer
  calls : List PeerTask := []
  news : List PeerEvent := []
  world : Option WorldCall := none
  releases : Bool := false

namespace Peer

variable (peer : Peer)

/-- `TcpConnection::close`: a connection that is going is left alone. -/
def close : Reaction :=
  if peer.tcp.isGoing then { peer }
  else
    { peer := { peer with tcp := { peer.tcp with state := .closing } }
      calls := [.closeConnection] }

def asyncWrite (bytes : Bytes) : Reaction :=
  if peer.tcp.isGoing then { peer }
  else if peer.tcp.overflows bytes.length then peer.close
  else
    { peer := { peer with tcp := peer.tcp.enqueue bytes }
      news := [.queued bytes] }

/-- A task of the protocol session; without one there is nothing to do. -/
def withSession (f : RtmpConnectionSession → Reaction) : Reaction := peer.session.elim { peer } f

def setSession (session : RtmpConnectionSession) : Peer := { peer with session := some session }

def sendEncoded (message : RtmpMessage) : Reaction :=
  peer.withSession fun session =>
    if session.isMute then { peer }
    else
      let encoded := session.encoder.encodeMessage message
      { peer := peer.setSession { session with encoder := encoded.1 }
        calls := [.write encoded.2] }

def sendEncodedMedia (frame : SharedMediaFrame)
    (chunkStreamId messageStreamId : UInt32) : Reaction :=
  peer.withSession fun session =>
    if session.isMute then { peer }
    else
      { peer
        calls := [.write (wireBytes session.outputChunkSize frame chunkStreamId messageStreamId)] }

/-! ### The handshake and the session after it -/

def handshakeTask : HandshakeCall → PeerTask
  | .send bytes => .write bytes
  | .complete => .handshakeComplete
  | .fail _ => .handshakeFailed

/-- The handshake has moved and makes its calls. -/
def afterHandshake (moved : HandshakeSession × List HandshakeCall) : Reaction :=
  { peer := { peer with handshake := moved.1 }
    calls := moved.2.map handshakeTask }

/-- What a new session is given. -/
def sessionConfig (config : ServerConfig) : SessionConfig :=
  { config.services with
    outgoingHandler := true
    mediaOutgoingHandler := true
    pendingQueueProvider := true
    liveFanout := some peer.worker
    clientIp := peer.tcp.clientIp
    playbackQueueLimits :=
      { maxBytes := config.subscriberQueueMaxBytes
        maxPackets := config.subscriberQueueMaxPackets } }

/-- The handshake is over: `start_rtmp_session` up to the call of `start`,
whose announcement is written before the session is installed. -/
def handshakeComplete (config : ServerConfig) : Reaction :=
  let (session, written) :=
    (RtmpConnectionSession.create config.maximumRtmpMessageSize config.outputChunkSize).start
  { peer :=
      { peer with
        tcp := { peer.tcp with state := .connected }
        handshake := { peer.handshake with buffer := [] }
        handshakeListed := false
        session := some session }
    calls := (written.map PeerTask.write).toList ++ [.installSession peer.handshake.buffer]
    world := some (.create (peer.sessionConfig config)) }

def handshakeFailed : Reaction :=
  { peer := { peer with handshakeListed := false }
    calls := [.closeConnection] }

/-- `RtmpConnectionSession::on_bytes_received`, up to the decoder's loop. -/
def feed (data : Bytes) : Reaction :=
  peer.withSession fun session =>
    if session.isMute ∨ data = [] then { peer }
    else if session.decoder.state.failed then { peer, calls := [.checkDecoder] }
    else
      let decoder :=
        { session.decoder with
          buffer := session.decoder.buffer ++ data
          bytesReceived := session.decoder.bytesReceived + UInt64.ofNat data.length }
      { peer := peer.setSession { session with decoder }
        calls := [.decode (decoder.buffer.length + 1), .checkDecoder] }

/-- The end of `start_rtmp_session`: the session takes over the connection and
is fed what came behind the handshake. -/
def installSession (trailing : Bytes) : Reaction :=
  feed { peer with receivesSession := true, sessionListed := true } trailing

def receive (data : Bytes) (hello : ServerHello) : Reaction :=
  if peer.receivesSession then peer.feed data
  else peer.afterHandshake (peer.handshake.onBytesReceived hello data)

/-! ### Decoding -/

def decoderTask : DecoderEvent → PeerTask
  | .message message => .handleDecodedMessage message
  | .error _ => .handleDecodeError

/-- One round of the decoder's loop. -/
def decode : ℕ → Reaction
  | 0 => { peer }
  | rounds + 1 =>
    peer.withSession fun session =>
      let step := decodeOne session.decoderConfig session.decoder.state
        session.decoder.buffer
      let decoder := { session.decoder with state := step.state, buffer := step.buffer }
      { peer := peer.setSession { session with decoder }
        calls := step.events.map decoderTask ++
          if step.result = .consumed then [.decode rounds] else [] }

/-- `RtmpConnectionSession::fail`. -/
def failSession : Reaction :=
  peer.withSession fun session =>
    if session.failed then { peer }
    else
      { peer := peer.setSession { session with failed := true }
        calls := [.closeConnection] }

/-- The last line of `RtmpConnectionSession::on_bytes_received`.  After a failure that
has closed the connection the code reads freed memory here. -/
def checkDecoder : Reaction :=
  peer.withSession fun session =>
    if session.decoder.state.failed then peer.failSession
    else { peer }

/-- A decoded message: `failed` is looked at, `closed` is not. -/
def handleDecodedMessage (message : RtmpMessage) (answers : Answers) : Reaction :=
  peer.withSession fun session =>
    if session.failed then { peer }
    else
      match handlingOf message with
      | .userControl => { peer, calls := ((handleUserControl message).map PeerTask.send).toList }
      | .ignore => { peer }
      | .command =>
        { peer
          calls := [.flushPendingAcknowledgement]
          news := [.dispatched message]
          world := some (.message message answers) }

def flushPendingAcknowledgement : Reaction :=
  peer.withSession fun session =>
    match session.dueAcknowledgement with
    | none => { peer }
    | some message => { peer := peer.setSession session.markAcknowledged, calls := [.send message] }

/-! ### Closing -/

/-- The connection is closing, and its handshake and session are taken off the
loop's lists. -/
def leaving : Peer :=
  { peer with
    tcp := { peer.tcp with state := .closing }
    handshakeListed := false
    sessionListed := false }

/-- `close_connection` up to the session's teardown. -/
def closeConnection (order : List UInt32) : Reaction :=
  let finishing : Reaction := { peer := peer.leaving, calls := [.finishClose] }
  peer.session.elim finishing fun session =>
    if peer.sessionListed = false ∨ session.closed then finishing
    else
      { finishing with
        peer := peer.leaving.setSession { session with closed := true }
        world := some (.close order) }

/-- The rest of `close_connection`: the release is unconditional. -/
def finishClose : Reaction :=
  { peer :=
      { peer with registered := false, tcp := { peer.tcp with state := .closed } }
    news := [.released peer.tcp.clientIp, .closed]
    releases := true }

/-! ### Tasks and inputs -/

def perTask (config : ServerConfig) (answers : Answers) (order : List UInt32) : PeerTask → Reaction
  | .write bytes => peer.asyncWrite bytes
  | .send message => peer.sendEncoded message
  | .sendMedia frame chunkStreamId messageStreamId =>
    peer.sendEncodedMedia frame chunkStreamId messageStreamId
  | .handshakeComplete => peer.handshakeComplete config
  | .handshakeFailed => peer.handshakeFailed
  | .installSession trailing => peer.installSession trailing
  | .decode rounds => peer.decode rounds
  | .handleDecodedMessage message => peer.handleDecodedMessage message answers
  | .flushPendingAcknowledgement => peer.flushPendingAcknowledgement
  | .handleDecodeError => peer.failSession
  | .checkDecoder => peer.checkDecoder
  | .closeConnection => peer.closeConnection order
  | .finishClose => peer.finishClose

/-- A failed receive or send closes the connection in whatever state it is, a
timeout closes it if it is open. -/
def onInput : PeerInput → Reaction
  | .received data hello => if peer.tcp.isOpen then peer.receive data hello else { peer }
  | .receiveFailed => { peer, calls := [.closeConnection] }
  | .sent bytesSent => { peer := { peer with tcp := peer.tcp.onSendCompletion bytesSent true } }
  | .sendFailed =>
    { peer := { peer with tcp := peer.tcp.onSendCompletion 0 false }
      calls := [.closeConnection] }
  | .idleTimeout =>
    if peer.tcp.isOpen then { peer, calls := [.closeConnection] }
    else { peer }
  | .handshakeTimeout =>
    if peer.handshakeListed && peer.tcp.isOpen then peer.afterHandshake peer.handshake.onTimeout
    else { peer }
  | .shutdown => peer.close

end Peer

/-- What a worker does with a frame that another one forwarded. -/
def replayOf (worker : ℕ) (item : QueuedFrame SharedMediaFrame) (answers : Answers) : Action :=
  match item.kind with
  | .video => .replayedMedia worker item.streamId .video item.frame answers
  | .audio => .replayedMedia worker item.streamId .audio item.frame answers
  | .metadata => .replayedMedia worker item.streamId .metadata item.frame answers
  | .streamEnd => .replayedStop worker item.streamId

namespace Server

variable {n : ℕ}

/-- Something happens to the sessions; what they send is to be written. -/
def perform (s : Server n) (action : Action) : Server n :=
  let world := s.world.perform action
  let news := world.log.drop s.world.log.length
  { s with
    world
    router := (news.filterMap routerCallOf).foldl
      (fun router call => (router.perform call).1) s.router
    todo := news.filterMap taskOf ++ s.todo }

variable (s : Server n) (connection : UInt64) (worker : ℕ)

def callWorld : WorldCall → Server n
  | .create config => { s with world := s.world.setSession connection { config } }
  | .message message answers => s.perform (.message connection message answers)
  | .close order => s.perform (.closed connection order)

def react (reaction : Reaction) : Server n :=
  let reacted : Server n :=
    { s with
      peers := s.peers.insert connection reaction.peer
      todo := reaction.calls.map (LoopTask.own connection) ++ s.todo
      trace := s.trace ++ reaction.news.map (Prod.mk connection)
      authenticator :=
        if reaction.releases then s.authenticator.releaseConnection reaction.peer.tcp.clientIp
        else s.authenticator }
  reaction.world.elim reacted (reacted.callWorld connection)

/-- A connection that the loop still knows of reacts. -/
def withPeer (f : Peer → Reaction) : Server n :=
  (s.peers.lookup connection).elim s fun peer => s.react connection (f peer)

def perTask (s : Server n) (answers : Answers) (order : List UInt32) : LoopTask → Server n
  | .own connection task =>
    s.withPeer connection fun peer => peer.perTask s.config answers order task
  | .replay worker item => s.perform (replayOf worker item answers)

/-! ## Events -/

def kWorkerIdShift : UInt64 := 56

def kLocalIdMask : UInt64 := (1 <<< kWorkerIdShift) - 1

/-- The identity of a worker's next connection. -/
def connectionId : UInt64 :=
  ((UInt64.ofNat worker + 1) <<< kWorkerIdShift) ||| (s.nextConnectionId worker &&& kLocalIdMask)

def connectionCount : ℕ :=
  Table.total (fun peer : Peer => if peer.registered ∧ peer.worker = worker then 1 else 0)
    s.peers

def newPeer (config : ServerConfig) (worker : ℕ) (clientIp : Bytes) : Peer where
  worker
  tcp :=
    { clientIp
      maxWriteQueueBytes := config.subscriberQueueMaxBytes + config.maximumRtmpMessageSize.toNat
      maxWriteQueuePackets := config.subscriberQueueMaxPackets + 64
      state := .handshaking }

/-- A new connection, unless the loop or its address has too many. -/
def accept (clientIp : Bytes) : Server n :=
  if s.config.maximumConnections ≤ s.connectionCount worker then s
  else
    let (authenticator, admitted) := s.authenticator.admitConnection clientIp
    if admitted then
      { s with
        authenticator
        nextConnectionId := Function.update s.nextConnectionId worker
          (s.nextConnectionId worker + 1)
        peers := s.peers.insert (s.connectionId worker) (newPeer s.config worker clientIp)
        trace := s.trace ++ [(s.connectionId worker, .admitted clientIp)] }
    else { s with authenticator }

def replayTask : RouterEvent n SharedMediaFrame → Option LoopTask
  | .drained worker item => some (.replay worker.val item)
  | .dropped .. => none

/-- A completion finds its connection while the registry has it. -/
def handleEvent : LoopEvent → Server n
  | .accepted worker clientIp => s.accept worker clientIp
  | .input connection input =>
    s.withPeer connection fun peer => if peer.registered then peer.onInput input else { peer }
  | .drained worker maxFrames =>
    let (router, events) := s.router.drain worker maxFrames
    { s with router, todo := events.filterMap replayTask ++ s.todo }

/-! ## Runs -/

/-- An event is handled only after the one before it. -/
def step : Move → Server n
  | .event event =>
    match s.todo with
    | [] => s.handleEvent event
    | _ :: _ => s
  | .run answers order =>
    match s.todo with
    | [] => s
    | task :: rest => { s with todo := rest }.perTask answers order task

/-- A server before the first connection. -/
def initial (n : ℕ) (config : ServerConfig) (limits : AuthenticatorLimits)
    (routerLimits : RouterLimits) (fanout : ℕ → GopLimits × QueueLimits × ℕ) : Server n where
  config
  world := World.initial (fun _ => config.services) fanout
  authenticator := { limits }
  router := { limits := routerLimits }

end Server

end RtmpCore.Net
