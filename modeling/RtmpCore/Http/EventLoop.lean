import RtmpCore.Http.Deferred
import RtmpCore.Support.Run

/-!
# The event loop of the HTTP server

One loop of `AsyncHttpServer`: its connections, the requests it cuts out of
what they send, the responses it writes and the mailbox through which other
threads hand it the answers it waits for.

What the kernel answers is part of an action: the results of the successive
`recv` and `sendmsg` calls, a call beyond the end of the list finding the
socket drained or full.  Time and readiness are left open: any connection may
be found expired by a sweep, and any connection may be reported readable or
writable.  The other loops of the server are part of the environment; they
share nothing with this one but the postponed responses.

A transcript records what passed over a connection.  It is not read by the
loop.  The ids of connections are counted without the end of `uint64_t`.
-/

namespace RtmpCore.Http

open RtmpCore.Core Text

structure AsyncHttpServerOptions where
  maxHeaderBytes : ℕ := 16 * 1024
  maxBodyBytes : ℕ := 128 * 1024
  enableKeepAlive : Bool := true
  maxRequestsPerConnection : ℕ := 1000
deriving DecidableEq

/-- What the server is given.  The handler may answer each call differently;
`timeoutResponse` is what it put into the postponed responses it made.
`isIpLiteral` tells the spellings of IP addresses. -/
structure ServerConfig where
  options : AsyncHttpServerOptions := {}
  handler : Option (ℕ → HttpRequest → HttpResponse) := none
  timeoutResponse : ℕ → HttpResponse := fun _ => {}
  isIpLiteral : Bytes → Bool := fun _ => true

/-! ## Transcripts -/

/-- How a request was answered: by the response the handler returned, by one it
postponed, or by a refusal of the loop itself. -/
inductive Reply where
  | handled (response : HttpResponse)
  | deferred (d : ℕ)
  | refused (status : ℕ)
deriving DecidableEq

/-- A request that was cut out of the stream, or the refusal of one. -/
structure Exchange where
  head : Bytes
  body : Bytes
  reply : Reply
deriving DecidableEq

/-- A response whose writing was begun. -/
structure Answer where
  response : HttpResponse
  keepAlive : Bool
deriving DecidableEq

structure Transcript where
  received : Bytes := []
  exchanges : List Exchange := []
  answers : List Answer := []
  written : Bytes := []
deriving DecidableEq

/-! ## Connections -/

inductive ConnectionState where
  | readingHead | readingBody | writing | deferred
deriving DecidableEq

structure Connection where
  fd : ℕ
  id : ℕ
  clientIp : Bytes := []
  state : ConnectionState := .readingHead
  inbox : Bytes := []
  requestHead : Bytes := []
  request : HttpRequest := {}
  expectedBody : ℕ := 0
  outHead : Bytes := []
  headSent : ℕ := 0
  outBody : Bytes := []
  bodyOffset : ℕ := 0
  bodyLength : ℕ := 0
  bodySent : ℕ := 0
  outInlineBody : Bytes := []
  keepAlive : Bool := false
  deferred : Option ℕ := none
  deferredKeepAlive : Bool := false
  requestsServed : ℕ := 0
  transcript : Transcript := {}
deriving DecidableEq

/-- What a step leaves of a connection. -/
inductive Outcome where
  | alive (connection : Connection)
  | closed (transcript : Transcript)

inductive SendResult where
  | accepted (count : ℕ)
  | interrupted
  | wouldBlock
  | failed
deriving DecidableEq

inductive RecvResult where
  | data (bytes : Bytes)
  | interrupted
  | shutdown
  | failed
deriving DecidableEq

def headEnd : Bytes := crlf ++ crlf

namespace Connection

/-! ## Writing a response -/

variable (c : Connection)

def bodyBytes : Bytes := if c.outBody = [] then c.outInlineBody else c.outBody.drop c.bodyOffset

/-- What the next `sendmsg` offers: the rest of the head, then the rest of the
body. -/
def unsent : Bytes := c.outHead.drop c.headSent ++ (c.bodyBytes.take c.bodyLength).drop c.bodySent

/-- The progress of head and body after `count` bytes were accepted. -/
def advance (count : ℕ) : Connection :=
  let headStep := min count (c.outHead.length - c.headSent)
  { c with
    headSent := c.headSent + headStep
    bodySent := c.bodySent + (count - headStep)
    transcript := { c.transcript with written := c.transcript.written ++ c.unsent.take count } }

/-- A response is out: close, or get ready for the next request. -/
def finishResponse : Outcome :=
  if c.keepAlive then
    .alive
      { c with
        state := .readingHead
        outHead := []
        outInlineBody := []
        outBody := []
        bodyOffset := 0
        bodyLength := 0
        headSent := 0
        bodySent := 0 }
  else .closed c.transcript

/-- Write as much as the socket takes.  The results that were not needed are
returned. -/
def flush (c : Connection) : List SendResult → Outcome × List SendResult
  | [] => if c.unsent = [] then (c.finishResponse, []) else (.alive c, [])
  | result :: rest =>
    if c.unsent = [] then (c.finishResponse, result :: rest)
    else
      match result with
      | .accepted count => (c.advance (min count c.unsent.length)).flush rest
      | .interrupted => c.flush rest
      | .wouldBlock => (.alive c, rest)
      | .failed => (.closed c.transcript, rest)

/-- Install a response as the one being written. -/
def startWriting (response : HttpResponse) (keepAlive : Bool) : Connection :=
  { c with
    state := .writing
    keepAlive
    outHead := serializeResponseHead response keepAlive
    headSent := 0
    bodySent := 0
    outBody := response.sharedBody
    bodyOffset := if response.sharedBody = [] then 0 else response.sharedBodyOffset
    bodyLength :=
      if response.sharedBody = [] then response.body.length
      else response.sharedBodyLength
    outInlineBody := if response.sharedBody = [] then response.body else []
    transcript := { c.transcript with answers := c.transcript.answers ++ [⟨response, keepAlive⟩] } }

/-- A slice outside of the handler's buffer closes the connection. -/
def beginResponse (response : HttpResponse) (keepAlive : Bool)
    (sends : List SendResult) : Outcome × List SendResult :=
  if response.sharedBody ≠ [] ∧ ¬ response.SliceInBounds then (.closed c.transcript, sends)
  else (c.startWriting response keepAlive).flush sends

def record (exchange : Exchange) : Connection :=
  { c with
    transcript := { c.transcript with exchanges := c.transcript.exchanges ++ [exchange] } }

/-! ## Reading a request -/

/-- Bytes were read from the socket. -/
def receive (bytes : Bytes) : Connection :=
  { c with
    inbox := c.inbox ++ bytes
    transcript := { c.transcript with received := c.transcript.received ++ bytes } }

/-- A head of `marker` bytes was accepted. -/
def takeHead (marker : ℕ) (request : HttpRequest) (length : ℕ) : Connection :=
  { c with
    state := .readingBody
    request
    expectedBody := length
    requestHead := c.inbox.take marker
    inbox := c.inbox.drop (marker + headEnd.length) }

/-- The body of the request is complete, and the request is answered by
`reply`. -/
def takeBody (request : HttpRequest) (reply : Reply) : Connection :=
  { c with
    inbox := c.inbox.drop c.expectedBody
    request
    requestsServed := c.requestsServed + 1 }.record
      ⟨c.requestHead, c.inbox.take c.expectedBody, reply⟩

/-- Wait for a postponed response. -/
def park (d : ℕ) (keepAlive : Bool) : Connection :=
  { c with state := .deferred, deferred := some d, deferredKeepAlive := keepAlive }

def release : Connection := { c with deferred := none }

/-- The response to a request that was not accepted. -/
def badRequest (status : ℕ) : HttpResponse :=
  { status, body := "\x7b\"error\":\"bad_request\"\x7d" }

def fail (status : ℕ) (sends : List SendResult) : Outcome × List SendResult :=
  (c.record ⟨[], [], .refused status⟩).beginResponse (badRequest status) false
    sends

end Connection

/-! ## What the connections share -/

/-- An answer on its way to a connection. -/
structure Resolved where
  fd : ℕ
  id : ℕ
  response : HttpResponse
deriving DecidableEq

/-- The postponed responses and the mailbox.  `posting` holds the answers whose
completion is running on another thread, `requests` counts the calls of the
handler and `resolutions` records the responses that were supplied first. -/
structure Shared where
  requests : ℕ := 0
  deferrals : ℕ → DeferredResponse := fun _ => {}
  mailbox : List Resolved := []
  posting : List Resolved := []
  resolutions : List (ℕ × HttpResponse) := []

namespace Shared

def setDeferral (shared : Shared) (d : ℕ) (deferral : DeferredResponse) : Shared :=
  { shared with deferrals := Function.update shared.deferrals d deferral }

/-- The answer a completion call brings to this loop. -/
def arrival : Option (Completion × HttpResponse) → List Resolved
  | some (.here fd id, response) => [⟨fd, id, response⟩]
  | _ => []

/-- Attach a completion on the loop's own thread: an answer that is already
there goes straight to the mailbox. -/
def attach (shared : Shared) (d : ℕ) (completion : Completion) : Shared :=
  let attached := (shared.deferrals d).attach completion
  { shared.setDeferral d attached.1 with mailbox := shared.mailbox ++ arrival attached.2 }

/-- Another thread supplies a response. -/
def resolve (shared : Shared) (d : ℕ) (response : HttpResponse) : Shared :=
  let deferral := shared.deferrals d
  let resolved := deferral.resolve response
  { shared.setDeferral d resolved.1 with
    posting := shared.posting ++ arrival resolved.2
    resolutions :=
      if deferral.resolved = true ∨ deferral.delivered = true then shared.resolutions
      else shared.resolutions ++ [(d, response)] }

/-- One of the running completions reaches the mailbox. -/
def post (shared : Shared) (index : ℕ) : Shared :=
  { shared with
    mailbox := shared.mailbox ++ (shared.posting[index]?).toList
    posting := shared.posting.eraseIdx index }

def cancel (shared : Shared) (d : ℕ) : Shared × Bool :=
  let cancelled := (shared.deferrals d).cancel
  (shared.setDeferral d cancelled.1, cancelled.2)

end Shared

/-! ## Requests -/

variable (config : ServerConfig) (shared : Shared) (c : Connection) (sends : List SendResult)

/-- The address behind a proxy on the same host, if the proxy named one. -/
def forwardedIp (clientIp : Bytes) (request : HttpRequest) : Bytes :=
  if clientIp = "127.0.0.1" then
    match request.headers.lookup (textBytes "x-forwarded-for") with
    | none => request.clientIp
    | some forwarded =>
      let candidate := trim (· = space) (forwarded.takeWhile (· ≠ 0x2C))
      if config.isIpLiteral candidate then candidate else request.clientIp
  else request.clientIp

def handlerResponse (calls : ℕ) (request : HttpRequest) : HttpResponse :=
  match config.handler with
  | some handler => handler calls request
  | none => { status := 503, body := "\x7b\"error\":\"no_handler\"\x7d" }

/-- Whether the connection stays open after a request.  Either side can veto
it. -/
def staysOpen (options : AsyncHttpServerOptions) (request : HttpRequest)
    (requestsServed : ℕ) : Bool :=
  let header := request.headers.lookup (textBytes "connection")
  options.enableKeepAlive && header ≠ some (textBytes "close") &&
    (request.httpVersion = "HTTP/1.1" ||
      header = some (textBytes "keep-alive")) &&
    decide (requestsServed + 1 < options.maxRequestsPerConnection)

/-- Park a connection on a postponed response. -/
def deferResponse (d : ℕ) (keepAlive : Bool) : Shared × Connection :=
  (shared.attach d (.here c.fd c.id), c.park d keepAlive)

def dispatchedRequest : HttpRequest :=
  { c.request with
    body := c.inbox.take c.expectedBody
    clientIp := forwardedIp config c.clientIp c.request }

/-- A request whose body is complete goes to the handler. -/
def dispatch : Shared × Outcome × List SendResult :=
  let request := dispatchedRequest config c
  let response := handlerResponse config shared.requests request
  let keepAlive := staysOpen config.options request c.requestsServed
  let counted := { shared with requests := shared.requests + 1 }
  match response.deferred with
  | some d =>
    let (attached, parked) := deferResponse counted (c.takeBody request (.deferred d)) d keepAlive
    (attached, .alive parked, sends)
  | none =>
    (counted, (c.takeBody request (.handled response)).beginResponse response keepAlive sends)

/-- The request in a complete head with the length of its body, or the status
with which it is refused. -/
def acceptHead (options : AsyncHttpServerOptions) (clientIp inbox : Bytes)
    (marker : ℕ) : Except ℕ (HttpRequest × ℕ) :=
  if options.maxHeaderBytes < marker then .error 431
  else
    match parseRequestHead clientIp (inbox.take marker) with
    | none => .error 400
    | some request =>
      match contentLengthOf request with
      | none => .error 400
      | some length =>
        if options.maxBodyBytes < length then .error 413
        else .ok (request, length)

/-- The body of the request whose head was read, and the request itself, once
all of it is there.  The flag says that the request was dispatched. -/
def consumeBody : Bool × Shared × Outcome × List SendResult :=
  if c.inbox.length < c.expectedBody then (false, shared, .alive c, sends)
  else (true, dispatch config shared c sends)

/-- One round of the parser. -/
def consumeRequest : Bool × Shared × Outcome × List SendResult :=
  match c.state with
  | .readingHead =>
    match find headEnd c.inbox with
    | none =>
      if config.options.maxHeaderBytes ≤ c.inbox.length then (false, shared, c.fail 431 sends)
      else (false, shared, .alive c, sends)
    | some marker =>
      match acceptHead config.options c.clientIp c.inbox marker with
      | .error status => (false, shared, c.fail status sends)
      | .ok (request, length) => consumeBody config shared (c.takeHead marker request length) sends
  | .readingBody => consumeBody config shared c sends
  | _ => (false, shared, .alive c, sends)

/-- Parse and serve the requests in the inbox.  Every round after the first
takes a head from it, so its length bounds the number of rounds. -/
def consumeRounds (config : ServerConfig) : ℕ → Shared → Connection → List SendResult →
      Shared × Outcome × List SendResult
  | 0, shared, c, sends => (shared, .alive c, sends)
  | rounds + 1, shared, c, sends =>
    match consumeRequest config shared c sends with
    | (true, shared, .alive c, sends) =>
      if c.state = .readingHead ∧ c.inbox ≠ [] then consumeRounds config rounds shared c sends
      else (shared, .alive c, sends)
    | (_, result) => result

def consumeInput : Shared × Outcome × List SendResult :=
  consumeRounds config (c.inbox.length + 2) shared c sends

/-- Read until the socket is drained or a response has to be written. -/
def readLoop (config : ServerConfig) (shared : Shared) (c : Connection)
    (sends : List SendResult) : List RecvResult → Shared × Outcome
  | [] => (shared, .alive c)
  | .data bytes :: rest =>
    match consumeInput config shared (c.receive bytes) sends with
    | (shared, .alive c, sends) =>
      if c.state = .writing then (shared, .alive c)
      else readLoop config shared c sends rest
    | (shared, .closed transcript, _) => (shared, .closed transcript)
  | .interrupted :: rest => readLoop config shared c sends rest
  | .shutdown :: _ => (shared, .closed c.transcript)
  | .failed :: _ => (shared, .closed c.transcript)

def onReadable (recvs : List RecvResult) (sends : List SendResult) : Shared × Outcome :=
  if c.state = .writing then (shared, .alive c)
  else readLoop config shared c sends recvs

/-- Go on writing; if the response is out, serve what was already read. -/
def onWritable : Shared × Outcome :=
  if c.state ≠ .writing then (shared, .alive c)
  else
    match c.flush sends with
    | (.closed transcript, _) => (shared, .closed transcript)
    | (.alive c, sends) =>
      if c.state = .readingHead ∧ c.inbox ≠ [] then
        let (shared, outcome, _) := consumeInput config shared c sends
        (shared, outcome)
      else (shared, .alive c)

/-! ## The loop -/

/-- `finished` keeps the transcripts of the connections that were closed. -/
structure EventLoop where
  shared : Shared := {}
  connections : AList (fun _ : ℕ => Connection) := ∅
  nextConnectionId : ℕ := 1
  finished : List Transcript := []

namespace EventLoop

variable (l : EventLoop) (fd : ℕ)

/-- Put back what a step left of a connection. -/
def settle (shared : Shared) : Outcome → EventLoop
  | .alive c => { l with shared, connections := l.connections.insert fd c }
  | .closed transcript =>
    { l with shared, connections := l.connections.erase fd, finished := l.finished ++ [transcript] }

/-- A step on the connection behind a descriptor; nothing happens if it is
gone. -/
def withConnection (step : Connection → Shared × Outcome) : EventLoop :=
  match l.connections.lookup fd with
  | none => l
  | some c => l.settle fd (step c).1 (step c).2

def addConnection (clientIp : Bytes) : EventLoop :=
  if fd ∈ l.connections then l
  else
    { l with
      connections := l.connections.insert fd { fd, id := l.nextConnectionId, clientIp }
      nextConnectionId := l.nextConnectionId + 1 }

def closeConnection : EventLoop := l.withConnection fd fun c => (l.shared, .closed c.transcript)

/-- A postponed response must not be postponed again. -/
def unnested (response : HttpResponse) : HttpResponse :=
  if response.deferred.isSome then
    { response with
      deferred := none
      status := 500
      body := "\x7b\"error\":\"nested_deferral\"\x7d" }
  else response

/-- Hand an answer to the connection that waits for it. -/
def applyResolved (entry : Resolved) (sends : List SendResult) : EventLoop × List SendResult :=
  match l.connections.lookup entry.fd with
  | none => (l, sends)
  | some c =>
    if c.id ≠ entry.id ∨ c.state ≠ .deferred then (l, sends)
    else
      let (outcome, sends) := c.release.beginResponse
        (unnested entry.response) c.deferredKeepAlive sends
      (l.settle entry.fd l.shared outcome, sends)

def applyAll (l : EventLoop) (sends : List SendResult) : List Resolved → EventLoop
  | [] => l
  | entry :: rest =>
    let (l, sends) := l.applyResolved entry sends
    l.applyAll sends rest

def drainResolved (sends : List SendResult) : EventLoop :=
  { l with shared := { l.shared with mailbox := [] } }.applyAll sends
    l.shared.mailbox

/-- The answer to a request whose postponed response did not come in time. -/
def timeoutAnswer (config : ServerConfig) (d : ℕ) : HttpResponse :=
  let response := { config.timeoutResponse d with deferred := none }
  if response.status = 0 then { response with status := 503 } else response

/-- A connection whose time is up.  If the answer it waits for was delivered
in the meantime, it keeps waiting for the mailbox to be drained. -/
def expire (config : ServerConfig) (l : EventLoop) (fd : ℕ)
    (sends : List SendResult) : EventLoop × List SendResult :=
  match l.connections.lookup fd with
  | none => (l, sends)
  | some c =>
    match c.state, c.deferred with
    | .deferred, some d =>
      let (shared, cancelled) := l.shared.cancel d
      if cancelled then
        let (outcome, sends) := c.release.beginResponse
          (timeoutAnswer config d) c.deferredKeepAlive sends
        (l.settle fd shared outcome, sends)
      else (l.settle fd shared (.alive c.release), sends)
    | _, _ => (l.closeConnection fd, sends)

def sweepTimeouts (config : ServerConfig) (l : EventLoop)
    (sends : List SendResult) : List ℕ → EventLoop
  | [] => l
  | fd :: rest =>
    let (l, sends) := l.expire config fd sends
    l.sweepTimeouts config sends rest

/-- What another loop does to a postponed response. -/
def elsewhere (shared : Shared) : EventLoop := { l with shared }

end EventLoop

/-- Everything that can happen to the loop: the events of its connections, the
drain of its mailbox, a sweep with the descriptors it finds expired, and what
other threads do to the postponed responses. -/
inductive Action where
  | accepted (fd : ℕ) (clientIp : Bytes)
  | readable (fd : ℕ) (recvs : List RecvResult) (sends : List SendResult)
  | writable (fd : ℕ) (sends : List SendResult)
  | hangup (fd : ℕ)
  | drained (sends : List SendResult)
  | swept (expired : List ℕ) (sends : List SendResult)
  | resolved (d : ℕ) (response : HttpResponse)
  | posted (index : ℕ)
  | attachedElsewhere (d : ℕ)
  | cancelledElsewhere (d : ℕ)

def EventLoop.perform (config : ServerConfig) (l : EventLoop) : Action → EventLoop
  | .accepted fd clientIp => l.addConnection fd clientIp
  | .readable fd recvs sends =>
    l.withConnection fd fun c => onReadable config l.shared c recvs sends
  | .writable fd sends => l.withConnection fd fun c => onWritable config l.shared c sends
  | .hangup fd => l.closeConnection fd
  | .drained sends => l.drainResolved sends
  | .swept expired sends => l.sweepTimeouts config sends expired
  | .resolved d response => l.elsewhere (l.shared.resolve d response)
  | .posted index => l.elsewhere (l.shared.post index)
  | .attachedElsewhere d => l.elsewhere (l.shared.attach d .elsewhere)
  | .cancelledElsewhere d => l.elsewhere (l.shared.cancel d).1

end RtmpCore.Http
