import RtmpCore.Http.EventLoop

/-!
# What can happen to a connection

`Step` lists the things that can happen to one connection of the loop: bytes
arrive, a head is accepted or refused, a request is answered or postponed, and
a part of a response goes out.  `Steps` is its closure.  Everything the loop
does to a connection on an event is such a sequence of steps, so that a
property of connections has to be looked at once for each kind of step.
-/

namespace RtmpCore.Http

open Text

def Shared.countRequest (shared : Shared) : Shared :=
  { shared with requests := shared.requests + 1 }

/-- A property of the connection, or of its transcript if it was closed. -/
def Outcome.Meets (Alive : Connection → Prop) (Closed : Transcript → Prop) : Outcome → Prop
  | .alive c => Alive c
  | .closed transcript => Closed transcript

/-- One thing that happens to a connection, with what it leaves of the
connection and of the shared state. -/
inductive Step (config : ServerConfig) : Shared → Connection → Shared → Outcome → Prop where
  | receive (shared : Shared) (c : Connection) (bytes : Bytes) :
      Step config shared c shared (.alive (c.receive bytes))
  | takeHead (shared : Shared) (c : Connection) {marker length : ℕ}
      {request : HttpRequest} (hstate : c.state = .readingHead)
      (hmarker : find headEnd c.inbox = some marker)
      (haccept : acceptHead config.options c.clientIp c.inbox marker = .ok (request, length)) :
      Step config shared c shared (.alive (c.takeHead marker request length))
  | refuse (shared : Shared) (c : Connection) (status : ℕ) (hstate : c.state = .readingHead) :
      Step config shared c shared (.alive ((c.record ⟨[], [], .refused status⟩).startWriting
          (Connection.badRequest status) false))
  | answer (shared : Shared) (c : Connection) (request : HttpRequest)
      (response : HttpResponse) (keepAlive : Bool)
      (hstate : c.state = .readingBody)
      (hbody : c.expectedBody ≤ c.inbox.length) :
      Step config shared c shared.countRequest
        (.alive ((c.takeBody request (.handled response)).startWriting response keepAlive))
  | drop (shared : Shared) (c : Connection) (request : HttpRequest)
      (response : HttpResponse) (hstate : c.state = .readingBody)
      (hbody : c.expectedBody ≤ c.inbox.length) :
      Step config shared c shared.countRequest
        (.closed (c.takeBody request (.handled response)).transcript)
  | park (shared : Shared) (c : Connection) (request : HttpRequest) (d : ℕ)
      (keepAlive : Bool) (hstate : c.state = .readingBody)
      (hbody : c.expectedBody ≤ c.inbox.length) :
      Step config shared c (shared.countRequest.attach d (.here c.fd c.id))
        (.alive ((c.takeBody request (.deferred d)).park d keepAlive))
  | send (shared : Shared) (c : Connection) (count : ℕ) (hstate : c.state = .writing) :
      Step config shared c shared (.alive (c.advance count))
  | finish (shared : Shared) (c : Connection) (hstate : c.state = .writing)
      (hunsent : c.unsent = []) :
      Step config shared c shared c.finishResponse
  | close (shared : Shared) (c : Connection) : Step config shared c shared (.closed c.transcript)

/-- A sequence of steps, up to the end of the connection at most. -/
inductive Steps (config : ServerConfig) : Shared → Connection → Shared → Outcome → Prop where
  | refl (shared : Shared) (c : Connection) : Steps config shared c shared (.alive c)
  | head {shared shared' shared'' : Shared} {c c' : Connection}
      {outcome : Outcome} (hstep : Step config shared c shared' (.alive c'))
      (hrest : Steps config shared' c' shared'' outcome) :
      Steps config shared c shared'' outcome
  | last {shared shared' : Shared} {c : Connection} {transcript : Transcript}
      (hstep : Step config shared c shared' (.closed transcript)) :
      Steps config shared c shared' (.closed transcript)

variable {cfg : ServerConfig}

theorem Step.steps {shared shared' : Shared} {c : Connection}
    {out : Outcome} (h : Step cfg shared c shared' out) : Steps cfg shared c shared' out := by
  cases out with
  | alive c' => exact .head h (.refl shared' c')
  | closed transcript => exact .last h

theorem Steps.trans {shared shared' shared'' : Shared} {c c' : Connection}
    {out : Outcome} (h : Steps cfg shared c shared' (.alive c'))
    (h' : Steps cfg shared' c' shared'' out) : Steps cfg shared c shared'' out := by
  generalize hrch : Outcome.alive c' = reached at h
  induction h with
  | refl shared c =>
    cases hrch
    exact h'
  | head hstep _ ih => exact .head hstep (ih h' hrch)
  | last hstep => cases hrch

/-! ## The loop refines the steps -/

variable (cfg)

namespace Connection

@[simp] theorem state_advance (c : Connection) (count : ℕ) :
    (c.advance count).state = c.state := rfl

theorem flush_steps (shared : Shared) (c : Connection)
    (hst : c.state = .writing) (sends : List SendResult) :
    Steps cfg shared c shared (c.flush sends).1 := by
  induction sends generalizing c with
  | nil =>
    unfold flush
    split
    next huns => exact (Step.finish shared c hst huns).steps
    · exact .refl shared c
  | cons result rest ih =>
    unfold flush
    split
    next huns => exact (Step.finish shared c hst huns).steps
    · cases result with
      | accepted count => exact .head (.send shared c _ hst) (ih _ hst)
      | interrupted => exact ih c hst
      | wouldBlock => exact .refl shared c
      | failed => exact (Step.close shared c).steps

theorem fail_steps (shared : Shared) (c : Connection)
    (hst : c.state = .readingHead) (status : ℕ) (sends : List SendResult) :
    Steps cfg shared c shared (c.fail status sends).1 := by
  exact .head (.refuse shared c status hst) (flush_steps cfg shared _ rfl sends)

end Connection

variable (shared : Shared) (c : Connection) (sends : List SendResult)

theorem dispatch_steps (hst : c.state = .readingBody) (hbody : c.expectedBody ≤ c.inbox.length)
    (sends : List SendResult) :
    Steps cfg shared c (dispatch cfg shared c sends).1 (dispatch cfg shared c sends).2.1 := by
  dsimp only [dispatch]
  split
  next d _ => exact (Step.park shared c _ d _ hst hbody).steps
  · unfold Connection.beginResponse
    split
    · exact (Step.drop shared c _ _ hst hbody).steps
    · exact .head (.answer shared c _ _ _ hst hbody) (Connection.flush_steps cfg _ _ rfl sends)

theorem consumeBody_steps (hst : c.state = .readingBody) (sends : List SendResult) :
    Steps cfg shared c (consumeBody cfg shared c sends).2.1
      (consumeBody cfg shared c sends).2.2.1 := by
  unfold consumeBody
  split
  · exact .refl shared c
  next hbody => exact dispatch_steps cfg shared c hst (by omega) sends

theorem consumeRequest_steps : Steps cfg shared c (consumeRequest cfg shared c sends).2.1
      (consumeRequest cfg shared c sends).2.2.1 := by
  unfold consumeRequest
  split
  next hst =>
    split
    · split
      · exact c.fail_steps cfg shared hst 431 sends
      · exact .refl shared c
    next marker hmark =>
      split
      next status _ => exact c.fail_steps cfg shared hst status sends
      next request length hacc =>
        exact .head (.takeHead shared c hst hmark hacc) (consumeBody_steps cfg shared _ rfl sends)
  next hst => exact consumeBody_steps cfg shared c hst sends
  · exact .refl shared c

theorem consumeRounds_steps (rounds : ℕ) (shared : Shared) (c : Connection)
    (sends : List SendResult) : Steps cfg shared c (consumeRounds cfg rounds shared c sends).1
      (consumeRounds cfg rounds shared c sends).2.1 := by
  induction rounds generalizing shared c sends with
  | zero => exact .refl shared c
  | succ rounds ih =>
    have hround := consumeRequest_steps cfg shared c sends
    unfold consumeRounds
    split
    next shared' c' sends' hres =>
      rw [hres] at hround
      split
      · exact hround.trans (ih shared' c' sends')
      · exact hround
    next result _ hres =>
      rw [hres] at hround
      exact hround

theorem readLoop_steps (recvs : List RecvResult) :
    Steps cfg shared c (readLoop cfg shared c sends recvs).1
      (readLoop cfg shared c sends recvs).2 := by
  induction recvs generalizing shared c sends with
  | nil => exact .refl shared c
  | cons result rest ih =>
    cases result with
    | data bytes =>
      have hcons := Steps.head (.receive shared c bytes)
        (consumeRounds_steps cfg ((c.receive bytes).inbox.length + 2) shared (c.receive bytes)
        sends)
      unfold readLoop
      split
      next shared' c' sends' hres =>
        rw [← consumeInput, hres] at hcons
        split
        · exact hcons
        · exact hcons.trans (ih shared' c' sends')
      next shared' transcript _ hres =>
        rw [← consumeInput, hres] at hcons
        exact hcons
    | interrupted => exact ih shared c sends
    | shutdown | failed => exact (Step.close shared c).steps

theorem onReadable_steps (recvs : List RecvResult) (sends : List SendResult) :
    Steps cfg shared c (onReadable cfg shared c recvs sends).1
      (onReadable cfg shared c recvs sends).2 := by
  unfold onReadable
  split
  · exact .refl shared c
  · exact readLoop_steps cfg shared c sends recvs

theorem onWritable_steps : Steps cfg shared c (onWritable cfg shared c sends).1
      (onWritable cfg shared c sends).2 := by
  unfold onWritable
  split
  · exact .refl shared c
  next hst =>
    have hfl := c.flush_steps cfg shared (not_not.mp hst) sends
    split
    next transcript _ hres =>
      rw [hres] at hfl
      exact hfl
    next c' sends' hres =>
      rw [hres] at hfl
      split
      · exact hfl.trans (consumeRounds_steps cfg _ shared c' sends')
      · exact hfl

end RtmpCore.Http
