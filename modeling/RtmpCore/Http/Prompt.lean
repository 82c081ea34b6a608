import RtmpCore.Http.Pipelining
import RtmpCore.Http.RequestMachine

/-!
# Connections whose sends do not block

While the socket takes everything that is written and the handler answers at
once, an event finds the connection between two requests and leaves it there.
This module shows that what the loop then does with the bytes of an event is
what the machine of `RequestMachine` does with them.
-/

namespace RtmpCore.Http

open Text Incremental List Connection

/-- No send blocked: one that does leaves the connection writing. -/
def Outcome.Unblocked : Outcome → Prop
  | .alive c => c.state ≠ .writing
  | .closed _ => True

instance (outcome : Outcome) : Decidable outcome.Unblocked := by
  unfold Outcome.Unblocked
  split <;> infer_instance

/-- The handler never postpones an answer. -/
def ServerConfig.AnswersAtOnce (config : ServerConfig) : Prop :=
  ∀ calls request, (handlerResponse config calls request).deferred = none

/-- The transcript records these turns and nothing else, and every response is
out. -/
structure Transcript.Says (t : Transcript) (turns : List Turn) : Prop where
  exchanges : t.exchanges = turns.map Turn.exchange
  answers : t.answers = turns.filterMap Turn.answer
  written : t.written = (turns.filterMap Turn.answer).flatMap Answer.wire

namespace Connection

/-! ## Responses that go out at once -/

/-- All of the response has been sent. -/
def sent (c : Connection) : Connection :=
  { c with
    transcript := { c.transcript with written := c.transcript.written ++ c.unsent } }

theorem finishResponse_sent_advance (c : Connection) (count : ℕ) :
    (c.advance count).sent.finishResponse = c.sent.finishResponse := by
  have hwrit : (c.advance count).sent.transcript = c.sent.transcript := by
    simp only [sent, unsent_advance]
    simp only [advance, append_assoc, take_append_drop]
  unfold finishResponse
  rw [hwrit]
  rfl

theorem sent_of_unsent_nil {c : Connection} (h : c.unsent = []) : c.sent = c := by
  simp only [sent, h, append_nil]

theorem flush_of_unsent_nil {c : Connection} (h : c.unsent = []) (sends : List SendResult) :
    c.flush sends = (c.finishResponse, sends) := by
  cases sends with
  | nil => simp only [flush, h, if_true]
  | cons result rest => exact if_pos h

theorem flush_unblocked {c : Connection} {sends : List SendResult}
    (hst : c.state = .writing) (hfailed : .failed ∉ sends) (h : (c.flush sends).1.Unblocked) :
    (c.flush sends).1 = c.sent.finishResponse ∧ .failed ∉ (c.flush sends).2 := by
  induction sends generalizing c with
  | nil =>
    by_cases huns : c.unsent = []
    · rw [flush_of_unsent_nil huns, sent_of_unsent_nil huns]
      exact ⟨rfl, hfailed⟩
    · unfold flush at h
      rw [if_neg huns] at h
      exact absurd hst h
  | cons result rest ih =>
    obtain ⟨hres, hrest⟩ := not_or.mp (mt mem_cons.mpr hfailed)
    by_cases huns : c.unsent = []
    · rw [flush_of_unsent_nil huns, sent_of_unsent_nil huns]
      exact ⟨rfl, hfailed⟩
    · unfold flush at h ⊢
      rw [if_neg huns] at h ⊢
      cases result with
      | accepted count =>
        rw [← finishResponse_sent_advance c (min count c.unsent.length)]
        exact ih hst hrest h
      | interrupted => exact ih hst hrest h
      | wouldBlock => exact absurd hst h
      | failed => exact absurd rfl hres

/-! ## Between the requests -/

/-- The connection has come to `s`, and `b` is what it has not dealt with. -/
structure At (config : ServerConfig) (clientIp : Bytes) (shared : Shared)
    (c : Connection) (s : Position) (b : Bytes) : Prop where
  clientIp_eq : c.clientIp = clientIp
  calls : shared.requests = s.calls
  served : c.requestsServed = s.served
  unread : c.headBytes ++ c.inbox = b
  reading : c.state = .readingHead ∨
    c.state = .readingBody ∧ find headEnd b = some c.requestHead.length ∧
      acceptHead config.options clientIp b c.requestHead.length = .ok (c.request, c.expectedBody)

/-- The request whose head was taken. -/
def front (c : Connection) : FrontRequest := ⟨c.requestHead.length, c.request, c.expectedBody⟩

variable {cfg : ServerConfig} {ip b : Bytes} {shared : Shared} {c : Connection} {s : Position}

namespace At

section

variable (h : c.At cfg ip shared s b)
include h

theorem inbox_eq (hst : c.state = .readingHead) : c.inbox = b := by
  have hunr := h.unread
  rwa [headBytes, if_neg (by rw [hst]; decide)] at hunr

theorem buffer_eq (hst : c.state = .readingBody) : b = c.requestHead ++ headEnd ++ c.inbox := by
  have hunr := h.unread
  rw [headBytes, if_pos hst] at hunr
  exact hunr.symm

theorem not_writing : c.state ≠ .writing := by
  rcases h.reading with hhead | ⟨hbody, -, -⟩
  · rw [hhead]
    decide
  · rw [hbody]
    decide

theorem receive (bytes : Bytes) : (c.receive bytes).At cfg ip shared s (b ++ bytes) :=
  { h with
    unread := by
      rw [← h.unread, append_assoc]
      rfl
    reading := by
      rcases h.reading with hhead | ⟨hbody, hmkd, hacc⟩
      · exact .inl hhead
      · right
        refine ⟨hbody, find_append hmkd bytes, ?_⟩
        exact (acceptHead_append hmkd bytes).trans hacc }

theorem takeHead (hst : c.state = .readingHead) {marker length : ℕ}
    {req : HttpRequest} (hmark : find headEnd b = some marker)
    (hacc : acceptHead cfg.options ip b marker = .ok (req, length)) :
    (c.takeHead marker req length).At cfg ip shared s b := by
  have hinbox := h.inbox_eq hst
  have hhead : (c.takeHead marker req length).requestHead.length = marker := by
    have hle := add_length_le_of_find hmark
    simp only [Connection.takeHead, hinbox, length_take]
    omega
  refine ⟨h.clientIp_eq, h.calls, h.served, ?_, .inr ⟨rfl, ?_, ?_⟩⟩
  · simp only [Connection.takeHead, hinbox]
    exact (find_eq_some hmark).symm
  · rw [hhead]
    exact hmark
  · rw [hhead]
    exact hacc

theorem attempt_body (hst : c.state = .readingBody) :
    requestAttempt cfg ip s b = if c.inbox.length < c.expectedBody then .needMore s
      else c.front.serve cfg ip s b := by
  obtain ⟨-, hmkd, hacc⟩ := h.reading.resolve_left (by rw [hst]; decide)
  have hsize : b.length < c.front.size ↔ c.inbox.length < c.expectedBody := by
    rw [h.buffer_eq hst, FrontRequest.size, front]
    simp only [length_append]
    omega
  rw [requestAttempt_accepted c.front hmkd hacc]
  simp only [hsize]

theorem drop_head (hst : c.state = .readingBody) :
    b.drop (c.requestHead.length + headEnd.length) = c.inbox := by
  rw [h.buffer_eq hst, ← length_append, drop_left]

theorem full_front (hst : c.state = .readingBody) :
    c.front.full cfg ip b = dispatchedRequest cfg c := by
  simp only [FrontRequest.full, front, dispatchedRequest, h.drop_head hst, h.clientIp_eq]

theorem exchange_front (hst : c.state = .readingBody) :
    c.front.exchange cfg ip s b = ⟨c.requestHead, c.inbox.take c.expectedBody,
        .handled (c.front.response cfg ip s b)⟩ := by
  have hhead : b.take c.requestHead.length = c.requestHead := by
    rw [h.buffer_eq hst, append_assoc, take_left]
  simp only [FrontRequest.exchange, front, h.drop_head hst, hhead]

end

end At

end Connection

/-! ## Rounds of the parser -/

section Rounds

variable {cfg : ServerConfig} {ip b : Bytes}
  {shared shared' : Shared} {c : Connection} {s : Position}
  {turns : List Turn} {sends : List SendResult}

theorem Transcript.Says.answered (h : c.transcript.Says turns) (e : Exchange)
    (resp : HttpResponse) (keep : Bool) : ((c.record e).startWriting resp keep).sent.transcript.Says
      (turns ++ [⟨e, some ⟨resp, keep⟩⟩]) where
  exchanges := by simp [Connection.sent, Connection.startWriting, Connection.record, h.exchanges]
  answers := by simp [Connection.sent, Connection.startWriting, Connection.record, h.answers]
  written := by
    simp only [Connection.sent, unsent_startWriting]
    simp [Connection.startWriting, Connection.record, h.written]

theorem Transcript.Says.dropped (h : c.transcript.Says turns) (e : Exchange) :
    (c.record e).transcript.Says (turns ++ [⟨e, none⟩]) where
  exchanges := by simp [Connection.record, h.exchanges]
  answers := by simp [Connection.record, h.answers]
  written := by simp [Connection.record, h.written]

/-- What a round of the parser leaves of a connection is what the attempt of
the machine says. -/
inductive Mirrors (config : ServerConfig) (clientIp : Bytes) (turns : List Turn) (b : Bytes) :
    Attempt Position UInt8 Turn → Bool → Shared → Outcome → Prop where
  | waits {shared : Shared} {c : Connection} {s : Position} (hat : c.At config clientIp shared s b)
      (hsaid : c.transcript.Says turns) :
      Mirrors config clientIp turns b (.needMore s) false shared (.alive c)
  | goesOn {shared : Shared} {c : Connection} {s : Position} {r : Bytes}
      {o : List Turn} (hstate : c.state = .readingHead)
      (hat : c.At config clientIp shared s r)
      (hsaid : c.transcript.Says (turns ++ o)) :
      Mirrors config clientIp turns b (.consumed s r o) true shared (.alive c)
  | ends {shared : Shared} {t : Transcript} {s : Position} {o : List Turn}
      {served : Bool} (hsaid : t.Says (turns ++ o)) :
      Mirrors config clientIp turns b (.stopped s o) served shared (.closed t)

/-- Unless a send blocks, a round does what the attempt says, and no send fails. -/
def Mirrored (config : ServerConfig) (clientIp : Bytes) (turns : List Turn) (b : Bytes)
    (attempt : Attempt Position UInt8 Turn) (round : Bool × Shared × Outcome × List SendResult) :
    Prop :=
  round.2.2.1.Unblocked →
    Mirrors config clientIp turns b attempt round.1 round.2.1 round.2.2.1 ∧ .failed ∉ round.2.2.2

theorem fail_mirrors (hsaid : c.transcript.Says turns) (hfailed : .failed ∉ sends) (status : ℕ) :
    Mirrored cfg ip turns b (.stopped s [refusal status]) (false, shared, c.fail status sends) := by
  have hslice : ¬ ((Connection.badRequest status).sharedBody ≠ [] ∧
      ¬ (Connection.badRequest status).SliceInBounds) := by
    simp [Connection.badRequest]
  rw [Connection.fail, Connection.beginResponse, if_neg hslice]
  intro h
  obtain ⟨hsent, hrest⟩ := flush_unblocked rfl hfailed h
  refine ⟨?_, hrest⟩
  rw [hsent]
  exact .ends (hsaid.answered _ _ _)

theorem dispatch_atOnce (honce : cfg.AnswersAtOnce) : dispatch cfg shared c sends =
      (shared.countRequest, (c.takeBody (dispatchedRequest cfg c)
          (.handled (handlerResponse cfg shared.requests
            (dispatchedRequest cfg c)))).beginResponse (handlerResponse cfg shared.requests
                (dispatchedRequest cfg c))
              (staysOpen cfg.options (dispatchedRequest cfg c) c.requestsServed) sends) := by
  dsimp only [dispatch]
  split
  next d hdef =>
    rw [honce] at hdef
    cases hdef
  · rfl

section

variable (honce : cfg.AnswersAtOnce) (hat : c.At cfg ip shared s b)
  (hsaid : c.transcript.Says turns) (hfailed : .failed ∉ sends)
include honce hat hsaid hfailed

theorem dispatch_mirrors (hst : c.state = .readingBody) :
    Mirrored cfg ip turns b (c.front.serve cfg ip s b) (true, dispatch cfg shared c sends) := by
  have hresp : c.front.response cfg ip s b =
      handlerResponse cfg shared.requests (dispatchedRequest cfg c) := by
    rw [FrontRequest.response, hat.full_front hst, hat.calls]
  have hkeep : c.front.keepAlive cfg ip s b =
      staysOpen cfg.options (dispatchedRequest cfg c) c.requestsServed := by
    rw [FrontRequest.keepAlive, hat.full_front hst, hat.served]
  have hrest : c.inbox.drop c.expectedBody = b.drop c.front.size := by
    rw [FrontRequest.size, Connection.front, ← drop_drop, hat.drop_head hst]
  rw [dispatch_atOnce honce, ← hresp, ← hkeep]
  simp only [FrontRequest.serve, hat.exchange_front hst]
  unfold Connection.beginResponse
  split
  · exact fun _ => ⟨.ends (hsaid.dropped _), hfailed⟩
  · intro h
    obtain ⟨hsent, hleft⟩ := flush_unblocked rfl hfailed h
    refine ⟨?_, hleft⟩
    rw [hsent]
    cases hopen : c.front.keepAlive cfg ip s b with
    | true =>
      refine .goesOn rfl ⟨hat.clientIp_eq, ?_, ?_, hrest, .inl rfl⟩ (hsaid.answered _ _ _)
      · simp [Shared.countRequest, Position.next, hat.calls]
      · exact congrArg (· + 1) hat.served
    | false => exact .ends (hsaid.answered _ _ _)

theorem consumeBody_mirrors (hst : c.state = .readingBody) :
    Mirrored cfg ip turns b (requestAttempt cfg ip s b) (consumeBody cfg shared c sends) := by
  rw [hat.attempt_body hst]
  unfold consumeBody
  split
  · exact fun _ => ⟨.waits hat hsaid, hfailed⟩
  · exact dispatch_mirrors honce hat hsaid hfailed hst

theorem consumeRequest_mirrors (hby : b ≠ []) :
    Mirrored cfg ip turns b (requestAttempt cfg ip s b) (consumeRequest cfg shared c sends) := by
  unfold consumeRequest
  rcases hat.reading with hhead | ⟨hbody, -, -⟩
  · rw [hhead]
    rw [hat.inbox_eq hhead, hat.clientIp_eq]
    cases hmark : find headEnd b with
    | none =>
      rw [requestAttempt_unmarked hmark]
      by_cases hlim : cfg.options.maxHeaderBytes ≤ b.length
      · rw [if_pos hlim, if_pos ⟨hby, hlim⟩]
        exact fail_mirrors hsaid hfailed _
      · rw [if_neg hlim, if_neg fun hboth => hlim hboth.2]
        exact fun _ => ⟨.waits hat hsaid, hfailed⟩
    | some marker =>
      dsimp only
      cases hacc : acceptHead cfg.options ip b marker with
      | error status =>
        rw [requestAttempt_refused hmark hacc]
        exact fail_mirrors hsaid hfailed _
      | ok accepted =>
        exact consumeBody_mirrors honce (hat.takeHead hhead hmark hacc) hsaid hfailed rfl
  · rw [hbody]
    exact consumeBody_mirrors honce hat hsaid hfailed hbody

end

/-- What is left of a connection is what the machine has come to. -/
def Outcome.Reaches (config : ServerConfig) (clientIp : Bytes)
    (shared : Shared) (turns : List Turn) (m : Config Position UInt8) : Outcome → Prop
  | .alive c => m.stopped = false ∧
      c.At config clientIp shared m.state m.buffer ∧ c.transcript.Says turns
  | .closed t => m.stopped = true ∧ t.Says turns

/-- Unless a send blocks, the parser comes to where the machine comes, and no send
fails. -/
def Reached (config : ServerConfig) (clientIp : Bytes) (turns : List Turn)
    (m : Config Position UInt8 × List Turn) (rounds : Shared × Outcome × List SendResult) : Prop :=
  rounds.2.1.Unblocked →
    rounds.2.1.Reaches config clientIp rounds.1 (turns ++ m.2) m.1 ∧ .failed ∉ rounds.2.2

/-- With rounds enough, the parser does what the machine does until it needs
more bytes. -/
theorem consumeRounds_reaches (honce : cfg.AnswersAtOnce) {rounds : ℕ}
    (hrnds : c.inbox.length + (if c.state = .readingHead then 0 else 1) < rounds)
    (hat : c.At cfg ip shared s b) (hsaid : c.transcript.Says turns)
    (hby : b ≠ []) (hfailed : .failed ∉ sends) :
    Reached cfg ip turns (drain (requestMachine cfg ip) s b)
      (consumeRounds cfg rounds shared c sends) := by
  induction rounds generalizing shared c s b turns sends with
  | zero => omega
  | succ rounds ih =>
    have hmirrors := consumeRequest_mirrors honce hat hsaid hfailed hby
    have hshorter := @consumeRequest_alive cfg shared
    intro h
    unfold consumeRounds at h ⊢
    generalize hround : consumeRequest cfg shared c sends = round
      at h hmirrors
    obtain ⟨served, shared₁, out, sends₁⟩ := round
    have hunbl : out.Unblocked := by
      cases out with
      | closed t => trivial
      | alive c₁ =>
        cases served with
        | false => exact h
        | true =>
          intro hwrit
          have hnot : ¬ (c₁.state = .readingHead ∧ c₁.inbox ≠ []) := by simp [hwrit]
          simp only [hnot] at h
          exact h hwrit
    obtain ⟨hmirror, hleft⟩ := hmirrors hunbl
    generalize hatt : requestAttempt cfg ip s b = attempt
      at hmirror
    cases hmirror with
    | waits hat' hsaid' =>
      rw [drain_of_needMore (M := requestMachine cfg ip) hatt, append_nil]
      exact ⟨⟨rfl, hat', hsaid'⟩, hleft⟩
    | ends hsaid' =>
      rw [drain_of_stopped (M := requestMachine cfg ip) hatt]
      cases served with
      | false | true => exact ⟨⟨rfl, hsaid'⟩, hleft⟩
    | goesOn hst hat' hsaid' =>
      rename_i c₁ s₁ r o
      have hinbox := hat'.inbox_eq hst
      rw [drain_of_consumed (M := requestMachine cfg ip) hatt, ← append_assoc]
      by_cases hagain : c₁.inbox ≠ []
      · have hlen : c₁.inbox.length + (if c₁.state = .readingHead then 0 else 1) < rounds := by
          rcases hshorter hround with ⟨-, -, hless⟩ | ⟨hfalse, -⟩
          · split at hless <;> split at hrnds <;> simp_all <;> omega
          · cases hfalse
        simp only [hst, hagain, ne_eq] at h ⊢
        exact ih hlen hat' hsaid' (hinbox ▸ hagain) hleft h
      · -- nothing is left, and the machine asks for more as well
        obtain rfl : r = [] := hinbox ▸ not_not.mp hagain
        rw [drain_of_needMore (attempt_nil cfg ip s₁)]
        simp only [hst, hagain, append_nil]
        exact ⟨⟨rfl, hat', hsaid'⟩, hleft⟩

def RecvResult.bytes : RecvResult → Bytes
  | .data bytes => bytes
  | _ => []

def recvRoom : ℕ := 16 * 1024

/-- The call brought bytes, as many as there was room for at most, or it was
interrupted. -/
def RecvResult.Regular : RecvResult → Prop
  | .data bytes => bytes ≠ [] ∧ bytes.length ≤ recvRoom
  | .interrupted => True
  | _ => False

instance (result : RecvResult) : Decidable result.Regular := by
  unfold RecvResult.Regular
  split <;> infer_instance

theorem readLoop_reaches (honce : cfg.AnswersAtOnce)
    {recvs : List RecvResult} (hrecvs : ∀ result ∈ recvs, result.Regular)
    (hat : c.At cfg ip shared s b) (hsaid : c.transcript.Says turns) (hfailed : .failed ∉ sends)
    (h : (readLoop cfg shared c sends recvs).2.Unblocked) :
    (readLoop cfg shared c sends recvs).2.Reaches cfg ip (readLoop cfg shared c sends recvs).1
      (turns ++ (feedAll (requestMachine cfg ip) ⟨s, b, false⟩ (recvs.map RecvResult.bytes)).2)
      (feedAll (requestMachine cfg ip) ⟨s, b, false⟩ (recvs.map RecvResult.bytes)).1 := by
  induction recvs generalizing shared c s b turns sends with
  | nil =>
    simp only [map_nil, feedAll, append_nil]
    exact ⟨rfl, hat, hsaid⟩
  | cons result rest ih =>
    have hregu := hrecvs result (by simp)
    have hrest : ∀ result ∈ rest, result.Regular := fun result hres =>
      hrecvs result (mem_cons_of_mem _ hres)
    cases result with
    | shutdown | failed => cases hregu
    | interrupted => exact ih hrest hat hsaid hfailed h
    | data bytes =>
      have hby : b ++ bytes ≠ [] := by simp [hregu.1]
      have hsaid : (c.receive bytes).transcript.Says turns :=
        ⟨hsaid.exchanges, hsaid.answers, hsaid.written⟩
      have hrnds : (c.receive bytes).inbox.length +
          (if (c.receive bytes).state = .readingHead then 0 else 1) <
            (c.receive bytes).inbox.length + 2 := by
        split <;> omega
      have hrch := consumeRounds_reaches honce hrnds (hat.receive bytes) hsaid hby hfailed
      rw [map_cons, RecvResult.bytes, feedAll, feed_of_running rfl hregu.1]
      unfold readLoop at h ⊢
      rw [← consumeInput] at hrch
      generalize consumeInput cfg shared (c.receive bytes) sends = consumed at h hrch
      obtain ⟨shared₁, out, sends₁⟩ := consumed
      cases out with
      | closed t =>
        obtain ⟨⟨hstop, hsaid'⟩, -⟩ := hrch trivial
        rw [feedAll_of_stopped hstop, append_nil]
        exact ⟨hstop, hsaid'⟩
      | alive c₁ =>
        dsimp only at h hrch
        have hread : c₁.state ≠ .writing := by
          intro hwrit
          rw [if_pos hwrit] at h
          exact h hwrit
        obtain ⟨⟨hrun, hat', hsaid'⟩, hleft⟩ := hrch hread
        rw [if_neg hread] at h
        dsimp only
        rw [if_neg hread, ← append_assoc]
        have hcfg : (drain (requestMachine cfg ip) s (b ++ bytes)).1 =
              ⟨(drain (requestMachine cfg ip) s (b ++ bytes)).1.state,
                (drain (requestMachine cfg ip) s (b ++ bytes)).1.buffer, false⟩ :=
          Config.ext rfl rfl hrun
        rw [hcfg]
        exact ih hrest hat' hsaid' hleft h

end Rounds

/-! ## Sockets that take everything -/

/-- There are sends that take all that is written: they leave a connection that
is not blocked, and the sends behind them. -/
def Servable {α : Type} (round : List SendResult → α) (result : Outcome → List SendResult → α) :
    Prop :=
  ∃ sends out, .failed ∉ sends ∧ out.Unblocked ∧ ∀ rest, round (sends ++ rest) = result out rest

theorem Servable.map {α β : Type} {round : List SendResult → α}
    {result : Outcome → List SendResult → α} (h : Servable round result) (f : α → β) :
    Servable (fun sends => f (round sends)) fun out rest => f (result out rest) := by
  obtain ⟨sends, out, hfailed, hunbl, hround⟩ := h
  exact ⟨sends, out, hfailed, hunbl, fun rest => congrArg f (hround rest)⟩

theorem Servable.silent {α : Type} {round : List SendResult → α}
    {result : Outcome → List SendResult → α} (out : Outcome) (h : out.Unblocked)
    (hround : ∀ rest, round rest = result out rest) : Servable round result :=
  ⟨[], out, by simp, h, hround⟩

theorem Connection.flush_servable (c : Connection) : Servable c.flush Prod.mk := by
  have hdone : c.sent.finishResponse.Unblocked := by
    unfold finishResponse
    split
    · exact nofun
    · trivial
  by_cases huns : c.unsent = []
  · refine ⟨[], _, by simp, hdone, fun rest => ?_⟩
    rw [sent_of_unsent_nil huns]
    exact flush_of_unsent_nil huns rest
  · refine ⟨[.accepted c.unsent.length], _, by simp, hdone, fun rest => ?_⟩
    have hall : (c.advance c.unsent.length).unsent = [] := by rw [unsent_advance, drop_length]
    rw [cons_append, nil_append, flush, if_neg huns, min_self,
      flush_of_unsent_nil hall, ← finishResponse_sent_advance c c.unsent.length,
      sent_of_unsent_nil hall]

theorem Connection.beginResponse_servable (c : Connection) (resp : HttpResponse) (keep : Bool) :
    Servable (c.beginResponse resp keep) Prod.mk := by
  unfold beginResponse
  split
  · exact .silent (.closed c.transcript) trivial fun _ => rfl
  · exact flush_servable _

section Servable

variable (cfg : ServerConfig)

variable (shared : Shared) (c : Connection)

theorem dispatch_servable : ∃ shared',
    Servable (dispatch cfg shared c) fun out rest => (shared', out, rest) := by
  unfold dispatch
  dsimp only
  split
  · exact ⟨_, .silent (.alive _) (by exact nofun) fun _ => rfl⟩
  · exact ⟨_, (beginResponse_servable _ _ _).map (_, ·)⟩

theorem consumeBody_servable (hst : c.state ≠ .writing) : ∃ served shared',
    Servable (consumeBody cfg shared c) fun out rest => (served, shared', out, rest) := by
  unfold consumeBody
  split
  · exact ⟨_, _, .silent (.alive c) hst fun _ => rfl⟩
  · obtain ⟨shared', hdisp⟩ := dispatch_servable cfg shared c
    exact ⟨_, _, hdisp.map (true, ·)⟩

theorem consumeRequest_servable (hst : c.state ≠ .writing) : ∃ served shared',
    Servable (consumeRequest cfg shared c) fun out rest => (served, shared', out, rest) := by
  unfold consumeRequest
  split
  · split
    · split
      · exact ⟨_, _, (beginResponse_servable _ _ _).map (false, shared, ·)⟩
      · exact ⟨_, _, .silent (.alive c) hst fun _ => rfl⟩
    · split
      · exact ⟨_, _, (beginResponse_servable _ _ _).map (false, shared, ·)⟩
      · exact consumeBody_servable cfg shared _ nofun
  · exact consumeBody_servable cfg shared c hst
  · exact ⟨_, _, .silent (.alive c) hst fun _ => rfl⟩

theorem consumeRounds_servable (rounds : ℕ) (shared : Shared) (c : Connection)
    (hst : c.state ≠ .writing) : ∃ shared',
      Servable (consumeRounds cfg rounds shared c) fun out rest => (shared', out, rest) := by
  induction rounds generalizing shared c with
  | zero => exact ⟨_, .silent (.alive c) hst fun _ => rfl⟩
  | succ rounds ih =>
    obtain ⟨served, shared₁, sends, out, hfailed, hunbl, hround⟩ :=
      consumeRequest_servable cfg shared c hst
    by_cases hagain : ∃ c₁, served = true ∧ out = .alive c₁ ∧
        c₁.state = .readingHead ∧ c₁.inbox ≠ []
    · obtain ⟨c₁, rfl, rfl, hnext⟩ := hagain
      obtain ⟨shared', more, out, hmore, hunbl', hrnds⟩ := ih shared₁ c₁ (by rw [hnext.1]; decide)
      refine ⟨shared', sends ++ more, out, by simp [hfailed, hmore], hunbl', fun rest => ?_⟩
      rw [append_assoc, consumeRounds, hround]
      dsimp only
      rw [if_pos hnext, hrnds]
    · refine ⟨shared₁, sends, out, hfailed, hunbl, fun rest => ?_⟩
      rw [consumeRounds, hround]
      cases out with
      | closed t => cases served <;> rfl
      | alive c₁ =>
        cases served with
        | false => rfl
        | true =>
          dsimp only
          rw [if_neg fun hnext => hagain ⟨c₁, rfl, rfl, hnext⟩]

theorem readLoop_servable (recvs : List RecvResult) (shared : Shared)
    (c : Connection) (hst : c.state ≠ .writing) :
    ∃ sends, .failed ∉ sends ∧ (readLoop cfg shared c sends recvs).2.Unblocked := by
  induction recvs generalizing shared c with
  | nil => exact ⟨[], by simp, hst⟩
  | cons result rest ih =>
    cases result with
    | interrupted => exact ih shared c hst
    | shutdown | failed => exact ⟨[], by simp, trivial⟩
    | data bytes =>
      obtain ⟨shared₁, sends, out, hfailed, hunbl, hconsume⟩ :=
        consumeRounds_servable cfg ((c.receive bytes).inbox.length + 2) shared (c.receive bytes) hst
      cases out with
      | closed t =>
        refine ⟨sends ++ [], by simpa using hfailed, ?_⟩
        rw [readLoop, consumeInput, hconsume]
        trivial
      | alive c₁ =>
        obtain ⟨more, hmore, hrest⟩ := ih shared₁ c₁ hunbl
        refine ⟨sends ++ more, by simp [hfailed, hmore], ?_⟩
        rw [readLoop, consumeInput, hconsume]
        dsimp only
        rw [if_neg hunbl]
        exact hrest

end Servable

end RtmpCore.Http
