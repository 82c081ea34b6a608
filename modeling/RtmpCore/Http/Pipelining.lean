import RtmpCore.Http.LoopSteps

/-!
# Pipelined requests

A client may send its next request before the answer to the last one.  The
bytes wait in the inbox, and whoever finishes a response has to look there for
the next request: the client may be waiting for that answer and send nothing
more.  The parser and the writable event do so; the drain of the mailbox and
the sweep of the timeouts do not.
-/

namespace RtmpCore.Http

open RtmpCore.Core Text List Function Connection

/-- A whole request stands at the front of the inbox: its head and all of its
body, or a head that is refused. -/
def requestReady (options : AsyncHttpServerOptions) (clientIp inbox : Bytes) : Bool :=
  match find headEnd inbox with
  | none => false
  | some marker =>
    match acceptHead options clientIp inbox marker with
    | .error _ => true
    | .ok (_, length) => decide (marker + headEnd.length + length ≤ inbox.length)

theorem requestReady_nil (options : AsyncHttpServerOptions)
    (ip : Bytes) : requestReady options ip [] = false := rfl

namespace Connection

/-- A whole request waits in the inbox of the connection. -/
def HoldsRequest (options : AsyncHttpServerOptions) (c : Connection) : Prop :=
  requestReady options c.clientIp c.inbox = true
deriving Decidable

/-- No request is left unserved while the connection waits for one. -/
def Attended (options : AsyncHttpServerOptions) (c : Connection) : Prop :=
  c.state = .readingHead → ¬ c.HoldsRequest options

/-- What the parser leaves of the input of `c`.  A head or a body that it waits for is
incomplete and within its limit. -/
structure Settled (options : AsyncHttpServerOptions) (c c' : Connection) : Prop where
  shorter : c'.inbox.length ≤ c.inbox.length
  head : c'.state = .readingHead →
    find headEnd c'.inbox = none ∧ c'.inbox.length ≤ options.maxHeaderBytes
  body : c'.state = .readingBody → c'.inbox.length ≤ c'.expectedBody ∧
    ((c.state = .readingBody → c.expectedBody ≤ options.maxBodyBytes) →
      c'.expectedBody ≤ options.maxBodyBytes)

variable {options : AsyncHttpServerOptions} {c c' : Connection} {sends : List SendResult}

theorem Settled.attended (h : Settled options c c') : c'.Attended options := by
  intro hread
  simp [HoldsRequest, requestReady, (h.head hread).1]

theorem settled_of_done (hshorter : c'.inbox.length ≤ c.inbox.length)
    (h : ¬(c'.state = .readingHead ∧ c'.inbox ≠ [])) (hbody : c'.state ≠ .readingBody) :
    Settled options c c' where
  shorter := hshorter
  head := by
    intro hread
    rw [not_not.mp (not_and.mp h hread)]
    exact ⟨rfl, Nat.zero_le _⟩
  body := fun hread => absurd hread hbody

theorem Settled.of_le {c₁ : Connection} (h : Settled options c₁ c')
    (hle : c₁.inbox.length ≤ c.inbox.length) (hbody : c₁.state ≠ .readingBody) :
    Settled options c c' where
  shorter := h.shorter.trans hle
  head := h.head
  body := fun hst => ⟨(h.body hst).1, fun _ => (h.body hst).2 fun hread => absurd hread hbody⟩

/-- Writing leaves the inbox alone.  It ends with the connection open only if
the connection is to be kept. -/
theorem flush_alive (hst : c.state = .writing) (h : (c.flush sends).1 = .alive c') :
    c'.inbox = c.inbox ∧ c'.clientIp = c.clientIp ∧
      (c'.state = .writing ∨ c'.state = .readingHead ∧ c.keepAlive = true) := by
  have hfinish : ∀ {d : Connection}, d.finishResponse = .alive c' →
      c'.inbox = d.inbox ∧ c'.clientIp = d.clientIp ∧
        (c'.state = .writing ∨ c'.state = .readingHead ∧ d.keepAlive = true) := by
    intro d hd
    unfold finishResponse at hd
    split at hd
    next hkeep =>
      cases hd
      exact ⟨rfl, rfl, .inr ⟨rfl, hkeep⟩⟩
    · cases hd
  induction sends generalizing c with
  | nil =>
    unfold flush at h
    split at h
    · exact hfinish h
    · cases h
      exact ⟨rfl, rfl, .inl hst⟩
  | cons result rest ih =>
    unfold flush at h
    split at h
    · exact hfinish h
    · cases result with
      | accepted count => exact ih (c := c.advance (min count c.unsent.length)) hst h
      | interrupted => exact ih hst h
      | wouldBlock =>
        cases h
        exact ⟨rfl, rfl, .inl hst⟩
      | failed => cases h

theorem beginResponse_alive {resp : HttpResponse} {keep : Bool}
    (h : (c.beginResponse resp keep sends).1 = .alive c') :
    c'.inbox = c.inbox ∧ c'.clientIp = c.clientIp ∧
      (c'.state = .writing ∨ c'.state = .readingHead ∧ keep = true) := by
  unfold beginResponse at h
  split at h
  · cases h
  · exact flush_alive (c := c.startWriting resp keep) rfl h

theorem settled_of_fail {status : ℕ}
    (h : (c.fail status sends).1 = .alive c') : Settled options c c' := by
  obtain ⟨hinbox, _, hwrit | ⟨_, hkeep⟩⟩ := beginResponse_alive h
  · exact settled_of_done (congrArg _ hinbox).le (by simp [hwrit]) (by simp [hwrit])
  · cases hkeep

end Connection

section Parser

variable {cfg : ServerConfig} {shared shared' : Shared} {c c' : Connection}
  {sends sends' : List SendResult} {served : Bool}

theorem dispatch_alive (h : dispatch cfg shared c sends = (shared', .alive c', sends')) :
    c'.inbox = c.inbox.drop c.expectedBody ∧ c'.state ≠ .readingBody := by
  dsimp only [dispatch] at h
  split at h
  · cases h
    exact ⟨rfl, nofun⟩
  · obtain ⟨hinbox, _, hstate⟩ := beginResponse_alive (congrArg (·.2.1) h)
    exact ⟨hinbox, by rcases hstate with h | ⟨h, _⟩ <;> simp [h]⟩

theorem consumeBody_alive (h : consumeBody cfg shared c sends =
      (served, shared', .alive c', sends')) :
    (served = true ∧ c'.state ≠ .readingBody ∧ c'.inbox.length ≤ c.inbox.length) ∨
      served = false ∧ c.inbox.length < c.expectedBody ∧ c' = c := by
  unfold consumeBody at h
  split at h
  next hshort =>
    cases h
    exact .inr ⟨rfl, hshort, rfl⟩
  · obtain ⟨rfl, hdisp⟩ := Prod.mk.inj h
    obtain ⟨hinbox, hstate⟩ := dispatch_alive hdisp
    left
    refine ⟨rfl, hstate, ?_⟩
    rw [hinbox, length_drop]
    omega

theorem length_le_of_acceptHead {options : AsyncHttpServerOptions} {ip inbox : Bytes}
    {marker length : ℕ} {request : HttpRequest}
    (h : acceptHead options ip inbox marker = .ok (request, length)) :
    length ≤ options.maxBodyBytes := by
  unfold acceptHead at h
  repeat' split at h
  all_goals cases h
  omega

/-- A round of the parser leaves no whole request behind, or it has served
one.  A head that was taken makes the inbox shorter. -/
theorem consumeRequest_alive (h : consumeRequest cfg shared c sends =
      (served, shared', .alive c', sends')) :
    (served = true ∧ c'.state ≠ .readingBody ∧
        c'.inbox.length + (if c.state = .readingHead then 1 else 0) ≤ c.inbox.length) ∨
      served = false ∧ Settled cfg.options c c' := by
  have hfailed : ∀ {status : ℕ}, ((false, shared, c.fail status sends) :
        Bool × Shared × Outcome × List SendResult) = (served, shared', .alive c', sends') →
        served = false ∧ Settled cfg.options c c' := by
    intro status hfail
    obtain ⟨rfl, hrest⟩ := Prod.mk.inj hfail
    exact ⟨rfl, settled_of_fail (congrArg (·.2.1) hrest)⟩
  unfold consumeRequest at h
  split at h
  next hst =>
    rw [if_pos hst]
    split at h
    next hnone =>
      right
      split at h
      · exact hfailed h
      next hlen =>
        cases h
        exact ⟨rfl, le_rfl, fun _ => ⟨hnone, by omega⟩, by simp [hst]⟩
    next marker hmark =>
      split at h
      · exact .inr (hfailed h)
      next request length hacc =>
        have hplace := add_length_le_of_find hmark
        have hend : 0 < headEnd.length := by decide
        rcases consumeBody_alive h with ⟨hserved, hstate, hlen⟩ | ⟨hwaits, hshort, rfl⟩
        · left
          refine ⟨hserved, hstate, ?_⟩
          simp only [Connection.takeHead, length_drop] at hlen
          omega
        · exact .inr ⟨hwaits, by simp [Connection.takeHead], nofun,
            fun _ => ⟨hshort.le, fun _ => length_le_of_acceptHead hacc⟩⟩
  next hst =>
    rw [if_neg (by simp [hst])]
    rcases consumeBody_alive h with ⟨hserved, hstate, hlen⟩ | ⟨hwaits, hshort, rfl⟩
    · exact .inl ⟨hserved, hstate, hlen⟩
    · exact .inr ⟨hwaits, le_rfl, by simp [hst], fun _ => ⟨hshort.le, fun hbody => hbody hst⟩⟩
  next hhead hbody =>
    cases h
    exact .inr ⟨rfl, settled_of_done le_rfl (fun hread => hhead hread.1) hbody⟩

theorem consumeRounds_settled {rounds : ℕ}
    (hrnds : c.inbox.length + (if c.state = .readingHead then 0 else 1) < rounds)
    (h : consumeRounds cfg rounds shared c sends = (shared', .alive c', sends')) :
    Settled cfg.options c c' := by
  induction rounds generalizing shared c sends with
  | zero => omega
  | succ rounds ih =>
    unfold consumeRounds at h
    split at h
    next shared₁ c₁ sends₁ hround =>
      rcases consumeRequest_alive hround with ⟨_, hbody, hlen⟩ | ⟨hfalse, _⟩
      · split at h
        next hagain =>
          refine (ih ?_ h).of_le (by omega) hbody
          split at hrnds <;> simp_all <;> omega
        next hdone =>
          cases h
          exact settled_of_done (by omega) hdone hbody
      · cases hfalse
    next served result hset hround =>
      subst h
      rcases consumeRequest_alive hround with ⟨rfl, _⟩ | ⟨_, hatt⟩
      · exact (hset shared' c' sends' rfl rfl).elim
      · exact hatt

theorem consumeInput_settled (h : consumeInput cfg shared c sends = (shared', .alive c', sends')) :
    Settled cfg.options c c' := by
  refine consumeRounds_settled ?_ h
  split <;> omega

theorem readLoop_attended {recvs : List RecvResult} (hc : c.Attended cfg.options)
    (h : readLoop cfg shared c sends recvs = (shared', .alive c')) : c'.Attended cfg.options := by
  induction recvs generalizing shared c sends with
  | nil =>
    cases h
    exact hc
  | cons result rest ih =>
    cases result with
    | data bytes =>
      unfold readLoop at h
      split at h
      next hcons =>
        have hatt := (consumeInput_settled hcons).attended
        split at h
        · cases h
          exact hatt
        · exact ih hatt h
      · cases h
    | interrupted => exact ih hc h
    | shutdown | failed => cases h

theorem onReadable_attended {recvs : List RecvResult} (hc : c.Attended cfg.options)
    (h : onReadable cfg shared c recvs sends = (shared', .alive c')) : c'.Attended cfg.options := by
  unfold onReadable at h
  split at h
  · cases h
    exact hc
  · exact readLoop_attended hc h

theorem onWritable_settled (h : onWritable cfg shared c sends = (shared', .alive c')) :
    c' = c ∨ Settled cfg.options c c' := by
  unfold onWritable at h
  split at h
  · cases h
    exact .inl rfl
  next hwrites =>
    split at h
    · cases h
    next c₁ sends₁ hflush =>
      obtain ⟨hinbox, _, hstate⟩ := flush_alive (not_not.mp hwrites) (congrArg (·.1) hflush)
      have hle := (congrArg length hinbox).le
      have hbody : c₁.state ≠ .readingBody := by
        rcases hstate with h | ⟨h, _⟩ <;> simp [h]
      right
      split at h
      · generalize hcons : consumeInput cfg shared c₁ sends₁ = result at h
        obtain ⟨shared₂, out, sends₂⟩ := result
        cases h
        exact (consumeInput_settled hcons).of_le hle hbody
      next hdone =>
        cases h
        exact settled_of_done hle hdone hbody

end Parser

/-! ## The loop -/

/-- Nothing waits behind the request that a connection has parked, if the
connection is to be kept after it. -/
def Connection.NothingBehind (options : AsyncHttpServerOptions) (c : Connection) : Prop :=
  c.state = .deferred → c.deferredKeepAlive = true → ¬ c.HoldsRequest options
deriving Decidable

/-- The condition on a step: when the drain of the mailbox or a sweep answers
a postponed request, no whole request waits behind it. -/
def AnswersLast (config : ServerConfig) (l : EventLoop) : Action → Prop
  | .drained _ =>
    ∀ entry ∈ l.shared.mailbox, ∀ c ∈ l.connections.lookup entry.fd,
      c.id = entry.id → c.NothingBehind config.options
  | .swept expired _ =>
    ∀ fd ∈ expired, ∀ c ∈ l.connections.lookup fd, ∀ d ∈ c.deferred,
      (l.shared.deferrals d).delivered = false → c.NothingBehind config.options
  | _ => True

instance (config : ServerConfig) (l : EventLoop) (action : Action) :
    Decidable (AnswersLast config l action) := by
  unfold AnswersLast
  split <;> infer_instance

namespace EventLoop

variable {cfg : ServerConfig}

/-- Every connection is such. -/
def All (P : Connection → Prop) (l : EventLoop) : Prop := ∀ fd c, l.view.table fd = some c → P c

/-- No connection that waits for a request has one. -/
abbrev AllAttended (config : ServerConfig) (l : EventLoop) : Prop :=
  l.All (Connection.Attended config.options)

variable {l : EventLoop} {fd : ℕ} {P : Connection → Prop}

theorem All.settle (h : l.All P) {shared : Shared} {out : Outcome}
    (hout : ∀ c, out = .alive c → P c) : (l.settle fd shared out).All P := by
  intro fd' c hc
  rw [settle_view] at hc
  rcases LoopView.settle_table_eq_some hc with ⟨_, hal⟩ | ⟨_, hold⟩
  · exact hout c hal
  · exact h fd' c hold

theorem All.withConnection (h : l.All P) (fd : ℕ) {step : Connection → Shared × Outcome}
    (hstep : ∀ c shared' c', P c → l.view.table fd = some c → step c = (shared', .alive c') → P c') :
    (l.withConnection fd step).All P := by
  unfold EventLoop.withConnection
  split
  · exact h
  next c hc =>
    refine All.settle h ?_
    intro c' hc'
    exact hstep c (step c).1 c' (h fd c hc) hc (Prod.ext rfl hc')

/-- An answer that was postponed leaves a connection that is served, provided
nothing waits behind the request. -/
theorem attended_of_beginResponse {c c' : Connection} {resp : HttpResponse}
    {sends : List SendResult} (hst : c.state = .deferred) (hbehind : c.NothingBehind cfg.options)
    (h : (c.release.beginResponse resp c.deferredKeepAlive sends).1 =
      .alive c') : c'.Attended cfg.options := by
  obtain ⟨hinbox, hip, hdone⟩ := beginResponse_alive h
  intro hread
  rcases hdone with hwrit | ⟨_, hkeep⟩
  · rw [hwrit] at hread
    cases hread
  · rw [Connection.HoldsRequest, hinbox, hip]
    exact hbehind hst hkeep

/-- The answers in a list find nothing behind the requests they answer. -/
def AllLast (config : ServerConfig) (l : EventLoop) (entries : List Resolved) : Prop :=
  ∀ entry ∈ entries, ∀ c, l.view.table entry.fd = some c → c.id = entry.id →
    c.NothingBehind config.options

theorem applyResolved_attended {entry : Resolved} {rest : List Resolved} (sends : List SendResult)
    (h : l.AllAttended cfg) (hlast : l.AllLast cfg (entry :: rest)) :
    (l.applyResolved entry sends).1.AllAttended cfg ∧
      (l.applyResolved entry sends).1.AllLast cfg rest := by
  have hrest : l.AllLast cfg rest := fun e he => hlast e (mem_cons_of_mem entry he)
  unfold applyResolved
  split
  · exact ⟨h, hrest⟩
  next c hc =>
    split
    · exact ⟨h, hrest⟩
    next hwaits =>
      obtain ⟨hid, hst⟩ := not_or.mp hwaits
      have hbehind := hlast entry (mem_cons_self ..) c hc (not_not.mp hid)
      constructor
      · refine All.settle h ?_
        intro c' hc'
        exact attended_of_beginResponse (not_not.mp hst) hbehind hc'
      · intro e he c' hc' hid'
        rw [settle_view] at hc'
        rcases LoopView.settle_table_eq_some hc' with ⟨_, hal⟩ | ⟨_, hold⟩
        · -- the connection that was answered no longer waits
          intro hdef
          obtain ⟨_, _, hwrit | ⟨hread, _⟩⟩ := beginResponse_alive hal
          · rw [hwrit] at hdef
            cases hdef
          · rw [hread] at hdef
            cases hdef
        · exact hrest e he c' hold hid'

theorem applyAll_attended {entries : List Resolved}
    (sends : List SendResult) (h : l.AllAttended cfg) (hlast : l.AllLast cfg entries) :
    (l.applyAll sends entries).AllAttended cfg := by
  induction entries generalizing l sends with
  | nil => exact h
  | cons entry rest ih =>
    obtain ⟨hfst, hrest⟩ := applyResolved_attended sends h hlast
    exact ih _ hfst hrest

theorem All.closeConnection (h : l.All P) (fd : ℕ) : (l.closeConnection fd).All P :=
  h.withConnection fd fun _ _ _ _ _ hcl => by cases hcl

theorem expire_attended (sends : List SendResult) (h : l.AllAttended cfg)
    (hlast : ∀ c, l.view.table fd = some c → ∀ d, c.deferred = some d →
      (l.shared.deferrals d).delivered = false → c.NothingBehind cfg.options) :
    (l.expire cfg fd sends).1.AllAttended cfg := by
  unfold expire
  split
  · exact h
  next c hc =>
    split
    next d hst hdef =>
      dsimp only
      split
      next hcanc =>
        have hundel : (l.shared.deferrals d).delivered = false := by
          simpa [Shared.cancel] using hcanc
        refine All.settle h ?_
        intro c' hc'
        exact attended_of_beginResponse hst (hlast c hc d hdef hundel) hc'
      · refine All.settle h ?_
        intro c' hc'
        cases hc'
        intro hread
        rw [Connection.release, hst] at hread
        cases hread
    · exact All.closeConnection h fd

/-- After its time was up, a connection is gone, has its answer, or has let go
of the postponed response.  The other connections are as they were. -/
theorem expire_table {fd' : ℕ} {sends : List SendResult} {c : Connection}
    (h : (l.expire cfg fd sends).1.view.table fd' = some c) :
    l.view.table fd' = some c ∨ c.state ≠ .deferred ∨ c.deferred = none := by
  unfold expire at h
  split at h
  · exact .inl h
  next c₀ hc₀ =>
    split at h
    · dsimp only at h
      split at h
      · rw [settle_view] at h
        rcases LoopView.settle_table_eq_some h with ⟨_, hal⟩ | ⟨_, hold⟩
        · right
          left
          obtain ⟨_, _, hwrit | ⟨hread, _⟩⟩ := beginResponse_alive hal
          · rw [hwrit]
            decide
          · rw [hread]
            decide
        · exact .inl hold
      · rw [settle_view] at h
        rcases LoopView.settle_table_eq_some h with ⟨_, hal⟩ | ⟨_, hold⟩
        · cases hal
          exact .inr (.inr rfl)
        · exact .inl hold
    · unfold closeConnection withConnection at h
      rw [hc₀] at h
      rw [settle_view] at h
      rcases LoopView.settle_table_eq_some h with ⟨_, hal⟩ | ⟨_, hold⟩
      · cases hal
      · exact .inl hold

theorem expire_undelivered {d : ℕ} {sends : List SendResult}
    (h : ((l.expire cfg fd sends).1.shared.deferrals d).delivered = false) :
    (l.shared.deferrals d).delivered = false := by
  have hcancel : ∀ {d₀ : ℕ}, ((l.shared.cancel d₀).1.deferrals d).delivered = false →
        (l.shared.deferrals d).delivered = false := by
    intro d₀ hcanc
    simp only [Shared.cancel, Shared.setDeferral, update_apply]
      at hcanc
    split at hcanc
    · rw [DeferredResponse.delivered_cancel] at hcanc
      cases hcanc
    · exact hcanc
  unfold expire at h
  split at h
  · exact h
  next c₀ hc₀ =>
    split at h
    · dsimp only at h
      split at h
      · rw [settle_shared] at h
        exact hcancel h
      · exact hcancel h
    · unfold closeConnection withConnection at h
      rw [hc₀] at h
      rwa [settle_shared] at h

theorem sweepTimeouts_attended {expired : List ℕ} (sends : List SendResult) (h : l.AllAttended cfg)
    (hlast : ∀ fd ∈ expired, ∀ c, l.view.table fd = some c →
      ∀ d, c.deferred = some d → (l.shared.deferrals d).delivered = false →
        c.NothingBehind cfg.options) :
    (l.sweepTimeouts cfg sends expired).AllAttended cfg := by
  induction expired generalizing l sends with
  | nil => exact h
  | cons fd rest ih =>
    refine ih _ (expire_attended sends h (hlast fd (by simp))) ?_
    intro fd' hfd' c hc d hd hundel
    rcases expire_table hc with hold | hanswered | hrel
    · exact hlast fd' (by simp [hfd']) c hold d hd (expire_undelivered hundel)
    · exact fun hdef => absurd hdef hanswered
    · rw [hrel] at hd
      cases hd

theorem All.addConnection (h : l.All P) (fd : ℕ) (ip : Bytes)
    (hnew : ∀ id, P { fd, id, clientIp := ip }) : (l.addConnection fd ip).All P := by
  unfold EventLoop.addConnection
  split
  · exact h
  · intro fd' c hc
    simp only [view, Table.find_insert, update_apply] at hc
    split at hc
    · cases hc
      exact hnew _
    · exact h fd' c hc

theorem perform_attended {act : Action} (hlast : AnswersLast cfg l act) (h : l.AllAttended cfg) :
    (l.perform cfg act).AllAttended cfg := by
  cases act with
  | accepted fd ip =>
    exact All.addConnection h fd ip fun _ _ => by simp [Connection.HoldsRequest, requestReady_nil]
  | readable fd recvs sends =>
    exact All.withConnection h fd fun _ _ _ hc _ hread => onReadable_attended hc hread
  | writable fd sends =>
    exact All.withConnection h fd fun _ _ _ hc _ hwrite =>
      (onWritable_settled hwrite).elim (fun h => h ▸ hc) fun h => h.attended
  | hangup fd => exact All.closeConnection h fd
  | drained sends =>
    exact applyAll_attended sends h fun entry hent c hc hid => hlast entry hent c hc hid
  | swept expired sends =>
    exact sweepTimeouts_attended sends h fun fd hfd c hc d hd hundel =>
      hlast fd hfd c hc d hd hundel
  | resolved | posted | attachedElsewhere | cancelledElsewhere => exact h

/-- In every run in which no whole request waits behind a postponed one when
the drain or the sweep answers it, no connection that waits for a request
holds one. -/
theorem attended_of_answersLast (config : ServerConfig) {actions : List Action}
    (h : Run.Along (EventLoop.perform config) (AnswersLast config) {} actions)
    {fd : ℕ} {c : Connection}
    (hc : (Run.run (EventLoop.perform config) {} actions).connections.lookup
      fd = some c) (hstate : c.state = .readingHead) :
    ¬ c.HoldsRequest config.options := by
  have hattended : (Run.run (EventLoop.perform config) {} actions).AllAttended
      config := by
    refine Run.run_invariant (AllAttended config) h ?_ ?_
    · intro fd' c' hc'
      cases hc'
    · intro l action hlast hl
      exact perform_attended hlast hl
  exact hattended fd c hc hstate

/-- A server whose handler postpones its first answer. -/
def postponing : ServerConfig where
  handler := some fun calls _ => if calls = 0 then { deferred := some 0 } else {}

/-- The postponed answer arrives and is written at once. -/
def answered : List Action := [.resolved 0 {}, .posted 0, .drained [.accepted 1000]]

/-- A client that waits for its answer before it sends the next request. -/
def oneAtATime : List Action :=
  [.accepted 7 [], .readable 7 [.data "GET /a HTTP/1.1\r\n\r\n"] []] ++ answered ++
    [.readable 7 [.data "GET /b HTTP/1.1\r\n\r\n"]
      [.accepted 1000]]

theorem attended_oneAtATime : ∃ c, (Run.run (EventLoop.perform postponing) {}
        oneAtATime).connections.lookup 7 = some c ∧
      c.state = .readingHead ∧ ¬ c.HoldsRequest postponing.options := by
  obtain ⟨c, hc, hstate⟩ : ∃ c ∈ (Run.run (EventLoop.perform postponing) {}
      oneAtATime).connections.lookup 7, c.state = .readingHead := by decide +kernel
  exact ⟨c, hc, hstate, attended_of_answersLast postponing (by decide +kernel) hc hstate⟩

/-- A client that sends both requests at once. -/
def bothAtOnce : List Action :=
  [.accepted 7 [], .readable 7 [.data (textBytes
    "GET /a HTTP/1.1\r\n\r\nGET /b HTTP/1.1\r\n\r\n")] []] ++ answered

/-- The second request is left in the inbox of a connection that waits for
one. -/
theorem bothAtOnce_leaves_request : ((Run.run (EventLoop.perform postponing) {}
      bothAtOnce).connections.lookup 7).map
        (fun c => (c.state, c.inbox, decide (c.HoldsRequest postponing.options))) =
      some (.readingHead, textBytes "GET /b HTTP/1.1\r\n\r\n", true) := by
  decide +kernel

end EventLoop

end RtmpCore.Http
