import RtmpCore.Http.Steps
import RtmpCore.Support.Lookup

/-!
# What can happen to the loop

`LoopView` is the loop as the rest of the development looks at it: the table
of connections is a function of the descriptor.  `LoopStep` lists the things
that can happen to it, one connection and one answer at a time.  Every action
is a sequence of them, so a property that each of them preserves holds after
every run.
-/

namespace RtmpCore.Http

open Text List Function Table

namespace Outcome

def connection : Outcome → Option Connection
  | .alive c => some c
  | .closed _ => none

def finished : Outcome → List Transcript
  | .alive _ => []
  | .closed transcript => [transcript]

end Outcome

structure LoopView where
  shared : Shared := {}
  table : ℕ → Option Connection := fun _ => none
  nextConnectionId : ℕ := 1
  finished : List Transcript := []

namespace LoopView

variable (v : LoopView)

def settle (fd : ℕ) (shared : Shared) (outcome : Outcome) : LoopView :=
  { v with
    shared
    table := update v.table fd outcome.connection
    finished := v.finished ++ outcome.finished }

theorem settle_self {v : LoopView} {fd : ℕ} {c : Connection}
    (h : v.table fd = some c) : v.settle fd v.shared (.alive c) = v := by
  have htable : update v.table fd (some c) = v.table := by rw [← h, update_eq_self]
  simp [settle, Outcome.connection, Outcome.finished, htable]

theorem settle_settle (fd : ℕ) (shared shared' : Shared) (c : Connection) (out : Outcome) :
    (v.settle fd shared (.alive c)).settle fd shared' out = v.settle fd shared' out := by
  simp [settle, Outcome.finished]

/-- A connection after a settlement is the one that was settled or an old
one. -/
theorem settle_table_eq_some {v : LoopView} {fd fd' : ℕ} {shared : Shared}
    {out : Outcome} {c : Connection} (h : (v.settle fd shared out).table fd' = some c) :
    fd' = fd ∧ out = .alive c ∨ fd' ≠ fd ∧ v.table fd' = some c := by
  simp only [settle, update_apply] at h
  split at h
  next heq =>
    cases out with
    | alive c' =>
      cases h
      exact .inl ⟨heq, rfl⟩
    | closed transcript => cases h
  next hne => exact .inr ⟨hne, h⟩

def withShared (shared : Shared) : LoopView := { v with shared }

/-- The loop with the answers that wait in its mailbox. -/
def withMailbox (mailbox : List Resolved) : LoopView := v.withShared { v.shared with mailbox }

/-- A new connection gets the next identity. -/
def accept (fd : ℕ) (clientIp : Bytes) : LoopView :=
  { v with
    table := update v.table fd (some { fd, id := v.nextConnectionId, clientIp })
    nextConnectionId := v.nextConnectionId + 1 }

end LoopView

/-- A connection that no longer waits answers with `response`. -/
def Connection.resume (c : Connection) (response : HttpResponse) : Connection :=
  c.release.startWriting response c.deferredKeepAlive

/-- One thing that happens to the loop. -/
inductive LoopStep (config : ServerConfig) : LoopView → LoopView → Prop where
  | accept (v : LoopView) (fd : ℕ) (clientIp : Bytes) (hfree : v.table fd = none) :
      LoopStep config v (v.accept fd clientIp)
  | connection (v : LoopView) (fd : ℕ) {c : Connection} {shared : Shared}
      {outcome : Outcome} (hc : v.table fd = some c)
      (hstep : Step config v.shared c shared outcome) :
      LoopStep config v (v.settle fd shared outcome)
  | deliver (v : LoopView) (entry : Resolved) (rest : List Resolved)
      {c : Connection} (hmailbox : v.shared.mailbox = entry :: rest)
      (hc : v.table entry.fd = some c) (hid : c.id = entry.id)
      (hstate : c.state = .deferred) :
      LoopStep config v ((v.withMailbox rest).settle entry.fd (v.withMailbox rest).shared
          (.alive (c.resume (EventLoop.unnested entry.response))))
  | discard (v : LoopView) (entry : Resolved) (rest : List Resolved)
      (hmailbox : v.shared.mailbox = entry :: rest) :
      LoopStep config v (v.withMailbox rest)
  | timeout (v : LoopView) (fd d : ℕ) {c : Connection}
      (hc : v.table fd = some c) (hstate : c.state = .deferred)
      (hdeferred : c.deferred = some d)
      (hcancelled : (v.shared.cancel d).2 = true) :
      LoopStep config v (v.settle fd (v.shared.cancel d).1
          (.alive (c.resume (EventLoop.timeoutAnswer config d))))
  | release (v : LoopView) (fd : ℕ) {c : Connection}
      (hc : v.table fd = some c) (hstate : c.state = .deferred) :
      LoopStep config v (v.settle fd v.shared (.alive c.release))
  | resolve (v : LoopView) (d : ℕ) (response : HttpResponse) :
      LoopStep config v (v.withShared (v.shared.resolve d response))
  | post (v : LoopView) (index : ℕ) : LoopStep config v (v.withShared (v.shared.post index))
  | attachElsewhere (v : LoopView) (d : ℕ) :
      LoopStep config v (v.withShared (v.shared.attach d .elsewhere))
  | cancel (v : LoopView) (d : ℕ) : LoopStep config v (v.withShared (v.shared.cancel d).1)

/-- A sequence of things that happen to the loop. -/
def Reaches (config : ServerConfig) : LoopView → LoopView → Prop :=
  Relation.ReflTransGen (LoopStep config)

variable {cfg : ServerConfig}

variable {v v' : LoopView} {Alive : Connection → Prop} {Closed : Transcript → Prop}

theorem Steps.reaches {shared' : Shared} {c : Connection} {out : Outcome}
    (v : LoopView) (fd : ℕ) (hc : v.table fd = some c) (h : Steps cfg v.shared c shared' out) :
    Reaches cfg v (v.settle fd shared' out) := by
  generalize hshar : v.shared = shared at h
  induction h generalizing v with
  | refl shared c =>
    subst hshar
    rw [LoopView.settle_self hc]
    exact .refl
  | @head shared shared' shared'' c c' out hstep _ ih =>
    subst hshar
    have htail := ih (v.settle fd shared' (.alive c')) (update_self ..) rfl
    rw [LoopView.settle_settle] at htail
    exact .head (.connection v fd hc hstep) htail
  | last hstep =>
    subst hshar
    exact .single (.connection v fd hc hstep)

/-- Every connection of the loop and every transcript of an ended one has its
property. -/
structure LoopView.Each (Alive : Connection → Prop)
    (Closed : Transcript → Prop) (v : LoopView) : Prop where
  alive : ∀ fd c, v.table fd = some c → Alive c
  closed : ∀ transcript ∈ v.finished, Closed transcript

theorem LoopView.Each.settle (h : v.Each Alive Closed)
    (out : Outcome) (hout : out.Meets Alive Closed) (fd : ℕ)
    (shared : Shared) : (v.settle fd shared out).Each Alive Closed := by
  constructor
  · intro fd' c hc
    rcases LoopView.settle_table_eq_some hc with ⟨_, rfl⟩ | ⟨_, hold⟩
    · exact hout
    · exact h.alive fd' c hold
  · intro transcript htrans
    simp only [LoopView.settle, mem_append] at htrans
    rcases htrans with hold | hnew
    · exact h.closed transcript hold
    · cases out with
      | alive c' => simp [Outcome.finished] at hnew
      | closed ended =>
        obtain rfl : transcript = ended := by simpa [Outcome.finished] using hnew
        exact hout

/-- A property of single connections that a new one has, that each of their
steps preserves, and that is not lost when a connection stops waiting for its
answer, is a property of all connections of the loop. -/
theorem LoopStep.each (hnew : ∀ fd id clientIp, Alive { fd, id, clientIp })
    (hstep : ∀ {shared c shared' out}, Step cfg shared c shared' out → Alive c →
        out.Meets Alive Closed)
    (hresu : ∀ c resp, c.state = .deferred → Alive c → Alive (c.resume resp))
    (hrelease : ∀ c, Alive c → Alive c.release)
    (h : LoopStep cfg v v') (hv : v.Each Alive Closed) :
    v'.Each Alive Closed := by
  cases h with
  | accept fd clientIp hfree =>
    refine ⟨?_, hv.closed⟩
    intro fd' c hc
    simp only [LoopView.accept, update_apply] at hc
    split at hc
    · cases hc
      exact hnew _ _ _
    · exact hv.alive fd' c hc
  | connection fd hc hstep' => exact hv.settle _ (hstep hstep' (hv.alive fd _ hc)) fd _
  | deliver entry rest hmail hc hid hst =>
    have hrest : (v.withMailbox rest).Each Alive Closed := ⟨hv.1, hv.2⟩
    exact hrest.settle (.alive _) (hresu _ _ hst (hv.alive entry.fd _ hc)) entry.fd _
  | timeout fd d hc hst hdef hcanc =>
    exact hv.settle (.alive _) (hresu _ _ hst (hv.alive fd _ hc)) fd _
  | release fd hc hst => exact hv.settle (.alive _) (hrelease _ (hv.alive fd _ hc)) fd _
  | _ => exact ⟨hv.1, hv.2⟩

/-- The transcripts of the connections of a loop, of those that ended and of
those that go on. -/
def EventLoop.Recorded (l : EventLoop) (t : Transcript) : Prop :=
  t ∈ l.finished ∨ ∃ fd c, l.connections.lookup fd = some c ∧ c.transcript = t

variable (cfg)

namespace EventLoop

def view (l : EventLoop) : LoopView where
  shared := l.shared
  table := Table.find l.connections
  nextConnectionId := l.nextConnectionId
  finished := l.finished

variable (l : EventLoop) (fd : ℕ) (sends : List SendResult)

theorem settle_view (shared : Shared) (out : Outcome) :
    (l.settle fd shared out).view = l.view.settle fd shared out := by
  cases out with
  | alive c =>
    simp [settle, view, LoopView.settle, Outcome.connection, Outcome.finished, find_insert]
  | closed transcript =>
    simp [settle, view, LoopView.settle, Outcome.connection, Outcome.finished, find_erase]

theorem withConnection_reaches {step : Connection → Shared × Outcome}
    (h : ∀ c, Steps cfg l.shared c (step c).1 (step c).2) :
    Reaches cfg l.view (l.withConnection fd step).view := by
  unfold withConnection
  split
  · exact .refl
  next c hc =>
    rw [settle_view]
    exact (h c).reaches l.view fd hc

theorem resume_reaches (v' : LoopView) (fd : ℕ) (c : Connection)
    (resp : HttpResponse) (sends : List SendResult)
    (hcl : Reaches cfg v (v'.settle fd v'.shared (.closed c.transcript)))
    (hresumed : Reaches cfg v (v'.settle fd v'.shared (.alive (c.resume resp)))) :
    Reaches cfg v (v'.settle fd v'.shared
        (c.release.beginResponse resp c.deferredKeepAlive sends).1) := by
  unfold Connection.beginResponse
  split
  · exact hcl
  · have hfl := ((c.resume resp).flush_steps cfg v'.shared rfl
      sends).reaches (v'.settle fd v'.shared (.alive (c.resume resp))) fd (update_self ..)
    rw [LoopView.settle_settle] at hfl
    exact hresumed.trans hfl

theorem applyResolved_reaches (entry : Resolved) (rest : List Resolved) (sends : List SendResult) :
    Reaches cfg (l.view.withMailbox (entry :: rest))
      ((l.applyResolved entry sends).1.view.withMailbox rest) := by
  have hdiscard : Reaches cfg (l.view.withMailbox (entry :: rest)) (l.view.withMailbox rest) :=
    .single (.discard (l.view.withMailbox (entry :: rest)) entry rest rfl)
  unfold applyResolved
  split
  · exact hdiscard
  next c hc =>
    split
    · exact hdiscard
    next hwaits =>
      obtain ⟨hid, hst⟩ := not_or.mp hwaits
      have hset := resume_reaches cfg (l.view.withMailbox rest) entry.fd
        c (unnested entry.response) sends
        ((Relation.ReflTransGen.single (.connection (l.view.withMailbox (entry :: rest)) entry.fd hc
            (.close _ c))).tail
          (.discard _ entry rest rfl))
        (.single (.deliver (l.view.withMailbox (entry :: rest)) entry rest rfl
          hc (not_not.mp hid) (not_not.mp hst)))
      rw [settle_view]
      exact hset

@[simp] theorem settle_shared (shared : Shared)
    (out : Outcome) : (l.settle fd shared out).shared = shared := by
  cases out <;> rfl

theorem applyResolved_shared (entry : Resolved) (sends : List SendResult) :
    (l.applyResolved entry sends).1.shared = l.shared := by
  unfold applyResolved
  split
  · rfl
  · split
    · rfl
    · exact settle_shared ..

theorem applyAll_reaches (entries : List Resolved) : Reaches cfg
      (l.view.withMailbox (entries ++ l.shared.mailbox))
      (l.applyAll sends entries).view := by
  induction entries generalizing l sends with
  | nil => exact .refl
  | cons entry rest ih =>
    have hfst := applyResolved_reaches cfg l entry (rest ++ l.shared.mailbox) sends
    have hrest := ih (l.applyResolved entry sends).1 (l.applyResolved entry sends).2
    rw [applyResolved_shared] at hrest
    exact hfst.trans hrest

theorem drainResolved_reaches : Reaches cfg l.view (l.drainResolved sends).view := by
  have h := applyAll_reaches cfg
    { l with shared := { l.shared with mailbox := [] } } sends l.shared.mailbox
  rw [append_nil] at h
  exact h

theorem closeConnection_reaches : Reaches cfg l.view (l.closeConnection fd).view :=
  l.withConnection_reaches cfg fd fun c => (Step.close l.shared c).steps

theorem cancel_late {shared : Shared} {d : ℕ}
    (h : (shared.cancel d).2 = false) : (shared.cancel d).1 = shared := by
  have hcancel : ((shared.deferrals d).cancel).1 = shared.deferrals d := by
    simp only [Shared.cancel, DeferredResponse.cancel] at h ⊢
    split at h
    next hdel => rw [if_pos hdel]
    · cases h
  rw [Shared.cancel, hcancel, Shared.setDeferral, update_eq_self]

theorem expire_reaches : Reaches cfg l.view (l.expire cfg fd sends).1.view := by
  unfold expire
  split
  · exact .refl
  next c hc =>
    split
    next d hst hdef =>
      dsimp only
      split
      next hcanc =>
        have hset := resume_reaches cfg (l.view.withShared (l.shared.cancel d).1) fd c
          (timeoutAnswer cfg d) sends
          ((Relation.ReflTransGen.single
            (.connection l.view fd hc (.close _ c))).tail (.cancel _ d))
          (.single (.timeout l.view fd d hc hst hdef hcanc))
        rw [settle_view]
        exact hset
      next hlate =>
        rw [settle_view, cancel_late (by simpa using hlate)]
        exact .single (.release l.view fd hc hst)
    · exact closeConnection_reaches cfg l fd

theorem sweepTimeouts_reaches (expired : List ℕ) :
    Reaches cfg l.view (l.sweepTimeouts cfg sends expired).view := by
  induction expired generalizing l sends with
  | nil => exact .refl
  | cons fd rest ih => exact (expire_reaches cfg l fd sends).trans (ih _ _)

theorem addConnection_reaches (clientIp : Bytes) :
    Reaches cfg l.view (l.addConnection fd clientIp).view := by
  unfold addConnection
  split
  · exact .refl
  next hfree =>
    have hview : LoopStep cfg l.view (l.view.accept fd clientIp) :=
      .accept l.view fd clientIp (AList.lookup_eq_none.mpr hfree)
    refine .single ?_
    simpa [view, LoopView.accept, find_insert] using hview

theorem perform_reaches (act : Action) : Reaches cfg l.view (l.perform cfg act).view := by
  cases act with
  | accepted fd clientIp => exact addConnection_reaches cfg l fd clientIp
  | readable fd recvs sends =>
    exact l.withConnection_reaches cfg fd fun c => onReadable_steps cfg l.shared c recvs sends
  | writable fd sends =>
    exact l.withConnection_reaches cfg fd fun c => onWritable_steps cfg l.shared c sends
  | hangup fd => exact closeConnection_reaches cfg l fd
  | drained sends => exact drainResolved_reaches cfg l sends
  | swept expired sends => exact sweepTimeouts_reaches cfg l sends expired
  | resolved d resp => exact .single (.resolve l.view d resp)
  | posted index => exact .single (.post l.view index)
  | attachedElsewhere d => exact .single (.attachElsewhere l.view d)
  | cancelledElsewhere d => exact .single (.cancel l.view d)

theorem run_view_invariant {Inv : LoopView → Prop}
    (hstep : ∀ v v', LoopStep cfg v v' → Inv v → Inv v') {l : EventLoop}
    (h : Inv l.view) (acts : List Action) : Inv (Run.run (EventLoop.perform cfg) l acts).view := by
  refine Run.run_invariant_always (fun l : EventLoop => Inv l.view) h ?_
  intro l act hl
  have hreaches := perform_reaches cfg l act
  generalize (l.perform cfg act).view = reached at hreaches ⊢
  induction hreaches with
  | refl => exact hl
  | tail _ hlast ih => exact hstep _ _ hlast ih

end EventLoop

end RtmpCore.Http
