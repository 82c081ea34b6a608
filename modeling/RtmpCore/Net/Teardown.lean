import RtmpCore.Live.Demand
import RtmpCore.Live.Vacancy
import RtmpCore.Net.Admission

/-!
# Teardown

A connection that has been closed is used no more, and the registry of streams,
the fan-outs and the router have forgotten it.  What the router has are
counters, which belong to nobody by name: they are at most as large as the
numbers of subscribers that are left.
-/

namespace RtmpCore.Live.CrossWorkerRouter

variable {n : ℕ} {F : Type}

def counter (router : CrossWorkerRouter n F) (key : ℕ × StreamId) : ℕ :=
  if h : key.1 < n then ((router.counts.lookup key.2).getD (fun _ => 0) ⟨key.1, h⟩).toNat
  else 0

theorem toNat_counter_le (counter : UInt32) (delta : ℤ) :
    (if 0 < delta then counter + UInt32.ofNat delta.toNat
      else if delta < 0 ∧ 0 < counter then counter - 1 else counter).toNat ≤
      if 0 < delta then counter.toNat + delta.toNat
      else if delta < 0 then counter.toNat - 1 else counter.toNat := by
  by_cases hpos : 0 < delta
  · rw [if_pos hpos, if_pos hpos]
    refine (Nat.mod_le _ _).trans ?_
    exact Nat.add_le_add_left (Nat.mod_le _ _) _
  · rw [if_neg hpos, if_neg hpos]
    by_cases hneg : delta < 0
    · rw [if_pos hneg]
      by_cases hcnt : 0 < counter
      · have hone : (1 : UInt32) ≤ counter := by
          exact UInt32.lt_iff_toNat_lt.mp hcnt
        rw [if_pos ⟨hneg, hcnt⟩, UInt32.toNat_sub_of_le _ _ hone]
        rfl
      · have hzero : counter.toNat = 0 := by
          exact Nat.eq_zero_of_not_pos hcnt
        rw [if_neg fun h => hcnt h.2, hzero]
    · rw [if_neg hneg, if_neg fun h => hneg h.1]

theorem counter_noteSubscription (router : CrossWorkerRouter n F) (worker : ℕ)
    (sid : StreamId) (delta : ℤ) : (router.noteSubscription worker sid delta).counter ≤
      (Event.subscription worker sid delta).demand router.counter := by
  by_cases hwork : worker < n
  · have hle := toNat_counter_le ((router.counts.lookup sid).getD
      (fun _ => 0) ⟨worker, hwork⟩) delta
    unfold noteSubscription
    dsimp only [Event.demand]
    rw [dif_pos hwork]
    rintro ⟨worker', streamId'⟩
    rcases eq_or_ne streamId' sid with rfl | hstr
    · rcases eq_or_ne worker' worker with rfl | hother
      · simpa [counter, hwork] using hle
      · simp [counter, hother]
    · simp [counter, hstr]
  · have hzero : router.counter (worker, sid) = 0 := dif_neg hwork
    rw [noteSubscription, dif_neg hwork]
    refine le_update_iff.mpr ⟨?_, fun _ _ => le_rfl⟩
    rw [hzero]
    exact Nat.zero_le _

variable [MediaFrame F]

theorem counter_onStreamEnd (router : CrossWorkerRouter n F) (worker : ℕ) (sid : StreamId) :
    (router.onStreamEnd worker sid).counter =
      (Event.streamEnd worker sid).demand router.counter := by
  funext ⟨worker', streamId'⟩
  dsimp only [Event.demand]
  split_ifs with hstr
  · subst hstr
    simp [counter, onStreamEnd]
  · simp [counter, onStreamEnd, AList.lookup_erase_ne hstr]

theorem counter_forward (router : CrossWorkerRouter n F) (sourceWorker : ℕ)
    (sid : StreamId) (frame : F) (isVideo isAudio isSticky isKeyframe : Bool) :
    (router.forward sourceWorker sid frame isVideo isAudio isSticky
      isKeyframe).1.counter = router.counter := by
  unfold forward
  split_ifs <;> rfl

end RtmpCore.Live.CrossWorkerRouter

namespace RtmpCore.Net

open RtmpCore.Core Chunk Live Auth

namespace Server

variable {n : ℕ}

theorem counter_calls (router : CrossWorkerRouter n SharedMediaFrame) (evs : List Event) :
    ((evs.filterMap routerCallOf).foldl
      (fun router call => (router.perform call).1) router).counter ≤
        demandAfter router.counter evs := by
  induction evs generalizing router with
  | nil => exact le_rfl
  | cons ev rest ih =>
    have hmono : ∀ router' : CrossWorkerRouter n SharedMediaFrame,
        router'.counter ≤ ev.demand router.counter →
        ((rest.filterMap routerCallOf).foldl
          (fun router call => (router.perform call).1) router').counter ≤
          demandAfter router.counter (ev :: rest) := by
      intro router' hle
      exact (ih router').trans (demandAfter_mono hle rest)
    cases ev with
    | subscription worker sid delta =>
      exact hmono _ (router.counter_noteSubscription worker sid delta)
    | streamEnd worker sid => exact hmono _ (router.counter_onStreamEnd worker sid).le
    | forwarded worker sid frame kind isSticky isKeyframe =>
      exact hmono _ (router.counter_forward worker sid frame _ _ isSticky isKeyframe).le
    | _ => exact hmono router le_rfl

/-- A stream's end that comes from another worker finds no demand. -/
def KeepsDemand (s : Server n) : Action → Prop
  | .replayedStop worker streamId => s.router.counter (worker, streamId) = 0
  | _ => True

instance (s : Server n) : (action : Action) → Decidable (s.KeepsDemand action)
  | .replayedStop .. => instDecidableEqNat _ _
  | .message .. | .closed .. | .replayedMedia .. => instDecidableTrue

/-- No session is destroyed inside a call of its own, no relay is lost behind the back
of the fan-out, and a stream's end from another worker finds no demand. -/
def Careful (s : Server n) (move : Move) : Prop :=
  s.Undisturbed move ∧ ∀ action ∈ s.action move, KeepsRelays s.world action ∧ s.KeepsDemand action
deriving Decidable

/-- The loop has no session for the connection on its list. -/
def Unlisted (s : Server n) (connection : UInt64) : Prop :=
  ∀ peer, s.peers.lookup connection = some peer → peer.sessionListed = false

/-- What the sessions have left in the world is in order. -/
structure Kept (s : Server n) : Prop where
  tended : s.world.ledger.Tended ∅
  absent : ∀ {connection}, s.Unlisted connection → s.world.ledger.Absent connection
  covered : s.router.counter ≤ s.world.audience

/-- Connections that are closed are gone and are not used any more. -/
structure Final (s : Server n) : Prop where
  gone : ∀ {connection}, (connection, .closed) ∈ s.trace →
    ∃ peer, s.peers.lookup connection = some peer ∧ peer.registered = false
  unused : ∀ {before after connection event}, s.trace = before ++ after →
    (connection, .closed) ∈ before → (connection, event) ∈ after → event.isUse = false

/-! ## What the sessions leave behind -/

theorem world_react (s : Server n) (conn : UInt64) {reaction : Reaction}
    (h : reaction.world = none) :
    (s.react conn reaction).world = s.world ∧ (s.react conn reaction).router = s.router := by
  unfold react
  rw [h]
  exact ⟨rfl, rfl⟩

theorem covered_perform {s : Server n} (htend : s.world.ledger.Tended ∅)
    (hcov : s.router.counter ≤ s.world.audience) {act : Action} (hdem : s.KeepsDemand act) :
    (s.perform act).router.counter ≤ (s.perform act).world.audience := by
  obtain ⟨evs, hlog, hcovers⟩ := World.covers_perform htend act
  have hnews : (s.world.perform act).log.drop s.world.log.length = evs := by
    rw [hlog, List.drop_left]
  have hcnt := counter_calls s.router evs
  have hkept := hcovers s.router.counter hcov (by
    rintro worker sid rfl
    exact hdem)
  rw [← hnews] at hcnt
  exact hcnt.trans (hnews ▸ hkept)

namespace Kept

variable {s : Server n}

variable {s' : Server n} {conn : UInt64}

theorem create {config : SessionConfig} (h : s.Kept) (habs : s.world.ledger.Absent conn)
    (hsame : s'.world = s.world.setSession conn { config } ∧ s'.router = s.router)
    (hlist : ∀ {other}, s'.Unlisted other → s.world.ledger.Absent other) : s'.Kept where
  tended := by
    rw [hsame.1]
    exact World.tended_create h.tended habs config
  absent hunl := by
    rw [hsame.1]
    exact World.absent_create habs config (hlist hunl)
  covered := by
    rw [hsame.1, hsame.2]
    exact h.covered

theorem perform {act : Action} (h : s.Kept) (hcare : KeepsRelays s.world act ∧ s.KeepsDemand act)
    (hsame : s'.world = (s.perform act).world ∧ s'.router = (s.perform act).router)
    (habs : ∀ {conn}, s'.Unlisted conn → (s.world.perform act).ledger.Absent conn) : s'.Kept where
  tended := by
    rw [hsame.1]
    exact World.tended_perform h.tended hcare.1
  absent hunl := by
    rw [hsame.1]
    exact habs hunl
  covered := by
    rw [hsame.1, hsame.2]
    exact covered_perform h.tended h.covered hcare.2

theorem react {peer : Peer} {rest : List PeerTask} {reaction : Reaction} (h : s.Kept)
    (hpeer : s.peers.lookup conn = some peer) (hallow : reaction.Allowed peer rest)
    (hcare : ∀ act ∈ reaction.world.bind (WorldCall.action conn),
      KeepsRelays s.world act ∧ s.KeepsDemand act) :
    (s.react conn reaction).Kept := by
  have hself : (s.react conn reaction).Unlisted conn → reaction.peer.sessionListed = false := by
    rw [Unlisted, peers_react, AList.lookup_insert]
    exact fun hunl => hunl _ rfl
  -- the other connections stand as they stood
  have hoths : ∀ {other}, other ≠ conn → (s.react conn reaction).Unlisted other →
        s.world.ledger.Absent other := by
    intro other hne hunl
    rw [Unlisted, peers_react, AList.lookup_insert_ne hne] at hunl
    exact h.absent hunl
  have habs : peer.sessionListed = false → s.world.ledger.Absent conn := by
    intro hunl
    refine h.absent fun peer' hpeer' => ?_
    rwa [← Option.some.inj (hpeer.symm.trans hpeer')]
  cases hworld : reaction.world with
  | none =>
    obtain ⟨hsame, hrouter⟩ := s.world_react conn hworld
    have hlist : ∀ {other}, (s.react conn reaction).Unlisted other →
        s.world.ledger.Absent other := by
      intro other hunl
      rcases eq_or_ne other conn with rfl | hne
      · refine habs ?_
        by_contra hlist
        have hstill := hallow.listed hworld (by simpa using hlist)
        rw [hself hunl] at hstill
        cases hstill
      · exact hoths hne hunl
    constructor
    · rw [hsame]
      exact h.tended
    · rw [hsame]
      exact hlist
    · rw [hsame, hrouter]
      exact h.covered
  | some call =>
    have hfits := hallow.world call hworld
    rw [hworld] at hcare
    cases call with
    | create config =>
      have hcreated : (s.react conn reaction).world = s.world.setSession conn { config } ∧
          (s.react conn reaction).router = s.router := by
        simp [Server.react, hworld, callWorld]
      refine h.create (habs hfits.1) hcreated fun {other} hunl => ?_
      rcases eq_or_ne other conn with rfl | hne
      · exact habs hfits.1
      · exact hoths hne hunl
    | message msg answers =>
      refine h.perform (hcare _ rfl)
        (by simp [Server.react, hworld, callWorld, Server.perform]) fun {other} hunl => ?_
      rcases eq_or_ne other conn with rfl | hne
      · have hlist := hfits.2
        rw [hself hunl] at hlist
        cases hlist
      · exact World.absent_perform h.tended (hoths hne hunl)
          fun heq => hne (Option.some.inj heq).symm
    | close order =>
      refine h.perform (hcare _ rfl)
        (by simp [Server.react, hworld, callWorld, Server.perform]) fun {other} hunl => ?_
      rcases eq_or_ne other conn with rfl | hne
      · exact World.absent_of_closed h.tended order (hcare _ rfl).1
      · exact World.absent_perform h.tended (hoths hne hunl)
          fun heq => hne (Option.some.inj heq).symm

theorem steps {act : Option Action} (h : s.Kept) (hsteps : s.Steps act s')
    (hcare : ∀ a ∈ act, KeepsRelays s.world a ∧ s.KeepsDemand a) : s'.Kept := by
  cases hsteps with
  | stay => exact h
  | pass | refuse => exact { h with }
  | drain router tasks hidle htodo hcnts =>
    have hcnt : router.counter = s.router.counter := by
      funext key
      rw [CrossWorkerRouter.counter, hcnts, CrossWorkerRouter.counter]
    exact { h with covered := hcnt.trans_le h.covered }
  | replay worker item answers =>
    refine h.perform (hcare _ rfl) ⟨rfl, rfl⟩ fun hunl => ?_
    refine World.absent_perform h.tended (h.absent hunl) ?_
    unfold replayOf
    cases item.kind <;> simp [Action.caller]
  | react conn peer reaction rest hpeer _ _ hallow =>
    have hrest : Kept { s with todo := rest } := { h with }
    exact hrest.react hpeer hallow hcare
  | admitted worker ip authenticator _ hfsh =>
    refine { h with absent := fun {other} hunl => h.absent fun peer hpeer => ?_ }
    have hne : other ≠ s.connectionId worker := by
      rintro rfl
      rw [hfsh] at hpeer
      cases hpeer
    exact hunl peer (by rwa [AList.lookup_insert_ne hne])

end Kept

/-! ## The end of a connection -/

namespace Final

variable {s : Server n}

variable {s' : Server n} {conn : UInt64} {peer : Peer}

/-- Events of one connection are added.  It may be used if it is still
registered then. -/
theorem extend {news : List PeerEvent} (h : s.Final) (hpeers : s'.peers = s.peers.insert conn peer)
    (htr : s'.trace = s.trace ++ news.map (Prod.mk conn))
    (hgone : ∀ peer', s.peers.lookup conn = some peer' →
      peer'.registered = false → peer.registered = false)
    (hcl : .closed ∈ news → peer.registered = false)
    (huses : ∀ ev ∈ news, ev.isUse → peer.registered) : s'.Final := by
  have hleft : ∀ {other}, (other, .closed) ∈ s'.trace →
      ∃ peer', s'.peers.lookup other = some peer' ∧ peer'.registered = false := by
    intro other hmem
    rw [hpeers]
    rw [htr, List.mem_append] at hmem
    rcases hmem with hold | hnew
    · obtain ⟨peer', hpeer', hunreg⟩ := h.gone hold
      rcases eq_or_ne other conn with rfl | hne
      · exact ⟨peer, AList.lookup_insert _, hgone peer' hpeer' hunreg⟩
      · exact ⟨peer', by rwa [AList.lookup_insert_ne hne], hunreg⟩
    · obtain ⟨ev, hev, heq⟩ := List.mem_map.mp hnew
      obtain ⟨rfl, rfl⟩ := Prod.mk.inj heq
      exact ⟨peer, AList.lookup_insert _, hcl hev⟩
  refine ⟨hleft, ?_⟩
  intro before after other ev hspl hbef hafter
  have hmem : (other, .closed) ∈ s'.trace := by
    rw [hspl]
    exact List.mem_append_left _ hbef
  -- an event that is added now finds its connection registered
  have hnew : (other, ev) ∈ news.map (Prod.mk conn) → ev.isUse = false := by
    intro hadded
    obtain ⟨_, hev, heq⟩ := List.mem_map.mp hadded
    obtain ⟨rfl, rfl⟩ := Prod.mk.inj heq
    obtain ⟨peer', hpeer', hunreg⟩ := hleft hmem
    rw [hpeers, AList.lookup_insert] at hpeer'
    cases Option.some.inj hpeer'
    by_contra huse
    have hreg := huses _ hev (by simpa using huse)
    rw [hunreg] at hreg
    cases hreg
  rw [htr] at hspl
  rcases List.append_eq_append_iff.mp hspl with
    ⟨middle, -, hrest⟩ | ⟨middle, hrest, rfl⟩
  · apply hnew
    rw [hrest]
    exact List.mem_append_right _ hafter
  · rcases List.mem_append.mp hafter with hmiddle | hadded
    · exact h.unused hrest hbef hmiddle
    · exact hnew hadded

theorem react {rest : List PeerTask} {reaction : Reaction} (h : s.Final)
    (hpeer : s.peers.lookup conn = some peer) (hallow : reaction.Allowed peer rest) :
    (s.react conn reaction).Final := by
  refine h.extend (s.peers_react conn reaction) (s.trace_react conn reaction) ?_ ?_ hallow.uses
  · intro peer' hpeer' hunreg
    cases Option.some.inj (hpeer.symm.trans hpeer')
    rw [hallow.registered, hunreg, Bool.false_and]
  · intro hcl
    have hend : .closed ∈ reaction.news.filter PeerEvent.isEnd := List.mem_filter.mpr ⟨hcl, rfl⟩
    rw [hallow.ends] at hend
    rw [hallow.registered]
    cases hrel : reaction.releases with
    | false => simp [hrel] at hend
    | true => simp

theorem steps {act : Option Action} (h : s.Final) (hsteps : s.Steps act s') : s'.Final := by
  cases hsteps with
  | stay => exact h
  | react conn peer reaction rest hpeer _ _ hallow =>
    have hrest : Final { s with todo := rest } := { h with }
    exact hrest.react hpeer hallow
  | admitted worker ip authenticator _ hfsh =>
    have htr : s.trace ++ [(s.connectionId worker, .admitted ip)] =
        s.trace ++ [PeerEvent.admitted ip].map (Prod.mk (s.connectionId worker)) := rfl
    refine h.extend rfl htr ?_ ?_ ?_
    · intro peer' hpeer'
      rw [hfsh] at hpeer'
      cases hpeer'
    · simp
    · simp [PeerEvent.isUse]
  | _ => exact { h with }

end Final

section

variable (n) (config : ServerConfig) (limits : AuthenticatorLimits) (routerLimits : RouterLimits)
  (fanout : ℕ → GopLimits × QueueLimits × ℕ)

theorem kept_initial : (initial n config limits routerLimits fanout).Kept where
  tended := World.tended_initial _ _
  absent _ := World.absent_initial _ _ _
  covered key := by
    have hzero : (initial n config limits routerLimits fanout).router.counter key = 0 := by
      simp [initial, CrossWorkerRouter.counter]
    rw [hzero]
    exact Nat.zero_le _

theorem final_initial : (initial n config limits routerLimits fanout).Final where
  gone h := by cases h
  unused {before} _ _ _ hspl hbef _ := by
    obtain ⟨rfl, -⟩ := List.append_eq_nil_iff.mp hspl.symm
    cases hbef

/-- In every state of a careful run, a connection that has been closed was
neither given a message nor sent anything since, the registry has no
registration of it, no fan-out holds a sink of it, and every counter of the
router is at most the number of subscribers that the fan-out has. -/
theorem teardown_is_final (moves : List Move)
    (h : Run.Along step Careful (initial n config limits routerLimits fanout) moves)
    (connection : UInt64) :
    let s := Run.run step (initial n config limits routerLimits fanout) moves
    (connection, .closed) ∈ s.trace → (∀ before after event, s.trace = before ++ after →
        (connection, .closed) ∈ before → (connection, event) ∈ after → event.isUse = false) ∧
      (∀ streamKey registration, s.world.registry.lookup streamKey = some registration →
          registration.connectionId ≠ connection) ∧
      (∀ seat sink, s.world.heldSink seat = some sink → sink.connection ≠ connection) ∧
      ∀ worker streamId, s.router.counter (worker, streamId) ≤
        (s.world.fanouts worker).audience streamId := by
  intro s hclosed
  obtain ⟨hsound, hkept, hfinal⟩ := Run.run_invariant
    (fun s : Server n => s.Sound ∧ s.Kept ∧ s.Final) h
    ⟨sound_initial n config limits routerLimits fanout,
      kept_initial n config limits routerLimits fanout,
      final_initial n config limits routerLimits fanout⟩
    fun s move hcareful ⟨hsound, hkept, hfinal⟩ =>
      have hsteps := steps_step hsound hcareful.1
      ⟨hsteps.sound hsound, hkept.steps hsteps hcareful.2, hfinal.steps hsteps⟩
  obtain ⟨peer, hpeer, hunregistered⟩ := hfinal.gone hclosed
  -- a connection that has left the registry is not on the list of sessions
  have habsent : s.world.ledger.Absent connection := by
    refine hkept.absent fun peer' hpeer' => ?_
    cases Option.some.inj (hpeer.symm.trans hpeer')
    exact ((hsound.coherent hpeer).gone hunregistered).2
  refine ⟨fun _ _ _ => hfinal.unused, ?_, habsent.held, ?_⟩
  · rintro streamKey registration hlookup rfl
    exact habsent.publishers streamKey (by simp [World.ledger, hlookup])
  · exact fun worker streamId => hkept.covered (worker, streamId)

end

/-- A server of one worker that takes commands, with `room` bytes for what is
queued on a connection. -/
def commandServer (room : ℕ) : Server 1 :=
  initial 1 { subscriberQueueMaxBytes := room - 1000, maximumRtmpMessageSize := 1000 }
    { maxConnectionsPerIp := 2 } {} fun _ => ({}, {}, 250)

def publishRequest : Bytes :=
  (({ chunkSize_pos := Nat.succ_pos _ } : ChunkEncoder).encodeMessage
    { World.commandMessage .publish 1 [.string "cam"] with
      chunkStreamId := World.kCommandChunkStreamId }).2

/-- A client that begins to publish in the buffer that ends its handshake. -/
def hastyPublisher : List Move :=
  [.event (.accepted 0 [1]),
    .event (.input firstConnection (.received clientHello {}))] ++ tasks 1 ++
  [.event (.input firstConnection (.received (clientAck ++ publishRequest) {}))] ++ tasks 12

/-- Then its connection breaks and is closed. -/
def publisherLeaves : List Move :=
  hastyPublisher ++ [.event (.input firstConnection .receiveFailed)] ++ tasks 6

theorem publisherLeaves_unregistered :
    let s := Run.run step (commandServer 10000) publisherLeaves
    Run.Along step Careful (commandServer 10000) publisherLeaves ∧
      (firstConnection, .closed) ∈ s.trace ∧
      ∀ streamKey registration, s.world.registry.lookup streamKey = some registration →
          registration.connectionId ≠ firstConnection := by
  have halong : Run.Along step Careful (commandServer 10000) publisherLeaves := by decide +kernel
  have hclosed : (firstConnection, .closed) ∈
      (Run.run step (commandServer 10000) publisherLeaves).trace := by
    decide +kernel
  unfold commandServer at halong hclosed ⊢
  have hfinal := teardown_is_final 1 _ _ _ _ publisherLeaves halong firstConnection hclosed
  exact ⟨halong, hclosed, hfinal.2.1⟩

/-- The answer of the handshake leaves no room for the announcement of the chunk
size, which therefore closes the connection while its session is being
installed.  The session is installed all the same, and the `publish` command
behind the handshake is dispatched and registers a connection that is gone. -/
theorem hastyPublisher_registers_closed :
    let s := Run.run step (commandServer 3080) hastyPublisher
    s.todo.length = 0 ∧ (firstConnection, .closed) ∈ s.trace.take 4 ∧ (∃ event ∈ s.trace.drop 4,
        event.1 = firstConnection ∧ event.2.isUse) ∧
      (s.world.registry.lookup (textBytes "cam")).map (·.connectionId) = some firstConnection := by
  decide +kernel

end Server

end RtmpCore.Net
