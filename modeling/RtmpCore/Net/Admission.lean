import RtmpCore.Net.Runs

/-!
# Admission by address

The authenticator counts the connections of each address.  A connection is
counted when it is admitted and taken off when it is closed, so the count is
that of the connections the registry has, as long as no connection is closed
twice.

`close_connection` releases the address whenever it is called.  A write that
overflows calls it in the middle of whatever the connection is doing, and what
goes on after it may call it again.  So does a decoder that fails, from inside the
session that is destroyed by the close; runs with such a failure are left out.
-/

namespace RtmpCore.Net

open Chunk Live Auth List Function AList RtmpAuthenticator Table

def PeerEvent.isRelease : PeerEvent → Bool
  | released _ => true
  | _ => false

namespace Server

variable {n : ℕ}

/-- The connections of an address that the registry has. -/
def registeredFrom (s : Server n) (clientIp : Bytes) : ℕ :=
  Table.total (fun peer : Peer =>
      if peer.registered ∧ peer.tcp.clientIp = clientIp then 1 else 0) s.peers

/-- How often the address of a connection was released for it. -/
def releases (s : Server n) (connection : UInt64) : ℕ :=
  s.trace.countP fun event => event.1 = connection ∧ event.2.isRelease

/-- The authenticator's counts are those of the registry, and every connection
that has left it was released once. -/
structure Counted (limits : AuthenticatorLimits) (s : Server n) : Prop where
  sameLimits : s.authenticator.limits = limits
  counted : ∀ clientIp, clientIp ≠ [] →
    s.authenticator.connectionsPerIp.amount clientIp = s.registeredFrom clientIp
  bounded : ∀ clientIp, clientIp ≠ [] → s.authenticator.connectionsPerIp.amount clientIp ≤
      limits.maxConnectionsPerIp.toNat
  released : ∀ {connection peer}, s.peers.lookup connection = some peer →
    s.releases connection = if peer.registered then 0 else 1
  unreleased : ∀ {connection}, s.peers.lookup connection = none → s.releases connection = 0
  known : ∀ {connection clientIp}, (connection, .admitted clientIp) ∈ s.trace →
    (s.peers.lookup connection).isSome

namespace Counted

variable {limits : AuthenticatorLimits} {s : Server n}

theorem refuse {clientIp : Bytes} {authenticator : RtmpAuthenticator} (h : s.Counted limits)
    (href : s.authenticator.admitConnection clientIp = (authenticator, false)) :
    Counted limits { s with authenticator } := by
  obtain ⟨hlims, ham⟩ := amount_of_refused href
  exact
    { h with
      sameLimits := hlims.trans h.sameLimits
      counted := fun ip hip => (congrFun ham ip).trans (h.counted ip hip)
      bounded := fun ip hip => (congrFun ham ip).trans_le (h.bounded ip hip) }

variable {s' : Server n} {conn : UInt64} {peer : Peer} {rest : List PeerTask} {reaction : Reaction}

/-- Events of one connection are added, with the releases among them that it has
to have. -/
theorem extend {news : List PeerEvent} (h : s.Counted limits)
    (hpeers : s'.peers = s.peers.insert conn peer)
    (htr : s'.trace = s.trace ++ news.map (Prod.mk conn))
    (hlims : s'.authenticator.limits = s.authenticator.limits)
    (hcounted : ∀ ip, ip ≠ [] → s'.authenticator.connectionsPerIp.amount ip =
      s'.registeredFrom ip ∧ s'.registeredFrom ip ≤ limits.maxConnectionsPerIp.toNat)
    (hrels : s.releases conn + news.countP PeerEvent.isRelease =
      if peer.registered then 0 else 1) : s'.Counted limits := by
  have hself : s'.releases conn = if peer.registered then 0 else 1 := by
    rw [← hrels, releases, htr, countP_append, countP_map]
    simp [releases, comp_def]
  have hother : ∀ {other}, other ≠ conn → s'.releases other = s.releases other := by
    intro other hne
    simp [releases, htr, countP_append, countP_map, comp_def, hne.symm]
  refine ⟨hlims.trans h.sameLimits, fun ip hip => (hcounted ip hip).1,
    fun ip hip => (hcounted ip hip).1.trans_le (hcounted ip hip).2, ?_, ?_, ?_⟩
  all_goals
    intro other
    rw [hpeers]
    rcases eq_or_ne other conn with rfl | hne
  · rintro peer' hpeer'
    rw [lookup_insert] at hpeer'
    rw [hself, Option.some.inj hpeer']
  · rw [lookup_insert_ne hne, hother hne]
    exact h.released
  · simp
  · rw [lookup_insert_ne hne, hother hne]
    exact h.unreleased
  · simp
  · intro ip hmem
    rw [lookup_insert_ne hne]
    rw [htr, mem_append] at hmem
    refine h.known (hmem.resolve_right fun hnew => ?_)
    obtain ⟨ev, -, heq⟩ := mem_map.mp hnew
    exact hne (Prod.mk.inj heq).1.symm

theorem admitted (h : s.Counted limits)
    (hadm : s.authenticator.admitConnection peer.tcp.clientIp = (s'.authenticator, true))
    (hfsh : s.peers.lookup conn = none) (hreg : peer.registered)
    (hpeers : s'.peers = s.peers.insert conn peer)
    (htr : s'.trace = s.trace ++ [(conn, .admitted peer.tcp.clientIp)]) : s'.Counted limits := by
  have hfrom : ∀ ip, s'.registeredFrom ip = s.registeredFrom ip +
      if peer.tcp.clientIp = ip then 1 else 0 := by
    intro ip
    rw [registeredFrom, hpeers, total_insert_new _ hfsh, add_comm]
    simp [hreg, registeredFrom]
  have ham : ∀ ip, ip ≠ [] → s'.authenticator.connectionsPerIp.amount ip =
        s.authenticator.connectionsPerIp.amount ip + if peer.tcp.clientIp = ip then 1 else 0 := by
    intro ip hip
    by_cases hunk : peer.tcp.clientIp = []
    · rw [hunk] at hadm
      rw [eq_of_admitted_unknown hadm, hunk, if_neg hip.symm, add_zero]
    · obtain ⟨-, -, hcnts⟩ := amount_of_admitted hunk hadm
      rw [hcnts]
      rcases eq_or_ne ip peer.tcp.clientIp with rfl | hne
      · simp
      · simp [hne, hne.symm]
  refine h.extend hpeers
    (htr.trans rfl : s'.trace = s.trace ++ [PeerEvent.admitted _].map _) ?_ ?_ ?_
  · by_cases hunk : peer.tcp.clientIp = []
    · rw [hunk] at hadm
      rw [eq_of_admitted_unknown hadm]
    · rw [(amount_of_admitted hunk hadm).1]
  · intro ip hip
    have heq := ham ip hip
    rw [h.counted ip hip, ← hfrom] at heq
    refine ⟨heq, heq ▸ ?_⟩
    rw [ham ip hip]
    split_ifs with hsame
    · obtain ⟨-, hroom, -⟩ := amount_of_admitted (fun hunk => hip (hsame.symm.trans hunk)) hadm
      rw [h.sameLimits, hsame] at hroom
      exact hroom
    · exact h.bounded ip hip
  · rw [h.unreleased hfsh, if_pos hreg]
    rfl

theorem countP_news (hallow : reaction.Allowed peer rest) :
    reaction.news.countP PeerEvent.isRelease = if reaction.releases then 1 else 0 := by
  have hends : reaction.news.countP PeerEvent.isRelease =
      (reaction.news.filter PeerEvent.isEnd).countP PeerEvent.isRelease := by
    rw [countP_filter]
    refine countP_congr fun ev _ => ?_
    cases ev <;> simp [PeerEvent.isRelease, PeerEvent.isEnd]
  rw [hends, hallow.ends]
  split_ifs <;> rfl

/-- The connections of an address after a reaction, with the one that may have
left. -/
theorem registeredFrom_react (hpeer : s.peers.lookup conn = some peer)
    (hallow : reaction.Allowed peer rest) (ip : Bytes) : (s.react conn reaction).registeredFrom ip +
        (if reaction.releases ∧ peer.tcp.clientIp = ip then 1 else 0) =
      s.registeredFrom ip := by
  have htot := total_insert_old (fun peer : Peer =>
      if peer.registered ∧ peer.tcp.clientIp = ip then 1 else 0)
    (v := reaction.peer) hpeer
  have hreg := hallow.registered
  rw [hallow.clientIp, hreg] at htot
  rw [registeredFrom, peers_react]
  unfold registeredFrom
  cases hrel : reaction.releases with
  | false =>
    simp only [hrel, Bool.not_false, Bool.and_true] at htot
    simp only [Bool.false_eq_true, false_and, if_false]
    omega
  | true =>
    have hyes := hallow.released hrel
    simp only [hrel, hyes, Bool.not_true, Bool.and_false,
      Bool.false_eq_true, false_and, if_false, true_and] at htot
    simp only [true_and]
    omega

theorem react (h : s.Counted limits) (hpeer : s.peers.lookup conn = some peer)
    (hallow : reaction.Allowed peer rest) : (s.react conn reaction).Counted limits := by
  have hfrom := registeredFrom_react hpeer hallow
  have hip : reaction.peer.tcp.clientIp = peer.tcp.clientIp := hallow.clientIp
  -- the count of an address goes down with the connection that leaves
  have ham : ∀ ip, ip ≠ [] → (s.react conn reaction).authenticator.connectionsPerIp.amount ip +
        (if reaction.releases ∧ peer.tcp.clientIp = ip then 1 else 0) =
      s.authenticator.connectionsPerIp.amount ip := by
    intro ip hkn
    rw [authenticator_react, hip]
    cases hrel : reaction.releases with
    | false => simp
    | true =>
      rw [if_pos rfl]
      by_cases hunk : peer.tcp.clientIp = []
      · rw [hunk]
        simp [RtmpAuthenticator.releaseConnection, hkn.symm]
      · have hself := hfrom peer.tcp.clientIp
        rw [hrel] at hself
        simp only [true_and, if_true] at hself
        have hcnt := h.counted peer.tcp.clientIp hunk
        have hpos : 0 < s.authenticator.connectionsPerIp.amount
            peer.tcp.clientIp := by omega
        rw [amount_releaseConnection hunk hpos]
        rcases eq_or_ne ip peer.tcp.clientIp with rfl | hne
        · simp only [update_self, true_and, if_true]
          omega
        · simp [hne, hne.symm]
  refine h.extend (s.peers_react conn reaction) (s.trace_react conn reaction) ?_ ?_ ?_
  · rw [authenticator_react]
    split_ifs
    · exact limits_releaseConnection ..
    · rfl
  · intro ip hkn
    have h₁ := ham ip hkn
    have h₂ := hfrom ip
    have h₃ := h.counted ip hkn
    have h₄ := h.bounded ip hkn
    omega
  · rw [h.released hpeer, countP_news hallow, hallow.registered]
    cases hrel : reaction.releases with
    | false => simp
    | true => simp [hallow.released hrel]

theorem steps {act : Option Action} (h : s.Counted limits)
    (hsteps : s.Steps act s') : s'.Counted limits := by
  cases hsteps with
  | stay => exact h
  | pass | drain | replay => exact { h with }
  | react conn peer reaction rest hpeer _ _ hallow =>
    have hrest : Counted limits { s with todo := rest } := { h with }
    exact hrest.react hpeer hallow
  | refuse ip authenticator href => exact h.refuse href
  | admitted worker ip authenticator hadm hfsh => exact h.admitted hadm hfsh rfl rfl rfl

end Counted

section

variable (n) (config : ServerConfig) (limits : AuthenticatorLimits) (routerLimits : RouterLimits)
  (fanout : ℕ → GopLimits × QueueLimits × ℕ)

theorem counted_initial : (initial n config limits routerLimits fanout).Counted limits where
  sameLimits := rfl
  counted _ _ := rfl
  bounded _ _ := Nat.zero_le _
  released h := by cases h
  unreleased _ := rfl
  known h := by cases h

/-- In every state of a run in which writes overflow only where they may and no decoder
fails, the count of every known address is the number of its connections that the registry
has, it is within the limit, and every connection that was admitted has been
released once if it has left the registry and not at all before. -/
theorem connectionsPerIp_eq_registeredFrom (moves : List Move)
    (h : Run.Along step Undisturbed (initial n config limits routerLimits fanout) moves) :
    let s := Run.run step (initial n config limits routerLimits fanout) moves
    (∀ clientIp, clientIp ≠ [] → s.authenticator.connectionsPerIp.amount clientIp =
          s.registeredFrom clientIp ∧
        s.registeredFrom clientIp ≤ limits.maxConnectionsPerIp.toNat) ∧
    ∀ connection clientIp, (connection, .admitted clientIp) ∈ s.trace →
      ∃ peer, s.peers.lookup connection = some peer ∧
        s.releases connection = if peer.registered then 0 else 1 := by
  obtain ⟨-, hcounted⟩ := Run.run_invariant (fun s : Server n => s.Sound ∧ s.Counted limits) h
    ⟨sound_initial n config limits routerLimits fanout,
      counted_initial n config limits routerLimits fanout⟩
    fun s move hfits ⟨hsound, hcounted⟩ =>
      have hsteps := steps_step hsound hfits
      ⟨hsteps.sound hsound, hcounted.steps hsteps⟩
  constructor
  · intro clientIp hknown
    have heq := hcounted.counted clientIp hknown
    exact ⟨heq, heq ▸ hcounted.bounded clientIp hknown⟩
  · intro connection clientIp hmem
    obtain ⟨peer, hpeer⟩ := Option.isSome_iff_exists.mp (hcounted.known hmem)
    exact ⟨peer, hpeer, hcounted.released hpeer⟩

end

/-- The bytes of a client's part of the handshake. -/
def clientHello : Bytes := kRtmpVersion :: List.replicate kHandshakeChunkSize 0

def clientAck : Bytes := List.replicate kHandshakeChunkSize 0

/-- A server of one worker whose connections may queue `room` bytes. -/
def smallServer (room : ℕ) : Server 1 :=
  initial 1 { subscriberQueueMaxBytes := room - 1, maximumRtmpMessageSize := 1 }
    { maxConnectionsPerIp := 2 } {} fun _ => ({}, {}, 250)

/-- The first connections of the worker. -/
def firstConnection : UInt64 := 0x0100000000000001

def tasks (count : ℕ) : List Move := List.replicate count (.run {} [])

/-- Two connections of one address, of which the first shakes hands, sends a part of a
chunk and leaves. -/
def clientLeaves : List Move :=
  [.event (.accepted 0 [1]), .event (.accepted 0 [1]),
    .event (.input firstConnection (.received (clientHello ++ clientAck) {}))] ++
  tasks 4 ++
  [.event (.input firstConnection (.received [0x03] {}))] ++ tasks 2 ++
  [.event (.input firstConnection .receiveFailed)] ++ tasks 2

theorem connectionsPerIp_clientLeaves :
    let s := Run.run step (smallServer 10000) clientLeaves
    Run.Along step Undisturbed (smallServer 10000) clientLeaves ∧ s.releases firstConnection = 1 ∧
      s.authenticator.connectionsPerIp.amount [1] = s.registeredFrom [1] := by
  have halong : Run.Along step Undisturbed (smallServer 10000) clientLeaves := by decide +kernel
  have hleft : (Run.run step (smallServer 10000) clientLeaves).releases firstConnection = 1 := by
    decide +kernel
  unfold smallServer at halong hleft ⊢
  have hrun := connectionsPerIp_eq_registeredFrom 1 _ _ _ _ clientLeaves halong
  exact ⟨halong, hleft, (hrun.1 [1] (by simp)).1⟩

/-- Two connections of one address, of which the first sends its whole
handshake at once. -/
def eagerClient : List Move :=
  [.event (.accepted 0 [1]), .event (.accepted 0 [1]),
    .event (.input firstConnection (.received (clientHello ++ clientAck) {}))] ++
  tasks 9

/-- The answer of the handshake overflows and closes the connection.  The
handshake is completed all the same, the connection counts as connected again,
and the announcement of the chunk size overflows and closes it once more: the
address is released twice, and its other connection is no longer counted. -/
theorem eagerClient_releases_twice :
    let s := Run.run step (smallServer 2) eagerClient
    s.todo.length = 0 ∧ s.releases firstConnection = 2 ∧
      s.authenticator.connectionsPerIp.amount [1] = 0 ∧
      s.registeredFrom [1] = 1 := by
  decide +kernel

end Server

end RtmpCore.Net
