import RtmpCore.Net.Standing

/-!
# Reactions keep a connection in good standing

One lemma per task and per input: the tasks it leaves for its connection, put
before those that were to come after it, are again ones that the connection may
have.  With it goes what the reaction does to the world around the connection.

A write that overflows and a decoder that fails start a close wherever they happen.
`takesTask` leaves only the writes that meet a connection of which nothing is left to
be done.
-/

namespace RtmpCore.Net

open Chunk Live Auth List Option

namespace PeerEvent

def isEnd : PeerEvent → Bool
  | released _ | closed => true
  | _ => false

/-- A message of the connection is dispatched, or bytes are queued on it. -/
def isUse : PeerEvent → Bool
  | dispatched _ | queued _ => true
  | _ => false

end PeerEvent

/-- What a reaction does to the command session fits the list of sessions: a
new session is not on it, one that is given a message is and stays on it, and
one that is closed leaves it. -/
def WorldCall.Fits (before after : Bool) : WorldCall → Prop
  | .create _ => before = false ∧ after = false
  | .message .. => before ∧ after
  | .close _ => before ∧ after = false

/-- A reaction of a connection in good standing, when the tasks in `rest` are
still to come. -/
structure Reaction.Allowed (peer : Peer) (rest : List PeerTask) (reaction : Reaction) : Prop where
  standing : reaction.peer.status.Standing (vital reaction.calls ++ rest)
  coherent : reaction.peer.status.Coherent
  orderly : ∀ t ∈ reaction.calls.tail, t.rushes = false
  orderly_world : reaction.world.isSome → ∀ t ∈ reaction.calls, t.rushes = false
  clientIp : reaction.peer.tcp.clientIp = peer.tcp.clientIp
  registered : reaction.peer.registered = (peer.registered && !reaction.releases)
  released : reaction.releases → peer.registered
  ends : reaction.news.filter PeerEvent.isEnd =
    if reaction.releases then [.released peer.tcp.clientIp, .closed] else []
  uses : ∀ event ∈ reaction.news, event.isUse → reaction.peer.registered
  world : ∀ call, reaction.world = some call →
    call.Fits peer.sessionListed reaction.peer.sessionListed
  listed : reaction.world = none → peer.sessionListed → reaction.peer.sessionListed

namespace Peer

variable {peer : Peer} {rest : List PeerTask}

variable {peer' : Peer} {calls : List PeerTask}

theorem allowed_calls (hstd : peer'.status.Standing (vital calls ++ rest))
    (hcoh : peer'.status.Coherent) (hord : ∀ t ∈ calls.tail, t.rushes = false)
    (hip : peer'.tcp.clientIp = peer.tcp.clientIp) (hreg : peer'.registered = peer.registered)
    (hlist : peer.sessionListed → peer'.sessionListed) :
    Reaction.Allowed peer rest { peer := peer', calls } where
  standing := hstd
  coherent := hcoh
  orderly := hord
  orderly_world h := by cases h
  clientIp := hip
  registered := by simp [hreg]
  released h := by cases h
  ends := rfl
  uses := by simp
  world _ h := by cases h
  listed _ := hlist

theorem allowed_inert (hstat : peer'.status = peer.status) (hcalls : ∀ t ∈ calls, t.isVital = false)
    (hip : peer'.tcp.clientIp = peer.tcp.clientIp) (hstd : peer.status.Standing rest)
    (hcoh : peer.status.Coherent) : Reaction.Allowed peer rest { peer := peer', calls } := by
  apply allowed_calls
  · rw [hstat, vital_of_inert hcalls]
    exact hstd
  · rw [hstat]
    exact hcoh
  · exact fun t ht => PeerTask.rushes_of_not_vital (hcalls t (mem_of_mem_tail ht))
  · exact hip
  · exact congrArg Status.registered hstat
  · exact fun h => (congrArg Status.listed hstat).trans h

theorem allowed_same (hstd : peer.status.Standing rest) (hcoh : peer.status.Coherent) :
    Reaction.Allowed peer rest { peer } :=
  allowed_inert rfl (by simp) rfl hstd hcoh

theorem allowed_feeds (hstat : peer'.status = peer.status) (hcalls : ∀ t ∈ calls, t.feeds)
    (hip : peer'.tcp.clientIp = peer.tcp.clientIp) (hrest : ∀ t ∈ rest, t.feeds)
    (hstage : peer.status.AtWork) (hcoh : peer.status.Coherent) :
    Reaction.Allowed peer rest { peer := peer', calls } := by
  apply allowed_calls
  · rw [hstat, vital_of_feeds hcalls]
    refine .feeding _ ?_ hstage
    intro t ht
    rcases mem_append.mp ht with ht | ht
    · exact hcalls t ht
    · exact hrest t ht
  · rw [hstat]
    exact hcoh
  · exact fun t ht => PeerTask.rushes_of_feeds (hcalls t (mem_of_mem_tail ht))
  · exact hip
  · exact congrArg Status.registered hstat
  · exact fun h => (congrArg Status.listed hstat).trans h

theorem allowed_closing (hcoh : peer'.status.Coherent)
    (hip : peer'.tcp.clientIp = peer.tcp.clientIp) (hreg : peer.registered)
    (hsame : peer'.registered = peer.registered)
    (hlist : peer'.sessionListed = peer.sessionListed) :
    Reaction.Allowed peer [] { peer := peer', calls := [.closeConnection] } :=
  allowed_calls (.closing _ rfl (hsame.trans hreg)) hcoh (by simp) hip hsame fun h => hlist.trans h

theorem allowed_withSession {f : RtmpConnectionSession → Reaction}
    (hstd : peer.status.Standing rest) (hcoh : peer.status.Coherent)
    (h : ∀ sess, peer.session = some sess → (f sess).Allowed peer rest) :
    (peer.withSession f).Allowed peer rest := by
  unfold withSession
  cases hses : peer.session with
  | none => exact allowed_same hstd hcoh
  | some sess => exact h sess hses

/-! ## Writing -/

/-- A write finds room in the queue.  If it does not, it is the answer of the
handshake, and the bytes at hand do not also complete the handshake. -/
def takes (peer : Peer) (bytes : Bytes) (rest : List PeerTask) : Bool :=
  peer.tcp.isGoing || !peer.tcp.overflows bytes.length || (peer.session.isNone && rest.isEmpty)

theorem registered_of_not_going (hcoh : peer.status.Coherent)
    (hgoing : peer.tcp.isGoing = false) : peer.registered := by
  by_contra hgone
  have hcl : peer.tcp.state = .closed := (hcoh.gone (Bool.eq_false_iff.mpr hgone)).1
  simp [TcpConnection.isGoing, hcl] at hgoing

theorem allowed_close (hreg : peer.registered)
    (hcoh : peer.status.Coherent) : peer.close.Allowed peer [] := by
  unfold close
  split
  · exact allowed_same .idle hcoh
  · refine allowed_closing ?_ rfl hreg rfl rfl
    exact
      { gone := fun hgone => absurd hreg (Bool.eq_false_iff.mp hgone)
        listed := hcoh.listed
        receives := hcoh.receives }

theorem allowed_asyncWrite {bytes : Bytes} (htakes : peer.takes bytes rest)
    (hstd : peer.status.Standing rest) (hcoh : peer.status.Coherent) :
    (peer.asyncWrite bytes).Allowed peer rest := by
  unfold asyncWrite
  split_ifs with hgoing hfull
  · exact allowed_same hstd hcoh
  · have hstill : peer.tcp.isGoing = false := Bool.eq_false_iff.mpr hgoing
    simp only [takes, hstill, hfull, Bool.not_true,
      Bool.false_or, Bool.and_eq_true, List.isEmpty_iff] at htakes
    obtain ⟨-, rfl⟩ := htakes
    exact allowed_close (registered_of_not_going hcoh hstill) hcoh
  · have hreg := registered_of_not_going hcoh (Bool.eq_false_iff.mpr hgoing)
    exact { allowed_same hstd hcoh with ends := rfl, uses := fun _ _ _ => hreg }

section Sends

variable (hstd : peer.status.Standing rest) (hcoh : peer.status.Coherent)
include hstd hcoh

theorem allowed_sendEncoded (msg : RtmpMessage) : (peer.sendEncoded msg).Allowed peer rest := by
  apply allowed_withSession hstd hcoh
  intro sess hses
  split
  · exact allowed_same hstd hcoh
  · exact allowed_inert (status_setSession hses rfl rfl) (by simp [PeerTask.isVital]) rfl hstd hcoh

theorem allowed_sendEncodedMedia (frame : SharedMediaFrame) (chunkStreamId m : UInt32) :
    (peer.sendEncodedMedia frame chunkStreamId m).Allowed peer
      rest := by
  apply allowed_withSession hstd hcoh
  intro sess hses
  split
  · exact allowed_same hstd hcoh
  · exact allowed_inert rfl (by simp [PeerTask.isVital]) rfl hstd hcoh

theorem allowed_flushPendingAcknowledgement :
    peer.flushPendingAcknowledgement.Allowed peer rest := by
  apply allowed_withSession hstd hcoh
  intro sess hses
  cases sess.dueAcknowledgement with
  | none => exact allowed_same hstd hcoh
  | some msg =>
    exact allowed_inert (status_setSession hses rfl rfl) (by simp [PeerTask.isVital]) rfl hstd hcoh

end Sends

/-! ## The handshake and the session after it -/

theorem flags_start (sess : RtmpConnectionSession) : sess.start.1.failed = sess.failed ∧
      sess.start.1.closed = sess.closed := by
  unfold RtmpConnectionSession.start
  split <;> exact ⟨rfl, rfl⟩

theorem allowed_handshakeComplete (cfg : ServerConfig)
    (hstd : peer.status.Standing (.handshakeComplete :: rest)) (hcoh : peer.status.Coherent) :
    (peer.handshakeComplete cfg).Allowed peer rest := by
  obtain ⟨rfl, hreg, hrec⟩ := hstd.of_handshakeComplete
  have hunl : peer.sessionListed = false := by
    by_contra hlist
    have hyes := (hcoh.listed (Bool.not_eq_false _ ▸ hlist)).1
    rw [hrec] at hyes
    cases hyes
  have hflags := flags_start (RtmpConnectionSession.create
    cfg.maximumRtmpMessageSize cfg.outputChunkSize)
  unfold handshakeComplete
  generalize (RtmpConnectionSession.create cfg.maximumRtmpMessageSize
    cfg.outputChunkSize).start = started at hflags
  obtain ⟨sess, written⟩ := started
  obtain ⟨hfail, hcl⟩ := hflags
  have hcalls : vital ((written.map PeerTask.write).toList ++
      [.installSession peer.handshake.buffer]) = [.installSession peer.handshake.buffer] := by
    cases written <;> rfl
  have hord : ∀ t ∈ (written.map PeerTask.write).toList ++
      [.installSession peer.handshake.buffer], t.rushes = false := by
    cases written <;> simp [PeerTask.rushes]
  have hnew : ∀ session' : RtmpConnectionSession,
      session'.failed = false → session'.closed = false →
        (some session').map (fun sess => (sess.failed, sess.closed)) = some (false, false) := by
    intro session' h h'
    simp [h, h']
  exact
    { standing := by
        rw [hcalls]
        exact .installing _ hreg (hnew sess hfail hcl)
      coherent :=
        { gone := fun hgone => absurd hreg (Bool.eq_false_iff.mp hgone)
          listed := fun hyes => absurd hyes (Bool.eq_false_iff.mp hunl)
          receives := fun hyes => absurd hyes (Bool.eq_false_iff.mp hrec) }
      orderly := fun t ht => hord t (mem_of_mem_tail ht)
      orderly_world := fun _ => hord
      clientIp := rfl
      registered := by simp
      released := by simp
      ends := rfl
      uses := by simp
      world := by
        rintro _ ⟨⟩
        exact ⟨hunl, hunl⟩
      listed := by simp }

theorem allowed_handshakeFailed (hstd : peer.status.Standing (.handshakeFailed :: rest))
    (hcoh : peer.status.Coherent) : peer.handshakeFailed.Allowed peer rest := by
  obtain ⟨rfl, hreg⟩ := hstd.of_rushes rfl
  exact allowed_closing hcoh rfl hreg rfl rfl

theorem allowed_feed (data : Bytes) (hreg : peer.registered)
    (hlist : ∀ sess, peer.session = some sess → sess.closed = false → peer.sessionListed)
    (hcoh : peer.status.Coherent) : (peer.feed data).Allowed peer [] := by
  apply allowed_withSession .idle hcoh
  intro sess hses
  split_ifs with hmute hfail
  · exact allowed_same .idle hcoh
  all_goals
    simp only [RtmpConnectionSession.isMute, Bool.or_eq_true, not_or, Bool.not_eq_true] at hmute
    obtain ⟨⟨hunfailed, huncl⟩, -⟩ := hmute
    have hatWork : peer.status.AtWork :=
      ⟨hreg, hlist sess hses huncl, by rw [flags_of_session hses, hunfailed, huncl]⟩
  · exact allowed_feeds rfl (by simp [PeerTask.feeds]) rfl (by simp) hatWork hcoh
  · exact allowed_feeds (status_setSession hses rfl rfl)
      (by simp [PeerTask.feeds]) rfl (by simp) hatWork hcoh

theorem world_feed (data : Bytes) : (peer.feed data).world = none := by
  unfold feed withSession
  cases peer.session with
  | none => rfl
  | some sess =>
    dsimp only [elim_some]
    split_ifs <;> rfl

theorem allowed_installSession {trailing : Bytes}
    (hstd : peer.status.Standing (.installSession trailing :: rest)) :
    (peer.installSession trailing).Allowed peer rest := by
  obtain ⟨rfl, hreg, hflags⟩ := hstd.of_installSession
  let installed : Peer := { peer with receivesSession := true, sessionListed := true }
  have hcoh : installed.status.Coherent :=
    { gone := fun hgone => absurd hreg (Bool.eq_false_iff.mp hgone)
      listed := fun _ => ⟨rfl, false, hflags⟩
      receives := fun _ hno => by cases hno }
  have hfed : (peer.installSession trailing).Allowed installed [] :=
    installed.allowed_feed trailing hreg (fun _ _ _ => rfl) hcoh
  exact
    { hfed with
      world := fun call hcall => by
        rw [installSession, world_feed] at hcall
        cases hcall
      listed := fun hnone _ => hfed.listed hnone rfl }

theorem allowed_afterHandshake {moved : HandshakeSession × List HandshakeCall}
    (hcalls : HandshakeSession.Calls moved.2) (hreg : peer.registered)
    (hrec : .complete ∈ moved.2 → peer.receivesSession = false) (hcoh : peer.status.Coherent) :
    (peer.afterHandshake moved).Allowed peer [] := by
  obtain ⟨handshake, calls⟩ := moved
  refine allowed_calls ?_ hcoh ?_ rfl rfl id
  · cases hcalls with
    | none | sent => exact .idle
    | failed error => exact .closing _ rfl hreg
    | completed | both => exact .completing hreg (hrec (by simp))
  · cases hcalls <;> simp [handshakeTask, PeerTask.rushes]

theorem allowed_receive (data : Bytes) (hello : ServerHello)
    (hreg : peer.registered) (hcoh : peer.status.Coherent) :
    (peer.receive data hello).Allowed peer [] := by
  unfold receive
  split_ifs with hrec
  · refine allowed_feed data hreg ?_ hcoh
    intro sess hses huncl
    by_contra hunl
    obtain ⟨failed, hflags⟩ := hcoh.receives hrec (Bool.eq_false_iff.mpr hunl)
    rw [flags_of_session hses, huncl] at hflags
    cases hflags
  · exact allowed_afterHandshake (HandshakeSession.calls_onBytesReceived hello _ data) hreg
      (fun _ => Bool.eq_false_iff.mpr hrec) hcoh

/-! ## Decoding -/

theorem feeds_decoderTask (ev : DecoderEvent) : (decoderTask ev).feeds := by
  cases ev <;> rfl

theorem allowed_decode {rounds : ℕ} (hstd : peer.status.Standing (.decode rounds :: rest))
    (hcoh : peer.status.Coherent) : (peer.decode rounds).Allowed peer rest := by
  obtain ⟨hrest, hstage⟩ := hstd.of_feeds rfl
  cases rounds with
  | zero => exact allowed_same (.feeding rest hrest hstage) hcoh
  | succ rounds =>
    apply allowed_withSession (.feeding rest hrest hstage) hcoh
    intro sess hses
    refine allowed_feeds (status_setSession hses rfl rfl) ?_ rfl hrest hstage hcoh
    intro t ht
    rcases mem_append.mp ht with ht | ht
    · obtain ⟨ev, -, rfl⟩ := mem_map.mp ht
      exact feeds_decoderTask ev
    · split at ht
      · obtain rfl := mem_singleton.mp ht
        rfl
      · cases ht

theorem allowed_checkDecoder (hsound : peer.session.any (·.decoder.state.failed) = false)
    (hstd : peer.status.Standing (.checkDecoder :: rest)) (hcoh : peer.status.Coherent) :
    peer.checkDecoder.Allowed peer rest := by
  obtain ⟨hrest, hstage⟩ := hstd.of_feeds rfl
  apply allowed_withSession (.feeding rest hrest hstage) hcoh
  intro sess hses
  rw [hses, any_some] at hsound
  rw [hsound, if_neg Bool.false_ne_true]
  exact allowed_same (.feeding rest hrest hstage) hcoh

theorem allowed_handleDecodedMessage {msg : RtmpMessage} (answers : Answers)
    (hstd : peer.status.Standing (.handleDecodedMessage msg :: rest))
    (hcoh : peer.status.Coherent) : (peer.handleDecodedMessage msg answers).Allowed peer rest := by
  obtain ⟨hrest, hstage⟩ := hstd.of_feeds rfl
  apply allowed_withSession (.feeding rest hrest hstage) hcoh
  intro sess hses
  split_ifs with hfail
  · exact allowed_same (.feeding rest hrest hstage) hcoh
  cases handlingOf msg with
  | userControl =>
    refine allowed_inert rfl ?_ rfl (.feeding rest hrest hstage) hcoh
    cases handleUserControl msg <;> simp [PeerTask.isVital]
  | ignore => exact allowed_same (.feeding rest hrest hstage) hcoh
  | command =>
    exact
      { allowed_same (.feeding rest hrest hstage) hcoh with
        orderly_world := by simp [PeerTask.rushes]
        uses := fun _ _ _ => hstage.registered
        world := by
          rintro _ ⟨⟩
          exact ⟨hstage.listed, hstage.listed⟩
        listed := by simp }

/-! ## Closing -/

/-- A connection whose session is off the list, because it has been closed or
because there was none. -/
theorem coherent_leaving {status : Status} (hreg : status.registered)
    (hlist : status.listed = false)
    (hrec : status.receives → ∃ failed, status.flags = some (failed, true)) : status.Coherent where
  gone hgone := absurd hreg (Bool.eq_false_iff.mp hgone)
  listed hyes := absurd hyes (Bool.eq_false_iff.mp hlist)
  receives hreceived _ := hrec hreceived

theorem allowed_closeConnection (order : List UInt32)
    (hstd : peer.status.Standing (.closeConnection :: rest)) (hcoh : peer.status.Coherent) :
    (peer.closeConnection order).Allowed peer rest := by
  obtain ⟨rfl, hreg⟩ := hstd.of_rushes rfl
  -- only the connection is closed: its session is closed already, if any
  have hbare : peer.sessionListed = false → Reaction.Allowed peer []
        { peer := peer.leaving, calls := [.finishClose] } := by
    intro hunl
    refine allowed_calls (.finishing hreg rfl) ?_ (by simp)
      rfl rfl fun hlist => absurd hlist (Bool.eq_false_iff.mp hunl)
    exact coherent_leaving hreg rfl fun hrec => hcoh.receives hrec hunl
  unfold closeConnection
  cases hlist : peer.sessionListed with
  | false =>
    cases hses : peer.session with
    | none | some => exact hbare hlist
  | true =>
    obtain ⟨-, failed, hflags⟩ := hcoh.listed hlist
    obtain ⟨sess, hses, hpair⟩ := map_eq_some_iff.mp hflags
    have huncl : sess.closed = false := congrArg Prod.snd hpair
    have hnot : ¬(true = false ∨ sess.closed = true) := by simp [huncl]
    rw [hses, elim_some, if_neg hnot]
    exact
      { standing := .finishing hreg rfl
        coherent := coherent_leaving hreg rfl fun _ => ⟨_, rfl⟩
        orderly := by simp
        orderly_world := by simp [PeerTask.rushes]
        clientIp := rfl
        registered := by simp [setSession, leaving]
        released := by simp
        ends := rfl
        uses := by simp
        world := by
          rintro _ ⟨⟩
          exact ⟨hlist, rfl⟩
        listed := by simp }

theorem allowed_finishClose (hstd : peer.status.Standing (.finishClose :: rest))
    (hcoh : peer.status.Coherent) : peer.finishClose.Allowed peer rest := by
  obtain ⟨rfl, hreg, hunl⟩ := hstd.of_finishClose
  exact
    { standing := .idle
      coherent := { gone := fun _ => ⟨rfl, hunl⟩, listed := hcoh.listed, receives := hcoh.receives }
      orderly := by simp [finishClose]
      orderly_world := by simp [finishClose]
      clientIp := rfl
      registered := by simp [finishClose]
      released := fun _ => hreg
      ends := rfl
      uses := by simp [finishClose, PeerEvent.isUse]
      world := by simp [finishClose]
      listed := fun _ h => h }

/-! ## Tasks and inputs -/

/-- The task is not a write that overflows where it must not, and not the failure of a
decoder: both would destroy a session inside a call of its own. -/
def takesTask (peer : Peer) (rest : List PeerTask) : PeerTask → Bool
  | .write bytes => peer.takes bytes rest
  | .handleDecodeError => !peer.sessionListed
  | .checkDecoder => !(peer.sessionListed && peer.session.any (·.decoder.state.failed))
  | _ => true

theorem allowed_perTask (cfg : ServerConfig) (answers : Answers)
    (order : List UInt32) {task : PeerTask} (htakes : peer.takesTask rest task)
    (hstd : peer.status.Standing (vital [task] ++ rest)) (hcoh : peer.status.Coherent) :
    (peer.perTask cfg answers order task).Allowed peer rest := by
  cases task with
  | write bytes => exact allowed_asyncWrite htakes hstd hcoh
  | send msg => exact allowed_sendEncoded hstd hcoh msg
  | sendMedia frame chunkStreamId m =>
    exact allowed_sendEncodedMedia hstd hcoh frame chunkStreamId m
  | handshakeComplete => exact allowed_handshakeComplete cfg hstd hcoh
  | handshakeFailed => exact allowed_handshakeFailed hstd hcoh
  | installSession trailing => exact allowed_installSession hstd
  | decode rounds => exact allowed_decode hstd hcoh
  | handleDecodedMessage msg => exact allowed_handleDecodedMessage answers hstd hcoh
  | flushPendingAcknowledgement => exact allowed_flushPendingAcknowledgement hstd hcoh
  | handleDecodeError =>
    have hlist : peer.sessionListed = true := (hstd.of_feeds rfl).2.listed
    simp [takesTask, hlist] at htakes
  | checkDecoder =>
    have hlist : peer.sessionListed = true := (hstd.of_feeds rfl).2.listed
    exact allowed_checkDecoder (by simpa [takesTask, hlist] using htakes) hstd hcoh
  | closeConnection => exact allowed_closeConnection order hstd hcoh
  | finishClose => exact allowed_finishClose hstd hcoh

theorem state_onSendCompletion (tcp : TcpConnection) (bytesSent : ℕ) (success : Bool) :
    (tcp.onSendCompletion bytesSent success).state = tcp.state ∧
      (tcp.onSendCompletion bytesSent success).clientIp = tcp.clientIp := by
  unfold TcpConnection.onSendCompletion
  dsimp only
  split
  · split_ifs <;> exact ⟨rfl, rfl⟩
  · split_ifs <;> exact ⟨rfl, rfl⟩

theorem status_sent (bytesSent : ℕ) (success : Bool) :
    status { peer with tcp := peer.tcp.onSendCompletion bytesSent success } = peer.status := by
  simp [status, state_onSendCompletion]

theorem world_onInput (input : PeerInput) : (peer.onInput input).world = none := by
  cases input <;> dsimp only [onInput]
  case received data hello =>
    split
    · unfold receive
      split
      · exact world_feed data
      · rfl
    · rfl
  case idleTimeout => split <;> rfl
  case handshakeTimeout => split <;> rfl
  case shutdown =>
    unfold close
    split <;> rfl

theorem allowed_onInput (input : PeerInput) (hreg : peer.registered)
    (hcoh : peer.status.Coherent) : (peer.onInput input).Allowed peer [] := by
  cases input with
  | received data hello =>
    dsimp only [onInput]
    split
    · exact allowed_receive data hello hreg hcoh
    · exact allowed_same .idle hcoh
  | receiveFailed => exact allowed_closing hcoh rfl hreg rfl rfl
  | sent bytesSent =>
    exact allowed_inert (status_sent bytesSent true) (by simp)
      (state_onSendCompletion _ _ _).2 .idle hcoh
  | sendFailed =>
    refine allowed_closing ?_ (state_onSendCompletion _ _ _).2 hreg rfl rfl
    rw [status_sent]
    exact hcoh
  | idleTimeout =>
    dsimp only [onInput]
    split
    · exact allowed_closing hcoh rfl hreg rfl rfl
    · exact allowed_same .idle hcoh
  | handshakeTimeout =>
    dsimp only [onInput]
    split
    · refine allowed_afterHandshake (HandshakeSession.calls_onTimeout _) hreg ?_ hcoh
      unfold HandshakeSession.onTimeout
      split <;> simp
    · exact allowed_same .idle hcoh
  | shutdown => exact allowed_close hreg hcoh

end Peer

end RtmpCore.Net
