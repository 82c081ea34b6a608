import RtmpCore.Net.Server

/-!
# How a connection stands

Of what is left to be done in an event, some tasks decide about the life of a
connection: they complete its handshake, install its session, decode its bytes
or close it.  `Standing` says which of them there can be at a time, and what
the connection looks like then.  A connection has at most one close before it,
and nothing after that.
-/

namespace RtmpCore.Net

open Chunk Live Auth List

/-! ## The tasks of a connection -/

namespace PeerTask

/-- The task hands bytes or messages on to the session. -/
def feeds : PeerTask → Bool
  | decode _ | handleDecodedMessage _ | handleDecodeError | checkDecoder => true
  | _ => false

/-- The task is the call of a close, which is made at once. -/
def rushes : PeerTask → Bool
  | handshakeFailed | closeConnection => true
  | _ => false

/-- The task bears on the life of its connection. -/
def isVital : PeerTask → Bool
  | write _ | send _ | sendMedia .. | flushPendingAcknowledgement => false
  | _ => true

variable {task : PeerTask}

theorem isVital_of_feeds (h : task.feeds) : task.isVital := by
  cases task <;> first | rfl | cases h

theorem rushes_of_feeds (h : task.feeds) : task.rushes = false := by
  cases task <;> first | rfl | cases h

theorem rushes_of_not_vital (h : task.isVital = false) : task.rushes = false := by
  cases task <;> first | rfl | cases h

end PeerTask

/-- The tasks among the calls that bear on the life of the connection. -/
def vital (calls : List PeerTask) : List PeerTask := calls.filter PeerTask.isVital

theorem vital_of_inert {calls : List PeerTask}
    (h : ∀ t ∈ calls, t.isVital = false) : vital calls = [] :=
  filter_eq_nil_iff.mpr fun t ht => Bool.eq_false_iff.mp (h t ht)

theorem vital_of_feeds {calls : List PeerTask} (h : ∀ t ∈ calls, t.feeds) : vital calls = calls :=
  filter_eq_self.mpr fun t ht => PeerTask.isVital_of_feeds (h t ht)

/-! ## Standing -/

/-- What of a connection decides about its life.  The flags of its session are
`failed` and `closed`. -/
structure Status where
  registered : Bool
  state : ConnectionState
  listed : Bool
  receives : Bool
  flags : Option (Bool × Bool)

def Peer.status (peer : Peer) : Status where
  registered := peer.registered
  state := peer.tcp.state
  listed := peer.sessionListed
  receives := peer.receivesSession
  flags := peer.session.map fun session => (session.failed, session.closed)

namespace Status

/-- The session is installed and has neither failed nor been closed. -/
structure AtWork (status : Status) : Prop where
  registered : status.registered
  listed : status.listed
  flags : status.flags = some (false, false)

/-- What holds of a connection at all times. -/
structure Coherent (status : Status) : Prop where
  gone : status.registered = false → status.state = .closed ∧ status.listed = false
  listed : status.listed → status.receives ∧ ∃ failed, status.flags = some (failed, false)
  receives : status.receives → status.listed = false → ∃ failed, status.flags = some (failed, true)

/-- The tasks left for a connection. -/
inductive Standing (status : Status) : List PeerTask → Prop where
  | idle : Standing status []
  | completing (registered : status.registered) (receives : status.receives = false) :
      Standing status [.handshakeComplete]
  | installing (trailing : Bytes) (registered : status.registered)
      (flags : status.flags = some (false, false)) :
      Standing status [.installSession trailing]
  | feeding (tasks : List PeerTask) (feeds : ∀ t ∈ tasks, t.feeds)
      (atWork : status.AtWork) : Standing status tasks
  | closing (call : PeerTask) (rushes : call.rushes) (registered : status.registered) :
      Standing status [call]
  | finishing (registered : status.registered) (listed : status.listed = false) :
      Standing status [.finishClose]

variable {status : Status} {rest : List PeerTask}

theorem Standing.of_handshakeComplete (h : status.Standing (.handshakeComplete :: rest)) :
    rest = [] ∧ status.registered ∧ status.receives = false := by
  cases h with
  | completing registered receives => exact ⟨rfl, registered, receives⟩
  | feeding _ feeds => cases feeds _ mem_cons_self
  | closing _ rushes => cases rushes

theorem Standing.of_installSession {trailing : Bytes}
    (h : status.Standing (.installSession trailing :: rest)) :
    rest = [] ∧ status.registered ∧ status.flags = some (false, false) := by
  cases h with
  | installing _ registered flags => exact ⟨rfl, registered, flags⟩
  | feeding _ feeds => cases feeds _ mem_cons_self
  | closing _ rushes => cases rushes

theorem Standing.of_rushes {call : PeerTask} (hcall : call.rushes)
    (h : status.Standing (call :: rest)) : rest = [] ∧ status.registered := by
  cases h with
  | completing | installing | finishing => cases hcall
  | feeding _ feeds =>
    rw [PeerTask.rushes_of_feeds (feeds _ mem_cons_self)] at hcall
    cases hcall
  | closing _ _ registered => exact ⟨rfl, registered⟩

theorem Standing.of_finishClose (h : status.Standing (.finishClose :: rest)) :
    rest = [] ∧ status.registered ∧ status.listed = false := by
  cases h with
  | feeding _ feeds => cases feeds _ mem_cons_self
  | closing _ rushes => cases rushes
  | finishing registered listed => exact ⟨rfl, registered, listed⟩

theorem Standing.of_feeds {task : PeerTask} (htask : task.feeds)
    (h : status.Standing (task :: rest)) : (∀ t ∈ rest, t.feeds) ∧ status.AtWork := by
  cases h with
  | completing | installing | finishing => cases htask
  | feeding _ feeds atWork => exact ⟨fun t ht => feeds t (mem_cons_of_mem _ ht), atWork⟩
  | closing _ rushes =>
    rw [PeerTask.rushes_of_feeds htask] at rushes
    cases rushes

end Status

namespace Peer

variable {peer : Peer}

variable {sess : RtmpConnectionSession}

theorem status_setSession {session' : RtmpConnectionSession}
    (h : peer.session = some sess) (hfail : session'.failed = sess.failed)
    (hcl : session'.closed = sess.closed) : (peer.setSession session').status = peer.status := by
  simp [status, setSession, h, hfail, hcl]

theorem flags_of_session (h : peer.session = some sess) :
    peer.status.flags = some (sess.failed, sess.closed) := by
  simp [status, h]

end Peer

end RtmpCore.Net
