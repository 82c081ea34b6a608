import RtmpCore.Live.Steady
import RtmpCore.Support.Custody
import RtmpCore.Support.Lookup

/-!
# The ledger of a server

Which sinks the fan-outs hold, which relays the sessions have, how the message
streams stand, who publishes what and which notices went out.  The ledger
forgets queues, caches and payloads, and looks at the tables through plain
functions.

`Evict` is the one thing the fan-outs do to the ledger on their own account:
they let go of a sink and tell its session, which destroys the relay.
-/

namespace RtmpCore.Live

open Chunk Amf0 List Function

/-- A place at which a fan-out holds a sink. -/
structure Seat where
  worker : ℕ
  streamId : StreamId
  subscriberId : SubscriberId
deriving DecidableEq

/-- The notice that a connection started or stopped publishing a key. -/
structure PublishNotice where
  connection : UInt64
  streamKey : Bytes
  isStart : Bool
deriving DecidableEq

namespace Event

def notice : Event → Option PublishNotice
  | publishStart registration => some ⟨registration.connectionId, registration.streamKey, true⟩
  | publishStop streamKey connection => some ⟨connection, streamKey, false⟩
  | _ => none

def missedSink : Event → Option SinkRef
  | danglingSink sink => some sink
  | _ => none

end Event

namespace SinkRef

def home (sink : SinkRef) : UInt64 × UInt32 := (sink.connection, sink.messageStreamId)

end SinkRef

@[ext] structure Ledger where
  held : Seat → Option SinkRef
  relays : UInt64 × UInt32 → Option SubscriberId
  slots : UInt64 × UInt32 → Option StreamSlot
  publishers : Bytes → Option UInt64
  fanout : UInt64 → Option ℕ
  minted : ℕ
  notices : List PublishNotice
  missed : List SinkRef

namespace Ledger

variable (l : Ledger) (sink : SinkRef)

/-- The relays that exist, as the sinks that pointers to them name. -/
def alive : Set SinkRef := {sink | l.relays sink.home = some sink.subscriberId}

instance (l : Ledger) (sink : SinkRef) : Decidable (sink ∈ l.alive) :=
  inferInstanceAs (Decidable (l.relays sink.home = some sink.subscriberId))

def setSlot (home : UInt64 × UInt32) (slot : Option StreamSlot) : Ledger :=
  { l with slots := update l.slots home slot }

/-- The slots and relays of one connection replaced. -/
def withSession (connection : UInt64) (slots : UInt32 → Option StreamSlot)
    (relays : UInt32 → Option SubscriberId) : Ledger :=
  { l with
    slots := Table.setRow l.slots connection slots
    relays := Table.setRow l.relays connection relays }

def setRelay (home : UInt64 × UInt32) (subscriberId : Option SubscriberId) : Ledger :=
  { l with relays := update l.relays home subscriberId }

def withHeld (held : Seat → Option SinkRef) : Ledger := { l with held }

def miss : Ledger := { l with missed := l.missed ++ [sink] }

/-- A media call of a sink. -/
def touch : Ledger := if sink ∈ l.alive then l else l.miss sink

/-- The playback on a message stream ends: its slot is idle and its relay is
destroyed. -/
def endPlayback (home : UInt64 × UInt32) : Ledger :=
  { l with
    slots := update l.slots home ((l.slots home).map fun slot => { slot with state := .idle })
    relays := update l.relays home none }

/-- The call of a sink that ends its playback. -/
def finish : Ledger := if sink ∈ l.alive then l.endPlayback sink.home else l.miss sink

variable {l : Ledger} {sink : SinkRef}

theorem eq_of_home_eq {sink' : SinkRef}
    (h : sink ∈ l.alive) (h' : sink' ∈ l.alive) (hhome : sink.home = sink'.home) :
    sink = sink' := by
  obtain ⟨conn, m, subscriberId⟩ := sink
  obtain ⟨connection', messageStreamId', subscriberId'⟩ := sink'
  obtain ⟨rfl, rfl⟩ := hhome
  have heq : some subscriberId = some subscriberId' := h.symm.trans h'
  rw [Option.some.inj heq]

theorem alive_endPlayback (h : sink ∈ l.alive) :
    (l.endPlayback sink.home).alive = l.alive \ {sink} := by
  ext sink'
  by_cases hhome : sink'.home = sink.home
  · have hgone : sink' ∉ (l.endPlayback sink.home).alive := by
      simp [alive, endPlayback, hhome]
    have hsame : sink' ∈ l.alive → sink' = sink := fun h' => eq_of_home_eq h' h hhome
    simp only [hgone, false_iff, Set.mem_sdiff, not_and, not_not]
    exact hsame
  · have hne : sink' ≠ sink := fun heq => hhome (by rw [heq])
    simp [alive, endPlayback, update_of_ne hhome, hne]

theorem finish_of_alive (h : sink ∈ l.alive) : l.finish sink = l.endPlayback sink.home := if_pos h

theorem touch_of_alive (h : sink ∈ l.alive) : l.touch sink = l := if_pos h

theorem finish_withHeld (l : Ledger) (sink : SinkRef) (held : Seat → Option SinkRef) :
    (l.withHeld held).finish sink = (l.finish sink).withHeld held := by
  by_cases h : sink ∈ l.alive
  · have h' : sink ∈ (l.withHeld held).alive := h
    rw [finish_of_alive h, finish_of_alive h']
    rfl
  · have h' : sink ∉ (l.withHeld held).alive := h
    rw [finish, finish, if_neg h, if_neg h']
    rfl

theorem foldl_finish_withHeld (out : List SinkRef) (l : Ledger) (held : Seat → Option SinkRef) :
    out.foldl finish (l.withHeld held) = (out.foldl finish l).withHeld held := by
  induction out generalizing l with
  | nil => rfl
  | cons sink rest ih => rw [foldl_cons, foldl_cons, finish_withHeld, ih]

/-- A fan-out lets go of a sink and tells it so. -/
def Evict (l l' : Ledger) : Prop :=
  ∃ seat sink, l.held seat = some sink ∧ l' = (l.withHeld (update l.held seat none)).finish sink

/-- Some of the sinks are let go of, one after another. -/
def Evicts : Ledger → Ledger → Prop := Relation.ReflTransGen Evict

/-- Letting go of several sinks first and telling them afterwards comes to
the same as telling each one at once. -/
theorem evicts_of_releases {held : Seat → Option SinkRef}
    {out : List SinkRef} (h : Support.Releases l.held held out) :
    Evicts l (out.foldl finish (l.withHeld held)) := by
  induction h with
  | nil => exact .refl
  | @snoc held out seat sink _ hseat ih =>
    refine ih.tail ⟨seat, sink, ?_, ?_⟩
    · rw [foldl_finish_withHeld]
      exact hseat
    · rw [foldl_append, foldl_cons, foldl_finish_withHeld, foldl_finish_withHeld]
      rfl

end Ledger

def World.heldSink (w : World) (seat : Seat) : Option SinkRef :=
  ((w.fanouts seat.worker).subscriber seat.streamId seat.subscriberId).map (·.sink)

def World.ledger (w : World) : Ledger where
  held := w.heldSink
  relays home := (w.relay home.1 home.2).map (·.subscriberId)
  slots home := w.slot home.1 home.2
  publishers streamKey := (w.registry.lookup streamKey).map (·.connectionId)
  fanout connection := (w.sessions connection).config.liveFanout
  minted := w.subscriberIdCount
  notices := w.log.filterMap Event.notice
  missed := w.log.filterMap Event.missedSink

end RtmpCore.Live
