import RtmpCore.Live.Sinks

/-!
# Connections that are not there

A connection is absent from the ledger when nothing in it is the connection's:
no seat, no key, no message stream and no relay.  The end of a connection makes
it absent, and it stays so whatever the other connections do.
-/

namespace RtmpCore.Live

open Chunk Amf0 Support Function

namespace Ledger

structure Absent (l : Ledger) (connection : UInt64) : Prop where
  held : ∀ seat sink, l.held seat = some sink → sink.connection ≠ connection
  publishers : ∀ streamKey, l.publishers streamKey ≠ some connection
  slots : ∀ m, l.slots (connection, m) = none
  relays : ∀ m, l.relays (connection, m) = none

namespace Absent

variable {l l' : Ledger} {connection other : UInt64}

variable {home : UInt64 × UInt32}

section

variable (h : l.Absent connection)
include h

theorem setSlot (hother : home.1 ≠ connection) (slot : Option StreamSlot) :
    (l.setSlot home slot).Absent connection :=
  { h with
    slots := fun m => by
      have hne : (connection, m) ≠ home := fun heq => hother (by rw [← heq])
      simp [Ledger.setSlot, hne, h.slots m] }

theorem publish (hother : home.1 ≠ connection) (slot : StreamSlot) :
    (l.publish home slot).Absent connection :=
  { h.setSlot hother (some slot) with
    publishers := fun key => by
      rcases eq_or_ne key slot.streamKey with rfl | hne
      · simp [Ledger.publish, hother]
      · simp [Ledger.publish, hne, h.publishers key] }

theorem attach (hother : home.1 ≠ connection) (worker : ℕ) (sid : StreamId) :
    (l.attach home worker sid).Absent connection where
  held seat sink := by
    rcases eq_or_ne seat ⟨worker, sid, ⟨l.minted + 1⟩⟩ with rfl | hne
    · intro hsink
      have hnew : some (⟨home.1, home.2, ⟨l.minted + 1⟩⟩ : SinkRef) = some sink := by
        simpa [Ledger.attach] using hsink
      rw [← Option.some.inj hnew]
      exact hother
    · simpa [Ledger.attach, hne] using h.held seat sink
  publishers := h.publishers
  slots := h.slots
  relays m := by
    have hne : (connection, m) ≠ home := fun heq => hother (by rw [← heq])
    simp [Ledger.attach, hne, h.relays m]

theorem unregister (streamKey : Bytes) : (l.unregister other streamKey).Absent connection :=
  { h with
    publishers := fun key => by
      dsimp only [Ledger.unregister]
      split_ifs
      · simp
      · exact h.publishers key }

theorem noteStop (key : Bytes) : (l.noteStop other key).Absent connection := { h with }

theorem release (seat : Seat) : (l.withHeld (update l.held seat none)).Absent connection :=
  { h with
    held seat' sink := by
      rcases eq_or_ne seat' seat with rfl | hne
      · simp [withHeld]
      · simpa [withHeld, hne] using h.held seat' sink }

theorem unseat (home : UInt64 × UInt32)
    (sid : StreamId) : (l.unseat home sid).Absent connection := by
  unfold Ledger.unseat
  split
  · exact h.release _
  · exact h

theorem finish {sink : SinkRef} (hother : sink.connection ≠ connection) :
    (l.finish sink).Absent connection := by
  have hne : ∀ m, (connection, m) ≠ sink.home := fun m heq => hother (congrArg Prod.fst heq).symm
  unfold Ledger.finish
  split
  · exact
      { h with
        slots := fun m => by simp [endPlayback, hne m, h.slots m]
        relays := fun m => by simp [endPlayback, hne m, h.relays m] }
  · exact { h with }

theorem evicts (hevict : l.Evicts l') : l'.Absent connection := by
  induction hevict with
  | refl => exact h
  | tail _ hstep ih =>
    obtain ⟨seat, sink, hheld, rfl⟩ := hstep
    exact (ih.release seat).finish (ih.held seat sink hheld)

theorem clearConnection (other : UInt64) : (l.clearConnection other).Absent connection where
  held := h.held
  publishers key := by
    dsimp only [Ledger.clearConnection]
    split_ifs
    · simp
    · exact h.publishers key
  slots m := by simp [Ledger.clearConnection, withSession, Table.setRow, h.slots m]
  relays m := by simp [Ledger.clearConnection, withSession, Table.setRow, h.relays m]

end

end Absent

theorem absent_clearConnection {l : Ledger} {connection : UInt64}
    (h : ∀ seat sink, (l.clearConnection connection).held seat = some sink →
      sink.connection ≠ connection) :
    (l.clearConnection connection).Absent connection where
  held := h
  publishers key := by
    dsimp only [clearConnection]
    split_ifs with howner
    · simp
    · exact howner
  slots m := by simp [clearConnection, withSession, Table.setRow]
  relays m := by simp [clearConnection, withSession, Table.setRow]

end Ledger

namespace World

variable {w : World} {connection other : UInt64}

theorem absent_initial (config : UInt64 → SessionConfig)
    (fanout : ℕ → GopLimits × QueueLimits × ℕ) (connection : UInt64) :
    (initial config fanout).ledger.Absent connection where
  held _ _ h := by cases h
  publishers _ h := by cases h
  slots _ := rfl
  relays _ := rfl

/-! ## Other connections -/

theorem Closes.absent {m : UInt32} {l : Ledger} (hc : Closes w other m l)
    (h : w.ledger.Absent connection) : l.Absent connection := by
  cases hc with
  | stop _ _ hevict => exact ((h.unregister _).evicts hevict).noteStop _
  | unseat _ _ _ => exact h.unseat _ _
  | skip _ => exact h

theorem absent_onConnectionClosed (h : w.ledger.Absent connection) (order : List UInt32) :
    (w.onConnectionClosed other order).ledger.Absent connection := by
  rw [ledger_onConnectionClosed]
  apply Ledger.Absent.clearConnection
  generalize w.visitOrder other order = rest
  induction rest generalizing w with
  | nil => exact h
  | cons m rest ih => exact ih ((closes_closeSlot w other m).absent h)

theorem absent_of_closed (htend : w.ledger.Tended ∅) (order : List UInt32)
    (hplay : ∀ m ∈ (w.sessions connection).playbackRelays.keys,
      (w.slot connection m).any StreamSlot.plays) :
    (w.onConnectionClosed connection order).ledger.Absent connection := by
  have hseats := (tended_onConnectionClosed htend order hplay).2
  rw [ledger_onConnectionClosed] at hseats ⊢
  exact Ledger.absent_clearConnection hseats

end World

/-- The connection whose session an action calls. -/
def Action.caller : Action → Option UInt64
  | .message connection .. | .closed connection _ => some connection
  | _ => none

theorem World.absent_perform {w : World} {connection : UInt64} {act : Action}
    (htend : w.ledger.Tended ∅) (h : w.ledger.Absent connection)
    (hother : act.caller ≠ some connection) : (w.perform act).ledger.Absent connection := by
  have hne {other} (heq : act.caller = some other) : other ≠ connection := by
    rintro rfl
    exact hother heq
  have hhandles := handles_perform htend act
  generalize (w.perform act).ledger = l at hhandles ⊢
  cases hhandles with
  | evicts hevict => exact h.evicts hevict
  | createStream | play => exact h.setSlot (hne rfl) _
  | publish _ _ _ => exact h.publish (hne rfl) _
  | attach _ _ _ _ => exact (h.setSlot (hne rfl) _).attach (hne rfl) _ _
  | stop _ _ hevict => exact (((h.unregister _).evicts hevict).noteStop _).setSlot (hne rfl) none
  | delete _ _ hevict => exact (h.evicts hevict).setSlot (hne rfl) none
  | closed => exact absent_onConnectionClosed h _

namespace World

variable {w : World} {connection : UInt64}

/-- A new session for a connection that is absent only has another
configuration. -/
theorem ledger_create (h : w.ledger.Absent connection) (config : SessionConfig) :
    (w.setSession connection { config }).ledger = { w.ledger with
        fanout := update w.ledger.fanout connection config.liveFanout } := by
  ext1
  case slots =>
    funext ⟨c, m⟩
    rcases eq_or_ne c connection with rfl | hne
    · rw [h.slots m]
      simp [ledger, World.slot, setSession]
    · simp [ledger, World.slot, setSession, hne]
  case relays =>
    funext ⟨c, m⟩
    rcases eq_or_ne c connection with rfl | hne
    · rw [h.relays m]
      simp [ledger, World.relay, setSession]
    · simp [ledger, World.relay, setSession, hne]
  case fanout =>
    funext c
    rcases eq_or_ne c connection with rfl | hne
    · simp [ledger, setSession]
    · simp [ledger, setSession, hne]
  all_goals rfl

theorem absent_create (h : w.ledger.Absent connection) (config : SessionConfig)
    {other : UInt64} (hother : w.ledger.Absent other) :
    (w.setSession connection { config }).ledger.Absent other := by
  rw [ledger_create h]
  exact { hother with }

theorem tended_create (htend : w.ledger.Tended ∅)
    (h : w.ledger.Absent connection) (config : SessionConfig) :
    (w.setSession connection { config }).ledger.Tended ∅ := by
  rw [ledger_create h]
  constructor
  · exact htend.custody
  · intro seat sink hheld
    obtain ⟨hid, hfan⟩ := htend.seated hheld
    refine ⟨hid, ?_⟩
    dsimp only
    rw [update_of_ne (h.held seat sink hheld)]
    exact hfan
  · exact htend.playing
  · exact htend.drawn
  · exact htend.unmissed

end World

end RtmpCore.Live
