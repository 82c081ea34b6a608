import RtmpCore.Live.Ledger

/-!
# What the calls do to the ledger

One theorem for each call of the model.  These theorems are the only place
where the tables and queues behind the ledger are unfolded.
-/

namespace RtmpCore.Live

open Chunk Amf0 Support List Function Table LiveFanout Option

/-! ## The subscribers of a fan-out -/

namespace LiveFanout

variable (fanout : LiveFanout) (sid : StreamId) (id : SubscriberId)

theorem lookup_stateFor : (fanout.stateFor sid).subscribers.lookup id =
      fanout.subscriber sid id := by
  unfold stateFor subscriber
  cases fanout.streams.lookup sid with
  | none | some => rfl

theorem subscriber_setState (state : StreamState) (streamId' : StreamId) (id' : SubscriberId) :
    (fanout.setState sid state).subscriber streamId' id' =
      if streamId' = sid then state.subscribers.lookup id'
      else fanout.subscriber streamId' id' := by
  unfold setState subscriber
  split
  case isTrue h =>
    subst h
    simp
  case isFalse h => simp only [AList.lookup_insert_ne h]

theorem subscriber_putSubscriber (entry : Subscriber) (streamId' : StreamId) (id' : SubscriberId) :
    (fanout.putSubscriber sid id entry).subscriber streamId' id' =
      if streamId' = sid ∧ id' = id then some entry
      else fanout.subscriber streamId' id' := by
  rw [putSubscriber, subscriber_setState]
  by_cases hstr : streamId' = sid
  · subst hstr
    rcases eq_or_ne id' id with rfl | hid
    · simp
    · simp [hid, lookup_stateFor]
  · simp [hstr]

theorem subscriber_dropSubscriber (streamId' : StreamId) (id' : SubscriberId) :
    (fanout.dropSubscriber sid id).subscriber streamId' id' =
      if streamId' = sid ∧ id' = id then none
      else fanout.subscriber streamId' id' := by
  unfold dropSubscriber
  cases hst : fanout.streams.lookup sid with
  | none =>
    by_cases hstr : streamId' = sid
    · subst hstr
      simp [subscriber, hst]
    · simp [hstr]
  | some state =>
    rw [subscriber_setState]
    by_cases hstr : streamId' = sid
    · subst hstr
      rcases eq_or_ne id' id with rfl | hid
      · simp
      · simp [hid, subscriber, hst]
    · simp [hstr]

end LiveFanout

namespace World

/-! ## Calls that leave the tables alone -/

variable (w : World) (ev : Event) (conn : UInt64)
  (sess : CommandSession) (msg : RtmpMessage) (answers : Answers)
  (m : UInt32) (relay : PlaybackRelay)

@[simp] theorem fanouts_emit : (w.emit ev).fanouts = w.fanouts := rfl

theorem ledger_emit : (w.emit ev).ledger = { w.ledger with
        notices := w.ledger.notices ++ ev.notice.toList
        missed := w.ledger.missed ++ ev.missedSink.toList } := by
  have hnot : (w.emit ev).ledger.notices = w.ledger.notices ++ ev.notice.toList := by
    cases h : ev.notice <;> simp [ledger, emit, h]
  have hmiss : (w.emit ev).ledger.missed = w.ledger.missed ++ ev.missedSink.toList := by
    cases h : ev.missedSink <;> simp [ledger, emit, h]
  rw [← hnot, ← hmiss]
  rfl

theorem ledger_emit_of_quiet {ev : Event}
    (hnotice : ev.notice = none) (hmiss : ev.missedSink = none) :
    (w.emit ev).ledger = w.ledger := by
  rw [ledger_emit, hnotice, hmiss]
  simp

@[simp] theorem registry_send : (w.send conn msg).registry = w.registry := by
  unfold send
  split <;> rfl

theorem Quiet.ledger {w w' : World} (h : Quiet w w') : w'.ledger = w.ledger := by
  obtain ⟨evs, rfl, hout⟩ := h
  have hunr : ∀ ev ∈ evs, ev.notice = none ∧ ev.missedSink = none := by
    intro ev hmem
    have hev := hout ev hmem
    cases ev <;> first | exact ⟨rfl, rfl⟩ | cases hev
  have hnot := filterMap_eq_nil_iff.mpr fun ev hmem => (hunr ev hmem).1
  have hmiss := filterMap_eq_nil_iff.mpr fun ev hmem => (hunr ev hmem).2
  ext1
  case notices => simp [World.ledger, hnot]
  case missed => simp [World.ledger, hmiss]
  all_goals rfl

@[simp] theorem ledger_send : (w.send conn msg).ledger = w.ledger := (w.quiet_send conn msg).ledger

@[simp] theorem ledger_sendStatus (level code : String) (description : Bytes) :
    (w.sendStatus conn m level code description).ledger = w.ledger :=
  w.ledger_send conn _

@[simp] theorem ledger_sendResult (transactionId : UInt64) (props information : Amf0Value) :
    (w.sendResult conn transactionId props information).ledger = w.ledger :=
  w.ledger_send conn _

@[simp] theorem ledger_resolve (app key : Bytes) : (w.resolve app key).1.ledger = w.ledger := by
  unfold resolve
  split <;> rfl

@[simp] theorem registry_resolve (app key : Bytes) :
    (w.resolve app key).1.registry = w.registry := by
  unfold resolve
  split <;> rfl

/-! ## The tables of the sessions -/

theorem ledger_setSession (hcfg : sess.config = (w.sessions conn).config) :
    (w.setSession conn sess).ledger = w.ledger.withSession conn (Table.find sess.streams)
        fun m => (Table.find sess.playbackRelays m).map (·.subscriberId) := by
  ext1
  case slots =>
    funext ⟨c, m⟩
    by_cases hc : c = conn
    · subst hc
      simp [ledger, World.slot, setSession, Ledger.withSession, Table.setRow, Table.find]
    · simp [ledger, World.slot, setSession, Ledger.withSession, Table.setRow, hc]
  case relays =>
    funext ⟨c, m⟩
    by_cases hc : c = conn
    · subst hc
      simp [ledger, World.relay, setSession, Ledger.withSession, Table.setRow, Table.find]
    · simp [ledger, World.relay, setSession, Ledger.withSession, Table.setRow, hc]
  case fanout =>
    funext c
    by_cases hc : c = conn
    · subst hc
      simp [ledger, setSession, Ledger.withSession, hcfg]
    · simp [ledger, setSession, Ledger.withSession, hc]
  all_goals rfl

theorem ledger_setSession_of_eq (hcfg : sess.config = (w.sessions conn).config)
    (hstrs : sess.streams = (w.sessions conn).streams)
    (hrels : sess.playbackRelays = (w.sessions conn).playbackRelays) :
    (w.setSession conn sess).ledger = w.ledger := by
  rw [ledger_setSession w conn sess hcfg, hstrs, hrels]
  ext1
  case slots => exact setRow_self w.ledger.slots conn
  case relays => exact setRow_self w.ledger.relays conn
  all_goals rfl

theorem ledger_setSession_slot (slot : Option StreamSlot)
    (hcfg : sess.config = (w.sessions conn).config)
    (hstrs : Table.find sess.streams = update (Table.find (w.sessions conn).streams) m slot)
    (hrels : sess.playbackRelays = (w.sessions conn).playbackRelays) :
    (w.setSession conn sess).ledger = w.ledger.setSlot (conn, m) slot := by
  rw [ledger_setSession w conn sess hcfg, hstrs, hrels]
  ext1
  case slots => exact setRow_update w.ledger.slots conn m slot
  case relays => exact setRow_self w.ledger.relays conn
  all_goals rfl

theorem ledger_setSession_relay (relay : Option PlaybackRelay)
    (hcfg : sess.config = (w.sessions conn).config)
    (hstrs : sess.streams = (w.sessions conn).streams)
    (hrels : Table.find sess.playbackRelays = update
      (Table.find (w.sessions conn).playbackRelays) m relay) :
    (w.setSession conn sess).ledger = w.ledger.setRelay (conn, m) (relay.map (·.subscriberId)) := by
  rw [ledger_setSession w conn sess hcfg, hstrs, hrels]
  ext1
  case slots => exact setRow_self w.ledger.slots conn
  case relays =>
    have hmap := comp_update (Option.map fun relay : PlaybackRelay => relay.subscriberId)
      (Table.find (w.sessions conn).playbackRelays) m relay
    have hrow := setRow_update w.ledger.relays conn m (relay.map (·.subscriberId))
    exact (congrArg (Table.setRow w.ledger.relays conn) hmap).trans hrow
  all_goals rfl

theorem ledger_setSlot (slot : StreamSlot) : (w.setSlot conn m slot).ledger =
      w.ledger.setSlot (conn, m) (some slot) :=
  w.ledger_setSession_slot conn _ m (some slot) rfl (find_insert _ _ _) rfl

theorem ledger_eraseSlot : (w.eraseSlot conn m).ledger = w.ledger.setSlot (conn, m) none :=
  w.ledger_setSession_slot conn _ m none rfl (find_erase _ _) rfl

theorem ledger_setRelay : (w.setRelay conn m relay).ledger =
      w.ledger.setRelay (conn, m) (some relay.subscriberId) :=
  w.ledger_setSession_relay conn _ m (some relay) rfl rfl (find_insert _ _ _)

theorem ledger_eraseRelay : (w.eraseRelay conn m).ledger = w.ledger.setRelay (conn, m) none :=
  w.ledger_setSession_relay conn _ m none rfl rfl (find_erase _ _)

/-! ## Calls of the sinks -/

theorem subscriberId_noteHeader (kind : MediaKind) (frame : SharedMediaFrame) :
    (relay.noteHeader kind frame).subscriberId = relay.subscriberId := by
  cases kind <;> unfold PlaybackRelay.noteHeader <;> dsimp only <;> split <;> rfl

theorem sinkRelay_eq_none_iff (sink : SinkRef) :
    w.sinkRelay sink = none ↔ sink ∉ w.ledger.alive := by
  unfold sinkRelay Ledger.alive ledger SinkRef.home
  cases h : w.relay sink.connection sink.messageStreamId <;> simp [h]

theorem alive_of_sinkRelay {w : World} {sink : SinkRef} {relay : PlaybackRelay}
    (h : w.sinkRelay sink = some relay) : sink ∈ w.ledger.alive := by
  by_contra hdead
  simp [(w.sinkRelay_eq_none_iff sink).mpr hdead] at h

theorem relay_of_sinkRelay {w : World} {sink : SinkRef} {relay : PlaybackRelay}
    (h : w.sinkRelay sink = some relay) : w.ledger.relays sink.home = some relay.subscriberId := by
  obtain ⟨hrelay, -⟩ := filter_eq_some_iff.mp h
  simp [ledger, SinkRef.home, hrelay]

theorem ledger_sinkOnMedia (w : World) (sink : SinkRef)
    (kind : MediaKind) (frame : SharedMediaFrame) :
    (w.sinkOnMedia answers sink kind frame).1.ledger = w.ledger.touch sink := by
  unfold sinkOnMedia
  split
  case h_1 hnone =>
    have hdead := (w.sinkRelay_eq_none_iff sink).mp hnone
    rw [Ledger.touch, if_neg hdead, ledger_emit]
    simp [Event.notice, Event.missedSink, Ledger.miss]
  case h_2 relay hsome =>
    have hal := alive_of_sinkRelay hsome
    have hquiet := w.quiet_deliverPlaybackMessage sink.connection
      sink.messageStreamId answers frame (relay.noteHeader kind frame) (kind = .video)
    -- the relay is written back with another queue but the same identity
    rw [Ledger.touch_of_alive hal, ledger_setRelay, hquiet.ledger]
    simp only [subscriberId_noteHeader, ← relay_of_sinkRelay hsome]
    exact congrArg (fun relays => { w.ledger with relays })
      (update_eq_self sink.home w.ledger.relays)

theorem ledger_handlePlaybackEnded (level code description : String)
    (w : World) (conn : UInt64) (m : UInt32) :
    (handlePlaybackEnded level code description w conn m).ledger =
      w.ledger.endPlayback (conn, m) := by
  unfold handlePlaybackEnded
  have hslot : w.ledger.slots (conn, m) = w.slot conn m := rfl
  cases h : w.slot conn m with
  | none =>
    have hsame : update w.ledger.slots (conn, m) none = w.ledger.slots :=
      update_eq_self_iff.mpr (hslot.trans h).symm
    rw [ledger_eraseRelay, Ledger.endPlayback, hslot, h, map_none, hsame]
    rfl
  | some slot =>
    rw [ledger_eraseRelay, ledger_sendStatus, ledger_setSlot, Ledger.endPlayback, hslot, h]
    split
    · rw [ledger_emit_of_quiet w rfl rfl]
      rfl
    · rfl

/-- A handler by which a session takes note of the end of a playback. -/
def EndsPlayback (handler : World → UInt64 → UInt32 → World) : Prop :=
  ∀ w conn m, (handler w conn m).ledger = w.ledger.endPlayback (conn, m)

theorem endsPlayback_publisherStopped : EndsPlayback handlePlaybackPublisherStopped :=
  ledger_handlePlaybackEnded _ _ _

theorem endsPlayback_evicted : EndsPlayback handlePlaybackEvicted :=
  ledger_handlePlaybackEnded _ _ _

section SinkOnEnd

variable {handler : World → UInt64 → UInt32 → World} (h : EndsPlayback handler)
include h

theorem ledger_sinkOnEnd (w : World) (sink : SinkRef) :
    (w.sinkOnEnd handler sink).ledger = w.ledger.finish sink := by
  unfold sinkOnEnd
  split
  case h_1 hnone =>
    have hdead := (w.sinkRelay_eq_none_iff sink).mp hnone
    rw [Ledger.finish, if_neg hdead, ledger_emit]
    simp [Event.notice, Event.missedSink, Ledger.miss]
  case h_2 relay hsome =>
    have hal := alive_of_sinkRelay hsome
    rw [h, Ledger.finish_of_alive hal]
    rfl

theorem ledger_foldl_sinkOnEnd (w : World) (sinks : List SinkRef) :
    (sinks.foldl (sinkOnEnd handler) w).ledger = sinks.foldl Ledger.finish w.ledger := by
  induction sinks generalizing w with
  | nil => rfl
  | cons sink rest ih => rw [foldl_cons, foldl_cons, ih, ledger_sinkOnEnd h]

end SinkOnEnd

/-! ## The seats of a fan-out -/

theorem ledger_setFanout (w : World) (worker : ℕ) (fanout : LiveFanout) :
    (w.setFanout worker fanout).ledger =
      w.ledger.withHeld (w.setFanout worker fanout).heldSink := rfl

theorem heldSink_setFanout (w : World) (worker : ℕ) (fanout : LiveFanout) (seat : Seat) :
    (w.setFanout worker fanout).heldSink seat = if seat.worker = worker then
        (fanout.subscriber seat.streamId seat.subscriberId).map (·.sink)
      else w.heldSink seat := by
  by_cases h : seat.worker = worker
  · simp [heldSink, setFanout, h]
  · simp [heldSink, setFanout, h]

theorem setFanout_self (w : World) (worker : ℕ) : w.setFanout worker (w.fanouts worker) = w := by
  simp [setFanout]

section Seats

variable (w : World) (worker : ℕ) (fanout : LiveFanout) (sid : StreamId) (id : SubscriberId)

theorem heldSink_setFanout_congr {fanout' : LiveFanout}
    (h : ∀ sid id, (fanout'.subscriber sid id).map (·.sink) =
      (fanout.subscriber sid id).map (·.sink)) :
    (w.setFanout worker fanout').heldSink = (w.setFanout worker fanout).heldSink := by
  funext seat
  rw [heldSink_setFanout, heldSink_setFanout, h]

theorem heldSink_putSubscriber {entry : Subscriber} (entry' : Subscriber)
    (hent : fanout.subscriber sid id = some entry) (hsink : entry'.sink = entry.sink) :
    (w.setFanout worker (fanout.putSubscriber sid id entry')).heldSink =
      (w.setFanout worker fanout).heldSink := by
  apply heldSink_setFanout_congr
  intro streamId' id'
  rw [subscriber_putSubscriber]
  split
  case isTrue h =>
    obtain ⟨rfl, rfl⟩ := h
    simp [hent, hsink]
  case isFalse => rfl

theorem heldSink_dropSubscriber : (w.setFanout worker (fanout.dropSubscriber sid id)).heldSink =
      update (w.setFanout worker fanout).heldSink ⟨worker, sid, id⟩ none := by
  funext ⟨worker', streamId', id'⟩
  rw [heldSink_setFanout, subscriber_dropSubscriber, update_apply, heldSink_setFanout]
  by_cases hwork : worker' = worker
  · by_cases hid : streamId' = sid ∧ id' = id <;> simp [hwork, hid]
  · simp [hwork]

theorem heldSink_addSubscriber (sink : SinkRef) (ip : Bytes)
    (hfree : fanout.subscriber sid id = none) :
    (w.setFanout worker (fanout.addSubscriber sid id sink ip)).heldSink =
      update (w.setFanout worker fanout).heldSink ⟨worker, sid, id⟩ (some sink) := by
  unfold LiveFanout.addSubscriber
  rw [lookup_stateFor, hfree]
  funext ⟨worker', streamId', id'⟩
  rw [heldSink_setFanout, subscriber_putSubscriber, update_apply, heldSink_setFanout]
  by_cases hwork : worker' = worker
  · by_cases hid : streamId' = sid ∧ id' = id <;> simp [hwork, hid]
  · simp [hwork]

end Seats

end World

end RtmpCore.Live
