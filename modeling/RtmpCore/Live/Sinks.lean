import RtmpCore.Live.Handlers
import RtmpCore.Support.Run

/-!
# Sinks and relays

The fan-outs hold pointers to relays that the sessions own.  A session
destroys a relay when its playback ends, when `play` puts another one in its
place and when the connection closes, and each of these has to take the
pointer out of the fan-out first.

It does when every relay is under a slot that still plays the stream the relay
was subscribed to.  A second `play` on a message stream replaces the relay
while the fan-out still points to the old one, and a connection that closes
unsubscribes only the relays it finds under a playing slot.  `KeepsRelays` says
that neither happens.
-/

namespace RtmpCore.Live

open Chunk Amf0 Support List Function AList Option

namespace Ledger

/-- The pointers of the fan-outs are in custody, each in the seat its relay
was subscribed to, and none was followed in vain.  While a message stream
plays, its slot names the stream of its relay. -/
structure Tended (l : Ledger) (loose : Set SinkRef) : Prop where
  custody : Custody l.held l.alive loose
  seated : ∀ {seat sink}, l.held seat = some sink → sink.subscriberId = seat.subscriberId ∧
      l.fanout sink.connection = some seat.worker
  playing : ∀ {seat sink slot}, l.held seat = some sink →
    l.slots sink.home = some slot → slot.state = .playing →
      slot.streamKey ≠ [] → slot.streamId = seat.streamId
  drawn : ∀ {sink}, sink ∈ l.alive → sink.subscriberId.raw ≤ l.minted
  unmissed : l.missed = []

namespace Tended

variable {l l' : Ledger} {loose : Set SinkRef}

variable {home : UInt64 × UInt32} {seat : Seat} {sink : SinkRef} {slot : StreamSlot}

section

variable (h : l.Tended loose)
include h

theorem unregister (conn : UInt64) (key : Bytes) :
    (l.unregister conn key).Tended loose := { h with }

theorem noteStop (conn : UInt64) (key : Bytes) : (l.noteStop conn key).Tended loose := { h with }

theorem home_ne_of_held (hnone : l.relays home = none)
    (hheld : l.held seat = some sink) : sink.home ≠ home := by
  rintro rfl
  have hal : l.relays sink.home = some sink.subscriberId := h.custody.alive_of_held hheld
  simp [hnone] at hal

/-- A new slot is no harm where it does not name another stream than the
relay's. -/
theorem setSlot {slot : Option StreamSlot}
    (hslot : ∀ {seat sink slot'}, l.held seat = some sink → sink.home = home →
      slot = some slot' → slot'.state = .playing → slot'.streamKey ≠ [] →
        slot'.streamId = seat.streamId) :
    (l.setSlot home slot).Tended loose :=
  { h with
    playing {seat sink slot'} hheld hslot' hplay hkey := by
      have hheld' : l.held seat = some sink := hheld
      by_cases hhome : sink.home = home
      · have heq : slot = some slot' := by
          simpa [Ledger.setSlot, hhome] using hslot'
        exact hslot hheld' hhome heq hplay hkey
      · have heq : l.slots sink.home = some slot' := by
          simpa [Ledger.setSlot, hhome] using hslot'
        exact h.playing hheld' heq hplay hkey }

theorem setSlot_of_not_playing {slot : Option StreamSlot}
    (hslot : ∀ slot', slot = some slot' → slot'.state ≠ .playing) :
    (l.setSlot home slot).Tended loose :=
  h.setSlot fun _ _ heq hplay _ => absurd hplay (hslot _ heq)

theorem unseat (hheld : l.held seat = some sink) :
    (l.withHeld (update l.held seat none)).Tended (insert sink loose) :=
  { h with
    custody := h.custody.release hheld
    seated := fun hseat => h.seated ((Releases.single hheld).held_before hseat)
    playing := fun hseat => h.playing ((Releases.single hheld).held_before hseat) }

theorem evict (hevict : l.Evict l') : l'.Tended loose := by
  obtain ⟨seat, sink, hheld, rfl⟩ := hevict
  have hal : sink ∈ (l.withHeld (update l.held seat none)).alive := h.custody.alive_of_held hheld
  have hbef : ∀ {seat' sink'}, update l.held seat none seat' = some sink' →
        l.held seat' = some sink' := fun hseat' =>
    (Releases.single hheld).held_before hseat'
  rw [finish_of_alive hal]
  constructor
  · rw [alive_endPlayback hal]
    exact h.custody.evict hheld
  · intro seat' sink' hseat'
    exact h.seated (hbef hseat')
  · intro seat' sink' slot hseat' hslot hplay hkey
    by_cases hhome : sink'.home = sink.home
    · -- the slot of the evicted sink is idle now
      have hidle : ((l.slots sink.home).map fun slot =>
          { slot with state := .idle }) = some slot := by
        simpa [endPlayback, withHeld, hhome] using hslot
      obtain ⟨old, -, rfl⟩ := map_eq_some_iff.mp hidle
      cases hplay
    · have hsame : l.slots sink'.home = some slot := by
        simpa [endPlayback, withHeld, hhome] using hslot
      exact h.playing (hbef hseat') hsame hplay hkey
  · intro sink' hal'
    rw [alive_endPlayback hal] at hal'
    exact h.drawn hal'.1
  · exact h.unmissed

theorem evicts (hevict : l.Evicts l') : l'.Tended loose := by
  induction hevict with
  | refl => exact h
  | tail _ hstep ih => exact ih.evict hstep

theorem held_fresh (worker : ℕ) (sid : StreamId) : l.held ⟨worker, sid, ⟨l.minted + 1⟩⟩ = none := by
  by_contra hsome
  obtain ⟨sink, hheld⟩ := ne_none_iff_exists'.mp hsome
  have hid := (h.seated hheld).1
  have hdrawn := h.drawn (h.custody.alive_of_held hheld)
  rw [hid] at hdrawn
  exact Nat.not_succ_le_self _ hdrawn

end

theorem alive_attach (worker : ℕ) (sid : StreamId) (hnone : l.relays home = none) :
    (l.attach home worker sid).alive = insert ⟨home.1, home.2, ⟨l.minted + 1⟩⟩ l.alive := by
  ext ⟨conn, messageStreamId, id⟩
  by_cases hhome : (conn, messageStreamId) = home
  · subst hhome
    simp [alive, Ledger.attach, SinkRef.home, hnone, eq_comm]
  · have hne : (conn, messageStreamId, id) ≠ (home.1, home.2, ⟨l.minted + 1⟩) := by
      intro heq
      simp only [Prod.mk.injEq] at heq
      exact hhome (Prod.ext heq.1 heq.2.1)
    simp only [Prod.mk.injEq, ne_eq] at hne
    simp [alive, Ledger.attach, SinkRef.home, hhome, hne]

/-- A new relay is subscribed, on a message stream that has none. -/
theorem attach (h : l.Tended ∅) {worker : ℕ} {sid : StreamId} (hnone : l.relays home = none)
    (hfan : l.fanout home.1 = some worker)
    (hslot : ∀ {slot}, l.slots home = some slot → slot.streamId = sid) :
    (l.attach home worker sid).Tended ∅ := by
  have hfree := h.held_fresh worker sid
  have hnew : (⟨home.1, home.2, ⟨l.minted + 1⟩⟩ : SinkRef) ∉ l.alive := by
    simp [alive, SinkRef.home, hnone]
  -- a seat is the new one or was taken before
  have hseat : ∀ {seat sink}, (l.attach home worker sid).held seat = some sink →
        (seat = ⟨worker, sid, ⟨l.minted + 1⟩⟩ ∧
          sink = ⟨home.1, home.2, ⟨l.minted + 1⟩⟩) ∨ l.held seat = some sink := by
    intro seat sink hheld
    rcases eq_or_ne seat ⟨worker, sid, ⟨l.minted + 1⟩⟩ with rfl | hne
    · left
      simpa [Ledger.attach, eq_comm] using hheld
    · simpa [Ledger.attach, hne] using hheld
  constructor
  · rw [alive_attach worker sid hnone]
    exact h.custody.lend hnew hfree (Set.notMem_empty _)
  · intro seat sink hheld
    rcases hseat hheld with ⟨rfl, rfl⟩ | hold
    · exact ⟨rfl, hfan⟩
    · exact h.seated hold
  · intro seat sink slot hheld hslot' hplay hkey
    rcases hseat hheld with ⟨rfl, rfl⟩ | hold
    · exact hslot hslot'
    · exact h.playing hold hslot' hplay hkey
  · intro sink hal
    rw [alive_attach worker sid hnone] at hal
    rcases hal with rfl | hold
    · exact le_refl _
    · exact (h.drawn hold).trans (Nat.le_succ _)
  · exact h.unmissed

theorem held_of_playing (h : l.Tended loose) (hslot : l.slots home = some slot)
    (hplay : slot.state = .playing) (hkey : slot.streamKey ≠ [])
    {id : SubscriberId} (hrelay : l.relays home = some id)
    (htight : (⟨home.1, home.2, id⟩ : SinkRef) ∉ loose) : ∃ worker, l.fanout home.1 = some worker ∧
      l.held ⟨worker, slot.streamId, id⟩ = some ⟨home.1, home.2, id⟩ := by
  obtain ⟨⟨worker, sid, id'⟩, hheld⟩ :=
    h.custody.held_of_alive (o := ⟨home.1, home.2, id⟩) hrelay htight
  obtain ⟨hid, hwork⟩ := h.seated hheld
  have hstr := h.playing hheld hslot hplay hkey
  subst hid hstr
  exact ⟨worker, hwork, hheld⟩

theorem unseat_of_none (hrelay : l.relays home = none) (sid : StreamId) :
    l.unseat home sid = l := by
  unfold Ledger.unseat
  cases l.fanout home.1 <;> rw [hrelay]

theorem evicts_delete (h : l.Tended ∅) (hslot : l.slots home = some slot)
    (hplay : slot.state = .playing) (hkey : slot.streamKey ≠ []) :
    ∃ l', l.Evicts l' ∧ ((l.unseat home slot.streamId).setRelay home none).setSlot home none =
        l'.setSlot home none := by
  cases hrelay : l.relays home with
  | none =>
    refine ⟨l, .refl, ?_⟩
    have hrels : update l.relays home none = l.relays := update_eq_self_iff.mpr hrelay.symm
    rw [unseat_of_none hrelay, Ledger.setRelay, hrels]
  | some id =>
    obtain ⟨worker, hfan, hheld⟩ := h.held_of_playing hslot hplay hkey hrelay (Set.notMem_empty _)
    refine ⟨_, .single ⟨_, _, hheld, rfl⟩, ?_⟩
    have hal : (⟨home.1, home.2, id⟩ : SinkRef) ∈ (l.withHeld
        (update l.held ⟨worker, slot.streamId, id⟩ none)).alive :=
      hrelay
    rw [finish_of_alive hal]
    simp [Ledger.unseat, hfan, hrelay, Ledger.setRelay, Ledger.setSlot, endPlayback, SinkRef.home]

end Tended

end Ledger

namespace World

variable {w : World} (h : w.ledger.Tended ∅)
include h

theorem handles_deleteSlot (conn : UInt64) (msg : RtmpMessage) (answers : Answers) (m : UInt32) :
    Handles w (.message conn msg answers) (w.deleteSlot conn m).ledger := by
  unfold deleteSlot
  cases hslot : w.slot conn m with
  | none => exact .evicts .refl
  | some slot =>
    replace hslot : w.ledger.slots (conn, m) = some slot := hslot
    rw [ledger_eraseSlot]
    split_ifs with hpubl hplay
    · obtain ⟨l, hevict, hled⟩ := w.evicts_stopPublishing conn slot
      rw [hled]
      exact .stop hslot hpubl.1 hevict
    · obtain ⟨l, hevict, hled⟩ := h.evicts_delete hslot hplay.1 hplay.2
      rw [ledger_detachViewer, ledger_eraseRelay, ledger_unsubscribeRelay, hled]
      exact .delete hslot hpubl hevict
    · exact .delete hslot hpubl .refl

theorem handles_perform (act : Action) : Handles w act (w.perform act).ledger := by
  cases act with
  | message conn msg answers =>
    unfold perform handleMessage
    dsimp only
    split
    · exact .evicts (w.evicts_routeMediaMessage conn h.custody answers msg _)
    split
    · exact .evicts .refl
    next command hcmd =>
      unfold dispatch
      split
      · exact .evicts (w.ledger_handleConnect conn command ▸ .refl)
      · exact .evicts (w.ledger_sendResult conn _ _ _ ▸ .refl)
      · exact .evicts (w.ledger_sendResult conn _ _ _ ▸ .refl)
      next hname =>
        rw [ledger_handleCreateStream]
        exact .createStream ⟨hcmd, hname⟩
      next hname => exact handles_handlePublish ⟨hcmd, hname⟩
      next hname => exact handles_handlePlay ⟨hcmd, hname⟩ h.held_fresh
      · unfold handleDeleteStream
        split
        · exact .evicts .refl
        · exact handles_deleteSlot h conn msg answers _
      · exact .evicts .refl
  | closed conn order => exact .closed
  | replayedMedia worker sid kind frame answers =>
    unfold perform
    dsimp only
    rw [onFrame_eq]
    exact .evicts (w.evicts_onMedia answers frame h.custody kind worker sid true)
  | replayedStop worker sid => exact .evicts (w.evicts_publisherStopped worker sid true)

end World

/-! ## The end of a connection -/

def StreamSlot.plays (slot : StreamSlot) : Bool := slot.state = .playing && slot.streamKey ≠ []

namespace Ledger

/-- A connection on its way out: of its relays, those of the message streams
already visited are loose, and all are under a playing slot. -/
structure Closing (l : Ledger) (connection : UInt64)
    (order visited : List UInt32) (loose : Set SinkRef) : Prop where
  tended : l.Tended loose
  visited_of_loose : ∀ {sink}, sink ∈ loose →
    sink.connection = connection ∧ sink.messageStreamId ∈ visited
  loose_of_visited : ∀ {sink}, sink ∈ l.alive → sink.connection = connection →
    sink.messageStreamId ∈ visited → sink ∈ loose
  playing : ∀ {sink}, sink ∈ l.alive → sink.connection = connection → sink.messageStreamId ∈ order ∧
      ∃ slot, l.slots sink.home = some slot ∧ slot.state = .playing ∧ slot.streamKey ≠ []

namespace Closing

variable {l l' : Ledger} {conn : UInt64} {order visited : List UInt32} {loose : Set SinkRef}

theorem evict (h : l.Closing conn order visited loose)
    (hevict : l.Evict l') : l'.Closing conn order visited loose := by
  refine ⟨h.tended.evict hevict, h.visited_of_loose, ?_, ?_⟩
  all_goals
    obtain ⟨seat, gone, hheld, rfl⟩ := hevict
    have hal : gone ∈ (l.withHeld (update l.held seat none)).alive :=
      h.tended.custody.alive_of_held hheld
    rw [finish_of_alive hal, alive_endPlayback hal]
    intro sink hsink
  · exact h.loose_of_visited hsink.1
  · intro hconn
    obtain ⟨horder, slot, hslot, hplay⟩ := h.playing hsink.1 hconn
    -- another relay is on another message stream
    have hhome : sink.home ≠ gone.home := fun heq => hsink.2 (eq_of_home_eq hsink.1 hal heq)
    refine ⟨horder, slot, ?_, hplay⟩
    simpa [endPlayback, withHeld, hhome] using hslot

theorem evicts (h : l.Closing conn order visited loose)
    (hevict : l.Evicts l') : l'.Closing conn order visited loose := by
  induction hevict with
  | refl => exact h
  | tail _ hstep ih => exact ih.evict hstep

variable {messageStreamId : UInt32}

section

variable (h : l.Closing conn order visited loose)
include h

theorem skip (hnone : ∀ {sink}, sink ∈ l.alive → sink.home ≠ (conn, messageStreamId)) :
    l.Closing conn order (messageStreamId :: visited) loose where
  tended := h.tended
  visited_of_loose hsink :=
    ⟨(h.visited_of_loose hsink).1, mem_cons_of_mem _ (h.visited_of_loose hsink).2⟩
  loose_of_visited {sink} hsink hconn hvis := by
    rcases mem_cons.mp hvis with hhere | hbef
    · exact absurd (Prod.ext hconn hhere) (hnone hsink)
    · exact h.loose_of_visited hsink hconn hbef
  playing := h.playing

theorem home_ne (hslot : ∀ slot, l.slots (conn, messageStreamId) = some slot →
      ¬(slot.state = .playing ∧ slot.streamKey ≠ []))
    {sink : SinkRef} (hsink : sink ∈ l.alive) :
    sink.home ≠ (conn, messageStreamId) := by
  intro hhome
  have hconn : sink.connection = conn := congrArg Prod.fst hhome
  obtain ⟨-, slot, hslot', hplay⟩ := h.playing hsink hconn
  exact hslot slot (hhome ▸ hslot') hplay

/-- A playing message stream is visited: its relay is unsubscribed. -/
theorem unseat (hnew : messageStreamId ∉ visited) {slot : StreamSlot}
    (hslot : l.slots (conn, messageStreamId) = some slot)
    (hplay : slot.state = .playing) (hkey : slot.streamKey ≠ []) :
    ∃ loose', (l.unseat (conn, messageStreamId) slot.streamId).Closing
      conn order (messageStreamId :: visited) loose' := by
  cases hrelay : l.relays (conn, messageStreamId) with
  | none =>
    rw [Tended.unseat_of_none hrelay]
    refine ⟨loose, h.skip ?_⟩
    intro sink hsink hhome
    have hal : l.relays sink.home = some sink.subscriberId := hsink
    simp [hhome, hrelay] at hal
  | some id =>
    have htight : (⟨conn, messageStreamId, id⟩ : SinkRef) ∉ loose :=
      fun hloose => hnew (h.visited_of_loose hloose).2
    obtain ⟨worker, hfan, hheld⟩ := h.tended.held_of_playing hslot hplay hkey hrelay htight
    have hunseat : l.unseat (conn, messageStreamId) slot.streamId =
        l.withHeld (update l.held ⟨worker, slot.streamId, id⟩ none) := by
      simp [Ledger.unseat, hfan, hrelay]
    rw [hunseat]
    refine ⟨_, h.tended.unseat hheld, ?_, ?_, h.playing⟩
    · rintro sink (rfl | hloose)
      · exact ⟨rfl, mem_cons_self⟩
      · exact ⟨(h.visited_of_loose hloose).1, mem_cons_of_mem _ (h.visited_of_loose hloose).2⟩
    · intro sink hsink hconn hvis
      rcases mem_cons.mp hvis with hhere | hbef
      · left
        exact eq_of_home_eq (l := l) hsink hrelay (Prod.ext hconn hhere)
      · right
        exact h.loose_of_visited hsink hconn hbef

/-- When every message stream has been visited, the tables of the connection
can be cleared. -/
theorem clear (hvis : ∀ m ∈ order, m ∈ visited) : (l.clearConnection conn).Tended ∅ ∧
      ∀ seat sink, (l.clearConnection conn).held seat = some sink → sink.connection ≠ conn := by
  -- the loose relays are exactly those of the connection
  have hloose : ∀ {sink}, sink ∈ l.alive → (sink ∈ loose ↔ sink.connection = conn) := by
    intro sink hsink
    refine ⟨fun hmem => (h.visited_of_loose hmem).1, fun hconn => ?_⟩
    exact h.loose_of_visited hsink hconn (hvis _ (h.playing hsink hconn).1)
  have hgone : ∀ seat sink, l.held seat = some sink → sink.connection ≠ conn := by
    intro seat sink hheld hconn
    exact h.tended.custody.not_loose hheld
      ((hloose (h.tended.custody.alive_of_held hheld)).mpr hconn)
  have hal : (l.clearConnection conn).alive = l.alive \ loose := by
    ext sink
    by_cases hconn : sink.connection = conn
    · have hdead : sink ∉ (l.clearConnection conn).alive := by
        simp [alive, clearConnection, withSession, Table.setRow, SinkRef.home, hconn]
      simp only [hdead, false_iff, Set.mem_sdiff, not_and, not_not]
      exact fun hsink => (hloose hsink).mpr hconn
    · have hsame : sink ∈ (l.clearConnection conn).alive ↔ sink ∈ l.alive := by
        simp [alive, clearConnection, withSession, Table.setRow, SinkRef.home, hconn]
      rw [hsame]
      exact ⟨fun hsink => ⟨hsink, fun hmem => hconn ((hloose hsink).mp hmem)⟩, fun hsink => hsink.1⟩
  refine ⟨⟨?_, h.tended.seated, ?_, ?_, h.tended.unmissed⟩, hgone⟩
  · rw [hal, ← Set.sdiff_self (s := loose)]
    exact h.tended.custody.destroy subset_rfl
  · intro seat sink slot hheld hslot
    have hconn := hgone seat sink hheld
    have hsame : l.slots sink.home = some slot := by
      simpa [clearConnection, withSession, Table.setRow, SinkRef.home, hconn] using hslot
    exact h.tended.playing hheld hsame
  · intro sink hsink
    rw [hal] at hsink
    exact h.tended.drawn hsink.1

end

end Closing

end Ledger

namespace World

/-- What the end of the connection comes to for one message stream. -/
inductive Closes (w : World) (connection : UInt64) (m : UInt32) : Ledger → Prop where
  | stop {slot : StreamSlot} {l : Ledger} (hslot : w.ledger.slots (connection, m) = some slot)
      (hstate : slot.state = .publishing)
      (hevicts : (w.ledger.unregister connection slot.streamKey).Evicts l) :
      Closes w connection m (l.noteStop connection slot.streamKey)
  | unseat {slot : StreamSlot} (hslot : w.ledger.slots (connection, m) = some slot)
      (hstate : slot.state = .playing) (hkey : slot.streamKey ≠ []) :
      Closes w connection m (w.ledger.unseat (connection, m) slot.streamId)
  | skip (hidle : ∀ slot, w.ledger.slots (connection, m) = some slot →
      ¬(slot.state ≠ .idle ∧ slot.streamKey ≠ [])) : Closes w connection m w.ledger

theorem closes_closeSlot (w : World) (conn : UInt64) (m : UInt32) :
    Closes w conn m (closeSlot conn w m).ledger := by
  have hled : w.ledger.slots (conn, m) = w.slot conn m := rfl
  unfold closeSlot
  cases hslot : w.slot conn m with
  | none => exact .skip (by simp [hled, hslot])
  | some slot =>
    dsimp only
    split_ifs with hpubl hplay
    · obtain ⟨l, hevict, hstop⟩ := w.evicts_stopPublishing conn slot
      rw [hstop]
      exact .stop hslot hpubl.1 hevict
    · rw [ledger_detachViewer, ledger_unsubscribeRelay]
      exact .unseat hslot hplay.1 hplay.2
    · refine .skip ?_
      rintro slot' hslot' ⟨hst, hkey⟩
      cases hslot.symm.trans hslot'
      cases hs : slot.state with
      | idle => exact hst hs
      | publishing => exact hpubl ⟨hs, hkey⟩
      | playing => exact hplay ⟨hs, hkey⟩

variable {w : World} {conn : UInt64} {order visited : List UInt32} {loose : Set SinkRef}

theorem Closes.closing {m : UInt32} {l : Ledger} (hclo : Closes w conn m l)
    (h : w.ledger.Closing conn order visited loose) (hnew : m ∉ visited) :
    ∃ loose', l.Closing conn order (m :: visited) loose' := by
  cases hclo with
  | @stop slot l hslot hpubl hevict =>
    have hskip := h.skip fun hsink => h.home_ne (by
      intro slot' hslot' hplay
      cases hslot.symm.trans hslot'
      simp [hpubl] at hplay) hsink
    have hunreg : (w.ledger.unregister conn slot.streamKey).Closing conn order (m :: visited)
        loose :=
      { hskip with tended := hskip.tended.unregister conn slot.streamKey }
    have hstop := hunreg.evicts hevict
    exact ⟨loose, { hstop with tended := hstop.tended.noteStop conn slot.streamKey }⟩
  | unseat hslot hplay hkey => exact h.unseat hnew hslot hplay hkey
  | skip hidle =>
    refine ⟨loose, h.skip fun hsink => h.home_ne ?_ hsink⟩
    rintro slot hslot ⟨hplay, hkey⟩
    exact hidle slot hslot ⟨by simp [hplay], hkey⟩

theorem mem_visitOrder {m : UInt32} (order : List UInt32) {slot : StreamSlot}
    (h : w.ledger.slots (conn, m) = some slot) : m ∈ w.visitOrder conn order := by
  have hkey : m ∈ (w.sessions conn).streams.keys :=
    mem_keys.mpr (lookup_isSome.mp (isSome_of_mem h))
  exact mem_dedup.mpr (mem_append_right _ hkey)

/-- A connection can begin to close if each of its relays is under a playing
slot. -/
theorem closing_visitOrder (h : w.ledger.Tended ∅) (order : List UInt32)
    (hplay : ∀ m ∈ (w.sessions conn).playbackRelays.keys, (w.slot conn m).any StreamSlot.plays) :
    w.ledger.Closing conn (w.visitOrder conn order) [] ∅ := by
  refine ⟨h, by simp, by simp, ?_⟩
  rintro ⟨connection', m, id⟩ hsink rfl
  have hrelay : (w.relay connection' m).map (·.subscriberId) = some id := hsink
  obtain ⟨relay, hrelay, -⟩ := map_eq_some_iff.mp hrelay
  have hkey : m ∈ (w.sessions connection').playbackRelays.keys :=
    mem_keys.mpr (lookup_isSome.mp (isSome_of_mem hrelay))
  obtain ⟨slot, hslot, hplays⟩ := (any_eq_true _ _).mp (hplay m hkey)
  exact ⟨mem_visitOrder order hslot, slot, hslot, by simpa [StreamSlot.plays] using hplays⟩

theorem tended_onConnectionClosed (h : w.ledger.Tended ∅) (order : List UInt32)
    (hplay : ∀ m ∈ (w.sessions conn).playbackRelays.keys, (w.slot conn m).any StreamSlot.plays) :
    (w.onConnectionClosed conn order).ledger.Tended ∅ ∧ ∀ seat sink,
        (w.onConnectionClosed conn order).ledger.held seat = some sink →
          sink.connection ≠ conn := by
  have hnd : (w.visitOrder conn order).Nodup := nodup_dedup _
  obtain ⟨loose, hdone⟩ := Run.foldl_visits (closeSlot conn)
    (fun visited w' => ∃ loose, w'.ledger.Closing conn (w.visitOrder conn order) visited loose)
    hnd ⟨∅, closing_visitOrder h order hplay⟩
    fun hnew ⟨_, hclosing⟩ => (closes_closeSlot ..).closing hclosing hnew
  rw [ledger_onConnectionClosed]
  exact hdone.clear (by simp)

end World

/-! ## Runs -/

/-- The worker to whose fan-out a message subscribes, if it does. -/
def World.playedWorker (w : World) (connection : UInt64)
    (message : RtmpMessage) (answers : Answers) : Option ℕ :=
  (World.commandOf message).bind fun command =>
    if CommandName.ofText command.name = some .play then
      w.subscribedWorker connection answers command
    else none

/-- The connection does not lose a relay behind the back of the fan-out: a
`play` that subscribes finds no relay on its message stream, and a connection
that closes has all its relays under playing slots. -/
def KeepsRelays (w : World) : Action → Prop
  | .message connection message answers =>
    (w.playedWorker connection message answers).isSome →
      w.relay connection message.messageStreamId = none
  | .closed connection _ =>
    ∀ m ∈ (w.sessions connection).playbackRelays.keys, (w.slot connection m).any StreamSlot.plays
  | .replayedMedia .. | .replayedStop .. => True

instance (w : World) : (action : Action) → Decidable (KeepsRelays w action)
  | .message .. => inferInstanceAs (Decidable (_ → _))
  | .closed .. => List.decidableBAll _ _
  | .replayedMedia .. | .replayedStop .. => instDecidableTrue

namespace World

variable {w : World}

theorem Handles.tended {act : Action} {l : Ledger} (hh : Handles w act l)
    (h : w.ledger.Tended ∅) (hkeeps : KeepsRelays w act) : l.Tended ∅ := by
  cases hh with
  | evicts hevict => exact h.evicts hevict
  | createStream _ => exact h.setSlot_of_not_playing (by rintro _ ⟨rfl⟩; simp)
  | @publish conn msg _ _ slot _ _ hst =>
    have hslot : (w.ledger.setSlot (conn, msg.messageStreamId) (some slot)).Tended ∅ :=
      h.setSlot_of_not_playing (by rintro _ ⟨rfl⟩; simp [hst])
    exact { hslot with }
  | @play conn msg answers cmd slot _ hauth hwork hslot =>
    apply h.setSlot
    rintro seat sink slot hheld hhome ⟨⟩ _ hkey
    -- the session has no fan-out, so it has no sink in one
    have hfan := (h.seated hheld).2
    have hconn : sink.connection = conn := congrArg Prod.fst hhome
    have hname : (splitQuery cmd.streamName).1 ≠ [] := by
      rw [hslot] at hkey
      exact hkey
    rw [hconn] at hfan
    have hnone : (w.sessions conn).config.liveFanout = none := by
      simpa [subscribedWorker, hauth, hname] using hwork
    exact absurd (hfan.symm.trans hnone) (by simp)
  | @attach conn msg answers cmd slot worker hcmd _ hwork hslot =>
    have hnone : w.relay conn msg.messageStreamId = none := by
      apply hkeeps
      rw [playedWorker, hcmd.1, bind_some, if_pos hcmd.2, hwork]
      rfl
    have hfree : w.ledger.relays (conn, msg.messageStreamId) = none := by simp [ledger, hnone]
    have hfan : w.ledger.fanout conn = some worker := by
      unfold subscribedWorker at hwork
      split_ifs at hwork
      exact hwork
    refine Ledger.Tended.attach (h.setSlot ?_) hfree hfan ?_
    · intro seat sink slot hheld hhome
      exact absurd hhome (h.home_ne_of_held hfree hheld)
    · intro slot' hslot'
      have hself : some slot = some slot' := by simpa [Ledger.setSlot] using hslot'
      rw [Option.some.inj hself]
  | @stop conn _ _ _ slot l _ _ hevict =>
    have hstop := ((h.unregister conn slot.streamKey).evicts hevict).noteStop conn slot.streamKey
    exact hstop.setSlot_of_not_playing (by simp)
  | delete _ _ hevict => exact (h.evicts hevict).setSlot_of_not_playing (by simp)
  | @closed conn order => exact (tended_onConnectionClosed h order hkeeps).1

theorem tended_perform {act : Action} (h : w.ledger.Tended ∅)
    (hkeeps : KeepsRelays w act) : (w.perform act).ledger.Tended ∅ :=
  (handles_perform h act).tended h hkeeps

theorem tended_initial (cfg : UInt64 → SessionConfig) (fanout : ℕ → GopLimits × QueueLimits × ℕ) :
    (initial cfg fanout).ledger.Tended ∅ where
  custody :=
    { alive_of_held := by rintro _ _ ⟨⟩
      seat_unique := by rintro _ _ _ ⟨⟩
      not_loose := by rintro _ _ ⟨⟩
      held_of_alive := by rintro _ ⟨⟩ }
  seated h := by cases h
  playing h := by cases h
  drawn h := by cases h
  unmissed := rfl

/-- The entries of the fan-outs whose sink belongs to a connection. -/
def heldEntries (w : World) (connection : UInt64) : Set (Seat × SinkRef) :=
  {entry | w.heldSink entry.1 = some entry.2 ∧ entry.2.connection = connection}

def relayObjects (w : World) (connection : UInt64) : Set SinkRef :=
  {sink | (w.relay sink.connection sink.messageStreamId).map
      (·.subscriberId) = some sink.subscriberId ∧
    sink.connection = connection}

/-- In every state of a run that keeps its relays, the entries of the fan-outs
for a connection are in bijection with its relay objects, each under the
identity of its relay, and no call ever went through a dangling pointer.  Once
the connection has closed, there is no entry for it. -/
theorem heldEntries_bijOn_relayObjects (config : UInt64 → SessionConfig)
    (fanout : ℕ → GopLimits × QueueLimits × ℕ) (actions : List Action)
    (h : Run.Along perform KeepsRelays (initial config fanout) actions) :
    let w := Run.run perform (initial config fanout) actions
    (∀ connection, Set.BijOn Prod.snd (w.heldEntries connection) (w.relayObjects connection) ∧
      ∀ entry ∈ w.heldEntries connection, entry.1.subscriberId = entry.2.subscriberId) ∧
    (∀ sink, Event.danglingSink sink ∉ w.log) ∧
    ∀ connection order, actions.getLast? = some (.closed connection order) →
      w.heldEntries connection = ∅ := by
  have hrun : ∀ actions, Run.Along perform KeepsRelays (initial config fanout) actions →
        (Run.run perform (initial config fanout) actions).ledger.Tended ∅ :=
    fun actions halong =>
      Run.run_invariant (fun w => w.ledger.Tended ∅) halong (tended_initial config fanout)
        fun _ _ hkeeps htended => tended_perform htended hkeeps
  have htended := hrun actions h
  refine ⟨fun connection => ⟨?_, ?_⟩, ?_, ?_⟩
  · exact htended.custody.bijOn {sink | sink.connection = connection}
  · rintro ⟨seat, sink⟩ ⟨hheld, -⟩
    exact (htended.seated hheld).1.symm
  · intro sink hmem
    have hmissed : sink ∈ (Run.run perform (initial config fanout) actions).ledger.missed :=
      mem_filterMap.mpr ⟨.danglingSink sink, hmem, rfl⟩
    rw [htended.unmissed] at hmissed
    cases hmissed
  · intro connection order hlast
    obtain ⟨before, rfl⟩ := getLast?_eq_some_iff.mp hlast
    obtain ⟨hbefore, hclosed, -⟩ := Run.along_append.mp h
    have hgone := (tended_onConnectionClosed (hrun before hbefore) order hclosed).2
    rw [Run.run, foldl_append]
    ext ⟨seat, sink⟩
    simp only [Set.mem_empty_iff_false, iff_false]
    rintro ⟨hheld, hconnection⟩
    exact hgone seat sink hheld hconnection

/-- A command message on a message stream. -/
def commandMessage (name : CommandName) (messageStreamId : UInt32)
    (arguments : List Amf0Value) : RtmpMessage where
  messageStreamId
  messageTypeId := MessageTypeId.amf0Command.code
  payload := (.string name.text :: .number 0 :: .null :: arguments).flatMap encode

def oneWorker : World := initial (fun _ => { liveFanout := some 0 }) fun _ => ({}, {}, 250)

/-- A publisher goes on the air, a viewer joins and is sent a frame, and the
viewer leaves. -/
def viewerLeaves : List Action :=
  [.message 1 (commandMessage .publish 1 [.string "a"]) {},
    .message 2 (commandMessage .play 1 [.string "a"]) {},
    .message 1 { messageStreamId := 1, messageTypeId := 9, payload := [0x17, 1] } {}, .closed 2 []]

theorem heldEntries_viewerLeaves : Run.Along perform KeepsRelays oneWorker viewerLeaves ∧
      (Run.run perform oneWorker viewerLeaves).heldEntries 2 = ∅ :=
  have halong : Run.Along perform KeepsRelays oneWorker viewerLeaves := by decide +kernel
  ⟨halong, (heldEntries_bijOn_relayObjects _ _ viewerLeaves halong).2.2 2 [] rfl⟩

/-- A viewer plays twice on one message stream, and a publisher of the first
stream sends a frame. -/
def playsTwice : List Action :=
  [.message 2 (commandMessage .play 1 [.string "a"]) {},
    .message 2 (commandMessage .play 1 [.string "b"]) {}, .closed 2 [],
    .message 1 (commandMessage .publish 1 [.string "a"]) {},
    .message 1 { messageStreamId := 1, messageTypeId := 9, payload := [0x17, 1] } {}]

/-- The second `play` destroys the relay to which the fan-out still points.
The pointer outlives the connection, and a publisher's frame goes through
it. -/
theorem playsTwice_leaves_dangling : ¬Set.BijOn Prod.snd
        ((Run.run perform oneWorker (playsTwice.take 2)).heldEntries 2)
        ((Run.run perform oneWorker (playsTwice.take 2)).relayObjects 2) ∧
      (Run.run perform oneWorker (playsTwice.take 3)).heldEntries 2 ≠ ∅ ∧
      Event.danglingSink ⟨2, 1, ⟨1⟩⟩ ∈ (Run.run perform oneWorker playsTwice).log := by
  obtain ⟨hheld, hrelay⟩ : let w := Run.run perform oneWorker (playsTwice.take 2)
      w.heldSink ⟨0, ⟨1⟩, ⟨1⟩⟩ = some ⟨2, 1, ⟨1⟩⟩ ∧
        (w.relay 2 1).map (·.subscriberId) = some ⟨2⟩ := by decide +kernel
  have hstill : (Run.run perform oneWorker (playsTwice.take 3)).heldSink
      ⟨0, ⟨1⟩, ⟨1⟩⟩ = some ⟨2, 1, ⟨1⟩⟩ := by decide +kernel
  refine ⟨?_, ?_, by decide +kernel⟩
  · rintro ⟨hmaps, -⟩
    have hmem := hmaps (x := (⟨0, ⟨1⟩, ⟨1⟩⟩, ⟨2, 1, ⟨1⟩⟩)) ⟨hheld, rfl⟩
    have hgone := hrelay.symm.trans hmem.1
    simp at hgone
  · intro hempty
    have hmem : ((⟨0, ⟨1⟩, ⟨1⟩⟩, ⟨2, 1, ⟨1⟩⟩) : Seat × SinkRef) ∈
        (Run.run perform oneWorker (playsTwice.take 3)).heldEntries 2 :=
      ⟨hstill, rfl⟩
    rw [hempty] at hmem
    exact hmem

end World

end RtmpCore.Live
