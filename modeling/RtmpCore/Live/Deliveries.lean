import RtmpCore.Live.Bookkeeping

/-!
# What a fan-out does to the ledger

A media frame, a stopped publisher and a departing viewer all come to the same
for the ledger: sinks are evicted, and nothing else happens.  For media this
needs that the sinks which are called are alive, which custody guarantees.
-/

namespace RtmpCore.Live

open Support List Function AList LiveFanout

namespace World

/-- The sinks that are told about their eviction. -/
def evictedSinks (deliveries : List PendingDelivery) : List SinkRef :=
  (deliveries.filter fun delivery => delivery.kind = none).map (·.sink)

theorem evictedSinks_append (deliveries deliveries' : List PendingDelivery) :
    evictedSinks (deliveries ++ deliveries') =
      evictedSinks deliveries ++ evictedSinks deliveries' := by
  simp [evictedSinks]

end World

namespace LiveFanout

/-- What serving the subscribers of a stream comes to: entries are written
anew, and others are dropped, whose sinks are listed. -/
inductive Serves (streamId : StreamId) (fanout : LiveFanout) :
    LiveFanout → List SinkRef → Prop where
  | refl : Serves streamId fanout fanout []
  | put {fanout' : LiveFanout} {out : List SinkRef} {id : SubscriberId} {entry entry' : Subscriber}
      (h : Serves streamId fanout fanout' out) (hentry : fanout'.subscriber streamId id = some entry)
      (hsink : entry'.sink = entry.sink) :
      Serves streamId fanout (fanout'.putSubscriber streamId id entry') out
  | drop {fanout' : LiveFanout} {out : List SinkRef} {id : SubscriberId} {entry : Subscriber}
      (h : Serves streamId fanout fanout' out)
      (hentry : fanout'.subscriber streamId id = some entry) :
      Serves streamId fanout (fanout'.dropSubscriber streamId id) (out ++ [entry.sink])

variable {sid : StreamId} {fanout fanout' fanout'' : LiveFanout} {out out' : List SinkRef}

theorem Serves.trans (h : Serves sid fanout fanout' out) (h' : Serves sid fanout' fanout'' out') :
    Serves sid fanout fanout'' (out ++ out') := by
  induction h' with
  | refl => rwa [append_nil]
  | put _ hent hsink ih => exact ih.put hent hsink
  | drop _ hent ih =>
    rw [← append_assoc]
    exact ih.drop hent

theorem Serves.releases (h : Serves sid fanout fanout' out) (w : World) (worker : ℕ) :
    Releases (w.setFanout worker fanout).heldSink (w.setFanout worker fanout').heldSink out := by
  induction h with
  | refl => exact .nil
  | put _ hent hsink ih =>
    rw [w.heldSink_putSubscriber worker _ sid _ _ hent hsink]
    exact ih
  | drop _ hent ih =>
    rw [World.heldSink_dropSubscriber]
    exact ih.snoc (by simp [World.heldSink_setFanout, hent])

end LiveFanout

namespace World

section Dispatch

variable (w : World) (worker : ℕ) (sid : StreamId)
  (frame : SharedMediaFrame) (kind : MediaKind) (isKeyframe : Bool)

/-- A subscriber that is offered a frame keeps its seat or loses it with a
notice; a delivery goes to the sink in the seat. -/
theorem offerTo_seats (prog : LiveFanout × List PendingDelivery) (id : SubscriberId) :
    ∃ new : List PendingDelivery,
      (LiveFanout.offerTo sid frame kind isKeyframe prog id).2 = prog.2 ++ new ∧
      (new.map (·.subscriberId)).Sublist [id] ∧
      (∀ delivery ∈ new, (w.setFanout worker prog.1).heldSink
        ⟨worker, sid, delivery.subscriberId⟩ = some delivery.sink) ∧
      Serves sid prog.1 (LiveFanout.offerTo sid frame kind isKeyframe prog id).1
        (evictedSinks new) := by
  unfold LiveFanout.offerTo
  cases hent : prog.1.subscriber sid id with
  | none => exact ⟨[], by simp, by simp, by simp, .refl⟩
  | some entry =>
    have hseat : (w.setFanout worker prog.1).heldSink ⟨worker, sid, id⟩ = some entry.sink := by
      simp [heldSink_setFanout, hent]
    dsimp only
    generalize entry.queue.offer {} frame.payload.length (kind = .video) isKeyframe = offered
    obtain ⟨queue, decision⟩ := offered
    have hkept : Serves sid prog.1 (prog.1.putSubscriber sid id { entry with queue }) [] :=
      .put .refl hent rfl
    cases decision with
    | deliver | deliverResumed => exact ⟨[_], rfl, by simp, by simpa using hseat, hkept⟩
    | dropAndWait => exact ⟨[], by simp, by simp, by simp, hkept⟩
    | evict => exact ⟨[_], rfl, by simp, by simpa using hseat, .drop .refl hent⟩

theorem foldl_offerTo_seats (ids : List SubscriberId) (prog : LiveFanout × List PendingDelivery) :
    ∃ new : List PendingDelivery, (ids.foldl (LiveFanout.offerTo sid frame kind isKeyframe)
        prog).2 = prog.2 ++ new ∧
      (new.map (·.subscriberId)).Sublist ids ∧
      (∀ delivery ∈ new, (w.setFanout worker prog.1).heldSink
        ⟨worker, sid, delivery.subscriberId⟩ = some delivery.sink) ∧
      Serves sid prog.1 (ids.foldl (LiveFanout.offerTo sid frame kind isKeyframe) prog).1
        (evictedSinks new) := by
  induction ids generalizing prog with
  | nil => exact ⟨[], by simp, by simp, by simp, .refl⟩
  | cons id rest ih =>
    obtain ⟨first, hfst, hfirstIds, hfirstSeats, hfirstOut⟩ :=
      w.offerTo_seats worker sid frame kind isKeyframe prog id
    obtain ⟨later, hlater, hlaterIds, hlaterSeats, hlaterOut⟩ :=
      ih (LiveFanout.offerTo sid frame kind isKeyframe prog id)
    refine ⟨first ++ later, ?_, ?_, ?_, ?_⟩
    · rw [foldl_cons, hlater, hfst, append_assoc]
    · simpa using hfirstIds.append hlaterIds
    · intro delivery hmem
      rcases mem_append.mp hmem with hmem | hmem
      · exact hfirstSeats delivery hmem
      · exact (hfirstOut.releases w worker).held_before (hlaterSeats delivery hmem)
    · rw [evictedSinks_append]
      exact hfirstOut.trans hlaterOut

theorem dispatchLocked_seats (fanout : LiveFanout) :
    let dispatched := fanout.dispatchLocked sid frame kind isKeyframe
    (dispatched.2.map (·.subscriberId)).Nodup ∧
      (∀ delivery ∈ dispatched.2, (w.setFanout worker fanout).heldSink
        ⟨worker, sid, delivery.subscriberId⟩ = some delivery.sink) ∧
      Serves sid fanout dispatched.1 (evictedSinks dispatched.2) := by
  obtain ⟨new, hnew, hids, hseats, hout⟩ := w.foldl_offerTo_seats worker
    sid frame kind isKeyframe (fanout.stateFor sid).subscribers.keys
    (fanout, [])
  intro dispatched
  have hdeliveries : dispatched.2 = new := hnew
  rw [hdeliveries]
  exact ⟨hids.nodup (keys_nodup _), hseats, hout⟩

end Dispatch

section Deliveries

variable (answers : Answers) (frame : SharedMediaFrame) (w : World)

theorem ledger_runDelivery {delivery : PendingDelivery} (h : delivery.sink ∈ w.ledger.alive) :
    (w.runDelivery answers frame delivery).1.ledger =
      if delivery.kind = none then w.ledger.finish delivery.sink
      else w.ledger := by
  -- media calls of a living sink leave the ledger alone
  have hmedia : ∀ (w' : World) (kind : MediaKind) (frame : SharedMediaFrame), w'.ledger = w.ledger →
        (w'.sinkOnMedia answers delivery.sink kind frame).1.ledger = w.ledger := by
    intro w' kind frame hw'
    rw [ledger_sinkOnMedia, hw', Ledger.touch_of_alive h]
  have hresent : ∀ (w' : World) (header : Option SharedMediaFrame)
      (kind : MediaKind), w'.ledger = w.ledger → (header.elim w' fun header =>
          (w'.sinkOnMedia answers delivery.sink kind header).1).ledger = w.ledger := by
    intro w' header kind hw'
    cases header with
    | none => exact hw'
    | some header => exact hmedia w' kind header hw'
  have hprimed := hresent _ delivery.resendAudioSeqHeader .audio
    (hresent w delivery.resendVideoSeqHeader .video rfl)
  unfold runDelivery
  cases hkind : delivery.kind with
  | some kind => exact hmedia _ kind frame hprimed
  | none => rw [ledger_sinkOnEnd endsPlayback_evicted, hprimed, if_pos rfl]

variable {deliveries : List PendingDelivery} {loose : Set SinkRef}

/-- Deliveries to distinct living sinks end the playback of those that are
evicted, and do nothing else. -/
theorem ledger_runDeliveryLoop (hal : ∀ delivery ∈ deliveries, delivery.sink ∈ w.ledger.alive)
    (hnd : (deliveries.map (·.sink)).Nodup) :
    (w.runDeliveryLoop answers frame deliveries).1.ledger =
      (evictedSinks deliveries).foldl Ledger.finish w.ledger := by
  induction deliveries generalizing w with
  | nil => rfl
  | cons delivery rest ih =>
    obtain ⟨hfsh, hnd⟩ := nodup_cons.mp hnd
    have hhead := hal delivery mem_cons_self
    have hled := w.ledger_runDelivery answers frame hhead
    have hloop : (w.runDeliveryLoop answers frame (delivery :: rest)).1 =
        ((w.runDelivery answers frame delivery).1.runDeliveryLoop answers frame rest).1 := rfl
    have hrest : ∀ later ∈ rest,
        later.sink ∈ (w.runDelivery answers frame delivery).1.ledger.alive := by
      intro later hmem
      have hlater := hal later (mem_cons_of_mem _ hmem)
      rw [hled]
      split
      · have hne : later.sink ≠ delivery.sink := fun heq =>
          hfsh (mem_map.mpr ⟨later, hmem, heq⟩)
        rw [Ledger.finish_of_alive hhead, Ledger.alive_endPlayback hhead]
        exact ⟨hlater, hne⟩
      · exact hlater
    rw [hloop, ih _ hrest hnd, hled]
    by_cases hkind : delivery.kind = none
    · simp [evictedSinks, hkind]
    · simp [evictedSinks, hkind]

variable (worker : ℕ) (sid : StreamId)

theorem foldResult_serves (prog : LiveFanout × List SinkRef) (result : PendingDelivery × Bool) :
    ∃ new : List SinkRef, (LiveFanout.foldResult sid prog result).2 = prog.2 ++ new ∧
      Serves sid prog.1 (LiveFanout.foldResult sid prog result).1 new := by
  obtain ⟨delivery, delivered⟩ := result
  unfold LiveFanout.foldResult
  dsimp only
  by_cases hkind : delivery.kind = none
  · rw [if_pos hkind]
    exact ⟨[], by simp, .refl⟩
  rw [if_neg hkind]
  cases hent : prog.1.subscriber sid delivery.subscriberId with
  | none => exact ⟨[], by simp, .refl⟩
  | some entry =>
    dsimp only
    split_ifs
    · exact ⟨[], by simp, .refl⟩
    · exact ⟨[], by simp, .put .refl hent rfl⟩
    · exact ⟨[entry.sink], rfl, .drop .refl hent⟩
    · exact ⟨[], by simp, .put .refl hent rfl⟩

theorem foldl_foldResult_serves (results : List (PendingDelivery × Bool))
    (prog : LiveFanout × List SinkRef) :
    ∃ new : List SinkRef, (results.foldl (LiveFanout.foldResult sid) prog).2 = prog.2 ++ new ∧
      Serves sid prog.1 (results.foldl (LiveFanout.foldResult sid) prog).1 new := by
  induction results generalizing prog with
  | nil => exact ⟨[], by simp, .refl⟩
  | cons result rest ih =>
    obtain ⟨first, hfst, hfirstOut⟩ := foldResult_serves sid prog result
    obtain ⟨later, hlater, hlaterOut⟩ := ih (LiveFanout.foldResult sid prog result)
    refine ⟨first ++ later, ?_, hfirstOut.trans hlaterOut⟩
    rw [foldl_cons, hlater, hfst, append_assoc]

theorem ledger_foldl_evictForTransport (sinks : List SinkRef) :
    (sinks.foldl (evictForTransport worker sid) w).ledger = sinks.foldl Ledger.finish w.ledger := by
  induction sinks generalizing w with
  | nil => rfl
  | cons sink rest ih =>
    rw [foldl_cons, foldl_cons, ih, evictForTransport,
      ledger_sinkOnEnd endsPlayback_evicted, ledger_emit_of_quiet w rfl rfl]

/-- Deliveries to distinct living sinks evict those that are to be told so,
and those whose deliveries failed too often. -/
theorem evicts_runDeliveries {l : Ledger}
    (hal : ∀ delivery ∈ deliveries, delivery.sink ∈ w.ledger.alive)
    (hnd : (deliveries.map (·.sink)).Nodup)
    (hout : l.Evicts ((evictedSinks deliveries).foldl Ledger.finish w.ledger)) :
    l.Evicts (w.runDeliveries answers worker sid frame deliveries).ledger := by
  have hloop := w.ledger_runDeliveryLoop answers frame hal hnd
  unfold runDeliveries
  dsimp only
  generalize w.runDeliveryLoop answers frame deliveries = run at hloop ⊢
  obtain ⟨new, hnew, hserves⟩ := foldl_foldResult_serves sid run.2 (run.1.fanouts worker, [])
  have hrel := hserves.releases run.1 worker
  rw [setFanout_self] at hrel
  rw [hnew, ledger_foldl_evictForTransport]
  have hfst : l.Evicts run.1.ledger := by rwa [hloop]
  exact hfst.trans (Ledger.evicts_of_releases hrel)

theorem subscribers_cacheFrame (state : StreamState) (kind : MediaKind) :
    (LiveFanout.cacheFrame state kind frame).1.subscribers = state.subscribers := by
  unfold LiveFanout.cacheFrame
  cases kind <;> dsimp only <;> split_ifs <;> rfl

theorem heldSink_cacheFrame (kind : MediaKind) :
    (w.setFanout worker ((w.fanouts worker).setState sid
      (LiveFanout.cacheFrame ((w.fanouts worker).stateFor sid) kind
        frame).1)).heldSink = w.heldSink := by
  have hself := congrArg heldSink (w.setFanout_self worker)
  rw [← hself]
  apply heldSink_setFanout_congr
  intro streamId' id
  rw [subscriber_setState, subscribers_cacheFrame]
  split
  case isTrue h =>
    subst h
    rw [lookup_stateFor]
  case isFalse => rfl

theorem ledger_foldl_subscription (deliveries : List PendingDelivery) :
    (deliveries.foldl (fun w _ => w.emit (.subscription worker sid (-1))) w).ledger = w.ledger := by
  induction deliveries generalizing w with
  | nil => rfl
  | cons _ rest ih => exact (ih _).trans (w.ledger_emit_of_quiet rfl rfl)

theorem nodup_sinks {held : Seat → Option SinkRef} {alive : Set SinkRef}
    (h : Custody held alive loose) {worker : ℕ} {sid : StreamId}
    (hids : (deliveries.map (·.subscriberId)).Nodup) (hseats : ∀ delivery ∈ deliveries,
      held ⟨worker, sid, delivery.subscriberId⟩ = some delivery.sink) :
    (deliveries.map (·.sink)).Nodup := by
  apply pairwise_map.mpr
  apply (pairwise_map.mp hids).imp_of_mem
  intro delivery delivery' hmem hmem' hne heq
  have hseat := h.seat_unique (hseats delivery hmem) (heq ▸ hseats delivery' hmem')
  exact hne (congrArg Seat.subscriberId hseat)

/-- A media frame evicts subscribers and does nothing else to the ledger. -/
theorem evicts_onMedia (h : Custody w.ledger.held w.ledger.alive loose) (kind : MediaKind)
    (worker : ℕ) (sid : StreamId) (isReplayed : Bool) :
    w.ledger.Evicts (w.onMedia kind answers worker sid frame isReplayed).ledger := by
  unfold onMedia
  dsimp only
  have hcached := w.heldSink_cacheFrame frame worker sid kind
  generalize LiveFanout.cacheFrame ((w.fanouts worker).stateFor sid) kind
    frame = cached at hcached ⊢
  obtain ⟨hids, hseats, hserves⟩ := w.dispatchLocked_seats worker sid frame
    kind cached.2.2 ((w.fanouts worker).setState sid cached.1)
  have hout := hserves.releases w worker
  generalize ((w.fanouts worker).setState sid cached.1).dispatchLocked
    sid frame kind cached.2.2 = dispatched at hids hseats hserves hout ⊢
  simp only [hcached] at hseats hout
  -- the hooks are told about the evictions before the sinks are
  generalize hw' : (dispatched.2.filter fun delivery => delivery.kind = none).foldl
    (fun w _ => w.emit (.subscription worker sid (-1)))
    (w.setFanout worker dispatched.1) = w'
  have hled : w'.ledger = w.ledger.withHeld (w.setFanout worker dispatched.1).heldSink := by
    rw [← hw', ledger_foldl_subscription, ledger_setFanout]
  have hruns : w.ledger.Evicts (w'.runDeliveries answers worker sid frame dispatched.2).ledger := by
    apply w'.evicts_runDeliveries answers frame worker sid
    · intro delivery hmem
      rw [hled]
      exact h.alive_of_held (hseats delivery hmem)
    · exact nodup_sinks h hids hseats
    · rw [hled]
      exact Ledger.evicts_of_releases hout
  split_ifs
  · exact hruns
  · rw [ledger_emit_of_quiet _ rfl rfl]
    exact hruns

end Deliveries

/-! ## Joining and leaving -/

section Seats

variable (w : World) (worker : ℕ) (sid : StreamId)

theorem releases_removeStream : Releases w.heldSink
      (w.setFanout worker ((w.fanouts worker).removeStream sid).1).heldSink
      ((w.fanouts worker).removeStream sid).2 := by
  let subscribers := ((w.fanouts worker).stateFor sid).subscribers
  let seats := subscribers.entries.map fun entry => ((⟨worker, sid, entry.1⟩ : Seat), entry.2.sink)
  have hent : ∀ id entry, ⟨id, entry⟩ ∈ subscribers.entries ↔
      (w.fanouts worker).subscriber sid id = some entry := by
    intro id entry
    rw [← lookup_stateFor]
    exact mem_lookup_iff.symm
  have hnd : (seats.map Prod.fst).Nodup := by
    have hkeys : (subscribers.entries.map Sigma.fst).Nodup := subscribers.nodupKeys
    rw [map_map]
    apply pairwise_map.mpr
    apply (pairwise_map.mp hkeys).imp
    intro entry entry' hne heq
    exact hne (congrArg Seat.subscriberId heq)
  have hheld : ∀ seat ∈ seats, w.heldSink seat.1 = some seat.2 := by
    intro seat hmem
    obtain ⟨entry, hsub, rfl⟩ := mem_map.mp hmem
    simp [heldSink, (hent entry.1 entry.2).mp hsub]
  have hrel := Releases.ofSeats seats hnd hheld
  have hsinks : seats.map Prod.snd = ((w.fanouts worker).removeStream sid).2 := map_map
  rw [← hsinks]
  convert hrel using 1
  ext1 ⟨worker', streamId', id⟩
  rw [heldSink_setFanout]
  by_cases hhere : worker' = worker ∧ streamId' = sid
  · obtain ⟨rfl, rfl⟩ := hhere
    have heras : (LiveFanout.removeStream (w.fanouts worker') streamId').1.subscriber
        streamId' id = none := by
      simp [LiveFanout.removeStream, LiveFanout.subscriber]
    rw [if_pos rfl, heras]
    -- a seat that is not in the list was empty already
    split
    case isTrue => rfl
    case isFalse hnot =>
      cases hsome : (w.fanouts worker').subscriber streamId' id with
      | none => simp [heldSink, hsome]
      | some entry =>
        have hmem := (hent id entry).mpr hsome
        exact absurd (by simpa [seats] using ⟨entry, hmem⟩) hnot
  · have hnot : (⟨worker', streamId', id⟩ : Seat) ∉ seats.map Prod.fst := by
      intro hmem
      obtain ⟨seat, hmem, heq⟩ := mem_map.mp hmem
      obtain ⟨entry, -, rfl⟩ := mem_map.mp hmem
      simp only [Seat.mk.injEq] at heq
      exact hhere ⟨heq.1.symm, heq.2.1.symm⟩
    rw [if_neg hnot]
    by_cases hwork : worker' = worker
    · subst hwork
      have hstr : streamId' ≠ sid := fun h => hhere ⟨rfl, h⟩
      simp [heldSink, LiveFanout.removeStream, LiveFanout.subscriber, lookup_erase_ne hstr]
    · rw [if_neg hwork]

theorem evicts_publisherStopped (isReplayed : Bool) :
    w.ledger.Evicts (w.publisherStopped worker sid isReplayed).ledger := by
  unfold publisherStopped
  split
  · exact .refl
  · have hends : w.ledger.Evicts (((w.fanouts worker).removeStream sid).2.foldl
          (sinkOnEnd handlePlaybackPublisherStopped)
          (w.setFanout worker ((w.fanouts worker).removeStream sid).1)).ledger := by
      rw [ledger_foldl_sinkOnEnd endsPlayback_publisherStopped]
      exact Ledger.evicts_of_releases (w.releases_removeStream worker sid)
    split_ifs
    · exact hends
    · rw [ledger_emit_of_quiet _ rfl rfl]
      exact hends

theorem ledger_unsubscribe (id : SubscriberId) : (w.unsubscribe worker sid id).ledger =
      w.ledger.withHeld (update w.ledger.held ⟨worker, sid, id⟩ none) := by
  unfold unsubscribe
  cases hent : (w.fanouts worker).subscriber sid id with
  | none =>
    have hemp : update w.ledger.held ⟨worker, sid, id⟩ none = w.ledger.held :=
      update_eq_self_iff.mpr (by simp [ledger, heldSink, hent])
    rw [hemp]
    rfl
  | some entry =>
    rw [ledger_emit_of_quiet _ rfl rfl, ledger_setFanout, heldSink_dropSubscriber, setFanout_self]
    rfl

/-- A living sink takes a free seat; what it is sent first leaves the ledger
alone. -/
theorem ledger_subscribe (answers : Answers) (id : SubscriberId) (sink : SinkRef) (ip : Bytes)
    (hfree : w.ledger.held ⟨worker, sid, id⟩ = none) (hal : sink ∈ w.ledger.alive) :
    (w.subscribe answers worker sid id sink ip).ledger =
      w.ledger.withHeld (update w.ledger.held ⟨worker, sid, id⟩ (some sink)) := by
  have hemp : (w.fanouts worker).subscriber sid id = none := by simpa [ledger, heldSink] using hfree
  have hstartup : ∀ (items : List (MediaKind × SharedMediaFrame)) (w' : World),
      sink ∈ w'.ledger.alive → (items.foldl (fun w item =>
          (w.sinkOnMedia answers sink item.1 item.2).1) w').ledger = w'.ledger := by
    intro items
    induction items with
    | nil => exact fun _ _ => rfl
    | cons item rest ih =>
      intro w' hal'
      have hsame : (w'.sinkOnMedia answers sink item.1 item.2).1.ledger = w'.ledger := by
        rw [ledger_sinkOnMedia, Ledger.touch_of_alive hal']
      rw [foldl_cons, ih _ (by rwa [hsame]), hsame]
  have hseat := w.heldSink_addSubscriber worker (w.fanouts worker) sid id sink ip hemp
  rw [setFanout_self] at hseat
  unfold subscribe
  rw [ledger_emit_of_quiet _ rfl rfl, hstartup, ledger_setFanout, hseat]
  · rfl
  · exact hal

end Seats

end World

end RtmpCore.Live
