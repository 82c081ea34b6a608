import RtmpCore.Live.Sinks
import RtmpCore.Support.Table

/-!
# Demand and audience

A fan-out tells the router of every subscriber that comes and of every one that
goes, and the router keeps a counter for each stream and worker.  The counters
are told of the changes one by one and never look at the fan-outs again, so that
a counter is right is a fact about all that has happened.

`Covers w w'` is the part of it that can be said of one call: if every counter
was at most the number of subscribers before, then it is so after the call, with
the counters as the call has changed them.
-/

namespace RtmpCore.Live

open Chunk Amf0 Support List Function Table LiveFanout

/-! ## The subscribers of a fan-out -/

namespace LiveFanout

variable (fanout : LiveFanout) (streamId : StreamId) (id : SubscriberId)

/-- The number of subscribers of a stream. -/
def audience : ℕ := (fanout.stateFor streamId).subscribers.keys.length

theorem audience_setState (state : StreamState) : (fanout.setState streamId state).audience =
      update fanout.audience streamId state.subscribers.keys.length := by
  funext streamId'
  rcases eq_or_ne streamId' streamId with rfl | hne
  · simp [audience, setState, stateFor]
  · simp [audience, setState, stateFor, hne]

variable {fanout streamId id}

theorem audience_setState_same {state : StreamState}
    (h : state.subscribers = (fanout.stateFor streamId).subscribers) :
    (fanout.setState streamId state).audience = fanout.audience := by
  rw [audience_setState, h]
  exact update_eq_self streamId fanout.audience

theorem audience_putSubscriber_new (entry : Subscriber) (h : fanout.subscriber streamId id = none) :
    (fanout.putSubscriber streamId id entry).audience = update fanout.audience streamId
        (fanout.audience streamId + 1) := by
  rw [← lookup_stateFor] at h
  rw [putSubscriber, audience_setState, length_keys_insert_new h]
  rfl

theorem audience_putSubscriber_old {old : Subscriber} (entry : Subscriber)
    (h : fanout.subscriber streamId id = some old) :
    (fanout.putSubscriber streamId id entry).audience = fanout.audience := by
  rw [← lookup_stateFor] at h
  rw [putSubscriber, audience_setState, length_keys_insert_old h]
  exact update_eq_self streamId fanout.audience

theorem audience_dropSubscriber {old : Subscriber} (h : fanout.subscriber streamId id = some old) :
    (fanout.dropSubscriber streamId id).audience = update fanout.audience streamId
        (fanout.audience streamId - 1) := by
  obtain ⟨state, hst, hent⟩ := Option.bind_eq_some_iff.mp h
  have hfor : fanout.stateFor streamId = state := by simp [stateFor, hst]
  rw [dropSubscriber, hst]
  rw [audience_setState, length_keys_erase hent, audience, hfor]

theorem audience_addSubscriber (sink : SinkRef) (ip : Bytes)
    (h : fanout.subscriber streamId id = none) :
    (fanout.addSubscriber streamId id sink ip).audience =
      update fanout.audience streamId (fanout.audience streamId + 1) := by
  rw [addSubscriber, lookup_stateFor, h]
  exact audience_putSubscriber_new _ h

theorem audience_removeStream : (fanout.removeStream streamId).1.audience =
      update fanout.audience streamId 0 := by
  funext streamId'
  rcases eq_or_ne streamId' streamId with rfl | hne
  · simp [audience, removeStream, stateFor]
  · simp [audience, removeStream, stateFor, hne]

theorem Serves.audience {fanout' : LiveFanout} {out : List SinkRef}
    (h : Serves streamId fanout fanout' out) :
    fanout'.audience = update fanout.audience streamId (fanout.audience streamId - out.length) := by
  induction h with
  | refl => exact (update_eq_self streamId fanout.audience).symm
  | put _ hent _ ih => rw [audience_putSubscriber_old _ hent, ih]
  | drop _ hent ih =>
    rw [audience_dropSubscriber hent, ih, update_idem, update_self, Nat.sub_sub, length_append]
    rfl

end LiveFanout

/-! ## What the router is told -/

variable (counters : ℕ × StreamId → ℕ)

/-- The counters of a router after a call: a negative change takes one off,
whatever its size. -/
def Event.demand : Event → ℕ × StreamId → ℕ
  | subscription worker streamId delta =>
    let counter := counters (worker, streamId)
    update counters (worker, streamId) (if 0 < delta then counter + delta.toNat
      else if delta < 0 then counter - 1 else counter)
  | streamEnd _ streamId => fun key => if key.2 = streamId then 0 else counters key
  | _ => counters

theorem Event.demand_mono {counters counters' : ℕ × StreamId → ℕ}
    (h : counters ≤ counters') (ev : Event) : ev.demand counters ≤ ev.demand counters' := by
  cases ev with
  | subscription worker streamId delta =>
    have hkey := h (worker, streamId)
    apply update_le_update_iff.mpr
    refine ⟨?_, fun key _ => h key⟩
    split_ifs
    · exact Nat.add_le_add_right hkey _
    · exact Nat.sub_le_sub_right hkey 1
    · exact hkey
  | streamEnd worker streamId =>
    intro key
    dsimp only [demand]
    split_ifs
    · exact Nat.zero_le _
    · exact h key
  | _ => exact h

theorem Event.demand_of_isMinor {ev : Event} (h : ev.isMinor)
    (counters : ℕ × StreamId → ℕ) : ev.demand counters = counters := by
  cases ev with
  | subscription | streamEnd => exact absurd h Bool.false_ne_true
  | _ => rfl

def demandAfter (events : List Event) : ℕ × StreamId → ℕ := events.foldl Event.demand counters

theorem demandAfter_of_isMinor {evs : List Event}
    (h : ∀ ev ∈ evs, ev.isMinor) (counters : ℕ × StreamId → ℕ) :
    demandAfter counters evs = counters := by
  induction evs with
  | nil => rfl
  | cons ev rest ih =>
    obtain ⟨hev, hrest⟩ := forall_mem_cons.mp h
    rw [demandAfter, foldl_cons, Event.demand_of_isMinor hev]
    exact ih hrest

theorem demandAfter_mono {counters counters' : ℕ × StreamId → ℕ}
    (h : counters ≤ counters') (evs : List Event) :
    demandAfter counters evs ≤ demandAfter counters' evs := by
  induction evs generalizing counters counters' with
  | nil => exact h
  | cons ev rest ih => exact ih (ev.demand_mono h)

theorem demandAfter_append (evs events' : List Event) :
    demandAfter counters (evs ++ events') = demandAfter (demandAfter counters evs) events' :=
  foldl_append

namespace World

/-- The number of subscribers of a stream at a worker. -/
def audience (w : World) (key : ℕ × StreamId) : ℕ := (w.fanouts key.1).audience key.2

theorem audience_congr {w w' : World} (h : w'.fanouts = w.fanouts) : w'.audience = w.audience := by
  funext key
  rw [audience, h, audience]

theorem audience_setFanout (w : World) {worker : ℕ} {streamId : StreamId}
    {fanout : LiveFanout} {count : ℕ}
    (h : fanout.audience = update (w.fanouts worker).audience streamId count) :
    (w.setFanout worker fanout).audience = update w.audience (worker, streamId) count := by
  funext ⟨worker', streamId'⟩
  rcases eq_or_ne worker' worker with rfl | hwork
  · rcases eq_or_ne streamId' streamId with rfl | hstr
    · simp [audience, setFanout, h]
    · simp [audience, setFanout, h, hstr]
  · simp [audience, setFanout, hwork]

/-! ## Calls keep the demand covered -/

/-- If the audience of `w` covers the counters, that of `w'` covers what the
calls in between have made of them. -/
def Covers (w w' : World) : Prop :=
  ∃ events, w'.log = w.log ++ events ∧ ∀ counters, counters ≤ w.audience →
      demandAfter counters events ≤ w'.audience

namespace Covers

variable {w w' w'' : World}

theorem after (h' : Covers w' w'') (h : Covers w w') : Covers w w'' := by
  refine log_after h h' fun evs evs' hcov hcov' counters hcnt => ?_
  rw [demandAfter_append]
  exact hcov' _ (hcov counters hcnt)

theorem congr (hfans : w'.fanouts = w.fanouts) (hlog : w'.log = w.log) : Covers w w' := by
  refine ⟨[], by simp [hlog], fun counters hcnt => ?_⟩
  rw [audience_congr hfans]
  exact hcnt

theorem refl (w : World) : Covers w w := .congr rfl rfl

end Covers

/-- The same for counters with a further property. -/
def CoversIf (P : (ℕ × StreamId → ℕ) → Prop) (w w' : World) : Prop :=
  ∃ events, w'.log = w.log ++ events ∧ ∀ counters, counters ≤ w.audience → P counters →
      demandAfter counters events ≤ w'.audience

theorem Covers.coversIf {P : (ℕ × StreamId → ℕ) → Prop} {w w' : World} (h : Covers w w') :
    CoversIf P w w' := by
  obtain ⟨evs, hlog, hcov⟩ := h
  exact ⟨evs, hlog, fun counters hcnt _ => hcov counters hcnt⟩

theorem Steady.covers {w w' : World} (h : Steady w w') : Covers w w' := by
  obtain ⟨evs, hlog, hminor⟩ := h.log
  refine ⟨evs, hlog, fun counters hcnt => ?_⟩
  rw [demandAfter_of_isMinor hminor, audience_congr h.fanouts]
  exact hcnt

/-- From `w` to `w'` the router is told that `gone` subscribers of a stream have
left a worker. -/
def TellsGone (worker : ℕ) (streamId : StreamId) (gone : ℕ) (w w' : World) : Prop :=
  w'.fanouts = w.fanouts ∧ ∃ events, w'.log = w.log ++ events ∧
    ∀ counters, demandAfter counters events = update counters (worker, streamId)
        (counters (worker, streamId) - gone)

section Gone

variable {worker : ℕ} {streamId : StreamId} {w w' w'' : World}

theorem tellsGone_emit (w : World) (worker : ℕ) (streamId : StreamId) :
    TellsGone worker streamId 1 w (w.emit (.subscription worker streamId (-1))) :=
  ⟨rfl, [_], rfl, fun _ => rfl⟩

theorem Steady.tellsGone (h : Steady w w') : TellsGone worker streamId 0 w w' := by
  obtain ⟨evs, hlog, hminor⟩ := h.log
  refine ⟨h.fanouts, evs, hlog, fun counters => ?_⟩
  rw [demandAfter_of_isMinor hminor]
  exact (update_eq_self _ counters).symm

theorem TellsGone.after {gone gone' : ℕ} (h' : TellsGone worker streamId gone' w' w'')
    (h : TellsGone worker streamId gone w w') : TellsGone worker streamId (gone + gone') w w'' := by
  refine ⟨h'.1.trans h.1, log_after h.2 h'.2 fun _ _ hgone hgone' counters => ?_⟩
  rw [demandAfter_append, hgone', hgone, update_idem, update_self, Nat.sub_sub]

theorem tellsGone_foldl {α : Type} {f : World → α → World} (items : List α)
    (hstep : ∀ w item, TellsGone worker streamId 1 w (f w item)) (w : World) :
    TellsGone worker streamId items.length w (items.foldl f w) := by
  induction items generalizing w with
  | nil => exact (Steady.refl w).tellsGone
  | cons item rest ih =>
    rw [length_cons, Nat.add_comm]
    exact (ih _).after (hstep w item)

theorem TellsGone.covers {fanout : LiveFanout} {gone : ℕ} (haudience : fanout.audience =
      update (w.fanouts worker).audience streamId ((w.fanouts worker).audience streamId - gone))
    (h : TellsGone worker streamId gone (w.setFanout worker fanout) w') :
    Covers w w' := by
  obtain ⟨hfans, evs, hlog, hgone⟩ := h
  refine ⟨evs, hlog, fun counters hcnt => ?_⟩
  rw [hgone, audience_congr hfans, w.audience_setFanout haudience]
  apply update_le_update_iff.mpr
  exact ⟨Nat.sub_le_sub_right (hcnt _) gone, fun key _ => hcnt key⟩

end Gone

/-! ## The fan-out -/

variable (w : World)

theorem tellsGone_evictForTransport (worker : ℕ) (streamId : StreamId) (sink : SinkRef) :
    TellsGone worker streamId 1 w (evictForTransport worker streamId w sink) :=
  (steady_sinkOnEnd_evicted _ sink).tellsGone.after (w.tellsGone_emit worker streamId)

variable (answers : Answers) (conn : UInt64) (m : UInt32)

variable (worker : ℕ) (streamId : StreamId)

theorem covers_runDeliveries (frame : SharedMediaFrame) (deliveries : List PendingDelivery) :
    Covers w (w.runDeliveries answers worker streamId frame deliveries) := by
  have hloop := w.steady_runDeliveryLoop answers frame deliveries
  unfold runDeliveries
  generalize w.runDeliveryLoop answers frame deliveries = run at hloop ⊢
  refine Covers.after ?_ hloop.covers
  obtain ⟨new, hnew, hserves⟩ := foldl_foldResult_serves streamId run.2 (run.1.fanouts worker, [])
  refine (tellsGone_foldl _ (fun w => w.tellsGone_evictForTransport worker streamId) _).covers ?_
  rw [hnew]
  exact hserves.audience

theorem covers_onMedia (kind : MediaKind) (answers : Answers) (worker : ℕ)
    (streamId : StreamId) (frame : SharedMediaFrame) (isReplayed : Bool) :
    Covers w (w.onMedia kind answers worker streamId frame isReplayed) := by
  unfold onMedia
  dsimp only
  have hcached := audience_setState_same
    (subscribers_cacheFrame frame ((w.fanouts worker).stateFor streamId) kind)
  generalize LiveFanout.cacheFrame ((w.fanouts worker).stateFor streamId) kind
    frame = cached at hcached ⊢
  have hdisp := (w.dispatchLocked_seats worker streamId frame kind cached.2.2
    ((w.fanouts worker).setState streamId cached.1)).2.2.audience
  generalize ((w.fanouts worker).setState streamId cached.1).dispatchLocked
    streamId frame kind cached.2.2 = dispatched at hdisp ⊢
  rw [hcached] at hdisp
  have htold : Covers w ((dispatched.2.filter fun delivery => delivery.kind = none).foldl
        (fun w _ => w.emit (.subscription worker streamId (-1)))
        (w.setFanout worker dispatched.1)) := by
    refine (tellsGone_foldl _ (fun w _ => w.tellsGone_emit worker streamId) _).covers ?_
    rw [hdisp, evictedSinks, length_map]
  have hrun := (covers_runDeliveries _ answers worker streamId frame dispatched.2).after htold
  split_ifs
  · exact hrun
  · exact (steady_emit _ rfl).covers.after hrun

/-- A fan-out changes, calls follow that move nobody, and then the router is
told. -/
theorem Steady.covers_emit {w w' : World} {worker : ℕ} {fanout : LiveFanout}
    {ev : Event} (h : Steady (w.setFanout worker fanout) w')
    (hev : ∀ counters, counters ≤ w.audience →
      ev.demand counters ≤ (w.setFanout worker fanout).audience) :
    Covers w (w'.emit ev) := by
  obtain ⟨evs, hlog, hminor⟩ := h.log
  refine ⟨evs ++ [ev], ?_, fun counters hcnt => ?_⟩
  · rw [← append_assoc, emit, hlog]
    rfl
  · rw [demandAfter_append, demandAfter_of_isMinor hminor,
      audience_congr (fanouts_emit w' ev), audience_congr h.fanouts]
    exact hev counters hcnt

theorem covers_subscribe {worker : ℕ} {streamId : StreamId} {id : SubscriberId} (sink : SinkRef)
    (ip : Bytes) (h : (w.fanouts worker).subscriber streamId id = none) :
    Covers w (w.subscribe answers worker streamId id sink ip) := by
  refine Steady.covers_emit
    (Steady.foldl _ (fun w item => w.steady_sinkOnMedia answers sink _ _) _) ?_
  intro counters hcnt
  rw [w.audience_setFanout (audience_addSubscriber sink ip h)]
  apply update_le_update_iff.mpr
  exact ⟨Nat.succ_le_succ (hcnt _), fun key _ => hcnt key⟩

theorem covers_unsubscribe (id : SubscriberId) : Covers w (w.unsubscribe worker streamId id) := by
  unfold unsubscribe
  cases hent : (w.fanouts worker).subscriber streamId id with
  | none => exact .refl w
  | some entry => exact (tellsGone_emit _ worker streamId).covers (audience_dropSubscriber hent)

theorem audience_withoutStream :
    (w.setFanout worker ((w.fanouts worker).removeStream streamId).1).audience =
      update w.audience (worker, streamId) 0 :=
  w.audience_setFanout audience_removeStream

/-- The end of a stream empties one fan-out and clears the counters of all
workers. -/
theorem covers_publisherStopped : Covers w (w.publisherStopped worker streamId false) := by
  unfold publisherStopped
  split
  · exact .refl w
  dsimp only
  refine Steady.covers_emit (Steady.foldl _ (fun w => w.steady_sinkOnEnd_stopped) _) ?_
  intro counters hcnt key
  rw [audience_withoutStream]
  change (if key.2 = streamId then 0 else counters key) ≤ _
  split_ifs with hstr
  · exact Nat.zero_le _
  · rw [update_of_ne fun h => hstr (congrArg Prod.snd h)]
    exact hcnt key

/-- The end of a stream that another worker has told of empties one fan-out and
clears no counter. -/
theorem covers_replayedStop : CoversIf (fun counters => counters (worker, streamId) = 0) w
    (w.publisherStopped worker streamId true) := by
  unfold publisherStopped
  split
  · exact ⟨[], by simp, fun _ h _ => h⟩
  dsimp only
  rw [if_pos rfl]
  have hended := Steady.foldl ((w.fanouts worker).removeStream streamId).2
    (fun w => w.steady_sinkOnEnd_stopped)
    (w.setFanout worker ((w.fanouts worker).removeStream streamId).1)
  obtain ⟨evs, hlog, hminor⟩ := hended.log
  refine ⟨evs, hlog, fun counters hcnt hzero => ?_⟩
  rw [demandAfter_of_isMinor hminor, audience_congr hended.fanouts,
    audience_withoutStream, ← update_eq_self (worker, streamId) counters, hzero]
  exact update_le_update_iff.mpr ⟨le_rfl, fun key _ => hcnt key⟩

/-! ## The commands -/

theorem covers_handleConnect (cmd : Amf0Command) : Covers w (w.handleConnect conn cmd) := by
  exact (steady_sendResult _ _ _ _ _).covers.after (.congr rfl rfl)

theorem covers_attachRelay {worker : ℕ} {streamId : StreamId}
    (h : w.ledger.held ⟨worker, streamId, ⟨w.ledger.minted + 1⟩⟩ = none) :
    Covers w (w.attachRelay answers conn m worker streamId) := by
  have hfree : (w.fanouts worker).subscriber streamId ⟨w.subscriberIdCount + 1⟩ = none := by
    simpa [ledger, heldSink] using h
  refine Covers.after (covers_subscribe _ answers _ _ ?_) (.congr rfl rfl)
  exact hfree

theorem covers_handlePlay {w : World} {loose : Set SinkRef}
    (h : w.ledger.Tended loose) (answers : Answers) (conn : UInt64)
    (cmd : Amf0Command) (m : UInt32) : Covers w (w.handlePlay answers conn cmd m) := by
  have hsta : Covers w (w.startPlaying conn m (splitQuery cmd.streamName).1) :=
    (w.steady_startPlaying conn m _).covers
  unfold handlePlay
  dsimp only
  cases playAuthorized (w.sessions conn).config answers with
  | false => exact (w.steady_sendStatus _ _ _ _ _).covers
  | true =>
    -- that a viewer has joined does not concern the router
    refine Covers.after ⟨[_], rfl, fun _ hcnt => hcnt⟩ ?_
    cases (w.sessions conn).config.liveFanout with
    | none => exact hsta
    | some worker =>
      split_ifs
      · exact hsta
      · refine (covers_attachRelay _ answers conn m ?_).after hsta
        rw [ledger_startPlaying]
        exact h.held_fresh worker _

theorem rides_covers : Rides Covers where
  steady := Steady.covers
  after := Covers.after
  onMedia kind answers w := w.covers_onMedia kind answers
  unsubscribe := covers_unsubscribe
  publisherStopped := covers_publisherStopped

/-- Whatever happens, the audience goes on covering the demand.  A stream's end
that comes from another worker must find no demand there. -/
theorem covers_perform {w : World} {loose : Set SinkRef}
    (h : w.ledger.Tended loose) (act : Action) :
    CoversIf (fun counters => ∀ worker streamId, act = .replayedStop worker streamId →
      counters (worker, streamId) = 0) w (w.perform act) := by
  cases act with
  | message conn msg answers =>
    apply Covers.coversIf
    exact rides_covers.handleMessage w conn (w.covers_handleConnect conn)
      fun cmd _ _ _ => covers_handlePlay h answers conn cmd _
  | closed conn order => exact (rides_covers.onConnectionClosed w conn order).coversIf
  | replayedMedia worker streamId kind frame answers =>
    apply Covers.coversIf
    rw [perform, onFrame_eq]
    exact w.covers_onMedia kind answers worker streamId frame true
  | replayedStop worker streamId =>
    obtain ⟨evs, hlog, hcov⟩ := w.covers_replayedStop worker streamId
    exact ⟨evs, hlog, fun counters hcnt hzero => hcov counters hcnt (hzero worker streamId rfl)⟩

end World

end RtmpCore.Live
