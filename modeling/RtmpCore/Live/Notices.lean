import RtmpCore.Live.Steady

/-!
# Who tells of a new viewer

Viewers join by `play` commands only.  `Attaches home joined w w'` says of a
part of the server that it tells of the viewers `joined`, that it leaves the
configuration of every session alone, and that it changes the application of
no session outside `home`.
-/

namespace RtmpCore.Live

open Chunk Amf0 List

/-- The application and the name of the stream that a viewer has joined. -/
def Event.attachment : Event → Option (Bytes × Bytes)
  | .viewerAttached _ app name => some (app, name)
  | _ => none

namespace World

structure Attaches (home : Set UInt64) (joined : List (Bytes × Bytes)) (w w' : World) : Prop where
  log : ∃ events, w'.log = w.log ++ events ∧ events.filterMap Event.attachment = joined
  config : ∀ c, (w'.sessions c).config = (w.sessions c).config
  appName : ∀ c, c ∉ home → (w'.sessions c).appName = (w.sessions c).appName

namespace Attaches

variable {home : Set UInt64} {joined : List (Bytes × Bytes)} {w w' w'' : World}

theorem refl (w : World) : Attaches home [] w w where
  log := ⟨[], by simp⟩
  config _ := rfl
  appName _ _ := rfl

theorem after (h' : Attaches home joined w' w'') (h : Attaches home [] w w') :
    Attaches home joined w w'' where
  log := log_after h.log h'.log fun _ _ hnone hjoin => by
    rw [filterMap_append, hnone, hjoin, nil_append]
  config c := (h'.config c).trans (h.config c)
  appName c hc := (h'.appName c hc).trans (h.appName c hc)

theorem foldl {α : Type} {f : World → α → World} (items : List α)
    (hstep : ∀ w item, Attaches home [] w (f w item)) (w : World) :
    Attaches home [] w (items.foldl f w) := by
  induction items generalizing w with
  | nil => exact .refl w
  | cons item rest ih => exact (ih _).after (hstep w item)

theorem congr (hlog : w'.log = w.log) (hsess : w'.sessions = w.sessions) :
    Attaches home [] w w' where
  log := ⟨[], by simp [hlog]⟩
  config c := by rw [hsess]
  appName c _ := by rw [hsess]

end Attaches

theorem Steady.attaches {home : Set UInt64} {w w' : World} (h : Steady w w') :
    Attaches home [] w w' where
  log := by
    obtain ⟨evs, hlog, hminor⟩ := h.log
    refine ⟨evs, hlog, filterMap_eq_nil_iff.mpr fun ev hmem => ?_⟩
    cases ev with
    | viewerAttached => exact absurd (hminor _ hmem) Bool.false_ne_true
    | _ => rfl
  config := h.config
  appName c _ := h.appName c

variable {home : Set UInt64} (w : World)

theorem attaches_emit {ev : Event} (h : ev.attachment = none) : Attaches home [] w (w.emit ev) where
  log := ⟨[ev], rfl, by simp [h]⟩
  config _ := rfl
  appName _ _ := rfl

theorem attaches_setSession {conn : UInt64} {sess : CommandSession}
    (hcfg : sess.config = (w.sessions conn).config)
    (happ : conn ∉ home → sess.appName = (w.sessions conn).appName) :
    Attaches home [] w (w.setSession conn sess) where
  log := ⟨[], by simp [setSession]⟩
  config := w.sessions_setSession (·.config) hcfg
  appName c hc := by
    rcases eq_or_ne c conn with rfl | hne
    · simp [setSession, happ hc]
    · simp [setSession, hne]

variable (answers : Answers) (conn : UInt64) (m : UInt32) (worker : ℕ) (sid : StreamId)

theorem attaches_setFanout (fanout : LiveFanout) : Attaches home [] w (w.setFanout worker fanout) :=
  .congr rfl rfl

/-! ## The fan-out -/

theorem attaches_evictForTransport (sink : SinkRef) :
    Attaches home [] w (evictForTransport worker sid w sink) :=
  (steady_sinkOnEnd_evicted _ _).attaches.after (w.attaches_emit rfl)

theorem attaches_runDeliveries (frame : SharedMediaFrame) (deliveries : List PendingDelivery) :
    Attaches home [] w (w.runDeliveries answers worker sid frame deliveries) := by
  refine (Attaches.foldl _ (fun w => w.attaches_evictForTransport worker sid) _).after ?_
  exact (attaches_setFanout _ _ _).after
    (w.steady_runDeliveryLoop answers frame deliveries).attaches

theorem attaches_onMedia (kind : MediaKind) (answers : Answers) (worker : ℕ)
    (sid : StreamId) (frame : SharedMediaFrame) (isReplayed : Bool) :
    Attaches home [] w (onMedia kind answers w worker sid frame isReplayed) := by
  unfold onMedia
  dsimp only
  generalize LiveFanout.dispatchLocked _ sid frame kind _ = dispatched
  have hdel : Attaches home [] w (((dispatched.2.filter fun delivery => delivery.kind = none).foldl
        (fun w _ => w.emit (.subscription worker sid (-1)))
        (w.setFanout worker dispatched.1)).runDeliveries answers worker sid
          frame dispatched.2) := by
    refine (attaches_runDeliveries _ _ _ _ _ _).after ?_
    exact (Attaches.foldl _ (fun w _ => w.attaches_emit rfl) _).after (w.attaches_setFanout _ _)
  split_ifs
  · exact hdel
  · exact (attaches_emit _ rfl).after hdel

theorem attaches_subscribe (subscriberId : SubscriberId) (sink : SinkRef) (ip : Bytes) :
    Attaches home [] w (w.subscribe answers worker sid subscriberId sink ip) := by
  refine Attaches.after (attaches_emit _ rfl) ?_
  exact (Steady.foldl _ (fun w item => w.steady_sinkOnMedia answers sink _ _) _).attaches.after
      (w.attaches_setFanout _ _)

theorem attaches_unsubscribe (subscriberId : SubscriberId) :
    Attaches home [] w (w.unsubscribe worker sid subscriberId) := by
  unfold unsubscribe
  split
  · exact .refl w
  · exact Attaches.after (attaches_emit _ rfl) (w.attaches_setFanout _ _)

theorem attaches_publisherStopped (isReplayed : Bool) :
    Attaches home [] w (w.publisherStopped worker sid isReplayed) := by
  unfold publisherStopped
  split
  · exact .refl w
  · have hended : Attaches home [] w ((((w.fanouts worker).removeStream sid).2.foldl
          (sinkOnEnd handlePlaybackPublisherStopped)
          (w.setFanout worker ((w.fanouts worker).removeStream sid).1))) :=
      (Steady.foldl _ (fun w => w.steady_sinkOnEnd_stopped) _).attaches.after
        (w.attaches_setFanout _ _)
    split_ifs
    · exact hended
    · exact (attaches_emit _ rfl).after hended

/-! ## The commands -/

theorem attaches_handleConnect {conn : UInt64} (hhome : conn ∈ home) (cmd : Amf0Command) :
    Attaches home [] w (w.handleConnect conn cmd) := by
  exact (steady_sendResult _ _ _ _ _).attaches.after (w.attaches_setSession rfl (absurd hhome))

theorem attaches_attachRelay : Attaches home [] w (w.attachRelay answers conn m worker sid) := by
  exact (attaches_subscribe _ _ _ _ _ _ _).after
    ((steady_setRelay _ _ _ _).attaches.after (.congr rfl rfl))

/-- An authorised `play` command tells of its viewer, under the application
the session has. -/
theorem attaches_handlePlay_of_authorized {answers : Answers} {conn : UInt64} {cmd : Amf0Command}
    (h : playAuthorized (w.sessions conn).config answers = true) :
    Attaches home [((w.sessions conn).appName, (splitQuery cmd.streamName).1)] w
      (w.handlePlay answers conn cmd m) := by
  unfold handlePlay
  rw [if_pos h]
  have hsta : Attaches home [] w (w.startPlaying conn m (splitQuery cmd.streamName).1) :=
    (w.steady_startPlaying conn m _).attaches
  have htold : ∀ w' : World, Attaches home
      [((w.sessions conn).appName, (splitQuery cmd.streamName).1)] w'
      (w'.emit (.viewerAttached conn (w.sessions conn).appName
        (splitQuery cmd.streamName).1)) := fun w' =>
    ⟨⟨_, rfl, rfl⟩, fun _ => rfl, fun _ _ => rfl⟩
  refine (htold _).after ?_
  split
  · exact hsta
  · split_ifs
    · exact hsta
    · exact (attaches_attachRelay _ _ _ _ _ _).after hsta

theorem attaches_handlePlay_of_refused {answers : Answers} {conn : UInt64}
    (cmd : Amf0Command) (m : UInt32) (h : playAuthorized (w.sessions conn).config answers = false) :
    Attaches home [] w (w.handlePlay answers conn cmd m) := by
  unfold handlePlay
  rw [if_neg (by simp [h])]
  exact (w.steady_sendStatus _ _ _ _ _).attaches

theorem rides_attaches : Rides (Attaches home []) where
  steady := Steady.attaches
  after := Attaches.after
  onMedia kind answers w := w.attaches_onMedia kind answers
  unsubscribe := attaches_unsubscribe
  publisherStopped w worker sid := w.attaches_publisherStopped worker sid false

/-- The viewer that a message lets join, if it is an authorised `play`. -/
def joins (w : World) (connection : UInt64) (message : RtmpMessage)
    (answers : Answers) : Option (Bytes × Bytes) :=
  match mediaKind message.messageTypeId, commandOf message with
  | none, some command =>
    if CommandName.ofText command.name = some .play ∧
        playAuthorized (w.sessions connection).config answers then
      some ((w.sessions connection).appName, (splitQuery command.streamName).1)
    else none
  | _, _ => none

theorem attaches_handleMessage {conn : UInt64} (hhome : conn ∈ home)
    (answers : Answers) (msg : RtmpMessage) :
    Attaches home (w.joins conn msg answers).toList w (w.handleMessage answers conn msg) := by
  cases hjoins : w.joins conn msg answers with
  | none =>
    refine rides_attaches.handleMessage w conn (w.attaches_handleConnect hhome) ?_
    intro cmd hcmd hkind hname
    refine w.attaches_handlePlay_of_refused cmd _ (Bool.eq_false_iff.mpr fun hgrant => ?_)
    simp [joins, hkind, hcmd, hname, hgrant] at hjoins
  | some joined =>
    unfold joins at hjoins
    split at hjoins
    next cmd hkind hcmd =>
      split_ifs at hjoins with hplay
      obtain rfl := Option.some.inj hjoins
      simp only [handleMessage, hkind, hcmd, dispatch, hplay.1]
      exact w.attaches_handlePlay_of_authorized msg.messageStreamId hplay.2
    · cases hjoins

end World

/-- The connection whose application an action may change. -/
def Action.home : Action → Set UInt64
  | .message connection _ _ => {connection}
  | _ => ∅

/-- The viewer that an action lets join. -/
def Action.joins (w : World) : Action → Option (Bytes × Bytes)
  | .message connection received answers => w.joins connection received answers
  | _ => none

theorem World.attaches_perform (w : World) (act : Action) :
    World.Attaches act.home (act.joins w).toList w (w.perform act) := by
  cases act with
  | message conn msg answers => exact w.attaches_handleMessage (Set.mem_singleton conn) answers msg
  | closed conn order => exact World.rides_attaches.onConnectionClosed w conn order
  | replayedMedia worker sid kind frame answers =>
    change World.Attaches _ _ w (w.onFrame kind answers worker sid frame true)
    rw [World.onFrame_eq]
    exact w.attaches_onMedia kind answers worker sid frame true
  | replayedStop worker sid => exact w.attaches_publisherStopped worker sid true

end RtmpCore.Live
