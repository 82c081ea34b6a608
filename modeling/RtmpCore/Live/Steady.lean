import RtmpCore.Live.Commands

/-!
# Calls that move nobody

Most of what the sessions do neither lets a viewer join nor moves a subscriber:
replies are sent, frames are delivered, slots and relays change.  `Steady`
says so of a part of the server, once for each part.
-/

namespace RtmpCore.Live

open Chunk Amf0 List

/-- The call tells of no new viewer and of no change in what is subscribed. -/
def Event.isMinor : Event → Bool
  | viewerAttached .. | subscription .. | streamEnd .. => false
  | _ => true

/-- A message or a frame goes out, or the backlog of a connection is read. -/
def Event.isOutgoing : Event → Bool
  | sent .. | sentMedia .. | pendingQueueRead .. => true
  | _ => false

namespace World

/-- From `w` to `w'` messages go out, and nothing else happens. -/
def Quiet (w w' : World) : Prop :=
  ∃ events, w' = { w with log := w.log ++ events } ∧ ∀ event ∈ events, event.isOutgoing

/-- From `w` to `w'` no fan-out changes, no session changes its application or
its configuration, and only minor calls are made. -/
structure Steady (w w' : World) : Prop where
  fanouts : w'.fanouts = w.fanouts
  log : ∃ events, w'.log = w.log ++ events ∧ ∀ event ∈ events, event.isMinor
  config : ∀ c, (w'.sessions c).config = (w.sessions c).config
  appName : ∀ c, (w'.sessions c).appName = (w.sessions c).appName

theorem log_after {w w' w'' : World} {P Q R : List Event → Prop}
    (h : ∃ evs, w'.log = w.log ++ evs ∧ P evs) (h' : ∃ evs, w''.log = w'.log ++ evs ∧ Q evs)
    (happend : ∀ evs evs', P evs → Q evs' → R (evs ++ evs')) :
    ∃ evs, w''.log = w.log ++ evs ∧ R evs := by
  obtain ⟨evs, hlog, hfirst⟩ := h
  obtain ⟨evs', hlog', hlast⟩ := h'
  refine ⟨evs ++ evs', ?_, happend _ _ hfirst hlast⟩
  rw [hlog', hlog, append_assoc]

theorem sessions_setSession {α : Type} (f : CommandSession → α) (w : World) {conn : UInt64}
    {sess : CommandSession} (h : f sess = f (w.sessions conn)) (c : UInt64) :
    f ((w.setSession conn sess).sessions c) = f (w.sessions c) := by
  rcases eq_or_ne c conn with rfl | hne
  · simp [setSession, h]
  · simp [setSession, hne]

namespace Steady

variable {w w' w'' : World}

theorem refl (w : World) : Steady w w where
  fanouts := rfl
  log := ⟨[], by simp⟩
  config _ := rfl
  appName _ := rfl

theorem after (h' : Steady w' w'') (h : Steady w w') : Steady w w'' where
  fanouts := h'.fanouts.trans h.fanouts
  log := log_after h.log h'.log fun _ _ hminor hminor' => forall_mem_append.mpr ⟨hminor, hminor'⟩
  config c := (h'.config c).trans (h.config c)
  appName c := (h'.appName c).trans (h.appName c)

theorem foldl {α : Type} {f : World → α → World} (items : List α)
    (hstep : ∀ w item, Steady w (f w item)) (w : World) : Steady w (items.foldl f w) := by
  induction items generalizing w with
  | nil => exact .refl w
  | cons item rest ih => exact (ih _).after (hstep w item)

theorem congr (hfans : w'.fanouts = w.fanouts) (hlog : w'.log = w.log)
    (hsess : w'.sessions = w.sessions) : Steady w w' where
  fanouts := hfans
  log := ⟨[], by simp [hlog]⟩
  config c := by rw [hsess]
  appName c := by rw [hsess]

end Steady

variable (w : World)

theorem steady_emit {ev : Event} (h : ev.isMinor) : Steady w (w.emit ev) where
  fanouts := rfl
  log := ⟨[ev], rfl, by simp [h]⟩
  config _ := rfl
  appName _ := rfl

theorem steady_setSession {conn : UInt64} {sess : CommandSession}
    (hcfg : sess.config = (w.sessions conn).config)
    (happ : sess.appName = (w.sessions conn).appName) : Steady w (w.setSession conn sess) where
  fanouts := rfl
  log := ⟨[], by simp [setSession]⟩
  config := w.sessions_setSession (·.config) hcfg
  appName := w.sessions_setSession (·.appName) happ

variable (conn : UInt64) (m : UInt32) (key : Bytes) (answers : Answers) (sink : SinkRef)
  (frame : SharedMediaFrame)

theorem steady_setSlot (slot : StreamSlot) : Steady w (w.setSlot conn m slot) :=
  w.steady_setSession rfl rfl

theorem steady_setRelay (relay : PlaybackRelay) : Steady w (w.setRelay conn m relay) :=
  w.steady_setSession rfl rfl

theorem steady_eraseRelay : Steady w (w.eraseRelay conn m) := w.steady_setSession rfl rfl

theorem steady_eraseSlot : Steady w (w.eraseSlot conn m) := w.steady_setSession rfl rfl

theorem steady_setRegistry (registry : StreamRegistry) : Steady w { w with registry } :=
  .congr rfl rfl rfl

theorem steady_resolve (app key : Bytes) : Steady w (w.resolve app key).1 := by
  unfold resolve
  split
  · exact .refl w
  · exact .congr rfl rfl rfl

/-! ## Messages and frames -/

theorem Quiet.refl : Quiet w w := ⟨[], by simp, nofun⟩

theorem Quiet.after {w w' w'' : World} (h' : Quiet w' w'') (h : Quiet w w') : Quiet w w'' := by
  obtain ⟨evs, rfl, hout⟩ := h
  obtain ⟨events', rfl, hout'⟩ := h'
  exact ⟨evs ++ events', by simp, forall_mem_append.mpr ⟨hout, hout'⟩⟩

theorem Quiet.steady {w w' : World} (h : Quiet w w') : Steady w w' := by
  obtain ⟨evs, rfl, hout⟩ := h
  refine ⟨rfl, ⟨evs, rfl, fun ev hmem => ?_⟩, fun _ => rfl, fun _ => rfl⟩
  have hev := hout ev hmem
  cases ev <;> first | rfl | exact hev

theorem quiet_emit {ev : Event} (h : ev.isOutgoing) : Quiet w (w.emit ev) :=
  ⟨[ev], rfl, by simp [h]⟩

theorem quiet_send (msg : RtmpMessage) : Quiet w (w.send conn msg) := by
  unfold send
  split
  · exact w.quiet_emit rfl
  · exact .refl w

theorem quiet_emitFrame : Quiet w (emitFrame conn m w frame) := by
  unfold emitFrame
  dsimp only
  split <;> exact w.quiet_emit rfl

theorem quiet_foldl_emitFrame (frames : List SharedMediaFrame) :
    Quiet w (frames.foldl (emitFrame conn m) w) := by
  induction frames generalizing w with
  | nil => exact .refl w
  | cons frame rest ih => exact (ih _).after (w.quiet_emitFrame _ _ frame)

theorem quiet_readPendingQueue : Quiet w (w.readPendingQueue answers conn).1 := by
  unfold readPendingQueue
  split
  · exact w.quiet_emit rfl
  · exact .refl w

theorem quiet_deliverPlaybackMessage (relay : PlaybackRelay) (isVideo : Bool) :
    Quiet w (w.deliverPlaybackMessage answers conn m frame relay isVideo).1 :=
    by
  have hread := w.quiet_readPendingQueue conn answers
  unfold deliverPlaybackMessage
  dsimp only
  split_ifs
  · exact .refl w
  · generalize w.readPendingQueue answers conn = read at hread ⊢
    generalize relay.queue.offer read.2 frame.payload.length isVideo
      (isVideo && classifyIsVideoKeyframe frame) = offered
    obtain ⟨queue, decision⟩ := offered
    cases decision with
    | dropAndWait | evict => exact hread
    | deliver => exact (quiet_emitFrame _ _ _ _).after hread
    | deliverResumed => exact (quiet_foldl_emitFrame _ _ _ _).after hread

theorem steady_send (msg : RtmpMessage) : Steady w (w.send conn msg) :=
  (w.quiet_send conn msg).steady

theorem steady_sendResult (conn transactionId : UInt64) (props information : Amf0Value) :
    Steady w (w.sendResult conn transactionId props information) :=
  w.steady_send conn _

theorem steady_sendStatus (level code : String) (description : Bytes) : Steady w
      (w.sendStatus conn m level code description) :=
  w.steady_send conn _

/-! ## Calls of the sinks -/

theorem steady_sinkOnMedia (kind : MediaKind) (frame : SharedMediaFrame) :
    Steady w (w.sinkOnMedia answers sink kind frame).1 := by
  unfold sinkOnMedia
  split
  · exact w.steady_emit rfl
  · exact (steady_setRelay _ _ _ _).after (w.quiet_deliverPlaybackMessage ..).steady

theorem steady_handlePlaybackEnded (level code description : String) (conn : UInt64) (m : UInt32) :
    Steady w (handlePlaybackEnded level code description w conn m) := by
  refine (steady_eraseRelay _ _ _).after ?_
  split
  · exact .refl w
  next slot _ =>
    have hnotified : Steady w (if slot.state = .playing then
          w.emit (.viewerDetached conn (w.sessions conn).appName slot.streamKey)
        else w) := by
      split_ifs
      · exact w.steady_emit rfl
      · exact .refl w
    exact (steady_sendStatus _ _ _ _ _ _).after ((steady_setSlot _ _ _ _).after hnotified)

theorem steady_sinkOnEnd {handler : World → UInt64 → UInt32 → World}
    (h : ∀ w conn m, Steady w (handler w conn m))
    (sink : SinkRef) : Steady w (w.sinkOnEnd handler sink) := by
  unfold sinkOnEnd
  split
  · exact w.steady_emit rfl
  · exact h _ _ _

theorem steady_sinkOnEnd_evicted : Steady w (w.sinkOnEnd handlePlaybackEvicted sink) :=
  w.steady_sinkOnEnd (fun w => w.steady_handlePlaybackEnded _ _ _) sink

theorem steady_sinkOnEnd_stopped : Steady w (w.sinkOnEnd handlePlaybackPublisherStopped sink) :=
  w.steady_sinkOnEnd (fun w => w.steady_handlePlaybackEnded _ _ _) sink

theorem steady_resend (kind : MediaKind) (header : Option SharedMediaFrame) :
    Steady w (header.elim w fun header =>
      (w.sinkOnMedia answers sink kind header).1) := by
  cases header with
  | none => exact .refl w
  | some header => exact w.steady_sinkOnMedia answers sink kind header

theorem steady_runDelivery (delivery : PendingDelivery) :
    Steady w (w.runDelivery answers frame delivery).1 := by
  unfold runDelivery
  cases delivery.kind with
  | some kind =>
    exact (steady_sinkOnMedia _ _ _ _ _).after
      ((steady_resend _ _ _ _ _).after (w.steady_resend _ _ _ _))
  | none =>
    exact (steady_sinkOnEnd_evicted _ _).after
      ((steady_resend _ _ _ _ _).after (w.steady_resend _ _ _ _))

theorem steady_runDeliveryLoop (deliveries : List PendingDelivery) :
    Steady w (w.runDeliveryLoop answers frame deliveries).1 := by
  induction deliveries generalizing w with
  | nil => exact .refl w
  | cons delivery rest ih => exact (ih _).after (w.steady_runDelivery answers frame delivery)

/-! ## The commands -/

theorem steady_handleCreateStream (cmd : Amf0Command) :
    Steady w (w.handleCreateStream conn cmd) := by
  exact (steady_sendResult _ _ _ _ _).after (w.steady_setSession rfl rfl)

theorem steady_handlePublish (conn : UInt64) (cmd : Amf0Command) (m : UInt32) :
    Steady w (w.handlePublish answers conn cmd m) := by
  unfold handlePublish
  dsimp only
  split
  · exact w.steady_sendStatus _ _ _ _ _
  · split
    · exact w.steady_sendStatus _ _ _ _ _
    next _ canonicalId _ _ registry _ =>
      have hres : Steady w ({ w with registry }.resolve (w.sessions conn).appName canonicalId).1 :=
        (steady_resolve _ _ _).after (w.steady_setRegistry registry)
      split
      · exact (steady_sendStatus _ _ _ _ _ _).after ((steady_setSlot _ _ _ _).after hres)
      · exact Steady.after (steady_emit _ rfl) ((steady_sendStatus _ _ _ _ _ _).after
            ((steady_setSlot _ _ _ _).after hres))

theorem steady_startPlaying : Steady w (w.startPlaying conn m key) := by
  exact (steady_sendStatus _ _ _ _ _ _).after ((steady_send _ _ _).after
    ((steady_setSlot _ _ _ _).after (w.steady_resolve _ _)))

theorem steady_detachViewer (name : Bytes) : Steady w (w.detachViewer conn name) :=
  w.steady_emit rfl

theorem steady_finalize (registry : StreamRegistry)
    (recorder : Option RecorderRef) (finalizes : Bool) : Steady w (if finalizes then
        { w with registry }.emit (.finalized conn recorder)
      else { w with registry }) := by
  have hreg := w.steady_setRegistry registry
  cases finalizes with
  | true => exact Steady.after (steady_emit _ rfl) hreg
  | false => exact hreg

theorem steady_record (recorder : Option RecorderRef) (msg : RtmpMessage) (ingests records : Bool) :
    Steady w (let ingested : World :=
        if ingests then w.emit (.ingested conn key msg) else w
      if records then ingested.emit (.recorded conn recorder msg)
      else ingested) := by
  cases ingests <;> cases records
  · exact .refl w
  · exact w.steady_emit rfl
  · exact w.steady_emit rfl
  · exact Steady.after (steady_emit _ rfl) (w.steady_emit rfl)

/-! ## The calls of a session -/

/-- A relation that steady parts and the calls of the fan-outs keep. -/
structure Rides (R : World → World → Prop) : Prop where
  steady {w w' : World} : Steady w w' → R w w'
  after {w w' w'' : World} : R w' w'' → R w w' → R w w''
  onMedia (kind : MediaKind) (answers : Answers) (w : World) (worker : ℕ) (streamId : StreamId)
    (frame : SharedMediaFrame) (isReplayed : Bool) :
    R w (onMedia kind answers w worker streamId frame isReplayed)
  unsubscribe (w : World) (worker : ℕ) (streamId : StreamId) (id : SubscriberId) :
    R w (w.unsubscribe worker streamId id)
  publisherStopped (w : World) (worker : ℕ) (streamId : StreamId) :
    R w (w.publisherStopped worker streamId false)

namespace Rides

variable {R : World → World → Prop} (h : Rides R) (w : World) (conn : UInt64)
include h

theorem stopPublishing (slot : StreamSlot) : R w (w.stopPublishing conn slot) := by
  refine h.after (h.steady (steady_emit _ rfl)) ?_
  have hfin := w.steady_finalize conn
    (w.registry.unregisterPublisher slot.streamKey conn) slot.recorder
    (slot.recorder.isSome || (w.sessions conn).config.recorder)
  cases (w.sessions conn).config.liveFanout with
  | none => exact h.steady hfin
  | some worker => exact h.after (h.publisherStopped _ _ _) (h.steady hfin)

theorem unsubscribeRelay (m : UInt32) (sid : StreamId) : R w (w.unsubscribeRelay conn m sid) := by
  unfold World.unsubscribeRelay
  split
  · exact h.unsubscribe w _ _ _
  · exact h.steady (.refl w)

theorem deleteSlot (sid : UInt32) : R w (w.deleteSlot conn sid) := by
  unfold World.deleteSlot
  split
  · exact h.steady (.refl w)
  · refine h.after (h.steady (steady_eraseSlot _ _ _)) ?_
    split_ifs
    · exact h.stopPublishing w _ _
    · exact h.after (h.steady ((steady_detachViewer _ _ _).after (steady_eraseRelay _ _ _)))
        (h.unsubscribeRelay w _ _ _)
    · exact h.steady (.refl w)

theorem closeSlot (m : UInt32) : R w (closeSlot conn w m) := by
  unfold World.closeSlot
  split
  · exact h.steady (.refl w)
  · split_ifs
    · exact h.stopPublishing w _ _
    · exact h.after (h.steady (steady_detachViewer _ _ _)) (h.unsubscribeRelay w _ _ _)
    · exact h.steady (.refl w)

theorem onConnectionClosed (order : List UInt32) : R w (w.onConnectionClosed conn order) := by
  have hvis (visited : List UInt32) (w : World) : R w (visited.foldl (World.closeSlot conn) w) := by
    induction visited generalizing w with
    | nil => exact h.steady (.refl w)
    | cons m rest ih => exact h.after (ih _) (h.closeSlot w conn m)
  refine h.after (h.steady ?_) (hvis (w.visitOrder conn order) w)
  exact (steady_setRegistry _ _).after (steady_setSession _ rfl rfl)

theorem routeMediaMessage (answers : Answers) (msg : RtmpMessage) (kind : MediaKind) :
    R w (w.routeMediaMessage answers conn msg kind) := by
  unfold World.routeMediaMessage
  dsimp only
  split
  · exact h.steady (.refl w)
  · split
    · exact h.steady (.refl w)
    · split
      · exact h.steady (.refl w)
      · rw [onFrame_eq]
        cases (w.sessions conn).config.liveFanout with
        | none => exact h.steady (w.steady_record ..)
        | some worker =>
          dsimp only [Option.elim]
          exact h.after (h.onMedia _ _ _ _ _ _ _) (h.steady (w.steady_record ..))

theorem handleMessage {answers : Answers} {msg : RtmpMessage}
    (hconnect : ∀ cmd, R w (w.handleConnect conn cmd)) (hplay : ∀ cmd, commandOf msg = some cmd →
      mediaKind msg.messageTypeId = none → CommandName.ofText cmd.name = some .play →
      R w (w.handlePlay answers conn cmd msg.messageStreamId)) :
    R w (w.handleMessage answers conn msg) := by
  unfold World.handleMessage
  cases hkind : mediaKind msg.messageTypeId with
  | some kind => exact h.routeMediaMessage w conn answers msg kind
  | none =>
    cases hcmd : commandOf msg with
    | none => exact h.steady (.refl w)
    | some cmd =>
      dsimp only [dispatch]
      cases hname : CommandName.ofText cmd.name with
      | none => exact h.steady (.refl w)
      | some name =>
        cases name with
        | connect => exact hconnect cmd
        | releaseStream | fcPublish => exact h.steady (w.steady_sendResult conn _ _ _)
        | createStream => exact h.steady (w.steady_handleCreateStream conn cmd)
        | publish => exact h.steady (w.steady_handlePublish answers conn cmd _)
        | play => exact hplay cmd hcmd hkind hname
        | deleteStream =>
          dsimp only [handleDeleteStream]
          split
          · exact h.steady (.refl w)
          · exact h.deleteSlot w conn _

end Rides

end World

end RtmpCore.Live
