import RtmpCore.Live.Deliveries

/-!
# What the command handlers do to the ledger

Each handler is described by the ledger operations it comes to.
-/

namespace RtmpCore.Live

open Chunk Amf0 Support List Function AList StreamRegistry Option

namespace Ledger

variable (l : Ledger) (connection : UInt64)

/-- A message stream goes on the air under a key. -/
def publish (home : UInt64 × UInt32) (slot : StreamSlot) : Ledger :=
  { l with
    publishers := update l.publishers slot.streamKey (some home.1)
    slots := update l.slots home (some slot)
    notices := l.notices ++ [⟨home.1, slot.streamKey, true⟩] }

/-- A connection gives up a key, if it has it. -/
def unregister (streamKey : Bytes) : Ledger :=
  { l with
    publishers := fun key =>
      if key = streamKey ∧ l.publishers key = some connection then none
      else l.publishers key }

def noteStop (streamKey : Bytes) : Ledger :=
  { l with notices := l.notices ++ [⟨connection, streamKey, false⟩] }

/-- A relay with a new identity takes a seat in the fan-out. -/
def attach (home : UInt64 × UInt32) (worker : ℕ) (streamId : StreamId) : Ledger :=
  let id : SubscriberId := ⟨l.minted + 1⟩
  { l with
    relays := update l.relays home (some id)
    held := update l.held ⟨worker, streamId, id⟩ (some ⟨home.1, home.2, id⟩)
    minted := l.minted + 1 }

/-- Take the relay of a message stream out of the fan-out. -/
def unseat (home : UInt64 × UInt32) (streamId : StreamId) : Ledger :=
  match l.fanout home.1, l.relays home with
  | some worker, some id => l.withHeld (update l.held ⟨worker, streamId, id⟩ none)
  | _, _ => l

/-- A connection loses its slots, its relays and its keys. -/
def clearConnection : Ledger :=
  { l.withSession connection (fun _ => none) (fun _ => none) with
    publishers := fun key => if l.publishers key = some connection then none else l.publishers key }

end Ledger

namespace StreamRegistry

variable (registry : StreamRegistry) (app streamKey : Bytes)
  (connection : UInt64) (streamId : UInt32) (startTime : ℕ)

def owner (streamKey : Bytes) : Option UInt64 := (registry.lookup streamKey).map (·.connectionId)

/-- A key is given to a connection that has it already, or if nobody has it. -/
theorem registerPublisher_eq_some {registry' : StreamRegistry}
    (h : registry.registerPublisher app streamKey connection streamId startTime = some registry') :
    registry' = registry.insert streamKey
        { app, streamKey, connectionId := connection, streamId, startTime } ∧
      (registry.owner streamKey).all (· = connection) := by
  unfold registerPublisher at h
  unfold owner
  cases hlook : registry.lookup streamKey with
  | none =>
    rw [hlook] at h
    exact ⟨(Option.some.inj h).symm, rfl⟩
  | some current =>
    rw [hlook] at h
    dsimp only at h
    split_ifs at h with hother
    exact ⟨(Option.some.inj h).symm, by simpa using hother⟩

theorem owner_insert (registration : StreamRegistration) :
    owner (registry.insert streamKey registration) = update registry.owner streamKey
        (some registration.connectionId) := by
  funext key
  rcases eq_or_ne key streamKey with rfl | hne
  · simp [owner]
  · simp [owner, hne]

theorem owner_unregisterPublisher :
    (registry.unregisterPublisher streamKey connection).owner = fun key =>
      if key = streamKey ∧ registry.owner key = some connection then none
      else registry.owner key := by
  funext key
  unfold unregisterPublisher
  rcases eq_or_ne key streamKey with rfl | hne
  · cases hcur : registry.lookup key with
    | none => simp [owner, hcur]
    | some current =>
      by_cases hmine : current.connectionId = connection
      · simp [owner, hcur, hmine]
      · simp [owner, hcur, hmine]
  · rw [if_neg fun h => hne h.1]
    split
    · rfl
    · split_ifs
      · simp [owner, lookup_erase_ne hne]
      · rfl

theorem owner_unregisterAllForConnection :
    (registry.unregisterAllForConnection connection).owner = fun key =>
      if registry.owner key = some connection then none
      else registry.owner key := by
  -- the keys that have been visited are no longer the connection's
  have hfold : ∀ (keys : List Bytes) (registry : StreamRegistry) key,
      (keys.foldl (fun registry streamKey =>
          registry.unregisterPublisher streamKey connection) registry).owner key =
        if key ∈ keys ∧ registry.owner key = some connection then none
        else registry.owner key := by
    intro keys
    induction keys with
    | nil => simp
    | cons streamKey rest ih =>
      intro registry key
      rw [foldl_cons, ih, owner_unregisterPublisher]
      by_cases hkey : key = streamKey <;>
        simp [hkey]
  funext key
  rw [unregisterAllForConnection, hfold]
  by_cases hmem : key ∈ registry.keys
  · simp [hmem]
  · have hnone : registry.owner key = none := by
      have := lookup_eq_none.mpr hmem
      simp [owner, this]
    simp [hnone]

end StreamRegistry

namespace World

variable (w : World) (connection : UInt64)

theorem ledger_withRegistry (registry : StreamRegistry) : { w with registry }.ledger =
      { w.ledger with publishers := registry.owner } := rfl

variable (cmd : Amf0Command) (m : UInt32)

theorem ledger_handleConnect : (w.handleConnect connection cmd).ledger = w.ledger := by
  unfold handleConnect
  rw [ledger_sendResult]
  exact w.ledger_setSession_of_eq connection _ rfl rfl rfl

theorem ledger_handleCreateStream : (w.handleCreateStream connection cmd).ledger =
      w.ledger.setSlot (connection, (w.sessions connection).nextStreamId) (some {}) := by
  unfold handleCreateStream
  rw [ledger_sendResult]
  exact w.ledger_setSession_slot connection _ _ (some {}) rfl (Table.find_insert _ _ _) rfl

/-- The key that a `publish` command puts on the air, if it is accepted. -/
def publishedKey (answers : Answers) (command : Amf0Command) : Option Bytes :=
  (publishIdentity (w.sessions connection).config answers
    command.streamName).filter fun streamKey => (w.registry.owner streamKey).all (· = connection)

/-- The worker to whose fan-out a `play` command subscribes, if it does. -/
def subscribedWorker (answers : Answers) (command : Amf0Command) : Option ℕ :=
  if playAuthorized (w.sessions connection).config answers ∧
      (splitQuery command.streamName).1 ≠ [] then
    (w.sessions connection).config.liveFanout
  else none

theorem ledger_startPlaying (streamKey : Bytes) : (w.startPlaying connection m streamKey).ledger =
      w.ledger.setSlot (connection, m) (some (w.playingSlot connection m streamKey)) := by
  unfold startPlaying
  rw [ledger_sendStatus, ledger_send, ledger_setSlot, ledger_resolve]

theorem ledger_attachRelay (answers : Answers) (m : UInt32) (worker : ℕ) (streamId : StreamId)
    (hfsh : w.ledger.held ⟨worker, streamId, ⟨w.ledger.minted + 1⟩⟩ = none) :
    (w.attachRelay answers connection m worker streamId).ledger =
      w.ledger.attach (connection, m) worker streamId := by
  unfold attachRelay
  rw [ledger_subscribe]
  · rw [ledger_setRelay]
    rfl
  · exact hfsh
  · rw [ledger_setRelay]
    simp [Ledger.alive, SinkRef.home, Ledger.setRelay]

theorem evicts_stopPublishing (slot : StreamSlot) :
    ∃ l, (w.ledger.unregister connection slot.streamKey).Evicts l ∧
      (w.stopPublishing connection slot).ledger = l.noteStop connection slot.streamKey := by
  let unregistered : World :=
    { w with registry := w.registry.unregisterPublisher slot.streamKey connection }
  have hunreg : unregistered.ledger = w.ledger.unregister connection slot.streamKey := by
    rw [ledger_withRegistry, owner_unregisterPublisher]
    rfl
  have hstop : ∀ w' : World, (w'.emit (.publishStop slot.streamKey connection)).ledger =
        w'.ledger.noteStop connection slot.streamKey := by
    intro w'
    rw [ledger_emit]
    simp [Event.notice, Event.missedSink, Ledger.noteStop]
  -- finalizing the recorder is not in the ledger
  have hfin : ∀ b : Bool, World.ledger
      (if b then unregistered.emit (.finalized connection slot.recorder)
        else unregistered) = w.ledger.unregister connection slot.streamKey := by
    intro b
    cases b with
    | false => exact hunreg
    | true => exact (unregistered.ledger_emit_of_quiet rfl rfl).trans hunreg
  unfold stopPublishing
  rw [hstop]
  refine ⟨_, ?_, rfl⟩
  cases (w.sessions connection).config.liveFanout with
  | none =>
    rw [elim_none, hfin]
    exact .refl
  | some worker =>
    rw [← hfin]
    exact evicts_publisherStopped _ worker slot.streamId false

/-- The media of a publication evicts subscribers and does nothing else. -/
theorem evicts_routeMediaMessage {loose : Set SinkRef}
    (h : Custody w.ledger.held w.ledger.alive loose) (answers : Answers)
    (msg : RtmpMessage) (kind : MediaKind) :
    w.ledger.Evicts (w.routeMediaMessage answers connection msg kind).ledger := by
  have hlogged : ∀ (w' : World) (b : Bool) (ev : Event), ev.notice = none → ev.missedSink = none →
        World.ledger (if b then w'.emit ev else w') = w'.ledger := by
    intro w' b ev hnotice hmiss
    cases b with
    | false => rfl
    | true => exact w'.ledger_emit_of_quiet hnotice hmiss
  unfold routeMediaMessage
  dsimp only
  split
  · exact .refl
  cases w.slot connection msg.messageStreamId with
  | none => exact .refl
  | some slot =>
    dsimp only
    split
    · exact .refl
    generalize hingested : (if (w.sessions connection).config.mediaIngest = true
      then w.emit (.ingested connection slot.streamKey msg) else w) = ingested
    generalize hrec : (if (slot.recorder.isSome ||
        (w.sessions connection).config.recorder) = true then
          ingested.emit (.recorded connection slot.recorder msg)
        else ingested) = recorded
    have hled : recorded.ledger = w.ledger := by
      rw [← hrec, hlogged _ _ _ rfl rfl, ← hingested, hlogged _ _ _ rfl rfl]
    cases (w.sessions connection).config.liveFanout with
    | none =>
      rw [elim_none, hled]
      exact .refl
    | some worker =>
      rw [onFrame_eq, ← hled]
      exact recorded.evicts_onMedia answers _ (by rwa [hled]) kind worker slot.streamId false

theorem ledger_unsubscribeRelay (streamId : StreamId) :
    (w.unsubscribeRelay connection m streamId).ledger =
      w.ledger.unseat (connection, m) streamId := by
  have hfan : w.ledger.fanout connection = (w.sessions connection).config.liveFanout := rfl
  have hrelay : w.ledger.relays (connection, m) = (w.relay connection m).map (·.subscriberId) := rfl
  unfold unsubscribeRelay Ledger.unseat
  rw [hfan, hrelay]
  cases (w.sessions connection).config.liveFanout with
  | none => rfl
  | some worker =>
    cases w.relay connection m with
    | none => rfl
    | some relay => exact w.ledger_unsubscribe worker streamId relay.subscriberId

theorem ledger_detachViewer (name : Bytes) : (w.detachViewer connection name).ledger = w.ledger :=
  w.ledger_emit_of_quiet rfl rfl

theorem ledger_onConnectionClosed (order : List UInt32) :
    (w.onConnectionClosed connection order).ledger =
      ((w.visitOrder connection order).foldl (closeSlot connection)
        w).ledger.clearConnection connection := by
  unfold onConnectionClosed
  rw [ledger_withRegistry, ledger_setSession, owner_unregisterAllForConnection]
  · rfl
  · rfl

/-! ## Actions -/

/-- The message carries that command. -/
def Commands (message : RtmpMessage) (name : CommandName) (command : Amf0Command) : Prop :=
  commandOf message = some command ∧ CommandName.ofText command.name = some name

/-- What an action comes to for the ledger.  Media and the calls of the router
evict subscribers at most. -/
inductive Handles (w : World) : Action → Ledger → Prop where
  | evicts {action : Action} {l : Ledger} (hevicts : w.ledger.Evicts l) : Handles w action l
  | createStream {c : UInt64} {message : RtmpMessage} {answers : Answers} {command : Amf0Command}
      (hcommand : Commands message .createStream command) :
      Handles w (.message c message answers)
        (w.ledger.setSlot (c, (w.sessions c).nextStreamId) (some {}))
  | publish {c : UInt64} {message : RtmpMessage} {answers : Answers} {command : Amf0Command}
      {slot : StreamSlot} (hcommand : Commands message .publish command)
      (hkey : w.publishedKey c answers command = some slot.streamKey)
      (hstate : slot.state = .publishing) :
      Handles w (.message c message answers) (w.ledger.publish (c, message.messageStreamId) slot)
  | play {c : UInt64} {message : RtmpMessage} {answers : Answers} {command : Amf0Command}
      {slot : StreamSlot} (hcommand : Commands message .play command)
      (hauth : playAuthorized (w.sessions c).config answers)
      (hworker : w.subscribedWorker c answers command = none)
      (hslot : slot = w.playingSlot c message.messageStreamId (splitQuery command.streamName).1) :
      Handles w (.message c message answers)
        (w.ledger.setSlot (c, message.messageStreamId) (some slot))
  | attach {c : UInt64} {message : RtmpMessage} {answers : Answers} {command : Amf0Command}
      {slot : StreamSlot} {worker : ℕ} (hcommand : Commands message .play command)
      (hauth : playAuthorized (w.sessions c).config answers)
      (hworker : w.subscribedWorker c answers command = some worker)
      (hslot : slot = w.playingSlot c message.messageStreamId (splitQuery command.streamName).1) :
      Handles w (.message c message answers)
        ((w.ledger.setSlot (c, message.messageStreamId) (some slot)).attach
          (c, message.messageStreamId) worker slot.streamId)
  | stop {c : UInt64} {message : RtmpMessage} {answers : Answers} {m : UInt32} {slot : StreamSlot}
      {l : Ledger} (hslot : w.ledger.slots (c, m) = some slot) (hstate : slot.state = .publishing)
      (hevicts : (w.ledger.unregister c slot.streamKey).Evicts l) :
      Handles w (.message c message answers) ((l.noteStop c slot.streamKey).setSlot (c, m) none)
  | delete {c : UInt64} {message : RtmpMessage} {answers : Answers} {m : UInt32} {slot : StreamSlot}
      {l : Ledger} (hslot : w.ledger.slots (c, m) = some slot)
      (hother : ¬(slot.state = .publishing ∧ slot.streamKey ≠ [])) (hevicts : w.ledger.Evicts l) :
      Handles w (.message c message answers) (l.setSlot (c, m) none)
  | closed {c : UInt64} {order : List UInt32} :
      Handles w (.closed c order) (w.onConnectionClosed c order).ledger

section

variable {w : World} {conn : UInt64} {msg : RtmpMessage} {answers : Answers} {cmd : Amf0Command}

theorem handles_handlePublish (hcmd : Commands msg .publish cmd) : Handles w
    (.message conn msg answers) (w.handlePublish answers conn cmd msg.messageStreamId).ledger := by
  unfold handlePublish
  dsimp only
  split
  · rw [ledger_sendStatus]
    exact .evicts .refl
  next key hid =>
    split
    · rw [ledger_sendStatus]
      exact .evicts .refl
    next registry hreg =>
      obtain ⟨hregistry, howner⟩ := registerPublisher_eq_some _ _ _ _ _ _ hreg
      have hkey : w.publishedKey conn answers cmd = some key := filter_eq_some_iff.mpr ⟨hid, howner⟩
      have hres := { w with registry }.ledger_resolve (w.sessions conn).appName key
      have hkept := { w with registry }.registry_resolve (w.sessions conn).appName key
      generalize { w with registry }.resolve (w.sessions conn).appName key = resolved
        at hres hkept ⊢
      -- the registration is found again where it was just put
      have hfound : ∀ slot description,
          ((resolved.1.setSlot conn msg.messageStreamId slot).sendStatus conn
            msg.messageStreamId "status" "NetStream.Publish.Start" description).registry =
              registry := by
        simp [sendStatus, sendCommandMessage, setSlot, setSession, hkept]
      rw [hfound, hregistry, lookup_insert]
      rw [ledger_emit, ledger_sendStatus, ledger_setSlot, hres,
        ledger_withRegistry, hregistry, owner_insert]
      simp only [Event.missedSink, toList_none, append_nil]
      exact .publish hcmd hkey rfl

theorem handles_handlePlay (hcmd : Commands msg .play cmd)
    (hfsh : ∀ worker sid, w.ledger.held ⟨worker, sid, ⟨w.ledger.minted + 1⟩⟩ = none) :
    Handles w (.message conn msg answers)
      (w.handlePlay answers conn cmd msg.messageStreamId).ledger := by
  have hsta := w.ledger_startPlaying conn msg.messageStreamId (splitQuery cmd.streamName).1
  unfold handlePlay
  dsimp only
  split_ifs with hauth hname
  · have hwork : w.subscribedWorker conn answers cmd = none := by simp [subscribedWorker, hname]
    rw [ledger_emit_of_quiet _ rfl rfl]
    split <;> rw [hsta] <;> exact .play hcmd hauth hwork rfl
  · rw [ledger_emit_of_quiet _ rfl rfl]
    split
    next hnone =>
      rw [hsta]
      exact .play hcmd hauth (by simp [subscribedWorker, hnone]) rfl
    next worker hwork =>
      rw [ledger_attachRelay, hsta]
      · exact .attach hcmd hauth (by simp [subscribedWorker, hauth, hname, hwork]) rfl
      · rw [hsta]
        exact hfsh _ _
  · rw [ledger_sendStatus]
    exact .evicts .refl

end

end World

end RtmpCore.Live
