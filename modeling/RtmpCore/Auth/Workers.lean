import Mathlib.Algebra.BigOperators.Fin
import RtmpCore.Auth.Authenticator
import RtmpCore.Live.Notices
import RtmpCore.Support.Run

/-!
# Workers that share an authenticator

Each worker handles one action after another, and other workers go on between
any two of its calls of the authenticator.  A worker that handles a `play`
command calls the playback authorizer, which takes the authenticator's lock
twice, and then, if it was let through, attaches its viewer and tells the
authenticator so.  What an action has to tell is delivered one notice at a
time.  The sessions and the fan-outs do not look at the authenticator, so
everything an action does to them is one step.

Every session has the authenticator's playback authorizer and tells it of its
viewers.
-/

namespace RtmpCore.Auth

open Chunk Amf0 Live List

/-- A viewer has joined a stream or left it. -/
structure ViewerNotice where
  isAttached : Bool
  app : Bytes
  name : Bytes
deriving DecidableEq

abbrev ViewerNotice.key (notice : ViewerNotice) : Bytes := viewerKey notice.app notice.name

def viewerNotice : Event → Option ViewerNotice
  | .viewerAttached _ app name => some ⟨true, app, name⟩
  | .viewerDetached _ app name => some ⟨false, app, name⟩
  | _ => none

/-- A call of the playback authorizer, with the message it was made for. -/
structure PlayCall where
  connection : UInt64
  message : RtmpMessage
  answers : Answers
  app : Bytes
  name : Bytes
  clientIp : Bytes

abbrev PlayCall.key (call : PlayCall) : Bytes := viewerKey call.app call.name

/-- The message, with the authorizer's answer. -/
def PlayCall.answered (call : PlayCall) (granted : Bool) : Action :=
  .message call.connection call.message { call.answers with playAllowed := granted }

/-- The call of the authorizer that an action makes, if it is a `play`. -/
def playCall (w : World) : Action → Option PlayCall
  | .message connection message answers =>
    match World.mediaKind message.messageTypeId, World.commandOf message with
    | none, some command =>
      if CommandName.ofText command.name = some .play then
        some
          { connection, message, answers
            app := (w.sessions connection).appName
            name := (splitQuery command.streamName).1
            clientIp := (w.sessions connection).config.clientIp }
      else none
    | _, _ => none
  | _ => none

/-- What a worker is about: it has notices to deliver (none when it is idle),
its `play` has passed the first section of the authorizer, or it has been
authorised. -/
inductive Phase where
  | telling (notices : List ViewerNotice)
  | asked (call : PlayCall)
  | granted (call : PlayCall)

/-- The viewers under a key that the worker is still going to tell of. -/
def Phase.pending (key : Bytes) : Phase → ℕ
  | .telling notices => notices.countP fun notice => notice.isAttached && notice.key = key
  | .asked _ => 0
  | .granted call => if call.key = key then 1 else 0

/-- The state of `n` workers; `told` are the notices delivered so far. -/
structure Workers (n : ℕ) where
  world : World
  authenticator : RtmpAuthenticator
  phase : Fin n → Phase := fun _ => .telling []
  told : List ViewerNotice := []

/-- What may happen next at a worker.  The stream manager's word and the time
come from outside. -/
inductive WorkerStep (n : ℕ) where
  | start (worker : Fin n) (action : Action) (now : ℕ)
  | authorize (worker : Fin n) (streamEnabled applicationEnabled : Bool) (now : ℕ)
  | play (worker : Fin n)
  | tell (worker : Fin n)

/-- The worker an action runs on: that of the connection, or the one that the
router has brought something to. -/
def runsOn (w : World) (worker : ℕ) : Action → Bool
  | .message connection _ _ | .closed connection _ =>
    (w.sessions connection).config.liveFanout = some worker
  | .replayedMedia destination _ _ _ _ | .replayedStop destination _ => destination = worker

namespace Workers

variable {n : ℕ}

variable (s : Workers n) (worker : Fin n)

def setPhase (phase : Phase) : Workers n := { s with phase := Function.update s.phase worker phase }

/-- The worker performs an action and has its notices to deliver. -/
def serve (action : Action) : Workers n :=
  let world := s.world.perform action
  { s with world }.setPhase worker
    (.telling ((world.log.drop s.world.log.length).filterMap viewerNotice))

def start (action : Action) (now : ℕ) : Workers n :=
  match s.phase worker with
  | .telling [] =>
    if runsOn s.world worker action then
      match playCall s.world action with
      | none => s.serve worker action
      | some call =>
        if s.authenticator.ipLockedOut now call.clientIp then s.serve worker (call.answered false)
        else s.setPhase worker (.asked call)
    else s
  | _ => s

def authorize (streamEnabled applicationEnabled : Bool) (now : ℕ) : Workers n :=
  match s.phase worker with
  | .asked call =>
    match s.authenticator.authorizePlayback now call.app call.name
        call.clientIp streamEnabled applicationEnabled with
    | (authenticator, true) => { s with authenticator }.setPhase worker (.granted call)
    | (authenticator, false) => { s with authenticator }.serve worker (call.answered false)
  | _ => s

def play : Workers n :=
  match s.phase worker with
  | .granted call => s.serve worker (call.answered true)
  | _ => s

def tell : Workers n :=
  match s.phase worker with
  | .telling (notice :: rest) =>
    { s with
      authenticator :=
        if notice.isAttached then s.authenticator.onViewerAttached notice.app notice.name
        else s.authenticator.onViewerDetached notice.app notice.name
      told := s.told ++ [notice] }.setPhase worker (.telling rest)
  | _ => s

def step : WorkerStep n → Workers n
  | .start worker action now => s.start worker action now
  | .authorize worker streamEnabled applicationEnabled now =>
    s.authorize worker streamEnabled applicationEnabled now
  | .play worker => s.play worker
  | .tell worker => s.tell worker

/-- A server before the first connection. -/
def initial (limits : AuthenticatorLimits) (config : UInt64 → SessionConfig)
    (fanout : ℕ → GopLimits × QueueLimits × ℕ) : Workers n where
  world := World.initial (fun connection => { config connection with playbackAuthorizer := true })
    fanout
  authenticator := { limits }

/-- The viewers of a stream: the attached notices less the detached ones. -/
def viewers (app name : Bytes) : ℤ :=
  s.told.count ⟨true, app, name⟩ - s.told.count ⟨false, app, name⟩

end Workers

/-! ## What an action has to tell -/

theorem countP_viewerNotice (evs : List Event) (key : Bytes) :
    (evs.filterMap viewerNotice).countP (fun notice => notice.isAttached && notice.key = key) =
      (evs.filterMap Event.attachment).countP fun joined => viewerKey joined.1 joined.2 = key := by
  rw [countP_filterMap, countP_filterMap]
  refine countP_congr fun ev _ => ?_
  cases ev <;> simp [viewerNotice, Event.attachment]

theorem pending_perform (w : World) (act : Action) (key : Bytes) :
    (Phase.telling (((w.perform act).log.drop w.log.length).filterMap viewerNotice)).pending key =
      (act.joins w).toList.countP fun joined => viewerKey joined.1 joined.2 = key := by
  obtain ⟨evs, hlog, hjoin⟩ := (w.attaches_perform act).log
  rw [Phase.pending, hlog, drop_left, countP_viewerNotice, hjoin]

theorem joins_of_playCall_none {w : World} {act : Action}
    (h : playCall w act = none) : act.joins w = none := by
  cases act with
  | message conn msg answers =>
    dsimp only [playCall] at h
    dsimp only [Action.joins, World.joins]
    cases hkind : World.mediaKind msg.messageTypeId with
    | some kind => rfl
    | none =>
      cases hcmd : World.commandOf msg with
      | none => rfl
      | some cmd =>
        simp only [hkind, hcmd, ite_eq_right_iff, reduceCtorEq] at h
        exact if_neg fun hboth => h hboth.1
  | closed | replayedMedia | replayedStop => rfl

theorem playCall_eq_some {w : World} {act : Action} {call : PlayCall}
    (h : playCall w act = some call) :
    act = .message call.connection call.message call.answers ∧ ∃ cmd,
      World.mediaKind call.message.messageTypeId = none ∧
      World.commandOf call.message = some cmd ∧ CommandName.ofText cmd.name = some .play ∧
      call.app = (w.sessions call.connection).appName ∧
      call.name = (splitQuery cmd.streamName).1 := by
  cases act with
  | message conn msg answers =>
    dsimp only [playCall] at h
    split at h
    next cmd hkind hcmd =>
      split_ifs at h with hplay
      obtain rfl := Option.some.inj h
      exact ⟨rfl, cmd, hkind, hcmd, hplay, rfl, rfl⟩
    · cases h
  | _ => cases h

/-- The viewer that a call of the authorizer is about joins if the answer is
yes. -/
theorem joins_answered {w : World} {act : Action} {call : PlayCall} (h : playCall w act = some call)
    (hauthorizer : (w.sessions call.connection).config.playbackAuthorizer = true) (granted : Bool) :
    (call.answered granted).joins w = if granted then some (call.app, call.name) else none := by
  obtain ⟨-, cmd, hkind, hcmd, hplay, happ, hname⟩ := playCall_eq_some h
  have hauth : playAuthorized (w.sessions call.connection).config
      { call.answers with playAllowed := granted } = granted := by
    simp [playAuthorized, hauthorizer]
  simp [PlayCall.answered, Action.joins, World.joins, hkind, hcmd, hplay, hauth, happ, hname]

end RtmpCore.Auth
