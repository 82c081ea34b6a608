import RtmpCore.Net.Transitions
import RtmpCore.Support.Run

/-!
# Steps of the server

What a step of a server in good order can be.  Every invariant of the server is
proved from `Steps`, and that every step is one of these from `steps_step`.
-/

namespace RtmpCore.Net

open Chunk Live Auth List AList Table

/-! ## The tasks of one connection -/

namespace LoopTask

def rushes : LoopTask → Bool
  | own _ task => task.rushes
  | replay .. => false

/-- The task of a connection that bears on its life. -/
def vitalFor (connection : UInt64) : LoopTask → Option PeerTask
  | own c task => if c = connection ∧ task.isVital then some task else none
  | replay .. => none

/-- The task bears on no connection's life. -/
def isIdle : LoopTask → Bool
  | own _ task => !task.isVital
  | replay .. => true

theorem rushes_of_isIdle {task : LoopTask} (h : task.isIdle) : task.rushes = false := by
  cases task with
  | own _ task => exact PeerTask.rushes_of_not_vital (by simpa [isIdle] using h)
  | replay => rfl

theorem vitalFor_of_isIdle {task : LoopTask} (h : task.isIdle)
    (conn : UInt64) : task.vitalFor conn = none := by
  cases task with
  | own c task =>
    have hinert : task.isVital = false := by simpa [isIdle] using h
    simp [vitalFor, hinert]
  | replay => rfl

theorem vitalFor_other {conn other : UInt64} (h : other ≠ conn)
    (task : PeerTask) : vitalFor other (own conn task) = none := by
  simp [vitalFor, h.symm]

end LoopTask

/-- The tasks that bear on the life of a connection. -/
def agenda (connection : UInt64) (todo : List LoopTask) : List PeerTask :=
  todo.filterMap (LoopTask.vitalFor connection)

theorem agenda_append (conn : UInt64) (todo todo' : List LoopTask) :
    agenda conn (todo ++ todo') = agenda conn todo ++ agenda conn todo' :=
  filterMap_append ..

theorem agenda_of_isIdle {todo : List LoopTask} (h : ∀ t ∈ todo, t.isIdle)
    (conn : UInt64) : agenda conn todo = [] :=
  filterMap_eq_nil_iff.mpr fun t ht => LoopTask.vitalFor_of_isIdle (h t ht) conn

theorem agenda_own (conn : UInt64) (calls : List PeerTask) :
    agenda conn (calls.map (LoopTask.own conn)) = vital calls := by
  induction calls with
  | nil => rfl
  | cons task calls ih =>
    have hcons : agenda conn ((task :: calls).map (LoopTask.own conn)) =
          vital [task] ++ agenda conn (calls.map (LoopTask.own conn)) := by
      cases hvital : task.isVital <;>
        simp [agenda, vital, LoopTask.vitalFor, hvital]
    rw [hcons, ih, vital, vital, ← filter_append]
    rfl

theorem agenda_own_other {conn other : UInt64} (h : other ≠ conn) (calls : List PeerTask) :
    agenda other (calls.map (LoopTask.own conn)) = [] := by
  refine filterMap_eq_nil_iff.mpr fun t ht => ?_
  obtain ⟨task, -, rfl⟩ := mem_map.mp ht
  exact LoopTask.vitalFor_other h task

namespace Server

variable {n : ℕ}

/-! ## Reactions -/

theorem isIdle_taskOf {ev : Event} {task : LoopTask} (h : taskOf ev = some task) : task.isIdle := by
  cases ev <;> cases h <;> rfl

theorem todo_perform (s : Server n) (act : Action) : ∃ sent, (∀ t ∈ sent, t.isIdle) ∧
      (s.perform act).todo = sent ++ s.todo := by
  refine ⟨_, ?_, rfl⟩
  intro t ht
  obtain ⟨ev, -, hev⟩ := mem_filterMap.mp ht
  exact isIdle_taskOf hev

section React

variable (s : Server n) (conn : UInt64) (reaction : Reaction)

theorem peers_react : (s.react conn reaction).peers = s.peers.insert conn reaction.peer := by
  unfold react
  cases reaction.world with
  | none => rfl
  | some call => cases call <;> rfl

theorem trace_react : (s.react conn reaction).trace =
    s.trace ++ reaction.news.map (Prod.mk conn) := by
  unfold react
  cases reaction.world with
  | none => rfl
  | some call => cases call <;> rfl

theorem authenticator_react : (s.react conn reaction).authenticator = if reaction.releases then
      s.authenticator.releaseConnection reaction.peer.tcp.clientIp
    else s.authenticator := by
  unfold react
  cases reaction.world with
  | none => rfl
  | some call => cases call <;> rfl

theorem todo_react : ∃ sent, (∀ t ∈ sent, t.isIdle) ∧ (reaction.world = none → sent = []) ∧
      (s.react conn reaction).todo =
        sent ++ (reaction.calls.map (LoopTask.own conn) ++ s.todo) := by
  unfold react
  cases reaction.world with
  | none => exact ⟨[], by simp, fun _ => rfl, rfl⟩
  | some call =>
    cases call with
    | create cfg => exact ⟨[], by simp, fun _ => rfl, rfl⟩
    | message | close =>
      obtain ⟨sent, hidle, htodo⟩ := todo_perform _ _
      exact ⟨sent, hidle, by simp, htodo⟩

end React

/-! ## Good order -/

/-- Every connection is in good standing, and a close that is called is the
next thing to be done. -/
structure Sound (s : Server n) : Prop where
  orderly : ∀ t ∈ s.todo.tail, t.rushes = false
  standing : ∀ {connection peer}, s.peers.lookup connection = some peer →
    peer.status.Standing (agenda connection s.todo)
  coherent : ∀ {connection peer}, s.peers.lookup connection = some peer → peer.status.Coherent

end Server

/-- What a call of a connection does to the sessions. -/
def WorldCall.action (connection : UInt64) : WorldCall → Option Action
  | .create _ => none
  | .message decoded answers => some (.message connection decoded answers)
  | .close order => some (.closed connection order)

namespace Server

variable {n : ℕ}

/-- What a move does to the sessions. -/
def action (s : Server n) : Move → Option Action
  | .event _ => none
  | .run answers order =>
    match s.todo with
    | [] => none
    | .own connection task :: _ =>
      (s.peers.lookup connection).bind fun peer =>
        (peer.perTask s.config answers order task).world.bind (WorldCall.action connection)
    | .replay worker item :: _ => some (replayOf worker item answers)

/-- What is done next destroys no session inside a call of its own, and a connection
that is accepted gets an identity that was not used before. -/
def Undisturbed (s : Server n) : Move → Prop
  | .event (.accepted worker _) => s.peers.lookup (s.connectionId worker) = none
  | .event _ => True
  | .run .. =>
    match s.todo with
    | .own connection task :: rest =>
      (s.peers.lookup connection).all fun peer => peer.takesTask (agenda connection rest) task
    | _ => True

instance (s : Server n) : (move : Move) → Decidable (s.Undisturbed move)
  | .event (.accepted worker _) =>
    decidable_of_iff (s.peers.lookup (s.connectionId worker)).isNone
      Option.isNone_iff_eq_none
  | .event (.input ..) | .event (.drained ..) => instDecidableTrue
  | .run .. => by
      unfold Undisturbed
      dsimp only
      split <;> infer_instance

/-- The steps of a server, with what they do to the sessions. -/
inductive Steps (s : Server n) : Option Action → Server n → Prop where
  | stay : Steps s none s
  | pass (rest : List LoopTask) (hrest : ∀ t ∈ rest, t.rushes = false)
      (hagenda : ∀ connection peer, s.peers.lookup connection = some peer →
        agenda connection rest = agenda connection s.todo) :
      Steps s none { s with todo := rest }
  | drain (router : CrossWorkerRouter n SharedMediaFrame)
      (tasks : List LoopTask) (hidle : ∀ t ∈ tasks, t.isIdle)
      (htodo : s.todo = []) (hcounts : router.counts = s.router.counts) :
      Steps s none { s with router, todo := tasks }
  | replay (worker : ℕ) (item : QueuedFrame SharedMediaFrame)
      (answers : Answers) (rest : List LoopTask)
      (htodo : s.todo = .replay worker item :: rest)
      (hrest : ∀ t ∈ rest, t.rushes = false) :
      Steps s (some (replayOf worker item answers))
        ({ s with todo := rest }.perform (replayOf worker item answers))
  | react (connection : UInt64) (peer : Peer) (reaction : Reaction)
      (rest : List LoopTask) (hpeer : s.peers.lookup connection = some peer)
      (hrest : ∀ t ∈ rest, t.rushes = false)
      (hothers : ∀ other, other ≠ connection → agenda other rest = agenda other s.todo)
      (hallowed : reaction.Allowed peer (agenda connection rest)) :
      Steps s (reaction.world.bind (WorldCall.action connection))
        ({ s with todo := rest }.react connection reaction)
  | refuse (clientIp : Bytes) (authenticator : RtmpAuthenticator)
      (hrefused : s.authenticator.admitConnection clientIp = (authenticator, false)) :
      Steps s none { s with authenticator }
  | admitted (worker : ℕ) (clientIp : Bytes) (authenticator : RtmpAuthenticator)
      (hadmitted : s.authenticator.admitConnection clientIp = (authenticator, true))
      (hfresh : s.peers.lookup (s.connectionId worker) = none)
      (htodo : s.todo = []) :
      Steps s none
        { s with
          authenticator
          nextConnectionId := Function.update s.nextConnectionId worker
            (s.nextConnectionId worker + 1)
          peers := s.peers.insert (s.connectionId worker) (newPeer s.config worker clientIp)
          trace := s.trace ++ [(s.connectionId worker, .admitted clientIp)] }

theorem agenda_cons (conn : UInt64) (task : LoopTask) (rest : List LoopTask) :
    agenda conn (task :: rest) = agenda conn [task] ++ agenda conn rest :=
  agenda_append conn [task] rest

variable {s : Server n} {conn : UInt64}

theorem steps_own (h : s.Sound) {task : PeerTask} {rest : List LoopTask}
    (htodo : s.todo = .own conn task :: rest) (answers : Answers)
    (order : List UInt32) (hfits : s.Undisturbed (.run answers order)) :
    s.Steps (s.action (.run answers order)) ({ s with todo := rest }.perTask answers order
        (.own conn task)) := by
  have hrest : ∀ t ∈ rest, t.rushes = false := by
    have hord := h.orderly
    rwa [htodo] at hord
  have hoths : ∀ other, other ≠ conn → agenda other rest = agenda other s.todo := by
    intro other hne
    have hnone : agenda other [.own conn task] = [] := agenda_own_other hne [task]
    rw [htodo, agenda_cons, hnone, nil_append]
  simp only [action, Undisturbed, htodo] at hfits ⊢
  dsimp only [perTask, withPeer]
  cases hpeer : s.peers.lookup conn with
  | none =>
    refine .pass rest hrest fun other peer hother => hoths other ?_
    rintro rfl
    rw [hpeer] at hother
    cases hother
  | some peer =>
    rw [hpeer] at hfits
    have hstd := h.standing hpeer
    have hown : agenda conn [.own conn task] = vital [task] := agenda_own conn [task]
    rw [htodo, agenda_cons, hown] at hstd
    exact .react conn peer _ rest hpeer hrest hoths
      (peer.allowed_perTask s.config answers order hfits hstd (h.coherent hpeer))

theorem counts_drain (router : CrossWorkerRouter n SharedMediaFrame) (worker maxFrames : ℕ) :
    (router.drain worker maxFrames).1.counts = router.counts := by
  unfold CrossWorkerRouter.drain
  split <;> rfl

theorem isIdle_replayTask {ev : RouterEvent n SharedMediaFrame}
    {task : LoopTask} (h : replayTask ev = some task) : task.isIdle := by
  cases ev <;> cases h
  rfl

theorem steps_handleEvent (h : s.Sound) (htodo : s.todo = [])
    (ev : LoopEvent) (hfits : s.Undisturbed (.event ev)) : s.Steps none (s.handleEvent ev) := by
  cases ev with
  | accepted worker ip =>
    dsimp only [handleEvent]
    unfold accept
    split_ifs with hfull
    · exact .stay
    generalize hadm : s.authenticator.admitConnection ip = admission
    obtain ⟨authenticator, isAdmitted⟩ := admission
    cases isAdmitted with
    | false => exact .refuse ip authenticator hadm
    | true => exact .admitted worker ip authenticator hadm hfits htodo
  | input conn input =>
    dsimp only [handleEvent, withPeer]
    cases hpeer : s.peers.lookup conn with
    | none => exact .stay
    | some peer =>
      have hagenda : ∀ other, agenda other s.todo = [] := by
        intro other
        rw [htodo]
        rfl
      have hcoh := h.coherent hpeer
      have hallow : Reaction.Allowed peer (agenda conn s.todo)
          (if peer.registered then peer.onInput input else { peer }) := by
        rw [hagenda]
        split_ifs with hreg
        · exact peer.allowed_onInput input hreg hcoh
        · exact peer.allowed_same .idle hcoh
      have hworld : (if peer.registered then peer.onInput input
          else { peer } : Reaction).world = none := by
        split_ifs
        · exact peer.world_onInput input
        · rfl
      have hstep := Steps.react conn peer _ s.todo hpeer (by simp [htodo]) (fun _ _ => rfl) hallow
      rwa [hworld] at hstep
  | drained worker maxFrames =>
    dsimp only [handleEvent]
    rw [htodo, append_nil]
    refine .drain _ _ ?_ htodo (counts_drain s.router worker maxFrames)
    intro t ht
    obtain ⟨ev, -, hev⟩ := mem_filterMap.mp ht
    exact isIdle_replayTask hev

theorem steps_step (h : s.Sound) {move : Move}
    (hfits : s.Undisturbed move) : s.Steps (s.action move) (s.step move) := by
  cases move with
  | event ev =>
    dsimp only [step]
    split
    next htodo => exact steps_handleEvent h htodo ev hfits
    next => exact .stay
  | run answers order =>
    dsimp only [step]
    cases htodo : s.todo with
    | nil =>
      rw [action, htodo]
      exact .stay
    | cons task rest =>
      cases task with
      | own conn task => exact steps_own h htodo answers order hfits
      | replay worker item =>
        have hrest : ∀ t ∈ rest, t.rushes = false := by
          have hord := h.orderly
          rwa [htodo] at hord
        rw [action, htodo]
        exact .replay worker item answers rest htodo hrest

/-! ## Steps keep the order -/

theorem coherent_newPeer (cfg : ServerConfig) (worker : ℕ) (ip : Bytes) :
    (newPeer cfg worker ip).status.Coherent where
  gone h := by cases h
  listed h := by cases h
  receives h := by cases h

theorem Sound.idle (tasks rest : List LoopTask)
    (hidle : ∀ t ∈ tasks, t.isIdle) (hrest : ∀ t ∈ rest, t.rushes = false)
    (hstd : ∀ {conn peer}, s.peers.lookup conn = some peer →
      peer.status.Standing (agenda conn rest))
    (hcoh : ∀ {conn peer}, s.peers.lookup conn = some peer → peer.status.Coherent)
    (htodo : s.todo = tasks ++ rest) : s.Sound where
  orderly t ht := by
    have hmem := mem_of_mem_tail ht
    rw [htodo, mem_append] at hmem
    rcases hmem with hmem | hmem
    · exact LoopTask.rushes_of_isIdle (hidle t hmem)
    · exact hrest t hmem
  standing hpeer := by
    rw [htodo, agenda_append, agenda_of_isIdle hidle]
    exact hstd hpeer
  coherent := hcoh

theorem Sound.react {peer : Peer} {reaction : Reaction} (hrest : ∀ t ∈ s.todo, t.rushes = false)
    (hallow : reaction.Allowed peer (agenda conn s.todo))
    (hoths : ∀ other peer, other ≠ conn → s.peers.lookup other = some peer →
        peer.status.Standing (agenda other s.todo) ∧ peer.status.Coherent) :
    (s.react conn reaction).Sound := by
  obtain ⟨sent, hidle, hsil, htodo⟩ := s.todo_react conn reaction
  have hlook : ∀ {other peer}, (s.react conn reaction).peers.lookup other = some peer →
        other = conn ∧ peer = reaction.peer ∨ other ≠ conn ∧ s.peers.lookup other = some peer := by
    intro other peer hpeer
    rw [peers_react] at hpeer
    rcases eq_or_ne other conn with rfl | hne
    · rw [lookup_insert] at hpeer
      exact .inl ⟨rfl, (Option.some.inj hpeer).symm⟩
    · rw [lookup_insert_ne hne] at hpeer
      exact .inr ⟨hne, hpeer⟩
  constructor
  · -- the first call may be that of a close, unless the sessions speak first
    have hcalls : ∀ t ∈ (reaction.calls.map (LoopTask.own conn)).tail ++
        s.todo, t.rushes = false := by
      intro t ht
      rcases mem_append.mp ht with ht | ht
      · rw [← map_tail] at ht
        obtain ⟨task, htask, rfl⟩ := mem_map.mp ht
        exact hallow.orderly task htask
      · exact hrest t ht
    intro t ht
    rw [htodo] at ht
    cases hworld : reaction.world with
    | none =>
      rw [hsil hworld] at ht
      cases hhead : reaction.calls.map (LoopTask.own conn) with
      | nil =>
        rw [hhead] at ht
        exact hrest t (mem_of_mem_tail ht)
      | cons call calls =>
        rw [hhead] at ht hcalls
        exact hcalls t ht
    | some call =>
      have hmem := mem_of_mem_tail ht
      rcases mem_append.mp hmem with hmem | hmem
      · exact LoopTask.rushes_of_isIdle (hidle t hmem)
      · rcases mem_append.mp hmem with hmem | hmem
        · obtain ⟨task, htask, rfl⟩ := mem_map.mp hmem
          exact hallow.orderly_world (by simp [hworld]) task htask
        · exact hrest t hmem
  · intro other peer' hpeer
    rw [htodo, agenda_append, agenda_of_isIdle hidle, agenda_append]
    rcases hlook hpeer with ⟨rfl, rfl⟩ | ⟨hne, hother⟩
    · rw [agenda_own]
      exact hallow.standing
    · rw [agenda_own_other hne]
      exact (hoths other peer' hne hother).1
  · intro other peer' hpeer
    rcases hlook hpeer with ⟨rfl, rfl⟩ | ⟨hne, hother⟩
    · exact hallow.coherent
    · exact (hoths other peer' hne hother).2

theorem Steps.sound {s' : Server n} {act : Option Action}
    (h : s.Steps act s') (hsnd : s.Sound) : s'.Sound := by
  cases h with
  | stay => exact hsnd
  | pass rest hrest hagenda =>
    refine .idle [] rest (by simp) hrest ?_ hsnd.coherent rfl
    intro conn peer hpeer
    rw [hagenda conn peer hpeer]
    exact hsnd.standing hpeer
  | drain router tasks hidle htodo =>
    refine .idle tasks [] hidle (by simp) ?_ hsnd.coherent (by simp)
    intro conn peer hpeer
    have hstd := hsnd.standing hpeer
    rwa [htodo] at hstd
  | replay worker item answers rest htodo hrest =>
    obtain ⟨sent, hidle, hsent⟩ :=
      todo_perform { s with todo := rest } (replayOf worker item answers)
    refine .idle sent rest hidle hrest ?_ hsnd.coherent hsent
    intro conn peer hpeer
    have hstd := hsnd.standing hpeer
    rwa [htodo] at hstd
  | react conn peer reaction rest hpeer hrest hoths hallow =>
    refine .react hrest hallow fun other peer' hne hother => ?_
    have hstd := hsnd.standing hother
    rw [← hoths other hne] at hstd
    exact ⟨hstd, hsnd.coherent hother⟩
  | refuse => exact ⟨hsnd.orderly, hsnd.standing, hsnd.coherent⟩
  | admitted worker ip authenticator _ hfsh htodo =>
    refine .idle [] s.todo (by simp) (by simp [htodo]) ?_ ?_ rfl
    · refine @forall_lookup_insert _ _ _ _ _ _ (fun conn (peer : Peer) =>
          peer.status.Standing (agenda conn s.todo))
        (fun _ _ => hsnd.standing) ?_
      rw [htodo]
      exact .idle
    · exact @forall_lookup_insert _ _ _ _ _ _ (fun _ (peer : Peer) => peer.status.Coherent)
        (fun _ _ => hsnd.coherent) (coherent_newPeer _ _ _)

theorem sound_initial (n : ℕ) (cfg : ServerConfig)
    (limits : AuthenticatorLimits) (routerLimits : RouterLimits)
    (fanout : ℕ → GopLimits × QueueLimits × ℕ) :
    (initial n cfg limits routerLimits fanout).Sound where
  orderly := by simp [initial]
  standing h := by cases h
  coherent h := by cases h

end Server

end RtmpCore.Net
