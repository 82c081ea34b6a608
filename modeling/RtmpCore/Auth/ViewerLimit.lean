import RtmpCore.Auth.Workers

/-!
# The viewer limit

The authorizer compares the number of viewers with the limit in one section
and the viewer is counted in a later one.  As long as no two workers are
between these sections for one stream, the viewers that have been let through
and not yet counted fit under the limit together with those that are counted.

The count goes by `application/name`.  Two streams with slashes in their names
may share a key, and the one's leaving viewers then make room for the other.
-/

namespace RtmpCore.Auth

open RtmpCore.Core Chunk Amf0 Live Support List Function RtmpAuthenticator

namespace Workers

variable {n : ℕ}

/-- Playback is authorised while no other worker has a viewer of the same
stream under way, and no stream with a slash in its name is told of. -/
def Apart (s : Workers n) : WorkerStep n → Prop
  | .authorize worker _ _ _ =>
    match s.phase worker with
    | .asked call => ∀ other, other ≠ worker → (s.phase other).pending call.key = 0
    | _ => True
  | .tell worker =>
    match s.phase worker with
    | .telling (notice :: _) => 0x2F ∉ notice.name
    | _ => True
  | _ => True

instance (s : Workers n) (step : WorkerStep n) : Decidable (s.Apart step) := by
  cases step <;> unfold Apart <;> dsimp only <;> try infer_instance
  all_goals split <;> infer_instance

/-- The viewers under a key that are let through and not yet told of. -/
def underway (s : Workers n) (key : Bytes) : ℕ := ∑ worker, (s.phase worker).pending key

theorem underway_setPhase (s : Workers n) (worker : Fin n) (phase : Phase) (key : Bytes) :
    (s.setPhase worker phase).underway key + (s.phase worker).pending key =
      s.underway key + phase.pending key := by
  have hafter := Finset.add_sum_erase Finset.univ
    (fun other => (update s.phase worker phase other).pending key)
    (Finset.mem_univ worker)
  have hbef := Finset.add_sum_erase Finset.univ
    (fun other => (s.phase other).pending key) (Finset.mem_univ worker)
  have hoths : ∑ other ∈ Finset.univ.erase worker, (update s.phase worker phase other).pending key =
      ∑ other ∈ Finset.univ.erase worker, (s.phase other).pending key := by
    refine Finset.sum_congr rfl fun other hother => ?_
    rw [update_of_ne (Finset.ne_of_mem_erase hother)]
  simp only [update_self] at hafter
  simp only [underway, setPhase]
  omega

/-- The notices of a kind that the authenticator was told under a key. -/
def toldOf (told : List ViewerNotice) (isAttached : Bool) (key : Bytes) : ℕ :=
  told.countP fun notice => notice.isAttached = isAttached ∧ notice.key = key

/-- A `play` that is being authorised is the session's own: the session runs
on the worker and has the application the authorizer was called with. -/
structure Expects (s : Workers n) (worker : Fin n) (call : PlayCall) : Prop where
  runs : (s.world.sessions call.connection).config.liveFanout = some worker.val
  joins : ∀ granted, (call.answered granted).joins s.world =
    if granted then some (call.app, call.name) else none

structure Bounded (limits : AuthenticatorLimits) (s : Workers n) : Prop where
  limits_eq : s.authenticator.limits = limits
  authorizer : ∀ c, (s.world.sessions c).config.playbackAuthorizer = true
  expects : ∀ worker call, s.phase worker = .asked call ∨ s.phase worker = .granted call →
      s.Expects worker call
  room : ∀ key, s.underway key + s.authenticator.viewersPerStream.amount key ≤
    limits.maxViewersPerStream.toNat
  positive : s.authenticator.viewersPerStream.Positive
  named : ∀ notice ∈ s.told, 0x2F ∉ notice.name
  counted : ∀ key, toldOf s.told true key ≤
    s.authenticator.viewersPerStream.amount key + toldOf s.told false key

/-! ## Performing an action -/

theorem joins_congr {w w' : World} {conn : UInt64}
    (hcfg : (w'.sessions conn).config = (w.sessions conn).config)
    (happ : (w'.sessions conn).appName = (w.sessions conn).appName)
    (msg : RtmpMessage) (answers : Answers) :
    w'.joins conn msg answers = w.joins conn msg answers := by
  unfold World.joins
  rw [hcfg, happ]

variable {call : PlayCall} {act : Action} {a : RtmpAuthenticator} {app name : Bytes}
  {rest : List ViewerNotice}

variable {s : Workers n} {worker : Fin n} {limits : AuthenticatorLimits}

theorem Expects.perform (h : s.Expects worker call)
    (haway : call.connection ∉ act.home) (phase : Fin n → Phase) :
    { s with world := s.world.perform act, phase }.Expects worker call where
  runs := by
    have hfr := s.world.attaches_perform act
    rw [hfr.config]
    exact h.runs
  joins granted := by
    have hfr := s.world.attaches_perform act
    have hjoins := joins_congr (hfr.config call.connection)
      (hfr.appName call.connection haway) call.message
      { call.answers with playAllowed := granted }
    exact hjoins.trans (h.joins granted)

section

variable (h : s.Bounded limits)
include h

/-- A worker performs an action of its own that lets no more viewers join than
it had under way. -/
theorem Bounded.serve (worker : Fin n)
    (hruns : ∀ c ∈ act.home, (s.world.sessions c).config.liveFanout = some worker.val)
    (hjoins : ∀ key, ((act.joins s.world).toList.countP
      fun joined => viewerKey joined.1 joined.2 = key) ≤
        (s.phase worker).pending key) : (s.serve worker act).Bounded limits where
  limits_eq := h.limits_eq
  authorizer c := by
    have hfr := (s.world.attaches_perform act).config c
    exact (congrArg SessionConfig.playbackAuthorizer hfr).trans (h.authorizer c)
  expects other call hcall := by
    rcases eq_or_ne other worker with rfl | hne
    · simp [Workers.serve, setPhase] at hcall
    · have hbef : s.phase other = .asked call ∨ s.phase other = .granted call := by
        simpa [Workers.serve, setPhase, hne] using hcall
      have hexp := h.expects other call hbef
      refine hexp.perform (fun hhome => hne ?_) _
      have hsame := (hruns _ hhome).symm.trans hexp.runs
      exact (Fin.ext (Option.some.inj hsame)).symm
  room key := by
    have hsum := { s with world := s.world.perform act }.underway_setPhase
      worker (.telling (((s.world.perform act).log.drop
        s.world.log.length).filterMap viewerNotice)) key
    have hpend := pending_perform s.world act key
    have hbef := h.room key
    have hle := hjoins key
    change _ + (s.phase worker).pending key = s.underway key + _ at hsum
    change (s.serve worker act).underway key + _ = _ at hsum
    change (s.serve worker act).underway key + s.authenticator.viewersPerStream.amount key ≤ _
    omega
  positive := h.positive
  named := h.named
  counted := h.counted

/-- A worker waits for the authorizer, has passed it, or has told it of a viewer. -/
theorem Bounded.setPhase {phase : Phase} {told : List ViewerNotice}
    (hexp : ∀ call, phase = .asked call ∨ phase = .granted call → s.Expects worker call)
    (hroom : ∀ key, s.underway key + phase.pending key + a.viewersPerStream.amount key ≤
      limits.maxViewersPerStream.toNat + (s.phase worker).pending key)
    (hlims : a.limits = s.authenticator.limits) (hpositive : a.viewersPerStream.Positive)
    (hnamed : ∀ notice ∈ told, 0x2F ∉ notice.name)
    (hcounted : ∀ key, toldOf told true key ≤
      a.viewersPerStream.amount key + toldOf told false key) :
    ({ s with authenticator := a, told }.setPhase worker phase).Bounded limits where
  limits_eq := hlims.trans h.limits_eq
  authorizer := h.authorizer
  expects other call hcall := by
    rcases eq_or_ne other worker with rfl | hne
    · simp only [Workers.setPhase, update_self] at hcall
      exact ⟨(hexp call hcall).runs, (hexp call hcall).joins⟩
    · simp only [Workers.setPhase, update_of_ne hne] at hcall
      exact ⟨(h.expects other call hcall).runs, (h.expects other call hcall).joins⟩
  room key := by
    have hsum := s.underway_setPhase worker phase key
    have hle := hroom key
    change (s.setPhase worker phase).underway key + a.viewersPerStream.amount key ≤ _
    omega
  positive := hpositive
  named := hnamed
  counted := hcounted

theorem Bounded.withAuthenticator {authenticator : RtmpAuthenticator}
    (hlims : authenticator.limits = s.authenticator.limits)
    (hview : authenticator.viewersPerStream = s.authenticator.viewersPerStream) :
    { s with authenticator }.Bounded limits where
  limits_eq := hlims.trans h.limits_eq
  authorizer := h.authorizer
  expects worker call hcall :=
    ⟨(h.expects worker call hcall).runs, (h.expects worker call hcall).joins⟩
  room key := by
    rw [hview]
    exact h.room key
  positive := hview ▸ h.positive
  named := h.named
  counted := hview ▸ h.counted

/-! ## The steps of a worker -/

theorem Bounded.serve_refused (hcall : s.Expects worker call) :
    (s.serve worker (call.answered false)).Bounded limits := by
  refine h.serve worker ?_ ?_
  · intro c hc
    obtain rfl : c = call.connection := hc
    exact hcall.runs
  · simp [hcall.joins]

theorem expects_of_playCall (hruns : runsOn s.world worker act = true)
    (hcall : playCall s.world act = some call) : s.Expects worker call := by
  refine ⟨?_, joins_answered hcall (h.authorizer _)⟩
  obtain ⟨rfl, -⟩ := playCall_eq_some hcall
  simpa [runsOn] using hruns

theorem bounded_start (worker : Fin n)
    (act : Action) (now : ℕ) : (s.start worker act now).Bounded limits := by
  unfold Workers.start
  split
  next hidle =>
    split_ifs with hruns
    · split
      next hnone =>
        refine h.serve worker ?_ ?_
        · intro c hc
          cases act with
          | message conn msg answers =>
            obtain rfl : c = conn := hc
            simpa [runsOn] using hruns
          | closed | replayedMedia | replayedStop => exact absurd hc (Set.notMem_empty c)
        · simp [joins_of_playCall_none hnone]
      next call hcall =>
        have hexp := expects_of_playCall h hruns hcall
        split_ifs
        · exact h.serve_refused hexp
        · refine h.setPhase (fun other hother => ?_) (fun key => ?_) rfl h.positive h.named
            h.counted
          · obtain rfl : call = other := by simpa using hother
            exact hexp
          · exact (h.room key).trans (Nat.le_add_right _ _)
    · exact h
  · exact h

theorem bounded_authorize {streamEnabled applicationEnabled : Bool} {now : ℕ}
    (hapart : s.Apart (.authorize worker streamEnabled applicationEnabled now)) :
    (s.authorize worker streamEnabled applicationEnabled now).Bounded limits := by
  unfold Workers.authorize
  unfold Apart at hapart
  split
  next call hasked =>
    have hexp := h.expects worker call (.inl hasked)
    simp only [hasked] at hapart
    split
    next authenticator hgrant =>
      obtain ⟨hlims, hview⟩ := viewersPerStream_authorizePlayback hgrant
      have hfits := lt_of_authorizePlayback hgrant
      have hnobody : s.underway call.key = 0 := by
        refine Finset.sum_eq_zero fun other _ => ?_
        rcases eq_or_ne other worker with rfl | hne
        · simp [hasked, Phase.pending]
        · exact hapart other hne
      refine h.setPhase (fun other hother => ?_) (fun key => ?_) hlims (hview ▸ h.positive) h.named
        (hview ▸ h.counted)
      · obtain rfl : call = other := by simpa using hother
        exact hexp
      · rw [hview, hasked]
        have hbef := h.room key
        simp only [Phase.pending]
        split_ifs with hkey
        · subst hkey
          rw [hnobody]
          exact Nat.add_comm _ _ ▸ h.limits_eq ▸ hfits
        · exact hbef
    next authenticator href =>
      obtain ⟨hlims, hview⟩ := viewersPerStream_authorizePlayback href
      exact (h.withAuthenticator hlims hview).serve_refused ⟨hexp.runs, hexp.joins⟩
  · exact h

theorem bounded_play (worker : Fin n) : (s.play worker).Bounded limits := by
  unfold Workers.play
  split
  next call hgrant =>
    have hexp := h.expects worker call (.inr hgrant)
    refine h.serve worker ?_ ?_
    · intro c hc
      obtain rfl : c = call.connection := hc
      exact hexp.runs
    · simp [hexp.joins, hgrant, Phase.pending]
  · exact h

end

/-! ## Telling the authenticator -/

theorem pending_telling_cons (notice : ViewerNotice) (rest : List ViewerNotice) (key : Bytes) :
    (Phase.telling (notice :: rest)).pending key = (Phase.telling rest).pending key +
        if notice.isAttached = true ∧ notice.key = key then 1 else 0 := by
  simp only [Phase.pending, countP_cons, Bool.and_eq_true, decide_eq_true_eq]

theorem amount_onViewerAttached
    (hroom : a.viewersPerStream.amount (viewerKey app name) + 1 < 2 ^ 64) (key : Bytes) :
    (a.onViewerAttached app name).viewersPerStream.amount key = a.viewersPerStream.amount key +
        if viewerKey app name = key then 1 else 0 := by
  rw [RtmpAuthenticator.onViewerAttached, Counters.amount_increment hroom]
  rcases eq_or_ne (viewerKey app name) key with rfl | hne
  · simp
  · simp [hne, hne.symm]

theorem amount_onViewerDetached (hpos : a.viewersPerStream.Positive) (key : Bytes) :
    (a.onViewerDetached app name).viewersPerStream.amount key = a.viewersPerStream.amount key -
        if viewerKey app name = key then 1 else 0 := by
  rw [RtmpAuthenticator.onViewerDetached]
  rcases Nat.eq_zero_or_pos (a.viewersPerStream.amount (viewerKey app name)) with hzero | hsome
  · rw [Counters.decrement_of_zero hpos hzero]
    split_ifs with hkey
    · rw [← hkey, hzero]
    · rfl
  · rw [Counters.amount_decrement hsome]
    rcases eq_or_ne (viewerKey app name) key with rfl | hne
    · simp
    · simp [hne, hne.symm]

theorem toldOf_concat (told : List ViewerNotice) (notice : ViewerNotice) (isAttached : Bool)
    (key : Bytes) : toldOf (told ++ [notice]) isAttached key = toldOf told isAttached key +
      if notice.isAttached = isAttached ∧ notice.key = key then 1 else 0 := by
  simp [toldOf, countP_append, countP_singleton]

/-- The authenticator counts the viewer who was under way, or gives up one that it
counted. -/
theorem bounded_tell (h : s.Bounded limits)
    (hapart : s.Apart (.tell worker)) : (s.tell worker).Bounded limits := by
  unfold Workers.tell
  unfold Apart at hapart
  split
  next notice rest htell =>
    simp only [htell] at hapart
    have hnamed := forall_mem_append.mpr ⟨h.named, forall_mem_singleton.mpr hapart⟩
    have hsum := s.underway_setPhase worker (.telling rest)
    simp only [htell, pending_telling_cons] at hsum
    obtain ⟨isAttached, app, name⟩ := notice
    cases isAttached with
    | true =>
      -- the viewer was under way, so the count stays below the limit
      have hroom : s.authenticator.viewersPerStream.amount (viewerKey app name) + 1 < 2 ^ 64 := by
        have hsum := hsum (viewerKey app name)
        have hbef := h.room (viewerKey app name)
        have hlim := limits.maxViewersPerStream.toNat_lt
        simp at hsum
        omega
      have ham := amount_onViewerAttached hroom
      refine h.setPhase (by simp) (fun key => ?_) rfl (h.positive.increment hroom) hnamed
        fun key => ?_
      · have hbef := h.room key
        rw [htell, pending_telling_cons]
        simp [ham, ViewerNotice.key]
        omega
      · have hbef := h.counted key
        simp [toldOf_concat, ham, ViewerNotice.key]
        omega
    | false =>
      have ham : ∀ key, (s.authenticator.onViewerDetached app name).viewersPerStream.amount key =
          _ := amount_onViewerDetached h.positive
      refine h.setPhase (by simp) (fun key => ?_) rfl h.positive.decrement hnamed fun key => ?_
      · have hbef := h.room key
        rw [htell, pending_telling_cons]
        simp [ham, ViewerNotice.key]
        omega
      · have hbef := h.counted key
        simp [toldOf_concat, ham, ViewerNotice.key]
        omega
  · exact h

/-! ## Every run -/

theorem bounded_step (h : s.Bounded limits) {step : WorkerStep n}
    (hapart : s.Apart step) : (s.step step).Bounded limits := by
  cases step with
  | start worker act now => exact bounded_start h worker act now
  | authorize worker streamEnabled applicationEnabled now => exact bounded_authorize h hapart
  | play worker => exact bounded_play h worker
  | tell worker => exact bounded_tell h hapart

theorem bounded_initial (limits : AuthenticatorLimits) (cfg : UInt64 → SessionConfig)
    (fanout : ℕ → GopLimits × QueueLimits × ℕ) :
    (initial limits cfg fanout : Workers n).Bounded limits where
  limits_eq := rfl
  authorizer _ := rfl
  expects worker call hcall := by simp [initial] at hcall
  room key := by simp [underway, initial, Phase.pending, Counters.amount, Counters.count]
  positive := Counters.positive_empty
  named notice hnotice := by simp [initial] at hnotice
  counted key := by simp [toldOf, initial]

theorem Bounded.count_eq (h : s.Bounded limits) (isAttached : Bool) {app name : Bytes}
    (hname : 0x2F ∉ name) :
    s.told.count ⟨isAttached, app, name⟩ = toldOf s.told isAttached (viewerKey app name) := by
  refine countP_congr fun notice hmem => ?_
  rw [beq_iff_eq, decide_eq_true_iff]
  constructor
  · rintro rfl
    exact ⟨rfl, rfl⟩
  · rintro ⟨rfl, hkey⟩
    obtain ⟨happ, hsame⟩ := viewerKey_inj (h.named notice hmem) hname hkey
    rw [← happ, ← hsame]

theorem Bounded.viewers_le (h : s.Bounded limits) (app name : Bytes) :
    s.viewers app name ≤ limits.maxViewersPerStream.toNat := by
  by_cases hname : 0x2F ∈ name
  · have hnone : ∀ isAttached, s.told.count ⟨isAttached, app, name⟩ = 0 := by
      intro isAttached
      exact count_eq_zero.mpr fun hmem => h.named _ hmem hname
    rw [viewers, hnone]
    simp
  · have hcnt := h.counted (viewerKey app name)
    have hroom := h.room (viewerKey app name)
    rw [viewers, h.count_eq true hname, h.count_eq false hname]
    omega

/-- While playback is authorised for one worker at a time and no stream has a
slash in its name, no stream has more viewers than the limit. -/
theorem viewers_le_maxViewersPerStream (limits : AuthenticatorLimits)
    (config : UInt64 → SessionConfig) (fanout : ℕ → GopLimits × QueueLimits × ℕ)
    (steps : List (WorkerStep n)) (h : Run.Along step Apart (initial limits config fanout) steps)
    (app name : List UInt8) : (Run.run step (initial limits config fanout) steps).viewers app name ≤
      limits.maxViewersPerStream.toNat := by
  have hbounded := Run.run_invariant (Bounded limits) h
    (bounded_initial limits config fanout) fun s step hapart hs => bounded_step hs hapart
  exact hbounded.viewers_le app name

/-- A command message of a client on its first message stream. -/
def clientMessage (values : List Amf0Value) : RtmpMessage :=
  { messageTypeId := MessageTypeId.amf0Command.code
    messageStreamId := 1
    payload := values.flatMap encode }

def connectsTo (connection : UInt64) (app : String) : Action :=
  .message connection (clientMessage
      [.string "connect", .number 0, .object [("app", .string (textBytes app))]]) {}

def plays (connection : UInt64) (name : String) : Action :=
  .message connection (clientMessage
      [.string "play", .number 0, .null, .string (textBytes name)])
    {}

/-- Two workers, with one connection each, and room for one viewer. -/
def twoWorkers : Workers 2 :=
  initial { maxViewersPerStream := 1 }
    (fun connection => { liveFanout := some (if connection = 1 then 0 else 1) })
    fun _ => ({}, {}, 250)

/-- The second viewer asks when the first one has been counted. -/
def oneAfterAnother : List (WorkerStep 2) :=
  [.start 0 (connectsTo 1 "live") 0, .start 1 (connectsTo 2 "live") 0,
    .start 0 (plays 1 "cam") 0, .authorize 0 true true 0, .play 0, .tell 0,
    .start 1 (plays 2 "cam") 0, .authorize 1 true true 0]

theorem viewers_oneAfterAnother : Run.Along step Apart twoWorkers oneAfterAnother ∧
      (Run.run step twoWorkers oneAfterAnother).viewers "live"
        "cam" ≤ 1 := by
  have hapart : Run.Along step Apart twoWorkers oneAfterAnother := by decide +kernel
  exact ⟨hapart, viewers_le_maxViewersPerStream _ _ _ _ hapart _ _⟩

/-- Both viewers ask before either is counted. -/
def bothAsk : List (WorkerStep 2) :=
  [.start 0 (connectsTo 1 "live") 0, .start 1 (connectsTo 2 "live") 0,
    .start 0 (plays 1 "cam") 0, .start 1 (plays 2 "cam") 0,
    .authorize 0 true true 0, .authorize 1 true true 0, .play 0, .tell 0, .play 1, .tell 1]

theorem bothAsk_exceeds_limit : twoWorkers.authenticator.limits.maxViewersPerStream = 1 ∧
      (Run.run step twoWorkers bothAsk).viewers "live"
        "cam" = 2 := by
  decide +kernel

end Workers

end RtmpCore.Auth
