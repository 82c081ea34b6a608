import RtmpCore.Chunk.Types
import RtmpCore.Media.Aac
import RtmpCore.Media.Tag
import RtmpCore.Support.GatedLane
import RtmpCore.Support.Run

/-!
# The hand-off queue

A publisher's media thread hands its messages to a slower worker through a
bounded queue.  When the worker falls behind, video is dropped up to the next
keyframe.  The messages may carry more than the queue looks at, and `view` is
what it sees of them.  The sizes of queued payloads add up without overflow; the
hard cap is computed from a limit, and wraps.
-/

namespace RtmpCore.Media

open Chunk GatedLane Run List

structure HandoffMessage where
  video : Bool := false
  metadata : Bool := false
  keyframe : Bool := false
  sequenceHeader : Bool := false
  timestamp : UInt32 := 0
  payload : Bytes := []
deriving DecidableEq

structure HandoffLimits where
  maxBytes : ℕ := 32 * 1024 * 1024
  maxMessages : ℕ := 2048

structure MediaHandoffQueue (M : Type) where
  limits : HandoffLimits := {}
  queue : List M := []
  queuedBytes : ℕ := 0
  closed : Bool := false
  awaitingKeyframe : Bool := false
  resyncPending : Bool := false
  pushed : ℕ := 0
  dropped : ℕ := 0
  resyncs : ℕ := 0

namespace MediaHandoffQueue

variable {M : Type} (view : M → HandoffMessage) (q : MediaHandoffQueue M) (message : M)

def overLimit (incomingBytes : ℕ) : Bool :=
  q.limits.maxBytes < q.queuedBytes + incomingBytes || q.limits.maxMessages < q.queue.length + 1

def clear : MediaHandoffQueue M := { q with queue := [], queuedBytes := 0 }

def kHardCapMultiple : ℕ := 4

def hardCap : ℕ := q.limits.maxBytes * kHardCapMultiple % 2 ^ 64

def append : MediaHandoffQueue M :=
  { q with
    queuedBytes := q.queuedBytes + (view message).payload.length
    pushed := q.pushed + 1
    queue := q.queue ++ [message] }

/-- Returns whether the message was taken.  A keyframe abandons the backlog
rather than be dropped. -/
def push : MediaHandoffQueue M × Bool :=
  let m := view message
  let size := m.payload.length
  if q.closed then (q, false)
  else if m.video && m.keyframe then
    let resynced := { q with resyncPending := true, resyncs := q.resyncs + 1 }
    let made :=
      if q.overLimit size then { resynced.clear with dropped := q.dropped + q.queue.length }
      else if q.awaitingKeyframe then resynced
      else q
    (append view { made with awaitingKeyframe := false } message, true)
  else if m.video && !m.sequenceHeader then
    if q.awaitingKeyframe || q.overLimit size then
      ({ q with awaitingKeyframe := true, dropped := q.dropped + 1 }, false)
    else (append view q message, true)
  else if q.overLimit size && q.hardCap < q.queuedBytes + size then
    ({ q with dropped := q.dropped + 1 }, false)
  else (append view q message, true)

/-- The front of the queue leaves it; a worker waits while there is none. -/
def pop : MediaHandoffQueue M × Option M :=
  match q.queue with
  | [] => (q, none)
  | front :: rest =>
    ({ q with queue := rest, queuedBytes := q.queuedBytes - (view front).payload.length },
      some front)

end MediaHandoffQueue

/-! ## The producers -/

def isKeyframeType (frameType : VideoFrameType) : Bool :=
  frameType = .keyFrame || frameType = .generatedKeyFrame

/-- `on_video` of a stream target and of the ingest transcoder. -/
def handoffVideo (timestamp : UInt32) (payload : Bytes) : HandoffMessage :=
  let queued : HandoffMessage := { video := true, timestamp, payload }
  match classifyVideoTag payload with
  | none => queued
  | some info =>
    { queued with
      keyframe := isKeyframeType info.frameType
      sequenceHeader := info.avcPacketType = some .sequenceHeader ||
        info.exPacketType = some .sequenceStart }

/-- `on_audio` of a stream target.  The ingest transcoder sets no flag. -/
def handoffAudio (timestamp : UInt32) (payload : Bytes) : HandoffMessage where
  timestamp
  payload
  sequenceHeader :=
    match Aac.parseAudioTag payload with
    | .ok tag => tag.aacPacketType = Aac.aacPacketTypeSequenceHeader
    | .error _ => false

def ingestAudio (timestamp : UInt32) (payload : Bytes) : HandoffMessage where
  timestamp
  payload := payload

/-- `on_metadata` of a stream target. -/
def handoffMetadata (timestamp : UInt32) (payload : Bytes) : HandoffMessage where
  metadata := true
  timestamp
  payload := payload

namespace HandoffMessage

/-- Video that is not a decoder configuration. -/
def coded (m : HandoffMessage) : Bool := m.video && !m.sequenceHeader

/-- A keyframe that carries pictures, by the tag of its payload. -/
def keyPicture (m : HandoffMessage) : Bool :=
  match classifyVideoTag m.payload with
  | none => false
  | some info => isKeyframeType info.frameType && if info.enhanced then
        info.exPacketType = some .codedFrames || info.exPacketType = some .codedFramesX
      else (info.codec ≠ .avc && info.codec ≠ .hevc) || info.avcPacketType = some .nalu

end HandoffMessage

/-! ## Runs -/

inductive HandoffAction where
  | push (message : HandoffMessage)
  | pop
deriving DecidableEq

/-- A queue in use.  Its messages carry the number of the push they came with;
`offered` and `popped` are the messages that were pushed and popped so far. -/
structure HandoffRun where
  queue : MediaHandoffQueue (ℕ × HandoffMessage)
  offered : List (ℕ × HandoffMessage) := []
  popped : List (ℕ × HandoffMessage) := []
  log : List (LaneEvent (ℕ × HandoffMessage)) := []

namespace HandoffRun

def start (limits : HandoffLimits) : HandoffRun where
  queue := { limits }

/-- What a push takes out of the queue, from its front, or does not let in. -/
def lostBy (s : HandoffRun) (message : ℕ × HandoffMessage) : List (ℕ × HandoffMessage) :=
  let (queue, taken) := s.queue.push Prod.snd message
  if taken then s.queue.queue.take (s.queue.queue.length + 1 - queue.queue.length) else [message]

def perform (s : HandoffRun) : HandoffAction → HandoffRun
  | .push m =>
    let message := (s.offered.length, m)
    { s with
      queue := (s.queue.push Prod.snd message).1
      offered := s.offered ++ [message]
      log := s.log ++ ((s.lostBy message).filter (·.2.coded)).map .lost }
  | .pop =>
    let (queue, front) := s.queue.pop Prod.snd
    { s with
      queue
      popped := s.popped ++ front.toList
      log := s.log ++ (front.toList.filter (·.2.coded)).map .passed }

variable {s : HandoffRun} {m : HandoffMessage} {limits : HandoffLimits}

/-- A message that is flagged as a keyframe without being one comes neither
while a keyframe is awaited nor over the limit with coded video behind it. -/
def Pictured (s : HandoffRun) : HandoffAction → Prop
  | .push m => m.video = true → m.keyframe = true → (m.coded && m.keyPicture) = false →
      s.queue.awaitingKeyframe = false ∧ (s.queue.overLimit m.payload.length = true →
        s.queue.queue.filter (·.2.coded) = [])
  | .pop => True

instance (s : HandoffRun) (action : HandoffAction) : Decidable (s.Pictured action) := by
  cases action <;> unfold Pictured <;> infer_instance

/-- The coded video in the queue. -/
def lane (s : HandoffRun) : Lane (ℕ × HandoffMessage) :=
  ⟨s.queue.queue.filter (·.2.coded), s.queue.awaitingKeyframe = true, s.offered.length⟩

/-- What a push does to an open queue: the gate and the messages after it, and
what is lost. -/
inductive Pushed (s : HandoffRun) (m : HandoffMessage) :
    Bool → List (ℕ × HandoffMessage) → List (ℕ × HandoffMessage) → Prop where
  | restart (hkey : (m.video && m.keyframe) = true)
      (hover : s.queue.overLimit m.payload.length = true) :
      Pushed s m false [(s.offered.length, m)] s.queue.queue
  | key (hkey : (m.video && m.keyframe) = true) :
      Pushed s m false (s.queue.queue ++ [(s.offered.length, m)]) []
  | refuse (hcoded : m.coded = true) : Pushed s m true s.queue.queue [(s.offered.length, m)]
  | take (hplain : (m.video && m.keyframe) = false)
      (hopen : m.coded = true → s.queue.awaitingKeyframe = false) :
      Pushed s m s.queue.awaitingKeyframe (s.queue.queue ++ [(s.offered.length, m)]) []
  | capped (hcoded : m.coded = false)
      (hcap : s.queue.hardCap < s.queue.queuedBytes + m.payload.length) :
      Pushed s m s.queue.awaitingKeyframe s.queue.queue [(s.offered.length, m)]

theorem pushed (s : HandoffRun) (m : HandoffMessage) (hopen : s.queue.closed = false) :
    Pushed s m (s.perform (.push m)).queue.awaitingKeyframe (s.perform (.push m)).queue.queue
      (s.lostBy (s.offered.length, m)) := by
  by_cases hkey : (m.video && m.keyframe) = true
  · by_cases hover : s.queue.overLimit m.payload.length = true
    · simpa [perform, lostBy, MediaHandoffQueue.push, hopen, hkey, hover,
        MediaHandoffQueue.append, MediaHandoffQueue.clear] using Pushed.restart hkey hover
    · cases hwait : s.queue.awaitingKeyframe <;>
      simpa [perform, lostBy, MediaHandoffQueue.push, hopen, hkey, hover, hwait,
        MediaHandoffQueue.append] using Pushed.key hkey
  by_cases hcoded : (m.video && !m.sequenceHeader) = true
  · by_cases hwait : (s.queue.awaitingKeyframe || s.queue.overLimit m.payload.length) = true
    · simpa [perform, lostBy, MediaHandoffQueue.push, hopen, hkey, hcoded, hwait]
        using Pushed.refuse hcoded
    · have hopen' : s.queue.awaitingKeyframe = false := by simp_all
      simpa [perform, lostBy, MediaHandoffQueue.push, hopen, hkey, hcoded, hwait,
        MediaHandoffQueue.append] using Pushed.take (Bool.eq_false_iff.mpr hkey) fun _ => hopen'
  have hplain : m.coded = false := Bool.eq_false_iff.mpr hcoded
  by_cases hcap : s.queue.overLimit m.payload.length = true ∧
      s.queue.hardCap < s.queue.queuedBytes + m.payload.length
  · simpa [perform, lostBy, MediaHandoffQueue.push, hopen, hkey, hcoded, hcap] using
      Pushed.capped hplain hcap.2
  · simpa [perform, lostBy, MediaHandoffQueue.push, hopen, hkey, hcoded, hcap,
      MediaHandoffQueue.append] using
        Pushed.take (Bool.eq_false_iff.mpr hkey) fun h => absurd h hcoded

theorem limits_push (s : HandoffRun) (m : HandoffMessage) :
    (s.perform (.push m)).queue.limits = s.queue.limits ∧
      (s.perform (.push m)).queue.closed = s.queue.closed := by
  simp only [perform, MediaHandoffQueue.push]
  split_ifs <;> exact ⟨rfl, rfl⟩

theorem limits_pop (s : HandoffRun) : (s.perform .pop).queue.limits = s.queue.limits ∧
    (s.perform .pop).queue.closed = s.queue.closed := by
  simp only [perform, MediaHandoffQueue.pop]
  cases s.queue.queue <;> exact ⟨rfl, rfl⟩

theorem limits_perform (s : HandoffRun) (act : HandoffAction) :
    (s.perform act).queue.limits = s.queue.limits ∧
      (s.perform act).queue.closed = s.queue.closed := by
  cases act with
  | push m => exact s.limits_push m
  | pop => exact s.limits_pop

theorem popped_append_pop (s : HandoffRun) :
    (s.perform .pop).popped ++ (s.perform .pop).queue.queue = s.popped ++ s.queue.queue := by
  simp only [perform, MediaHandoffQueue.pop]
  cases hqueue : s.queue.queue <;> simp [hqueue]

theorem filter_coded_singleton (n : ℕ) (m : HandoffMessage) :
    [(n, m)].filter (·.2.coded) = if m.coded then [(n, m)] else [] := by
  cases hm : m.coded <;> simp [hm]

theorem laneStep_take {queue : List (ℕ × HandoffMessage)} {gate gate' : Bool} {n : ℕ}
    (hcoded : m.coded = true → gate' = false ∧ (gate = false ∨ m.keyPicture = true))
    (hplain : m.coded = false → gate' = gate) :
    LaneStep (fun x : ℕ × HandoffMessage => x.2.keyPicture = true) Prod.fst
      ⟨queue.filter (·.2.coded), gate = true, n⟩ []
      ⟨(queue ++ [(n, m)]).filter (·.2.coded), gate' = true, n + 1⟩ := by
  rw [filter_append, filter_coded_singleton]
  cases hm : m.coded with
  | true =>
    obtain ⟨rfl, hopen⟩ := hcoded hm
    rw [if_pos rfl, Bool.false_eq_true]
    exact LaneStep.push (hopen.imp_left Bool.eq_false_iff.mp) le_rfl
  | false =>
    rw [hplain hm, if_neg Bool.false_ne_true, append_nil]
    exact LaneStep.idle (Nat.le_succ n)

theorem laneStep_push (hopen : s.queue.closed = false) (hpic : s.Pictured (.push m)) :
    LaneStep (fun x => x.2.keyPicture = true) Prod.fst s.lane
      (((s.lostBy (s.offered.length, m)).filter (·.2.coded)).map .lost)
      (s.perform (.push m)).lane := by
  have hpush := s.pushed m hopen
  rw [lane, lane, show (s.perform (.push m)).offered.length = s.offered.length + 1 from
    length_append]
  generalize (s.perform (.push m)).queue.awaitingKeyframe = gate,
    (s.perform (.push m)).queue.queue = queue, s.lostBy (s.offered.length, m) = lost at hpush ⊢
  -- a flagged message is an entry point, or finds an open gate
  have hflagged : (m.video && m.keyframe) = true → m.coded = true ∧ m.keyPicture = true ∨
      s.queue.awaitingKeyframe = false := by
    intro hkey
    rw [Bool.and_eq_true] at hkey
    rw [← Bool.and_eq_true, or_iff_not_imp_left, Bool.not_eq_true]
    exact fun hnot => (hpic hkey.1 hkey.2 hnot).1
  cases hpush with
  | restart hkey hover =>
    by_cases hent : (m.coded && m.keyPicture) = true
    · rw [Bool.and_eq_true] at hent
      rw [filter_coded_singleton, if_pos hent.1, Bool.false_eq_true]
      exact LaneStep.restart hent.2 le_rfl
    · rw [Bool.and_eq_true] at hkey
      obtain ⟨hgate, hnone⟩ := hpic hkey.1 hkey.2 (Bool.eq_false_iff.mpr hent)
      rw [hnone hover, hgate]
      exact @laneStep_take m [] _ _ _ (fun _ => ⟨rfl, Or.inl rfl⟩) fun _ => rfl
  | key hkey =>
    apply laneStep_take
    · exact fun _ => ⟨rfl, (hflagged hkey).symm.imp_right And.right⟩
    · intro hplain
      rcases hflagged hkey with ⟨hcoded, -⟩ | hgate
      · exact absurd hcoded (Bool.eq_false_iff.mp hplain)
      · exact hgate.symm
  | refuse hcoded =>
    rw [filter_coded_singleton, if_pos hcoded, eq_self_iff_true]
    exact LaneStep.refuse le_rfl
  | take hplain hgate => exact laneStep_take (fun h => ⟨hgate h, Or.inl (hgate h)⟩) fun _ => rfl
  | capped hcoded hcap =>
    rw [filter_coded_singleton, if_neg (Bool.eq_false_iff.mp hcoded)]
    exact LaneStep.idle (Nat.le_succ _)

theorem laneStep_pop : LaneStep (fun x => x.2.keyPicture = true) Prod.fst s.lane
    ((((s.queue.pop Prod.snd).2.toList).filter (·.2.coded)).map .passed) (s.perform .pop).lane := by
  simp only [lane, perform, MediaHandoffQueue.pop]
  cases hqueue : s.queue.queue with
  | nil => simpa [hqueue] using LaneStep.idle le_rfl
  | cons front rest =>
    refine LaneStep.pass ?_ le_rfl
    rw [← filter_append]
    rfl

/-- The coded video of a queue is a gated lane. -/
structure Gated (s : HandoffRun) : Prop where
  opened : s.queue.closed = false
  sound : Sound (fun x => x.2.keyPicture = true) Prod.fst s.lane s.log

theorem Gated.perform (h : s.Gated) {act : HandoffAction} (hpic : s.Pictured act) :
    (s.perform act).Gated := by
  refine ⟨(s.limits_perform act).2.trans h.opened, ?_⟩
  cases act with
  | push m => exact h.sound.step (laneStep_push h.opened hpic)
  | pop => exact h.sound.step laneStep_pop

/-- No coded video that comes after a lost one is popped before a keyframe with
pictures, where every message flagged as a keyframe is one or comes at a time
when the flag does no harm. -/
theorem handoff_resumes (limits : HandoffLimits) (actions : List HandoffAction)
    (hpictured : Along perform Pictured (start limits) actions) :
    Resumes (fun x => x.2.keyPicture = true) Prod.fst (run perform (start limits) actions).log :=
  have hgated : (run perform (start limits) actions).Gated :=
    run_invariant Gated hpictured ⟨rfl, sound_empty _ _⟩ fun _ _ hp h => h.perform hp
  hgated.sound.resumes

/-- An AVC key picture, a frame that depends on it and the decoder configuration. -/
def avcKey : HandoffMessage := handoffVideo 0 [0x17, 1, 0, 0, 0]

def avcInter : HandoffMessage := handoffVideo 0 [0x27, 1, 0, 0, 0]

def avcConfig : HandoffMessage := handoffVideo 0 [0x17, 0, 0, 0, 0]

theorem handoff_resumes_avc : Resumes (fun x => x.2.keyPicture = true) Prod.fst
      (run perform (start ⟨100, 1⟩) [.push avcConfig, .pop, .push avcKey, .push avcInter, .pop,
        .push avcInter, .push avcKey, .pop]).log :=
  handoff_resumes _ _ (by decide +kernel)

/-- A configuration that is repeated during a drop streak ends the streak. -/
theorem repeated_config_not_resumes : ¬Resumes (fun x => x.2.keyPicture = true) Prod.fst
      (run perform (start ⟨100, 1⟩) [.push avcKey, .push avcInter, .pop, .push avcConfig, .pop,
        .push avcInter, .pop]).log := by
  intro h
  exact absurd (h ((1, avcInter), [(0, avcKey), (2, avcConfig), (3, avcInter)].filter (·.2.coded))
    (by decide +kernel) (3, avcInter) (by decide +kernel)) (by decide +kernel)

/-! ## What stays -/

/-- What is not coded video does not reach the hard cap. -/
def UnderCap (s : HandoffRun) : HandoffAction → Prop
  | .push m => m.coded = false → s.queue.queuedBytes + m.payload.length ≤
      s.queue.limits.maxBytes * MediaHandoffQueue.kHardCapMultiple
  | .pop => True

/-- A message flagged as a keyframe that comes over the limit finds nothing but
coded video. -/
def Spares (s : HandoffRun) : HandoffAction → Prop
  | .push m => (m.video && m.keyframe) = true → s.queue.overLimit m.payload.length = true →
      ∀ x ∈ s.queue.queue, x.2.coded = true
  | .pop => True

instance (s : HandoffRun) (action : HandoffAction) : Decidable (s.UnderCap action) := by
  cases action <;> unfold UnderCap <;> infer_instance

instance (s : HandoffRun) (action : HandoffAction) : Decidable (s.Spares action) := by
  cases action <;> unfold Spares <;> infer_instance

/-- What was popped and what waits are pushed messages in their order, with all
that are not coded video. -/
structure Kept (s : HandoffRun) : Prop where
  opened : s.queue.closed = false
  sublist : (s.popped ++ s.queue.queue).Sublist s.offered
  all : ∀ x ∈ s.offered, x.2.coded = false → x ∈ s.popped ++ s.queue.queue

theorem Kept.push (h : s.Kept)
    (hcap : m.coded = false → s.queue.queuedBytes + m.payload.length ≤ s.queue.hardCap)
    (hspares : s.Spares (.push m)) : (s.perform (.push m)).Kept := by
  have hpush := s.pushed m h.opened
  have hoff : (s.perform (.push m)).offered = s.offered ++ [(s.offered.length, m)] := rfl
  have hpopped : (s.perform (.push m)).popped = s.popped := rfl
  have hsame := h.sublist.trans (sublist_append_left _ [(s.offered.length, m)])
  have htaken := h.sublist.append (List.Sublist.refl [(s.offered.length, m)])
  have hall : ∀ x ∈ s.offered ++ [(s.offered.length, m)], x.2.coded = false →
      x ∈ s.popped ++ s.queue.queue ∨ x = (s.offered.length, m) := by
    intro x hx hplain
    exact (mem_append.mp hx).imp (h.all x · hplain) mem_singleton.mp
  refine ⟨(s.limits_push m).2.trans h.opened, ?_, ?_⟩ <;> rw [hoff, hpopped] <;>
    generalize (s.perform (.push m)).queue.awaitingKeyframe = gate,
      (s.perform (.push m)).queue.queue = queue,
      s.lostBy (s.offered.length, m) = lost at hpush ⊢
  · cases hpush with
    | restart hkey hover =>
      exact ((sublist_append_left _ s.queue.queue).trans h.sublist).append (.refl _)
    | key hkey | take hplain hgate => rwa [← append_assoc]
    | refuse hcoded | capped hcoded hcap' => exact hsame
  · intro x hx hplain
    cases hpush with
    | restart hkey hover =>
      rcases hall x hx hplain with hold | rfl
      · rcases mem_append.mp hold with hpopped | hqd
        · exact mem_append_left _ hpopped
        · exact absurd (hspares hkey hover x hqd) (Bool.eq_false_iff.mp hplain)
      · exact mem_append_right _ (mem_singleton_self _)
    | key hkey | take hplain' hgate =>
      rw [← append_assoc, mem_append, mem_singleton]
      exact hall x hx hplain
    | refuse hcoded =>
      rcases hall x hx hplain with hold | rfl
      · exact hold
      · exact absurd hcoded (Bool.eq_false_iff.mp hplain)
    | capped hcoded hcap' => exact absurd (hcap hcoded) (Nat.not_le.mpr hcap')

theorem Kept.pop (h : s.Kept) : (s.perform .pop).Kept := by
  refine ⟨s.limits_pop.2.trans h.opened, ?_, ?_⟩ <;> rw [s.popped_append_pop]
  · exact h.sublist
  · exact h.all

/-- The limits are the ones of the start, and the cap on them does not wrap. -/
theorem kept_run (hwide : limits.maxBytes * MediaHandoffQueue.kHardCapMultiple < 2 ^ 64)
    (hrun : Along perform (fun s act => s.UnderCap act ∧ s.Spares act) (start limits)
      actions) : (run perform (start limits) actions).Kept := by
  refine (run_invariant (fun s => s.Kept ∧ s.queue.limits = limits) hrun
    ⟨⟨rfl, List.Sublist.refl _, by simp [start]⟩, rfl⟩ ?_).1
  rintro s act ⟨hcap, hspares⟩ ⟨hkept, hlims⟩
  refine ⟨?_, (s.limits_perform act).1.trans hlims⟩
  cases act with
  | push m =>
    refine hkept.push (fun hplain => (hcap hplain).trans (le_of_eq ?_)) hspares
    rw [MediaHandoffQueue.hardCap, hlims, Nat.mod_eq_of_lt hwide]
  | pop => exact hkept.pop

theorem popped_run_pops (s : HandoffRun) {n : ℕ} (hn : s.queue.queue.length = n) :
    (run perform s (List.replicate n .pop)).popped = s.popped ++ s.queue.queue := by
  induction n generalizing s with
  | zero => rw [eq_nil_of_length_eq_zero hn, append_nil]; rfl
  | succ n ih =>
    rw [← s.popped_append_pop]
    apply ih
    simp only [perform, MediaHandoffQueue.pop]
    cases hqueue : s.queue.queue <;> simp_all

/-- While the hard cap is not reached, everything that is not coded video is
popped in the order of the pushes by a worker that goes on, where the cap fits
its type and no backlog with such a message in it is abandoned for a keyframe. -/
theorem handoff_keeps (limits : HandoffLimits) (actions : List HandoffAction)
    (hcap : Along perform UnderCap (start limits) actions)
    (hwide : limits.maxBytes * MediaHandoffQueue.kHardCapMultiple < 2 ^ 64)
    (hspares : Along perform Spares (start limits) actions) :
    let s := run perform (start limits) actions
    let drained := run perform s (List.replicate s.queue.queue.length .pop)
    drained.popped.Sublist s.offered ∧ s.popped <+: drained.popped ∧
      ∀ x ∈ s.offered, x.2.coded = false → x ∈ drained.popped := by
  have hkept := kept_run hwide (along_and hcap hspares)
  intro s drained
  have hdrained : drained.popped = s.popped ++ s.queue.queue := s.popped_run_pops rfl
  rw [hdrained]
  exact ⟨hkept.sublist, prefix_append _ _, hkept.all⟩

theorem handoff_keeps_audio :
    let actions : List HandoffAction := [.push avcConfig, .push (handoffAudio 0 [0xaf, 1]),
      .push (handoffMetadata 0 []), .push avcKey, .push avcInter, .pop]
    let s := run perform (start ⟨100, 4⟩) actions
    let drained := run perform s (List.replicate s.queue.queue.length .pop)
    drained.popped.Sublist s.offered ∧ s.popped <+: drained.popped ∧
      ∀ x ∈ s.offered, x.2.coded = false → x ∈ drained.popped :=
  handoff_keeps _ _ (by decide +kernel) (by decide) (by decide +kernel)

/-- A keyframe over the limit takes the audio before it out of the queue. -/
theorem audio_abandoned_for_keyframe :
    let actions : List HandoffAction := [.push (handoffAudio 0 [0xaf, 1]), .push avcKey]
    let s := run perform (start ⟨100, 1⟩) actions
    let drained := run perform s (List.replicate s.queue.queue.length .pop)
    (s.offered.map (·.2.payload.length)).sum ≤ 100 * MediaHandoffQueue.kHardCapMultiple ∧
      Along perform UnderCap (start ⟨100, 1⟩) actions ∧ (0, handoffAudio 0 [0xaf, 1]) ∈ s.offered ∧
      (handoffAudio 0 [0xaf, 1]).coded = false ∧
      (0, handoffAudio 0 [0xaf, 1]) ∉ drained.popped := by
  decide +kernel

end HandoffRun

/-! ## Bounds -/

namespace MediaHandoffQueue

/-- A producer that goes on while the worker does not. -/
def pushOnly (q : MediaHandoffQueue HandoffMessage) (m : HandoffMessage) :
    MediaHandoffQueue HandoffMessage :=
  (q.push id m).1

/-- A message that may pass the ceiling on their number has a payload. -/
def Weighty (m : HandoffMessage) : Prop :=
  (m.video && m.keyframe || m.coded) = false → m.payload ≠ []
deriving Decidable

/-- There are as many bytes as the payloads have, and more messages than the ceiling
allows only as far as they have payloads. -/
structure Bounded (limits : HandoffLimits) (largest : ℕ) (q : MediaHandoffQueue HandoffMessage) :
    Prop where
  limits_eq : q.limits = limits
  bytes : q.queuedBytes = (q.queue.map (·.payload.length)).sum
  heavy : q.queuedBytes ≤ max (limits.maxBytes * kHardCapMultiple) largest
  many : q.queue.length ≤ limits.maxMessages + 1 + q.queuedBytes

variable {limits : HandoffLimits} {largest : ℕ} {q : MediaHandoffQueue HandoffMessage}
  {m : HandoffMessage}

theorem bounded_append (hbytes : q.queuedBytes = (q.queue.map (·.payload.length)).sum)
    (hheavy : q.queuedBytes + m.payload.length ≤ max (q.limits.maxBytes * kHardCapMultiple) largest)
    (hmany : q.queue.length ≤ q.limits.maxMessages + (q.queuedBytes + m.payload.length)) :
    (append id q m).Bounded q.limits largest where
  limits_eq := rfl
  bytes := by simp [append, hbytes]
  heavy := hheavy
  many := by simpa [append, Nat.add_right_comm] using hmany

theorem Bounded.pushOnly (h : q.Bounded limits largest) (hlarge : m.payload.length ≤ largest)
    (hweighty : Weighty m) : (q.pushOnly m).Bounded limits largest := by
  obtain ⟨rfl, hbytes, hheavy, hmany⟩ := h
  have hwide : q.limits.maxBytes ≤ q.limits.maxBytes * kHardCapMultiple :=
    Nat.le_mul_of_pos_right _ (by decide)
  -- a message within both limits goes to the end
  have hwithin : q.overLimit m.payload.length = false →
      (append id q m).Bounded q.limits largest := by
    intro hunder
    simp only [overLimit, Bool.or_eq_false_iff, decide_eq_false_iff_not] at hunder
    exact bounded_append hbytes (by omega) (by omega)
  unfold MediaHandoffQueue.pushOnly MediaHandoffQueue.push
  dsimp only [id]
  split_ifs with hclosed hkey hover hwait hcoded hrefused hcapped
  · exact ⟨rfl, hbytes, hheavy, hmany⟩
  · have hcleared := @bounded_append largest q.clear m rfl (by simp [clear, hlarge]) (Nat.zero_le _)
    exact { hcleared with }
  · exact { hwithin (Bool.eq_false_iff.mpr hover) with }
  · exact { hwithin (Bool.eq_false_iff.mpr hover) with }
  · exact ⟨rfl, hbytes, hheavy, hmany⟩
  · exact hwithin (Bool.or_eq_false_iff.mp (Bool.eq_false_iff.mpr hrefused)).2
  · exact ⟨rfl, hbytes, hheavy, hmany⟩
  · have hpayload := length_pos_iff.mpr (hweighty (by simp_all [HandoffMessage.coded]))
    have hcap : q.hardCap ≤ q.limits.maxBytes * kHardCapMultiple := Nat.mod_le _ _
    cases hover : q.overLimit m.payload.length with
    | false => exact hwithin hover
    | true =>
      simp only [hover, Bool.true_and, decide_eq_true_eq, Nat.not_lt] at hcapped
      exact bounded_append hbytes (by omega) (by omega)

/-- Whatever is pushed, a wedged worker costs no more bytes than the hard cap or one
message has, and no more messages than the ceiling allows and there can be bytes for,
if every message that is not dropped at the ceiling has a payload. -/
theorem run_bounded (limits : HandoffLimits) (largest : ℕ) (messages : List HandoffMessage)
    (hlargest : ∀ m ∈ messages, m.payload.length ≤ largest) (hweighty : ∀ m ∈ messages, Weighty m) :
    let q := run pushOnly { limits } messages
    (q.queue.map (·.payload.length)).sum ≤ max (limits.maxBytes * kHardCapMultiple) largest ∧
      q.queue.length ≤
        limits.maxMessages + 1 + max (limits.maxBytes * kHardCapMultiple) largest := by
  have hbounded : (run pushOnly { limits } messages).Bounded limits largest :=
    foldlRecOn messages pushOnly ⟨rfl, rfl, Nat.zero_le _, Nat.zero_le _⟩ fun _ h m hm =>
      h.pushOnly (hlargest m hm) (hweighty m hm)
  have hmany := hbounded.many.trans (Nat.add_le_add_left hbounded.heavy _)
  exact ⟨hbounded.bytes ▸ hbounded.heavy, hmany⟩

theorem run_bounded_audio :
    let q := run pushOnly { limits := ⟨1, 1⟩ } (replicate 9 (handoffAudio 0 [0xaf]))
    q.queue.length = 4 ∧ q.queue.length ≤ 6 :=
  ⟨by decide, (run_bounded ⟨1, 1⟩ 1 _ (by decide) (by decide)).2⟩

theorem length_pushOnly_empty (n : ℕ) (hopen : q.closed = false) (hbytes : q.queuedBytes = 0) :
    (run pushOnly q (replicate n (handoffAudio 0 []))).queue.length = q.queue.length + n := by
  induction n generalizing q with
  | zero => rfl
  | succ n ih =>
    have hpush : q.pushOnly (handoffAudio 0 []) = append id q (handoffAudio 0 []) := by
      simp [pushOnly, push, hopen, hbytes, handoffAudio]
    rw [replicate_succ, run, foldl_cons, hpush]
    have hrest := @ih (append id q (handoffAudio 0 [])) hopen hbytes
    refine hrest.trans ?_
    simp [append, Nat.add_comm, Nat.add_left_comm]

/-- Audio without a payload is let in without end. -/
theorem run_unbounded : ¬∃ bound, ∀ messages : List HandoffMessage,
    (∀ m ∈ messages, m.payload.length ≤ 0) →
      (run pushOnly { limits := ⟨1, 1⟩ } messages).queue.length ≤ bound := by
  rintro ⟨bound, hbound⟩
  have hall := hbound (replicate (bound + 1) (handoffAudio 0 []))
    fun m hm => (eq_of_mem_replicate hm).symm ▸ le_rfl
  rw [length_pushOnly_empty _ rfl rfl, length_nil, Nat.zero_add] at hall
  exact absurd hall (Nat.not_succ_le_self bound)

end MediaHandoffQueue

/-! ## Accounts -/

namespace HandoffRun

/-- Every message that was offered was popped, waits or is counted as dropped, and
none has passed another. -/
structure Accounted (s : HandoffRun) : Prop where
  opened : s.queue.closed = false
  ordered : (s.popped ++ s.queue.queue).Sublist s.offered
  counted : s.popped.length + s.queue.queue.length + s.queue.dropped = s.offered.length
  bytes : s.queue.queuedBytes = (s.queue.queue.map (·.2.payload.length)).sum

theorem Accounted.perform {s : HandoffRun} (h : s.Accounted) (action : HandoffAction) :
    (s.perform action).Accounted := by
  obtain ⟨hopen, hordered, hcounted, hbytes⟩ := h
  cases action with
  | push m =>
    have htaken := hordered.append (.refl [(s.offered.length, m)])
    have hlast := ((sublist_append_left _ _).trans hordered).append (.refl [(s.offered.length, m)])
    have hrefused := hordered.trans (sublist_append_left _ [(s.offered.length, m)])
    rw [append_assoc] at htaken
    -- the message is taken, takes the place of the backlog, or is refused
    simp only [HandoffRun.perform, MediaHandoffQueue.push, hopen]
    split_ifs <;> constructor <;>
      simp [MediaHandoffQueue.append, MediaHandoffQueue.clear, *] at * <;> omega
  | pop =>
    simp only [HandoffRun.perform, MediaHandoffQueue.pop]
    cases hqueue : s.queue.queue <;> constructor <;> simp_all
    omega

/-- In every run of pushes and pops no message passes another or comes twice, and
the counters are exact. -/
theorem run_accounted (limits : HandoffLimits) (actions : List HandoffAction) :
    (run perform (start limits) actions).Accounted :=
  run_invariant_always Accounted ⟨rfl, .refl _, rfl, rfl⟩ fun _ action h => h.perform action

end HandoffRun

end RtmpCore.Media
