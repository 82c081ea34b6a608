import RtmpCore.Media.Handoff

/-!
# Timestamps pushed to a target

A push client opens a connection with the metadata and sequence headers that prime
the target and goes on with the queued media from a keyframe on.  Every message is
sent relative to the first one of the connection, which is a priming message
wherever there is one.
-/

namespace RtmpCore.Relay

open Chunk Media List

structure TimestampUnwrapper where
  last : Option UInt32 := none
  epoch : UInt64 := 0

/-- A value far below the one before it belongs to the next epoch. -/
def rolledOver (last : Option UInt32) (value : UInt32) : Bool :=
  last.any fun last => value < last && 0x80000000 < last - value

def TimestampUnwrapper.unwrap (clock : TimestampUnwrapper) (value : UInt32) :
    TimestampUnwrapper × UInt64 :=
  let epoch := if rolledOver clock.last value then clock.epoch + 0x100000000 else clock.epoch
  (⟨some value, epoch⟩, epoch + value.toUInt64)

structure RtmpPushClient where
  messageStreamId : UInt32 := 0
  clock : TimestampUnwrapper := {}
  timestampBase : Option UInt64 := none

namespace RtmpPushClient

variable {client : RtmpPushClient} {message : HandoffMessage} {messages : List HandoffMessage}

def sendMedia (client : RtmpPushClient) (source : HandoffMessage) : RtmpPushClient × RtmpMessage :=
  let (clock, absolute) := client.clock.unwrap source.timestamp
  let base := client.timestampBase.getD absolute
  let relative := if base ≤ absolute then absolute - base else 0
  let (chunkStreamId, messageTypeId) : UInt32 × MessageTypeId :=
    if source.video then (6, .video) else if source.metadata then (5, .amf0Data) else (4, .audio)
  ({ client with clock, timestampBase := some base },
    { chunkStreamId
      messageStreamId := client.messageStreamId
      messageTypeId := messageTypeId.code
      timestamp := relative.toUInt32
      payload := source.payload })

def sendAll : RtmpPushClient → List HandoffMessage → RtmpPushClient × List RtmpMessage
  | client, [] => (client, [])
  | client, source :: sources =>
    let sent := client.sendMedia source
    let rest := sent.1.sendAll sources
    (rest.1, sent.2 :: rest.2)

/-- The queued messages that are sent: a target is decodable from a keyframe on. -/
def decodable : Bool → List HandoffMessage → List HandoffMessage
  | _, [] => []
  | false, queued => queued
  | true, message :: queued =>
    if message.video && !message.keyframe && !message.sequenceHeader then decodable true queued
    else message :: decodable (!(message.video && message.keyframe)) queued

/-- What a connection sends after its priming messages. -/
def mediaSent (messageStreamId : UInt32) (priming queued : List HandoffMessage) :
    List RtmpMessage :=
  ((sendAll { messageStreamId } priming).1.sendAll (decodable true queued)).2

/-- How often the timestamps had rolled over at each message. -/
def rollovers : ℕ → Option UInt32 → List HandoffMessage → List ℕ
  | _, _, [] => []
  | count, last, message :: messages =>
    let count := count + (rolledOver last message.timestamp).toNat
    count :: rollovers count (some message.timestamp) messages

theorem forall₂_rollovers {R : HandoffMessage → ℕ → Prop} (h : ∀ message count, R message count)
    {count : ℕ} {last : Option UInt32} :
    List.Forall₂ R messages (rollovers count last messages) := by
  induction messages generalizing count last with
  | nil => exact .nil
  | cons message messages ih => exact .cons (h _ _) ih

/-- The epoch has moved on with every rollover, and wraps itself. -/
theorem epoch_unwrap {clock : TimestampUnwrapper} {count : ℕ}
    (hepoch : clock.epoch = .ofNat (2 ^ 32 * count)) (value : UInt32) :
    (clock.unwrap value).1.epoch =
      .ofNat (2 ^ 32 * (count + (rolledOver clock.last value).toNat)) := by
  unfold TimestampUnwrapper.unwrap
  cases rolledOver clock.last value with
  | false => simpa using hepoch
  | true =>
    rw [Bool.toNat_true, Nat.mul_succ, UInt64.ofNat_add, ← hepoch]
    rfl

theorem rebase_eq_sub_iff {first value : UInt32} {count : ℕ} {absolute : UInt64}
    (habs : absolute = .ofNat (2 ^ 32 * count) + value.toUInt64) :
    (if first.toUInt64 ≤ absolute then absolute - first.toUInt64 else 0).toUInt32 =
      value - first ↔ first ≤ value ∨ ¬ 2 ^ 32 ∣ count := by
  have hval := value.toNat_lt
  have hfst := first.toNat_lt
  have hnat : absolute.toNat = 2 ^ 32 * (count % 2 ^ 32) + value.toNat := by
    simp only [habs, UInt64.toNat_add, UInt64.toNat_ofNat', UInt32.toNat_toUInt64]
    omega
  simp only [← UInt32.toNat_inj, UInt64.le_iff_toNat_le, UInt32.le_iff_toNat_le, hnat,
    UInt32.toNat_toUInt64, UInt64.toNat_toUInt32, UInt32.toNat_sub]
  split_ifs with hle
  · rw [UInt64.toNat_sub_of_le _ _ (by simpa [UInt64.le_iff_toNat_le, hnat] using hle), hnat,
      UInt32.toNat_toUInt64]
    omega
  · rw [UInt64.toNat_zero]
    omega

/-- A message's timestamp counts from the base unless it lies below it in the
base's own epoch. -/
theorem sendAll_rebased_iff {first : UInt32} {count : ℕ}
    (hbase : client.timestampBase = some first.toUInt64)
    (hepoch : client.clock.epoch = .ofNat (2 ^ 32 * count)) :
    List.Forall₂ (fun message sent => sent.timestamp = message.timestamp - first) messages
        (client.sendAll messages).2 ↔
      List.Forall₂ (fun message count => first ≤ message.timestamp ∨ ¬ 2 ^ 32 ∣ count) messages
        (rollovers count client.clock.last messages) := by
  induction messages generalizing client count with
  | nil => simp [sendAll, rollovers]
  | cons message messages ih =>
    have hepoch' := epoch_unwrap hepoch message.timestamp
    rw [sendAll, rollovers, forall₂_cons, forall₂_cons]
    refine and_congr ?_ (ih (by simp [sendMedia, hbase]) hepoch')
    have habs : (client.clock.unwrap message.timestamp).2 =
        .ofNat (2 ^ 32 * (count + (rolledOver client.clock.last message.timestamp).toNat)) +
          message.timestamp.toUInt64 := by
      rw [← hepoch']
      rfl
    rw [← rebase_eq_sub_iff habs]
    simp [sendMedia, hbase]

theorem sendAll_priming (messageStreamId : UInt32)
    (hprim : ∀ message ∈ messages, message.timestamp = 0)
    (hclient : client = ⟨messageStreamId, ⟨some 0, 0⟩, some 0⟩ ∨
      client = { messageStreamId } ∧ messages ≠ []) :
    (client.sendAll messages).1 = ⟨messageStreamId, ⟨some 0, 0⟩, some 0⟩ := by
  induction messages generalizing client with
  | nil => simpa [sendAll] using hclient
  | cons message messages ih =>
    obtain ⟨hzero, hprim⟩ := forall_mem_cons.mp hprim
    refine ih hprim (.inl ?_)
    obtain rfl | ⟨rfl, -⟩ := hclient <;>
      simp [sendMedia, TimestampUnwrapper.unwrap, rolledOver, hzero]

/-- The media frames count from the first of them exactly if it has the timestamp
of the priming messages, or, without such messages, no frame lies below the first
in its epoch. -/
theorem mediaSent_rebased_iff (messageStreamId : UInt32)
    {priming queued rest : List HandoffMessage} {first : HandoffMessage}
    (hpriming : ∀ message ∈ priming, message.timestamp = 0)
    (hfirst : decodable true queued = first :: rest) :
    List.Forall₂ (fun frame sent => sent.timestamp = frame.timestamp - first.timestamp)
        (first :: rest) (mediaSent messageStreamId priming queued) ↔
      if priming = [] then
        List.Forall₂ (fun frame count => first.timestamp ≤ frame.timestamp ∨ ¬ 2 ^ 32 ∣ count)
          (first :: rest) (rollovers 0 none (first :: rest))
      else first.timestamp = 0 := by
  unfold mediaSent
  rw [hfirst]
  split_ifs with hempty
  · subst hempty
    -- the first frame makes its own timestamp the base
    have hlatch : (sendAll { messageStreamId } []).1.sendAll (first :: rest) =
        sendAll ⟨messageStreamId, {}, some first.timestamp.toUInt64⟩ (first :: rest) := by
      simp [sendAll, sendMedia, TimestampUnwrapper.unwrap, rolledOver]
    rw [hlatch]
    exact sendAll_rebased_iff rfl rfl
  · rw [sendAll_priming messageStreamId hpriming (.inr ⟨rfl, hempty⟩)]
    have hown : List.Forall₂ (fun frame sent => sent.timestamp = frame.timestamp - 0)
        (first :: rest) (sendAll ⟨messageStreamId, ⟨some 0, 0⟩, some 0⟩ (first :: rest)).2 :=
      (sendAll_rebased_iff rfl (show _ = UInt64.ofNat (2 ^ 32 * 0) from rfl)).mpr
        (forall₂_rollovers fun _ _ => .inl (by simp))
    constructor
    · intro hrebased
      have hhead := (forall₂_cons.mp hown).1.symm.trans (forall₂_cons.mp hrebased).1
      simpa using hhead
    · intro hzero
      rwa [hzero]

theorem mediaSent_primed_rebased :
    List.Forall₂ (fun (frame : HandoffMessage) sent => sent.timestamp = frame.timestamp - 0)
      [⟨true, false, true, false, 0, []⟩, ⟨false, false, false, false, 20, []⟩]
      (mediaSent 1 [⟨true, false, false, true, 0, [0x17]⟩]
        [⟨true, false, true, false, 0, []⟩, ⟨false, false, false, false, 20, []⟩]) :=
  (@mediaSent_rebased_iff 1 [_] _ [_] ⟨true, false, true, false, 0, []⟩
    (forall_mem_singleton.mpr rfl) rfl).mpr rfl

/-- A frame behind a sequence header keeps the timestamp it came with. -/
theorem mediaSent_primed : (mediaSent 1 [⟨true, false, false, true, 0, [0x17]⟩]
      [⟨true, false, true, false, 1000, []⟩]).map (·.timestamp) = [1000] := by
  decide +kernel

/-! ## The first picture -/

/-- `priming` of a stream target: what it has kept of the stream. -/
def priming (metadata videoHeader audioHeader : Bytes) : List HandoffMessage :=
  [({ metadata := true, payload := metadata } : HandoffMessage),
    { video := true, sequenceHeader := true, payload := videoHeader },
    { sequenceHeader := true, payload := audioHeader }].filter (·.payload ≠ [])

/-- The first coded video is a keyframe with pictures. -/
def StartsAtPicture (messages : List HandoffMessage) : Prop :=
  ∀ m ∈ (messages.filter (·.coded)).head?, m.keyPicture = true

theorem filter_decodable (queued : List HandoffMessage) : (decodable true queued).filter (·.coded) =
      (queued.dropWhile fun m => !(m.video && m.keyframe)).filter (·.coded) := by
  induction queued with
  | nil => rfl
  | cons m queued ih =>
    have hafter : decodable false queued = queued := by cases queued <;> rfl
    rw [decodable, dropWhile_cons]
    cases hkey : m.video && m.keyframe with
    | true =>
      obtain ⟨hvideo, hflag⟩ := Bool.and_eq_true_iff.mp hkey
      simp [hvideo, hflag, hafter]
    | false =>
      have hcoded : (m.video && !m.keyframe && !m.sequenceHeader) = m.coded := by
        cases hvideo : m.video <;> simp_all [HandoffMessage.coded]
      rw [hcoded]
      cases hm : m.coded <;> simp [hm, ih]

/-- The first coded video of a connection is a keyframe with pictures exactly if the
first one that is queued behind a message flagged as a keyframe is. -/
theorem startsAtPicture_iff (metadata videoHeader audioHeader : Bytes)
    (queued : List HandoffMessage) :
    StartsAtPicture (priming metadata videoHeader audioHeader ++ decodable true queued) ↔
      StartsAtPicture (queued.dropWhile fun m => !(m.video && m.keyframe)) := by
  have hprimes : (priming metadata videoHeader audioHeader).filter (·.coded) = [] := by
    simp [priming, HandoffMessage.coded]
  rw [StartsAtPicture, filter_append, hprimes, nil_append, filter_decodable]
  rfl

/-- A configuration that is sent again after the connection was made lets an inter frame
through. -/
theorem not_startsAtPicture : ¬StartsAtPicture (priming [] [0x17, 0] [] ++
      decodable true [HandoffRun.avcConfig, HandoffRun.avcInter]) := by
  rw [StartsAtPicture]
  decide +kernel

end RtmpPushClient

/-! ## Unwrapping -/

namespace TimestampUnwrapper

/-- The signed distance on the circle. -/
def circular (last value : UInt32) : ℤ := (value - last).toBitVec.toInt

/-- The clock after some values. -/
def after (values : List UInt32) : TimestampUnwrapper :=
  values.foldl (fun clock value => (clock.unwrap value).1) {}

/-- The first value and the distances from it on. -/
def exact : List UInt32 → ℤ
  | [] => 0
  | first :: rest => first.toNat + (zipWith circular (first :: rest) rest).sum

theorem after_concat (values : List UInt32) (value : UInt32) :
    after (values ++ [value]) = ((after values).unwrap value).1 :=
  foldl_append

theorem epoch_after (values : List UInt32) :
    ∃ count, (after values).epoch = .ofNat (2 ^ 32 * count) := by
  induction values using List.reverseRecOn with
  | nil => exact ⟨0, rfl⟩
  | append_singleton values value ih =>
    obtain ⟨count, hepoch⟩ := ih
    rw [after_concat]
    exact ⟨_, RtmpPushClient.epoch_unwrap hepoch value⟩

theorem circular_eq (last value : UInt32) : circular last value =
    if (value - last).toNat < 2 ^ 31 then ((value - last).toNat : ℤ)
    else (value - last).toNat - 2 ^ 32 := by
  rw [circular, BitVec.toInt_eq_toNat_cond, UInt32.toNat_toBitVec]
  split_ifs <;> omega

/-- Two outputs in a row differ by the distance of the values exactly if a greater value
is no step back, and the last epoch is not left.  Only positions are asked for that are
not negative. -/
theorem unwrap_follows_iff (values : List UInt32) (last value : UInt32)
    (hnear : circular last value ≠ -2 ^ 31) : let clock := after (values ++ [last])
    (0 ≤ exact (values ++ [last, value]) → ((clock.unwrap value).2.toNat : ℤ) -
        ((after values).unwrap last).2.toNat = circular last value) ↔
      (0 ≤ exact (values ++ [last, value]) → (last < value → 0 < circular last value) ∧
        (value < last → 0 < circular last value → clock.epoch < 0xFFFFFFFF00000000)) := by
  intro clock
  obtain ⟨count, hepoch⟩ : ∃ count, clock.epoch = .ofNat (2 ^ 32 * count) := epoch_after _
  have hlast : clock.last = some last := congrArg (·.last) (after_concat values last)
  have hbefore : ((after values).unwrap last).2 = clock.epoch + last.toUInt64 := by
    rw [show clock = _ from after_concat values last]
    rfl
  have hnat : clock.epoch.toNat = 2 ^ 32 * (count % 2 ^ 32) := by
    rw [hepoch, UInt64.toNat_ofNat']
    omega
  have hv := value.toNat_lt
  have hl := last.toNat_lt
  rw [hbefore, circular_eq]
  simp only [unwrap, rolledOver, hlast, Option.any_some, Bool.and_eq_true, decide_eq_true_eq,
    UInt32.lt_iff_toNat_lt, UInt64.lt_iff_toNat_lt, UInt32.toNat_sub] at hnear ⊢
  split_ifs at hnear ⊢ <;> simp [hnat, UInt64.toNat_add] at * <;> omega

theorem unwrap_follows_wrap : circular 0xFFFFFFF0 5 = 21 ∧
    (((after [0xFFFFFFF0]).unwrap 5).2.toNat : ℤ) - ((after []).unwrap 0xFFFFFFF0).2.toNat =
      circular 0xFFFFFFF0 5 :=
  ⟨by decide, (unwrap_follows_iff [] 0xFFFFFFF0 5 (by decide)).mpr (fun _ => by decide) (by decide)⟩

/-- A step back over the wrap is taken for a step of an epoch. -/
theorem unwrap_back : circular 5 0xFFFFFFFF = -6 ∧ 0 ≤ exact [0xFFFFFFF0, 5, 0xFFFFFFFF] ∧
    (((after [0xFFFFFFF0, 5]).unwrap 0xFFFFFFFF).2.toNat : ℤ) -
      ((after [0xFFFFFFF0]).unwrap 5).2.toNat = 2 ^ 32 - 6 := by
  decide

end TimestampUnwrapper

end RtmpCore.Relay
