import RtmpCore.Net.Handshake

/-!
# The handshake and the reads of the transport

The owner of a handshake gives the session what each read brings.  When the
session is complete, the owner takes the bytes behind C2 from it, and what
later reads bring goes the same way.  This module follows the session through
any list of reads and compares it with the same bytes one at a time.

The session limits what it holds before it has consumed anything: a read that
brings the end of the handshake and more can be refused although the parts in it
would have been taken one after another.
-/

namespace RtmpCore.Net

open RtmpCore.Core List

/-- What is fixed in the server's answer.  S1 holds a clock and random bytes. -/
structure Reply where
  s0 : Bytes
  s1Length : ℕ
  s2 : Bytes
deriving DecidableEq

namespace Reply

def ofBytes (bytes : Bytes) : Reply where
  s0 := bytes.take kC0Size
  s1Length := ((bytes.drop kC0Size).take kHandshakeChunkSize).length
  s2 := bytes.drop (kC0Size + kHandshakeChunkSize)

/-- The answer to a client that sent these bytes. -/
def toClient (stream : Bytes) : Reply where
  s0 := [kRtmpVersion]
  s1Length := kHandshakeChunkSize
  s2 := (stream.drop kC0Size).take kHandshakeChunkSize

end Reply

def HandshakeCall.reply : HandshakeCall → Option Reply
  | .send bytes => some (.ofBytes bytes)
  | _ => none

/-- A session with what it has sent and what its owner has handed on. -/
structure Reception where
  session : HandshakeSession := {}
  replies : List Reply := []
  handedOn : Bytes := []
deriving DecidableEq

namespace Reception

/-- The owner looks at the session after a call. -/
def absorb (replies : List Reply) (done : HandshakeSession × List HandshakeCall) : Reception where
  session := if done.1.state = .completed then { done.1 with buffer := [] } else done.1
  replies := replies ++ done.2.filterMap HandshakeCall.reply
  handedOn := if done.1.state = .completed then done.1.buffer else []

def read (r : Reception) (hello : ServerHello) (data : Bytes) : Reception :=
  if r.session.state = .completed then { r with handedOn := r.handedOn ++ data }
  else absorb r.replies (r.session.onBytesReceived hello data)

def readAll (r : Reception) (reads : List (ServerHello × Bytes)) : Reception :=
  reads.foldl (fun r piece => r.read piece.1 piece.2) r

end Reception

/-- The state a handshake comes to, its replies and what is handed on. -/
def handshakeOutcome (reads : List (ServerHello × Bytes)) : HandshakeState × List Reply × Bytes :=
  let r := Reception.readAll {} reads
  (r.session.state, r.replies, r.handedOn)

/-! ## Reads that are small enough -/

/-- The bytes a session holds when it has received so many. -/
def heldBack (received : ℕ) : ℕ :=
  if received < kC0Size then 0
  else if received < kC0Size + kHandshakeChunkSize then received - kC0Size
  else received - (kC0Size + kHandshakeChunkSize)

/-- As long as the handshake lasts, no read exceeds the limit together with
what is held. -/
def ReadsFit : ℕ → List Bytes → Prop
  | _, [] => True
  | received, data :: rest =>
    (received < kMaxHandshakeBytes → heldBack received + data.length ≤ kMaxHandshakeBytes) ∧
      ReadsFit (received + data.length) rest

instance decidableReadsFit : ∀ received reads, Decidable (ReadsFit received reads)
  | _, [] => inferInstanceAs (Decidable True)
  | received, data :: rest =>
    have := decidableReadsFit (received + data.length) rest
    inferInstanceAs (Decidable (_ ∧ _))

/-- The stream may open a handshake: it has the right version, if it has any. -/
def Opens (stream : Bytes) : Prop := ∀ version ∈ stream.head?, version = kRtmpVersion

instance (stream : Bytes) : Decidable (Opens stream) := inferInstanceAs (Decidable (∀ _ ∈ _, _))

theorem Opens.of_append {stream more : Bytes} (h : Opens (stream ++ more)) : Opens stream := by
  cases stream with
  | nil => exact nofun
  | cons version rest => exact h

/-! ## One call of the session -/

namespace HandshakeSession

/-- What a call does once the data are in the buffer. -/
def advance (hello : ServerHello) (h : HandshakeSession) : HandshakeSession × List HandshakeCall :=
  continueIn .waitingForC2 tryConsumeC2 (continueIn .waitingForC1 (tryConsumeC1 hello)
      (continueIn .waitingForC0 tryConsumeC0 (h, [])))

theorem advance_C2 (hello : ServerHello) (buffer : Bytes) :
    advance hello ⟨.waitingForC2, buffer⟩ = tryConsumeC2 ⟨.waitingForC2, buffer⟩ := by
  rfl

variable {buffer data : Bytes} {h : HandshakeSession}

theorem advance_C1_short (hello : ServerHello) (h : buffer.length < kHandshakeChunkSize) :
    advance hello ⟨.waitingForC1, buffer⟩ = (⟨.waitingForC1, buffer⟩, []) := by
  simp [advance, continueIn, tryConsumeC1, h]

theorem length_s1 (hello : ServerHello) : (writeU32Be hello.time ++ writeU32Be 0 ++
      (List.range kRandomEchoSize).map hello.random).length = kHandshakeChunkSize := by
  simp [kHandshakeChunkSize, kTimeFieldSize, kZeroFieldSize]
  omega

theorem ofBytes_answer {s1 : Bytes} (hs1 : s1.length = kHandshakeChunkSize) (s2 : Bytes) :
    Reply.ofBytes (kRtmpVersion :: s1 ++ s2) = ⟨[kRtmpVersion], kHandshakeChunkSize, s2⟩ := by
  have hsize : kC0Size + kHandshakeChunkSize = (kRtmpVersion :: s1).length := by
    rw [length_cons, hs1, kC0Size, Nat.add_comm]
  simp only [Reply.ofBytes, Reply.mk.injEq]
  refine ⟨rfl, ?_, ?_⟩
  · rw [cons_append, kC0Size, drop_succ_cons, drop_zero, ← hs1, take_left]
  · rw [hsize, drop_left]

theorem advance_C1 (hello : ServerHello) (h : kHandshakeChunkSize ≤ buffer.length) :
    ∃ bytes, Reply.ofBytes bytes =
        ⟨[kRtmpVersion], kHandshakeChunkSize, buffer.take kHandshakeChunkSize⟩ ∧
      advance hello ⟨.waitingForC1, buffer⟩ =
        ((advance hello ⟨.waitingForC2, buffer.drop kHandshakeChunkSize⟩).1, .send bytes ::
            (advance hello ⟨.waitingForC2, buffer.drop kHandshakeChunkSize⟩).2) := by
  refine ⟨_, ofBytes_answer (length_s1 hello) _, ?_⟩
  simp only [advance, continueIn, tryConsumeC1, if_neg (Nat.not_lt.mpr h),
    reduceCtorEq, if_false, if_true, nil_append, singleton_append]

theorem advance_C0 (hello : ServerHello) (hne : buffer ≠ []) (hopens : Opens buffer) :
    advance hello ⟨.waitingForC0, buffer⟩ = advance hello ⟨.waitingForC1, buffer.drop kC0Size⟩ := by
  obtain ⟨version, rest, rfl⟩ := exists_cons_of_ne_nil hne
  have hver : byteAt (version :: rest) 0 = kRtmpVersion := hopens version rfl
  have hfst : tryConsumeC0 ⟨.waitingForC0, version :: rest⟩ = (⟨.waitingForC1, rest⟩, []) := by
    simp [tryConsumeC0, hver, kC0Size]
  simp only [advance, continueIn, hfst, if_true, reduceCtorEq, if_false,
    kC0Size, drop_succ_cons, drop_zero, append_nil]

theorem onBytesReceived_of_fits (hello : ServerHello) (hrun : h.isTerminal = false)
    (hne : data ≠ []) (hfits : h.buffer.length + data.length ≤ kMaxHandshakeBytes) :
    h.onBytesReceived hello data = advance hello { h with buffer := h.buffer ++ data } := by
  rw [onBytesReceived, if_neg (by simp [hrun, hne]), if_neg (Nat.not_lt.mpr hfits)]
  rfl

theorem onBytesReceived_of_exceeds (hello : ServerHello) (hrun : h.isTerminal = false)
    (hne : data ≠ []) (hexc : kMaxHandshakeBytes < h.buffer.length + data.length) :
    ∃ error, h.onBytesReceived hello data = (⟨.failed, []⟩, [.fail error]) := by
  rw [onBytesReceived, if_neg (by simp [hrun, hne]), if_pos hexc, fail, if_neg (by simp [hrun])]
  exact ⟨_, rfl⟩

end HandshakeSession

/-! ## Whole streams -/

namespace Reception

open HandshakeSession

/-- Where a session stands that has received a stream, if no read was refused. -/
def after (stream : Bytes) : Reception :=
  if stream.length < kC0Size then {}
  else if stream.length < kC0Size + kHandshakeChunkSize then
    { session := ⟨.waitingForC1, stream.drop kC0Size⟩ }
  else if stream.length < kMaxHandshakeBytes then
    { session := ⟨.waitingForC2, stream.drop (kC0Size + kHandshakeChunkSize)⟩
      replies := [.toClient stream] }
  else
    { session := ⟨.completed, []⟩
      replies := [.toClient stream]
      handedOn := stream.drop kMaxHandshakeBytes }

variable {stream data : Bytes} {reads : List (ServerHello × Bytes)}

theorem absorb_C2 (hello : ServerHello) (h : kC0Size + kHandshakeChunkSize ≤ stream.length) :
    absorb [.toClient stream] (advance hello
        ⟨.waitingForC2, stream.drop (kC0Size + kHandshakeChunkSize)⟩) =
      after stream := by
  have hmax : kMaxHandshakeBytes = kC0Size + kHandshakeChunkSize + kHandshakeChunkSize := rfl
  have hbegun : ¬ stream.length < kC0Size := by omega
  rw [advance_C2, tryConsumeC2, length_drop, after, if_neg hbegun, if_neg (Nat.not_lt.mpr h)]
  by_cases hshort : stream.length < kMaxHandshakeBytes
  · rw [if_pos hshort, if_pos (by omega)]
    simp [absorb]
  · rw [if_neg hshort, if_neg (by omega)]
    simp [absorb, HandshakeCall.reply, hmax]

theorem absorb_C1 (hello : ServerHello) (h : kC0Size ≤ stream.length) :
    absorb [] (advance hello ⟨.waitingForC1, stream.drop kC0Size⟩) = after stream := by
  by_cases hshort : stream.length < kC0Size + kHandshakeChunkSize
  · rw [advance_C1_short hello (by rw [length_drop]; omega), after,
      if_neg (by omega), if_pos hshort]
    simp [absorb]
  · have hlong : kHandshakeChunkSize ≤ (stream.drop kC0Size).length := by
      rw [length_drop]
      omega
    obtain ⟨bytes, hrep, hadvance⟩ := advance_C1 hello hlong
    have hsent : Reply.ofBytes bytes = .toClient stream := hrep
    rw [hadvance, ← absorb_C2 hello (Nat.not_lt.mp hshort)]
    simp [absorb, HandshakeCall.reply, hsent]

theorem absorb_C0 (hello : ServerHello) (hne : stream ≠ []) (hopens : Opens stream) :
    absorb [] (advance hello ⟨.waitingForC0, stream⟩) = after stream := by
  rw [advance_C0 hello hne hopens]
  exact absorb_C1 hello (length_pos_iff.mpr hne)

/-- A session that is not complete holds back part of what it has received, and
its owner has nothing yet. -/
theorem after_running (h : stream.length < kMaxHandshakeBytes) :
    (after stream).session.isTerminal = false ∧
      (after stream).session.buffer.length = heldBack stream.length ∧
      (after stream).handedOn = [] := by
  unfold after heldBack
  split_ifs
  · exact ⟨rfl, rfl, rfl⟩
  · exact ⟨rfl, length_drop, rfl⟩
  · exact ⟨rfl, length_drop, rfl⟩

theorem state_ne_of_running {h : HandshakeSession} (hrun : h.isTerminal = false) :
    h.state ≠ .completed := by
  intro hst
  simp [isTerminal, hst] at hrun

theorem after_complete (h : kMaxHandshakeBytes ≤ stream.length) :
    after stream = ⟨⟨.completed, []⟩, [.toClient stream], stream.drop kMaxHandshakeBytes⟩ := by
  have hmax : kMaxHandshakeBytes = kC0Size + kHandshakeChunkSize + kHandshakeChunkSize := rfl
  rw [after, if_neg (by omega), if_neg (by omega), if_neg (by omega)]

theorem after_ne_failed (stream : Bytes) : (after stream).session.state ≠ .failed := by
  unfold after
  split_ifs <;> nofun

theorem toClient_append (h : kC0Size + kHandshakeChunkSize ≤ stream.length) (data : Bytes) :
    Reply.toClient (stream ++ data) = .toClient stream := by
  have hlong : kHandshakeChunkSize ≤ (stream.drop kC0Size).length := by
    rw [length_drop]
    omega
  rw [Reply.toClient, drop_append_of_le_length (by omega),
    take_append_of_le_length hlong, ← Reply.toClient]

theorem read_after (hello : ServerHello) (hopens : Opens (stream ++ data))
    (hfits : stream.length < kMaxHandshakeBytes →
      heldBack stream.length + data.length ≤ kMaxHandshakeBytes) :
    (after stream).read hello data = after (stream ++ data) := by
  by_cases hcomp : kMaxHandshakeBytes ≤ stream.length
  · have hmax : kMaxHandshakeBytes = kC0Size + kHandshakeChunkSize + kHandshakeChunkSize := rfl
    have hlong : kMaxHandshakeBytes ≤ (stream ++ data).length := by
      rw [length_append]
      omega
    rw [after_complete hcomp, after_complete hlong,
      toClient_append (by omega), drop_append_of_le_length hcomp]
    rfl
  have hrun := Nat.not_le.mp hcomp
  obtain ⟨hopen, hheld, hno⟩ := after_running hrun
  rw [read, if_neg (state_ne_of_running hopen)]
  by_cases hdata : data = []
  · rw [hdata, append_nil, onBytesReceived, if_pos (.inr rfl), absorb,
      if_neg (state_ne_of_running hopen), if_neg (state_ne_of_running hopen),
      ← hno, filterMap_nil, append_nil]
  · have hroom := hfits hrun
    rw [← hheld] at hroom
    rw [onBytesReceived_of_fits hello hopen hdata hroom]
    -- the session goes on from the part it waits for
    by_cases hbegun : stream.length < kC0Size
    · obtain rfl : stream = [] := length_eq_zero_iff.mp (Nat.lt_one_iff.mp hbegun)
      exact absorb_C0 hello hdata hopens
    · by_cases hsnd : stream.length < kC0Size + kHandshakeChunkSize
      · have hafter : after stream = { session := ⟨.waitingForC1, stream.drop kC0Size⟩ } := by
          rw [after, if_neg hbegun, if_pos hsnd]
        rw [hafter, ← absorb_C1 hello (by rw [length_append]; omega),
          drop_append_of_le_length (by omega)]
      · have hsent := Nat.not_lt.mp hsnd
        have hafter : after stream =
            { session := ⟨.waitingForC2, stream.drop (kC0Size + kHandshakeChunkSize)⟩
              replies := [.toClient stream] } := by
          rw [after, if_neg hbegun, if_neg hsnd, if_pos hrun]
        rw [hafter, ← absorb_C2 hello (by rw [length_append]; omega),
          toClient_append hsent, drop_append_of_le_length hsent]

/-- A session that has failed stays so. -/
def lost (replies : List Reply) : Reception := { session := ⟨.failed, []⟩, replies }

theorem read_lost (hello : ServerHello) (replies : List Reply) (data : Bytes) :
    (lost replies).read hello data = lost replies := by
  simp [read, lost, onBytesReceived, isTerminal, absorb]

theorem readAll_lost (replies : List Reply) (reads : List (ServerHello × Bytes)) :
    (lost replies).readAll reads = lost replies := by
  induction reads with
  | nil => rfl
  | cons piece rest ih =>
    rw [readAll, foldl_cons, read_lost]
    exact ih

theorem read_exceeds (hello : ServerHello) (hrun : stream.length < kMaxHandshakeBytes)
    (hexc : kMaxHandshakeBytes < heldBack stream.length + data.length) :
    (after stream).read hello data = lost (after stream).replies := by
  obtain ⟨hopen, hheld, -⟩ := after_running hrun
  have hdata : data ≠ [] := by
    rintro rfl
    unfold heldBack at hexc
    split_ifs at hexc <;> simp at hexc <;> omega
  rw [← hheld] at hexc
  obtain ⟨error, hfail⟩ := onBytesReceived_of_exceeds hello hopen hdata hexc
  rw [read, if_neg (state_ne_of_running hopen), hfail]
  simp [absorb, lost, HandshakeCall.reply]

/-- Reads of a stream that opens a handshake: they take the session to where it
stands after the whole stream, exactly if all of them fit. -/
theorem readAll_after (hopens : Opens (stream ++ (reads.map Prod.snd).flatten)) :
    (ReadsFit stream.length (reads.map Prod.snd) → (after stream).readAll reads =
          after (stream ++ (reads.map Prod.snd).flatten)) ∧
      (¬ ReadsFit stream.length (reads.map Prod.snd) →
        ∃ replies, (after stream).readAll reads = lost replies) := by
  induction reads generalizing stream with
  | nil => simp [readAll, ReadsFit]
  | cons piece rest ih =>
    rw [map_cons, flatten_cons, ← append_assoc] at hopens
    have hnow : Opens (stream ++ piece.2) := hopens.of_append
    obtain ⟨hkept, hlost⟩ := ih hopens
    rw [length_append] at hkept hlost
    have hstep : ∀ r : Reception,
        r.readAll (piece :: rest) = (r.read piece.1 piece.2).readAll rest :=
      fun _ => rfl
    constructor
    · rintro ⟨hfits, hlater⟩
      rw [hstep, read_after piece.1 hnow hfits, hkept hlater, map_cons, flatten_cons, append_assoc]
    · intro hbad
      rw [hstep]
      by_cases hfits : stream.length < kMaxHandshakeBytes →
          heldBack stream.length + piece.2.length ≤ kMaxHandshakeBytes
      · rw [read_after piece.1 hnow hfits]
        exact hlost fun hlater => hbad ⟨hfits, hlater⟩
      · obtain ⟨hrun, hexc⟩ := Classical.not_imp.mp hfits
        rw [read_exceeds piece.1 hrun (Nat.not_le.mp hexc), readAll_lost]
        exact ⟨_, rfl⟩

theorem readAll_fresh (hopens : Opens (reads.map Prod.snd).flatten) :
    (ReadsFit 0 (reads.map Prod.snd) → readAll {} reads = after (reads.map Prod.snd).flatten) ∧
      (¬ ReadsFit 0 (reads.map Prod.snd) → ∃ replies, readAll {} reads = lost replies) := by
  have hall : Opens ([] ++ (reads.map Prod.snd).flatten) := hopens
  exact readAll_after hall

theorem readAll_of_not_opens (hwrong : ¬ Opens (reads.map Prod.snd).flatten) :
    readAll {} reads = lost [] := by
  induction reads with
  | nil => exact (hwrong nofun).elim
  | cons piece rest ih =>
    have hstep : readAll {} (piece :: rest) = readAll (read {} piece.1 piece.2) rest := rfl
    rw [map_cons] at hwrong
    rw [hstep]
    cases hdata : piece.2 with
    | nil =>
      rw [hdata] at hwrong
      exact ih hwrong
    | cons version others =>
      have hver : version ≠ kRtmpVersion := by
        rintro rfl
        rw [hdata] at hwrong
        exact hwrong fun _ hfst => (Option.some.inj hfst).symm
      have hfail : ∃ error, onBytesReceived piece.1 {} (version :: others) =
          (⟨.failed, []⟩, [.fail error]) := by
        by_cases hexc : kMaxHandshakeBytes < (version :: others).length
        · exact onBytesReceived_of_exceeds piece.1 rfl (cons_ne_nil _ _) (by simpa using hexc)
        · rw [onBytesReceived_of_fits piece.1 rfl (cons_ne_nil _ _) (by simpa using hexc)]
          simp [advance, continueIn, tryConsumeC0, kC0Size, hver, HandshakeSession.fail, isTerminal]
      obtain ⟨error, hfail⟩ := hfail
      have hread : read {} piece.1 (version :: others) = lost [] := by
        rw [read, hfail]
        simp [absorb, lost, HandshakeCall.reply]
      rw [hread, readAll_lost]

end Reception

/-! ## Independence of the reads -/

/-- The reads that bring a stream byte by byte. -/
def bytewise (hello : ℕ → ServerHello) (stream : Bytes) : List (ServerHello × Bytes) :=
  stream.mapIdx fun place b => (hello place, [b])

theorem map_snd_bytewise (hello : ℕ → ServerHello) (stream : Bytes) :
    (bytewise hello stream).map Prod.snd = stream.map fun b => [b] := by
  induction stream generalizing hello with
  | nil => rfl
  | cons b rest ih =>
    rw [bytewise, mapIdx_cons]
    exact congrArg _ (ih fun place => hello (place + 1))

theorem flatten_singles (stream : Bytes) : (stream.map fun b => [b]).flatten = stream := by
  induction stream with
  | nil => rfl
  | cons b rest ih => rw [map_cons, flatten_cons, ih, singleton_append]

theorem readsFit_singles (received : ℕ) (stream : Bytes) :
    ReadsFit received (stream.map fun b => [b]) := by
  induction stream generalizing received with
  | nil => trivial
  | cons b rest ih =>
    refine ⟨fun hrun => ?_, ih _⟩
    have hheld : heldBack received ≤ received := by
      unfold heldBack
      split_ifs <;> omega
    rw [length_singleton]
    omega

theorem handshakeOutcome_bytewise (hello : ℕ → ServerHello) {stream : Bytes}
    (hopens : Opens stream) : handshakeOutcome (bytewise hello stream) =
      ((Reception.after stream).session.state, (Reception.after stream).replies,
        (Reception.after stream).handedOn) := by
  have hreads := map_snd_bytewise hello stream
  have hflat : ((bytewise hello stream).map Prod.snd).flatten = stream := by
    rw [hreads, flatten_singles]
  have hfit : ReadsFit 0 ((bytewise hello stream).map Prod.snd) := by
    rw [hreads]
    exact readsFit_singles 0 stream
  have hall := (Reception.readAll_fresh (by rwa [hflat])).1 hfit
  rw [handshakeOutcome, hall, hflat]

/-- However a stream is cut into reads, the handshake comes to the same state,
sends the same replies and hands on the same bytes as byte by byte, exactly if
no read of a stream that opens a handshake exceeds the limit together with what
the session holds. -/
theorem handshakeOutcome_eq_bytewise_iff (reads : List (ServerHello × List UInt8))
    (hello : ℕ → ServerHello) : let stream := (reads.map Prod.snd).flatten
    handshakeOutcome reads = handshakeOutcome (bytewise hello stream) ↔
      (Opens stream → ReadsFit 0 (reads.map Prod.snd)) := by
  intro stream
  by_cases hopens : Opens stream
  · rw [handshakeOutcome_bytewise hello hopens]
    obtain ⟨hkept, hlost⟩ := Reception.readAll_fresh hopens
    constructor
    · intro hsame _
      by_contra hbad
      obtain ⟨replies, hfailed⟩ := hlost hbad
      rw [handshakeOutcome, hfailed] at hsame
      exact Reception.after_ne_failed stream (congrArg Prod.fst hsame).symm
    · intro hfit
      rw [handshakeOutcome, hkept (hfit hopens)]
  · refine iff_of_true ?_ fun hopen => (hopens hopen).elim
    have hsingles : ((bytewise hello stream).map Prod.snd).flatten = stream := by
      rw [map_snd_bytewise, flatten_singles]
    rw [handshakeOutcome, Reception.readAll_of_not_opens hopens, handshakeOutcome,
      Reception.readAll_of_not_opens (by rwa [hsingles])]

/-- A client that sends C0, C1, C2 and its first command in one write is refused
if one read brings all of it, and accepted byte by byte. -/
theorem pipelined_command_differs :
    let stream := kRtmpVersion :: List.replicate 3072 0x00 ++ [0x02]
    (handshakeOutcome [({}, stream)]).1 = .failed ∧
      handshakeOutcome (bytewise (fun _ => {}) stream) =
        (.completed, [.toClient stream], [0x02]) := by
  refine ⟨by decide +kernel, ?_⟩
  rw [handshakeOutcome_bytewise _ (by decide +kernel)]
  decide +kernel

end RtmpCore.Net
