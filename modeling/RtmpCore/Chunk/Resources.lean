import RtmpCore.Chunk.Machine
import RtmpCore.Support.Table

/-!
# Memory held by the chunk decoder

A peer controls every byte the decoder sees, so what the decoder keeps has to
be bounded whatever the bytes are.  The invariant `WithinLimits` ties the
counter of buffered payload bytes to the reassembly buffers themselves; the
counter cannot wrap around, because the number of entries and the size of a
message both fit in 32 bits.
-/

namespace RtmpCore.Chunk

open RtmpCore.Core Incremental Table List AList

/-- A message in progress is within its declared length, and nothing is
buffered between messages. -/
structure ChunkStreamState.WellFormed (cfg : ChunkDecoderConfig)
    (state : ChunkStreamState) : Prop where
  in_progress : state.inProgress = true →
    state.partialPayload.length + state.bytesRemaining = state.messageLength ∧
      state.messageLength ≤ cfg.maxMessageSize.toNat
  idle : state.inProgress = false → state.partialPayload = []

variable {cfg : ChunkDecoderConfig} {state : ChunkStreamState} {d : DecoderState}
  {csid : UInt32} {counter : UInt64} {n inputChunkSize : ℕ} {header : BasicHeader}
  {b : Bytes} {chunk : ResolvedChunk}

theorem ChunkStreamState.WellFormed.partial_le (h : state.WellFormed cfg) :
    state.partialPayload.length ≤ cfg.maxMessageSize.toNat := by
  cases hprog : state.inProgress with
  | false => simp [h.idle hprog]
  | true =>
    have hsum := h.in_progress hprog
    omega

/-- The payload bytes buffered on all chunk streams. -/
def DecoderState.partialTotal (d : DecoderState) : ℕ :=
  total (fun state => state.partialPayload.length) d.streams

theorem partial_le_partialTotal (h : d.streams.lookup csid = some state) :
    state.partialPayload.length ≤ d.partialTotal :=
  weight_le_total (fun state : ChunkStreamState => state.partialPayload.length) h

theorem partialTotal_insert (h : d.streams.lookup csid = some state) (entry : ChunkStreamState) :
    total (fun state => state.partialPayload.length)
        (d.streams.insert csid entry) + state.partialPayload.length =
      entry.partialPayload.length + d.partialTotal :=
  total_insert_old (fun state : ChunkStreamState => state.partialPayload.length) h

/-- The resource invariant of a decoder that has not failed. -/
structure DecoderState.WithinLimits (cfg : ChunkDecoderConfig) (d : DecoderState) : Prop where
  running : d.failed = false
  streams_le : d.streams.keys.length ≤ cfg.limits.maxChunkStreams.toNat
  buffered_eq : d.bufferedPayloadBytes.toNat = d.partialTotal
  buffered_le : d.bufferedPayloadBytes ≤ cfg.limits.maxBufferedPayloadBytes
  entries : ∀ csid state, d.streams.lookup csid = some state → state.WellFormed cfg
  chunkSize_pos : 1 ≤ d.inputChunkSize
  chunkSize_le : d.inputChunkSize ≤ cfg.limits.maxChunkSize.toNat ∨
    d.inputChunkSize = kDefaultChunkSize

/-- The state after a failure holds nothing. -/
structure DecoderState.Emptied (d : DecoderState) : Prop where
  failed_eq : d.failed = true
  streams_eq : d.streams = ∅
  buffered_eq : d.bufferedPayloadBytes = 0

/-- The states in which a decoder can be. -/
def DecoderState.Contained (cfg : ChunkDecoderConfig) (d : DecoderState) : Prop :=
  d.Emptied ∨ d.WithinLimits cfg

theorem DecoderState.Contained.emptied (h : d.Contained cfg) (hfail : d.failed = true) :
    d.Emptied := by
  rcases h with hemp | hlims
  · exact hemp
  · exact absurd (hlims.running.symm.trans hfail) (by decide)

theorem DecoderState.Contained.withinLimits (h : d.Contained cfg) (hfail : d.failed = false) :
    d.WithinLimits cfg := by
  rcases h with hemp | hlims
  · exact absurd (hfail.symm.trans hemp.failed_eq) (by decide)
  · exact hlims

theorem fail_emptied (hd : d.failed = false) (code : ErrorCode) (msg : String) :
    (fail d code msg).1.Emptied := by
  simp only [fail, hd]
  exact ⟨rfl, rfl, rfl⟩

theorem initial_withinLimits (cfg : ChunkDecoderConfig) : DecoderState.WithinLimits cfg {} where
  running := rfl
  streams_le := Nat.zero_le _
  buffered_eq := rfl
  buffered_le := by simp [UInt64.le_iff_toNat_le]
  entries := by
    intro csid state h
    cases h
  chunkSize_pos := by decide
  chunkSize_le := Or.inr rfl

/-! ## The counter -/

theorem toNat_release (h : n ≤ counter.toNat) :
    (counter - UInt64.ofNat n).toNat = counter.toNat - n := by
  have hlt : n < UInt64.size := Nat.lt_of_le_of_lt h counter.toNat_lt
  have hn : (UInt64.ofNat n).toNat = n := UInt64.toNat_ofNat_of_lt hlt
  rw [UInt64.toNat_sub_of_le _ _ (by rw [UInt64.le_iff_toNat_le, hn]; exact h), hn]

theorem toNat_charge (h : counter.toNat + n < 2 ^ 64) :
    (counter + UInt64.ofNat n).toNat = counter.toNat + n := by
  have hn : (UInt64.ofNat n).toNat = n := UInt64.toNat_ofNat_of_lt (by unfold UInt64.size; omega)
  rw [UInt64.toNat_add, hn, Nat.mod_eq_of_lt h]

theorem buffered_capacity (cfg : ChunkDecoderConfig) {entries : ℕ}
    (h : entries ≤ cfg.limits.maxChunkStreams.toNat) :
    entries * cfg.maxMessageSize.toNat < 2 ^ 64 := by
  have hstrs := cfg.limits.maxChunkStreams.toNat_lt
  have hmsg := cfg.maxMessageSize.toNat_lt
  calc
    entries * cfg.maxMessageSize.toNat ≤ (2 ^ 32 - 1) * (2 ^ 32 - 1) :=
      Nat.mul_le_mul (by omega) (by omega)
    _ < 2 ^ 64 := by norm_num

/-! ## Opening an entry -/

theorem WellFormed_fresh (cfg : ChunkDecoderConfig) : ChunkStreamState.WellFormed cfg {} where
  in_progress := by
    intro h
    cases h
  idle := by
    intro _
    rfl

/-- Opening an entry keeps the invariant and leaves the entry in the table. -/
theorem openStream_withinLimits {opened : DecoderState} (hd : d.WithinLimits cfg)
    (h : openStream cfg d header = .ok (opened, state)) :
    opened.WithinLimits cfg ∧ opened.streams.lookup header.csid = some state := by
  rcases openStream_ok_cases h with ⟨hlook, rfl⟩ | ⟨hnone, rfl, hroom, rfl⟩
  · exact ⟨hd, hlook⟩
  · refine ⟨⟨hd.running, ?_, ?_, hd.buffered_le, ?_, hd.chunkSize_pos, hd.chunkSize_le⟩, ?_⟩
    · rw [length_keys_insert_new hnone]
      omega
    · rw [hd.buffered_eq]
      simp [DecoderState.partialTotal, total_insert_new _ hnone]
    · exact forall_lookup_insert hd.entries (WellFormed_fresh cfg)
    · exact lookup_insert _

/-! ## Committing a chunk -/

theorem resolveChunk_resolved_lengths
    (h : resolveChunk cfg inputChunkSize state header b = .resolved chunk) :
    chunk.startingNewMessage = !state.inProgress ∧ (state.inProgress = false →
        chunk.effectiveLength ≤ cfg.maxMessageSize.toNat) ∧
      chunk.payloadSlice = min (if state.inProgress then state.bytesRemaining
          else chunk.effectiveLength) inputChunkSize := by
  unfold resolveChunk at h
  split at h
  · cases h
  split at h
  · cases h
  split at h
  · cases h
  rename_i hlarge
  split at h
  · cases h
  · cases h
    refine ⟨rfl, ?_, rfl⟩
    intro hidle
    exact Nat.le_of_not_lt fun hlt => hlarge ⟨hidle, hlt⟩

/-- A resolved chunk of a well-formed entry together with its payload. -/
structure Committable (cfg : ChunkDecoderConfig) (state : ChunkStreamState)
    (chunk : ResolvedChunk) (slice : Bytes) : Prop where
  wellFormed : state.WellFormed cfg
  starting : chunk.startingNewMessage = !state.inProgress
  length_le : state.inProgress = false → chunk.effectiveLength ≤ cfg.maxMessageSize.toNat
  slice_length : slice.length = chunk.payloadSlice
  slice_le : chunk.payloadSlice ≤
    if state.inProgress then state.bytesRemaining else chunk.effectiveLength

theorem committable_of_resolved (hst : state.WellFormed cfg)
    (h : resolveChunk cfg inputChunkSize state header b = .resolved chunk) :
    Committable cfg state chunk ((b.drop chunk.totalHeaderLen).take chunk.payloadSlice) := by
  obtain ⟨hstarting, hlen, hslice⟩ := resolveChunk_resolved_lengths h
  have hle := (resolveChunk_resolved_le h).2
  refine ⟨hst, hstarting, hlen, ?_, by omega⟩
  rw [length_take, length_drop]
  omega

section Commit

variable {slice : Bytes}

/-- After a commit the entry holds a message within its declared length. -/
theorem Committable.commit (h : Committable cfg state chunk slice) :
    (state.commit chunk slice).hasHeader = true ∧ (state.commit chunk slice).partialPayload.length =
        state.partialPayload.length + slice.length ∧
      (state.commit chunk slice).partialPayload.length + (state.commit chunk slice).bytesRemaining =
        (state.commit chunk slice).messageLength ∧
      (state.commit chunk slice).messageLength ≤ cfg.maxMessageSize.toNat := by
  have hslice := h.slice_le
  rw [← h.slice_length] at hslice
  cases hprog : state.inProgress with
  | false =>
    have hemp := h.wellFormed.idle hprog
    have hlen := h.length_le hprog
    simp only [hprog, Bool.false_eq_true, if_false] at hslice
    simp [ChunkStreamState.commit, ChunkStreamState.beginMessage,
      ChunkStreamState.appendPayload, h.starting, hprog, hemp]
    omega
  | true =>
    obtain ⟨hsum, hlen⟩ := h.wellFormed.in_progress hprog
    have hhdr : state.hasHeader = true := by
      simp only [ChunkStreamState.inProgress, Bool.and_eq_true] at hprog
      exact hprog.1
    simp only [hprog, if_true] at hslice
    simp [ChunkStreamState.commit, ChunkStreamState.beginMessage,
      ChunkStreamState.appendPayload, h.starting, hprog, hhdr]
    omega

theorem Committable.storePayload (h : Committable cfg state chunk slice) (hd : d.WithinLimits cfg)
    (hlook : d.streams.lookup csid = some state) :
    (d.storePayload csid state chunk slice).partialTotal = d.partialTotal + slice.length ∧
      (d.storePayload csid state chunk slice).bufferedPayloadBytes.toNat =
        d.partialTotal + slice.length := by
  obtain ⟨-, hlen, hsum, hmax⟩ := h.commit
  have htot : (d.storePayload csid state chunk slice).partialTotal =
      d.partialTotal + slice.length := by
    have hrepl := partialTotal_insert hlook (state.commit chunk slice)
    simp only [DecoderState.partialTotal, DecoderState.storePayload] at *
    omega
  have hkeys : (d.streams.insert csid (state.commit chunk slice)).keys.length ≤
      cfg.limits.maxChunkStreams.toNat := by
    rw [length_keys_insert_old hlook]
    exact hd.streams_le
  have hcapacity : d.partialTotal + slice.length < 2 ^ 64 := by
    rw [← htot]
    refine lt_of_le_of_lt (total_le_of_forall ?_) (buffered_capacity cfg hkeys)
    refine forall_lookup_insert ?_ (by omega)
    intro csid' state' hlook'
    exact (hd.entries csid' state' hlook').partial_le
  refine ⟨htot, ?_⟩
  -- an entry that starts a message has nothing left to release
  have hrel : (if chunk.startingNewMessage then
        d.bufferedPayloadBytes - UInt64.ofNat state.partialPayload.length
      else d.bufferedPayloadBytes) = d.bufferedPayloadBytes := by
    cases hprog : state.inProgress with
    | false => simp [h.wellFormed.idle hprog]
    | true => simp [h.starting, hprog]
  simp only [DecoderState.storePayload, hrel, ← h.slice_length]
  rw [toNat_charge (by rw [hd.buffered_eq]; exact hcapacity), hd.buffered_eq]

end Commit

theorem DecoderState.WithinLimits.release {idle : ChunkStreamState} (hd : d.WithinLimits cfg)
    (hlook : d.streams.lookup csid = some state)
    (hemp : idle.partialPayload = []) (hdone : idle.bytesRemaining = 0)
    (hcnt : counter.toNat = d.partialTotal - state.partialPayload.length) :
    DecoderState.WithinLimits cfg
      { d with
        bufferedPayloadBytes := counter
        streams := d.streams.insert csid idle } :=
  { hd with
    streams_le := by
      rw [length_keys_insert_old hlook]
      exact hd.streams_le
    buffered_eq := by
      have hrepl := partialTotal_insert hlook idle
      simp only [DecoderState.partialTotal, hemp, length_nil] at *
      omega
    buffered_le := by
      have hle := hd.buffered_le
      have heq := hd.buffered_eq
      rw [UInt64.le_iff_toNat_le] at *
      simp only
      omega
    entries := by
      refine forall_lookup_insert hd.entries ⟨?_, fun _ => hemp⟩
      intro hprog
      simp [ChunkStreamState.inProgress, hdone] at hprog }

/-- A control message either fails the decoder or keeps it within its
limits. -/
theorem handleProtocolControl_contained (msg : RtmpMessage) (hd : d.WithinLimits cfg) :
    (handleProtocolControl cfg d msg).2.1.Contained cfg := by
  have hfail := fail_emptied hd.running
  unfold handleProtocolControl
  split
  · exact Or.inr hd
  split
  · split
    · exact Or.inl (hfail _ _)
    dsimp only
    split
    · exact Or.inl (hfail _ _)
    split
    · exact Or.inl (hfail _ _)
    next hzero hle =>
      refine Or.inr ⟨hd.running, hd.streams_le, hd.buffered_eq, hd.buffered_le,
        hd.entries, ?_, Or.inl ?_⟩
      · refine Nat.pos_of_ne_zero fun h => hzero ?_
        exact UInt32.toNat_inj.mp h
      · exact UInt32.le_iff_toNat_le.mp (UInt32.not_lt.mp hle)
  split
  · split
    · exact Or.inl (hfail _ _)
    dsimp only
    split
    · exact Or.inr hd
    next target hlook =>
      refine Or.inr (hd.release hlook rfl rfl ?_)
      have hle : target.partialPayload.length ≤ d.bufferedPayloadBytes.toNat := by
        rw [hd.buffered_eq]
        exact partial_le_partialTotal hlook
      rw [toNat_release hle, hd.buffered_eq]
  split
  · split
    · exact Or.inl (hfail _ _)
    · exact Or.inr ⟨hd.running, hd.streams_le, hd.buffered_eq, hd.buffered_le,
        hd.entries, hd.chunkSize_pos, hd.chunkSize_le⟩
  · exact Or.inr hd

theorem deliver_state (cfg : ChunkDecoderConfig) (d : DecoderState) (msg : RtmpMessage) :
    (deliver cfg d msg).1 = (handleProtocolControl cfg d msg).2.1 := by
  unfold deliver
  split <;> simp_all

theorem commitPayload_contained {slice : Bytes} (hd : d.WithinLimits cfg)
    (hlook : d.streams.lookup csid = some state) (h : Committable cfg state chunk slice) :
    (commitPayload cfg d csid state chunk slice).2.1.Contained cfg := by
  obtain ⟨htot, hcnt⟩ := h.storePayload hd hlook
  obtain ⟨hhdr, hlen, hsum, hmax⟩ := h.commit
  have hpartial := partial_le_partialTotal hlook
  have hrun : (d.storePayload csid state chunk slice).failed = false := hd.running
  unfold commitPayload
  dsimp only
  split
  · exact Or.inl (fail_emptied hrun _ _)
  rename_i hlim
  split
  next hdone =>
    simp only [handleCompleteMessage, deliver_state]
    refine handleProtocolControl_contained _ ?_
    have hrepl : (d.storePayload csid state chunk slice).streams.insert csid
        { state.commit chunk slice with partialPayload := [] } =
      d.streams.insert csid { state.commit chunk slice with partialPayload := [] } :=
      insert_insert _
    rw [hrepl]
    refine hd.release hlook rfl hdone ?_
    rw [toNat_release (by omega)]
    omega
  next hmore =>
    refine Or.inr ⟨hrun, ?_, hcnt.trans htot.symm, ?_, ?_, hd.chunkSize_pos, hd.chunkSize_le⟩
    · simp only [DecoderState.storePayload]
      rw [length_keys_insert_old hlook]
      exact hd.streams_le
    · -- without payload the counter has not moved
      have hle := UInt64.le_iff_toNat_le.mp hd.buffered_le
      rw [UInt64.le_iff_toNat_le]
      dsimp only
      by_cases hslice : 0 < chunk.payloadSlice
      · exact UInt64.le_iff_toNat_le.mp (UInt64.not_lt.mp fun hlt => hlim ⟨hslice, hlt⟩)
      · have hzero := h.slice_length
        have heq := hd.buffered_eq
        omega
    · refine forall_lookup_insert hd.entries ⟨fun _ => ⟨hsum, hmax⟩, ?_⟩
      intro hidle
      simp [ChunkStreamState.inProgress, hhdr] at hidle
      exact absurd hidle hmore

/-! ## Attempts and runs -/

/-- The raw bytes kept for a chunk that is not complete. -/
def DecoderState.unreadBound (cfg : ChunkDecoderConfig) (d : DecoderState) : ℕ :=
  18 + min d.inputChunkSize cfg.maxMessageSize.toNat

theorem messageHeaderLen_le (fmt : UInt8) : messageHeaderLen fmt ≤ 11 := by
  unfold messageHeaderLen
  split
  · omega
  · split
    · omega
    · split <;> omega

theorem basicHeaderLen_le (csidField : UInt8) : basicHeaderLen csidField ≤ 3 := by
  unfold basicHeaderLen
  split
  · omega
  · split <;> omega

theorem readBasicHeader_len_le (h : readBasicHeader b = some header) : header.len ≤ 3 := by
  obtain ⟨-, -, rfl⟩ := readBasicHeader_eq_some_iff.mp h
  exact basicHeaderLen_le _

theorem readBasicHeader_none_lt (h : readBasicHeader b = none) : b.length < 3 := by
  by_cases hb : b = []
  · simp [hb]
  · have hlen := basicHeaderLen_le (byteAt b 0 &&& 0x3F)
    simp only [readBasicHeader, if_neg hb] at h
    split at h
    · omega
    · cases h

/-- A chunk the buffer does not hold is a header and a payload slice long at
most. -/
theorem resolveChunk_insufficientData_lt (hst : state.WellFormed cfg)
    (hread : readBasicHeader b = some header)
    (h : resolveChunk cfg inputChunkSize state header b = .insufficientData) :
    b.length < 18 + min inputChunkSize cfg.maxMessageSize.toNat := by
  have htot : totalHeaderLen state header b ≤ 18 := by
    have hbasic := readBasicHeader_len_le hread
    have hmsg := messageHeaderLen_le header.fmt
    unfold totalHeaderLen
    split <;> omega
  unfold resolveChunk at h
  split at h
  · cases h
  split at h
  · omega
  split at h
  · cases h
  rename_i hlarge
  split at h
  next hslice =>
    have hle : payloadSlice inputChunkSize state header b ≤
        min inputChunkSize cfg.maxMessageSize.toNat := by
      unfold payloadSlice
      cases hprog : state.inProgress with
      | false =>
        have hlen : headerMessageLength state header b ≤ cfg.maxMessageSize.toNat :=
          Nat.le_of_not_lt fun hlt => hlarge ⟨hprog, hlt⟩
        simp only [Bool.false_eq_true, if_false]
        omega
      | true =>
        have hsum := hst.in_progress hprog
        simp only [if_true]
        omega
    omega
  · cases h

theorem commitPayload_of_opened {opened : DecoderState} (hd : d.WithinLimits cfg)
    (hopen : openStream cfg d header = .ok (opened, state))
    (hres : resolveChunk cfg opened.inputChunkSize state header b = .resolved chunk) :
    (commitPayload cfg opened header.csid state chunk
      ((b.drop chunk.totalHeaderLen).take chunk.payloadSlice)).2.1.Contained cfg := by
  obtain ⟨hop, hlook⟩ := openStream_withinLimits hd hopen
  exact commitPayload_contained hop hlook (committable_of_resolved (hop.entries _ _ hlook) hres)

/-- An attempt that asks for more is left with less than a chunk, and one that stops
holds nothing. -/
theorem decoderAttempt_contained (b : Bytes) (hd : d.WithinLimits cfg) :
    match decoderAttempt cfg d b with
      | .needMore d' => d'.WithinLimits cfg ∧ b.length < d'.unreadBound cfg
      | .consumed d' _ _ => d'.WithinLimits cfg
      | .stopped d' _ => d'.Emptied := by
  have hattempted := decoderAttempt_attempted cfg d b
  generalize decoderAttempt cfg d b = attempt at hattempted ⊢
  cases hattempted with
  | short hshort =>
    refine ⟨hd, ?_⟩
    unfold DecoderState.unreadBound
    cases hread : readBasicHeader b with
    | none =>
      have hlt := readBasicHeader_none_lt hread
      omega
    | some header =>
      have hlt := Nat.lt_of_not_le fun hle => hshort header ⟨hread, hle⟩
      have hbasic := readBasicHeader_len_le hread
      have hmsg := messageHeaderLen_le header.fmt
      omega
  | waits hfront hopen hres =>
    obtain ⟨hop, hlook⟩ := openStream_withinLimits hd hopen
    exact ⟨hop, resolveChunk_insufficientData_lt (hop.entries _ _ hlook) hfront.read hres⟩
  | refused _ _ => exact fail_emptied hd.running _ _
  | malformed _ hopen _ => exact fail_emptied (openStream_withinLimits hd hopen).1.running _ _
  | overruns _ hopen hres hcom hfail =>
    have hcont := commitPayload_of_opened hd hopen hres
    rw [hcom] at hcont
    exact hcont.emptied hfail
  | commits _ hopen hres hcom hrun =>
    have hcont := commitPayload_of_opened hd hopen hres
    rw [hcom] at hcont
    exact hcont.withinLimits hrun

theorem decodeLoop_contained (rounds : ℕ) (b : Bytes) (hd : d.WithinLimits cfg) :
    let looped := decodeLoop cfg rounds d b
    (looped.1.Emptied ∧ looped.2.1 = []) ∨ (looped.1.WithinLimits cfg ∧
      (b.length < rounds → looped.2.1.length < looped.1.unreadBound cfg)) := by
  induction rounds generalizing d b with
  | zero => exact Or.inr ⟨hd, fun h => absurd h (Nat.not_lt_zero _)⟩
  | succ rounds ih =>
    have hattempted := decoderAttempt_contained b hd
    rw [decodeLoop_succ]
    cases hatt : decoderAttempt cfg d b with
    | needMore d' =>
      rw [hatt] at hattempted
      exact Or.inr ⟨hattempted.1, fun _ => hattempted.2⟩
    | consumed d' r o =>
      rw [hatt] at hattempted
      have hshort := decoderAttempt_rest_shorter hatt
      refine (ih r hattempted).imp_right fun hrest => ⟨hrest.1, fun hrnds => hrest.2 ?_⟩
      omega
    | stopped d' o =>
      rw [hatt] at hattempted
      exact Or.inl ⟨hattempted, rfl⟩

/-- The resource invariant of a decoder between two calls. -/
def ChunkDecoder.Bounded (cfg : ChunkDecoderConfig) (dec : ChunkDecoder) : Prop :=
  (dec.state.Emptied ∧ dec.buffer = []) ∨ (dec.state.WithinLimits cfg ∧
      dec.buffer.length < dec.state.unreadBound cfg)

theorem onBytesReceived_bounded {dec : ChunkDecoder} (data : Bytes) (h : dec.Bounded cfg) :
    (onBytesReceived cfg dec data).1.Bounded cfg := by
  unfold onBytesReceived
  split
  · exact h
  next hskip =>
    rcases h with ⟨hemp, -⟩ | ⟨hlims, -⟩
    · exact absurd (Or.inl hemp.failed_eq) hskip
    · refine (decodeLoop_contained _ _ hlims).imp_right fun hloop => ⟨hloop.1, hloop.2 ?_⟩
      exact Nat.lt_succ_self _

theorem onBytesReceivedAll_bounded {dec : ChunkDecoder} (calls : List Bytes) (h : dec.Bounded cfg) :
    (onBytesReceivedAll cfg dec calls).1.Bounded cfg := by
  induction calls generalizing dec with
  | nil => exact h
  | cons data rest ih => exact ih (onBytesReceived_bounded data h)

theorem initial_bounded (cfg : ChunkDecoderConfig) : ChunkDecoder.Bounded cfg {} := by
  refine Or.inr ⟨initial_withinLimits cfg, ?_⟩
  simp only [DecoderState.unreadBound, length_nil]
  omega

/-- Whatever bytes arrive: between two calls, and after every round inside the
next one, a decoder that has not failed is within its limits, and it keeps less
than one chunk of raw input; a decoder that has failed holds nothing and stays
as it is. -/
theorem onBytesReceivedAll_resources (cfg : ChunkDecoderConfig) (calls : List (List UInt8)) :
    let dec := (onBytesReceivedAll cfg {} calls).1
    (dec.state.failed = false → dec.state.WithinLimits cfg ∧ dec.buffer.length <
          18 + min dec.state.inputChunkSize cfg.maxMessageSize.toNat ∧
        ∀ data rounds, let inside := (decodeLoop cfg rounds dec.state (dec.buffer ++ data)).1
          (inside.failed = false → inside.WithinLimits cfg) ∧
            (inside.failed = true → inside.Emptied)) ∧
      (dec.state.failed = true → dec.state.Emptied ∧ dec.buffer = [] ∧
          ∀ data, onBytesReceived cfg dec data = (dec, [])) := by
  intro dec
  have hbounded : dec.Bounded cfg := onBytesReceivedAll_bounded calls (initial_bounded cfg)
  constructor
  · intro hrunning
    rcases hbounded with ⟨hempty, -⟩ | ⟨hlimits, hunread⟩
    · exact absurd (hrunning.symm.trans hempty.failed_eq) (by decide)
    · refine ⟨hlimits, hunread, ?_⟩
      intro data rounds inside
      have hinside : inside.Contained cfg :=
        (decodeLoop_contained rounds _ hlimits).imp And.left And.left
      exact ⟨hinside.withinLimits, hinside.emptied⟩
  · intro hfailed
    rcases hbounded with ⟨hempty, hnil⟩ | ⟨hlimits, -⟩
    · refine ⟨hempty, hnil, ?_⟩
      intro data
      rw [onBytesReceived, if_pos (Or.inl hfailed)]
    · exact absurd (hlimits.running.symm.trans hfailed) (by decide)

end RtmpCore.Chunk
