import RtmpCore.Chunk.Machine

/-!
# The decoder is independent of transport fragmentation

The decoder's attempts are stable: `decodeOne` reads no byte past the chunk it
resolves, and the only trace of an attempt that ran out of data is an empty
table entry, which the retry finds in place of creating it.
-/

namespace RtmpCore.Chunk

open RtmpCore.Core Incremental List

/-! ## Reads within the chunk -/

theorem basicHeaderCsid_append {csidField : UInt8} {b : Bytes}
    (x : Bytes) (h : basicHeaderLen csidField ≤ b.length) :
    basicHeaderCsid csidField (b ++ x) = basicHeaderCsid csidField b := by
  by_cases h₀ : csidField = 0
  · have hlen : 2 ≤ b.length := by simpa [basicHeaderLen, h₀] using h
    simp [basicHeaderCsid, h₀, byteAt_append_left x (show 1 < b.length by omega)]
  · by_cases h₁ : csidField = 1
    · have hlen : 3 ≤ b.length := by simpa [basicHeaderLen, h₁] using h
      simp [basicHeaderCsid, byteAt_append_left x (show 1 < b.length by omega),
        byteAt_append_left x (show 2 < b.length by omega)]
    · simp [basicHeaderCsid, h₀, h₁]

theorem readBasicHeader_append {b : Bytes} {header : BasicHeader}
    (x : Bytes) (h : readBasicHeader b = some header) : readBasicHeader (b ++ x) = some header := by
  obtain ⟨hne, hlen, rfl⟩ := readBasicHeader_eq_some_iff.mp h
  have hfst : byteAt (b ++ x) 0 = byteAt b 0 := byteAt_append_left x (length_pos_iff.mpr hne)
  refine readBasicHeader_eq_some_iff.mpr ⟨by simp [hne], ?_, ?_⟩
  · rw [length_append]
    omega
  · rw [hfst, basicHeaderCsid_append x hlen]

theorem Fronts.append {b : Bytes} {header : BasicHeader} (h : Fronts b header) (x : Bytes) :
    Fronts (b ++ x) header where
  read := readBasicHeader_append x h.read
  header_le := by
    rw [length_append]
    exact Nat.le_add_right_of_le h.header_le

section Resolve

variable {cfg : ChunkDecoderConfig} {inputChunkSize : ℕ}
  {state : ChunkStreamState} {header : BasicHeader} {b : Bytes}

variable (x : Bytes)

section

variable (h : header.len + messageHeaderLen header.fmt ≤ b.length)
include h

theorem rawTsField_append : rawTsField header (b ++ x) = rawTsField header b := by
  unfold rawTsField
  split
  next hfmt =>
    apply readU24BeAt_append_left
    rcases hfmt with hfmt | hfmt | hfmt <;>
      · simp [messageHeaderLen, hfmt] at h
        omega
  · rfl

theorem needsExtended_append :
    needsExtended state header (b ++ x) = needsExtended state header b := by
  simp only [needsExtended, rawTsField_append x h]

theorem headerMessageLength_append :
    headerMessageLength state header (b ++ x) = headerMessageLength state header b := by
  unfold headerMessageLength
  split
  next hfmt =>
    rw [readU24BeAt_append_left x]
    rcases hfmt with hfmt | hfmt <;>
      · simp [messageHeaderLen, hfmt] at h
        omega
  · rfl

theorem headerMessageTypeId_append :
    headerMessageTypeId state header (b ++ x) = headerMessageTypeId state header b := by
  unfold headerMessageTypeId
  split
  next hfmt =>
    apply byteAt_append_left x
    rcases hfmt with hfmt | hfmt <;>
      · simp [messageHeaderLen, hfmt] at h
        omega
  · rfl

theorem headerMessageStreamId_append :
    headerMessageStreamId state header (b ++ x) = headerMessageStreamId state header b := by
  unfold headerMessageStreamId
  split
  next hfmt =>
    apply readU32LeAt_append_left x
    simp [messageHeaderLen, hfmt] at h
    omega
  · rfl

theorem totalHeaderLen_append :
    totalHeaderLen state header (b ++ x) = totalHeaderLen state header b := by
  simp only [totalHeaderLen, needsExtended_append x h]

theorem extendedValue_append (htot : totalHeaderLen state header b ≤ b.length) :
    extendedValue state header (b ++ x) = extendedValue state header b := by
  simp only [extendedValue, needsExtended_append x h]
  split
  next hext =>
    apply readU32BeAt_append_left x
    simpa [totalHeaderLen, hext] using htot
  · rfl

theorem payloadSlice_append : payloadSlice inputChunkSize state header (b ++ x) =
      payloadSlice inputChunkSize state header b := by
  simp only [payloadSlice, headerMessageLength_append x h]

theorem resolveChunk_append
    (hdone : resolveChunk cfg inputChunkSize state header b ≠ .insufficientData) :
    resolveChunk cfg inputChunkSize state header (b ++ x) =
      resolveChunk cfg inputChunkSize state header b := by
  have hlen : b.length ≤ (b ++ x).length := by simp
  by_cases hcont : header.fmt ≠ 3 ∧ state.inProgress = true
  · simp only [resolveChunk, if_pos hcont]
  by_cases htot : b.length < totalHeaderLen state header b
  · simp [resolveChunk, hcont, htot] at hdone
  have htot' : ¬(b ++ x).length < totalHeaderLen state header b := by omega
  by_cases hlarge : state.inProgress = false ∧
      cfg.maxMessageSize.toNat < headerMessageLength state header b
  · simp only [resolveChunk, totalHeaderLen_append x h,
      if_neg htot, if_neg htot', headerMessageLength_append x h, if_pos hlarge]
  by_cases hslice : b.length < totalHeaderLen state header b +
      payloadSlice inputChunkSize state header b
  · simp [resolveChunk, hcont, hlarge, hslice] at hdone
  have hslice' : ¬(b ++ x).length < totalHeaderLen state header b +
      payloadSlice inputChunkSize state header b := by
    omega
  simp only [resolveChunk, if_neg htot, if_neg htot',
    headerMessageLength_append x h, totalHeaderLen_append x h,
    payloadSlice_append x h, if_neg hslice, if_neg hslice',
    needsExtended_append x h, headerMessageTypeId_append x h, headerMessageStreamId_append x h,
    extendedValue_append x h (Nat.le_of_not_lt htot), rawTsField_append x h]

end

end Resolve

/-! ## Stability of the attempts -/

/-- With the bytes of its chunk in the buffer, an attempt on a longer buffer
does the same and leaves the further bytes alone. -/
theorem decoderAttempt_append {cfg : ChunkDecoderConfig} {d opened : DecoderState}
    {state : ChunkStreamState} {header : BasicHeader} {b : Bytes}
    (x : Bytes) (hfront : Fronts b header) (hopen : openStream cfg d header = .ok (opened, state))
    (hdone : resolveChunk cfg opened.inputChunkSize state header b ≠ .insufficientData) :
    decoderAttempt cfg d (b ++ x) = (decoderAttempt cfg d b).append x := by
  rw [decoderAttempt_opened hfront hopen, decoderAttempt_opened (hfront.append x) hopen,
    resolveChunk_append x hfront.header_le hdone]
  cases hres : resolveChunk cfg opened.inputChunkSize state header b with
  | insufficientData => exact absurd hres hdone
  | failed code msg => rfl
  | resolved chunk =>
    have hle := (resolveChunk_resolved_le hres).2
    have hslice : ((b ++ x).drop chunk.totalHeaderLen).take chunk.payloadSlice =
        (b.drop chunk.totalHeaderLen).take chunk.payloadSlice := by
      rw [drop_append_of_le_length (by omega), take_append_of_le_length]
      rw [length_drop]
      omega
    simp only [hslice, drop_append_of_le_length hle, commitAttempt]
    split <;> rfl

/-- No chunk is decided by bytes behind it, and running out of data in the
middle of one is harmless. -/
theorem decoderMachine_stable (cfg : ChunkDecoderConfig) : Stable (decoderMachine cfg) where
  consumed_append := by
    intro d d' b r o x h
    have hattempted := decoderAttempt_attempted cfg d b
    rw [show decoderAttempt cfg d b = _ from h] at hattempted
    cases hattempted with
    | commits hfront hopen hres _ _ =>
      exact (decoderAttempt_append x hfront hopen (by simp [hres])).trans
        (congrArg (Attempt.append x) h)
  stopped_append := by
    intro d d' b o x h
    have hattempted := decoderAttempt_attempted cfg d b
    rw [show decoderAttempt cfg d b = _ from h] at hattempted
    cases hattempted with
    | refused hfront hopen => exact decoderAttempt_refused (hfront.append x) hopen
    | malformed hfront hopen hres | overruns hfront hopen hres =>
      exact (decoderAttempt_append x hfront hopen (by simp [hres])).trans
        (congrArg (Attempt.append x) h)
  needMore_retry := by
    intro d d' b x h
    have hattempted := decoderAttempt_attempted cfg d b
    rw [show decoderAttempt cfg d b = _ from h] at hattempted
    change decoderAttempt cfg d' (b ++ x) = decoderAttempt cfg d (b ++ x)
    cases hattempted with
    | short _ => rfl
    | waits hfront hopen _ =>
      -- the entry the first attempt created is found by the retry
      rw [decoderAttempt_opened (hfront.append x) hopen,
        decoderAttempt_opened (hfront.append x) (openStream_opened hopen)]

/-- The handler calls, the state and the unread bytes depend on the bytes
received and not on how the transport cut them into calls. -/
theorem onBytesReceivedAll_fragmentation (cfg : ChunkDecoderConfig)
    (dec : ChunkDecoder) (pieces : List (List UInt8)) :
    (onBytesReceivedAll cfg dec pieces).2 = (onBytesReceived cfg dec pieces.flatten).2 ∧
      (onBytesReceivedAll cfg dec pieces).1.state =
        (onBytesReceived cfg dec pieces.flatten).1.state ∧
      (onBytesReceivedAll cfg dec pieces).1.buffer =
        (onBytesReceived cfg dec pieces.flatten).1.buffer := by
  obtain ⟨hconfig, hevents⟩ := onBytesReceivedAll_eq_feedAll cfg dec pieces
  obtain ⟨hconfig', hevents'⟩ := onBytesReceived_eq_feed cfg dec pieces.flatten
  rw [feedAll_eq_feed_flatten (decoderMachine_stable cfg)] at hconfig hevents
  have hsame := hconfig.trans hconfig'.symm
  exact ⟨hevents.trans hevents'.symm, congrArg Config.state hsame, congrArg Config.buffer hsame⟩

end RtmpCore.Chunk
