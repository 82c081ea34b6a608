import RtmpCore.Chunk.Encoder
import RtmpCore.Chunk.Decoder

/-!
# Reading back a written chunk header

The decoder's header readers applied to bytes the encoder's header writers
produced, with arbitrary bytes behind them.
-/

namespace RtmpCore.Chunk

open RtmpCore.Core List Option

/-! ## The basic header -/

theorem fmtBits_or {fmt : UInt8} (low : UInt8) (hfmt : fmt.toNat < 4) (hlow : low.toNat < 64) :
    (((fmt &&& 0x03) <<< 6 ||| low) >>> 6) &&& 0x03 = fmt ∧
      ((fmt &&& 0x03) <<< 6 ||| low) &&& 0x3F = low := by
  have hall : ∀ f : Fin 4, ∀ l : Fin 64,
      (((UInt8.ofNat f &&& 0x03) <<< 6 ||| UInt8.ofNat l) >>> 6) &&& 0x03 = UInt8.ofNat f ∧
        ((UInt8.ofNat f &&& 0x03) <<< 6 ||| UInt8.ofNat l) &&& 0x3F = UInt8.ofNat l := by
    decide
  simpa using hall ⟨fmt.toNat, hfmt⟩ ⟨low.toNat, hlow⟩

theorem fmtBits {fmt : UInt8} (hfmt : fmt.toNat < 4) :
    (((fmt &&& 0x03) <<< 6) >>> 6) &&& 0x03 = fmt ∧ ((fmt &&& 0x03) <<< 6) &&& 0x3F = 0 := by
  simpa using fmtBits_or 0 hfmt (by decide)

section Csid

variable {csid : UInt32}

theorem toUInt32_one_byte (h : csid.toNat < 64) :
    csid.toUInt8.toNat = csid.toNat ∧ csid.toUInt8.toUInt32 = csid := by
  have hlow : csid.toUInt8.toNat = csid.toNat := by
    rw [UInt32.toNat_toUInt8]
    omega
  refine ⟨hlow, ?_⟩
  rw [← UInt32.toNat_inj, UInt8.toNat_toUInt32, hlow]

theorem toNat_sub_64 (h : 64 ≤ csid.toNat) : (csid - 64).toNat = csid.toNat - 64 :=
  UInt32.toNat_sub_of_le csid 64 (UInt32.le_iff_toNat_le.mpr h)

theorem toUInt32_two_bytes (hmin : 64 ≤ csid.toNat) (hmax : csid.toNat < 320) :
    64 + (csid - 64).toUInt8.toUInt32 = csid := by
  rw [← UInt32.toNat_inj, UInt32.toNat_add, UInt8.toNat_toUInt32,
    UInt32.toNat_toUInt8, toNat_sub_64 hmin]
  change (64 + (csid.toNat - 64) % 2 ^ 8) % 2 ^ 32 = csid.toNat
  omega

theorem toUInt32_three_bytes (hmin : 64 ≤ csid.toNat) (hmax : csid.toNat ≤ 65599) :
    (64 : UInt32) + ((csid - 64) &&& 0xFF).toUInt8.toUInt32 +
      (((csid - 64) >>> 8) &&& 0xFF).toUInt8.toUInt32 * 256 = csid := by
  have hlow : ((csid - 64) &&& 0xFF).toUInt8.toNat = (csid.toNat - 64) % 256 := by
    rw [UInt32.toNat_toUInt8, UInt32.toNat_and, toNat_sub_64 hmin]
    change ((csid.toNat - 64) &&& (2 ^ 8 - 1)) % 2 ^ 8 = _
    rw [Nat.and_two_pow_sub_one_eq_mod]
    omega
  have hhigh : (((csid - 64) >>> 8) &&& 0xFF).toUInt8.toNat = (csid.toNat - 64) / 256 := by
    rw [UInt32.toNat_toUInt8, UInt32.toNat_and, UInt32.toNat_shiftRight,
      toNat_sub_64 hmin, Nat.shiftRight_eq_div_pow]
    change ((csid.toNat - 64) / 2 ^ 8 &&& (2 ^ 8 - 1)) % 2 ^ 8 = _
    rw [Nat.and_two_pow_sub_one_eq_mod]
    omega
  rw [← UInt32.toNat_inj, UInt32.toNat_add, UInt32.toNat_add, UInt32.toNat_mul,
    UInt8.toNat_toUInt32, UInt8.toNat_toUInt32, hlow, hhigh]
  change ((64 + (csid.toNat - 64) % 256) % 2 ^ 32 +
    (csid.toNat - 64) / 256 * 256 % 2 ^ 32) % 2 ^ 32 = _
  omega

end Csid

/-- Every header form on every addressable chunk stream is read back. -/
theorem readBasicHeader_write {fmt : UInt8} {csid : UInt32}
    (hfmt : fmt.toNat < 4) (hmin : 2 ≤ csid.toNat) (hmax : csid.toNat ≤ 65599) (x : Bytes) :
    readBasicHeader (writeBasicHeader fmt csid ++ x) =
      some ⟨fmt, csid, (writeBasicHeader fmt csid).length⟩ := by
  unfold writeBasicHeader
  dsimp only
  by_cases hone : csid < 64
  · have hlt : csid.toNat < 64 := UInt32.lt_iff_toNat_lt.mp hone
    obtain ⟨hlow, hback⟩ := toUInt32_one_byte hlt
    obtain ⟨hf, hl⟩ := fmtBits_or csid.toUInt8 hfmt (by omega)
    have hne0 : csid.toUInt8 ≠ 0 := by
      intro h
      rw [h] at hlow
      change 0 = csid.toNat at hlow
      omega
    have hne1 : csid.toUInt8 ≠ 1 := by
      intro h
      rw [h] at hlow
      change 1 = csid.toNat at hlow
      omega
    simp [hone, readBasicHeader, hf, hl, basicHeaderLen, basicHeaderCsid, hne0, hne1, hback]
  · have hge : 64 ≤ csid.toNat := UInt32.le_iff_toNat_le.mp (UInt32.not_lt.mp hone)
    by_cases htwo : csid < 64 + 256
    · have hlt : csid.toNat < 320 := UInt32.lt_iff_toNat_lt.mp htwo
      obtain ⟨hf, hl⟩ := fmtBits hfmt
      have hback := toUInt32_two_bytes hge hlt
      rw [if_neg hone, if_pos htwo]
      generalize (csid - 64).toUInt8 = second at hback ⊢
      simp [readBasicHeader, hf, hl, basicHeaderLen, basicHeaderCsid, hback]
    · obtain ⟨hf, hl⟩ := fmtBits_or 1 hfmt (by decide)
      have hback := toUInt32_three_bytes hge hmax
      rw [if_neg hone, if_neg htwo]
      generalize ((csid - 64) &&& 0xFF).toUInt8 = second at hback ⊢
      generalize (((csid - 64) >>> 8) &&& 0xFF).toUInt8 = third at hback ⊢
      simp [readBasicHeader, hf, hl, basicHeaderLen, basicHeaderCsid, hback]

/-! ## The message header -/

theorem length_writeMessageHeader (fmt : UInt8) (tsField : UInt32) (msg : RtmpMessage) :
    (writeMessageHeader fmt tsField msg).length = messageHeaderLen fmt := by
  unfold writeMessageHeader messageHeaderLen
  split
  · simp
  · split
    · simp
    · split <;> simp

section Fields

variable (fmt : UInt8) (csid : UInt32) (state : ChunkStreamState)
  (msg : RtmpMessage) (tsField : UInt32) (basic x : Bytes)

theorem rawTsField_write (hts : fmt ≠ 3 → tsField.toNat < 2 ^ 24) :
    rawTsField ⟨fmt, csid, basic.length⟩ (basic ++ (writeMessageHeader fmt tsField msg ++ x)) =
      if fmt = 0 ∨ fmt = 1 ∨ fmt = 2 then tsField else 0 := by
  unfold rawTsField
  dsimp only
  split
  next hfmt =>
    have hread := readU24BeAt_append_right basic (writeMessageHeader fmt tsField msg ++ x) 0
    rw [Nat.add_zero] at hread
    rw [hread]
    have hne : fmt ≠ 3 := by
      rcases hfmt with h | h | h <;> simp [h]
    have hts' := hts hne
    rcases hfmt with h | h | h <;>
      simp [h, writeMessageHeader, readU24BeAt_write hts']
  · rfl

theorem headerMessageLength_write (hlen : msg.payload.length < 2 ^ 24) :
    headerMessageLength state ⟨fmt, csid, basic.length⟩
        (basic ++ (writeMessageHeader fmt tsField msg ++ x)) =
      if fmt = 0 ∨ fmt = 1 then msg.payload.length
      else state.messageLength := by
  have hsize : (UInt32.ofNat msg.payload.length).toNat = msg.payload.length :=
    UInt32.toNat_ofNat_of_lt (by unfold UInt32.size; omega)
  unfold headerMessageLength
  dsimp only
  split
  next hfmt =>
    rw [readU24BeAt_append_right]
    have hskip : ∀ y : Bytes, readU24BeAt (writeU24Be tsField ++ y) 3 = readU24BeAt y 0 :=
      fun y => readU24BeAt_append_right (writeU24Be tsField) y 0
    rcases hfmt with h | h <;>
      simp [h, writeMessageHeader, hskip, readU24BeAt_write (hsize ▸ hlen), hsize]
  · rfl

theorem headerMessageTypeId_write : headerMessageTypeId state ⟨fmt, csid, basic.length⟩
        (basic ++ (writeMessageHeader fmt tsField msg ++ x)) =
      if fmt = 0 ∨ fmt = 1 then msg.messageTypeId
      else state.messageTypeId := by
  unfold headerMessageTypeId
  dsimp only
  split
  next hfmt =>
    rw [byteAt_append_right]
    rcases hfmt with h | h <;>
      simp [h, writeMessageHeader, writeU24Be]
  · rfl

theorem headerMessageStreamId_write : headerMessageStreamId state ⟨fmt, csid, basic.length⟩
        (basic ++ (writeMessageHeader fmt tsField msg ++ x)) =
      if fmt = 0 then msg.messageStreamId else state.messageStreamId := by
  unfold headerMessageStreamId
  dsimp only
  split
  next hfmt =>
    rw [readU32LeAt_append_right]
    have hskip : ∀ y : Bytes, readU32LeAt (writeU24Be tsField ++
          (writeU24Be (UInt32.ofNat msg.payload.length) ++
            msg.messageTypeId :: y)) 7 = readU32LeAt y 0 :=
      fun y => rfl
    simp [hfmt, writeMessageHeader, hskip, readU32LeAt_write]
  · rfl

end Fields

/-! ## A whole chunk -/

def writeExtended (extended : Option UInt32) : Bytes :=
  match extended with
  | none => []
  | some value => writeU32Be value

/-- Header and payload piece of one chunk. -/
def writeChunk (fmt : UInt8) (tsField : UInt32) (message : RtmpMessage)
    (extended : Option UInt32) (piece : Bytes) : Bytes :=
  writeBasicHeader fmt message.chunkStreamId ++ (writeMessageHeader fmt tsField message ++
      (writeExtended extended ++ piece))

/-- The message length in force for a chunk that starts a message. -/
def writtenLength (state : ChunkStreamState) (fmt : UInt8) (message : RtmpMessage) : ℕ :=
  if fmt = 0 ∨ fmt = 1 then message.payload.length else state.messageLength

/-- The bytes at the front of the buffer are a written chunk, and the entry of
its chunk stream is ready for it. -/
structure Readable (cfg : ChunkDecoderConfig) (inputChunkSize : ℕ)
    (state : ChunkStreamState) (fmt : UInt8) (tsField : UInt32)
    (message : RtmpMessage) (extended : Option UInt32) (piece : Bytes) : Prop where
  fmt_lt : fmt.toNat < 4
  csid_min : 2 ≤ message.chunkStreamId.toNat
  csid_max : message.chunkStreamId.toNat ≤ 65599
  ts_lt : fmt ≠ 3 → tsField.toNat < 2 ^ 24
  length_lt : message.payload.length < 2 ^ 24
  extended_iff : extended.isSome = if fmt = 3 then state.extendedTimestamp
    else tsField == kExtendedTimestampMarker
  continues : state.inProgress = true → fmt = 3
  length_le : state.inProgress = false → writtenLength state fmt message ≤ cfg.maxMessageSize.toNat
  piece_length : piece.length = min (if state.inProgress then state.bytesRemaining
      else writtenLength state fmt message) inputChunkSize

section Read

variable {cfg : ChunkDecoderConfig} {inputChunkSize : ℕ}
  {state : ChunkStreamState} {fmt : UInt8} {tsField : UInt32}
  {msg : RtmpMessage} {extended : Option UInt32} {piece : Bytes}

def writtenHeader (fmt : UInt8) (csid : UInt32) : BasicHeader :=
  ⟨fmt, csid, (writeBasicHeader fmt csid).length⟩

/-- What a written chunk resolves to. -/
def writtenChunk (state : ChunkStreamState) (fmt : UInt8) (tsField : UInt32)
    (message : RtmpMessage) (extended : Option UInt32) (piece : Bytes) : ResolvedChunk :=
  let header := writtenHeader fmt message.chunkStreamId
  { totalHeaderLen := header.len + messageHeaderLen fmt + (writeExtended extended).length
    needsExtended := extended.isSome
    startingNewMessage := !state.inProgress
    effectiveLength := writtenLength state fmt message
    effectiveTypeId := if fmt = 0 ∨ fmt = 1 then message.messageTypeId else state.messageTypeId
    effectiveStreamId := if fmt = 0 then message.messageStreamId else state.messageStreamId
    effectiveTimestamp := effectiveTimestamp state header extended.isSome (extended.getD 0) tsField
    effectiveDelta := effectiveDelta state header extended.isSome (extended.getD 0) tsField
    payloadSlice := piece.length }

theorem fmt_cases (h : fmt.toNat < 4) : fmt = 0 ∨ fmt = 1 ∨ fmt = 2 ∨ fmt = 3 := by
  have hall : ∀ f : Fin 4, UInt8.ofNat f = 0 ∨ UInt8.ofNat f = 1 ∨
      UInt8.ofNat f = 2 ∨ UInt8.ofNat f = 3 := by
    decide
  simpa using hall ⟨fmt.toNat, h⟩

section

variable (h : Readable cfg inputChunkSize state fmt tsField msg extended piece)
include h

theorem Readable.needsExtended (x : Bytes) :
    needsExtended state (writtenHeader fmt msg.chunkStreamId)
        (writeBasicHeader fmt msg.chunkStreamId ++ (writeMessageHeader fmt tsField msg ++ x)) =
      extended.isSome := by
  rw [h.extended_iff]
  unfold Chunk.needsExtended writtenHeader
  rw [rawTsField_write _ _ _ _ _ _ h.ts_lt]
  rcases fmt_cases h.fmt_lt with rfl | rfl | rfl | rfl <;> simp

theorem Readable.extendedValue (x : Bytes) :
    extendedValue state (writtenHeader fmt msg.chunkStreamId)
        (writeBasicHeader fmt msg.chunkStreamId ++ (writeMessageHeader fmt tsField msg ++
            (writeExtended extended ++ x))) =
      extended.getD 0 := by
  unfold Chunk.extendedValue
  rw [h.needsExtended]
  cases hext : extended with
  | none => rfl
  | some value =>
    simp only [isSome_some, if_true, getD_some, writtenHeader, writeExtended]
    rw [← length_writeMessageHeader fmt tsField msg, readU32BeAt_append_right]
    have hread := readU32BeAt_append_right
      (writeMessageHeader fmt tsField msg) (writeU32Be value ++ x) 0
    rw [Nat.add_zero] at hread
    rw [hread, readU32BeAt_write]

theorem Readable.resolveChunk (rest : Bytes) :
    resolveChunk cfg inputChunkSize state (writtenHeader fmt msg.chunkStreamId)
        (writeChunk fmt tsField msg extended piece ++ rest) =
      .resolved (writtenChunk state fmt tsField msg extended piece) := by
  have hby : writeChunk fmt tsField msg extended piece ++ rest =
      writeBasicHeader fmt msg.chunkStreamId ++ (writeMessageHeader fmt tsField msg ++
          (writeExtended extended ++ (piece ++ rest))) := by
    simp [writeChunk]
  have hneeds := h.needsExtended (writeExtended extended ++ (piece ++ rest))
  have hval := h.extendedValue (piece ++ rest)
  generalize writeChunk fmt tsField msg extended piece ++ rest = bytes at hby ⊢
  have htot : totalHeaderLen state (writtenHeader fmt msg.chunkStreamId) bytes =
      (writtenHeader fmt msg.chunkStreamId).len + messageHeaderLen fmt +
        (writeExtended extended).length := by
    unfold totalHeaderLen
    rw [hby, hneeds]
    cases extended with
    | none | some => rfl
  have hlen : headerMessageLength state (writtenHeader fmt msg.chunkStreamId) bytes =
      writtenLength state fmt msg := by
    rw [hby]
    exact headerMessageLength_write _ _ _ _ _ _ _ h.length_lt
  have hslice : payloadSlice inputChunkSize state (writtenHeader fmt msg.chunkStreamId) bytes =
      piece.length := by
    rw [payloadSlice, hlen, h.piece_length]
  have hsize : bytes.length = (writtenHeader fmt msg.chunkStreamId).len + messageHeaderLen fmt +
      (writeExtended extended).length + piece.length + rest.length := by
    rw [hby]
    simp only [length_append, length_writeMessageHeader, writtenHeader]
    omega
  have hcont : ¬((writtenHeader fmt msg.chunkStreamId).fmt ≠ 3 ∧ state.inProgress = true) :=
    fun hclash => hclash.1 (h.continues hclash.2)
  have hlarge : ¬(state.inProgress = false ∧
      cfg.maxMessageSize.toNat < writtenLength state fmt msg) :=
    fun hclash => absurd (h.length_le hclash.1) (Nat.not_le.mpr hclash.2)
  unfold Chunk.resolveChunk
  rw [if_neg hcont, htot, if_neg (by omega), hlen, if_neg hlarge, hslice, if_neg (by omega)]
  simp only [writtenHeader] at hneeds hval
  simp only [hby, writtenHeader, writtenChunk, hneeds, hval, headerMessageTypeId_write,
    headerMessageStreamId_write, rawTsField_write _ _ _ _ _ _ h.ts_lt]
  -- a type 3 header has no timestamp field and uses none
  rcases fmt_cases h.fmt_lt with rfl | rfl | rfl | rfl <;>
    simp [effectiveTimestamp, effectiveDelta]

end

theorem writtenChunk_piece (state : ChunkStreamState) (fmt : UInt8)
    (tsField : UInt32) (msg : RtmpMessage) (extended : Option UInt32) (piece rest : Bytes) :
    ((writeChunk fmt tsField msg extended piece ++ rest).drop
        (writtenChunk state fmt tsField msg extended piece).totalHeaderLen
          ).take piece.length = piece ∧
      (writeChunk fmt tsField msg extended piece ++ rest).drop
        ((writtenChunk state fmt tsField msg extended
          piece).totalHeaderLen + piece.length) = rest := by
  have hby : writeChunk fmt tsField msg extended piece ++ rest =
      (writeBasicHeader fmt msg.chunkStreamId ++
        writeMessageHeader fmt tsField msg ++ writeExtended extended) ++ (piece ++ rest) := by
    simp [writeChunk]
  have htot : (writtenChunk state fmt tsField msg extended piece).totalHeaderLen =
      (writeBasicHeader fmt msg.chunkStreamId ++ writeMessageHeader fmt tsField msg ++
          writeExtended extended).length := by
    simp only [writtenChunk, writtenHeader, length_append, length_writeMessageHeader]
  rw [← drop_drop, hby, htot, drop_left]
  exact ⟨take_left, drop_left⟩

end Read

end RtmpCore.Chunk
