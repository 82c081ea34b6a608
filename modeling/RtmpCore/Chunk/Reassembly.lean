import RtmpCore.Chunk.Machine
import RtmpCore.Chunk.WireFormat

/-!
# Reassembling a written message

The chunks the encoder cuts a payload into, met one after another at the front
of the decoder's buffer, complete the message and leave the bytes behind it.
-/

namespace RtmpCore.Chunk

open Incremental List AList

/-! ## One chunk -/

section Chunk

variable {cfg : ChunkDecoderConfig} {d opened : DecoderState}
  {state : ChunkStreamState} {fmt : UInt8} {tsField : UInt32}
  {msg : RtmpMessage} {extended : Option UInt32} {piece : Bytes}

theorem Readable.attempt (h : Readable cfg opened.inputChunkSize state fmt tsField msg extended
      piece)
    (hopen : openStream cfg d (writtenHeader fmt msg.chunkStreamId) = .ok (opened, state))
    (rest : Bytes) :
    decoderAttempt cfg d (writeChunk fmt tsField msg extended piece ++ rest) =
      commitAttempt (commitPayload cfg opened msg.chunkStreamId state
          (writtenChunk state fmt tsField msg extended piece) piece)
        rest := by
  have hread : readBasicHeader (writeChunk fmt tsField msg extended piece ++ rest) =
        some (writtenHeader fmt msg.chunkStreamId) := by
    rw [writeChunk, append_assoc]
    exact readBasicHeader_write h.fmt_lt h.csid_min h.csid_max _
  have hlen : (writtenHeader fmt msg.chunkStreamId).len +
      messageHeaderLen (writtenHeader fmt msg.chunkStreamId).fmt ≤
        (writeChunk fmt tsField msg extended piece ++ rest).length := by
    simp only [writeChunk, writtenHeader, length_append, length_writeMessageHeader]
    omega
  obtain ⟨hpiece, hrest⟩ := writtenChunk_piece state fmt tsField msg extended piece rest
  rw [decoderAttempt_opened ⟨hread, hlen⟩ hopen, h.resolveChunk rest]
  change commitAttempt (commitPayload cfg opened msg.chunkStreamId state _
    (((writeChunk fmt tsField msg extended piece ++ rest).drop _).take
      piece.length)) ((writeChunk fmt tsField msg extended piece ++
        rest).drop (_ + piece.length)) = _
  rw [hpiece, hrest]

end Chunk

/-- Append payload bytes to the message in progress on a chunk stream. -/
def DecoderState.append (d : DecoderState) (csid : UInt32)
    (state : ChunkStreamState) (bytes : Bytes) : DecoderState :=
  { d with
    bufferedPayloadBytes := d.bufferedPayloadBytes + UInt64.ofNat bytes.length
    streams := d.streams.insert csid (state.appendPayload bytes) }

theorem DecoderState.append_append (d : DecoderState) (csid : UInt32)
    (state : ChunkStreamState) (x y : Bytes) :
    (d.append csid state x).append csid (state.appendPayload x) y =
      d.append csid state (x ++ y) := by
  simp only [DecoderState.append, ChunkStreamState.appendPayload,
    insert_insert, append_assoc, length_append, UInt64.ofNat_add, Nat.sub_sub, UInt64.add_assoc]

/-- The state in which a message has been handed over, and the calls made. -/
def completed (cfg : ChunkDecoderConfig) (d : DecoderState) (csid : UInt32)
    (state : ChunkStreamState) (payload : Bytes) : DecoderState × List DecoderEvent :=
  handleCompleteMessage cfg (d.append csid state payload) csid (state.appendPayload payload)

theorem completed_append (cfg : ChunkDecoderConfig) (d : DecoderState)
    (csid : UInt32) (state : ChunkStreamState) (x y : Bytes) :
    completed cfg (d.append csid state x) csid (state.appendPayload x) y =
      completed cfg d csid state (x ++ y) := by
  have hst : (state.appendPayload x).appendPayload y = state.appendPayload (x ++ y) := by
    simp [ChunkStreamState.appendPayload, Nat.sub_sub]
  rw [completed, completed, DecoderState.append_append, hst]

theorem commitAttempt_of_running {result : DecodeResult} {d : DecoderState}
    {evs : List DecoderEvent} (h : d.failed = false) (rest : Bytes) :
    commitAttempt (result, d, evs) rest = .consumed d rest evs := by
  simp [commitAttempt, h]

section Commit

variable {cfg : ChunkDecoderConfig} {d : DecoderState} {csid : UInt32}
  {state base : ChunkStreamState} {chunk : ResolvedChunk} {piece : Bytes}

/-- Room for further payload bytes under the connection's limit. -/
def DecoderState.HasRoom (cfg : ChunkDecoderConfig) (d : DecoderState) (bytes : ℕ) : Prop :=
  d.bufferedPayloadBytes.toNat + bytes ≤ cfg.limits.maxBufferedPayloadBytes.toNat

theorem DecoderState.HasRoom.append {bytes : Bytes} {more : ℕ}
    (h : d.HasRoom cfg (bytes.length + more)) : (d.append csid state bytes).HasRoom cfg more := by
  unfold DecoderState.HasRoom at *
  have hlim := cfg.limits.maxBufferedPayloadBytes.toNat_lt
  have hsize : (UInt64.ofNat bytes.length).toNat = bytes.length :=
    UInt64.toNat_ofNat_of_lt (by unfold UInt64.size; omega)
  have hsum : (d.append csid state bytes).bufferedPayloadBytes.toNat =
      d.bufferedPayloadBytes.toNat + bytes.length := by
    rw [DecoderState.append, UInt64.toNat_add, hsize, Nat.mod_eq_of_lt (by omega)]
  omega

theorem commitPayload_eq (hstor : d.storePayload csid state chunk piece = d.append csid base piece)
    (hcom : state.commit chunk piece = base.appendPayload piece)
    (hroom : d.HasRoom cfg piece.length) : commitPayload cfg d csid state chunk piece =
      if (base.appendPayload piece).bytesRemaining = 0 then
        (.consumed, completed cfg d csid base piece)
      else (.consumed, d.append csid base piece, []) := by
  have hlim : ¬(0 < chunk.payloadSlice ∧ cfg.limits.maxBufferedPayloadBytes <
        (d.append csid base piece).bufferedPayloadBytes) := by
    rintro ⟨-, hlt⟩
    have hroom' : (d.append csid base piece).HasRoom cfg 0 :=
      DecoderState.HasRoom.append (by simpa using hroom)
    have hlt' := UInt64.lt_iff_toNat_lt.mp hlt
    unfold DecoderState.HasRoom at hroom'
    omega
  unfold commitPayload completed
  simp only [hstor, hcom, if_neg hlim]

theorem storePayload_continue (d : DecoderState) (csid : UInt32)
    (hchunk : chunk.startingNewMessage = false) (hslice : chunk.payloadSlice = piece.length) :
    d.storePayload csid state chunk piece = d.append csid state piece ∧
      state.commit chunk piece = state.appendPayload piece := by
  simp [DecoderState.storePayload, DecoderState.append, ChunkStreamState.commit,
    ChunkStreamState.beginMessage, hchunk, hslice]

theorem storePayload_start (d : DecoderState) (csid : UInt32)
    (hslice : chunk.payloadSlice = piece.length) (hidle : state.partialPayload = []) :
    d.storePayload csid state chunk piece = d.append csid (state.beginMessage chunk) piece ∧
      state.commit chunk piece = (state.beginMessage chunk).appendPayload piece := by
  simp [DecoderState.storePayload, DecoderState.append, ChunkStreamState.commit, hslice, hidle]

end Commit

/-! ## The pieces of a message -/

section Pieces

variable {cfg : ChunkDecoderConfig} {msg : RtmpMessage} {extended : Option UInt32}

theorem continuationChunks_nil (header : Bytes) (chunkSize fuel : ℕ) :
    continuationChunks header chunkSize fuel [] = [] := by
  cases fuel with
  | zero => rfl
  | succ fuel => simp [continuationChunks]

theorem writeChunk_continuation (piece : Bytes) : writeChunk 3 0 msg extended piece =
      writeBasicHeader 3 msg.chunkStreamId ++ writeExtended extended ++ piece := by
  simp [writeChunk, writeMessageHeader]

/-- Decode further bytes after a message has been handed over. -/
def drainAfter (cfg : ChunkDecoderConfig) (done : DecoderState × List DecoderEvent) (tail : Bytes) :
    Config DecoderState UInt8 × List DecoderEvent :=
  ((drain (decoderMachine cfg) done.1 tail).1, done.2 ++ (drain (decoderMachine cfg) done.1 tail).2)

variable {d : DecoderState} {csid : UInt32} {base state : ChunkStreamState} {rest : Bytes}

/-- One piece of a payload: it completes the message, or the pieces behind it
do. -/
theorem drain_piece {before : DecoderState} {bytes more tail : Bytes}
    (hatt : decoderAttempt cfg before bytes =
      commitAttempt (if (base.appendPayload (rest.take d.inputChunkSize)).bytesRemaining = 0
          then (.consumed, completed cfg d csid base (rest.take d.inputChunkSize))
          else (.consumed, d.append csid base (rest.take d.inputChunkSize), []))
        more)
    (hrun : d.failed = false)
    (hrem : base.bytesRemaining = rest.length)
    (hdone : (completed cfg d csid base rest).1.failed = false)
    (hlast : rest.length ≤ d.inputChunkSize → more = tail)
    (hmore : d.inputChunkSize < rest.length → drain (decoderMachine cfg)
          (d.append csid base (rest.take d.inputChunkSize)) more =
        drainAfter cfg (completed cfg (d.append csid base (rest.take d.inputChunkSize)) csid
            (base.appendPayload (rest.take d.inputChunkSize))
            (rest.drop d.inputChunkSize)) tail) :
    drain (decoderMachine cfg) before bytes =
      drainAfter cfg (completed cfg d csid base rest) tail := by
  by_cases hlen : rest.length ≤ d.inputChunkSize
  · rw [take_of_length_le hlen, if_pos (by simp [ChunkStreamState.appendPayload, hrem]),
      commitAttempt_of_running hdone, hlast hlen] at hatt
    exact drain_of_consumed hatt
  · have hopen : ¬(base.appendPayload (rest.take d.inputChunkSize)).bytesRemaining = 0 := by
      simp [ChunkStreamState.appendPayload]
      omega
    rw [if_neg hopen, commitAttempt_of_running
      (show (d.append _ _ _).failed = false from hrun)] at hatt
    have hnext := hmore (by omega)
    rw [completed_append, take_append_drop] at hnext
    rw [drain_of_consumed (M := decoderMachine cfg) hatt]
    exact hnext

theorem HasRoom_take (n : ℕ)
    (h : d.HasRoom cfg rest.length) : d.HasRoom cfg (rest.take n).length := by
  unfold DecoderState.HasRoom at *
  rw [length_take]
  omega

theorem HasRoom_drop (n : ℕ) (h : d.HasRoom cfg rest.length) :
    (d.append csid base (rest.take n)).HasRoom cfg (rest.drop n).length := by
  apply DecoderState.HasRoom.append
  rw [← length_append, take_append_drop]
  exact h

theorem drain_continuationChunks (fuel : ℕ) (tail : Bytes) (hmin : 2 ≤ msg.chunkStreamId.toNat)
    (hmax : msg.chunkStreamId.toNat ≤ 65599) (hlength : msg.payload.length < 2 ^ 24)
    (hrun : d.failed = false) (hsize : 0 < d.inputChunkSize)
    (hlook : d.streams.lookup msg.chunkStreamId = some state) (hhdr : state.hasHeader = true)
    (hext : extended.isSome = state.extendedTimestamp)
    (hrem : state.bytesRemaining = rest.length) (hrest : rest ≠ [])
    (hfuel : rest.length ≤ fuel) (hroom : d.HasRoom cfg rest.length)
    (hdone : (completed cfg d msg.chunkStreamId state rest).1.failed = false) :
    drain (decoderMachine cfg) d (continuationChunks
          (writeBasicHeader 3 msg.chunkStreamId ++ writeExtended extended)
          d.inputChunkSize fuel rest ++ tail) =
      drainAfter cfg (completed cfg d msg.chunkStreamId state rest)
        tail := by
  have hpos := length_pos_iff.mpr hrest
  induction fuel generalizing d state rest with
  | zero => omega
  | succ fuel ih =>
    have hprog : state.inProgress = true := by simp [ChunkStreamState.inProgress, hhdr, hrem, hpos]
    have hread : Readable cfg d.inputChunkSize state 3 0 msg extended
        (rest.take d.inputChunkSize) :=
      { fmt_lt := by decide
        csid_min := hmin
        csid_max := hmax
        ts_lt := fun h => absurd rfl h
        length_lt := hlength
        extended_iff := by simpa using hext
        continues := fun _ => rfl
        length_le := by simp [hprog]
        piece_length := by simp [hprog, hrem, Nat.min_comm] }
    have hopen : openStream cfg d (writtenHeader 3 msg.chunkStreamId) = .ok (d, state) := by
      simp [openStream, writtenHeader, hlook]
    have hcont : (writtenChunk state 3 0 msg extended
        (rest.take d.inputChunkSize)).startingNewMessage = false := by
      simp [writtenChunk, hprog]
    obtain ⟨hstor, hcom⟩ := storePayload_continue d msg.chunkStreamId hcont rfl
    have hatt := hread.attempt hopen (continuationChunks
        (writeBasicHeader 3 msg.chunkStreamId ++ writeExtended extended)
        d.inputChunkSize fuel (rest.drop d.inputChunkSize) ++ tail)
    rw [commitPayload_eq hstor hcom (HasRoom_take _ hroom), writeChunk_continuation] at hatt
    simp only [continuationChunks, if_neg hrest, append_assoc] at hatt ⊢
    refine drain_piece hatt hrun hrem hdone ?_ ?_
    · intro hlast
      rw [drop_eq_nil_of_le hlast, continuationChunks_nil, nil_append]
    · intro hmore
      have hlen : (rest.drop d.inputChunkSize).length =
          rest.length - d.inputChunkSize := length_drop
      refine ih hrun hsize (lookup_insert _) hhdr hext ?_ ?_
        (by omega) (HasRoom_drop _ hroom) ?_ (by omega)
      · simp [ChunkStreamState.appendPayload]
        omega
      · simpa using hmore
      · rw [completed_append, take_append_drop]
        exact hdone

/-- All chunks of a message: the first one starts it on an idle entry. -/
theorem drain_writePayload {opened : DecoderState} {fmt : UInt8} {tsField : UInt32} (tail : Bytes)
    (hread : Readable cfg opened.inputChunkSize state fmt tsField msg
      extended (msg.payload.take opened.inputChunkSize))
    (hopen : openStream cfg d (writtenHeader fmt msg.chunkStreamId) = .ok (opened, state))
    (hrun : opened.failed = false) (hsize : 0 < opened.inputChunkSize)
    (hidle : state.inProgress = false) (hemp : state.partialPayload = [])
    (hlength : writtenLength state fmt msg = msg.payload.length)
    (hroom : opened.HasRoom cfg msg.payload.length)
    {begun : ChunkStreamState}
    (hbegun : begun = state.beginMessage (writtenChunk state fmt tsField msg extended
        (msg.payload.take opened.inputChunkSize)))
    (hdone : (completed cfg opened msg.chunkStreamId begun msg.payload).1.failed = false) :
    drain (decoderMachine cfg) d (writeBasicHeader fmt msg.chunkStreamId ++
          (writeMessageHeader fmt tsField msg ++ (writeExtended extended ++
              writePayload (writeBasicHeader 3 msg.chunkStreamId ++
                writeExtended extended) opened.inputChunkSize
                msg.payload)) ++ tail) =
      drainAfter cfg (completed cfg opened msg.chunkStreamId begun msg.payload) tail := by
  have hslice : (writtenChunk state fmt tsField msg extended (msg.payload.take
      opened.inputChunkSize)).payloadSlice = _ := rfl
  obtain ⟨hstor, hcom⟩ := storePayload_start opened msg.chunkStreamId hslice hemp
  rw [← hbegun] at hstor hcom
  have hhdr : begun.hasHeader = true ∧ begun.bytesRemaining = msg.payload.length ∧
      begun.extendedTimestamp = extended.isSome := by
    simp [hbegun, ChunkStreamState.beginMessage, writtenChunk, hidle, hlength]
  obtain ⟨hhas, hrem, hext⟩ := hhdr
  have hatt := hread.attempt hopen (continuationChunks (writeBasicHeader 3 msg.chunkStreamId ++
      writeExtended extended) opened.inputChunkSize msg.payload.length
      (msg.payload.drop opened.inputChunkSize) ++ tail)
  rw [commitPayload_eq hstor hcom (HasRoom_take _ hroom)] at hatt
  simp only [writeChunk, writePayload, append_assoc] at hatt ⊢
  refine drain_piece hatt hrun hrem hdone ?_ ?_
  · intro hlast
    rw [drop_eq_nil_of_le hlast, continuationChunks_nil, nil_append]
  · intro hmore
    have hlen : (msg.payload.drop opened.inputChunkSize).length =
        msg.payload.length - opened.inputChunkSize := length_drop
    refine drain_continuationChunks msg.payload.length tail
      hread.csid_min hread.csid_max hread.length_lt hrun hsize
      (lookup_insert _) hhas hext.symm ?_ ?_ (by omega)
      (HasRoom_drop _ hroom) ?_
    · simp [ChunkStreamState.appendPayload]
      omega
    · simpa using hmore
    · rw [completed_append, take_append_drop]
      exact hdone

end Pieces

end RtmpCore.Chunk
