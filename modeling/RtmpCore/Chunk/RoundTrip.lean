import RtmpCore.Chunk.Reassembly
import RtmpCore.Support.Table

/-!
# Encoding and decoding a run of messages

Encoder and decoder keep the last header of each chunk stream.  As long as the
two agree, every header form the encoder picks is completed by the decoder to
the header that was meant, and after the message they agree again.

There is one exception.  A type 3 header that follows a type 0 header with an
extended timestamp repeats the absolute timestamp, which the decoder takes for
a delta; `ReusesDelta` says that a message is not written that way.
-/

namespace RtmpCore.Chunk

open RtmpCore.Core Incremental Table List AList

/-- The two sides remember the same header, and the decoder is between
messages. -/
structure Agrees (e : EncoderStreamState) (s : ChunkStreamState) : Prop where
  timestamp : s.timestamp = e.timestamp
  timestampDelta : s.timestampDelta = e.timestampDelta
  messageLength : s.messageLength = e.messageLength.toNat
  messageTypeId : s.messageTypeId = e.messageTypeId
  messageStreamId : s.messageStreamId = e.messageStreamId
  extendedTimestamp : s.extendedTimestamp = e.extendedTimestamp
  empty : s.partialPayload = []
  done : s.bytesRemaining = 0

theorem agrees_fresh : Agrees {} {} := ⟨rfl, rfl, rfl, rfl, rfl, rfl, rfl, rfl⟩

variable (e : EncoderStreamState) (plan : HeaderPlan) (message : RtmpMessage)

/-- A type 3 header with an extended timestamp repeats a delta. -/
def ReusesDelta : Prop :=
  chooseFmt e message = 3 → e.extendedTimestamp = true → e.extendedValue = e.timestampDelta
deriving Decidable

/-! ## The header that was meant -/

/-- The forms of the next header, and what each leaves out. -/
inductive Planned (e : EncoderStreamState) (message : RtmpMessage) : HeaderPlan → Prop
  | whole : Planned e message
      ⟨0, 0, decide (kExtendedTimestampMarker ≤ message.timestamp), message.timestamp⟩
  | sameStream (delta : UInt32) (hdelta : delta = message.timestamp - e.timestamp)
      (hstr : message.messageStreamId = e.messageStreamId) :
      Planned e message ⟨1, delta, decide (kExtendedTimestampMarker ≤ delta), delta⟩
  | sameShape (delta : UInt32) (hdelta : delta = message.timestamp - e.timestamp)
      (hstr : message.messageStreamId = e.messageStreamId)
      (hlen : message.payload.length = e.messageLength.toNat)
      (htype : message.messageTypeId = e.messageTypeId) :
      Planned e message ⟨2, delta, decide (kExtendedTimestampMarker ≤ delta), delta⟩
  | sameDelta (hdelta : e.timestampDelta = message.timestamp - e.timestamp)
      (hstr : message.messageStreamId = e.messageStreamId)
      (hlen : message.payload.length = e.messageLength.toNat)
      (htype : message.messageTypeId = e.messageTypeId) (hfmt : chooseFmt e message = 3) :
      Planned e message ⟨3, e.timestampDelta, e.extendedTimestamp, e.extendedValue⟩

theorem planned : Planned e message (planHeader e message) := by
  unfold planHeader
  by_cases hzero : e.hasHeader = false ∨ message.messageStreamId ≠ e.messageStreamId ∨
      (e.hasHeader && decide (e.timestamp ≤ message.timestamp)) = false
  · have hfmt : chooseFmt e message = 0 := if_pos hzero
    simpa [hfmt] using .whole
  · have hstr : message.messageStreamId = e.messageStreamId := by simp_all
    by_cases hone : message.payload.length ≠ e.messageLength.toNat ∨
        message.messageTypeId ≠ e.messageTypeId
    · have hfmt : chooseFmt e message = 1 := by simp only [chooseFmt, if_neg hzero, if_pos hone]
      simpa [hfmt] using .sameStream _ rfl hstr
    · obtain ⟨hlen, htype⟩ := not_or.mp hone
      by_cases htwo : message.timestamp - e.timestamp ≠ e.timestampDelta
      · have hfmt : chooseFmt e message = 2 := by
          simp only [chooseFmt, if_neg hzero, if_neg hone, if_pos htwo]
        simpa [hfmt] using .sameShape _ rfl hstr (not_not.mp hlen) (not_not.mp htype)
      · have hfmt : chooseFmt e message = 3 := by
          simp only [chooseFmt, if_neg hzero, if_neg hone, if_neg htwo]
        have hdelta := not_not.mp htwo
        simpa [hfmt, hdelta] using
          Planned.sameDelta hdelta.symm hstr (not_not.mp hlen) (not_not.mp htype) hfmt

/-- A value that does not fit the 24-bit field is replaced by the marker, and no
other value is. -/
theorem marker_or_value (value : UInt32) : (if kExtendedTimestampMarker ≤ value then
        kExtendedTimestampMarker else value).toNat < 2 ^ 24 ∧
      ((if kExtendedTimestampMarker ≤ value then kExtendedTimestampMarker else value) ==
        kExtendedTimestampMarker) = decide (kExtendedTimestampMarker ≤ value) := by
  by_cases h : kExtendedTimestampMarker ≤ value
  · simp only [h, if_true]
    decide
  · have hlt : value.toNat < kExtendedTimestampMarker.toNat :=
      UInt32.lt_iff_toNat_lt.mp (UInt32.not_le.mp h)
    have hne : value ≠ kExtendedTimestampMarker := by
      rintro rfl
      exact absurd hlt (Nat.lt_irrefl _)
    have hmark : kExtendedTimestampMarker.toNat < 2 ^ 24 := by decide
    simp only [h, decide_false, if_false, beq_eq_false_iff_ne]
    exact ⟨by omega, hne⟩

/-- The extended timestamp of a plan, if it is written. -/
def HeaderPlan.extended : Option UInt32 :=
  if plan.extendedActive then some plan.extendedValue else none

theorem HeaderPlan.writeExtended_extended : writeExtended plan.extended = plan.extendedField := by
  unfold HeaderPlan.extended HeaderPlan.extendedField
  split <;> rfl

theorem HeaderPlan.isSome_extended : plan.extended.isSome = plan.extendedActive := by
  unfold HeaderPlan.extended
  cases plan.extendedActive <;> rfl

/-- The entry of a decoder that has completed the planned header. -/
def HeaderPlan.begun : ChunkStreamState :=
  { hasHeader := true
    timestamp := message.timestamp
    timestampDelta := if plan.fmt = 0 then 0 else plan.delta
    messageLength := message.payload.length
    messageTypeId := message.messageTypeId
    messageStreamId := message.messageStreamId
    extendedTimestamp := plan.extendedActive
    bytesRemaining := message.payload.length
    messageTimestamp := message.timestamp }

section Plan

variable {e : EncoderStreamState} {s : ChunkStreamState} {plan : HeaderPlan}
  {message : RtmpMessage} {cfg : ChunkDecoderConfig}

theorem Planned.tsField_marker (hplan : Planned e message plan) (h : plan.fmt ≠ 3) :
    (plan.tsField message).toNat < 2 ^ 24 ∧
      (plan.tsField message == kExtendedTimestampMarker) = plan.extendedActive := by
  cases hplan with
  | whole => simpa [HeaderPlan.tsField] using marker_or_value message.timestamp
  | sameStream delta | sameShape delta => simpa [HeaderPlan.tsField] using marker_or_value delta
  | sameDelta => exact absurd rfl h

theorem Agrees.idle (h : Agrees e s) : s.inProgress = false := by
  simp [ChunkStreamState.inProgress, h.done]

theorem Agrees.writtenLength (h : Agrees e s) (hplan : Planned e message plan) :
    writtenLength s plan.fmt message = message.payload.length := by
  unfold Chunk.writtenLength
  cases hplan with
  | whole | sameStream => simp
  | sameShape _ _ _ hlen | sameDelta _ _ hlen => simp [h.messageLength, hlen]

/-- The delta the decoder applies is the one the encoder recorded. -/
theorem Agrees.effectiveDelta (h : Agrees e s) (hplan : Planned e message plan)
    (hreuse : ReusesDelta e message) (csid : UInt32) :
    effectiveDelta s (writtenHeader plan.fmt csid) plan.extendedActive (plan.extended.getD 0)
        (plan.tsField message) =
      if plan.fmt = 0 then 0 else plan.delta := by
  cases hplan with
  | whole => simp [Chunk.effectiveDelta, writtenHeader]
  | sameStream delta | sameShape delta =>
    by_cases hact : kExtendedTimestampMarker ≤ delta <;>
      simp [Chunk.effectiveDelta, writtenHeader, HeaderPlan.extended, HeaderPlan.tsField, hact]
  | sameDelta _ _ _ _ hfmt =>
    cases hact : e.extendedTimestamp with
    | true => simp [Chunk.effectiveDelta, writtenHeader, HeaderPlan.extended, hreuse hfmt hact]
    | false => simp [Chunk.effectiveDelta, writtenHeader, h.timestampDelta]

theorem Agrees.effectiveTimestamp (h : Agrees e s) (hplan : Planned e message plan)
    (hreuse : ReusesDelta e message) (csid : UInt32) :
    effectiveTimestamp s (writtenHeader plan.fmt csid) plan.extendedActive (plan.extended.getD 0)
        (plan.tsField message) =
      message.timestamp := by
  have hback : e.timestamp + (message.timestamp - e.timestamp) = message.timestamp := by
    rw [UInt32.add_comm, UInt32.sub_add_cancel]
  rw [Chunk.effectiveTimestamp, h.effectiveDelta hplan hreuse]
  cases hplan with
  | whole =>
    by_cases hact : kExtendedTimestampMarker ≤ message.timestamp <;>
      simp [writtenHeader, HeaderPlan.extended, HeaderPlan.tsField, hact]
  | sameStream _ hdelta | sameShape _ hdelta | sameDelta hdelta =>
    simp [writtenHeader, h.timestamp, hdelta, hback]

theorem Agrees.inherited (h : Agrees e s) (hplan : Planned e message plan) :
    (if plan.fmt = 0 ∨ plan.fmt = 1 then message.messageTypeId else s.messageTypeId) =
        message.messageTypeId ∧
      (if plan.fmt = 0 then message.messageStreamId else s.messageStreamId) =
        message.messageStreamId := by
  cases hplan with
  | whole => simp
  | sameStream _ _ hstr => simp [h.messageStreamId, hstr]
  | sameShape _ _ hstr _ htype | sameDelta _ hstr _ htype =>
    simp [h.messageStreamId, hstr, h.messageTypeId, htype]

theorem Agrees.beginMessage (h : Agrees e s) (hplan : Planned e message plan)
    (hreuse : ReusesDelta e message) (piece : Bytes) :
    s.beginMessage (writtenChunk s plan.fmt (plan.tsField message) message plan.extended piece) =
      plan.begun message := by
  have hdelta := h.effectiveDelta hplan hreuse message.chunkStreamId
  have htimestamp := h.effectiveTimestamp hplan hreuse message.chunkStreamId
  have hlen := h.writtenLength hplan
  obtain ⟨htype, hstr⟩ := h.inherited hplan
  simp [ChunkStreamState.beginMessage, writtenChunk, h.idle, hlen, htype,
    hstr, HeaderPlan.isSome_extended, hdelta, htimestamp, HeaderPlan.begun]

/-- The first chunk of a message is readable where the two sides agree. -/
theorem Agrees.readable (h : Agrees e s) (hplan : Planned e message plan) {inputChunkSize : ℕ}
    (hmin : 2 ≤ message.chunkStreamId.toNat) (hmax : message.chunkStreamId.toNat ≤ 65599)
    (hlen : message.payload.length < 2 ^ 24)
    (hsize : message.payload.length ≤ cfg.maxMessageSize.toNat) :
    Readable cfg inputChunkSize s plan.fmt (plan.tsField message) message plan.extended
      (message.payload.take inputChunkSize) where
  fmt_lt := by cases hplan <;> dsimp only <;> decide
  csid_min := hmin
  csid_max := hmax
  ts_lt := fun hfmt => (hplan.tsField_marker hfmt).1
  length_lt := hlen
  extended_iff := by
    rw [HeaderPlan.isSome_extended]
    by_cases hfmt : plan.fmt = 3
    · rw [h.extendedTimestamp]
      cases hplan <;> simp at hfmt ⊢
    · rw [if_neg hfmt, (hplan.tsField_marker hfmt).2]
  continues := by simp [h.idle]
  length_le := fun _ => by rw [h.writtenLength hplan]; exact hsize
  piece_length := by simp [h.idle, h.writtenLength hplan, Nat.min_comm]

end Plan

/-! ## Runs -/

/-- Encoder and decoder between two messages, on chunk streams out of `ids`. -/
structure Linked (ids : Finset UInt32) (enc : ChunkEncoder) (d : DecoderState) : Prop where
  agrees : ∀ csid, Option.Rel Agrees (enc.streams.lookup csid) (d.streams.lookup csid)
  running : d.failed = false
  drained : d.bufferedPayloadBytes = 0
  keys : ∀ csid ∈ d.streams.keys, csid ∈ ids

/-- A message within the limits of the header format and of the decoder. -/
structure Sendable (cfg : ChunkDecoderConfig) (message : RtmpMessage) : Prop where
  csid_min : 2 ≤ message.chunkStreamId.toNat
  csid_max : message.chunkStreamId.toNat ≤ 65599
  length_lt : message.payload.length < 2 ^ 24
  length_le : message.payload.length ≤ cfg.maxMessageSize.toNat
  fits : message.payload.length ≤ cfg.limits.maxBufferedPayloadBytes.toNat

/-- The header the encoder will write next to `message`'s chunk stream. -/
def ChunkEncoder.entry (enc : ChunkEncoder) (message : RtmpMessage) : EncoderStreamState :=
  (enc.streams.lookup message.chunkStreamId).getD {}

/-- The header that the encoder plans for `message`. -/
def ChunkEncoder.nextPlan (enc : ChunkEncoder) (message : RtmpMessage) : HeaderPlan :=
  planHeader (enc.entry message) message

theorem linked_initial (ids : Finset UInt32) (enc : ChunkEncoder)
    (h : enc.streams = ∅) : Linked ids enc {} where
  agrees := by
    intro csid
    rw [h]
    exact Option.Rel.none
  running := rfl
  drained := rfl
  keys := by
    intro csid hcsid
    cases hcsid

section Step

variable {cfg : ChunkDecoderConfig} {ids : Finset UInt32} {enc : ChunkEncoder}
  {d : DecoderState} {message : RtmpMessage}

/-- A key outside a table that only has keys out of `ids` leaves room for it. -/
theorem length_keys_lt {t : ChunkStreamTable} {csid : UInt32}
    (hkeys : ∀ csid ∈ t.keys, csid ∈ ids) (hid : csid ∈ ids)
    (hnew : t.lookup csid = none) : t.keys.length < ids.card := by
  have hnot : csid ∉ t.keys := fun hmem => lookup_eq_none.mp hnew hmem
  have hssub : t.keys.toFinset ⊂ ids := by
    refine (Finset.ssubset_iff_of_subset ?_).mpr ⟨csid, hid, by simpa using hnot⟩
    intro k hk
    exact hkeys k (mem_toFinset.mp hk)
  rw [← toFinset_card_of_nodup t.keys_nodup]
  exact Finset.card_lt_card hssub

/-- The entry for the next message is found, or created for a type 0 header. -/
theorem Linked.openStream (h : Linked ids enc d) (message : RtmpMessage)
    (hid : message.chunkStreamId ∈ ids) (hcard : ids.card ≤ cfg.limits.maxChunkStreams.toNat) :
    ∃ streams s, openStream cfg d (writtenHeader (enc.nextPlan message).fmt
            message.chunkStreamId) =
        .ok ({ d with streams }, s) ∧
      Agrees (enc.entry message) s ∧
      ∀ entry, streams.insert message.chunkStreamId entry =
        d.streams.insert message.chunkStreamId entry := by
  have hrel := h.agrees message.chunkStreamId
  unfold ChunkEncoder.nextPlan ChunkEncoder.entry
  generalize hlook : enc.streams.lookup message.chunkStreamId = found at hrel
  generalize hlook' : d.streams.lookup message.chunkStreamId = found' at hrel
  cases hrel with
  | none =>
    have hroom := length_keys_lt h.keys hid hlook'
    have hfmt : (planHeader {} message).fmt = 0 := by simp [planHeader, chooseFmt]
    refine ⟨d.streams.insert message.chunkStreamId {}, {}, ?_, agrees_fresh,
      fun entry => insert_insert _⟩
    simp only [Chunk.openStream, writtenHeader, hlook', Option.getD_none, hfmt]
    rw [if_neg (by simp), if_neg (by omega)]
  | some hagr =>
    rename_i e s
    refine ⟨d.streams, s, ?_, hagr, fun entry => rfl⟩
    simp [Chunk.openStream, writtenHeader, hlook']

/-- The decoder after a message of the planned header, before the message has
any effect. -/
def DecoderState.endMessage (d : DecoderState) (plan : HeaderPlan)
    (message : RtmpMessage) : DecoderState :=
  { d with
    streams := d.streams.insert message.chunkStreamId
      { plan.begun message with bytesRemaining := 0 } }

theorem completed_eq_deliver (cfg : ChunkDecoderConfig)
    {streams : ChunkStreamTable} (plan : HeaderPlan)
    (hinsert : ∀ entry, streams.insert message.chunkStreamId entry =
      d.streams.insert message.chunkStreamId entry) :
    completed cfg { d with streams } message.chunkStreamId (plan.begun message) message.payload =
      deliver cfg (d.endMessage plan message) message := by
  have hmsg : ((plan.begun message).appendPayload
      message.payload).completedMessage message.chunkStreamId = message := rfl
  unfold completed handleCompleteMessage
  simp only [hmsg, DecoderState.append, hinsert]
  simp [ChunkStreamState.appendPayload, HeaderPlan.begun, DecoderState.endMessage]

theorem Linked.endMessage (h : Linked ids enc d) (hid : message.chunkStreamId ∈ ids)
    (hlen : message.payload.length < 2 ^ 24) : Linked ids (enc.encodeMessage message).1
      (d.endMessage (enc.nextPlan message) message) where
  agrees := by
    intro csid
    by_cases hcsid : csid = message.chunkStreamId
    · subst hcsid
      have hsize : (UInt32.ofNat message.payload.length).toNat = message.payload.length :=
        UInt32.toNat_ofNat_of_lt (by unfold UInt32.size; omega)
      simp only [ChunkEncoder.encodeMessage, DecoderState.endMessage, lookup_insert]
      exact Option.Rel.some ⟨rfl, rfl, hsize.symm, rfl, rfl, rfl, rfl, rfl⟩
    · simp only [ChunkEncoder.encodeMessage, DecoderState.endMessage, lookup_insert_ne hcsid]
      exact h.agrees csid
  running := h.running
  drained := h.drained
  keys := by
    intro csid hcsid
    rw [← AList.mem_keys, DecoderState.endMessage, mem_insert] at hcsid
    rcases hcsid with rfl | hcsid
    · exact hid
    · exact h.keys csid (AList.mem_keys.mp hcsid)

theorem Linked.drain_encodeMessage (h : Linked ids enc d)
    (hsend : Sendable cfg message) (hid : message.chunkStreamId ∈ ids)
    (hcard : ids.card ≤ cfg.limits.maxChunkStreams.toNat)
    (hreuse : ReusesDelta (enc.entry message) message) (hpos : 0 < d.inputChunkSize)
    (hsize : ∀ header, writePayload header enc.chunkSize.toNat message.payload =
      writePayload header d.inputChunkSize message.payload)
    (hdone : (deliver cfg (d.endMessage (enc.nextPlan message) message)
      message).1.failed = false)
    (tail : Bytes) :
    drain (decoderMachine cfg) d ((enc.encodeMessage message).2 ++ tail) = drainAfter cfg
        (deliver cfg
          (d.endMessage (enc.nextPlan message) message) message) tail := by
  obtain ⟨streams, s, hopen, hagr, hinsert⟩ := h.openStream message hid hcard
  have hplan : Planned _ _ (enc.nextPlan message) := planned (enc.entry message) message
  have hcompleted := completed_eq_deliver cfg (enc.nextPlan message) hinsert
  rw [← hcompleted] at hdone ⊢
  have hroom : DecoderState.HasRoom cfg { d with streams }
      message.payload.length := by
    simpa [DecoderState.HasRoom, h.drained] using hsend.fits
  have hdrain := drain_writePayload (d := d) tail
    (hagr.readable hplan hsend.csid_min hsend.csid_max hsend.length_lt
      hsend.length_le) hopen h.running hpos hagr.idle hagr.empty
    (hagr.writtenLength hplan) hroom (hagr.beginMessage hplan hreuse _).symm hdone
  rw [HeaderPlan.writeExtended_extended] at hdrain
  rw [← hdrain]
  simp only [ChunkEncoder.encodeMessage, hsize]
  rfl

end Step

/-- Along the run no type 3 header repeats an absolute timestamp. -/
def ChunkEncoder.ReusesDeltas (enc : ChunkEncoder) : List RtmpMessage → Prop
  | [] => True
  | message :: rest =>
    ReusesDelta (enc.entry message) message ∧ (enc.encodeMessage message).1.ReusesDeltas rest

variable {cfg : ChunkDecoderConfig} {chunkSize : UInt32}

theorem Linked.drain_encodeMessages {ids : Finset UInt32} {enc : ChunkEncoder} {d : DecoderState}
    {msgs : List RtmpMessage} (h : Linked ids enc d)
    (hcard : ids.card ≤ cfg.limits.maxChunkStreams.toNat)
    (hsize : d.inputChunkSize = enc.chunkSize.toNat)
    (hsend : ∀ message ∈ msgs, Sendable cfg message) (hdlv : ∀ message ∈ msgs, Deliverable message)
    (hids : ∀ message ∈ msgs, message.chunkStreamId ∈ ids) (hreuse : enc.ReusesDeltas msgs) :
    ∃ d', d'.failed = false ∧ drain (decoderMachine cfg) d (enc.encodeMessages msgs).2 =
        (⟨d', [], false⟩, msgs.map .message) := by
  induction msgs generalizing enc d with
  | nil => exact ⟨d, h.running, drain_nil cfg d⟩
  | cons message rest ih =>
    simp only [forall_mem_cons] at hsend hdlv hids
    have hnext := h.endMessage hids.1 hsend.1.length_lt
    obtain ⟨window, hdel⟩ := deliver_of_deliverable cfg
      (d.endMessage (enc.nextPlan message) message)
      hdlv.1
    have hlink : Linked ids (enc.encodeMessage message).1
        { d.endMessage (enc.nextPlan message) message with
          windowAckSize := window } :=
      ⟨hnext.agrees, hnext.running, hnext.drained, hnext.keys⟩
    obtain ⟨d', hrun, hrest⟩ := ih hlink hsize hsend.2 hdlv.2 hids.2 hreuse.2
    have hpos : 0 < d.inputChunkSize := by
      rw [hsize]
      exact UInt32.lt_iff_toNat_lt.mp enc.chunkSize_pos
    have hdrain := h.drain_encodeMessage hsend.1 hids.1 hcard hreuse.1 hpos
      (by simp [hsize]) (by rw [hdel]; exact hnext.running)
      ((enc.encodeMessage message).1.encodeMessages rest).2
    refine ⟨d', hrun, ?_⟩
    rw [ChunkEncoder.encodeMessages, hdrain, hdel, drainAfter, hrest]
    rfl

/-! ## Announcing the chunk size -/

/-- Announce a chunk size, switch to it, and encode the messages. -/
def ChunkEncoder.announceAndEncode (enc : ChunkEncoder) (chunkSize : UInt32)
    (messages : List RtmpMessage) : Bytes :=
  let announcement := enc.encodeSetChunkSize chunkSize
  announcement.2 ++ ((announcement.1.setChunkSize chunkSize).encodeMessages messages).2

theorem readU32BeAt_announced (h : chunkSize.toNat < 2 ^ 31) :
    readU32BeAt (setChunkSizeMessage chunkSize).payload 0 &&& 0x7FFFFFFF = chunkSize := by
  have hmask : chunkSize &&& 0x7FFFFFFF = chunkSize := by
    rw [← UInt32.toNat_inj]
    change chunkSize.toNat &&& (2 ^ 31 - 1) = _
    rw [Nat.and_two_pow_sub_one_eq_mod, Nat.mod_eq_of_lt h]
  have hread := readU32BeAt_write (chunkSize &&& 0x7FFFFFFF) []
  rw [append_nil] at hread
  rw [setChunkSizeMessage, hread, hmask, hmask]

/-- An acceptable announcement sets the input chunk size and is not
delivered. -/
theorem deliver_setChunkSize (d : DecoderState) (hpos : 0 < chunkSize)
    (hmax : chunkSize ≤ cfg.limits.maxChunkSize) (hbits : chunkSize.toNat < 2 ^ 31) :
    deliver cfg d (setChunkSizeMessage chunkSize) =
      ({ d with inputChunkSize := chunkSize.toNat }, []) := by
  have hne : chunkSize ≠ 0 := by
    rintro rfl
    exact absurd hpos (by decide)
  have hstr : ¬(setChunkSizeMessage chunkSize).messageStreamId ≠
      kProtocolControlMessageStreamId := not_not.mpr rfl
  have htype : (setChunkSizeMessage chunkSize).messageTypeId =
      MessageTypeId.setChunkSize.code := rfl
  have hlen : ¬(setChunkSizeMessage chunkSize).payload.length < 4 := by simp [setChunkSizeMessage]
  unfold deliver handleProtocolControl
  rw [if_neg hstr, if_pos htype, if_neg hlen, readU32BeAt_announced hbits]
  simp only [if_neg hne, if_neg (UInt32.not_lt.mpr hmax)]

theorem setChunkSize_of_pos (enc : ChunkEncoder) (h : 0 < chunkSize) :
    (enc.setChunkSize chunkSize).streams = enc.streams ∧
      (enc.setChunkSize chunkSize).chunkSize = chunkSize := by
  simp [ChunkEncoder.setChunkSize, h]

theorem writePayload_one_piece {header payload : Bytes} {chunkSize : ℕ}
    (h : payload.length ≤ chunkSize) : writePayload header chunkSize payload = payload := by
  rw [writePayload, take_of_length_le h, drop_eq_nil_of_le h, continuationChunks_nil, append_nil]

/-- What the decoder's configuration must allow for a chunk size to be
announced to it. -/
structure Announceable (cfg : ChunkDecoderConfig) (chunkSize : UInt32) : Prop where
  pos : 0 < chunkSize
  le_max : chunkSize ≤ cfg.limits.maxChunkSize
  lt_bits : chunkSize.toNat < 2 ^ 31
  message_size : 4 ≤ cfg.maxMessageSize.toNat
  buffered : 4 ≤ cfg.limits.maxBufferedPayloadBytes.toNat

/-- Messages encoded one after another by one encoder, behind the announcement
of its chunk size, are delivered by a fresh decoder as they were. -/
theorem onBytesReceived_announceAndEncode (cfg : ChunkDecoderConfig)
    (enc : ChunkEncoder) (chunkSize : UInt32) (messages : List RtmpMessage)
    (hfresh : enc.streams = ∅) (hwhole : 4 ≤ enc.chunkSize.toNat)
    (hannounce : Announceable cfg chunkSize) (hsend : ∀ message ∈ messages, Sendable cfg message)
    (hdeliver : ∀ message ∈ messages, Deliverable message)
    (hids : (insert kProtocolControlChunkStreamId
      (messages.map RtmpMessage.chunkStreamId).toFinset).card ≤ cfg.limits.maxChunkStreams.toNat)
    (hreuse : ((enc.encodeSetChunkSize chunkSize).1.setChunkSize chunkSize).ReusesDeltas messages) :
    (onBytesReceived cfg {} (enc.announceAndEncode chunkSize messages)).2 = messages.map .message ∧
      (onBytesReceived cfg {} (enc.announceAndEncode chunkSize messages)).1.state.failed = false ∧
      (onBytesReceived cfg {} (enc.announceAndEncode chunkSize messages)).1.buffer = [] := by
  set ids := insert kProtocolControlChunkStreamId
    (messages.map RtmpMessage.chunkStreamId).toFinset
  have hid : kProtocolControlChunkStreamId ∈ ids := Finset.mem_insert_self _ _
  have hlinked := linked_initial ids enc hfresh
  have hcontrol : Sendable cfg (setChunkSizeMessage chunkSize) :=
    ⟨show 2 ≤ kProtocolControlChunkStreamId.toNat by decide,
      show kProtocolControlChunkStreamId.toNat ≤ 65599 by decide,
      by simp [setChunkSizeMessage], hannounce.message_size,
      hannounce.buffered⟩
  have hdelivered := deliver_setChunkSize (DecoderState.endMessage {}
      (enc.nextPlan (setChunkSizeMessage chunkSize)) (setChunkSizeMessage chunkSize))
    hannounce.pos hannounce.le_max hannounce.lt_bits
  -- the announcement fits one chunk on both sides, whatever their sizes are
  have hdrain := hlinked.drain_encodeMessage hcontrol hid hids (by
      intro hfmt
      simp [ChunkEncoder.entry, hfresh, chooseFmt] at hfmt)
    (by decide)
    (by
      intro header
      rw [writePayload_one_piece hwhole,
        writePayload_one_piece (show 4 ≤ kDefaultChunkSize by decide)])
    (by rw [hdelivered]; rfl)
    (((enc.encodeSetChunkSize chunkSize).1.setChunkSize chunkSize).encodeMessages messages).2
  rw [hdelivered] at hdrain
  have hnext := hlinked.endMessage hid hcontrol.length_lt
  obtain ⟨hstreams, hsize⟩ := setChunkSize_of_pos (enc.encodeSetChunkSize chunkSize).1 hannounce.pos
  have hlinked' : Linked ids ((enc.encodeSetChunkSize chunkSize).1.setChunkSize chunkSize)
      { DecoderState.endMessage {} (enc.nextPlan (setChunkSizeMessage chunkSize))
          (setChunkSizeMessage chunkSize) with
        inputChunkSize := chunkSize.toNat } :=
    ⟨by rw [hstreams]; exact hnext.agrees, hnext.running, hnext.drained, hnext.keys⟩
  obtain ⟨d', hrunning, hrest⟩ := hlinked'.drain_encodeMessages hids (by rw [hsize]) hsend hdeliver
    (fun message hmem => Finset.mem_insert_of_mem (mem_toFinset.mpr (mem_map_of_mem hmem))) hreuse
  rw [drainAfter, hrest] at hdrain
  obtain ⟨hconfig, hevents⟩ := onBytesReceived_fresh cfg (enc.announceAndEncode chunkSize messages)
  have hdrain' : drain (decoderMachine cfg) {} (enc.announceAndEncode chunkSize messages) =
        (⟨d', [], false⟩, messages.map .message) := hdrain
  rw [hdrain'] at hconfig hevents
  exact ⟨hevents, (congrArg (fun c => c.state.failed) hconfig).trans hrunning,
    congrArg Config.buffer hconfig⟩

/-- Three messages in chunks of two bytes: absolute extended timestamp, extended
delta, and the same delta again. -/
def extendedRun : List RtmpMessage :=
  [⟨3, 1, 8, 0x1000000, [1, 2, 3]⟩, ⟨3, 1, 8, 0x2000000, [4, 5, 6]⟩,
    ⟨3, 1, 8, 0x3000000, [7, 8, 9]⟩]

theorem onBytesReceived_extendedRun : (onBytesReceived { maxMessageSize := 64 } {}
      (({} : ChunkEncoder).announceAndEncode 2 extendedRun)).2 = extendedRun.map .message := by
  refine (onBytesReceived_announceAndEncode { maxMessageSize := 64 } {} 2
    extendedRun rfl (by decide)
    ⟨by decide, by decide, by decide, by decide, by decide⟩ ?_ ?_ (by decide)
    ⟨by decide, by decide, by decide, trivial⟩).1
  · intro message hmem
    simp only [extendedRun, mem_cons, not_mem_nil, or_false] at hmem
    rcases hmem with rfl | rfl | rfl <;>
      exact ⟨by decide, by decide, by decide, by decide, by decide⟩
  · intro message hmem hstream
    simp only [extendedRun, mem_cons, not_mem_nil, or_false] at hmem
    rcases hmem with rfl | rfl | rfl <;> cases hstream

/-- Each side condition is needed. -/
theorem announceAndEncode_not_delivered : -- a chunk size above the decoder's maximum
    (onBytesReceived { maxMessageSize := 64 } {}
      (({} : ChunkEncoder).announceAndEncode 0x1000000 [])).1.state.failed = true ∧
    -- an encoder that cuts its own announcement
    (onBytesReceived { maxMessageSize := 64 } {}
      (({ chunkSize := 3 } : ChunkEncoder).announceAndEncode 3 [])).1.buffer ≠ [] ∧
    -- a decoder that takes no message of four bytes
    (onBytesReceived { maxMessageSize := 3 } {}
      (({} : ChunkEncoder).announceAndEncode 128 [])).1.state.failed = true ∧
    -- as many chunk streams as there may be, without the announcement's own
    (onBytesReceived { maxMessageSize := 64, limits := { maxChunkStreams := 1 } } {}
      (({} : ChunkEncoder).announceAndEncode 128 [⟨3, 1, 8, 0, []⟩])).1.state.failed = true ∧
    -- a message larger than the reassembly limit
    (onBytesReceived { maxMessageSize := 64, limits := { maxBufferedPayloadBytes := 4 } } {}
      (({} : ChunkEncoder).announceAndEncode 128
        [⟨3, 1, 8, 0, [1, 2, 3, 4, 5]⟩])).1.state.failed = true ∧
    -- a truncated Window Acknowledgement Size
    (onBytesReceived { maxMessageSize := 64 } {} (({} : ChunkEncoder).announceAndEncode 128
        [⟨2, 0, 5, 0, []⟩])).1.state.failed = true ∧
    -- a repeated absolute extended timestamp
    (onBytesReceived { maxMessageSize := 64 } {} (({} : ChunkEncoder).announceAndEncode 128
        [⟨3, 1, 8, 0x1000000, [1]⟩, ⟨3, 1, 8, 0x1000000, [1]⟩])).2 =
      [.message ⟨3, 1, 8, 0x1000000, [1]⟩, .message ⟨3, 1, 8, 0x2000000, [1]⟩] := by
  decide

end RtmpCore.Chunk
