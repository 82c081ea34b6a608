import RtmpCore.Chunk.Fragmentation
import RtmpCore.Chunk.Resources

/-!
# Chunk streams do not interfere

A lane is the reassembly of one chunk stream taken alone: its entry in the
decoder's table and nothing else.  The decoder refines the product of its
lanes.  What the lanes share are the limits of the connection; a run that stays
within them delivers on each chunk stream what that lane delivers by itself.
-/

namespace RtmpCore.Chunk

open Incremental Table List AList

/-- A message that changes neither the chunk size nor the state of a chunk
stream. -/
def Passive (message : RtmpMessage) : Prop :=
  message.messageStreamId = kProtocolControlMessageStreamId →
    message.messageTypeId ≠ MessageTypeId.setChunkSize.code ∧
      message.messageTypeId ≠ MessageTypeId.abortMessage.code
deriving Decidable

/-! ## Lanes -/

variable (cfg : ChunkDecoderConfig) (csid : UInt32)

/-- The entry and the messages a chunk leaves on its lane. -/
def laneCommit (state : ChunkStreamState) (chunk : ResolvedChunk) (slice : Bytes) :
    ChunkStreamState × List RtmpMessage :=
  if (state.commit chunk slice).bytesRemaining = 0 then
    ({ state.commit chunk slice with partialPayload := [] },
      [(state.commit chunk slice).completedMessage csid])
  else (state.commit chunk slice, [])

/-- Take a chunk on a lane.  The bytes must be exactly one chunk of the lane
under the default chunk size. -/
def laneStep (lane : Option ChunkStreamState) (bytes : Bytes) :
    Option (ChunkStreamState × List RtmpMessage) :=
  match readBasicHeader bytes with
  | none => none
  | some header =>
    if header.csid ≠ csid ∨ bytes.length < header.len + messageHeaderLen header.fmt ∨
        (lane = none ∧ header.fmt ≠ 0) then none
    else
      match resolveChunk cfg kDefaultChunkSize (lane.getD {}) header bytes with
      | .insufficientData => none
      | .failed _ _ => none
      | .resolved chunk =>
        if chunk.totalHeaderLen + chunk.payloadSlice ≠ bytes.length then none
        else
          some (laneCommit csid (lane.getD {}) chunk
            ((bytes.drop chunk.totalHeaderLen).take chunk.payloadSlice))

/-- The chunks are a valid chunking of passive messages. -/
def ValidChunking (cfg : ChunkDecoderConfig) (csid : UInt32) :
    Option ChunkStreamState → List Bytes → Prop
  | _, [] => True
  | lane, bytes :: rest =>
    match laneStep cfg csid lane bytes with
    | none => False
    | some (state, messages) =>
      (∀ message ∈ messages, Passive message) ∧ ValidChunking cfg csid (some state) rest

instance decidableValidChunking (cfg : ChunkDecoderConfig) (csid : UInt32) :
    ∀ (lane : Option ChunkStreamState) (chunks : List Bytes),
      Decidable (ValidChunking cfg csid lane chunks)
  | _, [] => isTrue trivial
  | lane, bytes :: rest =>
    match h : laneStep cfg csid lane bytes with
    | none => isFalse (by simp [ValidChunking, h])
    | some (state, messages) =>
      have := decidableValidChunking cfg csid (some state) rest
      decidable_of_iff ((∀ message ∈ messages, Passive message) ∧
        ValidChunking cfg csid (some state) rest)
        (by simp [ValidChunking, h])

/-- The bytes are one whole chunk of the lane. -/
structure LaneChunk (cfg : ChunkDecoderConfig) (csid : UInt32)
    (lane : Option ChunkStreamState) (bytes : Bytes) (header : BasicHeader)
    (chunk : ResolvedChunk) : Prop where
  fronts : Fronts bytes header
  csid_eq : header.csid = csid
  fmt_eq : lane = none → header.fmt = 0
  resolved : resolveChunk cfg kDefaultChunkSize (lane.getD {}) header bytes = .resolved chunk
  whole : chunk.totalHeaderLen + chunk.payloadSlice = bytes.length

def laneSlice (bytes : Bytes) (chunk : ResolvedChunk) : Bytes :=
  (bytes.drop chunk.totalHeaderLen).take chunk.payloadSlice

/-- What the chunk leaves on its lane and delivers. -/
def laneOut (d : DecoderState) (bytes : Bytes) (chunk : ResolvedChunk) :
    ChunkStreamState × List RtmpMessage :=
  laneCommit csid ((d.streams.lookup csid).getD {}) chunk (laneSlice bytes chunk)

theorem laneStep_eq_some {cfg : ChunkDecoderConfig} {csid : UInt32}
    {lane : Option ChunkStreamState} {bytes : Bytes} {out : ChunkStreamState × List RtmpMessage}
    (h : laneStep cfg csid lane bytes = some out) :
    ∃ header chunk, LaneChunk cfg csid lane bytes header chunk ∧
      out = laneCommit csid (lane.getD {}) chunk (laneSlice bytes chunk) := by
  unfold laneStep at h
  cases hread : readBasicHeader bytes with
  | none => simp [hread] at h
  | some header =>
    simp only [hread] at h
    split at h
    · cases h
    rename_i hcond
    simp only [not_or, not_not, not_and, Nat.not_lt] at hcond
    obtain ⟨hcsid, hlen, hfmt⟩ := hcond
    cases hres : resolveChunk cfg kDefaultChunkSize (lane.getD {}) header bytes with
    | insufficientData | failed => simp [hres] at h
    | resolved chunk =>
      simp only [hres] at h
      split at h
      · cases h
      next hwhole =>
        cases h
        exact ⟨header, chunk, ⟨⟨hread, hlen⟩, hcsid, hfmt, hres, not_not.mp hwhole⟩, rfl⟩

/-! ## The decoder moves one lane at a time -/

/-- The decoder has moved the lane `csid` to `state` and no other. -/
structure LaneMove (csid : UInt32) (state : ChunkStreamState) (d d' : DecoderState) : Prop where
  here : d'.streams.lookup csid = some state
  there : ∀ other, other ≠ csid → d'.streams.lookup other = d.streams.lookup other
  size : d'.inputChunkSize = d.inputChunkSize

theorem LaneMove.trans {csid : UInt32} {state state' : ChunkStreamState}
    {d d' d'' : DecoderState} (h : LaneMove csid state d d')
    (h' : LaneMove csid state' d' d'') : LaneMove csid state' d d'' :=
  ⟨h'.here, fun other hother => (h'.there other hother).trans
    (h.there other hother), h'.size.trans h.size⟩

/-- The connection's table has room for the lane. -/
def HasSlot (d : DecoderState) : Prop :=
  d.streams.lookup csid = none → d.streams.keys.length < cfg.limits.maxChunkStreams.toNat

theorem openStream_lane {d : DecoderState} {header : BasicHeader}
    (hfmt : d.streams.lookup header.csid = none → header.fmt = 0) :
    (¬HasSlot cfg header.csid d ∧ ∃ msg, openStream cfg d header = .error msg) ∨
      (HasSlot cfg header.csid d ∧ ∃ opened, openStream cfg d header =
            .ok (opened, (d.streams.lookup header.csid).getD {}) ∧
          LaneMove header.csid ((d.streams.lookup header.csid).getD {}) d opened) := by
  unfold HasSlot openStream
  cases hlook : d.streams.lookup header.csid with
  | some state => exact Or.inr ⟨by simp, d, rfl, hlook, fun _ _ => rfl, rfl⟩
  | none =>
    rw [if_neg (not_not.mpr (hfmt hlook))]
    by_cases hfull : cfg.limits.maxChunkStreams.toNat ≤ d.streams.keys.length
    · exact Or.inl ⟨fun h => absurd (h rfl) (Nat.not_lt.mpr hfull), _, if_pos hfull⟩
    · refine Or.inr ⟨fun _ => Nat.lt_of_not_le hfull, _, if_neg hfull, lookup_insert _, ?_, rfl⟩
      intro other hother
      exact lookup_insert_ne hother

section Commit

variable {cfg : ChunkDecoderConfig} {d : DecoderState} {csid : UInt32}
  {state : ChunkStreamState} {chunk : ResolvedChunk} {slice : Bytes}

/-- What the connection must allow for a chunk to be committed: its payload
under the reassembly limit, and no truncated control message. -/
structure Admitted (cfg : ChunkDecoderConfig) (d : DecoderState) (csid : UInt32)
    (state : ChunkStreamState) (chunk : ResolvedChunk) (slice : Bytes) : Prop where
  buffered : 0 < chunk.payloadSlice → (d.storePayload csid state chunk slice).bufferedPayloadBytes ≤
      cfg.limits.maxBufferedPayloadBytes
  deliverable : ∀ message ∈ (laneCommit csid state chunk slice).2, Deliverable message

theorem deliver_passive {msg : RtmpMessage} (hpass : Passive msg)
    (h : (deliver cfg d msg).1.failed = false) : Deliverable msg := by
  intro hstr
  obtain ⟨hset, habort⟩ := hpass hstr
  refine ⟨hset, habort, ?_⟩
  intro hack
  by_contra hshort
  unfold deliver handleProtocolControl at h
  rw [if_neg (not_not.mpr hstr), if_neg hset, if_neg habort, if_pos hack,
    if_pos (Nat.lt_of_not_le hshort)] at h
  simp at h

theorem admitted_of_running (hpass : ∀ msg ∈ (laneCommit csid state chunk slice).2, Passive msg)
    (h : (commitPayload cfg d csid state chunk slice).2.1.failed = false) :
    Admitted cfg d csid state chunk slice := by
  unfold commitPayload at h
  dsimp only at h
  split at h
  · simp at h
  rename_i hlim
  refine ⟨fun hpos => UInt64.not_lt.mp fun hlt => hlim ⟨hpos, hlt⟩, ?_⟩
  unfold laneCommit at hpass ⊢
  split at h
  next hdone =>
    simp only [if_pos hdone, mem_singleton, forall_eq] at hpass ⊢
    exact deliver_passive hpass h
  next hmore => simp [hmore]

theorem handleCompleteMessage_of_deliverable (cfg : ChunkDecoderConfig) (d : DecoderState)
    (h : Deliverable (state.completedMessage csid)) :
    ∃ d', handleCompleteMessage cfg d csid state = (d', [.message (state.completedMessage csid)]) ∧
      d'.failed = d.failed ∧ d'.inputChunkSize = d.inputChunkSize ∧
      d'.streams = d.streams.insert csid { state with partialPayload := [] } := by
  obtain ⟨window, hdel⟩ := deliver_of_deliverable cfg
    { d with
      bufferedPayloadBytes := d.bufferedPayloadBytes - UInt64.ofNat state.partialPayload.length
      streams := d.streams.insert csid { state with partialPayload := [] } } h
  exact ⟨_, hdel, rfl, rfl, rfl⟩

theorem commitPayload_of_admitted (hrun : d.failed = false)
    (h : Admitted cfg d csid state chunk slice) :
    ∃ d', commitPayload cfg d csid state chunk slice = (.consumed, d',
          (laneCommit csid state chunk slice).2.map .message) ∧
      d'.failed = false ∧
      LaneMove csid (laneCommit csid state chunk slice).1 d d' := by
  have hlim : ¬(0 < chunk.payloadSlice ∧ cfg.limits.maxBufferedPayloadBytes <
        (d.storePayload csid state chunk slice).bufferedPayloadBytes) :=
    fun hover => UInt64.not_lt.mpr (h.buffered hover.1) hover.2
  have hdel := h.deliverable
  unfold commitPayload
  unfold laneCommit at hdel ⊢
  simp only [if_neg hlim]
  by_cases hdone : (state.commit chunk slice).bytesRemaining = 0
  · simp only [if_pos hdone, mem_singleton, forall_eq] at hdel ⊢
    obtain ⟨d', hcomp, hfail, hsize, hstrs⟩ :=
      handleCompleteMessage_of_deliverable cfg (d.storePayload csid state chunk slice) hdel
    refine ⟨d', by rw [hcomp]; rfl, hfail.trans hrun, ?_, ?_, hsize⟩
    · rw [hstrs]
      exact lookup_insert _
    · intro other hother
      rw [hstrs, lookup_insert_ne hother]
      exact lookup_insert_ne hother
  · simp only [if_neg hdone]
    refine ⟨_, rfl, hrun, lookup_insert _, ?_, rfl⟩
    intro other hother
    exact lookup_insert_ne hother

end Commit

/-- The table has room for the lane, and the connection allows the chunk. -/
def Admits (d : DecoderState) (header : BasicHeader) (bytes : Bytes) (chunk : ResolvedChunk) :
    Prop :=
  HasSlot cfg csid d ∧ ∀ opened,
    openStream cfg d header = .ok (opened, (d.streams.lookup csid).getD {}) →
      Admitted cfg opened csid ((d.streams.lookup csid).getD {}) chunk (laneSlice bytes chunk)

section Attempt

variable {cfg : ChunkDecoderConfig} {csid : UInt32} {d : DecoderState}
  {bytes : Bytes} {header : BasicHeader} {chunk : ResolvedChunk}

theorem LaneChunk.refused (h : LaneChunk cfg csid (d.streams.lookup csid) bytes header chunk)
    (hslot : ¬HasSlot cfg csid d) (rest : Bytes) :
    ∃ d' o, decoderAttempt cfg d (bytes ++ rest) = .stopped d' o := by
  obtain rfl := h.csid_eq
  rcases openStream_lane cfg h.fmt_eq with
    ⟨-, msg, hopen⟩ | ⟨hslot', -⟩
  · exact ⟨_, _, decoderAttempt_refused (h.fronts.append rest) hopen⟩
  · exact absurd hslot' hslot

theorem LaneChunk.attempt (h : LaneChunk cfg csid (d.streams.lookup csid) bytes header chunk)
    (hsize : d.inputChunkSize = kDefaultChunkSize) (hslot : HasSlot cfg csid d) (rest : Bytes) :
    ∃ opened, openStream cfg d header = .ok (opened, (d.streams.lookup csid).getD {}) ∧
      LaneMove csid ((d.streams.lookup csid).getD {}) d opened ∧
      decoderAttempt cfg d (bytes ++ rest) =
        commitAttempt (commitPayload cfg opened csid ((d.streams.lookup csid).getD {}) chunk
            (laneSlice bytes chunk)) rest := by
  obtain rfl := h.csid_eq
  rcases openStream_lane cfg h.fmt_eq with
    ⟨hslot', -⟩ | ⟨-, opened, hopen, hmove⟩
  · exact absurd hslot hslot'
  have hres := h.resolved
  rw [← hsize, ← hmove.size] at hres
  refine ⟨opened, hopen, hmove, ?_⟩
  rw [decoderAttempt_append rest h.fronts hopen (by simp [hres]),
    decoderAttempt_opened h.fronts hopen, hres]
  simp only [h.whole]
  change _ = commitAttempt (commitPayload cfg opened header.csid _ chunk
    ((bytes.drop chunk.totalHeaderLen).take chunk.payloadSlice)) rest
  generalize commitPayload cfg opened header.csid _ chunk
    ((bytes.drop chunk.totalHeaderLen).take chunk.payloadSlice) = committed
  cases hfail : committed.2.1.failed <;> simp [commitAttempt, Attempt.append, hfail]

end Attempt

/-! ## A lane alone beside the whole connection -/

/-- A decoder that has only seen the lane `csid` beside one that has seen
others too. -/
structure Alongside (cfg : ChunkDecoderConfig) (csid : UInt32) (alone d : DecoderState) : Prop where
  limits_alone : alone.WithinLimits cfg
  limits : d.WithinLimits cfg
  size_alone : alone.inputChunkSize = kDefaultChunkSize
  size : d.inputChunkSize = kDefaultChunkSize
  here : alone.streams.lookup csid = d.streams.lookup csid
  there : ∀ other, other ≠ csid → alone.streams.lookup other = none

theorem alongside_initial (cfg : ChunkDecoderConfig) (csid : UInt32) : Alongside cfg csid {} {} :=
  ⟨initial_withinLimits cfg, initial_withinLimits cfg, rfl, rfl, rfl, fun _ _ => rfl⟩

section Step

variable {cfg : ChunkDecoderConfig} {csid : UInt32} {alone d : DecoderState}
  {bytes : Bytes} {header : BasicHeader} {chunk : ResolvedChunk}

theorem Alongside.hasSlot (h : Alongside cfg csid alone d)
    (hslot : HasSlot cfg csid d) : HasSlot cfg csid alone := by
  intro hnone
  refine lt_of_le_of_lt (length_keys_le ?_) (hslot (h.here ▸ hnone))
  intro other state hlook
  by_cases hother : other = csid
  · rw [← hlook, hother, h.here]
  · rw [h.there other hother] at hlook
    cases hlook

/-- What the connection admits beside other lanes, it admits alone. -/
theorem Alongside.admitted {opened openedAlone : DecoderState}
    {state : ChunkStreamState} (hop : opened.WithinLimits cfg)
    (hopenedAlone : openedAlone.WithinLimits cfg) (hlook : opened.streams.lookup csid = some state)
    (hlookupAlone : openedAlone.streams.lookup csid = some state)
    (hthere : ∀ other, other ≠ csid → openedAlone.streams.lookup other = none)
    {slice : Bytes} (hcom : Committable cfg state chunk slice)
    (h : Admitted cfg opened csid state chunk slice) :
    Admitted cfg openedAlone csid state chunk slice := by
  have htot : openedAlone.partialTotal ≤ opened.partialTotal := by
    refine total_le_total ?_
    intro other state' hother
    by_cases heq : other = csid
    · rw [heq] at hother ⊢
      rw [hlook, ← hlookupAlone, hother]
    · rw [hthere other heq] at hother
      cases hother
  refine ⟨fun hpos => ?_, h.deliverable⟩
  have hle := UInt64.le_iff_toNat_le.mp (h.buffered hpos)
  rw [UInt64.le_iff_toNat_le, (hcom.storePayload hopenedAlone hlookupAlone).2]
  rw [(hcom.storePayload hop hlook).2] at hle
  omega

/-- A chunk that did not stop the decoder was admitted, moved its lane and
delivered what the lane delivers. -/
theorem LaneChunk.consumed (h : LaneChunk cfg csid (d.streams.lookup csid) bytes header chunk)
    (hlims : d.WithinLimits cfg)
    (hsize : d.inputChunkSize = kDefaultChunkSize) (hadm : Admits cfg csid d header bytes chunk)
    (rest : Bytes) : ∃ d', decoderAttempt cfg d (bytes ++ rest) =
        .consumed d' rest ((laneOut csid d bytes chunk).2.map .message) ∧
      d'.WithinLimits cfg ∧ LaneMove csid (laneOut csid d bytes chunk).1 d d' := by
  obtain ⟨opened, hopen, hmove, hatt⟩ := h.attempt hsize hadm.1 rest
  have hop := (openStream_withinLimits hlims hopen).1
  obtain ⟨d', hcom, hrun, hmove'⟩ := commitPayload_of_admitted hop.running (hadm.2 opened hopen)
  rw [hcom] at hatt
  simp only [commitAttempt, hrun] at hatt
  have hleft := decoderAttempt_contained (bytes ++ rest) hlims
  rw [hatt] at hleft
  exact ⟨d', hatt, hleft, hmove.trans hmove'⟩

/-- From a decoder that the chunk did not stop: the slot and the admission. -/
theorem LaneChunk.admitted (h : LaneChunk cfg csid (d.streams.lookup csid) bytes header chunk)
    (hsize : d.inputChunkSize = kDefaultChunkSize)
    (hpass : ∀ msg ∈ (laneOut csid d bytes chunk).2, Passive msg) (rest : Bytes)
    (hgoes : ∀ d' o, decoderAttempt cfg d (bytes ++ rest) ≠ .stopped d' o) :
    Admits cfg csid d header bytes chunk := by
  have hslot : HasSlot cfg csid d := by
    by_contra hslot
    obtain ⟨d', o, hstop⟩ := h.refused hslot rest
    exact hgoes d' o hstop
  refine ⟨hslot, ?_⟩
  intro opened hopen
  obtain ⟨opened', hopen', -, hatt⟩ := h.attempt hsize hslot rest
  rw [hopen] at hopen'
  cases hopen'
  refine admitted_of_running hpass ?_
  by_contra hfail
  rw [commitAttempt, if_pos (eq_true_of_ne_false hfail)] at hatt
  exact hgoes _ _ hatt

theorem Alongside.other {d' : DecoderState} {other : UInt32}
    {state : ChunkStreamState} (h : Alongside cfg csid alone d)
    (hother : other ≠ csid) (hlims : d'.WithinLimits cfg)
    (hmove : LaneMove other state d d') : Alongside cfg csid alone d' :=
  ⟨h.limits_alone, hlims, h.size_alone, hmove.size.trans h.size,
    h.here.trans (hmove.there csid (Ne.symm hother)).symm, h.there⟩

/-- A chunk of the lane itself is taken alone as it was beside the others. -/
theorem Alongside.own {d' : DecoderState} (h : Alongside cfg csid alone d)
    (hchunk : LaneChunk cfg csid (d.streams.lookup csid) bytes header chunk)
    (hadm : Admits cfg csid d header bytes chunk) (hlims : d'.WithinLimits cfg)
    (hmove : LaneMove csid (laneOut csid d bytes chunk).1 d d') (rest : Bytes) :
    ∃ alone', decoderAttempt cfg alone (bytes ++ rest) =
        .consumed alone' rest ((laneOut csid d bytes chunk).2.map .message) ∧
      Alongside cfg csid alone' d' := by
  have hchunkAlone := hchunk
  rw [← h.here] at hchunkAlone
  have hslot := h.hasSlot hadm.1
  have hadmAlone : Admits cfg csid alone header bytes chunk := by
    refine ⟨hslot, fun openedAlone hopenAlone => ?_⟩
    obtain ⟨opened, hopen, -, -⟩ := hchunk.attempt h.size hadm.1 rest
    obtain ⟨opened', hopen', hmove', -⟩ := hchunkAlone.attempt h.size_alone hslot rest
    rw [hopenAlone] at hopen'
    cases hopen'
    rw [h.here] at hopenAlone ⊢
    obtain ⟨hop, hlook⟩ := openStream_withinLimits h.limits hopen
    obtain ⟨hopenedAlone, hlookupAlone⟩ := openStream_withinLimits h.limits_alone hopenAlone
    rw [hchunk.csid_eq] at hlook hlookupAlone
    refine Alongside.admitted hop hopenedAlone hlook hlookupAlone ?_
      (committable_of_resolved (hop.entries _ _ hlook) hchunk.resolved) (hadm.2 opened hopen)
    intro other hother
    exact (hmove'.there other hother).trans (h.there other hother)
  obtain ⟨alone', hatt, hlimitsAlone, hmoveAlone⟩ :=
    hchunkAlone.consumed h.limits_alone h.size_alone hadmAlone rest
  rw [laneOut, h.here] at hatt hmoveAlone
  exact ⟨alone', hatt, hlimitsAlone, hlims,
    hmoveAlone.size.trans h.size_alone, hmove.size.trans h.size,
    hmoveAlone.here.trans hmove.here.symm,
    fun other hother => (hmoveAlone.there other hother).trans (h.there other hother)⟩

end Step

/-! ## Interleavings -/

variable (csid : UInt32) (chunks : List (UInt32 × Bytes))

/-- The chunks of one chunk stream in an interleaving of tagged chunks. -/
def laneOf : List Bytes := (chunks.filter fun tagged => tagged.1 = csid).map Prod.snd

def wire : Bytes := (chunks.map Prod.snd).flatten

def messagesOf (events : List DecoderEvent) : List RtmpMessage :=
  (deliveredMessages events).filter fun message => message.chunkStreamId = csid

theorem deliveredMessages_append (x y : List DecoderEvent) :
    deliveredMessages (x ++ y) = deliveredMessages x ++ deliveredMessages y :=
  filterMap_append

theorem deliveredMessages_map (msgs : List RtmpMessage) :
    deliveredMessages (msgs.map .message) = msgs := by
  induction msgs with
  | nil => rfl
  | cons msg rest ih => simp [deliveredMessages]

theorem laneOut_csid {csid : UInt32} {d : DecoderState} {bytes : Bytes} {chunk : ResolvedChunk}
    {msg : RtmpMessage} (h : msg ∈ (laneOut csid d bytes chunk).2) : msg.chunkStreamId = csid := by
  unfold laneOut laneCommit at h
  split at h
  · simp only [mem_singleton] at h
    rw [h]
    rfl
  · cases h

theorem messagesOf_own {csid : UInt32} {msgs : List RtmpMessage}
    (h : ∀ msg ∈ msgs, msg.chunkStreamId = csid) (evs : List DecoderEvent) :
    messagesOf csid (msgs.map .message ++ evs) = msgs ++ messagesOf csid evs := by
  have hall : msgs.filter (fun msg =>
      decide (msg.chunkStreamId = csid)) = msgs :=
    filter_eq_self.mpr (by simpa using h)
  rw [messagesOf, deliveredMessages_append, deliveredMessages_map, filter_append, hall, messagesOf]

theorem messagesOf_other {csid id : UInt32} {msgs : List RtmpMessage}
    (h : ∀ msg ∈ msgs, msg.chunkStreamId = id) (hid : id ≠ csid) (evs : List DecoderEvent) :
    messagesOf csid (msgs.map .message ++ evs) = messagesOf csid evs := by
  have hnone : msgs.filter (fun msg =>
      decide (msg.chunkStreamId = csid)) = [] := by
    refine filter_eq_nil_iff.mpr ?_
    intro msg hmem
    simp [h msg hmem, hid]
  rw [messagesOf, deliveredMessages_append, deliveredMessages_map,
    filter_append, hnone, nil_append, messagesOf]

/-- A run that is not stopped delivers on a lane what the lane delivers
alone. -/
theorem drain_alongside {cfg : ChunkDecoderConfig} {csid : UInt32}
    (chunks : List (UInt32 × Bytes)) {alone d : DecoderState} (h : Alongside cfg csid alone d)
    (hvalid : ∀ id, ValidChunking cfg id (d.streams.lookup id) (laneOf id chunks))
    (hrun : (drain (decoderMachine cfg) d (wire chunks)).1.stopped = false) :
    messagesOf csid (drain (decoderMachine cfg) d (wire chunks)).2 =
      deliveredMessages (drain (decoderMachine cfg) alone (laneOf csid chunks).flatten).2 := by
  induction chunks generalizing alone d with
  | nil => simp [wire, laneOf, drain_nil, messagesOf, deliveredMessages]
  | cons tagged rest ih =>
    obtain ⟨id, bytes⟩ := tagged
    have hwire : wire ((id, bytes) :: rest) = bytes ++ wire rest := rfl
    have hlane : laneOf id ((id, bytes) :: rest) = bytes :: laneOf id rest := by simp [laneOf]
    have hhead := hvalid id
    rw [hlane, ValidChunking] at hhead
    cases hstep : laneStep cfg id (d.streams.lookup id) bytes with
    | none => simp [hstep] at hhead
    | some out =>
      obtain ⟨header, chunk, hchunk, rfl⟩ := laneStep_eq_some hstep
      simp only [hstep] at hhead
      obtain ⟨hpass, htail⟩ := hhead
      rw [hwire] at hrun ⊢
      have hadm := hchunk.admitted h.size hpass (wire rest) (by
          intro d' o hstop
          rw [drain_of_stopped (M := decoderMachine cfg) hstop] at hrun
          cases hrun)
      obtain ⟨d', hatt, hlims, hmove⟩ := hchunk.consumed h.limits h.size hadm (wire rest)
      have hvalid' : ∀ id', ValidChunking cfg id' (d'.streams.lookup id') (laneOf id' rest) := by
        intro id'
        by_cases hid : id' = id
        · rw [hid, hmove.here]
          exact htail
        · have hskip : laneOf id' ((id, bytes) :: rest) = laneOf id' rest := by
            simp [laneOf, Ne.symm hid]
          rw [hmove.there id' hid, ← hskip]
          exact hvalid id'
      rw [drain_of_consumed (M := decoderMachine cfg) hatt] at hrun ⊢
      by_cases hid : id = csid
      · subst hid
        obtain ⟨alone', hatt', halong⟩ := h.own hchunk hadm hlims hmove (laneOf id rest).flatten
        have hnext := ih halong hvalid' hrun
        rw [hlane, flatten_cons, drain_of_consumed (M := decoderMachine cfg) hatt',
          messagesOf_own (fun _ => laneOut_csid),
          deliveredMessages_append, deliveredMessages_map, hnext]
      · have halong := h.other hid hlims hmove
        have hnext := ih halong hvalid' hrun
        have hskip : laneOf csid ((id, bytes) :: rest) = laneOf csid rest := by simp [laneOf, hid]
        rw [hskip, ← hnext, messagesOf_other (fun _ => laneOut_csid) hid]

/-- The chunks are the family's chunk sequences, each in its own order. -/
def Interleaves (family : UInt32 → List Bytes) (chunks : List (UInt32 × Bytes)) : Prop :=
  ∀ csid, laneOf csid chunks = family csid

theorem messagesOf_interleaving {cfg : ChunkDecoderConfig}
    {family : UInt32 → List Bytes} {chunks : List (UInt32 × Bytes)}
    (hvalid : ∀ id, ValidChunking cfg id none (family id)) (hchunks : Interleaves family chunks)
    (hrun : (onBytesReceived cfg {} (wire chunks)).1.state.failed = false) (csid : UInt32) :
    messagesOf csid (onBytesReceived cfg {} (wire chunks)).2 =
      deliveredMessages (onBytesReceived cfg {} (family csid).flatten).2 := by
  obtain ⟨hcfg, hevents⟩ := onBytesReceived_fresh cfg (wire chunks)
  obtain ⟨-, hevents'⟩ := onBytesReceived_fresh cfg (family csid).flatten
  have hstop : (drain (decoderMachine cfg) {} (wire chunks)).1.stopped = false := by
    rw [← hcfg]
    exact hrun
  rw [hevents, hevents', ← hchunks csid]
  refine drain_alongside chunks (alongside_initial cfg csid) ?_ hstop
  intro id
  rw [hchunks id]
  exact hvalid id

/-- Two interleavings of the same chunk sequences that the connection accepts
deliver the same messages on every chunk stream, namely those the chunk stream
delivers alone. -/
theorem interleavings_deliver_alike (cfg : ChunkDecoderConfig) (family : UInt32 → List (List UInt8))
    (first second : List (UInt32 × List UInt8))
    (hvalid : ∀ id, ValidChunking cfg id none (family id))
    (hfirst : Interleaves family first) (hsecond : Interleaves family second)
    (hfirstRun : (onBytesReceived cfg {} (wire first)).1.state.failed = false)
    (hsecondRun : (onBytesReceived cfg {} (wire second)).1.state.failed = false) (csid : UInt32) :
    messagesOf csid (onBytesReceived cfg {} (wire first)).2 =
        messagesOf csid (onBytesReceived cfg {} (wire second)).2 ∧
      messagesOf csid (onBytesReceived cfg {} (wire first)).2 =
        deliveredMessages (onBytesReceived cfg {} (family csid).flatten).2 := by
  have hleft := messagesOf_interleaving hvalid hfirst hfirstRun csid
  have hright := messagesOf_interleaving hvalid hsecond hsecondRun csid
  exact ⟨hleft.trans hright.symm, hleft⟩

/-- The first chunk of a message of 129 bytes on chunk stream 3. -/
def longChunk : Bytes := [0x03, 0, 0, 0, 0, 0, 129, 9, 1, 0, 0, 0] ++ List.replicate 128 7

/-- A message of one byte on chunk stream 4. -/
def shortChunk : Bytes := [0x04, 0, 0, 5, 0, 0, 1, 8, 1, 0, 0, 0, 1]

/-- A message in two chunks, and two messages of which the second has a type 3
header. -/
def twoLanes : List Bytes :=
  if csid = 3 then [longChunk, [0xC3, 8]]
  else if csid = 4 then [shortChunk, [0xC4, 2]]
  else []

theorem twoLanes_deliver_alike : messagesOf 3 (onBytesReceived { maxMessageSize := 1024 } {}
      (wire [(3, longChunk), (4, shortChunk), (3, [0xC3, 8]), (4, [0xC4, 2])])).2 =
      deliveredMessages (onBytesReceived { maxMessageSize := 1024 } {} (twoLanes 3).flatten).2 := by
  refine (interleavings_deliver_alike { maxMessageSize := 1024 } twoLanes
    [(3, longChunk), (4, shortChunk), (3, [0xC3, 8]), (4, [0xC4, 2])]
    [(4, shortChunk), (4, [0xC4, 2]), (3, longChunk), (3, [0xC3, 8])]
    ?_ ?_ ?_ (by decide +kernel) (by decide +kernel) 3).2
  all_goals
    intro id
    by_cases h3 : id = 3
    · subst h3
      decide +kernel
    · by_cases h4 : id = 4
      · subst h4
        decide +kernel
      · simp [twoLanes, h3, h4, laneOf, Ne.symm h3, Ne.symm h4, ValidChunking]

end RtmpCore.Chunk
