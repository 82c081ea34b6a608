import RtmpCore.Recording.RoundTrip
import RtmpCore.Recording.SinkRuns

/-!
# Published recordings

A recorder runs in one thread and the writer of its sink in another.  The
method that the recorder is in is kept as the rest of its program, so an
interleaving can stop it at every call.

A sink decides by its own state alone whether to rename the file.  A recorder
that has given up because the queue was full still finalizes its sink, and the
sink then publishes what it has.  When the operations that the file cannot do
without find room in the queue, every published file is a complete recording.
-/

namespace RtmpCore.Recording

open Media.Flv List AsyncFileSink Contents

/-- A recorder with its sink.  The account of the exchange and the tags that were
offered are kept for the statements. -/
structure RecordingSystem where
  sink : AsyncFileSink
  program : SinkProg Recorder
  entering : Bool := false
  account : Account := {}
  sent : List Tag := []

inductive RecordingEvent where
  /-- The publisher asks something of the recorder, which is idle. -/
  | message (event : RecorderEvent)
  /-- The recorder goes on with its call. -/
  | proceed
  /-- The writer thread makes a step. -/
  | write (io : IoAnswer)
deriving DecidableEq

namespace RecordingSystem

def start (config : RecorderConfig) (options : SinkOptions) : RecordingSystem :=
  { sink := { options }, program := .done { config } }

def step (s : RecordingSystem) : RecordingEvent → RecordingSystem
  | .message event =>
    match s.program with
    | .done r => { s with program := r.handle event, sent := s.sent ++ event.tags }
    | .call _ _ => s
  | .proceed =>
    match s.program with
    | .done _ => s
    | .call c next =>
      if s.entering then
        { s with
          sink := (s.sink.locked c).1
          program := next (s.sink.locked c).2
          entering := false
          account := s.account.note ⟨c, (s.sink.locked c).2⟩ }
      else
        match s.sink.begin c with
        | none => { s with entering := true }
        | some (sink, answer) =>
          { s with sink, program := next answer, account := s.account.note ⟨c, answer⟩ }
  | .write io => { s with sink := s.sink.writerStep io }

/-- There is room in the queue for a patch, and for an append as long as the
header and the metadata tag are not both out. -/
def hasRoom (s : RecordingSystem) : SinkCall → Bool
  | .append data =>
    decide (2 ≤ s.account.ops.length) ||
      decide (s.sink.queuedBytes + data.length ≤ s.sink.options.maxQueueBytes)
  | .patch _ data => decide (s.sink.queuedBytes + data.length ≤ s.sink.options.maxQueueBytes)
  | .pendingBytes | .finalize => true

/-- What the file cannot do without finds room, and payloads fit the size field
of a tag. -/
def careful (s : RecordingSystem) : RecordingEvent → Bool
  | .message event => event.tags.all fun tag => decide (tag.payload.length < 2 ^ 24)
  | .proceed =>
    match s.program with
    | .done _ => true
    | .call c _ => !s.entering || s.hasRoom c
  | .write _ => true

/-- A whole FLV file of some of the tags that were sent, whose metadata has the
duration and the size of the file. -/
def Complete (sent : List Tag) (content : Bytes) : Prop :=
  ∃ x : Contents, x.tags.Sublist sent ∧ content = x.file ∧
    x.metadata.duration = x.duration ∧ x.metadata.filesize = x.filesize ∧
    ∃ parsed, parseFlv content = .ok parsed ∧
      parsed.tags.map (ParsedTag.read content) = metadataTag x.metadata :: x.tags

/-! ## What a step can do -/

variable {s : RecordingSystem}

/-- What holds along a careful run. -/
structure Kept (s : RecordingSystem) : Prop where
  meets : Prog.Meets Account.note (Shape s.sent) (fun a r => r.Kept s.sent a) s.account s.program
  shape : Shape s.sent s.account
  serves : s.sink.Serves s.account
  broken : s.account.failed = true → s.sink.Doomed ∧ s.sink.published = none
  fits : ∀ tag ∈ s.sent, tag.Fits

variable {c : SinkCall} {sent : List Tag} {sink : AsyncFileSink} {x : Contents}

theorem late_note {a : Account} {answer : c.Answer}
    (hcl : a.closed = true) (hlate : (a.note ⟨c, answer⟩).late = false) :
    c = .pendingBytes ∨ c = .finalize := by
  cases c with
  | pendingBytes => exact .inl rfl
  | finalize => exact .inr rfl
  | append | patch => cases answer <;> simp [Account.note, hcl] at hlate

theorem inTime_of_shape {answer : c.Answer} (hshape : Shape sent (s.account.note ⟨c, answer⟩))
    (hcl : s.sink.finalizeRequested = s.account.closed) : s.sink.inTime c = true := by
  cases hreq : s.sink.finalizeRequested with
  | true =>
    have hlate := late_note (hcl.symm.trans hreq) hshape.late_eq
    rcases hlate with rfl | rfl <;> rfl
  | false => cases c <;> simp [AsyncFileSink.inTime, hreq]

/-- When what the file cannot do without finds room, the critical section does
not break it. -/
theorem failed_locked (c : SinkCall) (hroom : s.hasRoom c = true)
    (hshape : Shape sent (s.account.note ⟨c, (s.sink.locked c).2⟩))
    (hcl : s.sink.finalizeRequested = s.account.closed)
    (hfail : (s.account.note ⟨c, (s.sink.locked c).2⟩).failed = true) :
    s.account.failed = true := by
  have hopen : (∃ data, c = .append data) ∨ (∃ offset data, c = .patch offset data) →
      s.sink.finalizeRequested = true → False := by
    intro hc hreq
    have hlate := late_note (hcl.symm.trans hreq) hshape.late_eq
    rcases hc with ⟨data, rfl⟩ | ⟨offset, data, rfl⟩ <;>
      rcases hlate with h | h <;> cases h
  cases c with
  | pendingBytes | finalize => exact hfail
  | append data =>
    have hoff := s.sink.lockedAppend_offered data
    dsimp only [AsyncFileSink.locked] at hfail
    generalize (s.sink.lockedAppend data).2 = answer at hoff hfail
    cases hoff with
    | taken => exact hfail
    | refused e _ _ _ hreason =>
      rcases hreason with ⟨hcode, hfull⟩ | hreq
      · have hlong : 2 ≤ s.account.ops.length := by
          simp only [hasRoom, Bool.or_eq_true, decide_eq_true_eq] at hroom
          exact hroom.resolve_right (Nat.not_le_of_lt hfull)
        simpa [Account.note, hcode, Nat.not_lt_of_le hlong] using hfail
      · exact (hopen (.inl ⟨data, rfl⟩) hreq).elim
  | patch offset data =>
    have hoff := s.sink.lockedPatch_offered offset data
    dsimp only [AsyncFileSink.locked] at hfail
    generalize (s.sink.lockedPatch offset data).2 = answer at hoff hfail
    cases hoff with
    | taken => exact hfail
    | refused e _ _ _ hreason =>
      rcases hreason with ⟨-, hfull⟩ | hreq
      · simp only [hasRoom, decide_eq_true_eq] at hroom
        exact absurd hroom (Nat.not_le_of_lt hfull)
      · exact (hopen (.inr ⟨offset, data, rfl⟩) hreq).elim

theorem Kept.answered (h : s.Kept) {next : c.Answer → SinkProg Recorder}
    (hprog : s.program = .call c next) {answer : c.Answer}
    (hmove : AsyncFileSink.SinkMove True s.sink sink [⟨c, answer⟩])
    (hbrok : (s.account.note ⟨c, answer⟩).failed = true →
      s.account.failed = true ∨ s.sink.healthy = false) (entering : Bool) :
    Kept
      { s with
        sink
        program := next answer
        entering
        account := s.account.note ⟨c, answer⟩ } := by
  have hmeets := h.meets
  rw [hprog] at hmeets
  have hlost : s.account.failed = true ∨ s.sink.healthy = false →
      s.sink.Doomed ∧ s.sink.published = none := by
    rintro (hfail | hsick)
    · exact h.broken hfail
    · rcases h.serves.state with hfaith | hlost
      · exact absurd (hsick.symm.trans hfaith.clean.healthy) (by decide)
      · exact hlost
  exact
    { meets := (hmeets answer).2
      shape := (hmeets answer).1
      serves := h.serves.step trivial hmove
      broken := fun hfail => lost_moved (hlost (hbrok hfail)) hmove
      fits := h.fits }

theorem Kept.message (h : s.Kept) (ev : RecorderEvent) (hcare : s.careful (.message ev) = true) :
    (s.step (.message ev)).Kept := by
  dsimp only [step]
  split
  case h_2 => exact h
  case h_1 r hprog =>
    have hmeets := h.meets
    rw [hprog] at hmeets
    have hsmall : ∀ tag ∈ ev.tags, tag.Fits := by simpa [careful, Tag.Fits] using hcare
    exact
      { meets := Recorder.handle_meets hmeets ev
        shape := h.shape.mono (sublist_append_left _ _)
        serves := h.serves
        broken := h.broken
        fits := fun tag htag => (mem_append.mp htag).elim (h.fits tag) (hsmall tag) }

theorem Kept.proceed (h : s.Kept) (hcare : s.careful .proceed = true) : (s.step .proceed).Kept := by
  dsimp only [step]
  split
  case h_1 => exact h
  case h_2 c next hprog =>
    have hmeets := h.meets
    rw [hprog] at hmeets
    split
    case isTrue hent =>
      have hroom : s.hasRoom c = true := by simpa [careful, hprog, hent] using hcare
      have hshape := (hmeets (s.sink.locked c).2).1
      exact h.answered hprog (.locked c fun _ => inTime_of_shape hshape h.serves.closed)
        (fun hfail => .inl (failed_locked c hroom hshape h.serves.closed hfail)) false
    case isFalse =>
      split
      case h_1 => exact ⟨h.meets, h.shape, h.serves, h.broken, h.fits⟩
      case h_2 sink answer hbeg =>
        refine h.answered hprog (.begun c answer hbeg) ?_ s.entering
        cases AsyncFileSink.begin_begun hbeg with
        | plain _ _ hfailed => exact hfailed _
        | finalized => exact .inl

theorem Kept.write (h : s.Kept) (io : IoAnswer) : (s.step (.write io)).Kept := by
  have hmove : AsyncFileSink.SinkMove True s.sink (s.sink.writerStep io) [] :=
    .write (s.sink.writerStep_move io)
  exact
    { meets := h.meets
      shape := h.shape
      serves := h.serves.step trivial hmove
      broken := fun hfail => lost_moved (h.broken hfail) hmove
      fits := h.fits }

theorem kept_start (cfg : RecorderConfig) (opts : SinkOptions) : (start cfg opts).Kept where
  meets := Recorder.kept_fresh cfg
  shape := (Recorder.kept_fresh cfg).shape
  serves := (SinkSystem.kept_start opts).serves
  broken := nofun
  fits := nofun

/-! ## Complete files -/

theorem complete_patched (hx : x.tags.Sublist sent)
    (hfits : ∀ tag ∈ sent, tag.Fits) : Complete sent (x.patched 2).file := by
  have htags : (x.patched 2).tags = x.tags := x.tags_patched 2
  have hfile : (x.patched 2).file.length = x.file.length := by
    rw [file_eq, file_eq, htags]
    simp only [length_append, Tag.length_bytes, metadataTag, length_onmetadataBody]
  have hdur : (x.patched 2).duration = x.duration := by rfl
  have hfilesize : (x.patched 2).filesize = x.filesize := by
    rw [Contents.filesize, hfile, Contents.filesize]
  refine ⟨x.patched 2, htags ▸ hx, rfl, hdur.symm, hfilesize.symm, ?_⟩
  exact parseFlv_file fun tag htag => hfits tag (hx.subset (htags ▸ htag))

/-- Published recordings are complete, in every interleaving in which the header,
the metadata tag and the patches find room in the queue when they take the
lock. -/
theorem published_complete (config : RecorderConfig) (options : SinkOptions)
    (events : List RecordingEvent)
    (hcareful : Run.Along step (fun s event => s.careful event = true)
      (start config options) events) (content : List UInt8)
    (hpublished : (Run.run step (start config options) events).sink.published = some content) :
    Complete (Run.run step (start config options) events).sent content := by
  have hkept : (Run.run step (start config options) events).Kept := by
    refine Run.run_invariant Kept hcareful (kept_start config options) ?_
    intro s event hevent hs
    cases event with
    | message event => exact hs.message event hevent
    | proceed => exact hs.proceed hevent
    | write io => exact hs.write io
  generalize Run.run step (start config options) events = s at hkept hpublished ⊢
  obtain ⟨hcontent, hclosed⟩ := hkept.serves.published_eq hpublished
  have hfine : s.account.failed ≠ true := fun hfailed => by
    rw [(hkept.broken hfailed).2] at hpublished
    cases hpublished
  cases hkept.shape with
  | unopened _ _ _ hbroken => exact absurd (hbroken hclosed) hfine
  | opened x k hk _ hx hops _ hbroken =>
    obtain rfl : k = 2 := (hbroken hclosed).resolve_left hfine
    rw [hcontent, hops, content_fileOf_patches hk]
    exact complete_patched hx hkept.fits

/-! ## A full queue at the end -/

theorem filesize_of_file {y : Contents} (h : x.file = y.file) :
    x.metadata.filesize = y.metadata.filesize := by
  have hlen : (metadataTag x.metadata).bytes.length = (metadataTag y.metadata).bytes.length := by
    simp only [Tag.length_bytes, metadataTag, length_onmetadataBody]
  have hpay : (metadataTag x.metadata).payload.length =
      (metadataTag y.metadata).payload.length := by
    simp only [metadataTag, length_onmetadataBody]
  rw [file_eq, file_eq, append_cancel_left_eq] at h
  have hby := (append_inj h hlen).1
  rw [Tag.bytes_eq, hpay] at hby
  have hbody := (append_inj (append_cancel_left hby) hpay).1
  have hvalues := congrArg Amf0.decodeAll hbody
  dsimp only [metadataTag] at hvalues
  rw [decodeAll_onmetadataBody, decodeAll_onmetadataBody] at hvalues
  simp only [OnMetaData.values, OnMetaData.properties, OnMetaData.numbersA,
    OnMetaData.numbersB, Except.ok.injEq, List.cons.injEq,
    Amf0.Amf0Value.ecmaArray.injEq, map_cons, map_nil, cons_append,
    nil_append, Prod.mk.injEq, Amf0.Amf0Value.number.injEq] at hvalues
  exact hvalues.2.1.2.2.2.2.2.2.2.2.2.1.2

/-- A recording without media that finds room for the header, the metadata tag
and one of the patches; the writer thread does everything afterwards. -/
def fullQueue : List RecordingEvent :=
  .message .finalize :: List.replicate 9 .proceed ++ List.replicate 24 (.write (.result 1000))

/-- The file is published without its size. -/
theorem fullQueue_incomplete : ∃ content, (Run.run step (start {} { maxQueueBytes := 260 })
        fullQueue).sink.published = some content ∧
      ¬ Complete (Run.run step (start {} { maxQueueBytes := 260 }) fullQueue).sent content := by
  have hpublished : (Run.run step (start {} { maxQueueBytes := 260 })
      fullQueue).sink.published = some (Contents.file ⟨{}, []⟩) := by
    decide +kernel
  refine ⟨_, hpublished, ?_⟩
  rintro ⟨x, -, hfile, -, hfilesize, -⟩
  have hzero := filesize_of_file hfile
  rw [hfilesize, Contents.filesize, ← hfile] at hzero
  exact absurd hzero (by decide +kernel)

/-- One audio message and the end of the recording, with enough room. -/
def shortRecording : List RecordingEvent :=
  .message (.audio { timestamp := 1500, payload := [0xAF, 0x01] }) ::
    List.replicate 7 .proceed ++ .message .finalize ::
    List.replicate 5 .proceed ++ List.replicate 36 (.write (.result 1000))

theorem shortRecording_complete :
    Run.Along step (fun s event => s.careful event = true) (start {} {}) shortRecording ∧ ∃ content,
        (Run.run step (start {} {}) shortRecording).sink.published = some content ∧
        Complete (Run.run step (start {} {}) shortRecording).sent content := by
  have hcareful : Run.Along step (fun s event => s.careful event = true)
      (start {} {}) shortRecording := by decide +kernel
  have hpublished : (Run.run step (start {} {}) shortRecording).sink.published =
      some (Contents.patched ⟨{}, [⟨kTagTypeAudio, 1500, [0xAF, 0x01]⟩]⟩ 2).file := by
    decide +kernel
  exact ⟨hcareful, _, hpublished, published_complete {} {} shortRecording hcareful _ hpublished⟩

end RecordingSystem

end RtmpCore.Recording
