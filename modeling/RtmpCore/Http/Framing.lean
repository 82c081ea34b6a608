import RtmpCore.Http.LoopSteps

/-!
# The framing of requests

The bytes a connection received are the requests that were cut out of them,
one after another, and a rest.  Which bytes of the stream are the body of a
request is said by the fields of its head.  The server goes by the last field
that is stored under the name `content-length`; a client or a proxy may go by
any field that announces a length.
-/

namespace RtmpCore.Http

open RtmpCore.Core Text List Option

/-! ## What a head announces -/

/-- Blanks as they may stand around names and values. -/
def isBlank (b : UInt8) : Bool := b == space || b == 0x09

namespace HeaderField

variable (field : HeaderField)

/-- The name of a field in lower case and without blanks around it. -/
def plainName : Bytes := (trim isBlank field.name).map toLower

def IsLength : Prop := field.plainName = contentLengthKey
deriving Decidable

/-- The length a field announces. -/
def announced : Option ℕ := fromChars (trim isBlank field.value)

/-- The field says that the body is sent in chunks. -/
def IsChunked : Prop :=
  field.plainName = "transfer-encoding" ∧ textBytes "chunked" ∈
      (field.value.splitOn 0x2C).map fun coding => (trim isBlank coding).map toLower

end HeaderField

/-- The head announces one length at most, it announces it under the very name
the server looks for, and it does not announce chunks. -/
structure Unambiguous (head : Bytes) : Prop where
  unchunked : ∀ field ∈ headerFields head, ¬ field.IsChunked
  agreed : ∀ field ∈ headerFields head, field.IsLength →
    ∀ other ∈ headerFields head, other.IsLength →
      field.announced = other.announced ∧ field.announced.isSome = true
  named : ∀ field ∈ headerFields head, field.IsLength → field.announced ≠ some 0 →
      ∃ other ∈ headerFields head, other.key = contentLengthKey

/-- Whatever field of the head announces a length, it announces that of the
body that was taken, and no field announces chunks. -/
structure Exchange.Framed (e : Exchange) : Prop where
  unchunked : ∀ field ∈ headerFields e.head, ¬ field.IsChunked
  announced : ∀ field ∈ headerFields e.head, field.IsLength → field.announced = some e.body.length

/-! ## What the server goes by -/

def headLength (head : Bytes) : Option ℕ :=
  match ((headerFields head).foldl storeField ∅).lookup contentLengthKey with
  | none => some 0
  | some value => fromChars value

theorem headLength_of_acceptHead {opts : AsyncHttpServerOptions}
    {ip inbox : Bytes} {marker length : ℕ} {req : HttpRequest}
    (h : acceptHead opts ip inbox marker = .ok (req, length)) :
    headLength (inbox.take marker) = some length := by
  unfold acceptHead at h
  split at h
  · cases h
  · split at h
    · cases h
    next parsed hpar =>
      have hheaders : parsed.headers = (headerFields (inbox.take marker)).foldl storeField ∅ := by
        obtain ⟨line, _, hline⟩ := bind_eq_some_iff.mp hpar
        cases hline
        rfl
      split at h
      · cases h
      next found hfound =>
        split at h
        · cases h
        · cases h
          rw [headLength, ← hheaders]
          exact hfound

theorem lookup_storeFields (fields : List HeaderField) (key : Bytes)
    (headers : AList fun _ : Bytes => Bytes) : (fields.foldl storeField headers).lookup key =
      ((fields.filter (·.key = key)).getLast?.map HeaderField.stored).or (headers.lookup key) := by
  induction fields generalizing headers with
  | nil => simp
  | cons field rest ih =>
    rw [foldl_cons, ih, storeField]
    by_cases hkey : field.key = key
    · subst hkey
      cases hlast : (rest.filter (·.key = field.key)).getLast? with
      | none =>
        have hnone : rest.filter (·.key = field.key) = [] := getLast?_eq_none_iff.mp hlast
        simp [hnone]
      | some last => simp [getLast?_cons, hlast]
    · simp [hkey, AList.lookup_insert_ne (Ne.symm hkey)]

theorem headLength_cases (head : Bytes) :
    (∃ field ∈ headerFields head, field.key = contentLengthKey ∧
        headLength head = fromChars field.stored) ∨
      ((∀ field ∈ headerFields head, field.key ≠ contentLengthKey) ∧ headLength head = some 0) := by
  rw [headLength, lookup_storeFields]
  cases hlast : ((headerFields head).filter (·.key = contentLengthKey)).getLast? with
  | none =>
    right
    have hnone := getLast?_eq_none_iff.mp hlast
    refine ⟨?_, by simp⟩
    intro field hfld
    simpa using filter_eq_nil_iff.mp hnone field hfld
  | some field =>
    left
    obtain ⟨hfld, hkey⟩ := mem_filter.mp (mem_of_getLast? hlast)
    exact ⟨field, hfld, by simpa using hkey, by simp⟩

/-! ## Blanks -/

theorem isBlank_of_toLower {b : UInt8} (h : isBlank b = true) : toLower b = b := by
  simp only [isBlank, Bool.or_eq_true, beq_iff_eq] at h
  obtain rfl | rfl := h <;> decide

theorem HeaderField.isLength_of_key {field : HeaderField}
    (h : field.key = contentLengthKey) : field.IsLength := by
  have hname : trim isBlank field.name = field.name := by
    apply trim_eq_self
    intro b hb
    by_contra hblank
    have hmem : toLower b ∈ contentLengthKey := by
      rw [← h]
      exact mem_map_of_mem hb
    rw [isBlank_of_toLower (by simpa using hblank)] at hmem
    have hnone : ∀ a ∈ contentLengthKey, isBlank a = false := by decide +kernel
    exact hblank (hnone b hmem)
  rw [IsLength, plainName, hname]
  exact h

theorem HeaderField.announced_of_stored {field : HeaderField} {n : ℕ}
    (h : fromChars field.stored = some n) : field.announced = some n := by
  have hdigs : field.stored ≠ [] ∧ field.stored.all isDigit = true := by
    unfold fromChars at h
    split at h
    next hvalid => exact ⟨hvalid.1, hvalid.2.1⟩
    · cases h
  have hclean : ∀ b ∈ field.stored, isBlank b = false := by
    intro b hb
    have hdigit := all_eq_true.mp hdigs.2 b hb
    by_contra hblank
    simp only [isBlank, Bool.not_eq_false, Bool.or_eq_true, beq_iff_eq] at hblank
    obtain rfl | rfl := hblank
    · exact absurd hdigit (by decide)
    · exact absurd hdigit (by decide)
  calc field.announced = fromChars (trim isBlank field.stored) := by
        rw [announced, stored, trim_dropWhile]
        simpa [isBlank] using Or.inl hb
    _ = fromChars field.stored := by rw [trim_eq_self hclean]
    _ = some n := h

/-- The requests that are framed as everybody else frames them are those with
an unambiguous head. -/
theorem Exchange.framed_iff {e : Exchange} (h : headLength e.head = some e.body.length) :
    e.Framed ↔ Unambiguous e.head := by
  constructor
  · intro hfrd
    refine ⟨hfrd.unchunked, ?_, ?_⟩
    · intro field hfld hlen other hother hotherLength
      rw [hfrd.announced field hfld hlen, hfrd.announced other hother hotherLength]
      exact ⟨rfl, rfl⟩
    · intro field hfld hlen hzero
      rcases headLength_cases e.head with ⟨other, hother, hkey, _⟩ | ⟨_, hnone⟩
      · exact ⟨other, hother, hkey⟩
      · -- without a field of the right name the body is empty
        rw [hfrd.announced field hfld hlen, ← h, hnone] at hzero
        exact absurd rfl hzero
  · intro hclear
    refine ⟨hclear.unchunked, ?_⟩
    intro field hfld hlen
    rcases headLength_cases e.head with
      ⟨other, hother, hkey, hfound⟩ | ⟨hnone, hfound⟩
    · have hannounced := HeaderField.announced_of_stored (hfound.symm.trans h)
      rw [(hclear.agreed field hfld hlen other hother
        (HeaderField.isLength_of_key hkey)).1, hannounced]
    · by_contra hne
      obtain ⟨other, hother, hkey⟩ := hclear.named field hfld hlen (by
        rwa [← hfound, h])
      exact hnone other hother hkey

/-! ## The stream and the requests in it -/

/-- The request was not refused. -/
def Exchange.Accepted (e : Exchange) : Prop := ∀ status, e.reply ≠ .refused status

/-- The bytes of the stream that belong to a request. -/
def Exchange.bytes (e : Exchange) : Bytes :=
  match e.reply with
  | .refused _ => []
  | _ => e.head ++ headEnd ++ e.body

/-- The head that was taken from the inbox and has no exchange yet. -/
def Connection.headBytes (c : Connection) : Bytes :=
  if c.state = .readingBody then c.requestHead ++ headEnd else []

/-- What holds of a transcript: the stream is made of the requests in their
order and a rest, each body is as long as the server found in the head, and
nothing follows a refused request. -/
structure Transcript.Cut (t : Transcript) : Prop where
  stream : t.exchanges.flatMap Exchange.bytes <+: t.received
  lengths : ∀ e ∈ t.exchanges, e.Accepted → headLength e.head = some e.body.length
  accepted : ∀ e ∈ t.exchanges.dropLast, e.Accepted

/-- The same of a connection that goes on.  After a refusal it only writes, and
closes then. -/
structure Connection.Cut (c : Connection) : Prop where
  stream : c.transcript.received =
    c.transcript.exchanges.flatMap Exchange.bytes ++ c.headBytes ++ c.inbox
  lengths : ∀ e ∈ c.transcript.exchanges, e.Accepted → headLength e.head = some e.body.length
  reading : c.state = .readingBody → headLength c.requestHead = some c.expectedBody
  accepted : ∀ e ∈ c.transcript.exchanges.dropLast, e.Accepted
  closing : ¬ (c.state = .writing ∧ c.keepAlive = false) → ∀ e ∈ c.transcript.exchanges, e.Accepted

/-- The same between the requests, when no head waits for its body. -/
structure Connection.Whole (c : Connection) : Prop where
  stream : c.transcript.received = c.transcript.exchanges.flatMap Exchange.bytes ++ c.inbox
  lengths : ∀ e ∈ c.transcript.exchanges, e.Accepted → headLength e.head = some e.body.length
  accepted : ∀ e ∈ c.transcript.exchanges.dropLast, e.Accepted

namespace Connection.Whole

variable {c : Connection}

theorem transcript (h : c.Whole) : c.transcript.Cut := { h with stream := ⟨c.inbox, h.stream.symm⟩ }

theorem startWriting (h : c.Whole) (resp : HttpResponse)
    {keep : Bool} (hclo : keep = true → ∀ e ∈ c.transcript.exchanges, e.Accepted) :
    (c.startWriting resp keep).Cut :=
  { h with
    stream := by
      have hhead : (c.startWriting resp keep).headBytes = [] := rfl
      rw [hhead, append_nil]
      exact h.stream
    reading := nofun
    closing := fun hopen => hclo (by simpa [Connection.startWriting] using hopen) }

theorem park (h : c.Whole) (hall : ∀ e ∈ c.transcript.exchanges, e.Accepted)
    (d : ℕ) (keep : Bool) : (c.park d keep).Cut :=
  { h with
    stream := by
      have hhead : (c.park d keep).headBytes = [] := rfl
      rw [hhead, append_nil]
      exact h.stream
    reading := nofun
    closing := fun _ => hall }

end Connection.Whole

namespace Connection.Cut

variable {c : Connection}

theorem transcript (h : c.Cut) : c.transcript.Cut :=
  { h with
    stream := ⟨c.headBytes ++ c.inbox, by rw [h.stream, append_assoc]⟩ }

theorem all_accepted (h : c.Cut) (hst : c.state ≠ .writing) :
    ∀ e ∈ c.transcript.exchanges, e.Accepted :=
  h.closing fun hclo => hst hclo.1

theorem whole (h : c.Cut) (hst : c.state ≠ .readingBody) : c.Whole :=
  { h with
    stream := by
      have hstr := h.stream
      rwa [headBytes, if_neg hst, append_nil] at hstr }

theorem receive (h : c.Cut) (bytes : Bytes) : (c.receive bytes).Cut :=
  { h with
    stream := by
      simp only [Connection.receive, h.stream, append_assoc]
      rfl }

theorem takeHead (h : c.Cut) {opts : AsyncHttpServerOptions} {marker length : ℕ} {req : HttpRequest}
    (hst : c.state = .readingHead) (hmark : find headEnd c.inbox = some marker)
    (hacc : acceptHead opts c.clientIp c.inbox marker = .ok (req, length)) :
    (c.takeHead marker req length).Cut :=
  { h with
    stream := by
      have hinbox := find_eq_some hmark
      calc c.transcript.received = c.transcript.exchanges.flatMap Exchange.bytes ++ c.inbox :=
            (h.whole (by rw [hst]; decide)).stream
        _ = c.transcript.exchanges.flatMap Exchange.bytes ++ (c.inbox.take marker ++ headEnd ++
                c.inbox.drop (marker + headEnd.length)) := by rw [← hinbox]
        _ = _ := by rw [← append_assoc]; rfl
    reading := fun _ => headLength_of_acceptHead hacc
    closing := fun _ => h.all_accepted (by rw [hst]; decide) }

theorem record_refused (h : c.Cut) (hst : c.state = .readingHead)
    (status : ℕ) : (c.record ⟨[], [], .refused status⟩).Whole where
  stream := by simpa [record, Exchange.bytes] using (h.whole (by rw [hst]; decide)).stream
  lengths := by
    intro e he hacc
    rcases mem_append.mp he with hold | hnew
    · exact h.lengths e hold hacc
    · obtain rfl := mem_singleton.mp hnew
      exact absurd rfl (hacc status)
  accepted := by simpa [record] using h.all_accepted (by rw [hst]; decide)

theorem takeBody_accepted (h : c.Cut) (hst : c.state = .readingBody)
    (req : HttpRequest) {reply : Reply} (hrep : ∀ status, reply ≠ .refused status) :
    ∀ e ∈ (c.takeBody req reply).transcript.exchanges, e.Accepted := by
  intro e he
  rcases mem_append.mp he with hold | hnew
  · exact h.all_accepted (by rw [hst]; decide) e hold
  · obtain rfl := mem_singleton.mp hnew
    exact hrep

theorem takeBody (h : c.Cut) (hst : c.state = .readingBody)
    (hbody : c.expectedBody ≤ c.inbox.length) (req : HttpRequest)
    {reply : Reply} (hrep : ∀ status, reply ≠ .refused status) : (c.takeBody req reply).Whole where
  stream := by
    have hby : Exchange.bytes ⟨c.requestHead, c.inbox.take c.expectedBody, reply⟩ =
          c.requestHead ++ headEnd ++ c.inbox.take c.expectedBody := by
      cases reply with
      | refused status => exact absurd rfl (hrep status)
      | handled | deferred => rfl
    have hstr := h.stream
    rw [headBytes, if_pos hst] at hstr
    simp only [Connection.takeBody, record, flatMap_append,
      flatMap_cons, flatMap_nil, append_nil, hby, hstr, append_assoc, take_append_drop]
  lengths := by
    intro e he hacc
    rcases mem_append.mp he with hold | hnew
    · exact h.lengths e hold hacc
    · obtain rfl := mem_singleton.mp hnew
      rw [length_take, min_eq_left hbody]
      exact h.reading hst
  accepted := by
    intro e he
    exact h.takeBody_accepted hst req hrep e  ((dropLast_sublist _).subset he)

theorem finishResponse (h : c.Cut) (hst : c.state = .writing) :
    c.finishResponse.Meets Connection.Cut Transcript.Cut := by
  unfold Connection.finishResponse
  split
  next hkeep =>
    have hwhole := h.whole (by rw [hst]; decide)
    exact
      { stream := by simpa [headBytes] using hwhole.stream
        lengths := h.lengths
        reading := nofun
        accepted := h.accepted
        closing := fun _ => h.closing (by simp [hkeep]) }
  · exact h.transcript

theorem release (h : c.Cut) : c.release.Cut :=
  ⟨h.stream, h.lengths, h.reading, h.accepted, h.closing⟩

theorem resume (h : c.Cut) (hst : c.state = .deferred)
    (resp : HttpResponse) : (c.resume resp).Cut :=
  (h.release.whole (by simp [Connection.release, hst])).startWriting _
    fun _ => h.all_accepted (by simp [hst])

theorem step {cfg : ServerConfig} {shared shared' : Shared}
    {out : Outcome} (hstep : Step cfg shared c shared' out)
    (h : c.Cut) : out.Meets Connection.Cut Transcript.Cut := by
  cases hstep with
  | receive bytes => exact h.receive bytes
  | takeHead hst hmark hacc => exact h.takeHead hst hmark hacc
  | refuse status hst => exact (h.record_refused hst status).startWriting _ nofun
  | answer req resp keep hst hbody =>
    have hrep : ∀ status, Reply.handled resp ≠ .refused status := nofun
    exact (h.takeBody hst hbody req hrep).startWriting _ fun _ => h.takeBody_accepted hst req hrep
  | drop req resp hst hbody =>
    have hrep : ∀ status, Reply.handled resp ≠ .refused status := nofun
    exact (h.takeBody hst hbody req hrep).transcript
  | park req d keep hst hbody =>
    have hrep : ∀ status, Reply.deferred d ≠ .refused status := nofun
    exact (h.takeBody hst hbody req hrep).park (h.takeBody_accepted hst req hrep) d keep
  | send count hst => exact ⟨h.stream, h.lengths, h.reading, h.accepted, h.closing⟩
  | finish hst huns => exact h.finishResponse hst
  | close => exact h.transcript

end Connection.Cut

/-- In every run, the stream of every connection is cut into its requests one
after another, and a request that was accepted is framed as its sender and
every proxy frame it exactly if its head is unambiguous. -/
theorem EventLoop.framed_iff_unambiguous (config : ServerConfig)
    (actions : List Action) {t : Transcript}
    (ht : (Run.run (EventLoop.perform config) {} actions).Recorded t) :
    t.exchanges.flatMap Exchange.bytes <+: t.received ∧ (∀ e ∈ t.exchanges.dropLast, e.Accepted) ∧
      ∀ e ∈ t.exchanges, e.Accepted → (e.Framed ↔ Unambiguous e.head) := by
  have hall : (Run.run (EventLoop.perform config) {} actions).view.Each
      Connection.Cut Transcript.Cut := by
    refine EventLoop.run_view_invariant config ?_ ?_ actions
    · intro v v' hstep hv
      refine hstep.each ?_ (fun hstep hc => Connection.Cut.step hstep hc)
        (fun c response hstate hc => hc.resume hstate response)
        (fun c hc => hc.release) hv
      intro fd id clientIp
      exact ⟨rfl, nofun, nofun, nofun, fun _ => nofun⟩
    · exact ⟨nofun, nofun⟩
  have hcut : t.Cut := by
    rcases ht with hfinished | ⟨fd, c, hc, rfl⟩
    · exact hall.closed t hfinished
    · exact (hall.alive fd c hc).transcript
  exact ⟨hcut.stream, hcut.accepted, fun e he haccepted =>
    Exchange.framed_iff (hcut.lengths e he haccepted)⟩

/-- A server whose handler answers every request at once. -/
def plainServer : ServerConfig where
  handler := some fun _ _ => {}

/-- One connection sends `stream`, and its socket takes what is written. -/
def sentAtOnce (stream : Bytes) : List Action :=
  [.accepted 7 [], .readable 7 [.data stream] [.accepted 1000, .accepted 1000, .accepted 1000]]

theorem EventLoop.framed_iff_unambiguous_posted : ∃ c, (Run.run (EventLoop.perform plainServer) {}
        (sentAtOnce (textBytes
          "POST /a HTTP/1.1\r\nContent-Length: 2\r\n\r\nok"))).connections.lookup
            7 = some c ∧
      c.transcript.exchanges.length = 1 ∧
      ∀ e ∈ c.transcript.exchanges, e.Accepted → (e.Framed ↔ Unambiguous e.head) := by
  obtain ⟨c, hc, hlength⟩ : ∃ c ∈ (Run.run (EventLoop.perform plainServer) {} (sentAtOnce
      "POST /a HTTP/1.1\r\nContent-Length: 2\r\n\r\nok")).connections.lookup 7,
        c.transcript.exchanges.length = 1 := by decide +kernel
  exact ⟨c, hc, hlength, (EventLoop.framed_iff_unambiguous plainServer _
    (.inr ⟨7, c, hc, rfl⟩)).2.2⟩

/-- A head with a blank between the name of the field and the colon. -/
def blankedHead : Bytes := "POST /a HTTP/1.1\r\nContent-Length : 19"

/-- The nineteen bytes that the first request announces as its body are served
as a request of their own. -/
theorem EventLoop.blankedHead_body_is_served : (headerFields blankedHead).map (fun field =>
        (decide field.IsLength, field.announced)) = [(true, some 19)] ∧
      ¬ Exchange.Framed ⟨blankedHead, [], .handled {}⟩ ∧
      ((Run.run (EventLoop.perform plainServer) {} (sentAtOnce (blankedHead ++ headEnd ++
          textBytes "GET /b HTTP/1.1\r\n\r\n"))).connections.lookup 7).map
            (·.transcript.exchanges) =
        some [⟨blankedHead, [], .handled {}⟩, ⟨"GET /b HTTP/1.1", [], .handled {}⟩] := by
  refine ⟨by decide +kernel, ?_, by decide +kernel⟩
  intro hframed
  have hbody := hframed.announced ⟨"Content-Length ", " 19"⟩
    (by decide +kernel) (by decide +kernel)
  exact absurd hbody (by decide +kernel)

end RtmpCore.Http
