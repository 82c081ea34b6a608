import RtmpCore.Http.LoopSteps

/-!
# Responses in the order of the requests

What was written on a connection is a beginning of the responses to its
requests, in their order, each with its own head and the exact slice of its
body.  This module shows it of a single connection: each of its steps keeps
the answers matched with the requests, provided that a connection that waits
is given an answer that was meant for it.
-/

namespace RtmpCore.Http

open List

def Answer.wire (a : Answer) : Bytes :=
  serializeResponseHead a.response a.keepAlive ++ a.response.payload

/-- The answer is one to the request.  A postponed request is answered by the
response that was supplied first, or by the one for its timeout. -/
def Replies (config : ServerConfig) (resolutions : List (ℕ × HttpResponse)) : Reply → Answer → Prop
  | .handled response, a => a.response = response
  | .refused status, a => a.response = Connection.badRequest status
  | .deferred d, a =>
    a.response = EventLoop.timeoutAnswer config d ∨ ∃ response, (d, response) ∈ resolutions ∧
        a.response = EventLoop.unnested response

theorem Replies.mono {cfg : ServerConfig}
    {resolutions : List (ℕ × HttpResponse)} {reply : Reply} {a : Answer}
    (h : Replies cfg resolutions reply a) (more : List (ℕ × HttpResponse)) :
    Replies cfg (resolutions ++ more) reply a := by
  cases reply with
  | handled | refused => exact h
  | deferred d =>
    rcases h with htime | ⟨resp, hresp, ha⟩
    · exact .inl htime
    · exact .inr ⟨resp, mem_append_left more hresp, ha⟩

/-! ## Transcripts -/

namespace Transcript

/-- The answers answer the requests one by one, and `pending` are the requests
that are left. -/
def Matched (config : ServerConfig) (resolutions : List (ℕ × HttpResponse))
    (t : Transcript) (pending : List Exchange) : Prop :=
  ∃ answered, t.exchanges = answered ++ pending ∧
    List.Forall₂ (fun e a => Replies config resolutions e.reply a) answered
      t.answers

def wire (t : Transcript) : Bytes := t.answers.flatMap Answer.wire

/-- What holds of a transcript at any time: at most the last request is without
an answer, and no more and nothing else was written than the answers. -/
structure Sound (config : ServerConfig)
    (resolutions : List (ℕ × HttpResponse)) (t : Transcript) : Prop where
  matched : ∃ pending, pending.length ≤ 1 ∧ t.Matched config resolutions pending
  written : t.written <+: t.wire

variable {cfg : ServerConfig} {resolutions : List (ℕ × HttpResponse)}
  {t : Transcript} {pending : List Exchange}

theorem Matched.mono (h : t.Matched cfg resolutions pending) (more : List (ℕ × HttpResponse)) :
    t.Matched cfg (resolutions ++ more) pending := by
  obtain ⟨answered, hexch, hforall⟩ := h
  exact ⟨answered, hexch, hforall.imp fun e a ha => ha.mono more⟩

theorem Sound.mono (h : t.Sound cfg resolutions)
    (more : List (ℕ × HttpResponse)) : t.Sound cfg (resolutions ++ more) := by
  obtain ⟨pending, hlen, hmatch⟩ := h.matched
  exact ⟨⟨pending, hlen, hmatch.mono more⟩, h.written⟩

end Transcript

/-! ## Connections -/

namespace Connection

/-- The rest of the response that is being written. -/
def pendingBytes (c : Connection) : Bytes := if c.state = .writing then c.unsent else []

/-- One request is without an answer and no response is being written. -/
structure Due (config : ServerConfig) (resolutions : List (ℕ × HttpResponse))
    (c : Connection) (e : Exchange) : Prop where
  matched : c.transcript.Matched config resolutions [e]
  written : c.transcript.written = c.transcript.wire

/-- The answers match the requests, up to the one the connection waits for,
and what was written and the rest of the last response are the answers. -/
structure Sound (config : ServerConfig) (resolutions : List (ℕ × HttpResponse))
    (c : Connection) : Prop where
  matched : c.state ≠ .deferred → c.transcript.Matched config resolutions []
  waiting : c.state = .deferred → ∃ e, c.transcript.Matched config resolutions [e]
  written : c.transcript.written ++ c.pendingBytes = c.transcript.wire

/-- The connection waits for the postponed response `d`. -/
def Awaits (c : Connection) (d : ℕ) : Prop :=
  c.state = .deferred ∧ c.transcript.exchanges.getLast?.map Exchange.reply = some (.deferred d)

theorem Awaits.unique {c : Connection} {d d' : ℕ} (h : c.Awaits d) (h' : c.Awaits d') : d = d' := by
  have heq := h.2.symm.trans h'.2
  cases heq
  rfl

theorem unsent_advance (c : Connection) (count : ℕ) :
    (c.advance count).unsent = c.unsent.drop count := by
  have hbody : (c.advance count).bodyBytes = c.bodyBytes := rfl
  rw [unsent, hbody]
  simp only [advance, unsent, drop_append, length_drop, drop_drop]
  rcases le_total count (c.outHead.length - c.headSent) with hle | hle
  · rw [min_eq_left hle, Nat.sub_self, Nat.sub_eq_zero_of_le hle]
  · rw [min_eq_right hle]
    congr 1
    · rw [drop_eq_nil_of_le, drop_eq_nil_of_le] <;> omega

theorem unsent_startWriting (c : Connection) (resp : HttpResponse) (keep : Bool) :
    (c.startWriting resp keep).unsent = Answer.wire ⟨resp, keep⟩ := by
  simp only [unsent, bodyBytes, startWriting, Answer.wire, HttpResponse.payload]
  split
  · simp
  · rfl

variable {cfg : ServerConfig} {resolutions : List (ℕ × HttpResponse)} {c : Connection}

theorem Due.transcript {e : Exchange} (h : c.Due cfg resolutions e) :
    c.transcript.Sound cfg resolutions where
  matched := ⟨[e], le_rfl, h.matched⟩
  written := h.written ▸ prefix_refl _

theorem Due.startWriting {e : Exchange} (h : c.Due cfg resolutions e)
    {resp : HttpResponse} {keep : Bool} (hreplies : Replies cfg resolutions e.reply ⟨resp, keep⟩) :
    (c.startWriting resp keep).Sound cfg resolutions where
  matched := fun _ => by
    obtain ⟨answered, hexch, hforall⟩ := h.matched
    refine ⟨answered ++ [e], by simpa [Connection.startWriting] using hexch, ?_⟩
    exact rel_append hforall (.cons hreplies .nil)
  waiting := nofun
  written := by
    have hpend : (c.startWriting resp keep).pendingBytes = Answer.wire ⟨resp, keep⟩ := by
      have hst : (c.startWriting resp keep).state = .writing := rfl
      rw [pendingBytes, if_pos hst, unsent_startWriting]
    rw [hpend]
    simpa [Connection.startWriting, Transcript.wire] using h.written

namespace Sound

section

variable (h : c.Sound cfg resolutions)
include h

theorem transcript : c.transcript.Sound cfg resolutions where
  matched := by
    by_cases hst : c.state = .deferred
    · obtain ⟨e, hmatch⟩ := h.waiting hst
      exact ⟨[e], le_rfl, hmatch⟩
    · exact ⟨[], Nat.zero_le 1, h.matched hst⟩
  written := ⟨c.pendingBytes, h.written⟩

theorem mono (more : List (ℕ × HttpResponse)) : c.Sound cfg (resolutions ++ more) :=
  { h with
    matched := fun hst => (h.matched hst).mono more
    waiting := fun hst =>
      let ⟨e, hmatch⟩ := h.waiting hst
      ⟨e, hmatch.mono more⟩ }

theorem written_eq (hst : c.state ≠ .writing) : c.transcript.written = c.transcript.wire := by
  have hwrit := h.written
  rwa [pendingBytes, if_neg hst, append_nil] at hwrit

/-- A connection that is reading has a request to answer when one is
recorded. -/
theorem record (hdef : c.state ≠ .deferred) (hwrit : c.state ≠ .writing) (e : Exchange) :
    (c.record e).Due cfg resolutions e where
  matched := by
    obtain ⟨answered, hexch, hforall⟩ := h.matched hdef
    refine ⟨answered, ?_, hforall⟩
    simp [Connection.record, hexch]
  written := h.written_eq hwrit

theorem takeBody (hst : c.state = .readingBody) (req : HttpRequest) (reply : Reply) :
    (c.takeBody req reply).Due cfg resolutions
      ⟨c.requestHead, c.inbox.take c.expectedBody, reply⟩ :=
  let due := h.record (by simp [hst]) (by simp [hst])
    ⟨c.requestHead, c.inbox.take c.expectedBody, reply⟩
  ⟨due.matched, due.written⟩

theorem due {d : ℕ} (hawait : c.Awaits d) :
    ∃ e, e.reply = .deferred d ∧ c.Due cfg resolutions e := by
  obtain ⟨e, hmatch⟩ := h.waiting hawait.1
  refine ⟨e, ?_, hmatch, h.written_eq (by simp [hawait.1])⟩
  obtain ⟨answered, hexch, _⟩ := hmatch
  simpa [hexch] using hawait.2

theorem advance (hst : c.state = .writing) (count : ℕ) : (c.advance count).Sound cfg resolutions :=
  { h with
    written := by
      have hwrit := h.written
      rw [pendingBytes, if_pos hst] at hwrit
      rw [pendingBytes, if_pos (by simpa using hst), unsent_advance]
      simpa [Connection.advance, Transcript.wire] using hwrit }

theorem finishResponse (hst : c.state = .writing) (huns : c.unsent = []) :
    c.finishResponse.Meets (Sound cfg resolutions) (Transcript.Sound cfg resolutions) := by
  unfold Connection.finishResponse
  split
  · have hwrit := h.written
    rw [pendingBytes, if_pos hst, huns] at hwrit
    exact
      { matched := fun _ => h.matched (by simp [hst]), waiting := nofun, written := hwrit }
  · exact h.transcript

theorem step {shared shared' : Shared} {out : Outcome} (hstep : Step cfg shared c shared' out) :
    out.Meets (Sound cfg resolutions) (Transcript.Sound cfg resolutions) := by
  cases hstep with
  | receive bytes => exact ⟨h.matched, h.waiting, h.written⟩
  | takeHead hst hmark hacc =>
    exact
      { matched := fun _ => h.matched (by simp [hst])
        waiting := nofun
        written := by
          have hwrit := h.written_eq (by simp [hst])
          simpa [pendingBytes, Connection.takeHead] using hwrit }
  | refuse status hst => exact (h.record (by simp [hst]) (by simp [hst]) _).startWriting rfl
  | answer req resp keep hst hbody => exact (h.takeBody hst req _).startWriting rfl
  | drop req resp hst hbody => exact (h.takeBody hst req _).transcript
  | park req d keep hst hbody =>
    have hdue := h.takeBody hst req (.deferred d)
    exact
      { matched := fun hdef => absurd rfl hdef
        waiting := fun _ => ⟨_, hdue.matched⟩
        written := by simpa [pendingBytes, Connection.park] using hdue.written }
  | send count hst => exact h.advance hst count
  | finish hst huns => exact h.finishResponse hst huns
  | close => exact h.transcript

theorem release : c.release.Sound cfg resolutions := ⟨h.matched, h.waiting, h.written⟩

/-- A connection that waits answers with something that was meant for it. -/
theorem resume {d : ℕ} (hawait : c.Awaits d) {resp : HttpResponse}
    (hreplies : Replies cfg resolutions (.deferred d) ⟨resp, c.deferredKeepAlive⟩) :
    (c.resume resp).Sound cfg resolutions := by
  obtain ⟨e, hrep, hdue⟩ := h.release.due (d := d) hawait
  exact hdue.startWriting (by rwa [hrep])

end

end Sound

end Connection

end RtmpCore.Http
