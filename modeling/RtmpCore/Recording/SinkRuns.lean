import RtmpCore.Recording.SinkFile
import Mathlib.Data.List.TakeWhile

/-!
# Runs of the sink

`Serves s a` relates a sink to the account of its exchange with the producer:
the file that the sink will have is the one that the accepted operations
describe, or the sink has failed and will not be published.  The writer thread
keeps the relation, and so does every call, if no patch is accepted after the
sink was finalized.
-/

namespace RtmpCore.Recording

open RtmpCore.Core List AsyncFileSink

theorem File.apply_of_empty (file : File) (op : Op) (h : op.data = []) : file.apply op = file := by
  cases op with
  | append data | patch _ data =>
    cases (show data = [] from h)
    rfl

namespace AsyncFileSink

variable {s s' : AsyncFileSink} {a : Account}

/-! ## What a call can do -/

/-- A call leaves alone what belongs to the writer thread. -/
structure CallFrame (s s' : AsyncFileSink) : Prop where
  options : s'.options = s.options
  healthy : s'.healthy = s.healthy
  failure : s'.failure = s.failure
  writer : s'.writer = s.writer
  file : s'.file = s.file
  published : s'.published = s.published

theorem Clean.of_frame (h : s.Clean) (hfr : CallFrame s s') : s'.Clean :=
  ⟨hfr.healthy.trans h.healthy, hfr.failure.trans h.failure, by rw [hfr.writer]; exact h.calm⟩

theorem Doomed.of_frame (h : s.Doomed) (hfr : CallFrame s s') : s'.Doomed := by
  unfold Doomed
  rw [hfr.healthy, hfr.failure, hfr.writer]
  exact h

/-- A sink that has failed before it was published stays unpublished. -/
theorem lost_of_frame (h : s.Doomed ∧ s.published = none) (hfr : CallFrame s s') :
    s'.Doomed ∧ s'.published = none :=
  ⟨h.1.of_frame hfr, hfr.published.trans h.2⟩

theorem Hidden.of_frame (h : s.Hidden) (hfr : CallFrame s s') : s'.Hidden := by
  unfold Hidden
  rw [hfr.writer, hfr.published]
  exact h

theorem current_of_frame (hfr : CallFrame s s') : s'.current = s.current := by
  unfold current
  rw [hfr.writer, hfr.file]

/-- The critical section of an operation refuses it or queues it. -/
inductive Offered (s : AsyncFileSink) (op : Op) (s' : AsyncFileSink) : Except Error Unit → Prop
  | refused (e : Error) (hframe : CallFrame s s') (hqueue : s'.queue = s.queue)
      (hrequested : s'.finalizeRequested = s.finalizeRequested)
      (hreason : (e.code = .resourceExhausted ∧
          s.options.maxQueueBytes < s.queuedBytes + op.data.length) ∨
        s.finalizeRequested = true) :
      Offered s op s' (.error e)
  | taken (hframe : CallFrame s s') (hqueue : s'.queue = s.queue ++ [op])
      (hrequested : s'.finalizeRequested = s.finalizeRequested) :
      Offered s op s' (.ok ())

theorem enqueue_offered (s : AsyncFileSink) (op : Op) (full : String) :
    Offered s op (s.enqueue op full).1 (s.enqueue op full).2 := by
  unfold enqueue
  split
  case isTrue hfull => exact .refused _ ⟨rfl, rfl, rfl, rfl, rfl, rfl⟩ rfl rfl (.inl ⟨rfl, hfull⟩)
  case isFalse => exact .taken ⟨rfl, rfl, rfl, rfl, rfl, rfl⟩ rfl rfl

theorem lockedPatch_offered (s : AsyncFileSink) (offset : ℕ) (data : List UInt8) :
    Offered s (.patch offset data) (s.lockedPatch offset data).1 (s.lockedPatch offset data).2 :=
  s.enqueue_offered _ _

theorem lockedAppend_offered (s : AsyncFileSink) (data : List UInt8) :
    Offered s (.append data) (s.lockedAppend data).1 (s.lockedAppend data).2 := by
  unfold lockedAppend
  split
  case isTrue hreq => exact .refused _ ⟨rfl, rfl, rfl, rfl, rfl, rfl⟩ rfl rfl (.inr hreq)
  case isFalse =>
    have hoff := s.enqueue_offered (.append data) "recording queue full"
    generalize s.enqueue (.append data) "recording queue full" = result at hoff ⊢
    obtain ⟨s', answer⟩ := result
    cases hoff with
    | refused e hfr hqueue hreq hreason => exact .refused e hfr hqueue hreq hreason
    | taken hfr hqueue hreq => exact .taken { hfr with } hqueue hreq

/-! ## The sink and its account -/

/-- A sink that has not failed and that will have the file of the accepted
operations. -/
structure Faithful (s : AsyncFileSink) (a : Account) : Prop where
  clean : s.Clean
  eventual : s.eventual = fileOf a.ops
  drained : s.writer.isClosing = true ∨ s.writer.isOver = true →
    s.finalizeRequested = true ∧ s.queue = []
  published : s.published = none ∨ (s.writer.isOver = true ∧ s.published = some s.file.content)

structure Serves (s : AsyncFileSink) (a : Account) : Prop where
  closed : s.finalizeRequested = a.closed
  state : s.Faithful a ∨ (s.Doomed ∧ s.published = none)

theorem Faithful.content_eq (h : s.Faithful a)
    (hdone : s.writer.isClosing = true ∨ s.writer.isOver = true) :
    s.file.content = (fileOf a.ops).content := by
  rw [← h.eventual, AsyncFileSink.eventual, (h.drained hdone).2, foldl_nil, current_of_done hdone]

theorem Serves.published_eq (h : s.Serves a) {content : List UInt8}
    (hpub : s.published = some content) : content = (fileOf a.ops).content ∧ a.closed = true := by
  rcases h.state with hfaith | ⟨-, hnone⟩
  · rcases hfaith.published with hnone | ⟨hover, hcont⟩
    · rw [hnone] at hpub
      cases hpub
    · rw [hcont] at hpub
      cases hpub
      exact ⟨hfaith.content_eq (.inr hover), h.closed.symm.trans (hfaith.drained (.inr hover)).1⟩
  · rw [hnone] at hpub
    cases hpub

/-- Only the writer thread moves into the closing phases, and only from an empty
queue of a finalized sink. -/
theorem drained_moved (hmove : WriterMove s s')
    (h : s.writer.isClosing = true ∨ s.writer.isOver = true →
      s.finalizeRequested = true ∧ s.queue = [])
    (hclean : s.Clean) :
    s'.writer.isClosing = true ∨ s'.writer.isOver = true →
      s'.finalizeRequested = true ∧ s'.queue = [] := by
  cases hmove with
  | stay => exact h
  | drained _ hqueue hreq => exact fun _ => ⟨hreq, hqueue⟩
  | advanced next hclo => exact fun _ => h (.inl hclo)
  | published hwr => exact fun _ => h (.inl (by rw [hwr]; rfl))
  | reported renamed hwr => exact fun _ => h (.inr (by rw [hwr]; rfl))
  | known error next hwr => exact (hclean.not_failing hwr).elim
  | condemned next hwr => exact (hclean.not_condemning hwr).elim
  | accounted op =>
    dsimp only [finishOp]
    split
    all_goals rintro (hphase | hphase) <;> cases hphase
  | _ => rintro (hphase | hphase) <;> cases hphase

theorem Faithful.published_moved (h : s.Faithful a) (hmove : WriterMove s s') :
    s'.published = none ∨ (s'.writer.isOver = true ∧ s'.healthy = true ∧
        s'.published = some s'.file.content) := by
  rcases AsyncFileSink.published_moved hmove with hsame | ⟨hcont, hover, hheal⟩
  · rcases h.published with hnone | ⟨hover, hcont⟩
    · exact .inl (hsame.trans hnone)
    · obtain ⟨hover', hfile, hheal⟩ := over_moved hover hmove
      refine .inr ⟨hover', hheal.trans h.clean.healthy, ?_⟩
      rw [hsame, hcont, hfile]
  · exact .inr ⟨hover, hheal, hcont⟩

theorem Serves.moved (h : s.Serves a) (hmove : WriterMove s s') : s'.Serves a := by
  have hcl : s'.finalizeRequested = s.finalizeRequested := by
    cases hmove <;> rfl
  refine ⟨hcl.trans h.closed, ?_⟩
  rcases h.state with hfaith | ⟨hdoom, hnone⟩
  · have hpub := hfaith.published_moved hmove
    rcases hfaith.clean.moved hmove with hclean | hdoom
    · exact .inl
        { clean := hclean
          eventual := (eventual_moved hfaith.clean hclean hmove).trans
            hfaith.eventual
          drained := drained_moved hmove hfaith.drained hfaith.clean
          published := hpub.imp_right fun ⟨hover, _, hcont⟩ => ⟨hover, hcont⟩ }
    · refine .inr ⟨hdoom, hpub.resolve_right fun ⟨hover, hheal, _⟩ => ?_⟩
      exact absurd (hheal.symm.trans (hdoom.unhealthy_of_over hover)) (by decide)
  · exact .inr ⟨hdoom.moved hmove, published_eq_none_of_doomed hdoom hnone hmove⟩

/-! ## Calls -/

variable {op : Op} {a' : Account} {c : SinkCall}

/-- An operation that the queue takes is applied to the file that the sink will
have. -/
theorem eventual_taken (hfr : CallFrame s s') (hqueue : s'.queue = s.queue ++ [op]) :
    s'.eventual = s.eventual.apply op := by
  rw [eventual, hqueue, foldl_concat, current_of_frame hfr, eventual]

theorem Faithful.of_frame (h : s.Faithful a) (hfr : CallFrame s s') (hqueue : s'.queue = s.queue)
    (hreq : s.finalizeRequested = true → s'.finalizeRequested = true)
    (hfile : fileOf a'.ops = fileOf a.ops) : s'.Faithful a' where
  clean := h.clean.of_frame hfr
  eventual := by
    rw [AsyncFileSink.eventual, hqueue, current_of_frame hfr,
      ← AsyncFileSink.eventual, h.eventual, hfile]
  drained := by
    rw [hfr.writer, hqueue]
    exact fun hdone => (h.drained hdone).imp_left hreq
  published := by
    rw [hfr.published, hfr.writer, hfr.file]
    exact h.published

theorem Faithful.taken (h : s.Faithful a)
    (hfr : CallFrame s s') (hqueue : s'.queue = s.queue ++ [op])
    (hopen : s.finalizeRequested = false) (hops : a'.ops = a.ops ++ [op]) : s'.Faithful a' where
  clean := h.clean.of_frame hfr
  eventual := by rw [eventual_taken hfr hqueue, h.eventual, hops, fileOf_append]
  drained := by
    rw [hfr.writer]
    intro hdone
    exact absurd (hopen.symm.trans (h.drained hdone).1) (by decide)
  published := by
    rw [hfr.published, hfr.writer, hfr.file]
    exact h.published

/-- The accepted operations after one was offered. -/
def opsAfter (ops : List Op) (op : Op) : Except Error Unit → List Op
  | .ok _ => ops ++ [op]
  | .error _ => ops

/-- The sink keeps to its account when an operation is offered to it in time. -/
theorem Serves.offered {answer : Except Error Unit} (h : s.Serves a) (hoff : Offered s op s' answer)
    (htime : answer = .ok () → s.finalizeRequested = false) (hcl : a'.closed = a.closed)
    (hops : a'.ops = opsAfter a.ops op answer) : s'.Serves a' := by
  cases hoff with
  | refused e hfr hqueue hreq _ =>
    refine ⟨by rw [hreq, h.closed, hcl], h.state.imp (fun hfaith => ?_) (lost_of_frame · hfr)⟩
    exact hfaith.of_frame hfr hqueue (fun hr => hreq.trans hr) (by rw [hops]; rfl)
  | taken hfr hqueue hreq =>
    refine ⟨by rw [hreq, h.closed, hcl], h.state.imp (fun hfaith => ?_) (lost_of_frame · hfr)⟩
    exact hfaith.taken hfr hqueue (htime rfl) hops

/-- A call that takes the lock does so in time, unless it is a patch of a
finalized sink. -/
def inTime (s : AsyncFileSink) : SinkCall → Bool
  | .patch _ _ => !s.finalizeRequested
  | .pendingBytes | .append _ | .finalize => true

theorem lockedAppend_of_requested {data : List UInt8} (h : s.finalizeRequested = true) :
    s.lockedAppend data =
      (s, .error (storageError .invalidStateTransition "append after finalize")) :=
  if_pos h

theorem Serves.locked (h : s.Serves a) (c : SinkCall) (htime : s.inTime c = true) :
    (s.locked c).1.Serves (a.note ⟨c, (s.locked c).2⟩) := by
  cases c with
  | pendingBytes => exact h
  | append data =>
    dsimp only [AsyncFileSink.locked]
    refine h.offered (s.lockedAppend_offered data) (fun hok => ?_) ?_ ?_
    · cases hreq : s.finalizeRequested with
      | false => rfl
      | true =>
        rw [lockedAppend_of_requested hreq] at hok
        cases hok
    all_goals cases (s.lockedAppend data).2 <;> rfl
  | patch offset data =>
    dsimp only [AsyncFileSink.locked]
    refine h.offered (s.lockedPatch_offered offset data)
      (fun _ => by simpa [inTime] using htime) ?_ ?_
    all_goals cases (s.lockedPatch offset data).2 <;> rfl
  | finalize =>
    refine ⟨rfl, h.state.imp (fun hfaith => ?_) id⟩
    exact hfaith.of_frame ⟨rfl, rfl, rfl, rfl, rfl, rfl⟩ rfl (fun _ => rfl) rfl

/-- A call that is answered without its critical section.  Only `finalize` has an
effect; the operations that the others ask for have no data, or are refused by an
unhealthy sink. -/
inductive Begun (s : AsyncFileSink) : (c : SinkCall) → AsyncFileSink → c.Answer → Prop
  | plain {c : SinkCall} {answer : c.Answer} (hcall : c ≠ .finalize)
      (hfile : ∀ a : Account, fileOf (a.note ⟨c, answer⟩).ops = fileOf a.ops)
      (hfailed : ∀ a : Account, (a.note ⟨c, answer⟩).failed = true →
        a.failed = true ∨ s.healthy = false) : Begun s c s answer
  | finalized : Begun s .finalize { s with finalizeRequested := true } (.ok ())

theorem begin_begun {answer : c.Answer} (hbeg : s.begin c = some (s', answer)) :
    Begun s c s' answer := by
  cases c with
  | pendingBytes =>
    cases hbeg
    exact .plain nofun (fun _ => rfl) fun _ => .inl
  | append data | patch _ data =>
    simp only [begin] at hbeg
    split at hbeg
    case isTrue hemp =>
      cases hbeg
      refine .plain nofun (fun a => ?_) fun _ => .inl
      dsimp only [Account.note]
      rw [fileOf_append]
      exact File.apply_of_empty _ _ (isEmpty_iff.mp hemp)
    case isFalse =>
      split at hbeg
      case isTrue => cases hbeg
      case isFalse hheal =>
        cases hbeg
        exact .plain nofun (fun _ => rfl) fun _ _ => .inr (by simpa using hheal)
  | finalize =>
    cases hbeg
    exact .finalized

theorem callFrame_begin {answer : c.Answer} (hbeg : s.begin c = some (s', answer)) :
    CallFrame s s' := by
  cases begin_begun hbeg <;> exact ⟨rfl, rfl, rfl, rfl, rfl, rfl⟩

theorem closed_note (a : Account) (e : SinkExchange) :
    (a.note e).closed = (a.closed || decide (e.1 = .finalize)) := by
  obtain ⟨c, answer⟩ := e
  cases c with
  | pendingBytes | finalize => simp [Account.note]
  | append | patch => cases answer <;> simp [Account.note]

theorem Serves.begin {answer : c.Answer} (h : s.Serves a) (hbeg : s.begin c = some (s', answer)) :
    s'.Serves (a.note ⟨c, answer⟩) := by
  cases begin_begun hbeg with
  | plain hcall hfile =>
    refine ⟨by simp [closed_note, hcall, h.closed], h.state.imp_left fun hfaith => ?_⟩
    exact hfaith.of_frame ⟨rfl, rfl, rfl, rfl, rfl, rfl⟩ rfl id (hfile a)
  | finalized => exact h.locked .finalize rfl

theorem callFrame_locked (s : AsyncFileSink) (c : SinkCall) : CallFrame s (s.locked c).1 := by
  have hoffer : ∀ {op : Op} {s' : AsyncFileSink} {answer : Except Error Unit},
      Offered s op s' answer → CallFrame s s' := by
    intro op s' answer h
    cases h with
    | refused _ hfr => exact hfr
    | taken hfr => exact hfr
  cases c with
  | pendingBytes | finalize => exact ⟨rfl, rfl, rfl, rfl, rfl, rfl⟩
  | append data => exact hoffer (s.lockedAppend_offered data)
  | patch offset data => exact hoffer (s.lockedPatch_offered offset data)

/-! ## What a step can do -/

/-- A step of one of the two threads, with the exchange that it completes.  If
the step is timely, a patch does not take the lock of a finalized sink. -/
inductive SinkMove (timely : Prop) (s : AsyncFileSink) : AsyncFileSink → List SinkExchange → Prop
  | idle : SinkMove timely s s []
  | write {s' : AsyncFileSink} (hmove : WriterMove s s') : SinkMove timely s s' []
  | begun {s' : AsyncFileSink} (c : SinkCall) (answer : c.Answer)
      (hbegin : s.begin c = some (s', answer)) :
      SinkMove timely s s' [⟨c, answer⟩]
  | locked (c : SinkCall) (htime : timely → s.inTime c = true) :
      SinkMove timely s (s.locked c).1 [⟨c, (s.locked c).2⟩]

variable {timely : Prop} {news : List SinkExchange}

/-- What holds of the sink in every run. -/
structure Sound (options : SinkOptions) (s : AsyncFileSink) : Prop where
  options : s.options = options
  counted : s.Counted
  hidden : s.Hidden
  condition : s.Clean ∨ s.Doomed

theorem Sound.moved {options : SinkOptions} (h : s.Sound options)
    (hmove : SinkMove timely s s' news) : s'.Sound options := by
  cases hmove with
  | idle => exact h
  | write hmove =>
    have hopts : s'.options = s.options := by cases hmove <;> rfl
    exact ⟨hopts.trans h.options, h.counted.moved hmove, h.hidden.moved hmove,
      h.condition.elim (fun hclean => hclean.moved hmove) (fun hdoom => .inr (hdoom.moved hmove))⟩
  | begun c answer hbeg =>
    have hfr := callFrame_begin hbeg
    refine ⟨hfr.options.trans h.options, ?_, h.hidden.of_frame hfr,
      h.condition.imp (fun hclean => hclean.of_frame hfr) (fun hdoom => hdoom.of_frame hfr)⟩
    cases begin_begun hbeg with
    | plain => exact h.counted
    | finalized => exact { h.counted with }
  | locked c =>
    have hfr := s.callFrame_locked c
    exact ⟨hfr.options.trans h.options, h.counted.locked c, h.hidden.of_frame hfr,
      h.condition.imp (fun hclean => hclean.of_frame hfr) (fun hdoom => hdoom.of_frame hfr)⟩

theorem lost_moved (h : s.Doomed ∧ s.published = none)
    (hmove : SinkMove timely s s' news) : s'.Doomed ∧ s'.published = none := by
  cases hmove with
  | idle => exact h
  | write hmove => exact ⟨h.1.moved hmove, published_eq_none_of_doomed h.1 h.2 hmove⟩
  | begun c answer hbeg => exact lost_of_frame h (callFrame_begin hbeg)
  | locked c => exact lost_of_frame h (s.callFrame_locked c)

theorem Serves.step (h : s.Serves a) (htimely : timely)
    (hmove : SinkMove timely s s' news) : s'.Serves (news.foldl Account.note a) := by
  cases hmove with
  | idle => exact h
  | write hmove => exact h.moved hmove
  | begun c answer hbeg => exact h.begin hbeg
  | locked c htime => exact h.locked c (htime htimely)

theorem news_cases (hmove : SinkMove timely s s' news) : news = [] ∨ ∃ e, news = [e] := by
  cases hmove with
  | idle | write => exact .inl rfl
  | begun | locked => exact .inr ⟨_, rfl⟩

theorem fileOf_late (hreq : s.finalizeRequested = true) (htimely : timely)
    (hmove : SinkMove timely s s' news) :
    fileOf (news.foldl Account.note a).ops = fileOf a.ops := by
  cases hmove with
  | idle | write => rfl
  | begun c answer hbeg =>
    cases begin_begun hbeg with
    | plain _ hfile => exact hfile a
    | finalized => rfl
  | locked c htime =>
    cases c with
    | pendingBytes | finalize => rfl
    | append data =>
      dsimp only [AsyncFileSink.locked]
      rw [lockedAppend_of_requested hreq]
      rfl
    | patch offset data =>
      have hopen := htime htimely
      simp [inTime, hreq] at hopen

/-- The `pwrite` of this step fails. -/
def writeFails (s : AsyncFileSink) (io : IoAnswer) : Bool :=
  match s.writer, io with
  | .writing _ (_ :: _) _, .failed _ | .writing _ (_ :: _) _, .result 0 => true
  | _, _ => false

theorem Sound.doomed_of_writeFails {options : SinkOptions} {io : IoAnswer}
    (h : s.Sound options) (hfails : s.writeFails io = true) :
    (s.writerStep io).Doomed ∧ (s.writerStep io).published = none := by
  obtain ⟨op, byte, rest, pos, hwr, hio⟩ :
      ∃ op byte rest pos, s.writer = .writing op (byte :: rest) pos ∧
        (io = .result 0 ∨ ∃ reason, io = .failed reason) := by
    unfold writeFails at hfails
    cases hwr : s.writer with
    | writing op rem pos =>
      rw [hwr] at hfails
      match rem, io with
      | byte :: rest, .failed reason => exact ⟨op, byte, rest, pos, rfl, .inr ⟨reason, rfl⟩⟩
      | byte :: rest, .result 0 => exact ⟨op, byte, rest, pos, rfl, .inl rfl⟩
      | [], _ | _ :: _, .interrupted | _ :: _, .result (_ + 1) => cases hfails
    | _ =>
      rw [hwr] at hfails
      cases hfails
  obtain ⟨error, hstep⟩ : ∃ error,
      s.writerStep io = { s with writer := .failing error .waiting } := by
    rcases hio with rfl | ⟨reason, rfl⟩
    all_goals
      simp only [writerStep, hwr]
      exact ⟨_, rfl⟩
  have hnone : s.published = none := h.hidden.resolve_left (by rw [hwr]; exact Bool.false_ne_true)
  rw [hstep]
  refine ⟨?_, hnone⟩
  rcases h.condition with hclean | hsick | ⟨next, hwr'⟩ | ⟨-, error', next, hwr'⟩
  · exact .inr (.inr ⟨hclean.failure, error, .waiting, rfl⟩)
  · exact .inl hsick
  · rw [hwr] at hwr'
    cases hwr'
  · rw [hwr] at hwr'
    cases hwr'

end AsyncFileSink

/-! ## Interleavings of a producer and the writer thread -/

/-- The operations that were accepted before the sink was finalized. -/
def acceptedBeforeFinalize (history : List SinkExchange) : List Op :=
  (account (history.takeWhile fun e => decide (e.1 ≠ .finalize))).ops

namespace SinkSystem

variable {s : SinkSystem}

/-- A patch that takes the lock does so before the sink is finalized. -/
def patchInTime (s : SinkSystem) : SinkEvent → Bool
  | .lock => s.entering.all s.sink.inTime
  | .call _ | .write _ => true

theorem step_move (s : SinkSystem) (ev : SinkEvent) :
    ∃ news, AsyncFileSink.SinkMove (s.patchInTime ev = true) s.sink (s.step ev).sink news ∧
      (s.step ev).history = s.history ++ news := by
  cases ev with
  | call c =>
    dsimp only [step]
    split
    case h_1 => exact ⟨[], .idle, by simp⟩
    case h_2 =>
      split
      case h_1 => exact ⟨[], .idle, by simp⟩
      case h_2 sink answer hbeg => exact ⟨_, .begun c answer hbeg, rfl⟩
  | lock =>
    dsimp only [step]
    split
    case h_1 => exact ⟨[], .idle, by simp⟩
    case h_2 c hent =>
      refine ⟨_, .locked c fun htime => ?_, rfl⟩
      simpa [patchInTime, hent] using htime
  | write io => exact ⟨[], .write (s.sink.writerStep_move io), by simp [step]⟩

/-- What holds along a run in which no patch comes too late. -/
structure Kept (s : SinkSystem) : Prop where
  serves : s.sink.Serves (account s.history)
  early : fileOf (account s.history).ops = fileOf (acceptedBeforeFinalize s.history)

theorem account_append (history news : List SinkExchange) :
    account (history ++ news) = news.foldl Account.note (account history) :=
  foldl_append

theorem closed_account (history : List SinkExchange) :
    (account history).closed = history.any fun e => decide (e.1 = .finalize) := by
  induction history using List.reverseRecOn with
  | nil => rfl
  | append_singleton history e ih => simp [account_append, closed_note, ih]

variable {history : List SinkExchange} {e : SinkExchange}

theorem acceptedBeforeFinalize_eq (h : (history.any fun e => decide (e.1 = .finalize)) = false) :
    acceptedBeforeFinalize history = (account history).ops := by
  have hall : history.takeWhile (fun e => decide (e.1 ≠ .finalize)) = history := by simpa using h
  rw [acceptedBeforeFinalize, hall]

theorem ops_note_finalize {a : Account} (h : e.1 = .finalize) : (a.note e).ops = a.ops := by
  obtain ⟨c, answer⟩ := e
  cases h
  rfl

theorem acceptedBeforeFinalize_finalize
    (h : (history.any fun e => decide (e.1 = .finalize)) = false) (hfinal : e.1 = .finalize) :
    acceptedBeforeFinalize (history ++ [e]) = (account history).ops := by
  have hall : ∀ x ∈ history, decide (x.1 ≠ .finalize) = true := by simpa using h
  have hcut : (history ++ [e]).takeWhile (fun e => decide (e.1 ≠ .finalize)) = history := by
    rw [takeWhile_append_of_pos hall]
    simp [hfinal]
  rw [acceptedBeforeFinalize, hcut]

theorem acceptedBeforeFinalize_append (h : (history.any fun e => decide (e.1 = .finalize)) = true)
    (news : List SinkExchange) :
    acceptedBeforeFinalize (history ++ news) = acceptedBeforeFinalize history := by
  have hcut : history.takeWhile (fun e => decide (e.1 ≠ .finalize)) ≠ history := by simpa using h
  have hlen : (history.takeWhile fun e => decide (e.1 ≠ .finalize)).length ≠
        history.length := fun hsame =>
    hcut ((List.takeWhile_prefix _).eq_of_length hsame)
  rw [acceptedBeforeFinalize, takeWhile_append, if_neg hlen, acceptedBeforeFinalize]

theorem Kept.step (h : s.Kept) {ev : SinkEvent}
    (htime : s.patchInTime ev = true) : (s.step ev).Kept := by
  obtain ⟨news, hmove, hhist⟩ := s.step_move ev
  have hreq := h.serves.closed.trans (closed_account s.history)
  constructor
  · rw [hhist, account_append]
    exact h.serves.step htime hmove
  · cases hbef : s.sink.finalizeRequested with
    | true =>
      rw [hhist, acceptedBeforeFinalize_append (hreq.symm.trans hbef), account_append,
        fileOf_late hbef htime hmove, h.early]
    | false =>
      have hnone := hreq.symm.trans hbef
      rcases news_cases hmove with rfl | ⟨e, rfl⟩
      · rw [hhist, append_nil, h.early]
      · by_cases hfinal : e.1 = .finalize
        · rw [hhist, acceptedBeforeFinalize_finalize hnone hfinal,
            account_append, foldl_cons, foldl_nil, ops_note_finalize hfinal]
        · rw [hhist, acceptedBeforeFinalize_eq]
          simp [hnone, hfinal]

theorem sound_start (options : SinkOptions) : AsyncFileSink.Sound options { options } where
  options := rfl
  counted := ⟨rfl, Nat.zero_le _⟩
  hidden := .inr rfl
  condition := .inl ⟨rfl, rfl, rfl⟩

theorem kept_start (options : SinkOptions) : Kept { sink := { options } } where
  serves :=
    ⟨rfl, .inl
      { clean := ⟨rfl, rfl, rfl⟩
        eventual := rfl
        drained := fun h => by rcases h with h | h <;> cases h
        published := .inl rfl }⟩
  early := rfl

theorem sound_run (options : SinkOptions) (evs : List SinkEvent) :
    (Run.run step { sink := { options } } evs).sink.Sound options := by
  refine Run.run_invariant_always (fun s : SinkSystem => s.sink.Sound options)
    (sound_start options) fun s ev hsnd => ?_
  obtain ⟨news, hmove, -⟩ := s.step_move ev
  exact hsnd.moved hmove

theorem lost_run (h : s.sink.Doomed ∧ s.sink.published = none) (evs : List SinkEvent) :
    (Run.run step s evs).sink.published = none := by
  refine (Run.run_invariant_always (fun s : SinkSystem => s.sink.Doomed ∧ s.sink.published = none) h
    fun s ev hs => ?_).2
  obtain ⟨news, hmove, -⟩ := s.step_move ev
  exact lost_moved hs hmove

/-- The sink writes what it accepted.  In every interleaving the byte counter is
the number of queued bytes and within its limit, and after a failed write the
file is never renamed.  If no patch takes the lock of a finalized sink, a file
that is renamed is the one that the operations accepted before `finalize`
leave, applied in their order. -/
theorem sink_writes_accepted (options : SinkOptions) (events : List SinkEvent) :
    let start : SinkSystem := { sink := { options } }
    let s := Run.run step start events
    s.sink.queuedBytes = (s.sink.queue.map fun op => op.data.length).sum ∧
      s.sink.queuedBytes ≤ options.maxQueueBytes ∧
      (∀ before io after, events = before ++ .write io :: after →
        (Run.run step start before).sink.writeFails io = true → s.sink.published = none) ∧
      (Run.Along step (fun s event => s.patchInTime event = true) start events →
        ∀ content, s.sink.published = some content →
          content = (fileOf (acceptedBeforeFinalize s.history)).content) := by
  intro start s
  have hsound := sound_run options events
  refine ⟨hsound.counted.sum, hsound.options ▸ hsound.counted.bound, ?_, ?_⟩
  · rintro before io after hevents hfails
    have hrun : s = Run.run step ((Run.run step start before).step (.write io)) after := by
      dsimp only [s]
      rw [hevents, Run.run, foldl_append]
      rfl
    rw [hrun]
    exact lost_run ((sound_run options before).doomed_of_writeFails hfails) after
  · intro htime content hpublished
    have hkept : s.Kept :=
      Run.run_invariant Kept htime (kept_start options) fun _ _ hevent hs => hs.step hevent
    rw [← hkept.early]
    exact (hkept.serves.published_eq hpublished).1

/-- The producer appends two bytes, finalizes and then patches the first byte;
the writer thread does everything afterwards. -/
def latePatch : List SinkEvent :=
  [.call (.append [0x61, 0x62]), .lock, .call .finalize, .call (.patch 0 [0x78]),
    .lock] ++ List.replicate 16 (.write (.result 2))

/-- The late patch is accepted and stands in the published file. -/
theorem latePatch_published :
    let s := Run.run step { sink := {} } latePatch
    s.sink.published = some [0x78, 0x62] ∧
      acceptedBeforeFinalize s.history = [.append [0x61, 0x62]] ∧
      (fileOf (acceptedBeforeFinalize s.history)).content = [0x61, 0x62] := by
  decide +kernel

/-- The same, with the patch before `finalize` and one short write. -/
def timelyPatch : List SinkEvent :=
  [.call (.append [0x61, 0x62]), .lock, .call (.patch 0 [0x78]), .lock,
    .call .finalize] ++ List.replicate 16 (.write (.result 1))

theorem timelyPatch_published :
    let start : SinkSystem := { sink := {} }
    let s := Run.run step start timelyPatch
    Run.Along step (fun s event => s.patchInTime event = true) start timelyPatch ∧
      s.sink.published = some [0x78, 0x62] ∧
      [0x78, 0x62] = (fileOf (acceptedBeforeFinalize s.history)).content := by
  have halong : Run.Along step (fun s event => s.patchInTime event = true)
      { sink := {} } timelyPatch := by decide +kernel
  have hpublished : (Run.run step { sink := {} } timelyPatch).sink.published =
      some [0x78, 0x62] := by decide +kernel
  exact ⟨halong, hpublished, (sink_writes_accepted {} timelyPatch).2.2.2 halong _ hpublished⟩

end SinkSystem

end RtmpCore.Recording
