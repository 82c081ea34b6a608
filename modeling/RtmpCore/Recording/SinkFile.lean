import Mathlib.Algebra.Ring.Nat
import RtmpCore.Recording.AsyncFileSink
import RtmpCore.Support.Run

/-!
# The file of the sink is what it accepted

The file that a sink will have when its queue is drained is an abstraction of
the sink: the operation in the hands of the writer thread and the queued ones,
applied to the file on the disk.  The writer thread does not change it, however
its writes are cut into pieces, and accepting an operation applies the
operation to it.

A write that fails leaves this correspondence for good: from then on the sink
is doomed, and it is never published.
-/

namespace RtmpCore.Recording

open RtmpCore.Core List WriterPhase

/-! ## What the writer thread can do -/

/-- The writer thread has left its loop and has not renamed the file. -/
def WriterPhase.isClosing : WriterPhase → Bool
  | .finalizing | .syncing | .closing | .publishing => true
  | _ => false

/-- The writer thread is past the renaming. -/
def WriterPhase.isOver : WriterPhase → Bool
  | .reporting _ | .stopped => true
  | _ => false

/-- The writer thread is marking the sink as failed. -/
def WriterPhase.isFailing : WriterPhase → Bool
  | .failing _ _ | .condemning _ => true
  | _ => false

/-- The phases in which an access to the disk can fail. -/
def WriterPhase.touchesDisk : WriterPhase → Bool
  | .writing _ _ _ | .checkingDisk | .syncing | .publishing => true
  | _ => false

namespace WriterPhase

variable {phase : WriterPhase}

theorem not_isOver_of_touchesDisk (h : phase.touchesDisk = true) : phase.isOver = false := by
  cases phase <;> first | rfl | cases h

theorem not_isFailing_of_isClosing (h : phase.isClosing = true) : phase.isFailing = false := by
  cases phase <;> first | rfl | cases h

theorem not_isOver_of_isClosing (h : phase.isClosing = true) : phase.isOver = false := by
  cases phase <;> first | rfl | cases h

end WriterPhase

namespace AsyncFileSink

/-- The moves of the writer thread. -/
inductive WriterMove (s : AsyncFileSink) : AsyncFileSink → Prop
  | stay : WriterMove s s
  | drained (hwriter : s.writer = .waiting) (hqueue : s.queue = [])
      (hrequested : s.finalizeRequested = true) :
      WriterMove s { s with writer := .finalizing }
  | taken (op : Op) (rest : List Op) (hwriter : s.writer = .waiting)
      (hqueue : s.queue = op :: rest) :
      WriterMove s
        { s with
          queue := rest
          queuedBytes := s.queuedBytes - op.data.length
          writer := .holding op }
  | skipped (op : Op) (hwriter : s.writer = .holding op) (hhealthy : s.healthy = false) :
      WriterMove s { s with writer := .waiting }
  | started (op : Op) (hwriter : s.writer = .holding op) :
      WriterMove s { s with writer := .writing op op.data (s.file.target op) }
  | wrote (op : Op) (piece rest : List UInt8) (position : ℕ)
      (hwriter : s.writer = .writing op (piece ++ rest) position) :
      WriterMove s
        { s with
          file := { s.file with content := overwrite 0 s.file.content position piece }
          writer := .writing op rest (position + piece.length) }
  | written (op : Op) (position : ℕ) (hwriter : s.writer = .writing op [] position) :
      WriterMove s { s with writer := .applied op }
  | accounted (op : Op) (hwriter : s.writer = .applied op) : WriterMove s (s.finishOp op)
  | measured (hwriter : s.writer = .checkingDisk) : WriterMove s { s with writer := .waiting }
  | failed (error : Error) (next : WriterPhase) (hwriter : s.writer.touchesDisk = true) :
      WriterMove s { s with writer := .failing error next }
  | known (error : Error) (next : WriterPhase)
      (hwriter : s.writer = .failing error next) (hfailure : s.failure ≠ none) :
      WriterMove s { s with writer := next }
  | stored (error : Error) (next : WriterPhase) (hwriter : s.writer = .failing error next) :
      WriterMove s { s with failure := some error, writer := .condemning next }
  | condemned (next : WriterPhase) (hwriter : s.writer = .condemning next) :
      WriterMove s { s with healthy := false, writer := next }
  | advanced (next : WriterPhase) (hwriter : s.writer.isClosing = true)
      (hnext : next.isClosing = true ∨ next = .reporting false)
      (descriptorOpen : Bool) :
      WriterMove s { s with descriptorOpen, writer := next }
  | published (hwriter : s.writer = .publishing) (hhealthy : s.healthy = true) : WriterMove s
        { s with published := some s.file.content, writer := .reporting true }
  | reported (renamed : Bool) (hwriter : s.writer = .reporting renamed) : WriterMove s
        { s with
          stats := { s.stats with renamed, finalized := true }
          finalizeDone := true
          writer := .stopped }

variable {s : AsyncFileSink} {io : IoAnswer}

theorem pwrite_move {op : Op} {rem : List UInt8} {pos : ℕ} (hwr : s.writer = .writing op rem pos) :
    WriterMove s (s.pwrite op rem pos io) := by
  have htch : s.writer.touchesDisk = true := by rw [hwr]; rfl
  match io with
  | .interrupted => exact .stay
  | .failed _ | .result 0 => exact .failed _ _ htch
  | .result (n + 1) =>
    have hspl := (take_append_drop (n + 1) rem).symm
    exact .wrote op _ _ pos (hspl ▸ hwr)

theorem checkDiskSpace_move (hwr : s.writer = .checkingDisk) :
    WriterMove s (s.checkDiskSpace io) := by
  have htch : s.writer.touchesDisk = true := by rw [hwr]; rfl
  match io with
  | .interrupted | .failed _ => exact .measured hwr
  | .result freeBytes =>
    dsimp only [checkDiskSpace]
    split
    case isTrue => exact .failed _ _ htch
    case isFalse => exact .measured hwr

theorem writerStep_move (s : AsyncFileSink) (io : IoAnswer) : WriterMove s (s.writerStep io) := by
  unfold writerStep
  split
  case h_1 hwr =>
    split
    case h_1 hqueue =>
      split
      case isTrue hreq => exact .drained hwr hqueue hreq
      case isFalse => exact .stay
    case h_2 op rest hqueue => exact .taken op rest hwr hqueue
  case h_2 op hwr =>
    split
    case isTrue => exact .started op hwr
    case isFalse hheal => exact .skipped op hwr (by simpa using hheal)
  case h_3 op remaining position hwr =>
    split
    case isTrue hemp =>
      rw [isEmpty_iff.mp hemp] at hwr
      exact .written op position hwr
    case isFalse => exact pwrite_move hwr
  case h_4 op hwr => exact .accounted op hwr
  case h_5 hwr => exact checkDiskSpace_move hwr
  case h_6 error next hwr =>
    split
    case isTrue hfail => exact .known error next hwr (Option.isSome_iff_ne_none.mp hfail)
    case isFalse => exact .stored error next hwr
  case h_7 next hwr => exact .condemned next hwr
  case h_8 hwr =>
    have hclo : s.writer.isClosing = true := by rw [hwr]; rfl
    split
    case isTrue => exact .advanced .syncing hclo (.inl rfl) s.descriptorOpen
    case isFalse => exact .advanced .closing hclo (.inl rfl) s.descriptorOpen
  case h_9 hwr =>
    have hclo : s.writer.isClosing = true := by rw [hwr]; rfl
    split
    case h_1 => exact .advanced .closing hclo (.inl rfl) s.descriptorOpen
    case h_2 => exact .stay
    case h_3 => exact .failed _ _ (by rw [hwr]; rfl)
  case h_10 hwr =>
    have hclo : s.writer.isClosing = true := by rw [hwr]; rfl
    exact .advanced .publishing hclo (.inl rfl) false
  case h_11 hwr =>
    have hclo : s.writer.isClosing = true := by rw [hwr]; rfl
    split
    case isTrue hheal =>
      split
      case h_1 => exact .published hwr hheal
      all_goals exact .failed _ _ (by rw [hwr]; rfl)
    case isFalse => exact .advanced (.reporting false) hclo (.inr rfl) s.descriptorOpen
  case h_12 renamed hwr => exact .reported renamed hwr
  case h_13 => exact .stay

/-! ## The byte counter -/

/-- The counter is the number of queued bytes, and within the limit. -/
structure Counted (s : AsyncFileSink) : Prop where
  sum : s.queuedBytes = (s.queue.map fun op => op.data.length).sum
  bound : s.queuedBytes ≤ s.options.maxQueueBytes

variable {s' : AsyncFileSink} {next : WriterPhase}

theorem Counted.enqueue (h : s.Counted) (op : Op) (full : String) :
    (s.enqueue op full).1.Counted := by
  unfold AsyncFileSink.enqueue
  split
  case isTrue => exact { h with }
  case isFalse hfits =>
    exact
      { sum := by simp [h.sum], bound := Nat.le_of_not_lt hfits }

theorem Counted.lockedAppend (h : s.Counted) (data : List UInt8) :
    (s.lockedAppend data).1.Counted := by
  unfold AsyncFileSink.lockedAppend
  split
  case isTrue => exact h
  case isFalse =>
    have henq := h.enqueue (.append data) "recording queue full"
    split
    case h_1 s' e heq =>
      rw [heq] at henq
      exact henq
    case h_2 s' u heq =>
      rw [heq] at henq
      exact { henq with }

theorem Counted.locked (h : s.Counted) (c : SinkCall) : (s.locked c).1.Counted := by
  cases c with
  | pendingBytes => exact h
  | append data => exact h.lockedAppend data
  | patch offset data => exact h.enqueue _ _
  | finalize => exact { h with }

theorem Counted.moved (h : s.Counted) (hmove : WriterMove s s') : s'.Counted := by
  cases hmove with
  | stay => exact h
  | taken op rest _ hqueue =>
    have hsum := h.sum
    rw [hqueue, map_cons, sum_cons] at hsum
    have hbd := h.bound
    exact
      { sum := by dsimp only; omega
        bound := by dsimp only; omega }
  | _ => exact { h with }

/-! ## Failure -/

/-- Nothing has failed. -/
structure Clean (s : AsyncFileSink) : Prop where
  healthy : s.healthy = true
  failure : s.failure = none
  calm : s.writer.isFailing = false

theorem Clean.not_failing (h : s.Clean) {error : Error}
    (hwr : s.writer = .failing error next) : False := by
  have hcalm := h.calm
  rw [hwr] at hcalm
  cases hcalm

theorem Clean.not_condemning (h : s.Clean) (hwr : s.writer = .condemning next) : False := by
  have hcalm := h.calm
  rw [hwr] at hcalm
  cases hcalm

/-- Something has failed: the sink is unhealthy, or the writer thread is about to
mark it so. -/
def Doomed (s : AsyncFileSink) : Prop :=
  s.healthy = false ∨ (∃ next, s.writer = .condemning next) ∨
    (s.failure = none ∧ ∃ error next, s.writer = .failing error next)

/-- Only a sink whose writer thread is past the renaming is published. -/
def Hidden (s : AsyncFileSink) : Prop := s.writer.isOver = true ∨ s.published = none

theorem Doomed.moved (h : s.Doomed) (hmove : WriterMove s s') : s'.Doomed := by
  rcases h with hsick | ⟨next, hwr⟩ | ⟨hnone, error, next, hwr⟩
  · -- No move makes a sink healthy again.
    left
    cases hmove <;> first | exact hsick | rfl
  · cases hmove with
    | stay => exact .inr (.inl ⟨next, hwr⟩)
    | condemned next' hwr' => exact .inl rfl
    | failed error next' htch => rw [hwr] at htch; cases htch
    | advanced next' hclo => rw [hwr] at hclo; cases hclo
    | _ => simp_all
  · cases hmove with
    | stay => exact .inr (.inr ⟨hnone, error, next, hwr⟩)
    | stored error' next' hwr' => exact .inr (.inl ⟨next', rfl⟩)
    | known error' next' _ hfail => exact absurd hnone hfail
    | failed error next' htch => rw [hwr] at htch; cases htch
    | advanced next' hclo => rw [hwr] at hclo; cases hclo
    | _ => simp_all

theorem over_moved (hover : s.writer.isOver = true) (hmove : WriterMove s s') :
    s'.writer.isOver = true ∧ s'.file = s.file ∧ s'.healthy = s.healthy := by
  cases hmove with
  | stay => exact ⟨hover, rfl, rfl⟩
  | reported => exact ⟨rfl, rfl, rfl⟩
  | failed error next htch =>
    rw [not_isOver_of_touchesDisk htch] at hover
    cases hover
  | advanced next hclo =>
    rw [not_isOver_of_isClosing hclo] at hover
    cases hover
  | drained hwr | taken _ _ hwr | skipped _ hwr | started _ hwr
  | wrote _ _ _ _ hwr | written _ _ hwr | accounted _ hwr
  | measured hwr | known _ _ hwr | stored _ _ hwr
  | condemned _ hwr | published hwr =>
    rw [hwr] at hover
    cases hover

theorem published_moved (hmove : WriterMove s s') :
    s'.published = s.published ∨ (s'.published = some s'.file.content ∧ s'.writer.isOver = true ∧
        s'.healthy = true) := by
  cases hmove with
  | published _ hheal => exact .inr ⟨rfl, rfl, hheal⟩
  | _ => exact .inl rfl

/-- A sink is not doomed past the renaming, unless it is unhealthy. -/
theorem Doomed.unhealthy_of_over (h : s.Doomed) (hover : s.writer.isOver = true) :
    s.healthy = false := by
  rcases h with hsick | ⟨next, hwr⟩ | ⟨-, error, next, hwr⟩
  · exact hsick
  · rw [hwr] at hover
    cases hover
  · rw [hwr] at hover
    cases hover

/-- A sink that is doomed before its file is renamed is never published. -/
theorem published_eq_none_of_doomed (h : s.Doomed)
    (hnone : s.published = none) (hmove : WriterMove s s') : s'.published = none := by
  rcases published_moved hmove with hsame | ⟨-, hover, hheal⟩
  · exact hsame.trans hnone
  · have hsick := (h.moved hmove).unhealthy_of_over hover
    exact absurd (hheal.symm.trans hsick) (by decide)

theorem Hidden.moved (h : s.Hidden) (hmove : WriterMove s s') : s'.Hidden := by
  rcases published_moved hmove with hsame | ⟨-, hover, -⟩
  · exact h.imp (fun hover => (over_moved hover hmove).1) hsame.trans
  · exact .inl hover

/-! ## The file that the sink will have -/

/-- The file when the operation in the hands of the writer thread is done. -/
def current (s : AsyncFileSink) : File :=
  match s.writer with
  | .holding op => s.file.apply op
  | .writing op remaining position =>
    { content := overwrite 0 s.file.content position remaining
      writeOffset := (s.file.apply op).writeOffset }
  | .applied op => { s.file with writeOffset := (s.file.apply op).writeOffset }
  | _ => s.file

theorem current_of_done (h : s.writer.isClosing = true ∨ s.writer.isOver = true) :
    s.current = s.file := by
  unfold current
  split
  case h_1 op hwr | h_2 op rem pos hwr | h_3 op hwr =>
    rw [hwr] at h
    rcases h with h | h <;> cases h
  case h_4 => rfl

/-- The file when the queue is drained as well. -/
def eventual (s : AsyncFileSink) : File := s.queue.foldl File.apply s.current

/-- A move that keeps the sink clean does not change the file that it will
have. -/
theorem eventual_moved (hclean : s.Clean) (hclean' : s'.Clean)
    (hmove : WriterMove s s') : s'.eventual = s.eventual := by
  cases hmove with
  | stay => rfl
  | drained hwr => simp only [eventual, current, hwr]
  | taken op rest hwr hqueue => simp only [eventual, current, hwr, hqueue, foldl_cons]
  | skipped op _ hsick => exact absurd (hsick.symm.trans hclean.healthy) (by decide)
  | started op hwr => simp only [eventual, current, hwr, File.apply]
  | wrote op piece rest pos hwr =>
    simp only [eventual, current, hwr, overwrite_overwrite, File.apply]
  | written op pos hwr => simp only [eventual, current, hwr, overwrite_nil]
  | accounted op hwr =>
    have hcur : (s.finishOp op).current =
        { s.file with writeOffset := (s.file.apply op).writeOffset } := by
      by_cases hdue : s.options.diskCheckIntervalBytes ≤ s.bytesSinceDiskCheck + op.data.length
      all_goals simp [current, finishOp, hdue]
    rw [eventual, hcur, eventual, current, hwr]
    rfl
  | measured hwr => simp only [eventual, current, hwr]
  | failed error next => exact (hclean'.not_failing rfl).elim
  | known _ _ hwr | stored _ _ hwr => exact (hclean.not_failing hwr).elim
  | condemned next hwr => exact (hclean.not_condemning hwr).elim
  | advanced next hclo hnext descriptorOpen =>
    have hdone : next.isClosing = true ∨ next.isOver = true :=
      hnext.imp_right fun hreporting => by rw [hreporting]; rfl
    have hafter : ({ s with descriptorOpen, writer := next } : AsyncFileSink).current = s.file :=
      current_of_done hdone
    rw [eventual, eventual, hafter, current_of_done (.inl hclo)]
  | published hwr | reported _ hwr => simp only [eventual, current, hwr]

/-- A move from a clean sink ends in a clean one or in a doomed one. -/
theorem Clean.moved (h : s.Clean) (hmove : WriterMove s s') : s'.Clean ∨ s'.Doomed := by
  cases hmove with
  | stay => exact .inl h
  | failed error next => exact .inr (.inr (.inr ⟨h.failure, error, next, rfl⟩))
  | known _ _ hwr | stored _ _ hwr => exact (h.not_failing hwr).elim
  | condemned next hwr => exact (h.not_condemning hwr).elim
  | advanced next _ hnext =>
    refine .inl ⟨h.healthy, h.failure, ?_⟩
    rcases hnext with hclo | rfl
    exacts [not_isFailing_of_isClosing hclo, rfl]
  | accounted op =>
    refine .inl ⟨h.healthy, h.failure, ?_⟩
    dsimp only [finishOp]
    split <;> rfl
  | _ => exact .inl ⟨h.healthy, h.failure, rfl⟩

end AsyncFileSink

end RtmpCore.Recording
