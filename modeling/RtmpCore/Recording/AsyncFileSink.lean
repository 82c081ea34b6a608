import RtmpCore.Recording.FileSink

/-!
# The sink with a writer thread

The calling thread only appends to a bounded queue.  The writer thread takes
the operations off the queue in their order and performs every access to the
disk.  It writes to a temporary file, which is renamed to its final path when
the sink was finalized, the queue is empty and nothing has failed.

The two threads share the queue, its byte counter, the failure and a flag that
says whether the sink is healthy.  A step here is what a thread does in one
critical section, or in one access to the disk or to an atomic variable, so a
list of steps is an interleaving.  Every access to the disk is answered by the
environment.

The file is kept with the sink: its content, and the cursor of the appends that
the writer thread keeps.
-/

namespace RtmpCore.Recording

open RtmpCore.Core

structure SinkOptions where
  maxQueueBytes : ℕ := 32 * 1024 * 1024
  minFreeBytes : ℕ := 64 * 1024 * 1024
  diskCheckIntervalBytes : ℕ := 8 * 1024 * 1024
  fsyncOnFinalize : Bool := true
deriving DecidableEq

structure SinkStats where
  bytesWritten : ℕ := 0
  queueHighWater : ℕ := 0
  overflowEvents : ℕ := 0
  patchesApplied : ℕ := 0
  finalized : Bool := false
  renamed : Bool := false
deriving DecidableEq

/-- The answer of the operating system: a result, an interruption or an error
with its text. -/
inductive IoAnswer where
  | result (n : ℕ)
  | interrupted
  | failed (reason : String)
deriving DecidableEq

inductive WriterPhase where
  /-- At the condition variable. -/
  | waiting
  /-- It has taken an operation off the queue. -/
  | holding (op : Op)
  /-- In the loop of `apply`, with the bytes that are still to be written. -/
  | writing (op : Op) (remaining : List UInt8) (position : ℕ)
  /-- The operation is written and not yet accounted for. -/
  | applied (op : Op)
  | checkingDisk
  /-- In `mark_failed`, before the failure is stored. -/
  | failing (error : Error) (next : WriterPhase)
  /-- In `mark_failed`, before the sink is marked unhealthy. -/
  | condemning (next : WriterPhase)
  | finalizing
  | syncing
  | closing
  | publishing
  | reporting (renamed : Bool)
  | stopped
deriving DecidableEq

structure AsyncFileSink where
  options : SinkOptions := {}
  queue : List Op := []
  queuedBytes : ℕ := 0
  finalizeRequested : Bool := false
  finalizeDone : Bool := false
  stats : SinkStats := {}
  failure : Option Error := none
  healthy : Bool := true
  file : File := {}
  bytesSinceDiskCheck : ℕ := 0
  descriptorOpen : Bool := true
  /-- The content of the file at the final path, once it was renamed. -/
  published : Option (List UInt8) := none
  writer : WriterPhase := .waiting
deriving DecidableEq

def storageError (code : ErrorCode) (message : String) : Error :=
  { code, category := .storage, message }

def ioError (operation reason : String) : Error :=
  storageError .storageWriteFailed (operation ++ ": " ++ reason)

namespace AsyncFileSink

/-! ## The calling thread -/

variable (s : AsyncFileSink)

/-- Queue an operation, unless it does not fit. -/
def enqueue (op : Op) (full : String) : AsyncFileSink × Except Error Unit :=
  if s.options.maxQueueBytes < s.queuedBytes + op.data.length then
    ({ s with stats := { s.stats with overflowEvents := s.stats.overflowEvents + 1 } },
      .error (storageError .resourceExhausted full))
  else
    ({ s with queue := s.queue ++ [op], queuedBytes := s.queuedBytes + op.data.length },
      .ok ())

def lockedAppend (data : List UInt8) : AsyncFileSink × Except Error Unit :=
  if s.finalizeRequested then
    (s, .error (storageError .invalidStateTransition "append after finalize"))
  else
    match s.enqueue (.append data) "recording queue full" with
    | (s', .error e) => (s', .error e)
    | (s', .ok _) =>
      ({ s' with
          stats := { s'.stats with queueHighWater := max s'.stats.queueHighWater s'.queuedBytes } },
        .ok ())

def lockedPatch (offset : ℕ) (data : List UInt8) : AsyncFileSink × Except Error Unit :=
  s.enqueue (.patch offset data) "recording queue full (patch)"

/-- What a call does before it takes the lock: `none` says that it goes on to
its critical section. -/
def begin : (c : SinkCall) → Option (AsyncFileSink × c.Answer)
  | .pendingBytes => some (s, s.queuedBytes)
  | .append data | .patch _ data =>
    if data.isEmpty then some (s, .ok ())
    else if s.healthy then none
    else some (s, .error (s.failure.getD (storageError .none "")))
  | .finalize => some ({ s with finalizeRequested := true }, .ok ())

/-- The critical section of a call. -/
def locked : (c : SinkCall) → AsyncFileSink × c.Answer
  | .pendingBytes => (s, s.queuedBytes)
  | .append data => s.lockedAppend data
  | .patch offset data => s.lockedPatch offset data
  | .finalize => ({ s with finalizeRequested := true }, .ok ())

/-! ## The writer thread -/

/-- One round of the loop around `pwrite`.  A short write is continued, an
interrupted one repeated. -/
def pwrite (s : AsyncFileSink) (op : Op) (remaining : List UInt8) (position : ℕ) :
    IoAnswer → AsyncFileSink
  | .interrupted => s
  | .failed reason => { s with writer := .failing (ioError "pwrite" reason) .waiting }
  | .result 0 =>
    { s with
      writer := .failing
        (storageError .storageWriteFailed "pwrite made no progress") .waiting }
  | .result (n + 1) =>
    { s with
      file := { s.file with
        content := overwrite 0 s.file.content position (remaining.take (n + 1)) }
      writer := .writing op (remaining.drop (n + 1)) (position + (remaining.take (n + 1)).length) }

/-- The accounting behind the loop, and whether it is time to look at the
disk. -/
def finishOp (op : Op) : AsyncFileSink :=
  let since := s.bytesSinceDiskCheck + op.data.length
  let due := s.options.diskCheckIntervalBytes ≤ since
  { s with
    file := { s.file with writeOffset := (s.file.apply op).writeOffset }
    stats :=
      match op with
      | .append data => { s.stats with bytesWritten := s.stats.bytesWritten + data.length }
      | .patch _ _ => { s.stats with patchesApplied := s.stats.patchesApplied + 1 }
    bytesSinceDiskCheck := if due then 0 else since
    writer := if due then .checkingDisk else .waiting }

/-- An unavailable `statvfs` does not end a recording. -/
def checkDiskSpace : IoAnswer → AsyncFileSink
  | .result freeBytes =>
    if freeBytes < s.options.minFreeBytes then
      { s with
        writer := .failing (storageError .storageUnavailable
            ("free disk space " ++ toString freeBytes ++
              " below configured minimum " ++ toString s.options.minFreeBytes))
          .waiting }
    else { s with writer := .waiting }
  | .interrupted | .failed _ => { s with writer := .waiting }

def writerStep (io : IoAnswer) : AsyncFileSink :=
  match s.writer with
  | .waiting =>
    match s.queue with
    | [] => if s.finalizeRequested then { s with writer := .finalizing } else s
    | op :: rest =>
      { s with queue := rest, queuedBytes := s.queuedBytes - op.data.length, writer := .holding op }
  | .holding op =>
    -- A sink that has failed drains its queue without touching the disk.
    if s.healthy then { s with writer := .writing op op.data (s.file.target op) }
    else { s with writer := .waiting }
  | .writing op remaining position =>
    if remaining.isEmpty then { s with writer := .applied op }
    else s.pwrite op remaining position io
  | .applied op => s.finishOp op
  | .checkingDisk => s.checkDiskSpace io
  | .failing error next =>
    if s.failure.isSome then { s with writer := next }
    else { s with failure := some error, writer := .condemning next }
  | .condemning next => { s with healthy := false, writer := next }
  | .finalizing =>
    if s.healthy && s.options.fsyncOnFinalize && s.descriptorOpen then { s with writer := .syncing }
    else { s with writer := .closing }
  | .syncing =>
    match io with
    | .result _ => { s with writer := .closing }
    | .interrupted => s
    | .failed reason => { s with writer := .failing (ioError "fsync" reason) .closing }
  | .closing => { s with descriptorOpen := false, writer := .publishing }
  | .publishing =>
    if s.healthy then
      match io with
      | .result _ => { s with published := some s.file.content, writer := .reporting true }
      | .interrupted =>
        { s with writer := .failing (ioError "rename" "interrupted") (.reporting false) }
      | .failed reason => { s with writer := .failing (ioError "rename" reason) (.reporting false) }
    else { s with writer := .reporting false }
  | .reporting renamed =>
    { s with
      stats := { s.stats with renamed, finalized := true }
      finalizeDone := true
      writer := .stopped }
  | .stopped => s

end AsyncFileSink

/-! ## A producer and the writer thread -/

/-- A sink with its one producer: the call that waits for the lock, and the
calls that were answered. -/
structure SinkSystem where
  sink : AsyncFileSink := {}
  entering : Option SinkCall := none
  history : List SinkExchange := []

inductive SinkEvent where
  /-- The producer makes a call. -/
  | call (c : SinkCall)
  /-- The waiting call gets the lock. -/
  | lock
  /-- The writer thread makes a step. -/
  | write (io : IoAnswer)
deriving DecidableEq

def SinkSystem.step (s : SinkSystem) : SinkEvent → SinkSystem
  | .call c =>
    match s.entering with
    | some _ => s
    | none =>
      match s.sink.begin c with
      | none => { s with entering := some c }
      | some (sink, answer) => { s with sink, history := s.history ++ [⟨c, answer⟩] }
  | .lock =>
    match s.entering with
    | none => s
    | some c =>
      { sink := (s.sink.locked c).1
        entering := none
        history := s.history ++ [⟨c, (s.sink.locked c).2⟩] }
  | .write io => { s with sink := s.sink.writerStep io }

end RtmpCore.Recording
