import RtmpCore.Core.Error
import RtmpCore.Support.Overwrite
import RtmpCore.Support.Program
import Mathlib.Data.List.Induction

/-!
# The byte sink of a recording

A recorder writes its file through a sink with four operations.  The sink may
refuse an append or a patch; `ResourceExhausted` says that the bytes did not
fit its queue, any other error that the file is broken.

The account of an exchange is what a reader of the file needs to know about it:
the operations that the sink accepted, in their order, and whether a refusal
broke the file.  The file that accepted operations describe is their effect one
after the other: an append writes behind the last append, a patch at its own
offset.
-/

namespace RtmpCore.Recording

open RtmpCore.Core List

inductive SinkCall where
  | pendingBytes
  | append (data : List UInt8)
  | patch (offset : ℕ) (data : List UInt8)
  | finalize
deriving DecidableEq

abbrev SinkCall.Answer : SinkCall → Type
  | .pendingBytes => ℕ
  | .append _ | .patch _ _ | .finalize => Except Error Unit

abbrev SinkProg := Prog SinkCall SinkCall.Answer

abbrev SinkExchange := Prog.Exchange SinkCall SinkCall.Answer

namespace FileSink

def pendingBytes : SinkProg ℕ := Prog.request SinkCall.pendingBytes

def append (data : List UInt8) : SinkProg (Except Error Unit) := Prog.request (SinkCall.append data)

def patch (offset : ℕ) (data : List UInt8) : SinkProg (Except Error Unit) :=
  Prog.request (SinkCall.patch offset data)

def finalize : SinkProg (Except Error Unit) := Prog.request SinkCall.finalize

end FileSink

/-! ## Operations on the file -/

inductive Op where
  | append (data : List UInt8)
  | patch (offset : ℕ) (data : List UInt8)
deriving DecidableEq

def Op.data : Op → List UInt8
  | append data | patch _ data => data

/-- A file and the cursor of its appends. -/
structure File where
  content : List UInt8 := []
  writeOffset : ℕ := 0
deriving DecidableEq

/-- Where an operation writes. -/
def File.target (file : File) : Op → ℕ
  | .append _ => file.writeOffset
  | .patch offset _ => offset

def File.apply (file : File) (op : Op) : File :=
  { content := overwrite 0 file.content (file.target op) op.data
    writeOffset :=
      match op with
      | .append data => file.writeOffset + data.length
      | .patch _ _ => file.writeOffset }

/-- The file that a sequence of operations leaves. -/
def fileOf (ops : List Op) : File := ops.foldl File.apply {}

theorem fileOf_append (ops : List Op) (op : Op) : fileOf (ops ++ [op]) = (fileOf ops).apply op :=
  foldl_concat _ _ _ _

theorem fileOf_appends (pieces : List (List UInt8)) : fileOf (pieces.map .append) =
      { content := pieces.flatten, writeOffset := pieces.flatten.length } := by
  induction pieces using List.reverseRecOn with
  | nil => rfl
  | append_singleton pieces data ih =>
    rw [map_append, map_singleton, fileOf_append, ih]
    simp only [File.apply, File.target, Op.data, overwrite_at_end,
      flatten_append, flatten_singleton, length_append]

/-- The data of the appends among the operations. -/
def appended (ops : List Op) : List (List UInt8) :=
  ops.filterMap fun op =>
    match op with
    | .append data => some data
    | .patch _ _ => none

theorem appended_appends_patches (pieces : List (List UInt8)) (patches : List (ℕ × List UInt8)) :
    appended (pieces.map .append ++ patches.map fun p => .patch p.1 p.2) = pieces := by
  have hpcs : appended (pieces.map .append) = pieces := by simp [appended]
  have hpat : appended (patches.map fun p => .patch p.1 p.2) = [] := by simp [appended]
  rw [appended, filterMap_append, ← appended, ← appended, hpcs, hpat, append_nil]

/-! ## The account of an exchange -/

structure Account where
  /-- The accepted operations. -/
  ops : List Op := []
  /-- The patches that were asked for, accepted or not. -/
  patches : List (ℕ × List UInt8) := []
  /-- A refusal broke the file: of a patch, of one of the first two appends, or
  with another error than a full queue. -/
  failed : Bool := false
  /-- The sink was asked to finalize. -/
  closed : Bool := false
  /-- An operation was asked for after that. -/
  late : Bool := false
deriving DecidableEq

def Account.note (account : Account) : SinkExchange → Account
  | ⟨.pendingBytes, _⟩ => account
  | ⟨.append data, .ok _⟩ =>
    { account with ops := account.ops ++ [.append data], late := account.late || account.closed }
  | ⟨.append _, .error e⟩ =>
    { account with
      failed := account.failed || decide (account.ops.length < 2) ||
        decide (e.code ≠ .resourceExhausted)
      late := account.late || account.closed }
  | ⟨.patch offset data, .ok _⟩ =>
    { account with
      ops := account.ops ++ [.patch offset data]
      patches := account.patches ++ [(offset, data)]
      late := account.late || account.closed }
  | ⟨.patch offset data, .error _⟩ =>
    { account with
      patches := account.patches ++ [(offset, data)]
      failed := true
      late := account.late || account.closed }
  | ⟨.finalize, _⟩ => { account with closed := true }

def account (trace : List SinkExchange) : Account := trace.foldl Account.note {}

end RtmpCore.Recording
