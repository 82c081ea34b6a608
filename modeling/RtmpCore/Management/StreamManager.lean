import RtmpCore.Core.Error
import RtmpCore.Hls.Handler
import RtmpCore.Support.Run

/-!
# The stream manager

Applications and streams as an operator creates them, with the playback tokens
that are issued and checked for them.  Keys are known by their hashes only.
Every function is one section under the manager's lock; an operation that fails
leaves everything as it is.

Names are not looked at: an application and a stream may have any name that is
not taken.  The audit log, metrics, URLs and the store are left out.
-/

namespace RtmpCore.Management

open RtmpCore.Core Hls

structure StreamRecord where
  keyHash : Bytes
  enabled : Bool := true
  recordingEnabled : Bool := false
  createdAt : ℤ := 0
deriving DecidableEq

structure ApplicationRecord where
  enabled : Bool := true
  streams : AList (fun _ : Bytes => StreamRecord) := ∅
deriving DecidableEq

structure StreamManager where
  tokenSigningSecret : Bytes := []
  applications : AList (fun _ : Bytes => ApplicationRecord) := ∅

def notFound (message : String) : Error := ⟨.notFound, .internal, message⟩

def conflict (message : String) : Error := ⟨.conflict, .internal, message⟩

/-! ## Tokens -/

/-- The answer of `verify_token`: a forged token and an expired one are told
apart. -/
def checkToken (hmac : Bytes → Bytes → Bytes)
    (secret application name token : Bytes) (expiresAt now : ℤ) : Except Error Unit :=
  if signToken hmac secret application name expiresAt ≠ token then
    .error ⟨.unauthorized, .authentication, "invalid token signature"⟩
  else if expiresAt < now then .error ⟨.expiredToken, .authentication, "token expired"⟩
  else .ok ()

theorem checkToken_eq_ok {hmac : Bytes → Bytes → Bytes}
    {secret application name token : Bytes} {expiresAt now : ℤ} :
    checkToken hmac secret application name token expiresAt now = .ok () ↔
      signToken hmac secret application name expiresAt = token ∧ now ≤ expiresAt := by
  unfold checkToken
  split_ifs with hforged hlate
  · exact ⟨nofun, fun h => (hforged h.1).elim⟩
  · exact ⟨nofun, fun h => (hlate.not_ge h.2).elim⟩
  · exact ⟨fun _ => ⟨not_not.mp hforged, not_lt.mp hlate⟩, fun _ => rfl⟩

namespace StreamManager

/-! ## Applications and streams -/

variable (m : StreamManager) (application name : Bytes)

def createApplication : Except Error StreamManager :=
  if name ∈ m.applications then .error (conflict "application already exists")
  else .ok { m with applications := m.applications.insert name {} }

def deleteApplication : Except Error StreamManager :=
  match m.applications.lookup name with
  | none => .error (notFound "application not found")
  | some record =>
    if record.streams ≠ ∅ then .error (conflict "application still has streams")
    else .ok { m with applications := m.applications.erase name }

def setStreams (record : ApplicationRecord)
    (streams : AList fun _ : Bytes => StreamRecord) : StreamManager :=
  { m with applications := m.applications.insert application { record with streams } }

def createStream (application name keyHash : Bytes)
    (recordingEnabled : Bool) (createdAt : ℤ) : Except Error StreamManager :=
  match m.applications.lookup application with
  | none => .error (notFound "application not found")
  | some record =>
    if name ∈ record.streams then .error (conflict "stream already exists")
    else
      .ok (m.setStreams application record (record.streams.insert name
          { keyHash, recordingEnabled, createdAt }))

/-- What most operations do: find a stream and write it back changed. -/
def changeStream (change : StreamRecord → StreamRecord) : Except Error StreamManager :=
  match m.applications.lookup application with
  | none => .error (notFound "application not found")
  | some record =>
    match record.streams.lookup name with
    | none => .error (notFound "stream not found")
    | some stream =>
      .ok (m.setStreams application record (record.streams.insert name (change stream)))

def rotateKey (application name keyHash : Bytes) : Except Error StreamManager :=
  m.changeStream application name fun stream => { stream with keyHash }

def setEnabled (enabled : Bool) : Except Error StreamManager :=
  m.changeStream application name fun stream => { stream with enabled }

def setRecordingEnabled (enabled : Bool) : Except Error StreamManager :=
  m.changeStream application name fun stream => { stream with recordingEnabled := enabled }

def deleteStream : Except Error StreamManager :=
  match m.applications.lookup application with
  | none => .error (notFound "application not found")
  | some record =>
    if name ∉ record.streams then .error (notFound "stream not found")
    else .ok (m.setStreams application record (record.streams.erase name))

def findStream : Option StreamRecord :=
  (m.applications.lookup application).bind fun record => record.streams.lookup name

def signPlaybackToken (hmac : Bytes → Bytes → Bytes)
    (m : StreamManager) (application name : Bytes) (expiresAt : ℤ) : Bytes :=
  signToken hmac m.tokenSigningSecret application name expiresAt

/-- A token opens a stream that is there and enabled. -/
def verifyPlaybackToken (hmac : Bytes → Bytes → Bytes)
    (m : StreamManager) (application name token : Bytes) (expiresAt now : ℤ) : Except Error Unit :=
  match m.applications.lookup application with
  | none => .error (notFound "application not found")
  | some record =>
    match record.streams.lookup name with
    | none => .error (notFound "stream not found")
    | some stream =>
      if stream.enabled = false then .error ⟨.unauthorized, .authentication, "stream disabled"⟩
      else checkToken hmac m.tokenSigningSecret application name token expiresAt now

/-! ## Runs -/

inductive Operation where
  | createApplication (name : Bytes)
  | deleteApplication (name : Bytes)
  | createStream (application name keyHash : Bytes) (recordingEnabled : Bool) (createdAt : ℤ)
  | rotateKey (application name keyHash : Bytes)
  | setEnabled (application name : Bytes) (enabled : Bool)
  | setRecordingEnabled (application name : Bytes) (enabled : Bool)
  | deleteStream (application name : Bytes)

def attempt : Operation → Except Error StreamManager
  | .createApplication name => m.createApplication name
  | .deleteApplication name => m.deleteApplication name
  | .createStream application name keyHash recordingEnabled createdAt =>
    m.createStream application name keyHash recordingEnabled createdAt
  | .rotateKey application name keyHash => m.rotateKey application name keyHash
  | .setEnabled application name enabled => m.setEnabled application name enabled
  | .setRecordingEnabled application name enabled => m.setRecordingEnabled application name enabled
  | .deleteStream application name => m.deleteStream application name

def perform (operation : Operation) : StreamManager := (m.attempt operation).toOption.getD m

/-- The stream is there. -/
def Lists (stream : Bytes × Bytes) : Prop := (m.findStream stream.1 stream.2).isSome

end StreamManager

end RtmpCore.Management
