import RtmpCore.Core.ByteOrder
import RtmpCore.Support.Counters

/-!
# The authenticator

The limits that all workers of a server share: connections by address, viewers
by stream and failed authorisations by address.  Every function here is one
section under the authenticator's lock.  The playback authorizer takes the lock
twice: to see whether the address is locked out, and, after it has asked the
stream manager, to look at the number of viewers.

Time is what the monotonic clock shows.
-/

namespace RtmpCore.Auth

open RtmpCore.Core Support List Function

structure AuthenticatorLimits where
  maxViewersPerStream : UInt64 := 5000
  maxConnectionsPerIp : UInt64 := 100
  maxAuthFailuresPerIp : UInt64 := 20
  authFailureWindow : ℕ := 60 * 1000 * 1000 * 1000
deriving DecidableEq

structure FailureWindow where
  count : UInt64 := 0
  windowStart : ℕ := 0
deriving DecidableEq

structure RtmpAuthenticator where
  limits : AuthenticatorLimits := {}
  connectionsPerIp : Counters Bytes := ∅
  authFailuresPerIp : AList (fun _ : Bytes => FailureWindow) := ∅
  viewersPerStream : Counters Bytes := ∅

/-- The viewers of a stream are counted under `application/name`. -/
def viewerKey (app name : Bytes) : Bytes := app ++ "/" ++ name

namespace RtmpAuthenticator

variable (a : RtmpAuthenticator) (now : ℕ) (clientIp : Bytes) (success : Bool)

/-- An unknown address is never locked out. -/
def ipLockedOut : Bool :=
  if clientIp = [] then false
  else
    match a.authFailuresPerIp.lookup clientIp with
    | none => false
    | some window =>
      if a.limits.authFailureWindow < now - window.windowStart then false
      else decide (a.limits.maxAuthFailuresPerIp ≤ window.count)

def recordAuthResult : RtmpAuthenticator :=
  if success ∨ clientIp = [] then a
  else
    let window := (a.authFailuresPerIp.lookup clientIp).getD {}
    let current : FailureWindow :=
      if a.limits.authFailureWindow < now - window.windowStart then
        { count := 0, windowStart := now }
      else window
    { a with
      authFailuresPerIp := a.authFailuresPerIp.insert clientIp
        { current with count := current.count + 1 } }

/-- The end of the playback authorizer, with what the stream manager has said
of the stream and of its application: whether it is known and enabled. -/
def authorizePlayback (app name clientIp : Bytes) (streamEnabled applicationEnabled : Bool) :
    RtmpAuthenticator × Bool :=
  if !streamEnabled || !applicationEnabled then (a.recordAuthResult now clientIp false, false)
  else if a.limits.maxViewersPerStream ≤ a.viewersPerStream.count (viewerKey app name) then
    (a.recordAuthResult now clientIp false, false)
  else (a.recordAuthResult now clientIp true, true)

def onViewerAttached (app name : Bytes) : RtmpAuthenticator :=
  { a with viewersPerStream := a.viewersPerStream.increment (viewerKey app name) }

def onViewerDetached (app name : Bytes) : RtmpAuthenticator :=
  { a with viewersPerStream := a.viewersPerStream.decrement (viewerKey app name) }

/-- Connections of an unknown address are not counted.  Looking at the counter
of a new address creates it. -/
def admitConnection : RtmpAuthenticator × Bool :=
  if clientIp = [] then (a, true)
  else if a.limits.maxConnectionsPerIp ≤ a.connectionsPerIp.count clientIp then
    ({ a with
        connectionsPerIp := a.connectionsPerIp.insert clientIp
          (a.connectionsPerIp.count clientIp) }, false)
  else ({ a with connectionsPerIp := a.connectionsPerIp.increment clientIp }, true)

def releaseConnection : RtmpAuthenticator :=
  if clientIp = [] then a
  else { a with connectionsPerIp := a.connectionsPerIp.decrement clientIp }

@[simp] theorem limits_recordAuthResult :
    (a.recordAuthResult now clientIp success).limits = a.limits := by
  unfold recordAuthResult
  split_ifs
  · rfl
  · rfl

@[simp] theorem viewersPerStream_recordAuthResult :
    (a.recordAuthResult now clientIp success).viewersPerStream = a.viewersPerStream := by
  unfold recordAuthResult
  split_ifs
  · rfl
  · rfl

variable {a a' : RtmpAuthenticator} {now : ℕ} {app name clientIp : Bytes}
  {streamEnabled applicationEnabled granted : Bool}

theorem viewersPerStream_authorizePlayback
    (h : a.authorizePlayback now app name clientIp streamEnabled
      applicationEnabled = (a', granted)) :
    a'.limits = a.limits ∧ a'.viewersPerStream = a.viewersPerStream := by
  unfold authorizePlayback at h
  split_ifs at h
  all_goals
    obtain ⟨rfl, -⟩ := Prod.mk.inj h
    exact ⟨limits_recordAuthResult .., viewersPerStream_recordAuthResult ..⟩

/-- Playback is authorised only while the stream has room for a viewer. -/
theorem lt_of_authorizePlayback (h : a.authorizePlayback now app name clientIp streamEnabled
      applicationEnabled = (a', true)) :
    a.viewersPerStream.amount (viewerKey app name) < a.limits.maxViewersPerStream.toNat := by
  unfold authorizePlayback at h
  split_ifs at h with hen hfull
  · simp at h
  · simp at h
  · exact UInt64.lt_iff_toNat_lt.mp (UInt64.not_le.mp hfull)

/-- A connection is admitted only while its address has room for it, and is
counted then. -/
theorem amount_of_admitted (hip : clientIp ≠ []) (h : a.admitConnection clientIp = (a', true)) :
    a'.limits = a.limits ∧ a.connectionsPerIp.amount clientIp < a.limits.maxConnectionsPerIp.toNat ∧
      a'.connectionsPerIp.amount = update a.connectionsPerIp.amount
        clientIp (a.connectionsPerIp.amount clientIp + 1) := by
  unfold admitConnection at h
  rw [if_neg hip] at h
  split_ifs at h with hfull
  · simp at h
  · obtain ⟨rfl, -⟩ := Prod.mk.inj h
    have hroom : a.connectionsPerIp.amount clientIp < a.limits.maxConnectionsPerIp.toNat :=
      UInt64.lt_iff_toNat_lt.mp (UInt64.not_le.mp hfull)
    have hmax := a.limits.maxConnectionsPerIp.toNat_lt
    exact ⟨rfl, hroom, Counters.amount_increment (by omega)⟩

theorem eq_of_admitted_unknown (h : a.admitConnection [] = (a', true)) : a' = a :=
  (Prod.mk.inj h).1.symm

theorem amount_of_refused (h : a.admitConnection clientIp = (a', false)) : a'.limits = a.limits ∧
      a'.connectionsPerIp.amount = a.connectionsPerIp.amount := by
  unfold admitConnection at h
  split_ifs at h
  · simp at h
  · obtain ⟨rfl, -⟩ := Prod.mk.inj h
    refine ⟨rfl, ?_⟩
    rw [Counters.amount_insert]
    exact update_eq_self clientIp a.connectionsPerIp.amount
  · simp at h

theorem amount_releaseConnection (hip : clientIp ≠ [])
    (h : 0 < a.connectionsPerIp.amount clientIp) :
    (a.releaseConnection clientIp).connectionsPerIp.amount =
      update a.connectionsPerIp.amount clientIp (a.connectionsPerIp.amount clientIp - 1) := by
  unfold releaseConnection
  rw [if_neg hip]
  exact Counters.amount_decrement h

theorem limits_releaseConnection : (a.releaseConnection clientIp).limits = a.limits := by
  unfold releaseConnection
  split_ifs <;> rfl

end RtmpAuthenticator

theorem takeWhile_reverse_viewerKey {app name : Bytes} (h : 0x2F ∉ name) :
    (viewerKey app name).reverse.takeWhile (· ≠ 0x2F) = name.reverse := by
  have hkey : (viewerKey app name).reverse = name.reverse ++ 0x2F :: app.reverse := by
    have hslash : textBytes "/" = [0x2F] := by decide
    simp [viewerKey, hslash]
  have hname : ∀ byte ∈ name.reverse, (byte ≠ 0x2F : Bool) := by
    intro byte hbyte
    have : byte ≠ 0x2F := fun heq => h (heq ▸ mem_reverse.mp hbyte)
    simpa using this
  rw [hkey, takeWhile_append_of_pos hname]
  simp

theorem viewerKey_inj {app app' name name' : Bytes} (hname : 0x2F ∉ name)
    (hname' : 0x2F ∉ name') (h : viewerKey app name = viewerKey app' name') :
    app = app' ∧ name = name' := by
  have hreverse : name.reverse = name'.reverse := by
    rw [← takeWhile_reverse_viewerKey hname, h, takeWhile_reverse_viewerKey hname']
  obtain rfl := reverse_injective hreverse
  have happ : app ++ "/" = app' ++ "/" := append_cancel_right h
  exact ⟨append_cancel_right happ, rfl⟩

end RtmpCore.Auth
