import Mathlib.Algebra.Order.BigOperators.Group.Finset
import RtmpCore.Core.ByteOrder
import RtmpCore.Support.Run

/-!
# The tracker of playback sessions

A stream's sessions are kept in shards, by a hash that is not looked into.  A
shard over its share of the maximum is swept, but a sweep takes only sessions
that have expired.
-/

namespace RtmpCore.Control

open Run List

abbrev kShardCount : ℕ := 64

structure ViewerSessionTracker where
  window : ℤ
  maxPerShard : ℕ
  shards : Fin kShardCount → List (Bytes × ℤ) := fun _ => []

inductive TrackerAction where
  | record (session : Bytes) (now : ℤ)
  | read (now : ℤ)

namespace ViewerSessionTracker

variable (hash : Bytes → Fin kShardCount) (t : ViewerSessionTracker)

def create (window : ℤ) (maxSessions : ℕ) : ViewerSessionTracker where
  window
  maxPerShard := if 0 < maxSessions / kShardCount then maxSessions / kShardCount else 1

def prune (now : ℤ) (sessions : List (Bytes × ℤ)) : List (Bytes × ℤ) :=
  sessions.filter fun entry => ¬entry.2 < now - t.window

/-- An entry that is there is refreshed. -/
def note (session : Bytes) (now : ℤ) (sessions : List (Bytes × ℤ)) : List (Bytes × ℤ) :=
  sessions.filter (·.1 ≠ session) ++ [(session, now)]

def record (session : Bytes) (now : ℤ) : ViewerSessionTracker :=
  if session = [] then t
  else
    let sessions := note session now (t.shards (hash session))
    let kept := if t.maxPerShard < sessions.length then t.prune now sessions else sessions
    { t with shards := Function.update t.shards (hash session) kept }

/-- `active_count` and `collect_active` prune every shard. -/
def perform : TrackerAction → ViewerSessionTracker
  | .record session now => t.record hash session now
  | .read now => { t with shards := fun i => t.prune now (t.shards i) }

def sessionCount : ℕ := ∑ i, (t.shards i).length

/-- A record has room: there are fewer sessions than the bound, or the session is there
already, or the sweep of its shard takes another one. -/
def Spare (bound : ℕ) (t : ViewerSessionTracker) : TrackerAction → Prop
  | .record session now => session ≠ [] →
      let others := (t.shards (hash session)).filter (·.1 ≠ session)
      t.sessionCount < bound ∨ others.length < (t.shards (hash session)).length ∨
        t.maxPerShard ≤ others.length ∧ (t.prune now others).length < others.length
  | .read _ => True

variable {hash t}

theorem sessionCount_update (i : Fin kShardCount) (kept : List (Bytes × ℤ)) :
    { t with shards := Function.update t.shards i kept }.sessionCount + (t.shards i).length =
      t.sessionCount + kept.length := by
  dsimp only [sessionCount]
  rw [← Finset.sum_erase_add _ _ (Finset.mem_univ i),
    ← Finset.sum_erase_add Finset.univ (fun i => (t.shards i).length) (Finset.mem_univ i)]
  have hothers : ∀ j ∈ Finset.univ.erase i,
      (Function.update t.shards i kept j).length = (t.shards j).length := by
    intro j hj
    rw [Function.update_of_ne (Finset.ne_of_mem_erase hj)]
  rw [Finset.sum_congr rfl hothers, Function.update_self]
  omega

theorem sessionCount_perform {bound : ℕ} (h : t.sessionCount ≤ bound) {action : TrackerAction}
    (hspare : t.Spare hash bound action) : (t.perform hash action).sessionCount ≤ bound := by
  cases action with
  | read now => exact (Finset.sum_le_sum fun i _ => length_filter_le _ _).trans h
  | record session now =>
    dsimp only [perform, record]
    by_cases hempty : session = []
    · rwa [if_pos hempty]
    · have hroom := hspare hempty
      dsimp only at hroom ⊢
      generalize hothers : (t.shards (hash session)).filter (·.1 ≠ session) = others at hroom
      have hless : others.length ≤ (t.shards (hash session)).length :=
        hothers ▸ length_filter_le _ _
      have hnote : note session now (t.shards (hash session)) = others ++ [(session, now)] := by
        rw [note, hothers]
      have hpruned : (t.prune now (others ++ [(session, now)])).length ≤
          (t.prune now others).length + 1 := by
        rw [prune, filter_append, length_append]
        exact Nat.add_le_add_left (length_filter_le _ _) _
      have hsweep : (t.prune now others).length ≤ others.length := length_filter_le _ _
      have hcount := t.sessionCount_update (hash session)
      rw [if_neg hempty, hnote, length_append, length_singleton]
      split_ifs with hover
      · have hkept := hcount (t.prune now (others ++ [(session, now)]))
        omega
      · have hkept := hcount (others ++ [(session, now)])
        rw [length_append, length_singleton] at hkept
        omega

/-- After every run in which every record has room, the tracker holds no more than it
may. -/
theorem sessionCount_le (hash : Bytes → Fin kShardCount) (window : ℤ) (maxSessions : ℕ)
    (actions : List TrackerAction)
    (h : Along (perform hash) (Spare hash (max maxSessions kShardCount))
      (create window maxSessions) actions) :
    (run (perform hash) (create window maxSessions) actions).sessionCount ≤
      max maxSessions kShardCount := by
  refine run_invariant (·.sessionCount ≤ max maxSessions kShardCount) h ?_ ?_
  · simp [sessionCount, create]
  · exact fun _ _ hspare hcount => sessionCount_perform hcount hspare

theorem sessionCount_le_two : (run (perform fun _ => 0) (create 30 128)
      [.record [1] 0, .read 5, .record [2] 10]).sessionCount ≤ 128 :=
  sessionCount_le _ _ _ _
    ⟨fun _ => .inl (by decide), trivial, fun _ => .inl (by decide), trivial⟩

/-- Sessions that are all fresh are never swept. -/
theorem sessionCount_flood : max 1 kShardCount <
    (run (perform fun session => Fin.ofNat _ (session.headD 0).toNat) (create 30 1)
      ((List.range 65).map fun i => .record [UInt8.ofNat i] 0)).sessionCount := by
  decide +kernel

end ViewerSessionTracker

end RtmpCore.Control
