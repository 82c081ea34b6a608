import Mathlib.Data.Nat.Basic
import Mathlib.Tactic.Common

/-!
# Gated lanes

A lane carries items in order of arrival, and some items can only be used
after all items since the last entry point.  A lane that loses an item must
therefore not pass on anything that arrived later until the next entry point.

The lane closes a gate when it loses an item and refuses everything but an
entry point while the gate is closed.  `LaneStep` lists the moves of such a
lane.  `Resumes` is what they guarantee for the consumer: after a loss, the
first later item that is passed on is an entry point.
-/

namespace RtmpCore.GatedLane

open List

variable {φ : Type*}

/-- What is observed of a lane. -/
inductive LaneEvent (φ : Type*) where
  | lost (item : φ)
  | passed (item : φ)

/-- The items waiting in a lane, whether its gate is closed, and a bound on
the serial numbers that have arrived. -/
structure Lane (φ : Type*) where
  queued : List φ
  gated : Prop
  arrived : ℕ

def passedItems (log : List (LaneEvent φ)) : List φ :=
  log.filterMap fun
    | .passed item => some item
    | .lost _ => none

/-- Every loss, with the items passed on after it. -/
def losses : List (LaneEvent φ) → List (φ × List φ)
  | [] => []
  | .lost item :: rest => (item, passedItems rest) :: losses rest
  | .passed _ :: rest => losses rest

section Log

variable (log log' : List (LaneEvent φ)) (items : List φ)

theorem passedItems_append : passedItems (log ++ log') = passedItems log ++ passedItems log' :=
  filterMap_append

@[simp] theorem passedItems_map_passed : passedItems (items.map .passed) = items := by
  induction items with
  | nil => rfl
  | cons x rest ih => exact congrArg (x :: ·) ih

@[simp] theorem passedItems_map_lost : passedItems (items.map .lost) = [] := by
  induction items with
  | nil => rfl
  | cons x rest ih => exact ih

theorem losses_append : losses (log ++ log') =
      (losses log).map (fun loss => (loss.1, loss.2 ++ passedItems log')) ++ losses log' := by
  induction log with
  | nil => rfl
  | cons event rest ih =>
    cases event with
    | lost item =>
      rw [cons_append, losses, ih, passedItems_append]
      rfl
    | passed item => exact ih

@[simp] theorem losses_map_lost : losses (items.map .lost) = items.map fun item => (item, []) := by
  induction items with
  | nil => rfl
  | cons x rest ih =>
    rw [map_cons, losses, ih, passedItems_map_lost]
    rfl

@[simp] theorem losses_map_passed : losses (items.map .passed) = [] := by
  induction items with
  | nil => rfl
  | cons x rest ih => exact ih

end Log

variable (entry : φ → Prop) (serial : φ → ℕ)

/-- The moves of a gated lane, with what is observed.  An arriving item has a
serial number above all earlier ones. -/
inductive LaneStep : Lane φ → List (LaneEvent φ) → Lane φ → Prop where
  | refuse {lane : Lane φ} {x : φ} (hnew : lane.arrived ≤ serial x) :
      LaneStep lane [.lost x] ⟨lane.queued, True, serial x + 1⟩
  | push {lane : Lane φ} {x : φ} (hopen : ¬lane.gated ∨ entry x) (hnew : lane.arrived ≤ serial x) :
      LaneStep lane [] ⟨lane.queued ++ [x], False, serial x + 1⟩
  | restart {lane : Lane φ} {x : φ} (hentry : entry x) (hnew : lane.arrived ≤ serial x) :
      LaneStep lane (lane.queued.map .lost) ⟨[x], False, serial x + 1⟩
  | shed {lane : Lane φ} {x : φ} (hnew : lane.arrived ≤ serial x) :
      LaneStep lane ((lane.queued ++ [x]).map .lost) ⟨[], True, serial x + 1⟩
  | pass {lane : Lane φ} {front rest : List φ} {bound : ℕ}
      (hqueued : lane.queued = front ++ rest) (hbound : lane.arrived ≤ bound) :
      LaneStep lane (front.map .passed) ⟨rest, lane.gated, bound⟩

variable {entry serial} in
theorem LaneStep.idle {lane : Lane φ} {bound : ℕ} (h : lane.arrived ≤ bound) :
    LaneStep entry serial lane [] { lane with arrived := bound } :=
  @LaneStep.pass _ entry serial lane [] lane.queued bound rfl h

/-- After every loss, the first item passed on that arrived later is an entry
point. -/
def Resumes (log : List (LaneEvent φ)) : Prop :=
  ∀ loss ∈ losses log, ∀ next,
    loss.2.find? (fun x => serial loss.1 < serial x) = some next → entry next

/-- The first of the items is an entry point; if there is none, the gate is
closed. -/
def Covered (gated : Prop) : List φ → Prop
  | [] => gated
  | x :: _ => entry x

/-- The invariant: whatever follows a loss, passed on or still queued, starts
with an entry point or is held back by the gate. -/
structure Sound (lane : Lane φ) (log : List (LaneEvent φ)) : Prop where
  queued_lt : ∀ x ∈ lane.queued, serial x < lane.arrived
  lost_lt : ∀ loss ∈ losses log, serial loss.1 < lane.arrived
  covered : ∀ loss ∈ losses log, Covered entry lane.gated
    ((loss.2 ++ lane.queued).filter fun x => serial loss.1 < serial x)

variable {entry serial} {gated : Prop} {lane lane' : Lane φ} {log out : List (LaneEvent φ)}

theorem Sound.resumes (h : Sound entry serial lane log) : Resumes entry serial log := by
  intro loss hloss next hnext
  have hcov := h.covered loss hloss
  rw [filter_append] at hcov
  obtain ⟨rest, hrest⟩ : ∃ rest,
      (loss.2.filter fun x => serial loss.1 < serial x) = next :: rest := by
    rw [← head?_filter] at hnext
    exact head?_eq_some_iff.mp hnext
  rw [hrest] at hcov
  exact hcov

theorem sound_empty (gated : Prop) (arrived : ℕ) : Sound entry serial ⟨[], gated, arrived⟩ [] :=
  ⟨by simp, by simp [losses], by simp [losses]⟩

/-- An open gate means that something already follows every loss. -/
theorem Covered.append {items : List φ} (h : Covered entry gated items)
    (hopen : ¬gated ∨ entry x) : Covered entry False (items ++ [x]) := by
  cases items with
  | nil => exact hopen.resolve_left (not_not_intro h)
  | cons y rest => exact h

theorem Covered.closed {items : List φ} (h : Covered entry gated items) :
    Covered entry True items := by
  cases items with
  | nil => trivial
  | cons y rest => exact h

/-- Replacing the queue behind what was passed on. -/
theorem Covered.replace {items queued queued' : List φ} {gated' : Prop}
    (h : Covered entry gated (items ++ queued)) (h' : Covered entry gated' queued') :
    Covered entry gated' (items ++ queued') := by
  cases items with
  | nil => exact h'
  | cons y rest => exact h

/-- How the invariant is carried over a move: the new losses are followed by
nothing but the queue, and the old ones keep a cover. -/
theorem Sound.extend (h : Sound entry serial lane log) (lost passed : List φ)
    (hlosses : losses out = lost.map fun x => (x, [])) (hpassed : passedItems out = passed)
    (hmono : lane.arrived ≤ lane'.arrived) (hqd : ∀ x ∈ lane'.queued, serial x < lane'.arrived)
    (hlost : ∀ x ∈ lost, serial x < lane'.arrived) (hfsh : ∀ x ∈ lost,
      Covered entry lane'.gated (lane'.queued.filter fun y => serial x < serial y))
    (hold : ∀ loss ∈ losses log, Covered entry lane'.gated
      ((loss.2 ++ (passed ++ lane'.queued)).filter fun y => serial loss.1 < serial y)) :
    Sound entry serial lane' (log ++ out) := by
  have hcases : ∀ loss ∈ losses (log ++ out),
      (∃ old ∈ losses log, loss = (old.1, old.2 ++ passed)) ∨ ∃ x ∈ lost, loss = (x, []) := by
    intro loss hloss
    rw [losses_append, hlosses, hpassed, mem_append, mem_map, mem_map] at hloss
    rcases hloss with ⟨old, hmem, rfl⟩ | ⟨x, hmem, rfl⟩
    · exact Or.inl ⟨old, hmem, rfl⟩
    · exact Or.inr ⟨x, hmem, rfl⟩
  refine ⟨hqd, ?_, ?_⟩
  · intro loss hloss
    rcases hcases loss hloss with ⟨old, hmem, rfl⟩ | ⟨x, hmem, rfl⟩
    · exact lt_of_lt_of_le (h.lost_lt old hmem) hmono
    · exact hlost x hmem
  · intro loss hloss
    rcases hcases loss hloss with ⟨old, hmem, rfl⟩ | ⟨x, hmem, rfl⟩
    · rw [append_assoc]
      exact hold old hmem
    · exact hfsh x hmem

theorem Sound.filter_queued_eq_nil (h : Sound entry serial lane log) {x : φ}
    (hnew : lane.arrived ≤ serial x) : (lane.queued.filter fun y => serial x < serial y) = [] := by
  rw [filter_eq_nil_iff]
  intro y hy
  have hlt := h.queued_lt y hy
  simp only [decide_eq_true_eq]
  omega

theorem Sound.append_lt (h : Sound entry serial lane log) {x : φ} (hnew : lane.arrived ≤ serial x) :
    ∀ y ∈ lane.queued ++ [x], serial y < serial x + 1 := by
  intro y hy
  rcases mem_append.mp hy with hy | hy
  · exact lt_of_lt_of_le (h.queued_lt y hy) (Nat.le_succ_of_le hnew)
  · rw [mem_singleton.mp hy]
    exact Nat.lt_succ_self _

theorem filter_singleton_later {x y : φ} (h : serial x < serial y) :
    ([y].filter fun z => serial x < serial z) = [y] := by
  simp [h]

theorem Sound.step (h : Sound entry serial lane log)
    (hstep : LaneStep entry serial lane out lane') : Sound entry serial lane' (log ++ out) := by
  cases hstep with
  | @refuse x hnew =>
    apply h.extend [x] [] rfl rfl (Nat.le_succ_of_le hnew)
    · exact fun y hy => h.append_lt hnew y (mem_append_left _ hy)
    · simp
    · intro y hy
      rw [mem_singleton.mp hy, h.filter_queued_eq_nil hnew]
      exact trivial
    · exact fun loss hloss => (h.covered loss hloss).closed
  | @push x hopen hnew =>
    apply h.extend [] [] rfl rfl (Nat.le_succ_of_le hnew) (h.append_lt hnew)
    · simp
    · simp
    · intro loss hloss
      have hlater := lt_of_lt_of_le (h.lost_lt loss hloss) hnew
      rw [nil_append, ← append_assoc, filter_append, filter_singleton_later hlater]
      exact (h.covered loss hloss).append hopen
  | @restart x hent hnew =>
    apply h.extend lane.queued [] (losses_map_lost _)
      (passedItems_map_lost _) (Nat.le_succ_of_le hnew)
    · simp
    · exact fun y hy => h.append_lt hnew y (mem_append_left _ hy)
    · intro y hy
      rw [filter_singleton_later (lt_of_lt_of_le (h.queued_lt y hy) hnew)]
      exact hent
    · intro loss hloss
      have hcov := h.covered loss hloss
      have hlater := lt_of_lt_of_le (h.lost_lt loss hloss) hnew
      rw [filter_append] at hcov
      rw [nil_append, filter_append, filter_singleton_later hlater]
      exact hcov.replace hent
  | @shed x hnew =>
    apply h.extend (lane.queued ++ [x]) []
      (losses_map_lost _) (passedItems_map_lost _) (Nat.le_succ_of_le hnew)
    · simp
    · exact h.append_lt hnew
    · intro y hy
      exact trivial
    · intro loss hloss
      have hcov := h.covered loss hloss
      rw [filter_append] at hcov
      rw [filter_append]
      exact hcov.replace trivial
  | @pass front rest bound hqd hbd =>
    apply h.extend [] front (losses_map_passed _) (passedItems_map_passed _)
      hbd
    · intro y hy
      have hmem : y ∈ lane.queued := by
        rw [hqd]
        exact mem_append_right _ hy
      exact lt_of_lt_of_le (h.queued_lt y hmem) hbd
    · simp
    · simp
    · intro loss hloss
      rw [← hqd]
      exact h.covered loss hloss

end RtmpCore.GatedLane
