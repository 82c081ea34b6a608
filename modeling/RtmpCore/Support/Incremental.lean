import Mathlib.Tactic.Common

/-!
# Incremental machines over a growing buffer

Parsers of a byte stream are driven by whatever the transport happens to
deliver.  They keep the unread bytes, retry from the front of the buffer each
time more bytes arrive, and stop for good once the input is malformed.

This module isolates that pattern.  A machine makes one attempt at a time; an
attempt asks for more input, consumes a nonempty prefix of the buffer, or
stops.  `Stable` lists the three facts about single attempts from which
independence of the transport's fragmentation follows for whole runs.
-/

namespace RtmpCore.Incremental

open List

/-- The result of one attempt to take a unit off the front of the buffer. -/
inductive Attempt (σ β ω : Type*) where
  | needMore (state : σ)
  | consumed (state : σ) (rest : List β) (out : List ω)
  | stopped (state : σ) (out : List ω)

/-- More input behind what an attempt left. -/
def Attempt.append {σ β ω : Type*} (x : List β) : Attempt σ β ω → Attempt σ β ω
  | .consumed s r o => .consumed s (r ++ x) o
  | attempt => attempt

/-- A machine that makes progress: consuming shortens the buffer. -/
structure Machine (σ β ω : Type*) where
  attempt : σ → List β → Attempt σ β ω
  rest_shorter : ∀ {s s' : σ} {b r : List β} {o : List ω},
    attempt s b = .consumed s' r o → r.length < b.length

/-- A machine between two deliveries: its state, the unread input and whether
it has stopped. -/
@[ext] structure Config (σ β : Type*) where
  state : σ
  buffer : List β
  stopped : Bool

variable {σ β ω : Type*}

/-- Attempt until more input is needed or the machine stops. -/
def drain (M : Machine σ β ω) (s : σ) (b : List β) : Config σ β × List ω :=
  match _h : M.attempt s b with
  | .needMore s' => (⟨s', b, false⟩, [])
  | .consumed s' r o =>
    let next := drain M s' r
    (next.1, o ++ next.2)
  | .stopped s' o => (⟨s', [], true⟩, o)
termination_by b.length
decreasing_by exact M.rest_shorter _h

section Drain

variable {M : Machine σ β ω} {s s' : σ} {b r : List β} {o : List ω}

theorem drain_eq (M : Machine σ β ω) (s : σ) (b : List β) : drain M s b = match M.attempt s b with
      | .needMore s' => (⟨s', b, false⟩, [])
      | .consumed s' r o => ((drain M s' r).1, o ++ (drain M s' r).2)
      | .stopped s' o => (⟨s', [], true⟩, o) := by
  rw [drain]
  split <;> rename_i heq <;> rw [heq]

theorem drain_of_needMore (h : M.attempt s b = .needMore s') :
    drain M s b = (⟨s', b, false⟩, []) := by
  rw [drain_eq, h]

theorem drain_of_consumed (h : M.attempt s b = .consumed s' r o) :
    drain M s b = ((drain M s' r).1, o ++ (drain M s' r).2) := by
  rw [drain_eq, h]

theorem drain_of_stopped (h : M.attempt s b = .stopped s' o) :
    drain M s b = (⟨s', [], true⟩, o) := by
  rw [drain_eq, h]

end Drain

variable {M : Machine σ β ω} {c : Config σ β} {x : List β}

theorem drain_induction {motive : σ → List β → Prop}
    (needMore : ∀ s b s', M.attempt s b = .needMore s' → motive s b)
    (consumed : ∀ s b s' r o, M.attempt s b = .consumed s' r o → motive s' r → motive s b)
    (stopped : ∀ s b s' o, M.attempt s b = .stopped s' o → motive s b)
    (s : σ) (b : List β) : motive s b := by
  induction hn : b.length using Nat.strongRecOn generalizing s b with
  | ind n ih =>
    cases h : M.attempt s b with
    | needMore s' => exact needMore s b s' h
    | consumed s' r o =>
      have hlt : r.length < n := hn ▸ M.rest_shorter h
      exact consumed s b s' r o h (ih r.length hlt s' r rfl)
    | stopped s' o => exact stopped s b s' o h

/-- Deliver one piece of input.  Nothing happens after the machine has
stopped, nor on an empty delivery. -/
def feed [DecidableEq β] (M : Machine σ β ω) (c : Config σ β) (x : List β) : Config σ β × List ω :=
  if c.stopped = true ∨ x = [] then (c, [])
  else drain M c.state (c.buffer ++ x)

theorem feed_of_skipped [DecidableEq β] (h : c.stopped = true ∨ x = []) : feed M c x = (c, []) :=
  if_pos h

theorem feed_of_running [DecidableEq β] (hc : c.stopped = false) (hx : x ≠ []) :
    feed M c x = drain M c.state (c.buffer ++ x) :=
  if_neg (by simp [hc, hx])

/-- Deliver the pieces one after another. -/
def feedAll [DecidableEq β] (M : Machine σ β ω) (c : Config σ β) :
    List (List β) → Config σ β × List ω
  | [] => (c, [])
  | x :: xs =>
    let first := feed M c x
    let rest := feedAll M first.1 xs
    (rest.1, first.2 ++ rest.2)

theorem feedAll_of_stopped [DecidableEq β] (h : c.stopped = true) (pieces : List (List β)) :
    feedAll M c pieces = (c, []) := by
  induction pieces with
  | nil => rfl
  | cons x xs ih => simp [feedAll, feed_of_skipped (Or.inl h), ih]

theorem feedAll_append [DecidableEq β] (M : Machine σ β ω) (c : Config σ β)
    (pieces more : List (List β)) :
    feedAll M c (pieces ++ more) = ((feedAll M (feedAll M c pieces).1 more).1,
        (feedAll M c pieces).2 ++ (feedAll M (feedAll M c pieces).1 more).2) := by
  induction pieces generalizing c with
  | nil => rfl
  | cons x xs ih =>
    rw [cons_append, feedAll, ih, feedAll]
    simp only [append_assoc]

/-- What a single attempt must satisfy for deliveries to be mergeable: a
completed attempt does not look past what it consumed, a stop is not undone by
further input, and asking for more leaves a state in which the retry does
exactly what the first attempt would have done with the longer buffer. -/
structure Stable (M : Machine σ β ω) : Prop where
  consumed_append : ∀ {s s' : σ} {b r : List β} {o : List ω} (x : List β),
    M.attempt s b = .consumed s' r o → M.attempt s (b ++ x) = .consumed s' (r ++ x) o
  stopped_append : ∀ {s s' : σ} {b : List β} {o : List ω} (x : List β),
    M.attempt s b = .stopped s' o → M.attempt s (b ++ x) = .stopped s' o
  needMore_retry : ∀ {s s' : σ} {b : List β} (x : List β),
    M.attempt s b = .needMore s' → M.attempt s' (b ++ x) = M.attempt s (b ++ x)

/-- The same of the inputs that are met on the way.  `Ahead s w` is asked of
the input `w` that is still to come when the machine is in state `s`; the facts
about an attempt are asked only on front parts of such an input. -/
structure StableOn (M : Machine σ β ω) (Ahead : σ → List β → Prop) : Prop where
  consumed_append : ∀ {s s' : σ} {b r : List β} {o : List ω} {x : List β},
    Ahead s (b ++ x) → M.attempt s b = .consumed s' r o →
      M.attempt s (b ++ x) = .consumed s' (r ++ x) o ∧ Ahead s' (r ++ x)
  stopped_append : ∀ {s s' : σ} {b : List β} {o : List ω} {x : List β},
    Ahead s (b ++ x) → M.attempt s b = .stopped s' o → M.attempt s (b ++ x) = .stopped s' o
  needMore_retry : ∀ {s s' : σ} {b : List β} {x : List β},
    Ahead s (b ++ x) → M.attempt s b = .needMore s' →
      M.attempt s' (b ++ x) = M.attempt s (b ++ x) ∧ Ahead s' (b ++ x)

theorem Stable.on (hM : Stable M) : StableOn M fun _ _ => True where
  consumed_append := fun _ h => ⟨hM.consumed_append _ h, trivial⟩
  stopped_append := fun _ h => hM.stopped_append _ h
  needMore_retry := fun _ h => ⟨hM.needMore_retry _ h, trivial⟩

namespace StableOn

variable {Ahead : σ → List β → Prop}

variable {s : σ} {b y : List β}

/-- Draining a longer buffer is draining a prefix of it and then continuing
with the rest, unless the prefix already stopped the machine. -/
theorem drain_append (hM : StableOn M Ahead) (h : Ahead s (b ++ x)) :
    drain M s (b ++ x) = if (drain M s b).1.stopped = true then drain M s b
      else
        let c := (drain M s b).1
        let next := drain M c.state (c.buffer ++ x)
        (next.1, (drain M s b).2 ++ next.2) := by
  induction s, b using drain_induction (M := M) with
  | needMore s b s' hatt =>
    have hretry := (hM.needMore_retry h hatt).1
    rw [drain_of_needMore hatt]
    -- the retry and the first attempt agree, so the two drains agree
    rw [drain_eq M s, ← hretry, ← drain_eq]
    rfl
  | consumed s b s' r o hatt ih =>
    obtain ⟨hlong, hahead⟩ := hM.consumed_append h hatt
    rw [drain_of_consumed hlong, drain_of_consumed hatt, ih hahead]
    split
    · rfl
    · simp only [append_assoc]
  | stopped s b s' o hatt =>
    rw [drain_of_stopped (hM.stopped_append h hatt), drain_of_stopped hatt]
    simp

theorem ahead_drain (hM : StableOn M Ahead)
    (h : Ahead s (b ++ x)) (hrun : (drain M s b).1.stopped = false) :
    Ahead (drain M s b).1.state ((drain M s b).1.buffer ++ x) := by
  induction s, b using drain_induction (M := M) with
  | needMore s b s' hatt =>
    rw [drain_of_needMore hatt]
    exact (hM.needMore_retry h hatt).2
  | consumed s b s' r o hatt ih =>
    rw [drain_of_consumed hatt] at hrun ⊢
    exact ih (hM.consumed_append h hatt).2 hrun
  | stopped s b s' o hatt =>
    rw [drain_of_stopped hatt] at hrun
    cases hrun

theorem feed_append [DecidableEq β] (hM : StableOn M Ahead)
    (h : Ahead c.state (c.buffer ++ (x ++ y))) : feed M c (x ++ y) = ((feed M (feed M c x).1 y).1,
        (feed M c x).2 ++ (feed M (feed M c x).1 y).2) := by
  cases hc : c.stopped with
  | true => simp [feed_of_skipped (Or.inl hc)]
  | false =>
    by_cases hx : x = []
    · simp [hx, feed_of_skipped]
    by_cases hy : y = []
    · simp [hy, feed_of_skipped]
    have hxy : x ++ y ≠ [] := by simp [hx]
    rw [← append_assoc] at h
    rw [feed_of_running hc hxy, feed_of_running hc hx, ← append_assoc, hM.drain_append h]
    cases hstop : (drain M c.state (c.buffer ++ x)).1.stopped with
    | true => simp [feed_of_skipped (Or.inl hstop)]
    | false => simp [feed_of_running hstop hy]

theorem ahead_feed [DecidableEq β] (hM : StableOn M Ahead)
    (h : Ahead c.state (c.buffer ++ (x ++ y))) (hrun : (feed M c x).1.stopped = false) :
    Ahead (feed M c x).1.state ((feed M c x).1.buffer ++ y) := by
  unfold feed at hrun ⊢
  split at hrun
  next hskipped =>
    rw [if_pos hskipped]
    obtain rfl := hskipped.resolve_left (by simpa using hrun)
    exact h
  next hfed =>
    rw [if_neg hfed]
    exact hM.ahead_drain (by rwa [append_assoc]) hrun

/-- However the input is cut into deliveries, the machine ends in the same
configuration with the same output. -/
theorem feedAll_eq_feed_flatten [DecidableEq β] (hM : StableOn M Ahead) {pieces : List (List β)}
    (h : c.stopped = false → Ahead c.state (c.buffer ++ pieces.flatten)) :
    feedAll M c pieces = feed M c pieces.flatten := by
  induction pieces generalizing c with
  | nil => simp [feedAll, feed]
  | cons x xs ih =>
    cases hc : c.stopped with
    | true => rw [feedAll_of_stopped hc, feed_of_skipped (.inl hc)]
    | false =>
      rw [flatten_cons] at h ⊢
      rw [feedAll, ih (hM.ahead_feed (h hc)), hM.feed_append (h hc)]

end StableOn

/-- However the input is cut into deliveries, a stable machine ends in the same
configuration with the same output. -/
theorem feedAll_eq_feed_flatten [DecidableEq β]
    (hM : Stable M) (c : Config σ β) (pieces : List (List β)) :
    feedAll M c pieces = feed M c pieces.flatten :=
  hM.on.feedAll_eq_feed_flatten fun _ => trivial

end RtmpCore.Incremental
