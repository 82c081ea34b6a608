import Mathlib.Data.List.Induction

/-!
# Keyed events of a trace

Some events of a trace carry a key.  Statements about two successive keys speak
of the events between them, which carry none.
-/

namespace RtmpCore.Trace

open List

variable {ε α : Type*} {key : ε → Option α}

/-- The last keyed event of the trace has key `a`, and `between` follows it. -/
def LastKey (key : ε → Option α) (trace : List ε) (a : α) (between : List ε) : Prop :=
  ∃ before event, trace = before ++ event :: between ∧ key event = some a ∧
    ∀ e ∈ between, key e = none

/-- Two successive keyed events of the trace, with what stands between them. -/
def Successive (key : ε → Option α) (trace : List ε) (a : α) (between : List ε) (b : α) : Prop :=
  ∃ before event after, trace = before ++ event :: after ∧ key event = some b ∧
    LastKey key before a between

variable {between trace quiet : List ε} {a b : α}

theorem filterMap_eq_nil (hquiet : ∀ e ∈ between, key e = none) : between.filterMap key = [] :=
  filterMap_eq_nil_iff.mpr hquiet

theorem LastKey.getLast? (h : LastKey key trace a between) :
    (trace.filterMap key).getLast? = some a := by
  obtain ⟨before, event, rfl, hkey, hquiet⟩ := h
  rw [filterMap_append, filterMap_cons_some hkey, filterMap_eq_nil hquiet, getLast?_concat]

/-- Events without a key extend what follows the last key. -/
theorem LastKey.of_append
    (hquiet : ∀ e ∈ quiet, key e = none) (h : LastKey key (trace ++ quiet) a between) :
    ∃ inner, between = inner ++ quiet ∧ LastKey key trace a inner := by
  obtain ⟨before, event, hspl, hkey, hbetween⟩ := h
  rcases append_eq_append_iff.mp hspl with ⟨suffix, hbef, hrest⟩ | ⟨suffix, htr, hrest⟩
  · -- The keyed event would stand in the quiet part.
    have hmem : event ∈ quiet := by
      rw [hrest]
      exact mem_append_right _ mem_cons_self
    rw [hquiet event hmem] at hkey
    cases hkey
  · cases suffix with
    | nil =>
      have hmem : event ∈ quiet := by
        rw [nil_append] at hrest
        rw [← hrest]
        exact mem_cons_self
      rw [hquiet event hmem] at hkey
      cases hkey
    | cons e inner =>
      obtain ⟨rfl, rfl⟩ := hrest
      refine ⟨inner, rfl, before, event, htr, hkey, fun e he => ?_⟩
      exact hbetween e (mem_append_left _ he)

/-- A new event makes a new pair at most at the end. -/
theorem Successive.of_concat {event : ε} (h : Successive key (trace ++ [event]) a between b) :
    Successive key trace a between b ∨ (key event = some b ∧ LastKey key trace a between) := by
  obtain ⟨before, keyed, after, hspl, hkey, hlast⟩ := h
  rcases eq_nil_or_concat after with rfl | ⟨front, final, rfl⟩
  · obtain ⟨rfl, hev⟩ := append_inj' hspl rfl
    rw [List.cons.injEq] at hev
    rw [hev.1]
    exact .inr ⟨hkey, hlast⟩
  · rw [concat_eq_append, ← cons_append, ← append_assoc] at hspl
    obtain ⟨rfl, -⟩ := append_inj' hspl rfl
    exact .inl ⟨before, keyed, front, rfl, hkey, hlast⟩

theorem Successive.of_append (hquiet : ∀ e ∈ quiet, key e = none)
    (h : Successive key (trace ++ quiet) a between b) : Successive key trace a between b := by
  induction quiet using List.reverseRecOn with
  | nil => rwa [append_nil] at h
  | append_singleton quiet event ih =>
    rw [← append_assoc] at h
    rcases h.of_concat with hearl | ⟨hkey, -⟩
    · exact ih (fun e he => hquiet e (mem_append_left _ he)) hearl
    · rw [hquiet event (mem_append_right _ (mem_singleton_self event))] at hkey
      cases hkey

end RtmpCore.Trace
