import RtmpCore.Dispatch.Index

/-!
# The agents that hold a job

The manager beside the agents it gives jobs to.  An agent holds a job from the
post it accepted until it accepts the deletion; it keeps its jobs when the manager
loses sight of them, also across a restart of the manager.

A job is posted again when it is lost or has no node, and no earlier agent is told
to stop then.  The manager's record of a job names its one holder as long as a job
with a record is not taken by another agent, and a job without a record, one that
was created or restored, begins without a holder.
-/

namespace RtmpCore.Dispatch

open RtmpCore.Core List AList TranscoderDispatchManager Option

/-- The agent has taken the job. -/
def Placement.accepted (placement : Placement) : Bool :=
  match placement.response with
  | .error _ => false
  | .ok (status, _) => status / 100 = 2

namespace TranscoderDispatchManager

/-- The accepted posts of a call: the address of an agent and the job. -/
def posts (m : TranscoderDispatchManager) : Call → List (Bytes × Bytes)
  | .create config (some placement) =>
    if (m.create config (some placement)).2.isOk && placement.accepted then
      [(placement.address, keyOf config.application config.name)]
    else []
  | .retryUnassigned placements =>
    m.jobs.entries.filterMap fun entry =>
      ((entry.2.target (placements entry.1)).filter Placement.accepted).map fun placement =>
        (placement.address, entry.1)
  | .create _ none | .remove .. | .notePublishState .. | .loadFromStore .. => []

/-- The deletion that a call sends to the agent it has last posted a job to. -/
def stops (m : TranscoderDispatchManager) : Call → List (Bytes × Bytes)
  | .remove application name =>
    match m.jobs.lookup (keyOf application name) with
    | some job =>
      if job.assignedNodeAddress = [] then []
      else [(job.assignedNodeAddress, keyOf application name)]
    | none => []
  | .create .. | .retryUnassigned .. | .notePublishState .. | .loadFromStore .. => []

end TranscoderDispatchManager

/-- The manager, the jobs that agents hold, and the deletions that have not been
sent yet: they are sent when the manager's lock has been given back. -/
structure Deployment where
  manager : TranscoderDispatchManager := {}
  held : Finset (Bytes × Bytes) := ∅
  stopping : List (Bytes × Bytes) := []

/-- What may happen.  The store may fail to delete a row, and then no agent is
told.  Deletions are sent in any order.  A restart forgets everything but the
agents; the rows of the store are loaded by a call. -/
inductive Event where
  | call (call : Call) (storeFails : Bool)
  | deletion (place : ℕ) (accepted : Bool)
  | restart

namespace Deployment

def perform (d : Deployment) : Event → Deployment
  | .call call storeFails =>
    { manager := d.manager.perform call
      held := d.held ∪ (d.manager.posts call).toFinset
      stopping := if storeFails then d.stopping else d.stopping ++ d.manager.stops call }
  | .deletion place accepted =>
    { d with
      held :=
        match d.stopping[place]? with
        | some stop => if accepted then d.held.erase stop else d.held
        | none => d.held
      stopping := d.stopping.eraseIdx place }
  | .restart => { held := d.held }

/-- No listed job is held by two agents. -/
def OneAgent (d : Deployment) : Prop :=
  ∀ job, (d.manager.jobs.lookup job).isSome →
    ∀ agent agent', (agent, job) ∈ d.held → (agent', job) ∈ d.held → agent = agent'

/-- A job is created or restored only when no agent holds it, and a job with a
recorded agent is taken by no other one. -/
def KeepsAgents (d : Deployment) : Event → Prop
  | .call (.create config placement) _ =>
    (d.manager.create config placement).2.isOk →
      ∀ holder ∈ d.held, holder.2 ≠ keyOf config.application config.name
  | .call (.retryUnassigned placements) _ =>
    ∀ entry ∈ d.manager.jobs.entries, ∀ placement ∈ entry.2.target (placements entry.1),
      placement.accepted → entry.2.assignedNodeId.isSome →
        placement.address = entry.2.assignedNodeAddress
  | .call (.loadFromStore rows) _ =>
    ∀ row ∈ rows.getD [], ∀ holder ∈ d.held, holder.2 ≠ keyOf row.application row.name
  | .call (.remove ..) _ | .call (.notePublishState ..) _ | .deletion .. | .restart => True

instance (d : Deployment) (event : Event) : Decidable (d.KeepsAgents event) := by
  unfold KeepsAgents
  split <;> infer_instance

end Deployment

/-! ## The manager's record -/

namespace Job

/-- The manager has recorded the agent for the job. -/
def RunsOn (job : Job) (agent : Bytes) : Prop :=
  job.assignedNodeId.isSome ∧ job.assignedNodeAddress = agent

variable (job : Job) (agent : Bytes)

theorem runsOn_dispatch (placement : Placement) : (job.dispatch placement).RunsOn agent ↔
      if placement.accepted then placement.address = agent else job.RunsOn agent := by
  unfold dispatch Placement.accepted RunsOn
  cases placement.response with
  | error message => simp
  | ok reply => by_cases hstatus : reply.1 / 100 = 2 <;> simp [hstatus]

theorem runsOn_notePublishState (stream : Bytes) (live : Bool) :
    (job.notePublishState stream live).RunsOn agent ↔ job.RunsOn agent := by
  unfold notePublishState
  dsimp only
  split_ifs <;> rfl

/-- A record outlives a retry that does not move the job. -/
theorem RunsOn.retry {job : Job} {agent : Bytes} (h : job.RunsOn agent)
    {placement : Option Placement} (hkeeps : ∀ p ∈ job.target placement, p.accepted →
      job.assignedNodeId.isSome → p.address = job.assignedNodeAddress) :
    (job.retry placement).RunsOn agent := by
  unfold Job.retry
  cases htarget : job.target placement with
  | none => exact h
  | some p =>
    refine (job.runsOn_dispatch agent p).mpr ?_
    split_ifs with hacc
    · exact (hkeeps p htarget hacc h.1).trans h.2
    · exact h

end Job

namespace TranscoderDispatchManager

variable (m : TranscoderDispatchManager)

theorem lookup_foldl_updateJob (f : Bytes → Job → Job) {keys : List Bytes}
    (hnd : keys.Nodup) (m : TranscoderDispatchManager) (key : Bytes) :
    (keys.foldl (fun m key => m.updateJob key (f key)) m).jobs.lookup key =
      if key ∈ keys then (m.jobs.lookup key).map (f key) else m.jobs.lookup key := by
  induction keys generalizing m with
  | nil => simp
  | cons first rest ih =>
    obtain ⟨hfst, hrest⟩ := nodup_cons.mp hnd
    rw [foldl_cons, ih hrest, lookup_updateJob]
    rcases eq_or_ne key first with rfl | hne
    · simp [hfst]
    · simp [hne]

theorem lookup_retryUnassigned (placements : Bytes → Option Placement) (key : Bytes) :
    (m.retryUnassigned placements).jobs.lookup key =
      (m.jobs.lookup key).map fun job => job.retry (placements key) := by
  rw [retryUnassigned,
    lookup_foldl_updateJob (fun key job => job.retry (placements key)) m.jobs.keys_nodup]
  split_ifs with hlist
  · rfl
  · have hnone : m.jobs.lookup key = none := lookup_eq_none.mpr hlist
    rw [hnone]
    rfl

theorem lookup_loadFromStore {rows : Option (List TranscoderJobRow)} {key : Bytes}
    (h : ∀ row ∈ rows.getD [], key ≠ keyOf row.application row.name) :
    (m.loadFromStore rows).jobs.lookup key = m.jobs.lookup key := by
  unfold loadFromStore
  generalize rows.getD [] = rows at h ⊢
  induction rows generalizing m with
  | nil => rfl
  | cons row rest ih =>
    obtain ⟨hrow, hrest⟩ := forall_mem_cons.mp h
    rw [foldl_cons, ih _ hrest, loadRow]
    cases renditionsFromJson row.renditionsJson with
    | error _ => rfl
    | ok renditions => exact lookup_insert_ne hrow

/-- The manager records the agents that took the jobs it has posted. -/
theorem runsOn_of_mem_posts {call : Call} {post : Bytes × Bytes} (h : post ∈ m.posts call)
    {job : Job} (hjob : (m.perform call).jobs.lookup post.2 = some job) : job.RunsOn post.1 := by
  cases call with
  | create config placement =>
    cases placement with
    | none => cases h
    | some placement =>
      dsimp only [posts] at h
      split_ifs at h with hposted
      · rw [Bool.and_eq_true] at hposted
        cases mem_singleton.mp h
        rcases m.create_cases config (some placement) with ⟨hnot, -⟩ | ⟨-, job', hm, -, hjob'⟩
        · exact absurd (hnot.symm.trans hposted.1) Bool.false_ne_true
        · rw [perform, hm, hold, lookup_insert] at hjob
          rw [← Option.some.inj hjob, hjob' placement rfl, Job.runsOn_dispatch, if_pos hposted.2]
      · cases h
  | retryUnassigned placements =>
    obtain ⟨⟨key, job'⟩, hentry, hpost⟩ := mem_filterMap.mp h
    obtain ⟨placement, hplacement, rfl⟩ := map_eq_some_iff.mp hpost
    obtain ⟨htarget, hacc⟩ := filter_eq_some_iff.mp hplacement
    rw [perform, lookup_retryUnassigned, mem_lookup_iff.mpr hentry, map_some] at hjob
    rw [← Option.some.inj hjob, Job.retry, htarget]
    exact (job'.runsOn_dispatch _ placement).mpr (by rw [if_pos hacc])
  | remove | notePublishState | loadFromStore => cases h

end TranscoderDispatchManager

/-! ## One agent for a job -/

namespace Deployment

open TranscoderDispatchManager (oneRung)

/-- Whoever holds a listed job is the agent recorded for it. -/
def Recorded (d : Deployment) : Prop :=
  ∀ ⦃agent key⦄, (agent, key) ∈ d.held → ∀ ⦃job⦄, d.manager.jobs.lookup key = some job →
    job.RunsOn agent

theorem Recorded.oneAgent {d : Deployment} (h : d.Recorded) : d.OneAgent := by
  intro key hlisted agent agent' hagent hagent'
  obtain ⟨job, hjob⟩ := isSome_iff_exists.mp hlisted
  exact (h hagent hjob).2.symm.trans (h hagent' hjob).2

/-- The record of a job that an agent already holds stays. -/
theorem Recorded.kept {d : Deployment} (h : d.Recorded) {call : Call} {storeFails : Bool}
    (hkeeps : d.KeepsAgents (.call call storeFails)) {agent key : Bytes}
    (hheld : (agent, key) ∈ d.held) {job : Job}
    (hjob : (d.manager.perform call).jobs.lookup key = some job) : job.RunsOn agent := by
  cases call with
  | create config placement =>
    rw [TranscoderDispatchManager.perform] at hjob
    rcases d.manager.create_cases config placement with ⟨-, hm⟩ | ⟨hok, job', hm, -⟩
    · rw [hm] at hjob
      exact h hheld hjob
    · rw [hm, hold, lookup_insert_ne (hkeeps hok _ hheld)] at hjob
      exact h hheld hjob
  | remove application name =>
    dsimp only [TranscoderDispatchManager.perform, remove] at hjob
    split at hjob
    · exact h hheld hjob
    · rcases eq_or_ne key (keyOf application name) with rfl | hne
      · simp at hjob
      · rw [lookup_erase_ne hne] at hjob
        exact h hheld hjob
  | notePublishState application stream live =>
    dsimp only [TranscoderDispatchManager.perform, notePublishState] at hjob
    split at hjob
    · exact h hheld hjob
    · rw [lookup_updateJob] at hjob
      split_ifs at hjob with heq
      · subst heq
        obtain ⟨job', hjob', rfl⟩ := map_eq_some_iff.mp hjob
        exact (job'.runsOn_notePublishState agent stream live).mpr (h hheld hjob')
      · exact h hheld hjob
  | retryUnassigned placements =>
    rw [TranscoderDispatchManager.perform, lookup_retryUnassigned] at hjob
    obtain ⟨job', hjob', rfl⟩ := map_eq_some_iff.mp hjob
    exact (h hheld hjob').retry (hkeeps ⟨key, job'⟩ (mem_lookup_iff.mp hjob'))
  | loadFromStore rows =>
    rw [TranscoderDispatchManager.perform,
      lookup_loadFromStore _ fun row hrow => hkeeps row hrow _ hheld] at hjob
    exact h hheld hjob

theorem Recorded.perform {d : Deployment} (h : d.Recorded) {ev : Event}
    (hkeeps : d.KeepsAgents ev) : (d.perform ev).Recorded := by
  intro agent key hheld job hjob
  cases ev with
  | call call storeFails =>
    rcases Finset.mem_union.mp hheld with hold | hpost
    · exact h.kept hkeeps hold hjob
    · exact runsOn_of_mem_posts _ (List.mem_toFinset.mp hpost) hjob
  | deletion place accepted =>
    refine h ?_ hjob
    dsimp only [Deployment.perform] at hheld
    split at hheld
    · split_ifs at hheld
      · exact Finset.mem_of_mem_erase hheld
      · exact hheld
    · exact hheld
  | restart => cases hjob

/-- At every moment of a run that keeps to the recorded agents no listed job has
two agents. -/
theorem oneAgent_of_keepsAgents (events : List Event)
    (h : Run.Along perform KeepsAgents {} events) : ∀ front rest, events = front ++ rest →
      (Run.run perform {} front).OneAgent := by
  rintro front rest rfl
  have hrecorded : (Run.run perform {} front).Recorded := by
    refine Run.run_invariant Recorded (Run.along_append.mp h).1 ?_ ?_
    · exact fun _ _ hheld => absurd hheld (Finset.notMem_empty _)
    · exact fun _ _ hkeeps hrecorded => hrecorded.perform hkeeps
  exact hrecorded.oneAgent

/-- The agents of two nodes take whatever they are sent. -/
def firstNode : Placement := ⟨"n1", "10.0.0.1", .ok (200, [])⟩

def secondNode : Placement := ⟨"n2", "10.0.0.2", .ok (200, [])⟩

/-- A lost job is posted to its own agent again.  It is then removed, and created
on the other node when the first agent has accepted the deletion. -/
def moved : List Event :=
  [.call (.create (oneRung "live" "a" "a_720p") (some firstNode)) false,
    .call (.notePublishState "live" "a_720p" true) false,
    .call (.notePublishState "live" "a_720p" false) false,
    .call (.retryUnassigned fun _ => some firstNode) false,
    .call (.remove "live" "a") false,
    .deletion 0 true,
    .call (.create (oneRung "live" "a" "a_720p") (some secondNode)) false]

theorem moved_oneAgent :
    Run.Along perform KeepsAgents {} moved ∧ (Run.run perform {} moved).OneAgent ∧
      (Run.run perform {} moved).held = {(textBytes "10.0.0.2", keyOf "live" "a")} := by
  have halong : Run.Along perform KeepsAgents {} moved := by decide +kernel
  refine ⟨halong, oneAgent_of_keepsAgents moved halong moved [] (append_nil _).symm, ?_⟩
  decide +kernel

/-- A rendition is published by the first agent and stops for a while; the job is
then lost and is posted to the second one. -/
def hiccup : List Event :=
  [.call (.create (oneRung "live" "a" "a_720p") (some firstNode)) false,
    .call (.notePublishState "live" "a_720p" true) false,
    .call (.notePublishState "live" "a_720p" false) false,
    .call (.retryUnassigned fun _ => some secondNode) false]

theorem hiccup_two_agents :
    let d := Run.run perform {} hiccup
    let job := keyOf "live" "a"
    (d.manager.jobs.lookup job).isSome = true ∧
      (textBytes "10.0.0.1", job) ∈ d.held ∧ (textBytes "10.0.0.2", job) ∈ d.held ∧
      d.stopping = [] ∧ ¬d.OneAgent := by
  intro d job
  have hlisted : (d.manager.jobs.lookup job).isSome = true := by decide +kernel
  have hfirst : (textBytes "10.0.0.1", job) ∈ d.held := by decide +kernel
  have hsecond : (textBytes "10.0.0.2", job) ∈ d.held := by decide +kernel
  refine ⟨hlisted, hfirst, hsecond, by decide +kernel, ?_⟩
  intro hone
  exact absurd (hone job hlisted _ _ hfirst hsecond) (by decide)

end Deployment

end RtmpCore.Dispatch
