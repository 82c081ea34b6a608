import RtmpCore.Dispatch.Manager
import RtmpCore.Support.Lookup
import RtmpCore.Support.Run

/-!
# The index of published streams

The index is kept beside the jobs and is never compared with them.  It is exact
as long as no two jobs of an application publish the same stream, a job that is
loaded over another one still publishes the streams of that one, applications and
streams have no slash in them, so that the texts under which streams are kept can
be read in one way only, and a job is removed under its own application.
-/

namespace RtmpCore.Dispatch

open RtmpCore.Core List AList Table Option

/-! ## Keys -/

def slash : UInt8 := 0x2F

theorem keyOf_eq (app name : Bytes) : keyOf app name = app ++ slash :: name := by
  have hslash : "/" = [slash] := rfl
  simp [keyOf, hslash]

theorem keyOf_inj {app name application' name' : Bytes} (happ : slash ∉ app)
    (hplain : slash ∉ name ∨ slash ∉ application')
    (h : keyOf application' name' = keyOf app name) : application' = app ∧ name' = name := by
  rw [keyOf_eq, keyOf_eq] at h
  rcases append_eq_append_iff.mp h with
    ⟨middle, happ', hname'⟩ | ⟨middle, happ', hname'⟩
  · cases middle with
    | nil =>
      rw [append_nil] at happ'
      exact ⟨happ'.symm, (List.cons.inj hname').2⟩
    | cons first rest =>
      -- the first slash on the left would be one of `application`
      obtain ⟨rfl, -⟩ := List.cons.inj hname'
      exact absurd (happ' ▸ mem_append_right _ mem_cons_self) happ
  · cases middle with
    | nil =>
      rw [append_nil] at happ'
      exact ⟨happ', (List.cons.inj hname').2.symm⟩
    | cons first rest =>
      obtain ⟨rfl, hrest⟩ := List.cons.inj hname'
      rcases hplain with hname | happ''
      · exact absurd (hrest ▸ mem_append_right _ mem_cons_self) hname
      · exact absurd (happ' ▸ mem_append_right _ mem_cons_self) happ''

/-- Neither the application of a job nor a stream it publishes has a slash in it. -/
def TranscoderJobConfig.Plain (config : TranscoderJobConfig) : Prop :=
  slash ∉ config.application ∧ ∀ r ∈ config.renditions, slash ∉ r.outputStream
deriving Decidable

namespace TranscoderJobConfig

def outputs (config : TranscoderJobConfig) : List Bytes := config.renditions.map (·.outputStream)

/-- A job that publishes a stream of an application. -/
def Publishes (config : TranscoderJobConfig) (application stream : Bytes) : Prop :=
  config.application = application ∧ stream ∈ config.outputs
deriving Decidable

end TranscoderJobConfig

theorem Job.mem_paths {job : Job} (h : job.config.Plain) {app stream : Bytes} :
    keyOf app stream ∈ job.paths ↔ job.config.Publishes app stream := by
  constructor
  · intro hmem
    obtain ⟨r, hr, heq⟩ := mem_map.mp hmem
    obtain ⟨rfl, rfl⟩ := keyOf_inj h.1 (.inl (h.2 r hr)) heq.symm
    exact ⟨rfl, mem_map_of_mem hr⟩
  · rintro ⟨rfl, hmem⟩
    obtain ⟨r, hr, rfl⟩ := mem_map.mp hmem
    exact mem_map_of_mem hr

namespace TranscoderDispatchManager

/-! ## The index and the jobs agree -/

/-- Jobs are held under their names, and the index has exactly the streams that
they publish. -/
structure Exact (m : TranscoderDispatchManager) : Prop where
  held : ∀ {key job}, m.jobs.lookup key = some job →
    key = keyOf job.config.application job.config.name ∧ job.config.Plain
  indexed : ∀ {path key}, m.renditionIndex.lookup path = some key ↔
    ∃ job, m.jobs.lookup key = some job ∧ path ∈ job.paths

variable (m : TranscoderDispatchManager)

/-- A job may be held: it has plain names, and of the jobs of its application
the one it replaces publishes nothing else, and no other one publishes the
same. -/
def Admits (config : TranscoderJobConfig) : Prop :=
  config.Plain ∧ ∀ entry ∈ m.jobs.entries, entry.2.config.application = config.application →
        ∀ stream ∈ entry.2.config.outputs, stream ∈ config.outputs ↔
            entry.1 = keyOf config.application config.name
deriving Decidable

/-- A row of the store may be loaded, if its renditions can be read. -/
def AdmitsRow (row : TranscoderJobRow) : Prop :=
  ∀ renditions ∈ (renditionsFromJson row.renditionsJson).toOption,
    m.Admits (Job.restored row renditions).config
deriving Decidable

/-- A job that is created or loaded may be held, and one that is removed is of the
application it is removed under. -/
def Sorted : Call → Prop
  | .create config placement => (m.create config placement).2.isOk → m.Admits config
  | .remove application name =>
    ∀ job ∈ m.jobs.lookup (keyOf application name), job.config.application = application
  | .loadFromStore rows => Run.Along loadRow AdmitsRow m (rows.getD [])
  | _ => True

instance (m : TranscoderDispatchManager) (call : Call) : Decidable (m.Sorted call) := by
  unfold Sorted
  split <;> infer_instance

/-- A call that creates no job leaves the manager as it was. -/
theorem create_cases (config : TranscoderJobConfig) (placement : Option Placement) :
    ((m.create config placement).2.isOk = false ∧ (m.create config placement).1 = m) ∨
      ((m.create config placement).2.isOk = true ∧
        ∃ job, (m.create config placement).1 = m.hold (keyOf config.application config.name) job ∧
          job.config = config ∧ ∀ p ∈ placement, job = Job.dispatch { config } p) := by
  unfold create
  cases config.fault with
  | some error => exact .inl ⟨rfl, rfl⟩
  | none =>
    dsimp only
    split_ifs
    · exact .inl ⟨rfl, rfl⟩
    · refine .inr ⟨rfl, _, rfl, ?_⟩
      cases placement with
      | none => exact ⟨rfl, nofun⟩
      | some placement => exact ⟨Job.config_dispatch _ placement, fun _ hp => hp ▸ rfl⟩

theorem lookup_updateJob (key key' : Bytes) (f : Job → Job) :
    (m.updateJob key f).jobs.lookup key' =
      if key' = key then (m.jobs.lookup key).map f else m.jobs.lookup key' := by
  unfold updateJob
  cases hjob : m.jobs.lookup key with
  | none =>
    split_ifs with heq
    · rw [heq, hjob]
      rfl
    · rfl
  | some job =>
    split_ifs with heq
    · rw [heq]
      exact lookup_insert _
    · exact lookup_insert_ne heq

namespace Exact

variable {m : TranscoderDispatchManager}

theorem unique (h : m.Exact) {key key' path : Bytes} {job job' : Job}
    (hjob : m.jobs.lookup key = some job) (hpath : path ∈ job.paths)
    (hjob' : m.jobs.lookup key' = some job') (hpath' : path ∈ job'.paths) : key = key' := by
  have hidx := h.indexed.mpr ⟨job, hjob, hpath⟩
  have hidx' := h.indexed.mpr ⟨job', hjob', hpath'⟩
  exact Option.some.inj (hidx.symm.trans hidx')

theorem hold (h : m.Exact) {job : Job} (hadms : m.Admits job.config) :
    (m.hold (keyOf job.config.application job.config.name) job).Exact := by
  obtain ⟨hplain, hstrs⟩ := hadms
  generalize hkey : keyOf job.config.application job.config.name = key
  rw [hkey] at hstrs
  -- a path that an old job shares with the new one belongs to the key
  have hshar : ∀ {key' job' path}, m.jobs.lookup key' = some job' →
      path ∈ job'.paths → (path ∈ job.paths ↔ key' = key) := by
    intro key' job' path hjob' hpath
    obtain ⟨r, hr, rfl⟩ := mem_map.mp hpath
    rw [Job.mem_paths hplain]
    have hent : ⟨key', job'⟩ ∈ m.jobs.entries := mem_lookup_iff.mp hjob'
    have hstr := hstrs ⟨key', job'⟩ hent
    constructor
    · rintro ⟨happ, hmem⟩
      exact (hstr happ.symm r.outputStream (mem_map_of_mem hr)).mp hmem
    · rintro rfl
      have happ : job'.config.application = job.config.application :=
        (keyOf_inj hplain.1 (.inr (h.held hjob').2.1) ((h.held hjob').1.symm.trans hkey.symm)).1
      exact ⟨happ.symm, (hstr happ r.outputStream (mem_map_of_mem hr)).mpr rfl⟩
  constructor
  · intro key' job' hjob'
    rcases eq_or_ne key' key with rfl | hne
    · rw [TranscoderDispatchManager.hold, lookup_insert] at hjob'
      rw [← Option.some.inj hjob']
      exact ⟨hkey.symm, hplain⟩
    · rw [TranscoderDispatchManager.hold, lookup_insert_ne hne] at hjob'
      exact h.held hjob'
  · intro path key'
    dsimp only [TranscoderDispatchManager.hold]
    rw [lookup_foldl_insert]
    rcases eq_or_ne key' key with rfl | hne
    · rw [lookup_insert]
      split_ifs with hpath
      · simpa using hpath
      · constructor
        · intro hidx
          obtain ⟨job', hjob', hpath'⟩ := h.indexed.mp hidx
          exact absurd ((hshar hjob' hpath').mpr rfl) hpath
        · rintro ⟨_, ⟨rfl⟩, hpath'⟩
          exact absurd hpath' hpath
    · rw [lookup_insert_ne hne]
      split_ifs with hpath
      · constructor
        · intro heq
          exact absurd (Option.some.inj heq).symm hne
        · rintro ⟨job', hjob', hpath'⟩
          exact absurd ((hshar hjob' hpath').mp hpath) hne
      · exact h.indexed

theorem remove (h : m.Exact) {app name : Bytes}
    (hown : ∀ job ∈ m.jobs.lookup (keyOf app name), job.config.application = app) :
    (m.remove app name).1.Exact := by
  unfold TranscoderDispatchManager.remove
  cases hjob : m.jobs.lookup (keyOf app name) with
  | none => exact h
  | some job =>
    dsimp only
    have happ : job.config.application = app := hown job hjob
    generalize keyOf app name = key at hjob ⊢
    have hpaths : job.config.renditions.foldl
        (fun index r => index.erase (keyOf app r.outputStream))
        m.renditionIndex =
        job.paths.foldl (fun index path => index.erase path)
          m.renditionIndex := by
      rw [Job.paths, foldl_map, happ]
    have hoths : ∀ {key' job'}, (m.jobs.erase key).lookup key' = some job' →
        key' ≠ key ∧ m.jobs.lookup key' = some job' := by
      intro key' job' hjob'
      rcases eq_or_ne key' key with rfl | hne
      · simp at hjob'
      · rw [lookup_erase_ne hne] at hjob'
        exact ⟨hne, hjob'⟩
    constructor
    · exact fun hjob' => h.held (hoths hjob').2
    · intro path key'
      rw [hpaths, lookup_foldl_erase]
      constructor
      · intro hidx
        split_ifs at hidx with hpath
        obtain ⟨job', hjob', hpath'⟩ := h.indexed.mp hidx
        have hne : key' ≠ key := by
          rintro rfl
          cases Option.some.inj (hjob.symm.trans hjob')
          exact hpath hpath'
        exact ⟨job', by rwa [lookup_erase_ne hne], hpath'⟩
      · rintro ⟨job', hjob', hpath'⟩
        obtain ⟨hne, hjob'⟩ := hoths hjob'
        rw [if_neg fun hpath => hne (h.unique hjob' hpath' hjob hpath)]
        exact h.indexed.mpr ⟨job', hjob', hpath'⟩

theorem updateJob (h : m.Exact) (key : Bytes) {f : Job → Job}
    (hf : ∀ job, (f job).config = job.config) : (m.updateJob key f).Exact := by
  have hjobs : ∀ key', ∃ g : Job → Job, (∀ job, (g job).config = job.config) ∧
      (m.updateJob key f).jobs.lookup key' = (m.jobs.lookup key').map g := by
    intro key'
    rw [lookup_updateJob]
    split_ifs with heq
    · exact ⟨f, hf, by rw [heq]⟩
    · exact ⟨id, fun _ => rfl, map_id_apply.symm⟩
  have hindex : (m.updateJob key f).renditionIndex = m.renditionIndex := by
    unfold TranscoderDispatchManager.updateJob
    split <;> rfl
  constructor
  · intro key' job' hjob'
    obtain ⟨g, hg, hlookup⟩ := hjobs key'
    obtain ⟨job, hjob, rfl⟩ := map_eq_some_iff.mp (hlookup.symm.trans hjob')
    rw [hg]
    exact h.held hjob
  · intro path key'
    obtain ⟨g, hg, hlookup⟩ := hjobs key'
    rw [hindex, h.indexed, hlookup]
    simp [Job.paths, hg]

theorem loadRow (h : m.Exact) {row : TranscoderJobRow}
    (hadms : m.AdmitsRow row) : (m.loadRow row).Exact := by
  unfold TranscoderDispatchManager.loadRow
  cases hrenditions : renditionsFromJson row.renditionsJson with
  | error _ => exact h
  | ok renditions => exact h.hold (hadms renditions (by rw [hrenditions]; rfl))

theorem create (h : m.Exact) {cfg : TranscoderJobConfig} {placement : Option Placement}
    (hadms : (m.create cfg placement).2.isOk → m.Admits cfg) :
    (m.create cfg placement).1.Exact := by
  rcases m.create_cases cfg placement with ⟨-, hm⟩ | ⟨hok, job, hm, rfl, -⟩
  · rwa [hm]
  · rw [hm]
    exact h.hold (hadms hok)

theorem perform (h : m.Exact) {call : Call} (hsorted : m.Sorted call) : (m.perform call).Exact := by
  cases call with
  | create cfg placement => exact h.create hsorted
  | remove app name => exact h.remove hsorted
  | notePublishState app stream live =>
    dsimp only [TranscoderDispatchManager.perform, TranscoderDispatchManager.notePublishState]
    split
    · exact h
    · exact h.updateJob _ fun job => job.config_notePublishState stream live
  | retryUnassigned placements =>
    exact List.foldlRecOn (motive := Exact) _ _ h fun m h key _ =>
      h.updateJob key fun job => job.config_retry (placements key)
  | loadFromStore rows => exact Run.run_invariant Exact hsorted h fun _ _ hadms h => h.loadRow hadms

end Exact

theorem exact_empty : ({} : TranscoderDispatchManager).Exact where
  held h := by cases h
  indexed := ⟨fun h => (by cases h), fun ⟨_, h, _⟩ => (by cases h)⟩

/-- After every sequence of calls that keeps the jobs apart, a publish is
expected exactly if a job of the application has a rendition of that name.  At
most one job has it, and a notice about the stream changes this job and no
other; without such a job it changes nothing. -/
theorem isExpectedPublish_iff_publishes (calls : List Call)
    (h : Run.Along perform Sorted {} calls) (application stream : List UInt8) (live : Bool) :
    let m := Run.run perform {} calls
    (m.isExpectedPublish application stream ↔ ∃ key job, m.jobs.lookup key = some job ∧
        job.config.Publishes application stream) ∧
    (∀ key job, m.jobs.lookup key = some job → job.config.Publishes application stream →
        ∀ key', (m.notePublishState application stream live).jobs.lookup key' =
          if key' = key then some (job.notePublishState stream live)
          else m.jobs.lookup key') ∧
    ((∀ key job, m.jobs.lookup key = some job → ¬job.config.Publishes application stream) →
        m.notePublishState application stream live = m) := by
  intro m
  have hexact : m.Exact := Run.run_invariant Exact h exact_empty
    fun _ _ hsorted h => h.perform hsorted
  have hindexed : ∀ key, m.renditionIndex.lookup (keyOf application stream) = some key ↔
        ∃ job, m.jobs.lookup key = some job ∧ job.config.Publishes application stream := by
    intro key
    rw [hexact.indexed]
    refine exists_congr fun job => and_congr_right fun hjob => ?_
    exact Job.mem_paths (hexact.held hjob).2
  refine ⟨?_, ?_, ?_⟩
  · rw [isExpectedPublish, isSome_iff_exists]
    exact exists_congr hindexed
  · intro key job hjob hpublishes key'
    have hindex := (hindexed key).mpr ⟨job, hjob, hpublishes⟩
    simp only [notePublishState, hindex, lookup_updateJob, hjob, map_some]
  · intro hnone
    have hindex : m.renditionIndex.lookup (keyOf application stream) = none := by
      by_contra hsome
      obtain ⟨key, hkey⟩ := ne_none_iff_exists'.mp hsome
      obtain ⟨job, hjob, hpublishes⟩ := (hindexed key).mp hkey
      exact hnone key job hjob hpublishes
    simp only [notePublishState, hindex]

def oneRung (application name output : String) : TranscoderJobConfig where
  application := textBytes application
  name := textBytes name
  sourceUrl := "rtmp://source/live"
  renditions := [{ outputStream := textBytes output }]

/-- Two jobs come, one of them leaves and comes again from the store. -/
def twoJobs : List Call :=
  [.create (oneRung "live" "a" "a_720p") none, .create (oneRung "live" "b" "b_720p") none,
    .remove "live" "a", .loadFromStore (some [⟨"live", "a", [], 30,
      [0x7B] ++ textBytes "\"output_stream\":\"a_720p\"" ++ [0x7D]⟩])]

theorem isExpectedPublish_twoJobs :
    let m := Run.run perform {} twoJobs
    Run.Along perform Sorted {} twoJobs ∧ (m.isExpectedPublish "live" "a_720p" ↔
        ∃ key job, m.jobs.lookup key = some job ∧ job.config.Publishes "live" "a_720p") := by
  have halong : Run.Along perform Sorted {} twoJobs := by decide +kernel
  exact ⟨halong, (isExpectedPublish_iff_publishes twoJobs halong
    "live" "a_720p" true).1⟩

/-- Two jobs of an application with the same output, of which the first is
removed. -/
def sharedOutput : List Call :=
  [.create (oneRung "live" "a" "cam_720p") none, .create (oneRung "live" "b" "cam_720p") none,
    .remove "live" "a"]

/-- The removal takes the stream of the other job out of the index as well. -/
theorem sharedOutput_not_expected :
    let m := Run.run perform {} sharedOutput
    m.isExpectedPublish "live" "cam_720p" = false ∧ ∃ job ∈ m.jobs.lookup (keyOf "live" "b"),
        job.config.Publishes "live" "cam_720p" := by
  decide +kernel

end TranscoderDispatchManager

end RtmpCore.Dispatch
