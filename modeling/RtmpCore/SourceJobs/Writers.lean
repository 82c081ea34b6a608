import Mathlib.Data.List.Perm.Basic
import RtmpCore.SourceJobs.Owners

/-!
# One writer for each store

As long as a job is started again only when every puller that was moved out of
it has been joined, no two pullers publish into the same store, and nothing that
a puller does at its end lands behind its successor's start.

The manager itself keeps to this only in part.  `restart_in_progress` keeps
restarts of a job apart, but enabling a job does not look at it, and a call that
disabled the job may still wait for the old puller.
-/

namespace RtmpCore.SourceJobs

open Table Option List

/-! ## What the log may say -/

/-- The store was marked live after the puller had been started. -/
def Superseded (log : List Event) (puller store : ℕ) : Prop :=
  ∃ before after, log = before ++ .markLive store :: after ∧ .start puller ∈ before

/-- What a puller does to a store at its end comes before the store is marked
live for its successor. -/
def InTime (log : List Event) : Prop :=
  ∀ before store after puller, log = before ++ .markLive store :: after → .start puller ∈ before →
      .flush puller store ∉ after ∧ .markEnded puller store ∉ after

/-- The events that keep the log in time. -/
def Allowed (threads : Threads) : Event → Prop
  | .markLive store => ∀ p thread, threads p = some thread → store ∉ thread.stores
  | .flush puller store => ∃ thread, threads puller = some thread ∧ store ∈ thread.stores
  | .markEnded puller store => ∃ thread, threads puller = some thread ∧ store ∈ thread.stores
  | _ => True

/-- A log in time, in which a puller that is still there was not superseded. -/
structure Quiet (log : List Event) (threads : Threads) : Prop where
  inTime : InTime log
  current : ∀ {p store thread}, Superseded log p store → threads p = some thread →
    store ∉ thread.stores

section Log

variable {log : List Event} {threads : Threads} {ev : Event}

theorem split_concat {before after : List Event} {store : ℕ}
    (h : log ++ [ev] = before ++ .markLive store :: after) :
    (∃ inner, after = inner ++ [ev] ∧ log = before ++ .markLive store :: inner) ∨
      (after = [] ∧ ev = .markLive store ∧ log = before) := by
  rcases eq_nil_or_concat after with rfl | ⟨inner, final, rfl⟩
  · obtain ⟨rfl, hev⟩ := append_inj' h rfl
    exact .inr ⟨rfl, (cons.inj hev).1, rfl⟩
  · rw [concat_eq_append, ← cons_append, ← append_assoc] at h
    obtain ⟨rfl, hfinal⟩ := append_inj' h rfl
    rw [concat_eq_append, (cons.inj hfinal).1]
    exact .inl ⟨inner, rfl, rfl⟩

theorem Superseded.of_concat {p store : ℕ} (h : Superseded (log ++ [ev]) p store) :
    Superseded log p store ∨ ev = .markLive store := by
  obtain ⟨before, after, hspl, hstart⟩ := h
  rcases split_concat hspl with ⟨inner, -, hlog⟩ | ⟨-, hev, -⟩
  · exact .inl ⟨before, inner, hlog, hstart⟩
  · exact .inr hev

theorem Quiet.concat (h : Quiet log threads) (hev : Allowed threads ev) :
    Quiet (log ++ [ev]) threads := by
  constructor
  · intro before store after p hspl hstart
    rcases split_concat hspl with ⟨inner, rfl, hlog⟩ | ⟨rfl, -, -⟩
    · obtain ⟨hflush, hended⟩ := h.inTime before store inner p hlog hstart
      have hold : Superseded log p store := ⟨before, inner, hlog, hstart⟩
      have hgone : ¬∃ thread, threads p = some thread ∧ store ∈ thread.stores :=
        fun ⟨_, hthr, hstore⟩ => h.current hold hthr hstore
      have hlast {ev' : Event} (hbef : ev' ∉ inner) (hmem : ev' ∈ inner ++ [ev]) :
          Allowed threads ev' := by
        rw [mem_singleton.mp ((mem_append.mp hmem).resolve_left hbef)]
        exact hev
      exact ⟨fun hmem => hgone (hlast hflush hmem), fun hmem => hgone (hlast hended hmem)⟩
    · exact ⟨not_mem_nil, not_mem_nil⟩
  · intro p store thread hsup hthr
    rcases hsup.of_concat with hold | rfl
    · exact h.current hold hthr
    · exact hev p thread hthr

theorem Quiet.append (h : Quiet log threads) {evs : List Event}
    (hevents : ∀ ev ∈ evs, Allowed threads ev) : Quiet (log ++ evs) threads := by
  induction evs using reverseRecOn with
  | nil => rwa [append_nil]
  | append_singleton evs ev ih =>
    obtain ⟨hfront, hlast⟩ := forall_mem_append.mp hevents
    rw [← append_assoc]
    exact (ih hfront).concat (hlast ev (mem_singleton_self ev))

/-- The threads change: each is one that was there before, or was not started in
the log. -/
theorem Quiet.exchange (h : Quiet log threads) {threads' : Threads}
    (hthreads : ∀ {p thread'}, threads' p = some thread' →
      (∃ thread, threads p = some thread ∧ thread'.stores = thread.stores) ∨ .start p ∉ log) :
    Quiet log threads' := by
  refine ⟨h.inTime, ?_⟩
  intro p store thread' hsup hthr'
  rcases hthreads hthr' with ⟨thread, hthr, hstores⟩ | hnew
  · rw [hstores]
    exact h.current hsup hthr
  · obtain ⟨before, after, rfl, hstart⟩ := hsup
    exact absurd (mem_append_left _ hstart) hnew

theorem Quiet.replace (h : Quiet log threads) {p : ℕ} {thread : PullerThread}
    (hp : threads p = some thread) {new : Option PullerThread}
    (hstores : ∀ thread' ∈ new, thread'.stores = thread.stores) :
    Quiet log (Function.update threads p new) :=
  h.exchange fun hq => .inl (old_of_update hp hstores hq)

end Log

/-! ## The manager -/

/-- Owners, stores and log are in order. -/
structure Orderly (manager : Manager) : Prop where
  owned : Owned (find manager.jobs) manager.threads (retiredBy manager.calls) manager.nextStore
  quiet : Quiet manager.log manager.threads
  started : ∀ {p}, .start p ∈ manager.log → p < manager.nextPuller

/-- Events that say nothing about pullers and their stores. -/
def Event.plain : Event → Bool
  | .registerOutput .. | .unregisterOutput .. | .setRenditions .. | .persist ..
  | .deleteRow .. => true
  | _ => false

section Sections

variable {mgr : Manager} {key : Bytes} {job : Job}

theorem Orderly.append (h : Orderly mgr) {evs : List Event}
    (hevents : ∀ ev ∈ evs, Allowed mgr.threads ev ∧ ∀ p, ev ≠ .start p) :
    Orderly (mgr.note evs) where
  owned := h.owned
  quiet := h.quiet.append fun ev hev => (hevents ev hev).1
  started hstart := by
    rcases mem_append.mp hstart with hold | hnew
    · exact h.started hold
    · exact absurd rfl ((hevents _ hnew).2 _)

theorem Orderly.note (h : Orderly mgr) {evs : List Event}
    (hplain : ∀ ev ∈ evs, ev.plain = true) : Orderly (mgr.note evs) := by
  apply h.append
  intro ev hev
  cases ev with
  | markLive | start | flush | markEnded => cases hplain _ hev
  | registerOutput | unregisterOutput | setRenditions | persist | deleteRow =>
    exact ⟨trivial, nofun⟩

theorem plain_releases (job : Job) : ∀ ev ∈ releases job, ev.plain = true :=
  forall_mem_map.mpr fun _ _ => rfl

theorem plain_registrations (job : Job) : ∀ ev ∈ registrations job, ev.plain = true :=
  forall_mem_map.mpr fun _ _ => rfl

variable {job' : Job} {calls : List Call} {call : Call} {i p : ℕ}

theorem Orderly.replace (h : Orderly mgr) (hjob : mgr.jobs.lookup key = some job)
    {jobs : AList fun _ : Bytes => Job} {new : Option Job}
    (hjobs : find jobs = Function.update (find mgr.jobs) key new)
    (hnew : ∀ job' ∈ new, job'.stores = job.stores ∧
      (job'.enabled = false ∨ job'.restartInProgress = true → job'.puller = none))
    (hcalls : mgr.calls ⊆ calls) (hpull : ∀ p, job.puller = some p →
      (∃ call ∈ calls, call.retired = some p) ∨ ∃ job' ∈ new, job'.puller = some p) :
    Orderly { mgr with jobs, calls } :=
  ⟨hjobs ▸ h.owned.replace hjob hnew (fun _ ⟨call, hmem, hp⟩ => ⟨call, hcalls hmem, hp⟩) hpull,
    h.quiet, h.started⟩

theorem Orderly.amend (h : Orderly mgr) (hjob : mgr.jobs.lookup key = some job)
    (hpull : job'.puller = job.puller) (hstores : job'.stores = job.stores)
    (hidle : job'.enabled = false ∨ job'.restartInProgress = true → job'.puller = none)
    (hcalls : mgr.calls ⊆ calls) : Orderly { mgr with jobs := mgr.jobs.insert key job', calls } :=
  h.replace hjob (find_insert ..) (by rintro _ ⟨⟩; exact ⟨hstores, hidle⟩) hcalls
    fun _ hp => .inr ⟨job', rfl, hpull.trans hp⟩

theorem Orderly.vacate (h : Orderly mgr) (hjob : mgr.jobs.lookup key = some job)
    {jobs : AList fun _ : Bytes => Job} {new : Option Job}
    (hjobs : find jobs = Function.update (find mgr.jobs) key new)
    (hnew : ∀ job' ∈ new, job'.puller = none ∧ job'.stores = job.stores) :
    Orderly { (mgr.release job true).retire job.puller with jobs } := by
  refine (h.note (plain_releases job)).replace hjob hjobs ?_ (subset_append_left _ _) ?_
  · exact fun job' hmem => ⟨(hnew job' hmem).2, fun _ => (hnew job' hmem).1⟩
  · exact fun p hp => .inl ⟨.retire p, mem_append_right _ (by simp [hp]), rfl⟩

theorem Orderly.dropJob (h : Orderly mgr) (key : Bytes) : Orderly (mgr.dropJob key) := by
  unfold Manager.dropJob
  cases hjob : mgr.jobs.lookup key with
  | none => exact h
  | some job => exact h.vacate hjob (find_erase mgr.jobs key) nofun

theorem Orderly.disable (h : Orderly mgr) (hjob : mgr.jobs.lookup key = some job) :
    Orderly (mgr.disable key job).2 := by
  apply h.vacate hjob (find_insert mgr.jobs key _)
  rintro _ ⟨⟩
  exact ⟨rfl, rfl⟩

/-! ## Starting -/

/-- The stores that a job is started on are its own, or new. -/
structure OwnStores (manager : Manager) (key : Bytes) (stores : List ℕ) : Prop where
  bound : ∀ store ∈ stores, store < manager.nextStore
  mine : ∀ {key' job'}, key' ≠ key → manager.jobs.lookup key' = some job' →
    ∀ store ∈ stores, store ∉ job'.stores
  unused : ∀ {p thread}, manager.threads p = some thread → ∀ store ∈ thread.stores, store ∉ stores

theorem map_store_zipWith (specs : List RenditionSpec) (stores : List ℕ) :
    (zipWith PullerRendition.mk specs stores).map PullerRendition.store =
      stores.take specs.length := by
  induction specs generalizing stores with
  | nil => rfl
  | cons spec rest ih =>
    cases stores with
    | nil => rfl
    | cons store others => rw [zipWith_cons_cons, map_cons, ih, length_cons, take_succ_cons]

theorem stores_withStores (job : Job) (stores : List ℕ) :
    ∀ store ∈ (job.withStores stores).stores, store ∈ stores := by
  intro store hstore
  rw [Job.stores, Job.withStores, map_store_zipWith] at hstore
  exact mem_of_mem_take hstore

theorem Orderly.buildRenditionsLocked (h : Orderly mgr) (hown : OwnStores mgr key job.stores) :
    Orderly (mgr.buildRenditionsLocked job).2 ∧
      OwnStores (mgr.buildRenditionsLocked job).2 key (mgr.buildRenditionsLocked job).1.stores ∧
      (mgr.buildRenditionsLocked job).2.jobs = mgr.jobs ∧
      (mgr.buildRenditionsLocked job).2.nextPuller = mgr.nextPuller := by
  unfold Manager.buildRenditionsLocked
  split
  · have hstores := stores_withStores job job.stores
    refine ⟨h.append (forall_mem_map.mpr ?_), ⟨?_, ?_, ?_⟩, rfl, rfl⟩
    · intro store hstore
      exact ⟨fun p thread hthr hmem => hown.unused hthr store hmem hstore, nofun⟩
    · exact fun store hmem => hown.bound store (hstores store hmem)
    · exact fun hne hjob store hmem => hown.mine hne hjob store (hstores store hmem)
    · exact fun hthr store hmem hmem' => hown.unused hthr store hmem (hstores store hmem')
  · -- New stores have numbers that no job and no thread has.
    have hstores : ∀ store ∈ (job.withStores (range' mgr.nextStore
        job.config.renditions.length)).stores,
        mgr.nextStore ≤ store ∧ store < mgr.nextStore + job.config.renditions.length := by
      intro store hmem
      exact mem_range'_1.mp (stores_withStores job _ store hmem)
    refine ⟨⟨?_, h.quiet, h.started⟩, ⟨?_, ?_, ?_⟩, rfl, rfl⟩
    · exact { h.owned with
        threadBound := fun hthr store hmem =>
          Nat.lt_of_lt_of_le (h.owned.threadBound hthr store hmem) (Nat.le_add_right _ _)
        storeBound := fun hjob store hmem =>
          Nat.lt_of_lt_of_le (h.owned.storeBound hjob store hmem) (Nat.le_add_right _ _) }
    · exact fun store hmem => (hstores store hmem).2
    · exact fun _ hjob store hmem hmem' =>
        Nat.not_lt.mpr (hstores store hmem).1 (h.owned.storeBound hjob store hmem')
    · exact fun hthr store hmem hmem' =>
        Nat.not_lt.mpr (hstores store hmem').1 (h.owned.threadBound hthr store hmem)

theorem Orderly.startJob (h : Orderly mgr) (hown : OwnStores mgr key job.stores)
    (hfree : ∀ job ∈ mgr.jobs.lookup key, job.puller = none) :
    Orderly (mgr.startJob key job).2 := by
  obtain ⟨hbuilt, hown', hjobs, hnext⟩ := h.buildRenditionsLocked hown
  rw [← hjobs] at hfree
  unfold Manager.startJob Manager.startLocked
  generalize mgr.buildRenditionsLocked job = built at hbuilt hown' hfree
  obtain ⟨job', manager'⟩ := built
  have hplain : ∀ ev ∈ registrations job' ++
      [.setRenditions job'.config.application job'.config.name job'.config.renditions],
      ev.plain = true :=
    forall_mem_append.mpr ⟨plain_registrations job', by simp [Event.plain]⟩
  have hnoted := hbuilt.note hplain
  constructor
  · rw [find_insert]
    exact hbuilt.owned.start hfree rfl rfl rfl rfl hown'.bound hown'.mine hown'.unused
  · -- The new puller is not in the log when it is added to the threads.
    have hthreads : Quiet (manager'.note (registrations job' ++
        [.setRenditions job'.config.application job'.config.name job'.config.renditions])).log
        (Function.update manager'.threads manager'.nextPuller
          (some { stores := job'.stores })) := by
      apply hnoted.quiet.exchange
      intro p thread hthr
      by_cases hp : p = manager'.nextPuller
      · right
        intro hstart
        rw [hp] at hstart
        exact absurd (hnoted.started hstart) (Nat.lt_irrefl _)
      · rw [Function.update_of_ne hp] at hthr
        exact .inl ⟨thread, hthr, rfl⟩
    have hstart := hthreads.concat (show Allowed _ (.start manager'.nextPuller) from trivial)
    change Quiet (manager'.log ++ (registrations job' ++ [_]) ++ [_]) _ at hstart
    rw [append_assoc, append_assoc] at hstart
    exact hstart
  · intro p hstart
    change p < manager'.nextPuller + 1
    rcases mem_append.mp hstart with hold | hnew
    · exact Nat.lt_succ_of_lt (hbuilt.started hold)
    · rcases mem_append.mp hnew with hregister | hlast
      · cases plain_registrations job' _ hregister
      · simp only [mem_cons, reduceCtorEq, Event.start.injEq, not_mem_nil,
          or_false, false_or] at hlast
        omega

/-! ## The sections of the calls -/

theorem ownStores_new (mgr : Manager) (key : Bytes) : OwnStores mgr key [] where
  bound _ hmem := absurd hmem not_mem_nil
  mine _ _ _ hmem := absurd hmem not_mem_nil
  unused _ _ _ := not_mem_nil

theorem Orderly.create (h : Orderly mgr) (config : SourceJobConfig) :
    Orderly (mgr.create config).2 := by
  unfold Manager.create
  cases validate config with
  | error error => exact h
  | ok _ =>
    refine Orderly.note ((h.dropJob _).startJob (ownStores_new _ _) ?_) (by simp [Event.plain])
    unfold Manager.dropJob
    cases hjob : mgr.jobs.lookup (keyOf config.application config.name) with
    | none => simp [hjob]
    | some job => simp

theorem Orderly.remove (h : Orderly mgr) (app name : Bytes) : Orderly (mgr.remove app name).2 := by
  unfold Manager.remove
  dsimp only
  cases mgr.jobs.lookup (keyOf app name) with
  | none => exact h
  | some job => exact (h.dropJob _).note (by simp [Event.plain])

/-- No puller that was moved out and is still there publishes into a store of the
job. -/
def Gone (manager : Manager) (job : Job) : Prop :=
  ∀ call ∈ manager.calls, ∀ p ∈ call.retired, ∀ thread ∈ manager.threads p,
    ∀ store ∈ thread.stores, store ∉ job.stores
deriving Decidable

/-- The stores of a job without a puller are unused when the pullers that were
moved out of it are gone. -/
theorem Orderly.startOld (h : Orderly mgr) (hjob : mgr.jobs.lookup key = some job)
    (hidle : job.enabled = false ∨ job.restartInProgress = true)
    (hgone : Gone mgr job) (hstores : job'.stores = job.stores) :
    Orderly (mgr.startJob key job').2 := by
  have hnone := h.owned.idle hjob hidle
  apply h.startJob
  · rw [hstores]
    refine ⟨h.owned.storeBound hjob, ?_, ?_⟩
    · exact fun hne hjob' store hmem hmem' => hne (h.owned.apart hjob' hjob hmem' hmem)
    · intro p thread hthr store hmem hmem'
      rcases h.owned.owner hthr with ⟨call, hcall, hp⟩ | ⟨key', job', hjob', hpull, hsame⟩
      · exact hgone call hcall p hp thread hthr store hmem hmem'
      · rw [hsame] at hmem
        obtain rfl := h.owned.apart hjob' hjob hmem hmem'
        rw [Option.some.inj (hjob'.symm.trans hjob), hnone] at hpull
        cases hpull
  · rintro _ hmem
    rwa [Option.some.inj (hmem.symm.trans hjob)]

theorem Orderly.setEnabled (h : Orderly mgr) (app name : Bytes) (enabled : Bool)
    (hgone : ∀ job, mgr.jobs.lookup (keyOf app name) = some job →
      enabled = true → job.enabled = false → Gone mgr job) :
    Orderly (mgr.setEnabled app name enabled).2 := by
  have hpersist {m : Manager} (hm : Orderly m) (config : SourceJobConfig) (on : Bool) :
      Orderly (m.note [.persist config on]) := hm.note (by simp [Event.plain])
  unfold Manager.setEnabled
  dsimp only
  cases hjob : mgr.jobs.lookup (keyOf app name) with
  | none => exact h
  | some job =>
    dsimp only
    split
    · exact h
    next hne =>
      cases enabled with
      | true =>
        have hdis : job.enabled = false := Bool.eq_false_iff.mpr hne
        apply hpersist
        exact h.startOld hjob (.inl hdis) (hgone job hjob rfl hdis) rfl
      | false => exact hpersist (h.disable hjob) _ _

theorem Orderly.restart (h : Orderly mgr) (app name : Bytes) :
    Orderly (mgr.restart app name).2 := by
  unfold Manager.restart
  dsimp only
  cases hjob : mgr.jobs.lookup (keyOf app name) with
  | none => exact h
  | some job =>
    dsimp only
    split
    · exact h
    · have hidle := h.owned.idle hjob
      exact h.amend hjob rfl rfl hidle (subset_append_left _ _)

/-! ## The monitor -/

theorem forgive_eq (mgr : Manager) (now : ℕ) (job : Job) : ∃ runningSince restartAttempts,
    mgr.forgive now job = { job with runningSince, restartAttempts } := by
  unfold Manager.forgive
  split
  · exact ⟨_, _, rfl⟩
  · split <;> exact ⟨_, _, rfl⟩

theorem Orderly.scanJob (h : Orderly mgr) (now : ℕ) (key : Bytes) :
    Orderly (mgr.scanJob now key) := by
  unfold Manager.scanJob
  cases hjob : mgr.jobs.lookup key with
  | none => exact h
  | some job =>
    have hidle := h.owned.idle hjob
    obtain ⟨runningSince, restartAttempts, hforgiven⟩ := forgive_eq mgr now job
    dsimp only
    rw [hforgiven]
    split_ifs
    · exact h
    · exact h.amend hjob rfl rfl hidle (Subset.refl _)
    · exact h.amend hjob rfl rfl hidle (subset_append_left _ _)
    · exact h.amend hjob rfl rfl hidle (Subset.refl _)

theorem Orderly.scan (h : Orderly mgr) (now : ℕ) : Orderly (mgr.scan now) := by
  unfold Manager.scan
  generalize mgr.jobs.keys = keys
  induction keys generalizing mgr with
  | nil => exact h
  | cons key rest ih => exact ih (h.scanJob now key)

/-! ## Outside the lock -/

theorem retired_cases (hcall : mgr.calls[i]? = some call) (hp : p ∈ retiredBy mgr.calls) :
    p ∈ retiredBy (mgr.without i).calls ∨ call.retired = some p := by
  obtain ⟨hlt, rfl⟩ := List.getElem?_eq_some_iff.mp hcall
  obtain ⟨other, hother, hp⟩ := hp
  rcases mem_cons.mp ((getElem_cons_eraseIdx_perm hlt).mem_iff.mpr hother) with rfl | hmem
  · exact .inr hp
  · exact .inl ⟨other, hmem, hp⟩

theorem Orderly.without (h : Orderly mgr)
    (hcall : mgr.calls[i]? = some call) (hnone : call.retired = none) :
    Orderly (mgr.without i) := by
  refine ⟨{ h.owned with owner := fun hthr => (h.owned.owner hthr).imp_left fun hp => ?_ },
    h.quiet, h.started⟩
  exact (retired_cases hcall hp).resolve_right (by simp [hnone])

theorem Orderly.beginRestart (h : Orderly mgr) (key : Bytes) : Orderly (mgr.beginRestart key) := by
  unfold Manager.beginRestart
  cases hjob : mgr.jobs.lookup key with
  | none => exact h
  | some job =>
    dsimp only
    split
    · exact h
    · refine h.replace hjob (find_insert ..) ?_ (subset_append_left _ _) ?_
      · rintro _ ⟨⟩
        exact ⟨rfl, fun _ => rfl⟩
      · exact fun p hp => .inl ⟨_, mem_concat_self, hp⟩

theorem Orderly.endRestart (h : Orderly mgr) (key : Bytes)
    (hgone : ∀ job, mgr.jobs.lookup key = some job → job.restartInProgress = true →
      job.enabled = true → Gone mgr job) :
    Orderly (mgr.endRestart key) := by
  unfold Manager.endRestart
  cases hjob : mgr.jobs.lookup key with
  | none => exact h
  | some job =>
    dsimp only
    cases hrest : job.restartInProgress with
    | false => exact h
    | true =>
      cases hen : job.enabled with
      | false =>
        have hnone := h.owned.idle hjob (.inl hen)
        exact h.amend hjob rfl rfl (fun _ => hnone) (Subset.refl _)
      | true => exact h.startOld hjob (.inr hrest) (hgone job hjob hrest hen) rfl

theorem join_eq_some {joined : Manager} (hjoin : mgr.join p = some joined) : mgr.threads p ≠ none ∧
      joined = { mgr with threads := Function.update mgr.threads p none } := by
  unfold Manager.join at hjoin
  cases hthr : mgr.threads p with
  | none =>
    rw [hthr] at hjoin
    cases hjoin
  | some thread =>
    rw [hthr] at hjoin
    dsimp only at hjoin
    split at hjoin
    · exact ⟨nofun, (Option.some.inj hjoin).symm⟩
    · cases hjoin

theorem Orderly.join (h : Orderly mgr) (hthr : mgr.threads p ≠ none)
    (hret : call.retired = some p) (hcall : mgr.calls[i]? = some call)
    (hcalls : (mgr.without i).calls ⊆ calls) :
    Orderly { mgr with threads := Function.update mgr.threads p none, calls } := by
  obtain ⟨thread, hp⟩ := ne_none_iff_exists'.mp hthr
  refine ⟨h.owned.exchange hp nofun fun q hq => ?_, h.quiet.replace hp nofun, h.started⟩
  rcases retired_cases hcall hq with ⟨other, hmem, hq⟩ | heq
  · exact .inl ⟨other, hcalls hmem, hq⟩
  · exact .inr ⟨(Option.some.inj (hret.symm.trans heq)).symm, rfl⟩

theorem Orderly.advance (h : Orderly mgr) (i : ℕ)
    (hgone : ∀ key job, mgr.calls[i]? = some (.restart key none) →
      mgr.jobs.lookup key = some job → job.restartInProgress = true →
        job.enabled = true → Gone mgr job) :
    Orderly (mgr.advance i) := by
  unfold Manager.advance
  cases hcall : mgr.calls[i]? with
  | none => exact h
  | some call =>
    cases call with
    | request key => exact (h.without hcall rfl).beginRestart key
    | retire p =>
      dsimp only
      cases hjoin : mgr.join p with
      | none => exact h
      | some joined =>
        obtain ⟨hthr, rfl⟩ := join_eq_some hjoin
        exact h.join hthr rfl hcall (Subset.refl _)
    | restart key retired =>
      cases retired with
      | none =>
        apply (h.without hcall rfl).endRestart key
        intro job hjob hrest hen other hother
        exact hgone key job hcall hjob hrest hen other (mem_of_mem_eraseIdx hother)
      | some p =>
        dsimp only
        cases hjoin : mgr.join p with
        | none => exact h
        | some joined =>
          obtain ⟨hthr, rfl⟩ := join_eq_some hjoin
          obtain ⟨hlt, -⟩ := List.getElem?_eq_some_iff.mp hcall
          refine h.join hthr rfl hcall fun call hmem => ?_
          exact (set_perm_cons_eraseIdx hlt _).mem_iff.mpr (mem_cons_of_mem _ hmem)

theorem Orderly.report (h : Orderly mgr) (p : ℕ) (status : Puller.PullerStatus)
    (detail : String) : Orderly (mgr.report p status detail) := by
  unfold Manager.report
  cases hthr : mgr.threads p with
  | none => exact h
  | some thread =>
    dsimp only
    split
    · exact h
    · exact ⟨h.owned.exchange hthr (by simp) fun _ => .inl, h.quiet.replace hthr (by simp),
        h.started⟩

theorem Orderly.finishPipeline (h : Orderly mgr) (p : ℕ) : Orderly (mgr.finishPipeline p) := by
  unfold Manager.finishPipeline
  cases hthr : mgr.threads p with
  | none => exact h
  | some thread =>
    dsimp only
    split
    · exact h
    · have hown : ∀ ev ∈ (if thread.status = .error then []
          else thread.stores.map (Event.flush p) ++ thread.stores.map (Event.markEnded p)),
          Allowed mgr.threads ev ∧ ∀ q, ev ≠ .start q := by
        split
        · exact nofun
        · rw [forall_mem_append, List.forall_mem_map, List.forall_mem_map]
          exact ⟨fun _ hmem => ⟨⟨thread, hthr, hmem⟩, nofun⟩,
            fun _ hmem => ⟨⟨thread, hthr, hmem⟩, nofun⟩⟩
      have hnoted := h.append hown
      exact ⟨h.owned.exchange hthr (by simp) fun _ => .inl, hnoted.quiet.replace hthr (by simp),
        hnoted.started⟩

end Sections

/-! ## Runs -/

/-- The job of the table on which a move starts a puller. -/
def startsOn (manager : Manager) : Move → Option Job
  | .setEnabled application name true =>
    (manager.jobs.lookup (keyOf application name)).filter fun job => !job.enabled
  | .advance call =>
    match manager.calls[call]? with
    | some (.restart key none) =>
      (manager.jobs.lookup key).filter fun job => job.restartInProgress && job.enabled
    | _ => none
  | _ => none

/-- A job is started again only when every puller that was moved out of it has
been joined. -/
def Settled (manager : Manager) (move : Move) : Prop :=
  ∀ job ∈ startsOn manager move, Gone manager job
deriving Decidable

theorem Orderly.step {mgr : Manager} (h : Orderly mgr) {move : Move}
    (hset : Settled mgr move) : Orderly (mgr.step move) := by
  cases move with
  | create config => exact h.create config
  | setEnabled app name enabled =>
    apply h.setEnabled app name enabled
    rintro job hjob rfl hdis
    apply hset job
    rw [startsOn, hjob, filter_some, hdis]
    rfl
  | restart app name => exact h.restart app name
  | remove app name => exact h.remove app name
  | scan now => exact h.scan now
  | advance call =>
    apply h.advance call
    intro key job hcall hjob hrest hen
    apply hset job
    rw [startsOn, hcall]
    dsimp only
    rw [hjob, filter_some, hrest, hen]
    rfl
  | report p status detail => exact h.report p status detail
  | finishPipeline p => exact h.finishPipeline p

/-- No two pullers that were started and not joined publish into one store. -/
def OneWriter (manager : Manager) : Prop :=
  ∀ p q thread thread' store, manager.threads p = some thread →
    manager.threads q = some thread' → store ∈ thread.stores → store ∈ thread'.stores → p = q

theorem orderly_initial (routePrefix : Bytes) (options : SourceJobOptions) :
    Orderly { routePrefix, options } where
  owned := ⟨nofun, nofun, nofun, nofun, nofun, nofun⟩
  quiet := by
    refine ⟨fun before store after p hlog => ?_, nofun⟩
    exact absurd hlog.symm (append_ne_nil_of_right_ne_nil _ (cons_ne_nil _ _))
  started := nofun

/-- In every run in which a job is started again only when its old pullers have
been joined, no two pullers publish into one store, and what a puller does at its
end never lands behind the mark that its successor's start puts on the store. -/
theorem run_oneWriter (routePrefix : List UInt8) (options : SourceJobOptions) (moves : List Move)
    (hsettled : Run.Along Manager.step Settled { routePrefix, options } moves) :
    OneWriter (Run.run Manager.step { routePrefix, options } moves) ∧
      InTime (Run.run Manager.step { routePrefix, options } moves).log := by
  have horderly := Run.run_invariant Orderly hsettled
    (orderly_initial routePrefix options) fun _ _ hmove h => h.step hmove
  exact ⟨fun _ _ _ _ _ hp hq hmem hmem' => horderly.owned.oneWriter hp hq hmem hmem',
    horderly.quiet.inTime⟩

def sampleConfig : SourceJobConfig where
  application := "live"
  name := "a"
  sourceUrl := "http://h"
  renditions := [{ outputStream := "a_720" }]

/-- A job is disabled, its puller is joined, and the job is enabled again. -/
theorem run_oneWriter_patient :
    let moves : List Move :=
      [.create sampleConfig, .setEnabled "live" "a" false,
        .finishPipeline 0, .advance 0, .setEnabled "live" "a" true]
    OneWriter (Run.run Manager.step {} moves) ∧
      ((Run.run Manager.step {} moves).threads 1).isSome :=
  ⟨(run_oneWriter _ _ _ (by decide +kernel)).1, by decide +kernel⟩

/-- A job is disabled and enabled again while the first call still waits for the
old puller: both pullers are there, and the old one marks the store as ended after
it was marked live. -/
theorem run_twoWriters :
    let moves : List Move :=
      [.create sampleConfig, .setEnabled "live" "a" false,
        .setEnabled "live" "a" true, .finishPipeline 0]
    ¬OneWriter (Run.run Manager.step {} moves) ∧ ¬InTime (Run.run Manager.step {} moves).log := by
  intro moves
  constructor
  · intro h
    have hold : (Run.run Manager.step {} moves).threads 0 =
        some ⟨[0], .stopped, "", true⟩ := by decide +kernel
    have hnew : (Run.run Manager.step {} moves).threads 1 =
        some ⟨[0], .starting, "", false⟩ := by decide +kernel
    exact absurd (h 0 1 _ _ 0 hold hnew mem_cons_self mem_cons_self)
      Nat.zero_ne_one
  · intro h
    have hlog : (Run.run Manager.step {} moves).log = (Run.run Manager.step {} moves).log.take 6 ++
          .markLive 0 :: (Run.run Manager.step {} moves).log.drop 7 := by decide +kernel
    exact (h _ 0 _ 0 hlog (by decide +kernel)).2 (by decide +kernel)

/-- A restart that has joined its puller is overtaken by disabling, enabling and
another restart.  It takes the other restart's flag for its own and starts a third
puller while the second is still there. -/
example :
    let manager := Run.run Manager.step {}
      [.create sampleConfig, .restart "live" "a", .advance 0, .finishPipeline 0, .advance 0,
        .setEnabled "live" "a" false, .setEnabled "live" "a" true,
        .restart "live" "a", .advance 1, .advance 0]
    (manager.threads 1).map PullerThread.stores = some [0] ∧
      (manager.threads 2).map PullerThread.stores = some [0] := by
  decide +kernel

end RtmpCore.SourceJobs
