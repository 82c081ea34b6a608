import RtmpCore.SourceJobs.Manager

/-!
# Who owns a puller

A puller that was started and not joined belongs to its job, or to the call that
has moved it out and waits for its thread.  The stores of a job are its own, so
two pullers can meet in a store only when one of them was moved out of the job
and is still waited for.
-/

namespace RtmpCore.SourceJobs

open Table Function

abbrev Jobs := Bytes → Option Job

abbrev Threads := ℕ → Option PullerThread

/-- The pullers that calls have moved out of their jobs. -/
def retiredBy (calls : List Call) : Set ℕ := {p | ∃ call ∈ calls, call.retired = some p}

/-- Every started puller belongs to a job or was moved out of one, the stores of different
jobs are different, and no two pullers share a store. -/
structure Owned (jobs : Jobs) (threads : Threads) (retired : Set ℕ) (nextStore : ℕ) : Prop where
  owner : ∀ {p thread}, threads p = some thread → p ∈ retired ∨
    ∃ key job, jobs key = some job ∧ job.puller = some p ∧ thread.stores = job.stores
  apart : ∀ {key key' job job' store}, jobs key = some job → jobs key' = some job' →
    store ∈ job.stores → store ∈ job'.stores → key = key'
  idle : ∀ {key job}, jobs key = some job →
    job.enabled = false ∨ job.restartInProgress = true → job.puller = none
  threadBound : ∀ {p thread}, threads p = some thread → ∀ store ∈ thread.stores, store < nextStore
  storeBound : ∀ {key job}, jobs key = some job → ∀ store ∈ job.stores, store < nextStore
  oneWriter : ∀ {p q thread thread' store}, threads p = some thread →
    threads q = some thread' → store ∈ thread.stores → store ∈ thread'.stores → p = q

section Tables

variable {κ υ : Type} [DecidableEq κ] {table : κ → Option υ} {k k' : κ} {new : Option υ} {v old : υ}
  {stores : υ → List ℕ}

theorem old_of_update (hold : table k = some old) (hstores : ∀ v ∈ new, stores v = stores old)
    (h : update table k new k' = some v) : ∃ v', table k' = some v' ∧ stores v = stores v' := by
  rcases update_eq_some h with ⟨rfl, hnew⟩ | ⟨-, hsame⟩
  · exact ⟨old, hold, hstores v hnew⟩
  · exact ⟨v, hsame, rfl⟩

theorem apart_update (h : ∀ {k k' v v' store}, table k = some v → table k' = some v' →
      store ∈ stores v → store ∈ stores v' → k = k')
    (hnew : ∀ {k' v'}, k' ≠ k → table k' = some v' → ∀ store ∈ stores v, store ∉ stores v')
    {k₁ k₂ : κ} {v₁ v₂ : υ} {store : ℕ} (h₁ : update table k (some v) k₁ = some v₁)
    (h₂ : update table k (some v) k₂ = some v₂) (hmem₁ : store ∈ stores v₁)
    (hmem₂ : store ∈ stores v₂) : k₁ = k₂ := by
  rcases update_eq_some h₁ with ⟨rfl, ⟨⟩⟩ | ⟨hne₁, hold₁⟩
  · rcases update_eq_some h₂ with ⟨rfl, -⟩ | ⟨hne₂, hold₂⟩
    · rfl
    · exact absurd hmem₂ (hnew hne₂ hold₂ store hmem₁)
  · rcases update_eq_some h₂ with ⟨rfl, ⟨⟩⟩ | ⟨-, hold₂⟩
    · exact absurd hmem₁ (hnew hne₁ hold₁ store hmem₂)
    · exact h hold₁ hold₂ hmem₁ hmem₂

end Tables

section Operations

variable {jobs : Jobs} {threads : Threads} {retired retired' : Set ℕ} {nextStore p : ℕ}
  {key : Bytes} {job job' : Job} {new : Option Job} {thread : PullerThread}
  (h : Owned jobs threads retired nextStore)

include h

/-- A job is replaced by one with the same stores, or leaves the table.  Its
puller stays or is moved out. -/
theorem Owned.replace (hjob : jobs key = some job) (hnew : ∀ job' ∈ new, job'.stores = job.stores ∧
      (job'.enabled = false ∨ job'.restartInProgress = true → job'.puller = none))
    (hsub : retired ⊆ retired')
    (hpull : ∀ p, job.puller = some p → p ∈ retired' ∨ ∃ job' ∈ new, job'.puller = some p) :
    Owned (update jobs key new) threads retired' nextStore := by
  have hstores : ∀ job' ∈ new, job'.stores = job.stores := fun job' hmem => (hnew job' hmem).1
  refine { h with owner := ?_, apart := ?_, idle := ?_, storeBound := ?_ }
  · intro p thread hthr
    rcases h.owner hthr with hret | ⟨key', job', hjob', hp, hsame⟩
    · exact .inl (hsub hret)
    · by_cases hkey : key' = key
      · rw [hkey, hjob, Option.some.injEq] at hjob'
        subst hjob'
        refine (hpull p hp).imp_right fun ⟨job'', hmem, hp'⟩ => ⟨key, job'', ?_, hp', ?_⟩
        · rw [update_self, hmem]
        · rw [hsame, hstores job'' hmem]
      · exact .inr ⟨key', job', (update_of_ne hkey _ _).trans hjob', hp, hsame⟩
  · intro key₁ key₂ job₁ job₂ store h₁ h₂ hmem₁ hmem₂
    obtain ⟨job₁', hjob₁, hstores₁⟩ := old_of_update hjob hstores h₁
    obtain ⟨job₂', hjob₂, hstores₂⟩ := old_of_update hjob hstores h₂
    exact h.apart hjob₁ hjob₂ (hstores₁ ▸ hmem₁) (hstores₂ ▸ hmem₂)
  · intro key' job' hlook
    rcases update_eq_some hlook with ⟨-, hmem⟩ | ⟨-, hold⟩
    · exact (hnew job' hmem).2
    · exact h.idle hold
  · intro key' job' hlook
    obtain ⟨job, hjob, hsame⟩ := old_of_update hjob hstores hlook
    rw [hsame]
    exact h.storeBound hjob

theorem Owned.start (hfree : ∀ job ∈ jobs key, job.puller = none) {started : Job}
    (hpull : started.puller = some p) (hen : started.enabled = true)
    (hset : started.restartInProgress = false)
    (hthr : thread.stores = started.stores) (hbd : ∀ store ∈ started.stores, store < nextStore)
    (hmine : ∀ {key' job'}, key' ≠ key → jobs key' = some job' →
      ∀ store ∈ started.stores, store ∉ job'.stores)
    (hquiet : ∀ {p thread}, threads p = some thread →
      ∀ store ∈ thread.stores, store ∉ started.stores) :
    Owned (update jobs key (some started)) (update threads p (some thread)) retired nextStore := by
  constructor
  · intro q t ht
    rcases update_eq_some ht with ⟨rfl, ⟨⟩⟩ | ⟨-, hold⟩
    · exact .inr ⟨key, started, update_self .., hpull, hthr⟩
    · refine (h.owner hold).imp_right fun ⟨key', job', hjob', hp, hsame⟩ => ?_
      have hkey : key' ≠ key := by
        rintro rfl
        rw [hfree job' hjob'] at hp
        cases hp
      exact ⟨key', job', (update_of_ne hkey _ _).trans hjob', hp, hsame⟩
  · exact apart_update h.apart hmine
  · intro key' job' hlook hidle
    rcases update_eq_some hlook with ⟨-, ⟨⟩⟩ | ⟨-, hold⟩
    · rw [hen, hset] at hidle
      simp at hidle
    · exact h.idle hold hidle
  · intro q t ht
    rcases update_eq_some ht with ⟨-, ⟨⟩⟩ | ⟨-, hold⟩
    · exact hthr ▸ hbd
    · exact h.threadBound hold
  · intro key' job' hlook
    rcases update_eq_some hlook with ⟨-, ⟨⟩⟩ | ⟨-, hold⟩
    · exact hbd
    · exact h.storeBound hold
  · exact apart_update h.oneWriter fun _ hold store hmem hother =>
      hquiet hold store hother (hthr ▸ hmem)

theorem Owned.exchange (hp : threads p = some thread) {left : Option PullerThread}
    (hstores : ∀ thread' ∈ left, thread'.stores = thread.stores)
    (hrest : ∀ q ∈ retired, q ∈ retired' ∨ q = p ∧ left = none) :
    Owned jobs (update threads p left) retired' nextStore := by
  have hcases : ∀ {q t}, update threads p left q = some t →
      ∃ t', threads q = some t' ∧ t.stores = t'.stores := old_of_update hp hstores
  refine { h with owner := ?_, threadBound := ?_, oneWriter := ?_ }
  · intro q t ht
    obtain ⟨t', hq, hsame⟩ := hcases ht
    rcases h.owner hq with hret | ⟨key, job, hjob, hpull, heq⟩
    · refine .inl ((hrest q hret).resolve_right ?_)
      rintro ⟨rfl, rfl⟩
      rw [update_self] at ht
      cases ht
    · exact .inr ⟨key, job, hjob, hpull, hsame.trans heq⟩
  · intro q t ht
    obtain ⟨t', hq, hsame⟩ := hcases ht
    rw [hsame]
    exact h.threadBound hq
  · intro q q' t t' store ht ht' hmem hmem'
    obtain ⟨u, hu, hsame⟩ := hcases ht
    obtain ⟨u', hu', hsame'⟩ := hcases ht'
    exact h.oneWriter hu hu' (hsame ▸ hmem) (hsame' ▸ hmem')

end Operations

end RtmpCore.SourceJobs
