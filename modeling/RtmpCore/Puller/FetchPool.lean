import RtmpCore.Core.Error
import RtmpCore.Support.Lookup
import RtmpCore.Support.Run

/-!
# The fetch pool

Several workers fetch the segments of a batch.  A worker takes the next slot
under the lock, fetches without it, and stores the body in its slot under the
lock again.  The batch is over when every slot has a body; the bodies are then
returned in the order of the URLs, whatever the order in which they came.

The network answers a request for a URL at some instant; instants are numbered.
-/

namespace RtmpCore.Puller

open RtmpCore.Core Table List Function

abbrev Url := List UInt8

/-- What a request for a URL yields at an instant. -/
abbrev Network := Url → ℕ → Except Error (List UInt8)

abbrev Body := Except Error (List UInt8)

/-- A slot in the hands of a worker. -/
structure Held where
  slot : ℕ
  url : Url
  proceed : Bool
deriving DecidableEq

/-- The members of the pool that its lock protects, and what its workers
hold. -/
structure FetchPool where
  workers : ℕ
  urls : Option (List Url) := none
  results : List (Option Body) := []
  next : ℕ := 0
  remaining : ℕ := 0
  held : ℕ → Option Held := fun _ => none

/-- The pool has at least one worker and at most eight. -/
def FetchPool.create (workers : ℕ) : FetchPool := { workers := max 1 (min workers 8) }

def stoppingError : Error := ⟨.operationCanceled, .network, "source job stopping"⟩

variable (network : Network) (pool : FetchPool)

/-- One fetch, with one more attempt when the first fails. -/
def fetchOne (url : Url) (proceed : Bool) (first second : ℕ) : Body :=
  if !proceed then .error stoppingError
  else
    match network url first with
    | .ok bytes => .ok bytes
    | .error _ => network url second

/-- What a worker does under the lock: it takes a slot, having asked whether the
job goes on, or it stores the body of the slot that it holds. -/
inductive PoolMove where
  | take (worker : ℕ) (proceed : Bool)
  | store (worker first second : ℕ)
deriving DecidableEq

def FetchPool.take (worker : ℕ) (proceed : Bool) : FetchPool :=
  match pool.urls with
  | none => pool
  | some urls =>
    match urls[pool.next]? with
    | none => pool
    | some url =>
      { pool with
        next := pool.next + 1
        held := update pool.held worker (some ⟨pool.next, url, proceed⟩) }

def FetchPool.store (worker : ℕ) (held : Held) (first second : ℕ) : FetchPool :=
  { pool with
    results := pool.results.set held.slot
      (some (fetchOne network held.url held.proceed first second))
    remaining := pool.remaining - 1
    held := update pool.held worker none }

/-- A move that is not possible does nothing. -/
def FetchPool.step : PoolMove → FetchPool
  | .take worker proceed =>
    if worker < pool.workers ∧ pool.held worker = none then pool.take worker proceed
    else pool
  | .store worker first second =>
    match pool.held worker with
    | some held => pool.store network worker held first second
    | none => pool

def FetchPool.start (urls : List Url) : FetchPool :=
  { pool with
    urls := some urls
    results := List.replicate urls.length none
    next := 0
    remaining := urls.length }

/-- The bodies of a batch.  There is none when a slot is read that is still
empty. -/
def FetchPool.collect : Option (List Body) := pool.results.mapM id

/-- Fetch a batch under a schedule of the workers.  There is no result while a
slot of the batch is still open: the caller waits. -/
def FetchPool.fetchAll (urls : List Url) (moves : List PoolMove) : Option (List Body × FetchPool) :=
  if urls = [] then some ([], pool)
  else
    let pool := Run.run (FetchPool.step network) (pool.start urls) moves
    if pool.remaining = 0 then
      pool.collect.map fun bodies => (bodies, { pool with urls := none, results := [] })
    else none

/-! ## Invariant -/

/-- No worker holds a slot. -/
def FetchPool.Idle : Prop := ∀ worker, pool.held worker = none

/-- A batch that is being served: an open slot belongs to at most one worker or
was not taken yet, and a closed one has the body of its own URL. -/
structure FetchPool.Serving (network : Network) (urls : List Url) (pool : FetchPool) : Prop where
  batch : pool.urls = some urls
  length : pool.results.length = urls.length
  remaining : pool.remaining = pool.results.countP Option.isNone
  taken : ∀ worker held, pool.held worker = some held →
    held.slot < pool.next ∧ urls[held.slot]? = some held.url ∧ pool.results[held.slot]? = some none
  distinct : ∀ worker worker' held held', pool.held worker = some held →
    pool.held worker' = some held' → held.slot = held'.slot → worker = worker'
  untaken : ∀ i, pool.next ≤ i → i < urls.length → pool.results[i]? = some none
  answered : ∀ (i : ℕ) (url : Url) (bytes : List UInt8), urls[i]? = some url →
    pool.results[i]? = some (some (.ok bytes)) → ∃ instant, network url instant = .ok bytes

theorem FetchPool.Idle.start {pool : FetchPool} (h : pool.Idle) (network : Network)
    (urls : List Url) : (pool.start urls).Serving network urls where
  batch := rfl
  length := length_replicate
  remaining := by simp [FetchPool.start, countP_replicate]
  taken worker held hheld := by
    rw [show (pool.start urls).held = pool.held from rfl, h worker] at hheld
    cases hheld
  distinct worker worker' held held' hheld := by
    rw [show (pool.start urls).held = pool.held from rfl, h worker] at hheld
    cases hheld
  untaken i _ hi := by simp [FetchPool.start, hi]
  answered i url bytes hurl hbody := by simp [FetchPool.start, getElem?_replicate] at hbody

section Steps

variable {network : Network} {urls : List Url} {pool : FetchPool}

theorem fetchOne_eq_ok {url : Url} {proceed : Bool} {first second : ℕ}
    {bytes : List UInt8} (h : fetchOne network url proceed first second = .ok bytes) :
    ∃ instant, network url instant = .ok bytes := by
  unfold fetchOne at h
  cases proceed with
  | false => cases h
  | true =>
    cases hfst : network url first with
    | ok body =>
      rw [hfst] at h
      exact ⟨first, hfst.trans h⟩
    | error error =>
      rw [hfst] at h
      exact ⟨second, h⟩

theorem FetchPool.Serving.take (h : pool.Serving network urls) (worker : ℕ)
    (proceed : Bool) : (pool.take worker proceed).Serving network urls := by
  unfold FetchPool.take
  rw [h.batch]
  dsimp only
  cases hurl : urls[pool.next]? with
  | none => exact h
  | some url =>
    have hlt := (List.getElem?_eq_some_iff.mp hurl).1
    constructor
    · rfl
    · exact h.length
    · exact h.remaining
    · intro other held hheld
      rcases update_eq_some hheld with ⟨rfl, ⟨⟩⟩ | ⟨-, hold⟩
      · exact ⟨Nat.lt_succ_self _, hurl, h.untaken _ (Nat.le_refl _) hlt⟩
      · exact (h.taken other held hold).imp_left Nat.lt_succ_of_lt
    · intro one two held held' hone htwo hslot
      -- A slot that is held already lies below the one that is taken now.
      rcases update_eq_some hone with ⟨rfl, ⟨⟩⟩ | ⟨-, hold⟩
      · rcases update_eq_some htwo with ⟨rfl, -⟩ | ⟨-, hold⟩
        · rfl
        · exact absurd hslot (Nat.ne_of_gt (h.taken two held' hold).1)
      · rcases update_eq_some htwo with ⟨rfl, ⟨⟩⟩ | ⟨-, hold'⟩
        · exact absurd hslot (Nat.ne_of_lt (h.taken one held hold).1)
        · exact h.distinct one two held held' hold hold' hslot
    · intro i hi
      exact h.untaken i (by dsimp only at hi; omega)
    · exact h.answered

theorem FetchPool.Serving.store (h : pool.Serving network urls) {worker : ℕ}
    {held : Held} (hheld : pool.held worker = some held) (first second : ℕ) :
    (pool.store network worker held first second).Serving network urls := by
  obtain ⟨hslot, hurl, hopen⟩ := h.taken worker held hheld
  have hlt : held.slot < pool.results.length := (List.getElem?_eq_some_iff.mp hopen).1
  have hnone : pool.results[held.slot] = none := (List.getElem?_eq_some_iff.mp hopen).2
  constructor
  · exact h.batch
  · exact (length_set ..).trans h.length
  · have hcnt := countP_set (p := Option.isNone) (l := pool.results)
      (a := some (fetchOne network held.url held.proceed first second)) hlt
    rw [hnone] at hcnt
    change pool.remaining - 1 = _
    rw [h.remaining, FetchPool.store, hcnt]
    rfl
  · intro other held' hheld'
    obtain ⟨hother, hheld'⟩ := (update_eq_some hheld').resolve_left nofun
    obtain ⟨hslot', hurl', hopen'⟩ := h.taken other held' hheld'
    refine ⟨hslot', hurl', ?_⟩
    have hne : held.slot ≠ held'.slot := fun heq =>
      hother (h.distinct worker other held held' hheld hheld' heq).symm
    rw [FetchPool.store, getElem?_set_ne hne]
    exact hopen'
  · intro one two held' held'' hone htwo
    exact h.distinct one two held' held'' ((update_eq_some hone).resolve_left nofun).2
      ((update_eq_some htwo).resolve_left nofun).2
  · intro i hi hlen
    have hne : held.slot ≠ i := by
      change pool.next ≤ i at hi
      omega
    rw [FetchPool.store, getElem?_set_ne hne]
    exact h.untaken i hi hlen
  · intro i url bytes hi hbody
    by_cases hne : held.slot = i
    · rw [FetchPool.store, ← hne, getElem?_set_self hlt, Option.some.injEq,
        Option.some.injEq] at hbody
      rw [← hne, hurl, Option.some.injEq] at hi
      rw [← hi]
      exact fetchOne_eq_ok hbody
    · rw [FetchPool.store, getElem?_set_ne hne] at hbody
      exact h.answered i url bytes hi hbody

theorem FetchPool.Serving.step (h : pool.Serving network urls) (move : PoolMove) :
    (pool.step network move).Serving network urls := by
  cases move with
  | take worker proceed =>
    rw [FetchPool.step]
    split
    · exact h.take worker proceed
    · exact h
  | store worker first second =>
    rw [FetchPool.step]
    cases hheld : pool.held worker with
    | none => exact h
    | some held => exact h.store hheld first second

theorem FetchPool.Serving.results_eq (h : pool.Serving network urls) (hdone : pool.remaining = 0) :
    ∃ bodies : List Body, pool.results = bodies.map some := by
  have hcl : ∀ result ∈ pool.results, ¬result.isNone = true :=
    countP_eq_zero.mp (h.remaining.symm.trans hdone)
  generalize pool.results = results at hcl
  induction results with
  | nil => exact ⟨[], rfl⟩
  | cons result rest ih =>
    obtain ⟨hhead, hrest⟩ := forall_mem_cons.mp hcl
    obtain ⟨bodies, rfl⟩ := ih hrest
    cases result with
    | none => exact absurd rfl hhead
    | some body => exact ⟨body :: bodies, rfl⟩

theorem mapM_id_map_some (bodies : List Body) : (bodies.map some).mapM id = some bodies := by
  induction bodies with
  | nil => rfl
  | cons body rest ih =>
    rw [map_cons, mapM_cons, ih]
    rfl

theorem FetchPool.Serving.idle (h : pool.Serving network urls) {bodies : List Body}
    (hresults : pool.results = bodies.map some) : pool.Idle := by
  intro worker
  cases hheld : pool.held worker with
  | none => rfl
  | some held =>
    have hopen := (h.taken worker held hheld).2.2
    rw [hresults, getElem?_map] at hopen
    cases hbody : bodies[held.slot]? with
    | none | some => rw [hbody] at hopen; cases hopen

/-- A batch that ends has one body for each URL, in the order of the URLs, and
every body that was fetched was fetched from its own URL. -/
theorem FetchPool.Idle.fetchAll {pool' : FetchPool} (h : pool.Idle)
    {moves : List PoolMove} {bodies : List Body}
    (hfetch : pool.fetchAll network urls moves = some (bodies, pool')) :
    pool'.Idle ∧ bodies.length = urls.length ∧
      ∀ (i : ℕ) (url : Url) (bytes : List UInt8), urls[i]? = some url →
        bodies[i]? = some (.ok bytes) → ∃ instant, network url instant = .ok bytes := by
  unfold FetchPool.fetchAll at hfetch
  by_cases hemp : urls = []
  · rw [if_pos hemp, Option.some.injEq, Prod.mk.injEq] at hfetch
    rw [← hfetch.1, ← hfetch.2, hemp]
    exact ⟨h, rfl, nofun⟩
  · rw [if_neg hemp] at hfetch
    have hserv : (Run.run (FetchPool.step network) (pool.start urls) moves).Serving network urls :=
      Run.run_invariant_always (fun p : FetchPool => p.Serving network urls)
        (h.start network urls) (fun _ move hp => hp.step move)
    generalize Run.run (FetchPool.step network) (pool.start urls) moves = served
      at hfetch hserv
    by_cases hdone : served.remaining = 0
    · obtain ⟨all, hall⟩ := hserv.results_eq hdone
      rw [if_pos hdone, FetchPool.collect, hall, mapM_id_map_some] at hfetch
      obtain ⟨rfl, rfl⟩ := hfetch
      refine ⟨hserv.idle hall, ?_, ?_⟩
      · rw [← hserv.length, hall, length_map]
      · intro i url bytes hurl hbody
        apply hserv.answered i url bytes hurl
        rw [hall, getElem?_map, hbody]
        rfl
    · rw [if_neg hdone] at hfetch
      cases hfetch

end Steps

end RtmpCore.Puller
