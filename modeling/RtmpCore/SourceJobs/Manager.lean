import RtmpCore.Puller.Poll

/-!
# The manager of source jobs

A source job pulls one source and publishes its renditions into segment stores
of the manager.  The stores outlive the puller that fills them, so that a
restart keeps the last window on air.

Stopping a puller waits for its thread, and the manager does that without its
lock: a call moves the puller out of the job under the lock, and destroys it
when the lock is released.  Such a call is in `calls` until it is done.  Every
function here is one section under the lock, or one action of a call or of a
puller's thread outside it.
-/

namespace RtmpCore.SourceJobs

open RtmpCore.Core Puller Function

/-- The fields of a rendition that the manager itself looks at. -/
structure RenditionSpec where
  name : Bytes := []
  outputStream : Bytes
deriving DecidableEq

structure SourceJobConfig where
  application : Bytes
  name : Bytes
  sourceUrl : Bytes
  templateName : Bytes := []
  rules : Bytes := []
  renditions : List RenditionSpec
  autoRestart : Bool := true
  restartDelaySeconds : ℕ := 5
deriving DecidableEq

structure SourceJobOptions where
  maxRestartAttempts : ℕ := 5
  restartBackoffCapSeconds : ℕ := 60
  healthyResetSeconds : ℕ := 120

/-- A rendition with its segment store. -/
structure PullerRendition where
  spec : RenditionSpec
  store : ℕ
deriving DecidableEq

structure Job where
  config : SourceJobConfig
  renditions : List PullerRendition := []
  puller : Option ℕ := none
  enabled : Bool := true
  restartAttempts : ℕ := 0
  detailOverride : String := ""
  restartAt : ℕ := 0
  restartScheduled : Bool := false
  restartInProgress : Bool := false
  runningSince : Option ℕ := none
deriving DecidableEq

variable (manager : Manager) (application name : Bytes) (config : SourceJobConfig)
  (key : Bytes) (job : Job) (puller : ℕ)

def Job.stores : List ℕ := job.renditions.map PullerRendition.store

/-- A puller that was started and not joined yet. -/
structure PullerThread where
  stores : List ℕ
  status : PullerStatus := .starting
  detail : String := ""
  ended : Bool := false
deriving DecidableEq

structure SourceJobSnapshot where
  application : Bytes
  name : Bytes
  sourceUrl : Bytes
  templateName : Bytes
  masterHlsPath : Bytes
  status : String
  detail : String
  enabled : Bool
  autoRestart : Bool
  restartDelaySeconds : ℕ
  renditions : List RenditionSpec
deriving DecidableEq

/-- What a call still has to do outside the lock. -/
inductive Call where
  /-- `restart_job` is to begin. -/
  | request (key : Bytes)
  /-- `restart_job` destroys the puller, if there was one, and takes the lock
  again. -/
  | restart (key : Bytes) (retired : Option ℕ)
  /-- Another call destroys the puller that it has moved out. -/
  | retire (puller : ℕ)
deriving DecidableEq

/-- The puller that the call has moved out. -/
def Call.retired : Call → Option ℕ
  | .request _ => none
  | .restart _ retired => retired
  | .retire puller => some puller

inductive Event where
  | markLive (store : ℕ)
  | registerOutput (application stream : Bytes) (store : ℕ)
  | unregisterOutput (application stream : Bytes)
  | setRenditions (application name : Bytes) (renditions : List RenditionSpec)
  | start (puller : ℕ)
  | persist (config : SourceJobConfig) (enabled : Bool)
  | deleteRow (application name : Bytes)
  | flush (puller store : ℕ)
  | markEnded (puller store : ℕ)
deriving DecidableEq

structure Manager where
  routePrefix : Bytes := "/hls"
  options : SourceJobOptions := {}
  jobs : AList (fun _ : Bytes => Job) := ∅
  threads : ℕ → Option PullerThread := fun _ => none
  nextPuller : ℕ := 0
  nextStore : ℕ := 0
  calls : List Call := []
  log : List Event := []

def jobError (message : String) : Error := ⟨.invalidConfiguration, .configuration, message⟩

def validateSourceUrl (url : Bytes) : Except Error Unit :=
  if startsWith "rtmp://" url || startsWith "http://" url ||
      startsWith "https://" url then .ok ()
  else .error (jobError "source URL must use rtmp://, http:// or https://")

def keyOf : Bytes := application ++ "/" ++ name

def Manager.masterPath : Bytes :=
  manager.routePrefix ++ "/" ++ application ++ "/" ++ name ++ "/master.m3u8"

def Manager.note (events : List Event) : Manager := { manager with log := manager.log ++ events }

/-! ## Starting -/

/-- The renditions that the job has are those that it needs. -/
def Job.sameOutputs : Bool :=
  job.renditions.map (fun rendition => rendition.spec.outputStream) =
    job.config.renditions.map RenditionSpec.outputStream

/-- The configured renditions with the given stores. -/
def Job.withStores (stores : List ℕ) : Job :=
  { job with renditions := List.zipWith PullerRendition.mk job.config.renditions stores }

/-- Stores that can be used again are reopened; otherwise there are new ones. -/
def Manager.buildRenditionsLocked : Job × Manager :=
  if job.sameOutputs then (job.withStores job.stores, manager.note (job.stores.map Event.markLive))
  else
    let count := job.config.renditions.length
    (job.withStores (List.range' manager.nextStore count),
      { manager with nextStore := manager.nextStore + count })

def registrations : List Event :=
  job.renditions.map fun rendition =>
    .registerOutput job.config.application rendition.spec.outputStream rendition.store

def releases : List Event :=
  job.renditions.map fun rendition =>
    .unregisterOutput job.config.application rendition.spec.outputStream

/-- Start a puller on the stores of the job. -/
def Manager.startLocked : Job × Manager :=
  let (job, manager) := manager.buildRenditionsLocked job
  let manager := manager.note (registrations job ++
    [.setRenditions job.config.application job.config.name job.config.renditions,
      .start manager.nextPuller])
  ({ job with
      puller := some manager.nextPuller
      enabled := true
      detailOverride := ""
      restartScheduled := false
      runningSince := none
      restartInProgress := false },
    { manager with
      threads := update manager.threads manager.nextPuller (some { stores := job.stores })
      nextPuller := manager.nextPuller + 1 })

/-- The job without its puller. -/
def Job.detach : Job := { job with puller := none, runningSince := none }

/-- Outputs that stop resolving. -/
def Manager.release (releaseOutputs : Bool) : Manager :=
  if releaseOutputs then manager.note (releases job) else manager

/-- The puller that a call has moved out is destroyed when the lock is
released. -/
def Manager.retire (manager : Manager) (retired : Option ℕ) : Manager :=
  { manager with calls := manager.calls ++ (retired.map Call.retire).toList }

/-! ## Snapshots -/

def statusText : PullerStatus → String
  | .starting => "starting"
  | .running => "running"
  | .error => "error"
  | .stopped => "stopped"

def Manager.describe : String × String :=
  if !job.enabled then ("disabled", job.detailOverride)
  else
    match job.puller.bind manager.threads with
    | none =>
      if job.detailOverride ≠ "" then ("error", job.detailOverride)
      else ("stopped", "")
    | some thread => (statusText thread.status, thread.detail)

def Manager.snapshotLocked : SourceJobSnapshot :=
  let (status, detail) := manager.describe job
  { application := job.config.application
    name := job.config.name
    sourceUrl := job.config.sourceUrl
    templateName := job.config.templateName
    masterHlsPath := manager.masterPath job.config.application job.config.name
    status
    detail
    enabled := job.enabled
    autoRestart := job.config.autoRestart
    restartDelaySeconds := job.config.restartDelaySeconds
    renditions := job.config.renditions }

/-! ## Calls -/

def validate : Except Error Unit :=
  if config.name = [] then .error (jobError "source job requires an output name")
  else if config.sourceUrl = [] then .error (jobError "source job requires a source URL")
  else
    match validateSourceUrl config.sourceUrl with
    | .error error => .error error
    | .ok () =>
      if config.renditions = [] then .error (jobError "source job requires at least one rendition")
      else if config.renditions.any fun spec => spec.outputStream = [] then
        .error (jobError "every rendition needs an output stream name")
      else .ok ()

/-- An existing job of the name leaves the table, and its puller is retired. -/
def Manager.dropJob : Manager :=
  match manager.jobs.lookup key with
  | none => manager
  | some job => { (manager.release job true).retire job.puller with jobs := manager.jobs.erase key }

def Manager.startJob : Job × Manager :=
  let (job, manager) := manager.startLocked job
  (job, { manager with jobs := manager.jobs.insert key job })

def Manager.create : Except Error SourceJobSnapshot × Manager :=
  match validate config with
  | .error error => (.error error, manager)
  | .ok () =>
    let key := keyOf config.application config.name
    let (job, manager) := (manager.dropJob key).startJob key { config }
    (.ok (manager.snapshotLocked job), manager.note [.persist config job.enabled])

def Manager.disable : Job × Manager :=
  let disabled := { job.detach with enabled := false, restartScheduled := false }
  (disabled,
    { (manager.release job true).retire job.puller with
      jobs := manager.jobs.insert key disabled })

def Manager.setEnabled (enabled : Bool) : Except Error SourceJobSnapshot × Manager :=
  let key := keyOf application name
  match manager.jobs.lookup key with
  | none => (.error (jobError "no such source job"), manager)
  | some job =>
    if job.enabled = enabled then (.ok (manager.snapshotLocked job), manager)
    else
      let (job, manager) :=
        if enabled then manager.startJob key { job with restartAttempts := 0 }
        else manager.disable key job
      (.ok (manager.snapshotLocked job), manager.note [.persist job.config job.enabled])

/-- `restart` up to its call of `restart_job`. -/
def Manager.restart : Except Error Unit × Manager :=
  let key := keyOf application name
  match manager.jobs.lookup key with
  | none => (.error (jobError "no such source job"), manager)
  | some job =>
    if !job.enabled then (.error (jobError "job is disabled; enable it first"), manager)
    else
      (.ok (), { manager with
        jobs := manager.jobs.insert key { job with restartAttempts := 0 }
        calls := manager.calls ++ [.request key] })

def Manager.remove : Bool × Manager :=
  let key := keyOf application name
  match manager.jobs.lookup key with
  | none => (false, manager)
  | some _ => (true, (manager.dropJob key).note [.deleteRow application name])

/-! ## The monitor -/

/-- Doubling up to a bound, at most `count` times. -/
def backoff (cap : ℕ) : ℕ → ℕ → ℕ
  | 0, delay => delay
  | count + 1, delay => if delay < cap then backoff cap count (delay * 2) else delay

def restartDelayFor (options : SourceJobOptions) (attempts : ℕ) : ℕ :=
  let base := max config.restartDelaySeconds 1
  let cap := max options.restartBackoffCapSeconds base
  min (backoff cap (min attempts options.maxRestartAttempts) base) cap

/-- The failures of a job are forgiven when its puller has run long enough. -/
def Manager.forgive (now : ℕ) (job : Job) : Job :=
  match job.puller.bind manager.threads with
  | none => job
  | some thread =>
    match thread.status with
    | .running =>
      let since := job.runningSince.getD now
      { job with
        runningSince := some since
        restartAttempts :=
          if manager.options.healthyResetSeconds ≤ now - since then 0
          else job.restartAttempts }
    | .starting => job
    | _ => { job with runningSince := none }

/-- The monitor looks at one job.  A restart that is due is requested. -/
def Manager.scanJob (now : ℕ) (manager : Manager) (key : Bytes) : Manager :=
  match manager.jobs.lookup key with
  | none => manager
  | some job =>
    if !job.enabled || !job.config.autoRestart || job.restartInProgress then manager
    else
      let job := manager.forgive now job
      let failed := (job.puller.bind manager.threads).any fun thread => thread.status = .error
      if failed && !job.restartScheduled then
        { manager with
          jobs := manager.jobs.insert key
            { job with
              restartScheduled := true
              restartAt := now + restartDelayFor job.config manager.options job.restartAttempts } }
      else if job.restartScheduled && job.restartAt ≤ now then
        { manager with
          jobs := manager.jobs.insert key { job with restartAttempts := job.restartAttempts + 1 }
          calls := manager.calls ++ [.request key] }
      else { manager with jobs := manager.jobs.insert key job }

def Manager.scan (now : ℕ) : Manager := manager.jobs.keys.foldl (Manager.scanJob now) manager

/-! ## Outside the lock -/

/-- The first section of `restart_job`. -/
def Manager.beginRestart : Manager :=
  match manager.jobs.lookup key with
  | none => manager
  | some job =>
    if job.restartInProgress || !job.enabled then manager
    else
      { manager with
        jobs := manager.jobs.insert key { job.detach with restartInProgress := true }
        calls := manager.calls ++ [.restart key job.puller] }

/-- The second section of `restart_job`. -/
def Manager.endRestart : Manager :=
  match manager.jobs.lookup key with
  | none => manager
  | some job =>
    if !job.restartInProgress then manager
    else if !job.enabled then
      { manager with jobs := manager.jobs.insert key { job with restartInProgress := false } }
    else (manager.startJob key { job with restartInProgress := false }).2

/-- A puller is destroyed when its thread has returned. -/
def Manager.join : Option Manager :=
  match manager.threads puller with
  | some thread =>
    if thread.ended then some { manager with threads := update manager.threads puller none }
    else none
  | none => none

def Manager.without (i : ℕ) : Manager := { manager with calls := manager.calls.eraseIdx i }

/-- The next action of a call.  A call whose puller's thread has not returned
waits. -/
def Manager.advance (i : ℕ) : Manager :=
  match manager.calls[i]? with
  | none => manager
  | some (.request key) => (manager.without i).beginRestart key
  | some (.restart key none) => (manager.without i).endRestart key
  | some (.restart key (some puller)) =>
    match manager.join puller with
    | none => manager
    | some joined => { joined with calls := joined.calls.set i (.restart key none) }
  | some (.retire puller) =>
    match manager.join puller with
    | none => manager
    | some joined => joined.without i

/-- A puller's thread reports how it does. -/
def Manager.report (status : PullerStatus) (detail : String) : Manager :=
  match manager.threads puller with
  | none => manager
  | some thread =>
    if thread.ended then manager
    else
      { manager with
        threads := update manager.threads puller (some { thread with status, detail }) }

/-- A puller's thread finishes its pipeline and returns.  Unless it has failed,
it flushes what it has and marks its stores as ended. -/
def Manager.finishPipeline : Manager :=
  match manager.threads puller with
  | none => manager
  | some thread =>
    if thread.ended then manager
    else
      let finished :=
        if thread.status = .error then []
        else thread.stores.map (Event.flush puller) ++ thread.stores.map (Event.markEnded puller)
      { manager.note finished with
        threads := update manager.threads puller
          (some { thread with
            ended := true
            status := if thread.status = .error then .error else .stopped }) }

/-! ## Moves -/

inductive Move where
  | create (config : SourceJobConfig)
  | setEnabled (application name : Bytes) (enabled : Bool)
  | restart (application name : Bytes)
  | remove (application name : Bytes)
  | scan (now : ℕ)
  | advance (call : ℕ)
  | report (puller : ℕ) (status : PullerStatus) (detail : String)
  | finishPipeline (puller : ℕ)
deriving DecidableEq

def Manager.step : Move → Manager
  | .create config => (manager.create config).2
  | .setEnabled application name enabled => (manager.setEnabled application name enabled).2
  | .restart application name => (manager.restart application name).2
  | .remove application name => (manager.remove application name).2
  | .scan now => manager.scan now
  | .advance call => manager.advance call
  | .report puller status detail => manager.report puller status detail
  | .finishPipeline puller => manager.finishPipeline puller

end RtmpCore.SourceJobs
