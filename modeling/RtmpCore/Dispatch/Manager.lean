import Mathlib.Data.Finset.Basic
import Mathlib.Data.List.AList
import RtmpCore.Core.ByteOrder
import RtmpCore.Core.Error
import RtmpCore.Support.Text

/-!
# The dispatch manager of transcoder jobs

The jobs that an origin has given to transcoder nodes, and an index from the
streams these jobs publish to the jobs.  Every function here is one section
under the manager's lock.  The node registry's choice, the agent's reply and
the rows of the store are inputs; what is posted to an agent, declared as a
master playlist or saved is not modelled.
-/

namespace RtmpCore.Dispatch

open RtmpCore.Core Text

structure DispatchedRendition where
  name : Bytes := []
  outputStream : Bytes := []
  width : UInt32 := 0
  height : UInt32 := 0
  videoBitrate : UInt32 := 2500000
  audioBitrate : UInt32 := 128000
deriving DecidableEq

structure TranscoderJobConfig where
  application : Bytes := []
  name : Bytes := []
  sourceUrl : Bytes := []
  fps : UInt32 := 30
  renditions : List DispatchedRendition := []
deriving DecidableEq

inductive TranscoderJobState where
  | assigning | running | unassignable | lost | stopped
deriving DecidableEq

structure TranscoderJobStatus where
  application : Bytes
  name : Bytes
  sourceUrl : Bytes
  assignedNodeId : Bytes
  state : TranscoderJobState
  detail : Bytes
  renditions : List DispatchedRendition
deriving DecidableEq

structure Job where
  config : TranscoderJobConfig
  state : TranscoderJobState := .assigning
  detail : Bytes := []
  assignedNodeId : Option Bytes := none
  assignedNodeAddress : Bytes := []
  liveRenditions : Finset Bytes := ∅
deriving DecidableEq

structure TranscoderJobRow where
  application : Bytes
  name : Bytes
  sourceUrl : Bytes
  fps : UInt32
  renditionsJson : Bytes

/-- A node that the registry has chosen, with what comes of posting a job to its
agent: a transport error's message, or a status and a body. -/
structure Placement where
  nodeId : Bytes
  address : Bytes
  response : Except Bytes (ℕ × Bytes)

def jobError (code : ErrorCode) (message : String) : Error := ⟨code, .configuration, message⟩

def keyOf (application name : Bytes) : Bytes := application ++ "/" ++ name

/-! ## Stored renditions -/

/-- The text of a string field of a stored object.  It ends at the next quote,
whatever stands before that. -/
def stringField (object : Bytes) (field : String) : Bytes :=
  let key := "\"" ++ textBytes field ++ "\":\""
  match find key object with
  | none => []
  | some place =>
    let value := object.drop (place + key.length)
    match find "\"" value with
    | none => []
    | some stop => value.take stop

/-- The value of a number field, which wraps around. -/
def numberField (object : Bytes) (field : String) : UInt32 :=
  let key := "\"" ++ textBytes field ++ "\":"
  match find key object with
  | none => 0
  | some place =>
    let digits := (object.drop (place + key.length)).takeWhile fun b => decide (0x30 ≤ b ∧ b ≤ 0x39)
    digits.foldl (fun value b => value * 10 + (b - 0x30).toUInt32) 0

def renditionOf (object : Bytes) : Except Error DispatchedRendition :=
  let rendition : DispatchedRendition :=
    { name := stringField object "name"
      outputStream := stringField object "output_stream"
      width := numberField object "width"
      height := numberField object "height"
      videoBitrate := numberField object "video_bitrate"
      audioBitrate := numberField object "audio_bitrate" }
  if rendition.outputStream = [] then
    .error (jobError .invalidConfiguration
      "stored rendition has no output_stream")
  else .ok rendition

/-- The objects of a text one after another.  Each takes at least the two
braces, so that there are no more of them than bytes. -/
def renditionObjects : ℕ → Bytes → Except Error (List DispatchedRendition)
  | 0, _ => .ok []
  | rounds + 1, json =>
    match find [0x7B] json with
    | none => .ok []
    | some start =>
      let object := json.drop start
      match find [0x7D] object with
      | none =>
        .error (jobError .invalidConfiguration
          "unterminated rendition object")
      | some stop => do
          let rendition ← renditionOf (object.take (stop + 1))
          let rest ← renditionObjects rounds (object.drop (stop + 1))
          return rendition :: rest

def renditionsFromJson (json : Bytes) : Except Error (List DispatchedRendition) := do
  let renditions ← renditionObjects (json.length + 1) json
  if renditions = [] then
    .error (jobError .invalidConfiguration "no renditions found in stored JSON")
  else .ok renditions

/-! ## Jobs -/

namespace Job

variable (job : Job)

def status : TranscoderJobStatus where
  application := job.config.application
  name := job.config.name
  sourceUrl := job.config.sourceUrl
  assignedNodeId := job.assignedNodeId.getD []
  state := job.state
  detail := job.detail
  renditions := job.config.renditions

/-- `dispatch_locked`.  The callers do not look at its result. -/
def dispatch (placement : Placement) : Job :=
  match placement.response with
  | .error message =>
    { job with state := .unassignable, detail := "agent unreachable: " ++ message }
  | .ok (status, body) =>
    if status / 100 ≠ 2 then
      { job with
        state := .unassignable
        detail := "agent rejected the job (HTTP " ++ textBytes (toString status) ++ "): " ++ body }
    else
      { job with
        assignedNodeId := some placement.nodeId
        assignedNodeAddress := placement.address
        state := .assigning
        detail := "assigned to " ++ placement.nodeId ++ "; waiting for renditions to publish" }

/-- A stream of the job has begun or ceased to be published. -/
def notePublishState (stream : Bytes) (live : Bool) : Job :=
  if live then
    let noted := { job with liveRenditions := insert stream job.liveRenditions }
    if job.state = .assigning ∨ job.state = .lost then
      { noted with state := .running, detail := "running on " ++ job.assignedNodeId.getD "?" }
    else noted
  else
    let noted := { job with liveRenditions := job.liveRenditions.erase stream }
    if job.state = .running ∧ noted.liveRenditions = ∅ then
      { noted with state := .lost, detail := "every rendition stopped publishing" }
    else noted

/-- Where a job is posted again: one without a node, or one that was lost, goes
to the node that the registry has, if it has one. -/
def target (placement : Option Placement) : Option Placement :=
  if job.state ≠ .unassignable ∧ job.state ≠ .lost then none else placement

def retry (placement : Option Placement) : Job := (job.target placement).elim job job.dispatch

@[simp] theorem config_dispatch (placement : Placement) :
    (job.dispatch placement).config = job.config := by
  unfold dispatch
  split
  · rfl
  · split_ifs <;> rfl

theorem config_notePublishState (stream : Bytes)
    (live : Bool) : (job.notePublishState stream live).config = job.config := by
  unfold notePublishState
  dsimp only
  split_ifs <;> rfl

theorem config_retry (placement : Option Placement) :
    (job.retry placement).config = job.config := by
  unfold retry
  cases job.target placement with
  | none => rfl
  | some placement => exact job.config_dispatch placement

/-- A job as it comes from the store. -/
def restored (row : TranscoderJobRow) (renditions : List DispatchedRendition) : Job where
  config :=
    { application := row.application
      name := row.name
      sourceUrl := row.sourceUrl
      fps := row.fps
      renditions }
  state := .unassignable
  detail := textBytes
    "restored after a control-plane restart; awaiting a transcoder node"

/-- The keys under which the streams of a job are indexed. -/
def paths : List Bytes :=
  job.config.renditions.map fun r => keyOf job.config.application r.outputStream

end Job

/-! ## The manager -/

structure TranscoderDispatchManager where
  jobs : AList (fun _ : Bytes => Job) := ∅
  renditionIndex : AList (fun _ : Bytes => Bytes) := ∅

def TranscoderJobConfig.fault (config : TranscoderJobConfig) : Option Error :=
  let invalid := fun message => some (jobError .invalidConfiguration message)
  if config.application = [] ∨ config.name = [] then invalid "application and name are required"
  else if config.sourceUrl = [] then invalid "source_url is required"
  else if config.renditions = [] then invalid "at least one rendition is required"
  else
    -- the renditions are looked at one after another
    match config.renditions.find? fun r =>
        r.outputStream = [] ∨ r.outputStream = config.name with
    | some r =>
      if r.outputStream = [] then invalid "every rendition needs an output_stream"
      else invalid "a rendition may not reuse the job name"
    | none =>
      if (config.renditions.map (·.outputStream)).Nodup then none
      else invalid "two renditions share one output_stream"

namespace TranscoderDispatchManager

variable (m : TranscoderDispatchManager)

/-- The streams of a job are indexed and the job is held. -/
def hold (key : Bytes) (job : Job) : TranscoderDispatchManager :=
  { jobs := m.jobs.insert key job
    renditionIndex := job.paths.foldl (fun index path => index.insert path key) m.renditionIndex }

def create (config : TranscoderJobConfig) (placement : Option Placement) :
    TranscoderDispatchManager × Except Error TranscoderJobStatus :=
  match config.fault with
  | some error => (m, .error error)
  | none =>
    let key := keyOf config.application config.name
    if (m.jobs.lookup key).isSome then
      (m, .error (jobError .conflict
        "a job with this application/name already exists"))
    else
      let job : Job :=
        match placement with
        | some placement => Job.dispatch { config } placement
        | none =>
          { config, state := .unassignable, detail := "no healthy transcoder node available" }
      (m.hold key job, .ok job.status)

/-- `remove` up to the calls of the store and of the agent.  The index is
cleared under the name the caller gives. -/
def remove (application name : Bytes) : TranscoderDispatchManager × Except Error Unit :=
  match m.jobs.lookup (keyOf application name) with
  | none => (m, .error (jobError .notFound "no such transcoder job"))
  | some job =>
    ({ jobs := m.jobs.erase (keyOf application name)
       renditionIndex := job.config.renditions.foldl
         (fun index r => index.erase (keyOf application r.outputStream))
         m.renditionIndex }, .ok ())

def isExpectedPublish (application stream : Bytes) : Bool :=
  (m.renditionIndex.lookup (keyOf application stream)).isSome

/-- Change a job if there is one under the key. -/
def updateJob (key : Bytes) (f : Job → Job) : TranscoderDispatchManager :=
  match m.jobs.lookup key with
  | none => m
  | some job => { m with jobs := m.jobs.insert key (f job) }

def notePublishState (application stream : Bytes) (live : Bool) : TranscoderDispatchManager :=
  match m.renditionIndex.lookup (keyOf application stream) with
  | none => m
  | some key => m.updateJob key fun job => job.notePublishState stream live

/-- The registry is asked for every job by itself. -/
def retryUnassigned (placements : Bytes → Option Placement) : TranscoderDispatchManager :=
  m.jobs.keys.foldl (fun m key => m.updateJob key fun job => job.retry (placements key)) m

/-- A row whose renditions cannot be read is skipped; another one replaces the
job of its name. -/
def loadRow (row : TranscoderJobRow) : TranscoderDispatchManager :=
  match renditionsFromJson row.renditionsJson with
  | .error _ => m
  | .ok renditions => m.hold (keyOf row.application row.name) (.restored row renditions)

/-- The store may fail to give its rows. -/
def loadFromStore (rows : Option (List TranscoderJobRow)) : TranscoderDispatchManager :=
  (rows.getD []).foldl loadRow m

end TranscoderDispatchManager

inductive Call where
  | create (config : TranscoderJobConfig) (placement : Option Placement)
  | remove (application name : Bytes)
  | notePublishState (application stream : Bytes) (live : Bool)
  | retryUnassigned (placements : Bytes → Option Placement)
  | loadFromStore (rows : Option (List TranscoderJobRow))

def TranscoderDispatchManager.perform (m : TranscoderDispatchManager) :
    Call → TranscoderDispatchManager
  | .create config placement => (m.create config placement).1
  | .remove application name => (m.remove application name).1
  | .notePublishState application stream live => m.notePublishState application stream live
  | .retryUnassigned placements => m.retryUnassigned placements
  | .loadFromStore rows => m.loadFromStore rows

end RtmpCore.Dispatch
