import Mathlib.Data.List.Sort
import RtmpCore.Core.Error
import RtmpCore.Support.Lookup
import RtmpCore.Support.Selection

/-!
# The node registry

Membership and placement of the cluster.  Nodes announce themselves by
heartbeats and are forgotten when they stay silent; a viewer is sent to the least
loaded node that can take one.

Every function is one section under the registry's lock.  Its view of time is an
argument; a difference of two times is taken in 64 bits.  The store, the listing
and the aggregates are left out, and so is a node's load as a floating point
number, which placement does not look at.
-/

namespace RtmpCore.Cluster

open RtmpCore.Core Selection AList

inductive NodeRole where
  | origin | edge | shield | transcoder
deriving DecidableEq

namespace NodeRole

def toText : NodeRole → String
  | origin => "origin"
  | edge => "edge"
  | shield => "shield"
  | transcoder => "transcoder"

def parse (text : String) : Option NodeRole :=
  if text = "origin" then some origin
  else if text = "edge" then some edge
  else if text = "shield" then some shield
  else if text = "transcoder" then some transcoder
  else none

end NodeRole

/-- What a node reports about itself. -/
structure NodeHeartbeat where
  id : List UInt8
  role : NodeRole := .edge
  address : List UInt8 := []
  region : List UInt8 := []
  capacityViewers : UInt32 := 0
  activeViewers : UInt32 := 0
  activePublishers : UInt32 := 0
  draining : Bool := false
deriving DecidableEq

/-- A row of the table, as it is also stored. -/
structure ClusterNodeRow where
  id : List UInt8
  role : String
  address : List UInt8 := []
  region : List UInt8 := []
  lastSeenUnix : Int64 := 0
  capacityViewers : UInt32 := 0
  activeViewers : UInt32 := 0
  activePublishers : UInt32 := 0
  draining : Bool := false
  forcedDraining : Bool := false
deriving DecidableEq

structure NodeStatus where
  id : List UInt8
  role : NodeRole
  address : List UInt8
  region : List UInt8
  lastSeenUnix : Int64
  capacityViewers : UInt32
  activeViewers : UInt32
  activePublishers : UInt32
  draining : Bool
  healthy : Bool
  secondsSinceSeen : Int64
deriving DecidableEq

structure NodeRegistryOptions where
  heartbeatTimeout : Int64 := 30
  forgetAfter : Int64 := 86400
deriving DecidableEq

/-- A row is kept under its own id. -/
structure NodeRegistry where
  options : NodeRegistryOptions := {}
  nodes : AList (fun _ : List UInt8 => ClusterNodeRow) := ∅
  forcedDraining : AList (fun _ : List UInt8 => Bool) := ∅
  placementCursor : UInt64 := 0
  keyed : ∀ id row, nodes.lookup id = some row → row.id = id := by
    intro id row hrow
    cases hrow

def nodeError (code : ErrorCode) (message : String) : Error := ⟨code, .configuration, message⟩

def validId (id : List UInt8) : Bool :=
  id ≠ [] && decide (id.length ≤ 64) && id.all fun c =>
      decide (0x61 ≤ c ∧ c ≤ 0x7A ∨ 0x41 ≤ c ∧ c ≤ 0x5A ∨ 0x30 ≤ c ∧ c ≤ 0x39 ∨
        c = 0x2D ∨ c = 0x5F ∨ c = 0x2E)

def validField (value : List UInt8) (limit : ℕ) : Bool :=
  decide (value.length ≤ limit) && value.all fun c => decide (0x20 ≤ c)

namespace NodeRegistry

variable (r : NodeRegistry)

/-- A node drains when it says so itself or when it was told to.  A heartbeat from
the future counts as fresh. -/
def statusOf (row : ClusterNodeRow) (nowUnix : Int64) : NodeStatus :=
  let secondsSinceSeen := max 0 (nowUnix - row.lastSeenUnix)
  { id := row.id
    role := (NodeRole.parse row.role).getD .edge
    address := row.address
    region := row.region
    lastSeenUnix := row.lastSeenUnix
    capacityViewers := row.capacityViewers
    activeViewers := row.activeViewers
    activePublishers := row.activePublishers
    draining := row.draining || r.forcedDraining.lookup row.id = some true
    healthy := secondsSinceSeen ≤ r.options.heartbeatTimeout
    secondsSinceSeen }

/-! ## Membership -/

def put (row : ClusterNodeRow) : NodeRegistry :=
  { r with
    nodes := r.nodes.insert row.id row
    keyed := by
      intro id row' hrow
      rcases eq_or_ne id row.id with rfl | hne
      · rw [lookup_insert] at hrow
        exact (congrArg ClusterNodeRow.id (Option.some.inj hrow)).symm
      · rw [lookup_insert_ne hne] at hrow
        exact r.keyed id row' hrow }

def drop (ids : List (List UInt8)) : NodeRegistry :=
  { r with
    nodes := ids.foldl (fun nodes id => nodes.erase id) r.nodes
    forcedDraining := ids.foldl (fun forced id => forced.erase id) r.forcedDraining
    keyed := by
      intro id row hrow
      rw [Table.lookup_foldl_erase] at hrow
      split_ifs at hrow
      exact r.keyed id row hrow }

/-- Rows that have been silent for too long go, with their orders to drain. -/
def expire (nowUnix : Int64) : NodeRegistry :=
  r.drop ((r.nodes.entries.filter fun entry =>
    decide (r.options.forgetAfter < nowUnix - entry.2.lastSeenUnix)).map Sigma.fst)

/-- Stored rows are taken in; a row with a role that is not known is left out. -/
def loadFromStore (rows : List ClusterNodeRow) : NodeRegistry :=
  rows.foldl (fun r row =>
      if (NodeRole.parse row.role).isNone then r
      else { r.put row with forcedDraining := r.forcedDraining.insert row.id row.forcedDraining })
    r

def heartbeat (beat : NodeHeartbeat) (nowUnix : Int64) : Except Error (NodeStatus × NodeRegistry) :=
  if !validId beat.id then
    .error (nodeError .invalidConfiguration
      "node id must be 1-64 characters of [A-Za-z0-9._-]")
  else if !validField beat.address 253 || !validField beat.region 64 then
    .error (nodeError .invalidConfiguration
      "node address or region is too long or contains control characters")
  else
    let row : ClusterNodeRow :=
      { id := beat.id
        role := beat.role.toText
        address := beat.address
        region := beat.region
        lastSeenUnix := nowUnix
        capacityViewers := beat.capacityViewers
        activeViewers := beat.activeViewers
        activePublishers := beat.activePublishers
        draining := beat.draining }
    let r := (r.expire nowUnix).put row
    .ok (r.statusOf row nowUnix, r)

def remove (id : List UInt8) : Except Error NodeRegistry :=
  if id ∈ r.nodes then .ok (r.drop [id])
  else .error (nodeError .notFound "no such cluster node")

def setForcedDraining (id : List UInt8) (draining : Bool)
    (nowUnix : Int64) : Except Error (NodeStatus × NodeRegistry) :=
  match r.nodes.lookup id with
  | none => .error (nodeError .notFound "no such cluster node")
  | some row =>
    let r := { r with forcedDraining := r.forcedDraining.insert id draining }
    .ok (r.statusOf row nowUnix, r)

/-! ## Placement -/

/-- Shields and transcoders serve no viewers; a sized node may be full. -/
def mayServe (node : NodeStatus) : Bool :=
  node.healthy && !node.draining && (node.role = .edge || node.role = .origin) &&
    (node.capacityViewers = 0 || decide (node.activeViewers < node.capacityViewers))

def statuses (nowUnix : Int64) : List NodeStatus :=
  r.nodes.entries.map fun entry => r.statusOf entry.2 nowUnix

/-- A product of two 32-bit counts, taken in 64 bits. -/
def crossProduct (count size : UInt32) : UInt64 := count.toUInt64 * size.toUInt64

/-- The load of two candidates: as ratios if they are sized. -/
def compareLoad (sized : Bool) (candidate current : NodeStatus) : Ordering :=
  if sized then
    let candidateRatio := crossProduct candidate.activeViewers current.capacityViewers
    let currentRatio := crossProduct current.activeViewers candidate.capacityViewers
    if candidateRatio < currentRatio then .lt
    else if candidateRatio > currentRatio then .gt else .eq
  else if candidate.activeViewers < current.activeViewers then .lt
  else if candidate.activeViewers > current.activeViewers then .gt else .eq

/-- The candidates that tie for the placement of a viewer, in the order of their
ids. -/
def tied (regionHint : List UInt8) (nowUnix : Int64) : List NodeStatus :=
  let eligible := (r.statuses nowUnix).filter mayServe
  let eligible :=
    if regionHint = [] then eligible
    else prefer (fun node => node.region = regionHint) eligible
  let eligible := prefer (fun node => node.role = .edge) eligible
  let hasSizedNode := eligible.any fun node => node.capacityViewers ≠ 0
  let eligible := prefer (fun node => node.capacityViewers ≠ 0) eligible
  (runningLeast (compareLoad hasSizedNode) eligible).insertionSort fun a b => a.id ≤ b.id

/-- The cursor moves only when there was a node to choose. -/
def locate (regionHint : List UInt8) (nowUnix : Int64) : Option NodeStatus × NodeRegistry :=
  match r.tied regionHint nowUnix with
  | [] => (none, r)
  | leastLoaded =>
    (leastLoaded[r.placementCursor.toNat % leastLoaded.length]?,
      { r with placementCursor := r.placementCursor + 1 })

end NodeRegistry

end RtmpCore.Cluster
