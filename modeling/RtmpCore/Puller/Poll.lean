import RtmpCore.Puller.FetchPool
import RtmpCore.Puller.Playlist

/-!
# The poll loop of the puller

The puller asks for the playlist of its source again and again.  Of each
playlist it collects the segments that it has not seen, fetches them through the
pool, and feeds them to the demultiplexer in playlist order.

One turn of the loop is one step.  What the surroundings contribute to it is in
`Turn`: the answer to the playlist request, the schedule of the pool, the reads
of the running flag, what the demultiplexer makes of the bytes, and whether the
stall detection fires.
-/

namespace RtmpCore.Puller

open RtmpCore.Core

inductive PullerStatus where
  | starting | running | error | stopped
deriving DecidableEq

/-- What the loop does to the pipeline. -/
inductive PipelineEvent (Duration : Type) where
  /-- `mark_discontinuity` on the feed of a rendition. -/
  | markFeed (rendition : ℕ)
  | markTranscoder
  | feed (segment : HlsSegmentRef Duration) (bytes : Bytes)
  | flush
  /-- The final `finish_pipeline`. -/
  | finish (failed : Bool)
deriving DecidableEq

/-- What is fixed for a job. -/
structure PullerConfig where
  renditions : ℕ
  passthrough : Bool
  reresolveEachPoll : Bool
deriving DecidableEq

/-- The loop is at its head, waits for a batch, or has ended. -/
inductive Phase where
  | polling | waiting | done
deriving DecidableEq

/-- The variables of the loop. -/
structure HlsSourcePuller (Duration : Type) where
  pollUrl : Url
  pool : FetchPool
  seen : List UInt64 := []
  lastIngestedSequence : Option UInt64 := none
  firstPlaylistPoll : Bool := true
  consecutiveErrors : ℕ := 0
  transcoder : Bool := false
  status : PullerStatus := .running
  detail : String := "running"
  phase : Phase := .polling
  log : List (PipelineEvent Duration) := []

inductive Stall where
  | input | outputStartup | output
deriving DecidableEq

def Stall.message : Stall → String
  | .input => "source stalled: no media segment progress for 30 seconds"
  | .outputStartup => "transcoder startup stalled: no output segment for 60 seconds"
  | .output => "transcoder stalled: no output segment for 30 seconds"

/-- What happens around one segment: the running flag before it, whether the
demultiplexer delivers a unit for which a transcoder is built, and an error of
the pipeline. -/
structure Demuxing where
  running : Bool := true
  unit : Bool := false
  error : Option Error := none

structure Turn where
  running : Bool := true
  /-- The playlist and the URL it came from. -/
  response : Except Error (Bytes × Url)
  /-- The URL of a fresh resolution of the source. -/
  refreshed : Option Url := none
  moves : List PoolMove := []
  demuxing : ℕ → Demuxing := fun _ => {}
  stall : Option Stall := none

def kInitialLiveEdgeSeconds : ℕ := 35
def kMinInitialLiveEdgeSegments : ℕ := 3
def kSeenSequenceHistory : UInt64 := 64
def kMaxCatchUpSeconds : ℕ := 60

section Loop

variable {Duration : Type} [NatCast Duration]

/-! ## The end of the loop -/

def HlsSourcePuller.finish (puller : HlsSourcePuller Duration) : HlsSourcePuller Duration :=
  { puller with
    log := puller.log ++ [.finish (puller.status = .error)]
    status := if puller.status = .running then .stopped else puller.status
    phase := .done }

def HlsSourcePuller.fail (puller : HlsSourcePuller Duration) (detail : String) :
    HlsSourcePuller Duration :=
  { puller with detail, status := .error }.finish

/-- The stall detection, which ends the loop when it fires. -/
def HlsSourcePuller.detectStall (puller : HlsSourcePuller Duration) (stall : Option Stall) :
    HlsSourcePuller Duration :=
  match stall with
  | some stall => puller.fail stall.message
  | none => puller

def HlsSourcePuller.failPoll (config : PullerConfig)
    (puller : HlsSourcePuller Duration) (turn : Turn) (error : Error) : HlsSourcePuller Duration :=
  let puller :=
    { puller with
      detail := error.message
      pollUrl :=
        if config.reresolveEachPoll then turn.refreshed.getD puller.pollUrl
        else puller.pollUrl
      consecutiveErrors := puller.consecutiveErrors + 1 }
  let errorCeiling := if config.reresolveEachPoll then 20 else 5
  if errorCeiling ≤ puller.consecutiveErrors then { puller with status := .error }.finish
  else puller.detectStall turn.stall

/-! ## What is pending -/

section Seconds

variable [Add Duration] [Sub Duration] [LT Duration] [DecidableLT Duration]
  [LE Duration] [DecidableLE Duration]

variable (playlist : HlsMediaPlaylist Duration)

/-- The length of a segment, or an estimate when the playlist gives none. -/
def segmentSeconds (segment : HlsSegmentRef Duration) : Duration :=
  if ((0 : ℕ) : Duration) < segment.duration then segment.duration
  else if playlist.targetDuration < ((1 : ℕ) : Duration) then ((1 : ℕ) : Duration)
  else playlist.targetDuration

/-- How many segments cover the runway, counted from the live edge. -/
def runwayKeep (playlist : HlsMediaPlaylist Duration) :
    List (HlsSegmentRef Duration) → ℕ → Duration → ℕ
  | [], keep, _ => keep
  | segment :: older, keep, mediaSeconds =>
    let mediaSeconds := mediaSeconds + segmentSeconds playlist segment
    if kMinInitialLiveEdgeSegments ≤ keep + 1 ∧
        ((kInitialLiveEdgeSeconds : ℕ) : Duration) ≤ mediaSeconds then keep + 1
    else runwayKeep playlist older (keep + 1) mediaSeconds

/-- How many segments the first poll of a live source leaves out. -/
def initialSkip : ℕ :=
  if !playlist.endlist ∧ kMinInitialLiveEdgeSegments < playlist.segments.length then
    playlist.segments.length - runwayKeep playlist playlist.segments.reverse 0 ((0 : ℕ) : Duration)
  else 0

/-- The first poll joins a live source at its live edge. -/
def HlsSourcePuller.joinLiveEdge (puller : HlsSourcePuller Duration)
    (playlist : HlsMediaPlaylist Duration) : HlsSourcePuller Duration :=
  if puller.firstPlaylistPoll then
    let skip := initialSkip playlist
    if 0 < skip then
      { puller with
        firstPlaylistPoll := false
        seen := (playlist.segments.take skip).map (fun segment => segment.sequence) ++ puller.seen
        lastIngestedSequence := playlist.segments[skip - 1]?.map fun segment => segment.sequence }
    else { puller with firstPlaylistPoll := false }
  else puller

def pendingOf (seen : List UInt64) (playlist : HlsMediaPlaylist Duration) :
    List (HlsSegmentRef Duration) :=
  playlist.segments.filter fun segment => segment.sequence ∉ seen

/-- How many segments of a backlog are left out. -/
def catchUpSkip (playlist : HlsMediaPlaylist Duration) :
    List (HlsSegmentRef Duration) → Duration → ℕ
  | [], _ => 0
  | segment :: rest, backlogSeconds =>
    if ((kMaxCatchUpSeconds : ℕ) : Duration) < backlogSeconds then
      catchUpSkip playlist rest (backlogSeconds - segmentSeconds playlist segment) + 1
    else 0

def backlogSeconds (pending : List (HlsSegmentRef Duration)) : Duration :=
  pending.foldl (fun seconds segment => seconds + segmentSeconds playlist segment)
    ((0 : ℕ) : Duration)

/-- How many pending segments a poll leaves out to catch up. -/
def skipAhead (initialPoll : Bool) (playlist : HlsMediaPlaylist Duration)
    (pending : List (HlsSegmentRef Duration)) : ℕ :=
  if !initialPoll ∧ !playlist.endlist then
    catchUpSkip playlist pending (backlogSeconds playlist pending)
  else 0

/-- The segments that a poll tries to fetch, when it has marked as seen what it
leaves out. -/
def HlsSourcePuller.collectPending (puller : HlsSourcePuller Duration)
    (playlist : HlsMediaPlaylist Duration) :
    List (HlsSegmentRef Duration) × HlsSourcePuller Duration :=
  let joined := puller.joinLiveEdge playlist
  let pending := pendingOf joined.seen playlist
  let skip := skipAhead puller.firstPlaylistPoll playlist pending
  (pending.drop skip,
    { joined with seen :=
        (pending.take skip).map (fun segment => segment.sequence) ++ joined.seen })

end Seconds

/-! ## Feeding -/

variable (puller : HlsSourcePuller Duration)

def sequenceGap (segment : HlsSegmentRef Duration) : Bool :=
  match puller.lastIngestedSequence with
  | some last => segment.sequence ≠ last + 1
  | none => false

def markFeeds (config : PullerConfig) : List (PipelineEvent Duration) :=
  (List.range config.renditions).map .markFeed

/-- The marks before a segment is fed.  When only the number jumps, a transcoder
smooths the gap and the output segments carry no mark. -/
def marksFor (config : PullerConfig) (puller : HlsSourcePuller Duration)
    (segment : HlsSegmentRef Duration) : List (PipelineEvent Duration) :=
  if segment.discontinuity then
    markFeeds config ++ (if puller.transcoder then [.markTranscoder] else [])
  else if sequenceGap puller segment then
    if puller.transcoder then [.markTranscoder] else markFeeds config
  else []

/-- A segment goes into the demultiplexer, which builds the transcoder with the
first unit unless the job copies. -/
def HlsSourcePuller.feed (config : PullerConfig) (puller : HlsSourcePuller Duration)
    (segment : HlsSegmentRef Duration) (bytes : Bytes) (demuxing : Demuxing) :
    HlsSourcePuller Duration :=
  { puller with
    log := puller.log ++ marksFor config puller segment ++ [.feed segment bytes, .flush]
    transcoder := puller.transcoder || (demuxing.unit && !config.passthrough) }

/-- Feed the batch in order.  Behind a segment that could not be fetched nothing
is fed, so that the next poll tries again from there. -/
def HlsSourcePuller.ingest (config : PullerConfig) (demuxing : ℕ → Demuxing) :
    ℕ → Bool → List (HlsSegmentRef Duration × Body) → HlsSourcePuller Duration →
      HlsSourcePuller Duration
  | _, _, [], puller => puller
  | i, retry, (segment, result) :: rest, puller =>
    if !(demuxing i).running then puller
    else
      match result with
      | .error _ => HlsSourcePuller.ingest config demuxing (i + 1) true rest puller
      | .ok bytes =>
        if retry then HlsSourcePuller.ingest config demuxing (i + 1) true rest puller
        else
          let fed := puller.feed config segment bytes (demuxing i)
          match (demuxing i).error with
          | some error => { fed with detail := error.message, status := .error }
          | none =>
            HlsSourcePuller.ingest config demuxing (i + 1) false rest
              { fed with
                seen := segment.sequence :: fed.seen
                lastIngestedSequence := some segment.sequence }

/-! ## One turn -/

/-- Sequences far below the window are forgotten. -/
def HlsSourcePuller.forget (playlist : HlsMediaPlaylist Duration) : HlsSourcePuller Duration :=
  match playlist.segments.head? with
  | none => puller
  | some oldest =>
    let floor :=
      if kSeenSequenceHistory < oldest.sequence then oldest.sequence - kSeenSequenceHistory
      else 0
    { puller with seen := puller.seen.filter fun sequence => floor ≤ sequence }

/-- What follows the feeding. -/
def HlsSourcePuller.afterBatch
    (playlist : HlsMediaPlaylist Duration) (turn : Turn) : HlsSourcePuller Duration :=
  if puller.status = .error then puller.finish
  else
    let puller := puller.forget playlist
    match turn.stall with
    | some stall => puller.fail stall.message
    | none =>
      if playlist.endlist then { puller with detail := "source ended" }.finish
      else puller

variable [Add Duration] [Sub Duration] [LT Duration] [DecidableLT Duration]
  [LE Duration] [DecidableLE Duration]

variable (network : Network) (config : PullerConfig) (puller : HlsSourcePuller Duration)

/-- The segments of a poll with what their fetches gave. -/
def HlsSourcePuller.fetchPending (playlist : HlsMediaPlaylist Duration) (moves : List PoolMove) :
    Option (List (HlsSegmentRef Duration × Body) × HlsSourcePuller Duration) :=
  let (pending, puller) := puller.collectPending playlist
  (puller.pool.fetchAll network (pending.map fun segment => segment.uri) moves).map
    fun (fetches, pool) => (pending.zip fetches, { puller with pool })

/-- A playlist that can be read. -/
def HlsSourcePuller.ingestPlaylist (playlist : HlsMediaPlaylist Duration) (turn : Turn) :
    HlsSourcePuller Duration :=
  match puller.fetchPending network playlist turn.moves with
  | none => { (puller.collectPending playlist).2 with phase := .waiting }
  | some (batch, puller) =>
    (puller.ingest config turn.demuxing 0 false batch).afterBatch playlist turn

def Turn.playlist (stod : Bytes → Option Duration) (turn : Turn) :
    Option (HlsMediaPlaylist Duration) :=
  match turn.response with
  | .ok (text, url) => some (parseMediaPlaylist stod text url)
  | .error _ => none

def HlsSourcePuller.poll (stod : Bytes → Option Duration)
    (config : PullerConfig) (puller : HlsSourcePuller Duration) (turn : Turn) :
    HlsSourcePuller Duration :=
  if puller.phase ≠ .polling then puller
  else if !turn.running then puller.finish
  else
    match turn.response with
    | .error error => puller.failPoll config turn error
    | .ok (text, url) =>
      let puller := { puller with consecutiveErrors := 0 }
      let playlist := parseMediaPlaylist stod text url
      if !isHlsPlaylist text then
        puller.fail "HLS endpoint stopped returning a valid #EXTM3U playlist"
      else if playlist.unsupportedFeature ≠ "" then puller.fail playlist.unsupportedFeature
      else puller.ingestPlaylist network config playlist turn

/-- The puller at the head of its loop. -/
def HlsSourcePuller.initial (pollUrl : Url) : HlsSourcePuller Duration where
  pollUrl
  pool := FetchPool.create (if config.reresolveEachPoll then 1 else 4)

end Loop

end RtmpCore.Puller
