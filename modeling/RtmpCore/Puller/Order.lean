import RtmpCore.Puller.Poll
import RtmpCore.Support.Frontier
import RtmpCore.Support.Trace

/-!
# The order in which segments are fed

Over all polls of a source that numbers its segments consecutively and never
takes its window back, the puller feeds every segment at most once and in
increasing order, and it marks a discontinuity wherever the numbers jump.

The invariant is that the sequences marked as seen are downward closed above the
start of the last window: what lies above them was never fed.
-/

namespace RtmpCore.Puller

open List

variable {Duration : Type}

/-! ## What was fed -/

/-- The segment that an event feeds, with its bytes. -/
def PipelineEvent.fed : PipelineEvent Duration → Option (HlsSegmentRef Duration × Bytes)
  | .feed segment bytes => some (segment, bytes)
  | _ => none

def fedSegments (log : List (PipelineEvent Duration)) : List (HlsSegmentRef Duration × Bytes) :=
  log.filterMap PipelineEvent.fed

/-- The sequence numbers that were fed, in order. -/
def fedNumbers (log : List (PipelineEvent Duration)) : List ℕ :=
  (fedSegments log).map fun fed => fed.1.sequence.toNat

/-- A discontinuity is marked on every feed, or on the transcoder behind which
the feeds stand. -/
def Marked (config : PullerConfig) (events : List (PipelineEvent Duration)) : Prop :=
  .markTranscoder ∈ events ∨ ∀ rendition < config.renditions, .markFeed rendition ∈ events

/-- The later of two successive segments needs a mark before it. -/
def Broken (first second : HlsSegmentRef Duration) : Prop :=
  second.sequence.toNat ≠ first.sequence.toNat + 1 ∨ second.discontinuity = true

def HlsSourcePuller.seenNumbers (puller : HlsSourcePuller Duration) : Set ℕ :=
  {n | n ∈ puller.seen.map UInt64.toNat}

theorem mem_map_toNat {sequence : UInt64} {sequences : List UInt64} :
    sequence.toNat ∈ sequences.map UInt64.toNat ↔ sequence ∈ sequences :=
  mem_map_of_injective fun _ _ h => UInt64.toNat.inj h

/-- A history in order: increasing numbers, a mark wherever one is due, and the
bytes of the segment's own URL. -/
structure Sound (network : Network) (config : PullerConfig)
    (log : List (PipelineEvent Duration)) : Prop where
  increasing : (fedNumbers log).Pairwise (· < ·)
  marked : ∀ first between second, Trace.Successive PipelineEvent.fed log first between second →
      Broken first.1 second.1 → Marked config between
  own : ∀ fed ∈ fedSegments log, ∃ instant, network fed.1.uri instant = .ok fed.2

/-- A history in order, and what it feeds behind `before` is a front part of a batch,
of which every fetch succeeded. -/
structure Fed (network : Network) (config : PullerConfig) (before : List (PipelineEvent Duration))
    (batch : List (HlsSegmentRef Duration × Body)) (log : List (PipelineEvent Duration)) : Prop
    extends Sound network config log where
  front : ∃ fed, fedSegments log = fedSegments before ++ fed ∧
    (fed.map fun f => (f.1, (.ok f.2 : Body))) <+: batch

/-- A puller that may go on.  Its window never starts below `bound`. -/
structure Ordered (network : Network) (config : PullerConfig) (bound : ℕ)
    (puller : HlsSourcePuller Duration) : Prop where
  sound : Sound network config puller.log
  closed : Frontier.Closed bound puller.seenNumbers
  past : ∀ n ∈ fedNumbers puller.log, n < bound ∨ n ∈ puller.seenNumbers
  last : ∀ fed, (fedSegments puller.log).getLast? = some fed →
    puller.lastIngestedSequence = some fed.1.sequence
  fresh : puller.firstPlaylistPoll = true → fedSegments puller.log = []
  idle : puller.pool.Idle
  status : puller.status ≠ .error

section Log

variable {net : Network} {cfg : PullerConfig} {bound : ℕ}
  {log : List (PipelineEvent Duration)} {puller : HlsSourcePuller Duration}

variable {quiet : List (PipelineEvent Duration)} {seg : HlsSegmentRef Duration}

theorem fedSegments_append_quiet (hquiet : ∀ ev ∈ quiet, ev.fed = none) :
    fedSegments (log ++ quiet) = fedSegments log := by
  rw [fedSegments, filterMap_append, Trace.filterMap_eq_nil hquiet, append_nil]
  rfl

theorem Sound.append_quiet (h : Sound net cfg log) (hquiet : ∀ ev ∈ quiet, ev.fed = none) :
    Sound net cfg (log ++ quiet) := by
  have hfed : fedSegments (log ++ quiet) = fedSegments log := fedSegments_append_quiet hquiet
  constructor
  · rw [fedNumbers, hfed]
    exact h.increasing
  · intro first between second hpair
    exact h.marked first between second (hpair.of_append hquiet)
  · rw [hfed]
    exact h.own

section Fed

variable {before : List (PipelineEvent Duration)} {batch : List (HlsSegmentRef Duration × Body)}

theorem Fed.refl (h : Sound net cfg log) : Fed net cfg log batch log :=
  { h with front := ⟨[], (append_nil _).symm, nil_prefix⟩ }

theorem Fed.finish (h : Fed net cfg before batch puller.log) :
    Fed net cfg before batch puller.finish.log :=
  have hquiet : ∀ ev ∈ [PipelineEvent.finish (puller.status = .error)], ev.fed = none := by
    simp [PipelineEvent.fed]
  { h.toSound.append_quiet hquiet with
    front := by
      rw [HlsSourcePuller.finish, fedSegments_append_quiet hquiet]
      exact h.front }

end Fed

theorem marksFor_subset (cfg : PullerConfig) (puller : HlsSourcePuller Duration)
    (seg : HlsSegmentRef Duration) :
    marksFor cfg puller seg ⊆ markFeeds cfg ++ [.markTranscoder] := by
  unfold marksFor
  cases seg.discontinuity with
  | true =>
    cases puller.transcoder with
    | true => exact List.Subset.refl _
    | false => exact append_subset.mpr ⟨subset_append_left _ _, nofun⟩
  | false =>
    cases sequenceGap puller seg with
    | true =>
      cases puller.transcoder with
      | true => exact subset_append_right _ _
      | false => exact subset_append_left _ _
    | false => exact nofun

theorem fed_marksFor (cfg : PullerConfig) (puller : HlsSourcePuller Duration)
    (seg : HlsSegmentRef Duration) : ∀ ev ∈ marksFor cfg puller seg, ev.fed = none := by
  intro ev hev
  rcases mem_append.mp (marksFor_subset cfg puller seg hev) with
    hmem | hmem
  · obtain ⟨rendition, -, rfl⟩ := mem_map.mp hmem
    rfl
  · rw [mem_singleton.mp hmem]
    rfl

theorem mem_markFeeds {rendition : ℕ} (hrend : rendition < cfg.renditions) :
    PipelineEvent.markFeed rendition ∈ (markFeeds cfg : List (PipelineEvent Duration)) :=
  mem_map_of_mem (mem_range.mpr hrend)

theorem marksFor_marked (cfg : PullerConfig) {last : UInt64}
    (hlast : puller.lastIngestedSequence = some last) (hlt : last.toNat < seg.sequence.toNat)
    (hbrok : seg.sequence.toNat ≠ last.toNat + 1 ∨ seg.discontinuity = true) :
    Marked cfg (marksFor cfg puller seg) := by
  unfold marksFor
  cases hdisc : seg.discontinuity with
  | true =>
    exact .inr fun rendition hrend => mem_append_left _ (mem_markFeeds hrend)
  | false =>
    rw [hdisc] at hbrok
    have hne := hbrok.resolve_right Bool.false_ne_true
    have hgap : sequenceGap puller seg = true := by
      rw [sequenceGap, hlast]
      refine decide_eq_true fun heq => hne ?_
      have hbd := seg.sequence.toNat_lt
      rw [heq]
      exact Nat.mod_eq_of_lt (show last.toNat + 1 < 2 ^ 64 by omega)
    rw [if_pos hgap]
    cases puller.transcoder with
    | true => exact .inl (mem_singleton_self _)
    | false => exact .inr fun rendition => mem_markFeeds

theorem fedSegments_feed (cfg : PullerConfig) (puller : HlsSourcePuller Duration)
    (seg : HlsSegmentRef Duration) (bytes : Bytes) (demuxing : Demuxing) :
    fedSegments (puller.feed cfg seg bytes demuxing).log =
      fedSegments puller.log ++ [(seg, bytes)] := by
  rw [HlsSourcePuller.feed, fedSegments, filterMap_append, ← fedSegments,
    fedSegments_append_quiet (fed_marksFor cfg puller seg)]
  rfl

theorem Sound.feed (h : Sound net cfg puller.log)
    (hlast : ∀ fed, (fedSegments puller.log).getLast? = some fed →
      puller.lastIngestedSequence = some fed.1.sequence) {bytes : Bytes}
    (hlt : ∀ n ∈ fedNumbers puller.log, n < seg.sequence.toNat)
    (hown : ∃ instant, net seg.uri instant = .ok bytes) (demuxing : Demuxing) :
    Sound net cfg (puller.feed cfg seg bytes demuxing).log := by
  have hmarks := fed_marksFor cfg puller seg
  have hfed := fedSegments_feed cfg puller seg bytes demuxing
  constructor
  · rw [fedNumbers, hfed, map_append, pairwise_append]
    refine ⟨h.increasing, pairwise_singleton _ _, ?_⟩
    intro n hn m hm
    rw [map_singleton, mem_singleton] at hm
    rw [hm]
    exact hlt n hn
  · intro first between second hpair hbrok
    have hspl : (puller.feed cfg seg bytes demuxing).log =
        puller.log ++ marksFor cfg puller seg ++ [.feed seg bytes] ++ [.flush] := by
      rw [append_assoc]
      rfl
    rw [hspl] at hpair
    have hflush := hpair.of_append (by simp [PipelineEvent.fed])
    rcases hflush.of_concat with hearl | ⟨hsnd, hfst⟩
    · exact h.marked first between second (hearl.of_append hmarks) hbrok
    · obtain ⟨inner, rfl, hinner⟩ := hfst.of_append hmarks
      obtain rfl : (seg, bytes) = second := Option.some.inj hsnd
      have hmem : first.1.sequence.toNat ∈ fedNumbers puller.log :=
        mem_map_of_mem (mem_of_getLast? hinner.getLast?)
      have hmkd := marksFor_marked cfg (hlast first hinner.getLast?) (hlt _ hmem) hbrok
      exact hmkd.imp (mem_append_right _) fun hall rendition hrend =>
          mem_append_right _ (hall rendition hrend)
  · rw [hfed]
    intro fed hmem
    rcases mem_append.mp hmem with hmem | hmem
    · exact h.own fed hmem
    · rw [mem_singleton.mp hmem]
      exact hown

end Log

/-! ## A batch -/

section Batch

variable {net : Network} {cfg : PullerConfig} {bound : ℕ} {puller : HlsSourcePuller Duration}

/-- The puller that has fed a segment. -/
def HlsSourcePuller.note (puller : HlsSourcePuller Duration) (sequence : UInt64) :
    HlsSourcePuller Duration :=
  { puller with seen := sequence :: puller.seen, lastIngestedSequence := some sequence }

theorem seenNumbers_note (puller : HlsSourcePuller Duration) (sequence : UInt64) :
    (puller.note sequence).seenNumbers = insert sequence.toNat puller.seenNumbers := by
  ext n
  simp only [HlsSourcePuller.seenNumbers, HlsSourcePuller.note, map_cons,
    mem_cons, Set.mem_insert_iff, Set.mem_ofPred_eq]

theorem Ordered.fed_lt (h : Ordered net cfg bound puller) {number : ℕ}
    (hnew : number ∉ puller.seenNumbers) (hbd : bound ≤ number) :
    ∀ n ∈ fedNumbers puller.log, n < number := by
  intro n hn
  rcases h.past n hn with hlt | hseen
  · exact Nat.lt_of_lt_of_le hlt hbd
  · exact h.closed.lt_of_mem hnew hbd hseen

theorem Ordered.feed (h : Ordered net cfg bound puller)
    (hfst : puller.firstPlaylistPoll = false) {seg : HlsSegmentRef Duration}
    {bytes : Bytes} (hnew : seg.sequence.toNat ∉ puller.seenNumbers)
    (hbd : bound ≤ seg.sequence.toNat)
    (hbelow : ∀ n, bound ≤ n → n < seg.sequence.toNat → n ∈ puller.seenNumbers)
    (hown : ∃ instant, net seg.uri instant = .ok bytes) (demuxing : Demuxing) :
    Ordered net cfg bound ((puller.feed cfg seg bytes demuxing).note seg.sequence) := by
  have hfed := fedSegments_feed cfg puller seg bytes demuxing
  have hseen := seenNumbers_note (puller.feed cfg seg bytes demuxing)
  constructor
  · exact h.sound.feed h.last (h.fed_lt hnew hbd) hown demuxing
  · rw [hseen]
    exact h.closed.insert hbelow
  · intro n hn
    rw [hseen]
    change n ∈ (fedSegments (puller.feed cfg seg bytes demuxing).log).map _ at hn
    rw [hfed, map_append, mem_append] at hn
    rcases hn with hn | hn
    · exact (h.past n hn).imp_right .inr
    · rw [map_singleton, mem_singleton] at hn
      exact .inr (.inl hn)
  · intro fed hlast
    change (fedSegments (puller.feed cfg seg bytes demuxing).log).getLast? = some fed at hlast
    rw [hfed, getLast?_concat, Option.some.injEq] at hlast
    rw [← hlast]
    rfl
  · intro htrue
    change puller.firstPlaylistPoll = true at htrue
    rw [hfst] at htrue
    cases htrue
  · exact h.idle
  · exact h.status

theorem ingest_stopped {demuxing : ℕ → Demuxing} {i : ℕ}
    (hrun : (!(demuxing i).running) = true) (retry : Bool)
    (batch : List (HlsSegmentRef Duration × Body)) (puller : HlsSourcePuller Duration) :
    HlsSourcePuller.ingest cfg demuxing i retry batch puller = puller := by
  cases batch with
  | nil => rfl
  | cons attempt rest =>
    obtain ⟨seg, result⟩ := attempt
    cases result with
    | error | ok => rw [HlsSourcePuller.ingest, if_pos hrun]

theorem ingest_retry (cfg : PullerConfig) (demuxing : ℕ → Demuxing) (i : ℕ)
    (batch : List (HlsSegmentRef Duration × Body)) (puller : HlsSourcePuller Duration) :
    HlsSourcePuller.ingest cfg demuxing i true batch puller = puller := by
  induction batch generalizing i with
  | nil => rfl
  | cons attempt rest ih =>
    obtain ⟨seg, result⟩ := attempt
    by_cases hrun : (!(demuxing i).running) = true
    · rw [ingest_stopped hrun]
    · cases result with
      | error | ok =>
        rw [HlsSourcePuller.ingest, if_neg hrun]
        exact ih (i + 1)

/-- Feeding a batch keeps the order, up to an error of the pipeline. -/
theorem Ordered.ingest (h : Ordered net cfg bound puller)
    (hfst : puller.firstPlaylistPoll = false) (demuxing : ℕ → Demuxing) (i : ℕ)
    {batch : List (HlsSegmentRef Duration × Body)} (hready : Frontier.Ready bound puller.seenNumbers
      (batch.map fun attempt => attempt.1.sequence.toNat))
    (hown : ∀ attempt ∈ batch, ∀ bytes, attempt.2 = .ok bytes →
      ∃ instant, net attempt.1.uri instant = .ok bytes) :
    Fed net cfg puller.log batch (HlsSourcePuller.ingest cfg demuxing i false batch puller).log ∧
      ((HlsSourcePuller.ingest cfg demuxing i false batch puller).status ≠ .error →
        Ordered net cfg bound (HlsSourcePuller.ingest cfg demuxing i false batch puller)) := by
  induction batch generalizing i puller with
  | nil => exact ⟨.refl h.sound, fun _ => h⟩
  | cons attempt rest ih =>
    obtain ⟨seg, result⟩ := attempt
    obtain ⟨hnew, hbd, hbelow, hrest⟩ := hready
    obtain ⟨hhead, htail⟩ := forall_mem_cons.mp hown
    by_cases hrun : (!(demuxing i).running) = true
    · rw [ingest_stopped hrun]
      exact ⟨.refl h.sound, fun _ => h⟩
    · cases result with
      | error error =>
        rw [HlsSourcePuller.ingest, if_neg hrun, ingest_retry]
        exact ⟨.refl h.sound, fun _ => h⟩
      | ok bytes =>
        have hfeed := fedSegments_feed cfg puller seg bytes (demuxing i)
        have hsnd := h.sound.feed h.last (h.fed_lt hnew hbd) (hhead bytes rfl) (demuxing i)
        rw [HlsSourcePuller.ingest, if_neg hrun]
        cases (demuxing i).error with
        | some error =>
          have hfront := prefix_append [(seg, (.ok bytes : Body))] rest
          exact ⟨{ hsnd with front := ⟨_, hfeed, hfront⟩ }, fun hstat => absurd rfl hstat⟩
        | none =>
          have hnext := h.feed hfst hnew hbd hbelow (hhead bytes rfl) (demuxing i)
          obtain ⟨hfed, hord⟩ := ih hnext hfst (i + 1) (by rw [seenNumbers_note]; exact hrest) htail
          obtain ⟨fed, hmore, hfront⟩ := hfed.front
          refine ⟨{ hfed with front := ⟨(seg, bytes) :: fed, ?_, ?_⟩ }, hord⟩
          · refine hmore.trans ?_
            change fedSegments (puller.feed cfg seg bytes (demuxing i)).log ++ fed = _
            rw [hfeed, append_assoc]
            rfl
          · exact (prefix_cons_inj _).mpr hfront

end Batch

/-! ## What a poll leaves out -/

section Window

variable {net : Network} {cfg : PullerConfig} {bound : ℕ}
  {puller : HlsSourcePuller Duration} {playlist : HlsMediaPlaylist Duration}

theorem Ordered.raise (h : Ordered net cfg bound puller) {bound' : ℕ}
    (hle : bound ≤ bound') : Ordered net cfg bound' puller :=
  { h with
    closed := h.closed.raise hle
    past := fun n hn => (h.past n hn).imp_left fun hlt => Nat.lt_of_lt_of_le hlt hle }

theorem seenNumbers_skip (puller : HlsSourcePuller Duration) (sequences : List UInt64) :
    { puller with seen := sequences ++ puller.seen }.seenNumbers =
      puller.seenNumbers ∪ {n | n ∈ sequences.map UInt64.toNat} := by
  ext n
  simp only [HlsSourcePuller.seenNumbers, map_append, mem_append]
  exact or_comm

theorem Ordered.skip (h : Ordered net cfg bound puller) {sequences : List UInt64}
    (hcl : Frontier.Closed bound (puller.seenNumbers ∪ {n | n ∈ sequences.map UInt64.toNat})) :
    Ordered net cfg bound { puller with seen := sequences ++ puller.seen } :=
  { h with
    closed := by
      rw [seenNumbers_skip]
      exact hcl
    past := fun n hn => (h.past n hn).imp_right fun hseen => by
      rw [seenNumbers_skip]
      exact .inl hseen }

theorem map_take_numbered (hnum : playlist.Numbered) {count : ℕ}
    (hcnt : count ≤ playlist.segments.length) :
    ((playlist.segments.take count).map fun seg => seg.sequence).map
        UInt64.toNat = List.range' playlist.mediaSequence.toNat count := by
  rw [map_map, map_take]
  change (playlist.segments.map fun seg => seg.sequence.toNat).take count = _
  rw [hnum, take_range'_of_length_ge hcnt]

theorem ready_pendingOf (puller : HlsSourcePuller Duration) (hnum : playlist.Numbered) :
    Frontier.Ready playlist.mediaSequence.toNat puller.seenNumbers
      ((pendingOf puller.seen playlist).map fun seg => seg.sequence.toNat) := by
  have hfilter : (pendingOf puller.seen playlist).map (fun seg => seg.sequence.toNat) =
      (List.range' playlist.mediaSequence.toNat playlist.segments.length).filter
        fun n => n ∉ puller.seen.map UInt64.toNat := by
    rw [← hnum, filter_map]
    congr 1
    apply filter_congr
    intro seg _
    simp only [Function.comp_apply, mem_map_toNat]
  rw [hfilter]
  apply Frontier.ready_filter_range' _ _ _ (Nat.le_refl _)
  · intro n hle hlt
    exact absurd hlt (Nat.not_lt.mpr hle)
  · intro n _
    exact decide_eq_true_iff

variable [NatCast Duration] [Add Duration] [Sub Duration] [LT Duration]
  [DecidableLT Duration] [LE Duration] [DecidableLE Duration]

omit [Sub Duration] in
theorem initialSkip_le (playlist : HlsMediaPlaylist Duration) :
    initialSkip playlist ≤ playlist.segments.length := by
  unfold initialSkip
  split
  · exact Nat.sub_le _ _
  · exact Nat.zero_le _

omit [Sub Duration] in
theorem Ordered.joinLiveEdge (h : Ordered net cfg bound puller) (hnum : playlist.Numbered)
    (hbd : bound ≤ playlist.mediaSequence.toNat) :
    Ordered net cfg playlist.mediaSequence.toNat (puller.joinLiveEdge playlist) ∧
      (puller.joinLiveEdge playlist).firstPlaylistPoll = false := by
  have hrais := h.raise hbd
  unfold HlsSourcePuller.joinLiveEdge
  cases hfst : puller.firstPlaylistPoll with
  | false => exact ⟨hrais, hfst⟩
  | true =>
    have hnone := h.fresh hfst
    rw [if_pos rfl]
    dsimp only
    split
    · have hcl := hrais.closed.union_range' (initialSkip playlist)
      rw [← map_take_numbered hnum (initialSkip_le playlist)] at hcl
      refine ⟨{ hrais.skip hcl with last := ?_, fresh := fun _ => hnone }, rfl⟩
      -- Nothing was fed yet, so there is no last segment.
      intro fed hlast
      rw [hnone] at hlast
      cases hlast
    · exact ⟨{ hrais with fresh := fun _ => hnone }, rfl⟩

theorem Ordered.collectPending (h : Ordered net cfg bound puller) (hnum : playlist.Numbered)
    (hbd : bound ≤ playlist.mediaSequence.toNat) :
    Ordered net cfg playlist.mediaSequence.toNat (puller.collectPending playlist).2 ∧
      (puller.collectPending playlist).2.firstPlaylistPoll = false ∧
      Frontier.Ready playlist.mediaSequence.toNat (puller.collectPending playlist).2.seenNumbers
        ((puller.collectPending playlist).1.map fun seg => seg.sequence.toNat) := by
  obtain ⟨hjoin, hfst⟩ := h.joinLiveEdge hnum hbd
  unfold HlsSourcePuller.collectPending
  dsimp only
  generalize puller.joinLiveEdge playlist = joined at hjoin hfst
  have hready := ready_pendingOf joined hnum
  generalize pendingOf joined.seen playlist = pending at hready
  generalize skipAhead puller.firstPlaylistPoll playlist pending = skip
  obtain ⟨hcl, hrest⟩ := hready.drop hjoin.closed skip
  have htaken : (pending.map fun seg => seg.sequence.toNat).take skip =
      ((pending.take skip).map fun seg => seg.sequence).map UInt64.toNat := by
    rw [map_map, map_take]
    rfl
  rw [htaken] at hcl hrest
  refine ⟨hjoin.skip hcl, hfst, ?_⟩
  rw [seenNumbers_skip, map_drop]
  exact hrest

end Window

end RtmpCore.Puller
