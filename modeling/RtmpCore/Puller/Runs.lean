import RtmpCore.Puller.Order

/-!
# Runs of the puller

A turn of the poll loop keeps the history in order, and so does every run over
playlists that are numbered consecutively and whose windows never go back.
-/

namespace RtmpCore.Puller

open RtmpCore.Core List

variable {Duration : Type}

/-! ## One poll -/

section Polls

variable {net : Network} {cfg : PullerConfig} {bound : ℕ}
  {puller : HlsSourcePuller Duration} {playlist : HlsMediaPlaylist Duration}

theorem Ordered.forget (h : Ordered net cfg playlist.mediaSequence.toNat puller)
    (hnum : playlist.Numbered) :
    Ordered net cfg playlist.mediaSequence.toNat (puller.forget playlist) := by
  unfold HlsSourcePuller.forget
  cases hhead : playlist.segments.head? with
  | none => exact h
  | some oldest =>
    dsimp only
    generalize hfloor : (if kSeenSequenceHistory < oldest.sequence then
      oldest.sequence - kSeenSequenceHistory else 0) = floor
    have holdest : oldest.sequence.toNat = playlist.mediaSequence.toNat := by
      obtain ⟨rest, hsegs⟩ := head?_eq_some_iff.mp hhead
      have hfst := hnum
      rw [HlsMediaPlaylist.Numbered, hsegs, map_cons, length_cons,
        range'_succ, List.cons.injEq] at hfst
      exact hfst.1
    have hle : floor.toNat ≤ playlist.mediaSequence.toNat := by
      rw [← hfloor, ← holdest]
      split
      next hlt =>
        rw [UInt64.toNat_sub_of_le _ _ (UInt64.le_of_lt hlt)]
        exact Nat.sub_le _ _
      · exact Nat.zero_le _
    have hseen : { puller with
        seen := puller.seen.filter fun sequence => floor ≤ sequence }.seenNumbers =
        {n ∈ puller.seenNumbers | floor.toNat ≤ n} := by
      ext n
      simp only [HlsSourcePuller.seenNumbers, mem_map, mem_filter, decide_eq_true_eq]
      constructor
      · rintro ⟨sequence, ⟨hmem, hfloor⟩, rfl⟩
        exact ⟨⟨sequence, hmem, rfl⟩, hfloor⟩
      · rintro ⟨⟨sequence, hmem, rfl⟩, hfloor⟩
        exact ⟨sequence, ⟨hmem, hfloor⟩, rfl⟩
    refine { h with closed := ?_, past := ?_ }
    · rw [hseen]
      exact h.closed.forget hle
    · intro n hn
      rw [hseen]
      by_cases hlt : n < playlist.mediaSequence.toNat
      · exact .inl hlt
      · refine .inr ⟨(h.past n hn).resolve_left hlt, ?_⟩
        omega

/-- The order of a puller that may have come to its end. -/
structure Tracked (network : Network) (config : PullerConfig) (bound : ℕ)
    (before : List (PipelineEvent Duration)) (tried : List (HlsSegmentRef Duration × Body))
    (puller : HlsSourcePuller Duration) : Prop where
  fed : Fed network config before tried puller.log
  ordered : puller.phase = .polling → Ordered network config bound puller

variable {before : List (PipelineEvent Duration)} {tried : List (HlsSegmentRef Duration × Body)}

theorem tracked_initial (net : Network) (cfg : PullerConfig) (pollUrl : Url) :
    Tracked net cfg 0 [] [] (HlsSourcePuller.initial cfg pollUrl : HlsSourcePuller Duration) := by
  have hsnd : Sound net cfg ([] : List (PipelineEvent Duration)) := by
    refine ⟨List.Pairwise.nil, ?_, nofun⟩
    rintro first between second ⟨before, ev, after, hlog, -⟩
    exact absurd hlog.symm (append_ne_nil_of_right_ne_nil _ (cons_ne_nil _ _))
  exact ⟨.refl hsnd, fun _ => ⟨hsnd, nofun, nofun, nofun, fun _ => rfl, fun _ => rfl, nofun⟩⟩

theorem Tracked.finish (h : Fed net cfg before tried puller.log) :
    Tracked net cfg bound before tried puller.finish :=
  ⟨h.finish, nofun⟩

theorem Tracked.fail (h : Fed net cfg before tried puller.log) (detail : String) :
    Tracked net cfg bound before tried (puller.fail detail) :=
  ⟨Fed.finish h, nofun⟩

theorem Tracked.failPoll (h : Ordered net cfg bound puller) (turn : Turn) (error : Error) :
    Tracked net cfg bound puller.log tried (puller.failPoll cfg turn error) := by
  have hfed : Fed net cfg puller.log tried puller.log := .refl h.sound
  unfold HlsSourcePuller.failPoll
  by_cases hceil : (if cfg.reresolveEachPoll then 20 else 5) ≤ puller.consecutiveErrors + 1
  · rw [if_pos hceil]
    exact .finish hfed
  · rw [if_neg hceil]
    cases turn.stall with
    | none => exact ⟨hfed, fun _ => { h with }⟩
    | some stall =>
      apply Tracked.fail
      exact hfed

theorem Tracked.afterBatch (hnum : playlist.Numbered) (hfed : Fed net cfg before tried puller.log)
    (h : puller.status ≠ .error →
      Ordered net cfg playlist.mediaSequence.toNat puller) (turn : Turn) :
    Tracked net cfg playlist.mediaSequence.toNat before tried
      (puller.afterBatch playlist turn) := by
  have hlog : (puller.forget playlist).log = puller.log := by
    unfold HlsSourcePuller.forget
    cases playlist.segments.head? with
    | none | some => rfl
  unfold HlsSourcePuller.afterBatch
  by_cases hstat : puller.status = .error
  · rw [if_pos hstat]
    exact .finish hfed
  · rw [← hlog] at hfed
    rw [if_neg hstat]
    cases turn.stall with
    | some stall => exact .fail hfed stall.message
    | none =>
      dsimp only
      split
      · exact .finish hfed
      · exact ⟨hfed, fun _ => (h hstat).forget hnum⟩

variable [NatCast Duration] [Add Duration] [Sub Duration] [LT Duration]
  [DecidableLT Duration] [LE Duration] [DecidableLE Duration]

theorem log_collectPending (puller : HlsSourcePuller Duration)
    (playlist : HlsMediaPlaylist Duration) :
    (puller.collectPending playlist).2.log = puller.log := by
  unfold HlsSourcePuller.collectPending HlsSourcePuller.joinLiveEdge
  dsimp only
  split
  · split
    · rfl
    · rfl
  · rfl

theorem Tracked.ingestPlaylist (h : Ordered net cfg bound puller) (hnum : playlist.Numbered)
    (hbd : bound ≤ playlist.mediaSequence.toNat) (turn : Turn) :
    Tracked net cfg playlist.mediaSequence.toNat puller.log
      ((puller.fetchPending net playlist turn.moves).elim [] Prod.fst)
      (puller.ingestPlaylist net cfg playlist turn) := by
  obtain ⟨hpend, hfst, hready⟩ := h.collectPending hnum hbd
  rw [← log_collectPending puller playlist]
  unfold HlsSourcePuller.ingestPlaylist HlsSourcePuller.fetchPending
  dsimp only
  generalize puller.collectPending playlist = collected at hpend hfst hready
  obtain ⟨pending, joined⟩ := collected
  cases hfetch : joined.pool.fetchAll net (pending.map fun seg => seg.uri) turn.moves with
  | none => exact ⟨.refl hpend.sound, nofun⟩
  | some fetched =>
    obtain ⟨fetches, pool⟩ := fetched
    obtain ⟨hidle, hlen, hanswers⟩ := hpend.idle.fetchAll hfetch
    rw [length_map] at hlen
    have hfetched : Ordered net cfg playlist.mediaSequence.toNat { joined with pool } :=
      { hpend with idle := hidle }
    have hnumbers : (pending.zip fetches).map (fun attempt => attempt.1.sequence.toNat) =
        pending.map fun seg => seg.sequence.toNat := by
      rw [← map_fst_zip (Nat.le_of_eq hlen.symm), map_map, map_fst_zip (Nat.le_of_eq hlen.symm)]
      rfl
    obtain ⟨hfed, hord⟩ := hfetched.ingest hfst turn.demuxing 0
      (by rw [hnumbers]; exact hready) fun attempt hatt bytes hby => by
        obtain ⟨i, hi⟩ := mem_iff_getElem?.mp hatt
        obtain ⟨hseg, hbody⟩ := getElem?_zip_eq_some.mp hi
        apply hanswers i attempt.1.uri bytes
        · rw [getElem?_map, hseg]
          rfl
        · rw [hbody, hby]
    exact .afterBatch hnum hfed hord turn

/-- The segments that a turn tries to fetch, in playlist order, with what came of
it. -/
def HlsSourcePuller.batch (network : Network) (stod : Bytes → Option Duration)
    (puller : HlsSourcePuller Duration) (turn : Turn) : List (HlsSegmentRef Duration × Body) :=
  match turn.playlist stod with
  | none => []
  | some playlist =>
    ({ puller with consecutiveErrors := 0 }.fetchPending network playlist
      turn.moves).elim [] Prod.fst

/-- A turn keeps the order, when its playlist is numbered and its window does not
go back. -/
theorem Tracked.poll (h : Tracked net cfg bound before tried puller)
    (stod : Bytes → Option Duration) (turn : Turn) (hpl : ∀ playlist ∈ turn.playlist stod,
      playlist.Numbered ∧ bound ≤ playlist.mediaSequence.toNat) :
    Tracked net cfg ((turn.playlist stod).elim bound fun playlist => playlist.mediaSequence.toNat)
      puller.log (puller.batch net stod turn) (puller.poll net stod cfg turn) := by
  have hsnd := h.fed.toSound
  unfold HlsSourcePuller.poll
  by_cases hphase : puller.phase ≠ .polling
  · rw [if_pos hphase]
    exact ⟨.refl hsnd, fun hpolling => absurd hpolling hphase⟩
  · rw [if_neg hphase]
    have hord := h.ordered (not_not.mp hphase)
    cases turn.running with
    | false => exact .finish (.refl hsnd)
    | true =>
      unfold HlsSourcePuller.batch
      unfold Turn.playlist at hpl ⊢
      rw [if_neg (by decide)]
      cases hresp : turn.response with
      | error error => exact .failPoll hord turn error
      | ok answer =>
        rw [hresp] at hpl
        obtain ⟨hnum, hbd⟩ := hpl _ rfl
        dsimp only [Option.elim_some]
        have hreset : Ordered net cfg bound { puller with consecutiveErrors := 0 } := { hord with }
        split
        · exact .fail (.refl hreset.sound) _
        · split
          · exact .fail (.refl hreset.sound) _
          · exact .ingestPlaylist hreset hnum hbd turn

/-- Every run over numbered playlists whose windows never go back keeps the
order, and may go on with what is to come. -/
theorem Tracked.run (h : Tracked net cfg bound before tried puller)
    (stod : Bytes → Option Duration) (turns later : List Turn)
    (hpl : ∀ playlist ∈ (turns ++ later).filterMap (Turn.playlist stod),
      playlist.Numbered ∧ bound ≤ playlist.mediaSequence.toNat)
    (hfwd : ((turns ++ later).filterMap (Turn.playlist stod)).Pairwise
      fun earlier later => earlier.mediaSequence ≤ later.mediaSequence) :
    ∃ bound before tried, Tracked net cfg bound before tried
        (Run.run (HlsSourcePuller.poll net stod cfg) puller turns) ∧
      ∀ playlist ∈ later.filterMap (Turn.playlist stod),
        playlist.Numbered ∧ bound ≤ playlist.mediaSequence.toNat := by
  induction turns generalizing puller bound before tried with
  | nil => exact ⟨bound, before, tried, h, hpl⟩
  | cons turn rest ih =>
    have hstep := h.poll stod turn
    rw [cons_append] at hpl hfwd
    cases hplaylist : turn.playlist stod with
    | none =>
      rw [filterMap_cons_none hplaylist] at hpl hfwd
      rw [hplaylist] at hstep
      exact ih (hstep nofun) hpl hfwd
    | some playlist =>
      rw [filterMap_cons_some hplaylist] at hpl hfwd
      rw [hplaylist] at hstep
      obtain ⟨hhead, htail⟩ := forall_mem_cons.mp hpl
      obtain ⟨hlater, hrest⟩ := pairwise_cons.mp hfwd
      apply ih (hstep fun _ heq => Option.some.inj heq ▸ hhead) ?_ hrest
      exact fun later hmem => ⟨(htail later hmem).1, UInt64.le_iff_toNat_le.mp (hlater later hmem)⟩

/-- Over every run of polls whose playlists number their segments consecutively
and never take the window back, and for all answers of the network and schedules
of the pool: the numbers that are fed increase strictly; every segment is fed with
bytes of its own URL; a poll feeds a front part of what it tried to fetch, and
nothing from the first failed fetch on; and between two segments that were fed one
after the other there is a mark when their numbers are not consecutive or the
later one is marked as discontinuous. -/
theorem run_fed_in_order (network : Network) (stod : List UInt8 → Option Duration)
    (config : PullerConfig) (pollUrl : Url) (turns : List Turn)
    (hnumbered : ∀ playlist ∈ turns.filterMap (Turn.playlist stod), playlist.Numbered)
    (hforward : (turns.filterMap (Turn.playlist stod)).Pairwise
      fun earlier later => earlier.mediaSequence ≤ later.mediaSequence) :
    let run := fun turns => Run.run (HlsSourcePuller.poll network stod config)
      (HlsSourcePuller.initial config pollUrl) turns
    (fedNumbers (run turns).log).Pairwise (· < ·) ∧ (∀ fed ∈ fedSegments (run turns).log,
        ∃ instant, network fed.1.uri instant = .ok fed.2) ∧
      (∀ before turn after, turns = before ++ turn :: after →
        ∃ fed, fedSegments (run (before ++ [turn])).log = fedSegments (run before).log ++ fed ∧
          (fed.map fun f => (f.1, (.ok f.2 : Body))) <+: (run before).batch network stod turn) ∧
      ∀ first between second,
        Trace.Successive PipelineEvent.fed (run turns).log first between second →
          second.1.sequence.toNat ≠ first.1.sequence.toNat + 1 ∨
            second.1.discontinuity = true → Marked config between := by
  have hpl : ∀ playlist ∈ turns.filterMap (Turn.playlist stod),
      playlist.Numbered ∧ 0 ≤ playlist.mediaSequence.toNat :=
    fun playlist hmem => ⟨hnumbered playlist hmem, Nat.zero_le _⟩
  have hstart : Tracked network config 0 [] []
      (HlsSourcePuller.initial config pollUrl : HlsSourcePuller Duration) :=
    tracked_initial network config pollUrl
  obtain ⟨_, _, _, hend, -⟩ := hstart.run stod turns [] (by rwa [append_nil]) (by rwa [append_nil])
  refine ⟨hend.fed.increasing, hend.fed.own, ?_, hend.fed.marked⟩
  rintro before turn after rfl
  obtain ⟨_, _, _, hbefore, hlater⟩ := hstart.run stod before (turn :: after) hpl hforward
  dsimp only
  rw [Run.run, foldl_append]
  refine (hbefore.poll stod turn fun playlist hplaylist => hlater playlist ?_).fed.front
  rw [filterMap_cons_some hplaylist]
  exact mem_cons_self

end Polls

/-- The second poll of a small live playlist. -/
theorem run_fed_in_order_live :
    let turns : List Turn :=
      [{ response := .ok (textBytes "#EXTM3U\n#EXT-X-MEDIA-SEQUENCE:7\na\nb\n", [])
         moves := [.take 0 true, .take 1 true, .store 1 0 0, .store 0 0 0] },
        { response := .ok (textBytes "#EXTM3U\n#EXT-X-MEDIA-SEQUENCE:8\nb\nc\n", [])
          moves := [.take 0 true, .store 0 0 0] }]
    let log := (Run.run (HlsSourcePuller.poll (fun url _ => .ok url) (fun _ => none)
      ⟨1, true, false⟩) (HlsSourcePuller.initial ⟨1, true, false⟩ [] : HlsSourcePuller ℤ) turns).log
    fedNumbers log = [7, 8, 9] ∧ (fedNumbers log).Pairwise (· < ·) :=
  ⟨by decide +kernel, (run_fed_in_order _ _ _ _ _ (by decide +kernel) (by decide +kernel)).1⟩

end RtmpCore.Puller
