import RtmpCore.Hls.Handler
import RtmpCore.Support.Run

/-!
# Playlist requests that wait

A request for a position that the live edge has not reached is parked in the
list of its stream.  Producers move the live edge and then make a release pass
over the list; the event loop takes a request back when its time is up.  These
threads do their work in separate sections, so a run is any sequence of the
steps below.  Every call of the handler is such a sequence.
-/

namespace RtmpCore.Hls

open Http List Function

/-- What a producer does to its store. -/
inductive StoreChange where
  | segmentAdded (now : ℕ) (segment : Segment) (sealed : Option (Bytes × EncryptionKeyInfo))
  | partAdded (part : Part) (sealed : Option Bytes)
  | ended
  | live
  | cleared

def SegmentStore.change (s : SegmentStore) : StoreChange → SegmentStore
  | .segmentAdded now segment sealed => s.addSegment now segment sealed
  | .partAdded part sealed => s.addPart part sealed
  | .ended => s.markEnded
  | .live => s.markLive
  | .cleared => s.clear

/-- One section of a thread that uses the handler. -/
inductive HandlerStep where
  | registered (application stream : Bytes) (store : Option ℕ)
  | unregistered (application stream : Bytes)
  | detached
  | renditionsSet (application stream : Bytes) (renditions : List Rendition)
  | encryptorSet (application stream : Bytes) (encryptor : Option SegmentEncryptor)
  | stored (σ : ℕ) (change : StoreChange)
  | rendered (now σ : ℕ)
  | parked (now e σ : ℕ) (position : UInt64 × ℤ) (query : Bytes)
  | released (now e σ : ℕ)
  | attached (d : ℕ) (completion : Completion)
  | cancelled (d : ℕ)

namespace HlsHttpHandler

def setDeferral (h : HlsHttpHandler) (d : ℕ) (deferral : DeferredResponse) : HlsHttpHandler :=
  { h with deferrals := update h.deferrals d deferral }

def perform (h : HlsHttpHandler) : HandlerStep → HlsHttpHandler
  | .registered application stream store => h.registerStream application stream store
  | .unregistered application stream => h.unregisterStream application stream
  | .detached => h.detachStores
  | .renditionsSet application stream renditions => h.setRenditions application stream renditions
  | .encryptorSet application stream encryptor => h.setEncryptor application stream encryptor
  | .stored σ change => h.setStore σ ((h.stores σ).change change)
  | .rendered now σ => (h.renderMediaPlaylist now σ []).1
  | .parked now e σ position query => (h.park now e σ position query).1
  | .released now e σ => h.releaseWaiters now e σ
  | .attached d completion => h.setDeferral d ((h.deferrals d).attach completion).1
  | .cancelled d => h.setDeferral d (h.deferrals d).cancel.1

/-! ## Moves -/

def waitersOf (h : HlsHttpHandler) (e : ℕ) : List PlaylistWaiter := (h.entries e).waiters

/-- The responses that postponed requests are given. -/
inductive Supplied (options : HlsHttpOptions) : HttpResponse → Prop where
  | playlist (text query : Bytes) : Supplied options (playlistResponse options text query)
  | gone : Supplied options (noStore (plain 404 "stream not found"))
  | closing : Supplied options (noStore (plain 503 "stream is shutting down"))

/-- What every section is made of, as far as lists and responses are concerned. -/
inductive Move (h : HlsHttpHandler) : HlsHttpHandler → Prop where
  | same {h' : HlsHttpHandler} (hoptions : h'.options = h.options) (hentries : h'.entries = h.entries)
      (hnext : h'.nextDeferral = h.nextDeferral) (hresolutions : h'.resolutions = h.resolutions) :
      Move h h'
  | setEntry {e : ℕ} (entry : StreamEntry) (hwaiters : entry.waiters.Sublist (h.waitersOf e)) :
      Move h (h.setEntry e entry)
  | resolve (d : ℕ) {response : HttpResponse} (hsupplied : Supplied h.options response) :
      Move h (h.resolve d response)
  | park (now e σ : ℕ) (position : UInt64 × ℤ) (query : Bytes) :
      Move h (h.park now e σ position query).1

abbrev Moves : HlsHttpHandler → HlsHttpHandler → Prop := Relation.ReflTransGen Move

namespace Moves

variable {h : HlsHttpHandler}

theorem foldl {α : Type} {step : HlsHttpHandler → α → HlsHttpHandler}
    (hstep : ∀ h a, Moves h (step h a)) (items : List α) : Moves h (items.foldl step h) := by
  induction items generalizing h with
  | nil => exact .refl
  | cons a rest ih => exact (hstep h a).trans ih

theorem findOrCreateEntry (h : HlsHttpHandler) (app stream : Bytes) :
    Moves h (h.findOrCreateEntry app stream).1 := by
  unfold HlsHttpHandler.findOrCreateEntry
  split
  · exact .refl
  · exact .tail (.single (.setEntry {} (nil_sublist (h.waitersOf h.nextEntry))))
      (.same rfl rfl rfl rfl)

theorem dismissWaiters (h : HlsHttpHandler) (e : ℕ) {resp : HttpResponse}
    (hsupp : ∀ options, Supplied options resp) : Moves h (h.dismissWaiters e resp) :=
  .trans (.single (.setEntry _ (nil_sublist _)))
    (foldl (fun h (_ : PlaylistWaiter) => .single (.resolve _ (hsupp h.options))) _)

theorem clearNotifier (h : HlsHttpHandler) (store : Option ℕ) :
    Moves h (h.clearNotifier store) := by
  cases store with
  | none => exact .refl
  | some σ => exact .single (.same rfl rfl rfl rfl)

theorem releaseWaiters (h : HlsHttpHandler) (now e σ : ℕ) : Moves h (h.releaseWaiters now e σ) := by
  refine .trans (.single (.setEntry _ (filter_sublist.trans filter_sublist)))
    (foldl (fun h waiter => ?_) _)
  have hrend : Move h (h.renderMediaPlaylist now σ waiter.childQuery).1 := .same rfl rfl rfl rfl
  exact .tail (.single hrend) (.resolve _ (.playlist _ _))

theorem perform (h : HlsHttpHandler) (step : HandlerStep) : Moves h (h.perform step) := by
  cases step with
  | parked now e σ pos query => exact .single (.park now e σ pos query)
  | registered app stream store =>
    refine (findOrCreateEntry h app stream).trans (.trans (.single (.setEntry
      { (h.findOrCreateEntry app stream).1.entries (h.findOrCreateEntry app stream).2 with store }
      (List.Sublist.refl _))) ?_)
    unfold HlsHttpHandler.perform registerStream
    cases store with
    | none => exact .refl
    | some σ =>
      dsimp only
      split
      · exact .single (.same rfl rfl rfl rfl)
      · exact .refl
  | unregistered app stream =>
    unfold HlsHttpHandler.perform unregisterStream
    dsimp only
    split
    · exact .refl
    · have heras : Move h { h with streams := h.streams.erase (streamKey app stream) } :=
        .same rfl rfl rfl rfl
      exact .head heras ((clearNotifier _ _).trans (dismissWaiters _ _ fun _ => .gone))
  | detached =>
    exact (foldl (fun _ _ => clearNotifier _ _) _).trans
      (foldl (fun _ _ => dismissWaiters _ _ fun _ => .closing) _)
  | renditionsSet app stream | encryptorSet app stream =>
    exact (findOrCreateEntry h app stream).tail (.setEntry _ (List.Sublist.refl _))
  | released now e σ => exact releaseWaiters h now e σ
  | _ => exact .single (.same rfl rfl rfl rfl)

theorem run (h : HlsHttpHandler) (steps : List HandlerStep) :
    Moves h (Run.run HlsHttpHandler.perform h steps) :=
  foldl perform steps

end Moves

/-! ## The lists of waiters -/

/-- Every waiter has a postponed response of its own. -/
structure Separate (h : HlsHttpHandler) : Prop where
  made : ∀ e, ∀ waiter ∈ h.waitersOf e, waiter.deferred < h.nextDeferral
  distinct : ∀ e, ((h.waitersOf e).map PlaylistWaiter.deferred).Nodup

namespace Separate

variable {h h' : HlsHttpHandler}

theorem of_sublist (hsep : Separate h) (hsub : ∀ e, (h'.waitersOf e).Sublist (h.waitersOf e))
    (hnext : h'.nextDeferral = h.nextDeferral) : Separate h' where
  made := fun e waiter hwait => hnext ▸ hsep.made e waiter ((hsub e).subset hwait)
  distinct := fun e => (hsep.distinct e).sublist ((hsub e).map _)

theorem park (hsep : Separate h) (now e σ : ℕ) (pos : UInt64 × ℤ)
    (query : Bytes) : Separate (h.park now e σ pos query).1 := by
  have hrend : Separate (h.renderMediaPlaylist now σ (childQuery h.options query)).1 :=
    { hsep with }
  unfold HlsHttpHandler.park
  dsimp only
  split
  · constructor
    · intro e' waiter hwait
      by_cases heq : e' = e
      · subst heq
        simp only [waitersOf, setEntry, update_self] at hwait
        rcases mem_append.mp hwait with hold | hnew
        · exact Nat.lt_succ_of_lt (hrend.made e' waiter hold)
        · obtain rfl := mem_singleton.mp hnew
          exact Nat.lt_succ_self _
      · simp only [waitersOf, setEntry, update_of_ne heq] at hwait
        exact Nat.lt_succ_of_lt (hrend.made e' waiter hwait)
    · intro e'
      by_cases heq : e' = e
      · subst heq
        simp only [waitersOf, setEntry, update_self, map_append]
        refine nodup_append.mpr ⟨hrend.distinct e', by simp, ?_⟩
        intro d hd d' hd'
        obtain ⟨waiter, hwait, rfl⟩ := mem_map.mp hd
        obtain rfl := mem_singleton.mp hd'
        exact (hrend.made e' waiter hwait).ne
      · simp only [waitersOf, setEntry, update_of_ne heq]
        exact hrend.distinct e'
  · exact hrend

theorem moves (hsep : Separate h) (hmoves : Moves h h') : Separate h' := by
  induction hmoves with
  | refl => exact hsep
  | tail _ hmove ih =>
    cases hmove with
    | same _ hents hnext _ => exact ih.of_sublist (fun e => by rw [waitersOf, hents]; rfl) hnext
    | @setEntry e entry hwaiters =>
      refine ih.of_sublist (fun e' => ?_) rfl
      by_cases heq : e' = e
      · subst heq
        simpa [waitersOf, HlsHttpHandler.setEntry] using hwaiters
      · simp [waitersOf, HlsHttpHandler.setEntry, update_of_ne heq]
    | resolve => exact { ih with }
    | park now e σ pos query => exact ih.park now e σ pos query

theorem fresh (options : HlsHttpOptions) (stores : ℕ → SegmentStore) :
    Separate { options, stores } where
  made := fun _ _ hwait => (not_mem_nil hwait).elim
  distinct := fun _ => nodup_nil

end Separate

/-! ## Release passes -/

/-- Nothing was sent to the client yet, and nothing is about to be. -/
def Unanswered (h : HlsHttpHandler) (d : ℕ) : Prop :=
  (h.deferrals d).resolved = false ∧ (h.deferrals d).delivered = false

/-- The event loop took the request back, when its time was up. -/
def TakenBack (h : HlsHttpHandler) (d : ℕ) : Prop :=
  (h.deferrals d).resolved = false ∧ (h.deferrals d).delivered = true

variable {d now e σ : ℕ} {waiter : PlaylistWaiter}

theorem unanswered_iff {h : HlsHttpHandler} (hopen : (h.deferrals d).resolved = false) :
    h.Unanswered d ↔ ¬ h.TakenBack d := by
  simp [Unanswered, TakenBack, hopen]

theorem entries_answers (now σ : ℕ) (h : HlsHttpHandler) (ready : List PlaylistWaiter) :
    (ready.foldl (answerWaiter now σ) h).entries = h.entries := by
  induction ready generalizing h with
  | nil => rfl
  | cons waiter rest ih => exact ih _

theorem deferrals_answers (now σ : ℕ) (h : HlsHttpHandler) {ready : List PlaylistWaiter}
    (hother : ∀ waiter ∈ ready, waiter.deferred ≠ d) :
    (ready.foldl (answerWaiter now σ) h).deferrals d = h.deferrals d := by
  induction ready generalizing h with
  | nil => rfl
  | cons waiter rest ih =>
    have hne : d ≠ waiter.deferred := (hother waiter mem_cons_self).symm
    rw [foldl_cons, ih _ fun other hmem => hother other (mem_cons_of_mem _ hmem)]
    exact update_of_ne hne _ _

theorem mem_waitersOf_releaseWaiters {h : HlsHttpHandler} :
    waiter ∈ (h.releaseWaiters now e σ).waitersOf e ↔ waiter ∈ h.waitersOf e ∧
        (h.deferrals waiter.deferred).resolved = false ∧
        (h.stores σ).hasReached waiter.sequence waiter.partIndex = false := by
  have hlist : (h.releaseWaiters now e σ).waitersOf e = (h.openWaiters e).filter fun waiter =>
        !(h.stores σ).hasReached waiter.sequence waiter.partIndex := by
    unfold releaseWaiters waitersOf
    rw [entries_answers]
    simp only [setEntry, update_self]
  rw [hlist, mem_filter, openWaiters, mem_filter, waitersOf]
  simp only [decide_eq_true_eq, Bool.not_eq_true', and_assoc]

theorem Separate.deferrals_releaseWaiters {h : HlsHttpHandler} (hsep : Separate h)
    (hstays : waiter ∈ (h.releaseWaiters now e σ).waitersOf e) :
    (h.releaseWaiters now e σ).deferrals waiter.deferred = h.deferrals waiter.deferred := by
  obtain ⟨hmem, -, hahead⟩ := mem_waitersOf_releaseWaiters.mp hstays
  unfold releaseWaiters
  rw [deferrals_answers]
  · rfl
  · intro other hother heq
    obtain ⟨hopen, hrch⟩ := mem_filter.mp hother
    have hsame : other = waiter :=
      inj_on_of_nodup_map (hsep.distinct e) (mem_of_mem_filter hopen) hmem heq
    rw [hsame, hahead] at hrch
    cases hrch

/-- In every run, a release pass leaves only requests in the list that were not
answered, exactly if the live edge has reached the position of every request
that the event loop took back. -/
theorem released_unanswered_iff (options : HlsHttpOptions)
    (stores : ℕ → SegmentStore) (steps : List HandlerStep) (now e σ : ℕ) :
    let h := Run.run perform { options := options, stores := stores } steps
    (∀ waiter ∈ (h.releaseWaiters now e σ).waitersOf e,
        (h.releaseWaiters now e σ).Unanswered waiter.deferred) ↔
      ∀ waiter ∈ h.waitersOf e, h.TakenBack waiter.deferred →
        (h.stores σ).hasReached waiter.sequence waiter.partIndex = true := by
  intro h
  have hseparate : Separate h := (Separate.fresh options stores).moves (.run _ steps)
  -- those who stay have not been given a response, neither before nor by the pass
  have hstay : ∀ waiter ∈ (h.releaseWaiters now e σ).waitersOf e,
      ((h.releaseWaiters now e σ).Unanswered waiter.deferred ↔ ¬ h.TakenBack waiter.deferred) := by
    intro waiter hstays
    have hsame := hseparate.deferrals_releaseWaiters hstays
    rw [Unanswered, hsame]
    exact unanswered_iff (mem_waitersOf_releaseWaiters.mp hstays).2.1
  constructor
  · intro hall waiter hmem htaken
    by_contra hahead
    have hstays : waiter ∈ (h.releaseWaiters now e σ).waitersOf e :=
      mem_waitersOf_releaseWaiters.mpr ⟨hmem, htaken.1, by simpa using hahead⟩
    exact (hstay waiter hstays).mp (hall waiter hstays) htaken
  · intro hreached waiter hstays
    obtain ⟨hmem, -, hahead⟩ := mem_waitersOf_releaseWaiters.mp hstays
    refine (hstay waiter hstays).mpr fun htaken => ?_
    rw [hreached waiter hmem htaken] at hahead
    cases hahead

/-- A request for a segment far ahead is taken back when its time is up.  It
stays in the list after the pass that follows, and with a ceiling of one no
other request can wait. -/
theorem taken_back_keeps_slot :
    let env : Environment := { hmacSha256Hex := fun _ _ => [] }
    let request : HttpRequest :=
      { method := "GET", path := "/hls/live/cam/index.m3u8", query := "_HLS_msn=100" }
    let start := registerStream
      { options := { enableLowLatency := true, maxBlockedRequestsPerStream := 1 } }
      "live" "cam" (some 0)
    let waiting := handle env start request
    let late := Run.run perform waiting.1 [.attached 0 (.here 5 1), .cancelled 0,
        .stored 0 (.segmentAdded 0 { sequence := 0, name := "seg0.ts" }
          none),
        .released 0 0 0]
    waiting.2.deferred = some 0 ∧ (late.waitersOf 0).map PlaylistWaiter.deferred = [0] ∧
      ¬ late.Unanswered 0 ∧
      (handle env late request).2.deferred = none := by
  refine ⟨by decide +kernel, by decide +kernel, ?_, by decide +kernel⟩
  rintro ⟨-, hundelivered⟩
  revert hundelivered
  decide +kernel

end HlsHttpHandler

end RtmpCore.Hls
