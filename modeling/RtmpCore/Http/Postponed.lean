import Mathlib.Data.List.Perm.Basic
import RtmpCore.Http.Answers

/-!
# Who may still be answered

A request that was postponed is answered by what was supplied for it, or by
the answer for its timeout: no answer reaches another request or another
connection that has come to use the same descriptor.

This follows from who may still be answered through a descriptor and an
identity.  One postponed response at most has a completion for them, or one
answer at most is on its way, never both, and the connection, if it is still
there, waits for exactly that one.
-/

namespace RtmpCore.Http

open List Function DeferredResponse

/-- The answers on their way to connections of this loop. -/
def Shared.mail (s : Shared) : List Resolved := s.mailbox ++ s.posting

/-- The entry is for the connection with that descriptor and identity. -/
def Resolved.IsFor (entry : Resolved) (fd id : ℕ) : Prop := entry.fd = fd ∧ entry.id = id
deriving Decidable

theorem countP_isFor {entries : List Resolved} {fd id : ℕ}
    (h : ∀ entry ∈ entries, ¬ entry.IsFor fd id) :
    entries.countP (fun entry => entry.IsFor fd id) = 0 := by
  simpa using h

/-- Whatever may still be answered through the descriptor and the identity of a
connection is the answer the connection waits for. -/
structure Connection.Linked (s : Shared) (c : Connection) : Prop where
  completion : ∀ d, (s.deferrals d).completion = some (.here c.fd c.id) → c.Awaits d
  arrival : ∀ entry ∈ s.mail, entry.IsFor c.fd c.id → ∃ d, c.Awaits d ∧
    (d, entry.response) ∈ s.resolutions ∧ (s.deferrals d).delivered = true
  once : s.mail.countP (fun entry => entry.IsFor c.fd c.id) ≤ 1
  tied : ∀ d, c.deferred = some d → c.Awaits d

/-- Nothing is on its way to the connection. -/
structure Connection.Silent (s : Shared) (c : Connection) : Prop where
  completion : ∀ d, (s.deferrals d).completion ≠ some (.here c.fd c.id)
  arrival : ∀ entry ∈ s.mail, ¬ entry.IsFor c.fd c.id

/-- What was supplied and not delivered is on record, and nothing is on its way
to a connection that does not exist yet. -/
structure Shared.Coherent (s : Shared) (next : ℕ) : Prop where
  stored : ∀ d, (s.deferrals d).resolved = true → (s.deferrals d).delivered = false →
      (d, (s.deferrals d).response) ∈ s.resolutions
  completion : ∀ d fd id, (s.deferrals d).completion = some (.here fd id) → id < next
  arrival : ∀ entry ∈ s.mail, entry.id < next

namespace Connection

variable {s : Shared} {c c' : Connection}

theorem Silent.linked (h : c.Silent s) (hfd : c'.fd = c.fd) (hid : c'.id = c.id)
    (hdef : c'.deferred = none) : c'.Linked s where
  completion := fun d hd => by
    rw [hfd, hid] at hd
    exact absurd hd (h.completion d)
  arrival := fun entry hent hfor => by
    rw [hfd, hid] at hfor
    exact absurd hfor (h.arrival entry hent)
  once := by
    rw [hfd, hid, countP_isFor h.arrival]
    exact Nat.zero_le 1
  tied := fun d hd => by
    rw [hdef] at hd
    cases hd

/-- Nothing is on its way to a connection that waits for nothing. -/
theorem Linked.silent (h : c.Linked s) (hst : c.state ≠ .deferred) : c.Silent s where
  completion := fun d hd => hst (h.completion d hd).1
  arrival := fun entry hent hfor =>
    let ⟨_, hawait, _⟩ := h.arrival entry hent hfor
    hst hawait.1

/-- What does not touch the waiting of a connection leaves it linked. -/
theorem Linked.congr (h : c.Linked s) (hfd : c'.fd = c.fd) (hid : c'.id = c.id)
    (hdef : c'.deferred = c.deferred) (hawait : ∀ d, c.Awaits d → c'.Awaits d) : c'.Linked s where
  completion := fun d hd => by
    rw [hfd, hid] at hd
    exact hawait d (h.completion d hd)
  arrival := fun entry hent hfor => by
    rw [hfd, hid] at hfor
    obtain ⟨d, hd, hrest⟩ := h.arrival entry hent hfor
    exact ⟨d, hawait d hd, hrest⟩
  once := by
    rw [hfd, hid]
    exact h.once
  tied := fun d hd => by
    rw [hdef] at hd
    exact hawait d (h.tied d hd)

end Connection

/-! ### Changes of the shared state -/

/-- What a call on the postponed response `d` does to the shared state.  It takes
nothing back and installs at most one completion, and what sets out is one answer
at most, for the completion of `d` and on record. -/
structure Shared.Moves (s s' : Shared) (d : ℕ) (installed : Option Completion) : Prop where
  delivered : ∀ d', (s.deferrals d').delivered = true → (s'.deferrals d').delivered = true
  completion : ∀ d' completion, (s'.deferrals d').completion = some completion →
    (s.deferrals d').completion = some completion ∨ d' = d ∧ installed = some completion
  stored : ∀ d', (s'.deferrals d').resolved = true → (s'.deferrals d').delivered = false →
      (d', (s'.deferrals d').response) ∈ s'.resolutions
  resolutions : ∃ more, s'.resolutions = s.resolutions ++ more
  mail : ∃ arrivals, s'.mail.Subperm (s.mail ++ arrivals) ∧ arrivals.length ≤ 1 ∧
    ∀ entry ∈ arrivals, (s.deferrals d).delivered = false ∧
      (s'.deferrals d).delivered = true ∧ (d, entry.response) ∈ s'.resolutions ∧
      ((s.deferrals d).completion = some (.here entry.fd entry.id) ∨
        installed = some (.here entry.fd entry.id))

namespace Shared

variable {s s' : Shared} {d next : ℕ}

theorem Coherent.moves_of_same (h : s.Coherent next) (hdefs : s'.deferrals = s.deferrals)
    (hres : s'.resolutions = s.resolutions)
    (hmail : s'.mail.Subperm s.mail) : s.Moves s' d none := by
  refine ⟨?_, ?_, ?_, ⟨[], by simp [hres]⟩, [], by simpa using hmail, by simp, nofun⟩
  · rw [hdefs]
    exact fun _ hd => hd
  · rw [hdefs]
    exact fun _ _ hd => .inl hd
  · rw [hdefs, hres]
    exact h.stored

variable {installed : Option Completion}

section

variable (h : s.Coherent next)
include h

theorem Coherent.moves_of_update
    {new : DeferredResponse} {call : Option (Completion × HttpResponse)}
    (hdefs : s'.deferrals = update s.deferrals d new)
    (hmail : s'.mail.Perm (s.mail ++ Shared.arrival call))
    (hresolutions : ∃ more, s'.resolutions = s.resolutions ++ more)
    (hdel : (s.deferrals d).delivered = true → new.delivered = true)
    (hcomp : ∀ completion, new.completion = some completion →
      (s.deferrals d).completion = some completion ∨ installed = some completion)
    (hstor : new.resolved = true → new.delivered = false → (d, new.response) ∈ s'.resolutions)
    (hcall : ∀ completion resp, call = some (completion, resp) →
      (s.deferrals d).delivered = false ∧ new.delivered = true ∧ (d, resp) ∈ s'.resolutions ∧
        ((s.deferrals d).completion = some completion ∨ installed = some completion)) :
    s.Moves s' d installed := by
  have hself : s'.deferrals d = new := by rw [hdefs, update_self]
  have hother : ∀ {d'}, d' ≠ d → s'.deferrals d' = s.deferrals d' := fun hne => by
    rw [hdefs, update_of_ne hne]
  obtain ⟨more, hmore⟩ := hresolutions
  refine ⟨?_, ?_, ?_, ⟨more, hmore⟩, Shared.arrival call, hmail.subperm, ?_, ?_⟩
  · intro d' hd'
    rcases eq_or_ne d' d with rfl | hne
    · rw [hself]
      exact hdel hd'
    · rwa [hother hne]
  · intro d' completion hd'
    rcases eq_or_ne d' d with rfl | hne
    · rw [hself] at hd'
      exact (hcomp completion hd').imp_right fun hnew => ⟨rfl, hnew⟩
    · rw [hother hne] at hd'
      exact .inl hd'
  · intro d' hres hundel
    rcases eq_or_ne d' d with rfl | hne
    · rw [hself] at hres hundel ⊢
      exact hstor hres hundel
    · rw [hother hne] at hres hundel ⊢
      rw [hmore]
      exact mem_append_left _ (h.stored d' hres hundel)
  · unfold Shared.arrival
    split <;> simp
  · intro entry hent
    rw [hself]
    match call, hent with
    | some (.here fd id, resp), hent =>
      obtain rfl := mem_singleton.mp hent
      exact hcall _ _ rfl

theorem Coherent.moves_attach (completion : Completion) :
    s.Moves (s.attach d completion) d (some completion) := by
  have hmail : (s.attach d completion).mail.Perm
      (s.mail ++ Shared.arrival ((s.deferrals d).attach completion).2) := by
    simp only [attach, mail, append_assoc]
    exact (perm_append_comm).append_left _
  refine h.moves_of_update rfl hmail ⟨[], by simp [attach, setDeferral]⟩ ?_ ?_ ?_ ?_
  all_goals
    rcases (s.deferrals d).attach_cases completion with
      ⟨hdel, heq⟩ | ⟨hundel, hres, hcall, hdel⟩ | ⟨hundel, _, hnone, hinst, hunres⟩
  · simp [heq]
  · exact fun _ => hdel
  · simp [hundel]
  · rw [heq]
    exact fun _ hk => .inl hk
  · simp [completion_of_delivered hdel]
  · exact fun k hk => .inr (hinst.symm.trans hk)
  · simp [heq, hdel]
  · simp [hdel]
  · simp [hunres]
  · simp [heq]
  · rintro k resp hk
    obtain ⟨rfl, rfl⟩ := Prod.mk.inj (Option.some.inj (hcall.symm.trans hk))
    exact ⟨hundel, hdel, h.stored d hres hundel, .inr rfl⟩
  · simp [hnone]

theorem Coherent.moves_resolve (resp : HttpResponse) : s.Moves (s.resolve d resp) d none := by
  have hmail : (s.resolve d resp).mail.Perm
      (s.mail ++ Shared.arrival ((s.deferrals d).resolve resp).2) := by
    simp only [mail, append_assoc]
    exact .refl _
  have hnew : ¬ ((s.deferrals d).resolved = true ∨ (s.deferrals d).delivered = true) →
      (d, resp) ∈ (s.resolve d resp).resolutions := fun hopen => by
    simp [resolve, hopen]
  refine h.moves_of_update rfl hmail ?_ ?_ ?_ ?_ ?_
  · simp only [resolve]
    split
    · exact ⟨[], by simp⟩
    · exact ⟨_, rfl⟩
  all_goals
    rcases (s.deferrals d).resolve_cases resp with
      ⟨hset, heq⟩ | ⟨hopen, _, hcall, hnone, hresp⟩ | ⟨completion, hopen, hsome, hcall, hnone, hdel⟩
  · simp [heq]
  · exact fun hold => absurd (.inr hold) hopen
  · exact fun _ => hdel
  · simp [heq]
  · simp [hnone]
  · simp [hnone]
  · rw [heq]
    intro hres hundel
    simp only [resolve, if_pos hset]
    exact h.stored d hres hundel
  · rw [hresp]
    exact fun _ _ => hnew hopen
  · simp [hdel]
  · simp [heq]
  · simp [hcall]
  · rintro k answer hk
    obtain ⟨rfl, rfl⟩ := Prod.mk.inj (Option.some.inj (hcall.symm.trans hk))
    have hundel : (s.deferrals d).delivered = false :=
      Bool.eq_false_iff.mpr fun hold => hopen (.inr hold)
    exact ⟨hundel, hdel, hnew hopen, .inl hsome⟩

theorem Coherent.moves_cancel : s.Moves (s.cancel d).1 d none := by
  have hnone := completion_of_delivered (delivered_cancel (s.deferrals d))
  have hmail : (s.cancel d).1.mail.Perm (s.mail ++ Shared.arrival none) := by
    simp [Shared.arrival, mail, cancel, setDeferral]
  refine h.moves_of_update rfl hmail ⟨[], ?_⟩ ?_ ?_ ?_ (by simp)
  · simp [cancel, setDeferral]
  · simp
  · simp [hnone]
  · simp

theorem Coherent.moves_post (index : ℕ) : s.Moves (s.post index) 0 none := by
  have hmoved : (s.posting[index]?.toList ++ s.posting.eraseIdx index).Perm
      s.posting := by
    by_cases hidx : index < s.posting.length
    · rw [getElem?_eq_getElem hidx]
      exact getElem_cons_eraseIdx_perm hidx
    · rw [getElem?_eq_none (by omega), eraseIdx_of_length_le (by omega)]
      exact List.Perm.refl _
  refine h.moves_of_same rfl rfl (List.Perm.subperm ?_)
  simpa [mail, post] using hmoved.append_left s.mailbox

theorem Coherent.moves_withMailbox {entry : Resolved}
    {rest : List Resolved} (hmail : s.mailbox = entry :: rest) :
    s.Moves { s with mailbox := rest } 0 none := by
  refine h.moves_of_same rfl rfl (List.Sublist.subperm ?_)
  simp [mail, hmail]

theorem Coherent.moves (hmoves : s.Moves s' d installed)
    (hkn : ∀ fd id, installed = some (.here fd id) → id < next) : s'.Coherent next where
  stored := hmoves.stored
  completion := fun d' fd id hd' => by
    rcases hmoves.completion d' _ hd' with hold | ⟨-, hnew⟩
    · exact h.completion d' fd id hold
    · exact hkn fd id hnew
  arrival := fun entry hent => by
    obtain ⟨arrivals, hmail, -, harr⟩ := hmoves.mail
    rcases mem_append.mp (hmail.subset hent) with hold | hnew
    · exact h.arrival entry hold
    · rcases (harr entry hnew).2.2.2 with hmine | hmine
      · exact h.completion d _ _ hmine
      · exact hkn _ _ hmine

theorem Coherent.mono {next' : ℕ} (hle : next ≤ next') : s.Coherent next' :=
  { h with
    completion := fun d fd id hd => (h.completion d fd id hd).trans_le hle
    arrival := fun entry hent => (h.arrival entry hent).trans_le hle }

end

theorem Moves.once (h : s.Moves s' d installed)
    {fd id : ℕ} (hsil : ∀ entry ∈ s.mail, ¬ entry.IsFor fd id) :
    s'.mail.countP (fun entry => entry.IsFor fd id) ≤ 1 := by
  obtain ⟨arrivals, hmail, hlen, -⟩ := h.mail
  calc s'.mail.countP (fun entry => entry.IsFor fd id)
      ≤ (s.mail ++ arrivals).countP fun entry => entry.IsFor fd id := hmail.countP_le _
    _ ≤ arrivals.length := by
        rw [countP_append, countP_isFor hsil, Nat.zero_add]
        exact countP_le_length
    _ ≤ 1 := hlen

end Shared

namespace Connection

variable {s s' : Shared} {c c' : Connection} {d : ℕ}

/-- A call that installs no completion for a connection leaves it linked. -/
theorem Linked.moves (h : c.Linked s) {installed : Option Completion}
    (hmoves : s.Moves s' d installed)
    (hother : installed ≠ some (.here c.fd c.id)) : c.Linked s' := by
  obtain ⟨more, hmore⟩ := hmoves.resolutions
  obtain ⟨arrivals, hmail, -, harr⟩ := hmoves.mail
  -- a new answer is the one the connection waits for, and the only one
  have hnew : ∀ entry ∈ arrivals, entry.IsFor c.fd c.id →
      c.Awaits d ∧ ∀ old ∈ s.mail, ¬ old.IsFor c.fd c.id := by
    rintro entry hent ⟨hfd, hid⟩
    obtain ⟨hundel, -, -, hmine⟩ := harr entry hent
    rw [hfd, hid] at hmine
    have hawait := h.completion d (hmine.resolve_right hother)
    refine ⟨hawait, fun old hold hfor => ?_⟩
    obtain ⟨d', hawait', -, hdel⟩ := h.arrival old hold hfor
    rw [← hawait.unique hawait', hundel] at hdel
    cases hdel
  refine ⟨?_, ?_, ?_, h.tied⟩
  · intro d' hd'
    exact h.completion d' ((hmoves.completion d' _ hd').resolve_right fun hinst => hother hinst.2)
  · intro entry hent hfor
    rcases mem_append.mp (hmail.subset hent) with hold | hset
    · obtain ⟨d', hawait, hres, hdel⟩ := h.arrival entry hold hfor
      refine ⟨d', hawait, ?_, hmoves.delivered d' hdel⟩
      rw [hmore]
      exact mem_append_left _ hres
    · obtain ⟨-, hdel, hres, -⟩ := harr entry hset
      exact ⟨d, (hnew entry hset hfor).1, hres, hdel⟩
  · by_cases hset : ∃ entry ∈ arrivals, entry.IsFor c.fd c.id
    · obtain ⟨entry, hent, hfor⟩ := hset
      exact hmoves.once (hnew entry hent hfor).2
    · have hnone := countP_isFor fun entry hent hfor => hset ⟨entry, hent, hfor⟩
      have hle := hmail.countP_le fun entry => entry.IsFor c.fd c.id
      rw [countP_append, hnone] at hle
      exact hle.trans h.once

theorem Silent.moves (h : c.Silent s) (hmoves : s.Moves s' d (some (.here c.fd c.id)))
    (hfd : c'.fd = c.fd) (hid : c'.id = c.id) (hawait : c'.Awaits d)
    (hdef : c'.deferred = some d) : c'.Linked s' := by
  constructor
  · intro d' hd'
    rw [hfd, hid] at hd'
    obtain ⟨rfl, -⟩ := (hmoves.completion d' _ hd').resolve_left (h.completion d')
    exact hawait
  · intro entry hent hfor
    rw [hfd, hid] at hfor
    obtain ⟨arrivals, hmail, -, harr⟩ := hmoves.mail
    rcases mem_append.mp (hmail.subset hent) with hold | hset
    · exact absurd hfor (h.arrival entry hold)
    · obtain ⟨-, hdel, hres, -⟩ := harr entry hset
      exact ⟨d, hawait, hres, hdel⟩
  · rw [hfd, hid]
    exact hmoves.once h.arrival
  · intro d' hd'
    cases hdef.symm.trans hd'
    exact hawait

theorem Linked.silent_cancel (h : c.Linked s) (hawait : c.Awaits d)
    (hcanc : (s.cancel d).2 = true) : c.Silent (s.cancel d).1 where
  completion := fun d' hd' => by
    rcases eq_or_ne d' d with rfl | hne
    · simp [Shared.cancel, Shared.setDeferral, completion_of_delivered]
        at hd'
    · have hold : (s.deferrals d').completion = some (.here c.fd c.id) := by
        simpa [Shared.cancel, Shared.setDeferral, hne] using hd'
      exact hne ((h.completion d' hold).unique hawait)
  arrival := fun entry hent hfor => by
    obtain ⟨d', hawait', _, hdel⟩ := h.arrival entry hent hfor
    rw [← hawait.unique hawait'] at hdel
    simp [Shared.cancel, hdel] at hcanc

theorem Linked.silent_deliver (h : c.Linked s) {entry : Resolved}
    {rest : List Resolved} (hmail : s.mailbox = entry :: rest)
    (hfor : entry.IsFor c.fd c.id) : c.Silent { s with mailbox := rest } where
  completion := fun d' hd' => by
    obtain ⟨d, hawait, _, hdel⟩ := h.arrival entry (by simp [Shared.mail, hmail]) hfor
    have hnone := completion_of_delivered hdel
    rw [hawait.unique (h.completion d' hd')] at hnone
    rw [hnone] at hd'
    cases hd'
  arrival := fun other hother hforOther => by
    have honce := h.once
    rw [Shared.mail, hmail, cons_append, countP_cons_of_pos (by simpa using hfor)] at honce
    have hnone : (rest ++ s.posting).countP (fun entry => entry.IsFor c.fd c.id) = 0 := by omega
    exact absurd hforOther (by simpa using countP_eq_zero.mp hnone other hother)

end Connection

/-! ## The loop -/

/-- What holds of the loop at any time. -/
structure LoopView.Sound (config : ServerConfig) (v : LoopView) : Prop where
  each : v.Each (Connection.Sound config v.shared.resolutions)
    (Transcript.Sound config v.shared.resolutions)
  linked : ∀ fd c, v.table fd = some c → c.Linked v.shared
  keyed : ∀ fd c, v.table fd = some c → c.fd = fd ∧ c.id < v.nextConnectionId
  coherent : v.shared.Coherent v.nextConnectionId

namespace LoopView.Sound

variable {cfg : ServerConfig} {v : LoopView}

theorem withShared (h : v.Sound cfg) {s : Shared} {d : ℕ}
    {installed : Option Completion} (hmoves : v.shared.Moves s d installed)
    (helse : ∀ fd id, installed ≠ some (.here fd id)) : (v.withShared s).Sound cfg where
  each := by
    obtain ⟨more, hmore⟩ := hmoves.resolutions
    simp only [LoopView.withShared, hmore]
    exact ⟨fun fd c hc => (h.each.alive fd c hc).mono more,
      fun t ht => (h.each.closed t ht).mono more⟩
  linked := fun fd c hc => (h.linked fd c hc).moves hmoves (helse _ _)
  keyed := h.keyed
  coherent := h.coherent.moves hmoves fun fd id hhere => absurd hhere (helse fd id)

theorem settle (h : v.Sound cfg) {fd : ℕ} {s : Shared} {out : Outcome}
    (hres : s.resolutions = v.shared.resolutions)
    (hoths : ∀ c : Connection, c.fd ≠ fd → c.Linked v.shared → c.Linked s)
    (hcoh : s.Coherent v.nextConnectionId)
    (hsnd : out.Meets (Connection.Sound cfg v.shared.resolutions)
      (Transcript.Sound cfg v.shared.resolutions))
    (hlink : out.Meets (fun c => c.Linked s ∧ c.fd = fd ∧
      c.id < v.nextConnectionId) fun _ => True) :
    (v.settle fd s out).Sound cfg where
  each := by
    have heach := h.each.settle out hsnd fd s
    rwa [← hres] at heach
  linked := fun fd' c hc => by
    rcases LoopView.settle_table_eq_some hc with ⟨_, rfl⟩ | ⟨hne, hold⟩
    · exact hlink.1
    · refine hoths c ?_ (h.linked fd' c hold)
      rw [(h.keyed fd' c hold).1]
      exact hne
  keyed := fun fd' c hc => by
    rcases LoopView.settle_table_eq_some hc with ⟨rfl, rfl⟩ | ⟨_, hold⟩
    · exact hlink.2
    · exact h.keyed fd' c hold
  coherent := hcoh

end LoopView.Sound

/-- A step of a connection leaves it linked to the shared state, and the other
connections too. -/
theorem Step.linked {cfg : ServerConfig} {s s' : Shared} {c : Connection}
    {out : Outcome} {next : ℕ} (hstep : Step cfg s c s' out)
    (h : c.Linked s) (hcoh : s.Coherent next) (hid : c.id < next) :
    s'.resolutions = s.resolutions ∧ s'.Coherent next ∧
      (∀ other : Connection, other.fd ≠ c.fd → other.Linked s → other.Linked s') ∧
      out.Meets (fun c' => c'.Linked s' ∧ c'.fd = c.fd ∧ c'.id = c.id) fun _ => True := by
  have hcnt : s.countRequest.Coherent next := { hcoh with }
  have hcount : ∀ {other : Connection}, other.Linked s →
      other.Linked s.countRequest := fun hother => { hother with }
  have hfree : ∀ {c' : Connection}, c.state ≠ .deferred → c'.fd = c.fd →
      c'.id = c.id → c'.deferred = c.deferred → c'.Linked s :=
    fun hst hfd hid hdef => h.congr hfd hid hdef fun _ hawait => absurd hawait.1 hst
  cases hstep with
  | receive bytes =>
    exact ⟨rfl, hcoh, fun _ _ hother => hother,
      h.congr rfl rfl rfl fun _ hawait => hawait, rfl, rfl⟩
  | takeHead hst | refuse _ hst =>
    exact ⟨rfl, hcoh, fun _ _ hother => hother, hfree (by simp [hst]) rfl rfl rfl, rfl, rfl⟩
  | answer req resp keep hst hbody =>
    exact ⟨rfl, hcnt, fun _ _ hother => hcount hother,
      hcount (hfree (by simp [hst]) rfl rfl rfl), rfl, rfl⟩
  | drop req resp hst hbody => exact ⟨rfl, hcnt, fun _ _ hother => hcount hother, trivial⟩
  | park req d keep hst hbody =>
    have hmoves := hcnt.moves_attach (d := d) (.here c.fd c.id)
    refine ⟨rfl, hcnt.moves hmoves ?_, ?_, ?_, rfl, rfl⟩
    · rintro fd id ⟨⟩
      exact hid
    · intro other hother hlink
      refine (hcount hlink).moves hmoves fun hhere => hother ?_
      exact (Completion.here.inj (Option.some.inj hhere)).1.symm
    · refine ((hcount h).silent (by simp [hst])).moves hmoves rfl rfl ⟨rfl, ?_⟩ rfl
      simp [Connection.park, Connection.takeBody, Connection.record]
  | send count hst =>
    exact ⟨rfl, hcoh, fun _ _ hother => hother, hfree (by simp [hst]) rfl rfl rfl, rfl, rfl⟩
  | finish hst huns =>
    refine ⟨rfl, hcoh, fun _ _ hother => hother, ?_⟩
    unfold Connection.finishResponse
    split
    · exact ⟨hfree (by simp [hst]) rfl rfl rfl, rfl, rfl⟩
    · trivial
  | close => exact ⟨rfl, hcoh, fun _ _ hother => hother, trivial⟩

/-- Every step of the loop keeps the answers with their requests. -/
theorem LoopStep.sound {cfg : ServerConfig} {v v' : LoopView}
    (hstep : LoopStep cfg v v') (h : v.Sound cfg) : v'.Sound cfg := by
  cases hstep with
  | accept fd clientIp hfree =>
    have hnew : Connection.Linked v.shared { fd, id := v.nextConnectionId, clientIp } := by
      refine Connection.Silent.linked ⟨?_, ?_⟩ rfl rfl rfl
      · intro d hd
        exact absurd (h.coherent.completion d _ _ hd) (lt_irrefl _)
      · intro entry hent hfor
        have hlt := h.coherent.arrival entry hent
        rw [hfor.2] at hlt
        exact lt_irrefl _ hlt
    refine ⟨⟨?_, h.each.closed⟩, ?_, ?_, h.coherent.mono (Nat.le_succ _)⟩
    all_goals
      intro fd' c hc
      rcases Table.update_eq_some hc with ⟨rfl, ⟨⟩⟩ | ⟨-, hold⟩
    · exact ⟨fun _ => ⟨[], rfl, .nil⟩, nofun, rfl⟩
    · exact h.each.alive fd' c hold
    · exact hnew
    · exact h.linked fd' c hold
    · exact ⟨rfl, Nat.lt_succ_self _⟩
    · exact ⟨(h.keyed fd' c hold).1, Nat.lt_succ_of_lt (h.keyed fd' c hold).2⟩
  | @connection fd c shared out hc hstep =>
    obtain ⟨hfd, hid⟩ := h.keyed fd c hc
    obtain ⟨hresolutions, hcoh, hoths, hlinked⟩ := hstep.linked (h.linked fd c hc) h.coherent hid
    refine h.settle hresolutions (by rwa [hfd] at hoths) hcoh ((h.each.alive fd c hc).step hstep) ?_
    cases out with
    | alive c' =>
      obtain ⟨hlink, hfd', hid'⟩ := hlinked
      exact ⟨hlink, hfd'.trans hfd, hid' ▸ hid⟩
    | closed transcript => trivial
  | @deliver entry rest c hmail hc hid hst =>
    obtain ⟨hfd, hkn⟩ := h.keyed entry.fd c hc
    have hlinked := h.linked entry.fd c hc
    have hfor : entry.IsFor c.fd c.id := ⟨hfd.symm, hid.symm⟩
    obtain ⟨d, hawait, hres, _⟩ := hlinked.arrival entry (by simp [Shared.mail, hmail]) hfor
    have hrest : (v.withMailbox rest).Sound cfg :=
      h.withShared (h.coherent.moves_withMailbox hmail) nofun
    refine hrest.settle rfl (fun _ _ hother => hother) hrest.coherent
      ((h.each.alive entry.fd c hc).resume hawait (.inr ⟨entry.response, hres, rfl⟩)) ?_
    exact ⟨(hlinked.silent_deliver hmail hfor).linked rfl rfl rfl, hfd, hkn⟩
  | discard entry rest hmail => exact h.withShared (h.coherent.moves_withMailbox hmail) nofun
  | @timeout fd d c hc hst hdef hcanc =>
    obtain ⟨hfd, hkn⟩ := h.keyed fd c hc
    have hlinked := h.linked fd c hc
    have hawait := hlinked.tied d hdef
    have hmoves := h.coherent.moves_cancel (d := d)
    refine h.settle rfl (fun _ _ hother => hother.moves hmoves nofun)
      (h.coherent.moves hmoves nofun)
      ((h.each.alive fd c hc).resume hawait (.inl rfl)) ?_
    exact ⟨(hlinked.silent_cancel hawait hcanc).linked rfl rfl rfl, hfd, hkn⟩
  | @release fd c hc hst =>
    obtain ⟨hfd, hkn⟩ := h.keyed fd c hc
    have hlinked := h.linked fd c hc
    refine h.settle rfl (fun _ _ hother => hother) h.coherent (h.each.alive fd c hc).release ?_
    exact ⟨⟨hlinked.completion, hlinked.arrival, hlinked.once, nofun⟩, hfd, hkn⟩
  | resolve d resp => exact h.withShared (h.coherent.moves_resolve resp) nofun
  | post index => exact h.withShared (h.coherent.moves_post index) nofun
  | attachElsewhere d => exact h.withShared (h.coherent.moves_attach .elsewhere) nofun
  | cancel d => exact h.withShared h.coherent.moves_cancel nofun

/-- In every run, what was written on a connection is a beginning of the
responses to its requests in their order, one for each request; only the last
request may be without one.  A postponed request is answered by what was
supplied for it or by the answer for its timeout.  A connection that is open
and does not wait has answered every request. -/
theorem EventLoop.answers_in_order (config : ServerConfig) (actions : List Action) {t : Transcript}
    (ht : (Run.run (EventLoop.perform config) {} actions).Recorded t) :
    t.written <+: t.answers.flatMap Answer.wire ∧
      (∃ answered pending, t.exchanges = answered ++ pending ∧ pending.length ≤ 1 ∧
        List.Forall₂ (fun e a => Replies config
          (Run.run (EventLoop.perform config) {} actions).shared.resolutions
          e.reply a) answered t.answers) ∧
      ∀ fd c, (Run.run (EventLoop.perform config) {} actions).connections.lookup fd = some c →
        c.transcript = t → c.state ≠ .deferred → t.exchanges.length = t.answers.length := by
  have hall : (Run.run (EventLoop.perform config) {} actions).view.Sound
      config := by
    refine EventLoop.run_view_invariant config ?_ ?_ actions
    · intro v v' hstep hv
      exact hstep.sound hv
    · exact ⟨⟨nofun, nofun⟩, nofun, nofun, ⟨nofun, nofun, nofun⟩⟩
  have hsound : t.Sound config
      (Run.run (EventLoop.perform config) {} actions).shared.resolutions := by
    rcases ht with hfinished | ⟨fd, c, hc, rfl⟩
    · exact hall.each.closed t hfinished
    · exact (hall.each.alive fd c hc).transcript
  refine ⟨hsound.written, ?_, ?_⟩
  · obtain ⟨pending, hlength, answered, hexchanges, hforall⟩ := hsound.matched
    exact ⟨answered, pending, hexchanges, hlength, hforall⟩
  · rintro fd c hc rfl hstate
    obtain ⟨answered, hexchanges, hforall⟩ := (hall.each.alive fd c hc).matched hstate
    rw [hexchanges, append_nil]
    exact hforall.length_eq

/-- A server whose handler postpones every answer. -/
def allPostponed : ServerConfig where
  handler := some fun calls _ => { deferred := some calls }

/-- A client leaves while its request is postponed, and another one comes to
use its descriptor; then both answers are supplied. -/
def descriptorReused : List Action :=
  [.accepted 7 [], .readable 7 [.data "GET /a HTTP/1.1\r\n\r\n"] [], .hangup 7, .accepted 7 [],
    .readable 7 [.data "GET /b HTTP/1.1\r\n\r\n"] [],
    .resolved 0 { status := 404 }, .resolved 1 { body := "b" },
    .posted 0, .posted 0, .drained [.accepted 10, .accepted 1000]]

theorem EventLoop.answers_in_order_descriptorReused :
    ∃ c, (Run.run (EventLoop.perform allPostponed) {}
        descriptorReused).connections.lookup 7 = some c ∧
      c.transcript.answers = [⟨{ body := "b" }, true⟩] ∧
      c.transcript.written <+: c.transcript.answers.flatMap Answer.wire := by
  obtain ⟨c, hc, hanswers⟩ : ∃ c ∈ (Run.run (EventLoop.perform allPostponed) {}
      descriptorReused).connections.lookup 7,
        c.transcript.answers = [⟨{ body := "b" }, true⟩] := by decide +kernel
  exact ⟨c, hc, hanswers, (EventLoop.answers_in_order allPostponed _ (.inr ⟨7, c, hc, rfl⟩)).1⟩

end RtmpCore.Http
