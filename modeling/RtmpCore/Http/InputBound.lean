import RtmpCore.Http.Prompt

/-!
# What a connection buffers

Between two calls of `recv` the inbox holds an incomplete head or body, or what
came behind a request in the same reception.  Only a response that is being
written stops the reading: behind a request that is postponed the loop goes on
to read, and nothing bounds the inbox.
-/

namespace RtmpCore.Http

open Text List Connection

/-- The most an inbox is meant to hold: a head with its end, a body and one
reception. -/
def AsyncHttpServerOptions.inboxBound (options : AsyncHttpServerOptions) : ℕ :=
  options.maxHeaderBytes + options.maxBodyBytes + recvRoom + headEnd.length

namespace Connection

structure Modest (options : AsyncHttpServerOptions) (c : Connection) : Prop where
  head : c.state = .readingHead → c.inbox.length ≤ options.maxHeaderBytes
  body : c.state = .readingBody →
    c.inbox.length ≤ c.expectedBody ∧ c.expectedBody ≤ options.maxBodyBytes
  room : c.inbox.length ≤ options.maxHeaderBytes + options.maxBodyBytes + recvRoom

/-- No more than a head has come behind a request that is postponed. -/
def Brief (options : AsyncHttpServerOptions) (c : Connection) : Prop :=
  c.state = .deferred → c.inbox.length ≤ options.maxHeaderBytes
deriving Decidable

variable {options : AsyncHttpServerOptions} {c c' : Connection}

theorem Settled.modest (h : Settled options c c')
    (hroom : c.inbox.length ≤ options.maxHeaderBytes + options.maxBodyBytes + recvRoom)
    (hbody : c.state = .readingBody → c.expectedBody ≤ options.maxBodyBytes) :
    c'.Modest options where
  head := fun hst => (h.head hst).2
  body := fun hst => (h.body hst).imp_right fun hkeeps => hkeeps hbody
  room := h.shorter.trans hroom

theorem Modest.length_le_of_reading (h : c.Modest options)
    (hst : c.state = .readingHead ∨ c.state = .readingBody) :
    c.inbox.length ≤ options.maxHeaderBytes + options.maxBodyBytes := by
  rcases hst with hst | hst
  · exact (h.head hst).trans (Nat.le_add_right ..)
  · obtain ⟨hshort, hbody⟩ := h.body hst
    omega

theorem Modest.answered {resp : HttpResponse} {sends : List SendResult} (h : c.Modest options)
    (hst : c.state = .deferred) (hbrief : c.Brief options)
    (hout : (c.release.beginResponse resp c.deferredKeepAlive sends).1 = .alive c') :
    c'.Modest options ∧ c'.Brief options := by
  obtain ⟨hinbox, _, hstate⟩ := beginResponse_alive hout
  replace hinbox : c'.inbox = c.inbox := hinbox
  rcases hstate with hstate | ⟨hstate, _⟩
  all_goals
    refine ⟨⟨fun _ => ?_, by simp [hstate], hinbox ▸ h.room⟩, by simp [Brief, hstate]⟩
    exact hinbox ▸ hbrief hst

end Connection

/-- The condition on a step: a connection that waits for a postponed answer is
not read from, and its inbox is short when postponed answers go out.  A readable
event stands for one call of `recv`. -/
def Sparing (config : ServerConfig) (l : EventLoop) : Action → Prop
  | .readable fd recvs _ => recvs.length ≤ 1 ∧
      (∀ c ∈ l.connections.lookup fd, c.state ≠ .deferred) ∧
      ∀ result ∈ recvs, result.bytes.length ≤ recvRoom
  | .drained _ | .swept .. => ∀ entry ∈ l.connections.entries, entry.2.Brief config.options
  | _ => True

instance (config : ServerConfig) (l : EventLoop) :
    (action : Action) → Decidable (Sparing config l action)
  | .readable .. => inferInstanceAs (Decidable (_ ∧ _ ∧ _))
  | .drained _ | .swept .. => List.decidableBAll _ _
  | .accepted .. | .writable .. | .hangup _ | .resolved .. | .posted _
  | .attachedElsewhere _ | .cancelledElsewhere _ => instDecidableTrue

namespace EventLoop

variable {cfg : ServerConfig} {l : EventLoop} {c c' : Connection} {shared shared' : Shared}
  {sends : List SendResult}

theorem onReadable_modest {recvs : List RecvResult} (hone : recvs.length ≤ 1)
    (hopen : c.state ≠ .deferred) (hrecvs : ∀ result ∈ recvs, result.bytes.length ≤ recvRoom)
    (hc : c.Modest cfg.options)
    (h : onReadable cfg shared c recvs sends = (shared', .alive c')) : c'.Modest cfg.options := by
  unfold onReadable at h
  split at h
  · cases h
    exact hc
  next hwrites =>
    match recvs, hone with
    | [], _ | [.interrupted], _ =>
      cases h
      exact hc
    | [.data bytes], _ =>
      have hlen : bytes.length ≤ recvRoom := hrecvs (.data bytes) (by simp)
      have hreads : c.state = .readingHead ∨ c.state = .readingBody := by
        cases hst : c.state <;> simp_all
      have hread := hc.length_le_of_reading hreads
      unfold readLoop at h
      split at h
      next hcons =>
        have hmodest := (consumeInput_settled hcons).modest
          (by rw [receive, length_append]; omega) fun hst => (hc.body hst).2
        split at h
        all_goals
          cases h
          exact hmodest
      · cases h
    | [.shutdown], _ | [.failed], _ => cases h

/-- While every inbox behind a postponed request is short, the answers keep it
so. -/
def AllBrief (config : ServerConfig) : EventLoop → Prop :=
  All fun c => c.Modest config.options ∧ c.Brief config.options

theorem applyAll_brief (sends : List SendResult) (entries : List Resolved)
    (h : l.AllBrief cfg) : (l.applyAll sends entries).AllBrief cfg := by
  induction entries generalizing l sends with
  | nil => exact h
  | cons entry rest ih =>
    refine ih _ ?_
    split
    · exact h
    next c hc =>
      split
      · exact h
      next hwaits =>
        obtain ⟨hmodest, hbrief⟩ := h _ c hc
        exact All.settle h fun c' => hmodest.answered (not_not.mp (not_or.mp hwaits).2) hbrief

theorem sweepTimeouts_brief (expired : List ℕ) (h : l.AllBrief cfg) :
    (l.sweepTimeouts cfg sends expired).AllBrief cfg := by
  induction expired generalizing l sends with
  | nil => exact h
  | cons fd rest ih =>
    refine ih ?_
    split
    · exact h
    next c hc =>
      obtain ⟨hmodest, hbrief⟩ := h fd c hc
      split
      next hst _ =>
        dsimp only
        split
        · exact All.settle h fun c' => hmodest.answered hst hbrief
        · refine All.settle h fun c' hc' => ?_
          cases hc'
          exact ⟨{ hmodest with }, hbrief⟩
      · exact All.closeConnection h fd

theorem perform_modest {action : Action} (hspares : Sparing cfg l action)
    (h : l.All (Modest cfg.options)) : (l.perform cfg action).All (Modest cfg.options) := by
  have hbrief : (∀ entry ∈ l.connections.entries, entry.2.Brief cfg.options) → l.AllBrief cfg :=
    fun hall fd c hc => ⟨h fd c hc, hall ⟨fd, c⟩ (AList.mem_lookup_iff.mp hc)⟩
  cases action with
  | accepted fd ip =>
    exact h.addConnection fd ip fun _ => ⟨fun _ => Nat.zero_le _, nofun, Nat.zero_le _⟩
  | readable fd recvs sends =>
    exact h.withConnection fd fun c _ _ hc hlook hread =>
      onReadable_modest hspares.1 (hspares.2.1 c hlook) hspares.2.2 hc hread
  | writable fd sends =>
    exact h.withConnection fd fun _ _ _ hc _ hwrite =>
      (onWritable_settled hwrite).elim (fun h => h ▸ hc)
        fun hset => hset.modest hc.room fun hst => (hc.body hst).2
  | hangup fd => exact h.closeConnection fd
  | drained sends =>
    have hdrained := applyAll_brief (l := { l with shared := { l.shared with mailbox := [] } })
      sends l.shared.mailbox (hbrief hspares)
    exact fun fd c hc => (hdrained fd c hc).1
  | swept expired sends => exact fun fd c hc => (sweepTimeouts_brief _ (hbrief hspares) fd c hc).1
  | resolved | posted | attachedElsewhere | cancelledElsewhere => exact h

/-- In every run that does not read behind a postponed request, an inbox is
within the bound, and stays so with what the next call of `recv` brings. -/
theorem inbox_le_inboxBound (config : ServerConfig) {actions : List Action}
    (h : Run.Along (perform config) (Sparing config) {} actions) {fd : ℕ} {c : Connection}
    (hc : (Run.run (perform config) {} actions).connections.lookup fd = some c) :
    c.inbox.length ≤ config.options.inboxBound ∧ (c.state = .readingHead ∨ c.state = .readingBody →
        c.inbox.length + recvRoom ≤ config.options.inboxBound) := by
  have hmodest : c.Modest config.options :=
    Run.run_invariant (All (Modest config.options)) h nofun (fun _ _ => perform_modest) fd c hc
  unfold AsyncHttpServerOptions.inboxBound
  refine ⟨hmodest.room.trans (Nat.le_add_right ..), fun hst => ?_⟩
  have hread := hmodest.length_le_of_reading hst
  omega

theorem oneAtATime_inbox_le : ∃ c,
    (Run.run (perform postponing) {} oneAtATime).connections.lookup 7 = some c ∧
      c.inbox.length + recvRoom ≤ postponing.options.inboxBound := by
  obtain ⟨c, hc, hstate⟩ : ∃ c ∈ (Run.run (perform postponing) {} oneAtATime).connections.lookup 7,
      c.state = .readingHead := by decide +kernel
  exact ⟨c, hc, (inbox_le_inboxBound postponing (by decide +kernel) hc).2 (.inl hstate)⟩

/-- A postponed request with two receptions behind it, in one readable event of
a server that takes short heads and no bodies. -/
theorem inboxBound_lt_inbox :
    ((Run.run (perform { postponing with options := { maxHeaderBytes := 100, maxBodyBytes := 0 } }) {}
      [.accepted 7 [], .readable 7 [.data "GET /a HTTP/1.1\r\n\r\n",
        .data (.replicate recvRoom 0), .data (.replicate recvRoom 0)] []]).connections.lookup 7).any
      (fun c => decide (AsyncHttpServerOptions.inboxBound { maxHeaderBytes := 100, maxBodyBytes := 0 } <
        c.inbox.length)) = true := by
  decide +kernel

end EventLoop

end RtmpCore.Http
