import RtmpCore.Http.Prompt

/-!
# Requests and the cuts of the transport

A head is too long if its end stands behind `maxHeaderBytes`.  As long as the
end is not in sight, the same limit is applied to the bytes that are there, up
to three of which may already belong to the end of the head.  A head whose
length comes this close to the limit is served or refused depending on where
the transport happens to cut it; all others are treated alike however they
arrive.
-/

namespace RtmpCore.Http

open Text Incremental List AList

/-! ## Heads that come close to the limit -/

/-- Among the requests of a stream there is one whose head is within the limit
while its bytes can reach the limit before its end is in sight. -/
inductive Straddles (config : ServerConfig) (clientIp : Bytes) : Position → Bytes → Prop where
  | here {s : Position} {stream : Bytes} {marker : ℕ} (hmarker : find headEnd stream = some marker)
      (hwithin : marker ≤ config.options.maxHeaderBytes)
      (hreach : config.options.maxHeaderBytes < marker + headEnd.length) :
      Straddles config clientIp s stream
  | later {s : Position} {stream : Bytes} {front : FrontRequest}
      (hstands : front.Stands config clientIp stream)
      (hopen : front.KeptOpen config clientIp s stream)
      (hrest : Straddles config clientIp s.next (stream.drop front.size)) :
      Straddles config clientIp s stream

section Machine

variable {cfg : ServerConfig} {ip b x : Bytes} {s : Position}

/-- Without its end in sight, a head that does not come close to the limit is
refused only if it is too long. -/
theorem requestAttempt_limit_append (h : ¬ Straddles cfg ip s (b ++ x))
    (hmark : find headEnd b = none) (hby : b ≠ []) (hlim : cfg.options.maxHeaderBytes ≤ b.length) :
    requestAttempt cfg ip s (b ++ x) = .stopped s [refusal 431] := by
  cases hlong : find headEnd (b ++ x) with
  | none =>
    rw [requestAttempt_unmarked hlong, if_pos]
    refine ⟨by simp [hby], ?_⟩
    rw [length_append]
    omega
  | some marker =>
    -- the end of the head is not among the first bytes
    have hreach : b.length < marker + headEnd.length := by
      by_contra hroom
      have hfound := find_take hlong (Nat.not_lt.mp hroom)
      rw [take_left, hmark] at hfound
      cases hfound
    have hbeyond : cfg.options.maxHeaderBytes < marker := by
      by_contra hin
      exact h (.here hlong (Nat.not_lt.mp hin) (by omega))
    exact requestAttempt_refused hlong (if_pos hbeyond)

theorem requestMachine_stableOn (cfg : ServerConfig) (ip : Bytes) :
    StableOn (requestMachine cfg ip) fun s stream =>
      ¬ Straddles cfg ip s stream where
  consumed_append := by
    intro s s' b r o x hclear hatt
    cases tried_of_eq hatt with
    | @taken front hstands hopen =>
      refine ⟨(hstands.attempt_append x).trans (congrArg (Attempt.append x) hatt), fun hstrad => ?_⟩
      refine hclear (.later (hstands.append x) ((hstands.keptOpen_append x).mpr hopen) ?_)
      rwa [drop_append_of_le_length hstands.complete]
  stopped_append := by
    intro s s' b o x hclear hatt
    cases tried_of_eq hatt with
    | limit hmark hby hlim => exact requestAttempt_limit_append hclear hmark hby hlim
    | refused hmark hacc =>
      exact requestAttempt_refused (find_append hmark x) ((acceptHead_append hmark x).trans hacc)
    | ended hstands _ => exact (hstands.attempt_append x).trans (congrArg (Attempt.append x) hatt)
  needMore_retry := by
    intro s s' b x hclear hatt
    cases tried_of_eq hatt
    exact ⟨rfl, hclear⟩

/-! ## Two cuts that make a difference -/

/-- The machine before the first byte. -/
def Position.fresh (s : Position) : Config Position UInt8 := ⟨s, [], false⟩

def bytewise (bytes : Bytes) : List Bytes := bytes.map fun b => [b]

@[simp] theorem flatten_bytewise (bytes : Bytes) : (bytewise bytes).flatten = bytes := by
  induction bytes with
  | nil => rfl
  | cons b rest ih => simpa [bytewise] using ih

/-- A piece as one `recv` may bring it. -/
def Receivable (piece : Bytes) : Prop := piece ≠ [] ∧ piece.length ≤ recvRoom

variable {piece stream : Bytes} {pieces : List Bytes} {count size marker : ℕ} {front : FrontRequest}

theorem receivable_bytewise {bytes : Bytes} (h : piece ∈ bytewise bytes) : Receivable piece := by
  obtain ⟨b, -, rfl⟩ := mem_map.mp h
  exact ⟨cons_ne_nil _ _, (by decide : 1 ≤ recvRoom)⟩

theorem not_straddles_unmarked (h : find headEnd stream = none) : ¬ Straddles cfg ip s stream := by
  intro hstrad
  cases hstrad with
  | here hmark => cases h.symm.trans hmark
  | later hstands => cases h.symm.trans hstands.marked

/-- A stream that does not come close to the limit may as well arrive at
once. -/
theorem feedAll_bytewise (h : ¬ Straddles cfg ip s stream) :
    feedAll (requestMachine cfg ip) s.fresh (bytewise stream) =
      drain (requestMachine cfg ip) s stream := by
  rw [(requestMachine_stableOn cfg ip).feedAll_eq_feed_flatten, flatten_bytewise]
  · by_cases hemp : stream = []
    · rw [feed_of_skipped (.inr hemp), hemp, drain_of_needMore (attempt_nil cfg ip s)]
      rfl
    · rw [feed_of_running rfl hemp]
      rfl
  · rw [flatten_bytewise]
    exact fun _ => h

theorem acceptHead_error_ne {status : ℕ} (hin : marker ≤ cfg.options.maxHeaderBytes)
    (h : acceptHead cfg.options ip b marker = .error status) : status ≠ 431 := by
  rw [acceptHead, if_neg (Nat.not_lt.mpr hin)] at h
  split at h
  · cases h
    decide
  · split at h
    · cases h
      decide
    · split at h
      · cases h
        decide
      · cases h

/-- Once the end of a head is in sight within the limit, the head is not
refused for its length. -/
theorem drain_marked (hmark : find headEnd b = some marker)
    (hin : marker ≤ cfg.options.maxHeaderBytes) :
    drain (requestMachine cfg ip) s b = (⟨s, b, false⟩, []) ∨ ∃ c turn turns,
        drain (requestMachine cfg ip) s b = (c, turn :: turns) ∧
          turn.exchange.reply ≠ .refused 431 := by
  generalize hatt : requestAttempt cfg ip s b = attempt
  cases tried_of_eq hatt with
  | waits => exact .inl (drain_of_needMore (M := requestMachine cfg ip) hatt)
  | limit hnone => cases hmark.symm.trans hnone
  | refused hmark' hacc =>
    cases hmark.symm.trans hmark'
    refine .inr ⟨_, _, _, drain_of_stopped (M := requestMachine cfg ip) hatt, fun hrep => ?_⟩
    cases hrep
    exact acceptHead_error_ne hin hacc rfl
  | taken _ _ => exact .inr ⟨_, _, _, drain_of_consumed (M := requestMachine cfg ip) hatt, nofun⟩
  | ended _ _ => exact .inr ⟨_, _, _, drain_of_stopped (M := requestMachine cfg ip) hatt, nofun⟩

theorem feedAll_marked (hmark : find headEnd b = some marker)
    (hin : marker ≤ cfg.options.maxHeaderBytes) :
    ∀ turn ∈ ((drain (requestMachine cfg ip) s b).2 ++ (feedAll (requestMachine cfg ip)
        (drain (requestMachine cfg ip) s b).1 pieces).2).head?,
      turn.exchange.reply ≠ .refused 431 := by
  induction pieces generalizing b with
  | nil =>
    rcases drain_marked (s := s) hmark hin with hwaits | ⟨c, turn, turns, hdrain, hrep⟩
    · rw [hwaits]
      exact nofun
    · rw [hdrain]
      rintro first ⟨⟩
      exact hrep
  | cons piece rest ih =>
    rcases drain_marked (s := s) hmark hin with hwaits | ⟨c, turn, turns, hdrain, hrep⟩
    · by_cases hemp : piece = []
      · rw [feedAll, feed_of_skipped (.inr hemp)]
        exact ih hmark
      · rw [hwaits, feedAll, feed_of_running rfl hemp]
        exact ih (find_append hmark piece)
    · rw [hdrain]
      rintro first ⟨⟩
      exact hrep

/-- A cut with one longer piece: `count` bytes one by one, the next `size`
bytes together, and the rest one by one. -/
def cutAt (stream : Bytes) (count size : ℕ) : List Bytes :=
  bytewise (stream.take count) ++
    (stream.drop count).take size :: bytewise (stream.drop (count + size))

theorem flatten_cutAt (stream : Bytes) (count size : ℕ) :
    (cutAt stream count size).flatten = stream := by
  rw [cutAt, flatten_append, flatten_cons, flatten_bytewise,
    flatten_bytewise, ← drop_drop, take_append_drop, take_append_drop]

theorem receivable_cutAt (hcnt : count < stream.length) (hsize : 0 < size)
    (hroom : size ≤ recvRoom) (h : piece ∈ cutAt stream count size) : Receivable piece := by
  rcases mem_append.mp h with hfront | hrest
  · exact receivable_bytewise hfront
  · rcases mem_cons.mp hrest with rfl | hrest
    · refine ⟨ne_nil_of_length_pos ?_, ?_⟩ <;>
        rw [length_take, length_drop] <;> omega
    · exact receivable_bytewise hrest

/-- Nothing happens before the longer piece, if the head is incomplete and
short of the limit until there. -/
theorem feedAll_cutAt (hmark : find headEnd stream = some marker)
    (hcnt : count < marker + headEnd.length) (hsize : 0 < size)
    (hlim : count < cfg.options.maxHeaderBytes ∨ count = 0) :
    (feedAll (requestMachine cfg ip) s.fresh (cutAt stream count size)).2 =
      (drain (requestMachine cfg ip) s (stream.take (count + size))).2 ++
        (feedAll (requestMachine cfg ip) (drain (requestMachine cfg ip) s
            (stream.take (count + size))).1
          (bytewise (stream.drop (count + size)))).2 := by
  have hlen := add_length_le_of_find hmark
  have hnone := find_take_eq_none hmark hcnt
  have hfront : feedAll (requestMachine cfg ip) s.fresh
      (bytewise (stream.take count)) = (⟨s, stream.take count, false⟩, []) := by
    rw [feedAll_bytewise (not_straddles_unmarked hnone)]
    refine drain_of_needMore ((requestAttempt_unmarked hnone).trans (if_neg ?_))
    rintro ⟨hemp, hrch⟩
    rw [length_take] at hrch
    rcases hlim with hshort | rfl
    · omega
    · exact hemp rfl
  have hpiece : (stream.drop count).take size ≠ [] := by
    refine ne_nil_of_length_pos ?_
    rw [length_take, length_drop]
    omega
  rw [cutAt, feedAll_append, hfront, feedAll, feed_of_running rfl hpiece, ← take_add]
  rfl

/-- The end of the head begins within the limit and ends behind it. -/
def AcrossLimit (config : ServerConfig) (marker : ℕ) : Prop :=
  marker ≤ config.options.maxHeaderBytes ∧ config.options.maxHeaderBytes < marker + headEnd.length

/-- Two cuts of a stream after which different requests are recorded. -/
def CutsDiffer (config : ServerConfig) (clientIp : Bytes) (s : Position) (stream : Bytes) : Prop :=
  ∃ pieces pieces' : List Bytes, (∀ piece ∈ pieces, Receivable piece) ∧
      (∀ piece ∈ pieces', Receivable piece) ∧
      pieces.flatten = stream ∧ pieces'.flatten = stream ∧
      (feedAll (requestMachine config clientIp) s.fresh pieces).2.map Turn.exchange ≠
        (feedAll (requestMachine config clientIp) s.fresh pieces').2.map
          Turn.exchange

/-- A head within the limit is refused if the last byte that was received is
the one that reaches the limit.  It is treated as any other one if its end
arrives together with that byte. -/
theorem cutsDiffer_here (hmark : find headEnd stream = some marker)
    (hacross : AcrossLimit cfg marker) : CutsDiffer cfg ip s stream := by
  obtain ⟨hin, hreach⟩ := hacross
  have hend : headEnd.length = 4 := rfl
  have hroom : 5 ≤ recvRoom := by decide
  have hlen := add_length_le_of_find hmark
  generalize hcnt : cfg.options.maxHeaderBytes - 1 = count
  generalize hsize : marker + headEnd.length - count = size
  have hbef : count < marker + headEnd.length := by omega
  have hlim : count < cfg.options.maxHeaderBytes ∨ count = 0 := by omega
  have href : (feedAll (requestMachine cfg ip) s.fresh
      (cutAt stream count 1)).2 = [refusal 431] := by
    have hatt : requestAttempt cfg ip s (stream.take (count + 1)) = .stopped s [refusal 431] := by
      rw [requestAttempt_unmarked (find_take_eq_none hmark (by omega)), if_pos]
      refine ⟨ne_nil_of_length_pos ?_, ?_⟩ <;>
        rw [length_take] <;> omega
    rw [feedAll_cutAt hmark hbef one_pos hlim, drain_of_stopped (M := requestMachine cfg ip) hatt,
      feedAll_of_stopped rfl]
    rfl
  have hother : ∀ turn ∈ (feedAll (requestMachine cfg ip) s.fresh
      (cutAt stream count size)).2.head?, turn.exchange.reply ≠ .refused 431 := by
    have hwhole : count + size = marker + headEnd.length := by omega
    rw [feedAll_cutAt hmark hbef (by omega) hlim]
    exact feedAll_marked (find_take hmark hwhole.ge) hin
  refine ⟨cutAt stream count 1, cutAt stream count size,
    fun piece => receivable_cutAt (by omega) one_pos (by omega),
    fun piece => receivable_cutAt (by omega) (by omega) (by omega),
    flatten_cutAt _ _ _, flatten_cutAt _ _ _, ?_⟩
  intro hsame
  rw [href] at hsame
  obtain ⟨turn, turns, hturns, hexchange, -⟩ := map_eq_cons_iff.mp hsame.symm
  refine hother turn ?_ ?_
  · rw [hturns]
    rfl
  · rw [hexchange]
    rfl

theorem not_straddles_take (hstands : front.Stands cfg ip (stream.take front.size))
    (hclear : ¬AcrossLimit cfg front.marker) : ¬ Straddles cfg ip s (stream.take front.size) := by
  intro h
  cases h with
  | here hmark hin hreach =>
    rw [hstands.marked] at hmark
    cases hmark
    exact hclear ⟨hin, hreach⟩
  | later hother hopen hrest =>
    rename_i other
    have hmark := hstands.marked.symm.trans hother.marked
    have hsame : other.size = front.size := by
      have hacc := hother.accepted
      rw [← Option.some.inj hmark, hstands.accepted] at hacc
      have hlengths := (Prod.mk.inj (Except.ok.inj hacc)).2
      rw [FrontRequest.size, FrontRequest.size, Option.some.inj hmark, hlengths]
    rw [drop_eq_nil_of_le (by rw [length_take]; omega)]
      at hrest
    -- nothing is behind the request
    exact not_straddles_unmarked rfl hrest

theorem feedAll_first (hstands : front.Stands cfg ip stream)
    (hopen : front.KeptOpen cfg ip s stream) (hclear : ¬AcrossLimit cfg front.marker) :
    ∃ turns, feedAll (requestMachine cfg ip) s.fresh
        (bytewise (stream.take front.size)) = (s.next.fresh, turns) := by
  have hlen := hstands.complete
  have hfst : front.Stands cfg ip (stream.take front.size) := by
    have hmkd : find headEnd (stream.take front.size) = some front.marker :=
      find_take hstands.marked (by unfold FrontRequest.size; omega)
    refine ⟨hmkd, ?_, by rw [length_take]; omega⟩
    rw [← hstands.accepted]
    nth_rewrite 2 [← take_append_drop front.size stream]
    exact (acceptHead_append hmkd _).symm
  have hkept : front.KeptOpen cfg ip s (stream.take front.size) := by
    rw [← hfst.keptOpen_append (stream.drop front.size), take_append_drop]
    exact hopen
  have hatt : (requestMachine cfg ip).attempt s (stream.take front.size) = .consumed s.next []
        [⟨front.exchange cfg ip s (stream.take front.size),
          some ⟨front.response cfg ip s (stream.take front.size), true⟩⟩] := by
    change requestAttempt cfg ip s (stream.take front.size) = _
    rw [requestAttempt_stands hfst, FrontRequest.serve_keptOpen hkept,
      drop_eq_nil_of_le (by rw [length_take]; omega)]
  rw [feedAll_bytewise (not_straddles_take hfst hclear), drain_of_consumed hatt,
    drain_of_needMore (attempt_nil cfg ip s.next)]
  exact ⟨_, rfl⟩

theorem Straddles.cutsDiffer (h : Straddles cfg ip s stream) : CutsDiffer cfg ip s stream := by
  induction h with
  | here hmark hin hreach => exact cutsDiffer_here hmark ⟨hin, hreach⟩
  | later hstands hopen _ ih =>
    rename_i s stream front _
    by_cases hclose : AcrossLimit cfg front.marker
    · exact cutsDiffer_here hstands.marked hclose
    obtain ⟨turns, hfst⟩ := feedAll_first hstands hopen hclose
    obtain ⟨pieces, pieces', hpcs, hpcs', hflat, hflat', hdiffer⟩ := ih
    have hrec : ∀ more : List Bytes, (∀ piece ∈ more, Receivable piece) →
          ∀ piece ∈ bytewise (stream.take front.size) ++ more, Receivable piece := by
      intro more hmore piece hpiece
      rcases mem_append.mp hpiece with hfront | hrest
      · exact receivable_bytewise hfront
      · exact hmore piece hrest
    refine ⟨_, _, hrec pieces hpcs, hrec pieces' hpcs', ?_, ?_, ?_⟩
    · rw [flatten_append, flatten_bytewise, hflat, take_append_drop]
    · rw [flatten_append, flatten_bytewise, hflat', take_append_drop]
    · rw [feedAll_append, feedAll_append, hfst]
      simp only [map_append]
      exact fun hsame => hdiffer (append_cancel_left hsame)

end Machine

/-! ## The loop -/

/-- One readable event of a socket. -/
structure ReadEvent where
  recvs : List RecvResult
  sends : List SendResult

namespace ReadEvent

def action (fd : ℕ) (event : ReadEvent) : Action := .readable fd event.recvs event.sends

def pieces (event : ReadEvent) : List Bytes := event.recvs.map RecvResult.bytes

end ReadEvent

/-- A client connects, and then its socket becomes readable time and again. -/
def arrivals (fd : ℕ) (clientIp : Bytes) (events : List ReadEvent) : List Action :=
  .accepted fd clientIp :: events.map (·.action fd)

/-- The condition on a step: `recv` brings bytes, and no send fails or
blocks. -/
def Prompt (config : ServerConfig) (l : EventLoop) : Action → Prop
  | .readable fd recvs sends =>
    (∀ result ∈ recvs, result.Regular) ∧ .failed ∉ sends ∧ ∀ c ∈ l.connections.lookup fd,
        (onReadable config l.shared c recvs sends).2.Unblocked
  | _ => True

instance (config : ServerConfig) (l : EventLoop) (action : Action) :
    Decidable (Prompt config l action) := by
  unfold Prompt
  split <;> infer_instance

namespace EventLoop

/-- The events bring the stream to a new connection of the loop. -/
structure Delivers (config : ServerConfig) (l : EventLoop) (fd : ℕ)
    (clientIp stream : Bytes) (events : List ReadEvent) : Prop where
  bytes : (events.flatMap ReadEvent.pieces).flatten = stream
  prompt : Run.Along (EventLoop.perform config) (Prompt config) l (arrivals fd clientIp events)

/-- The requests that were cut out of what the client sent with their replies,
the responses that were begun, and the bytes that were written. -/
def served (config : ServerConfig) (l : EventLoop) (fd : ℕ)
    (clientIp : Bytes) (events : List ReadEvent) : Option (List Exchange × List Answer × Bytes) :=
  let reached := Run.run (EventLoop.perform config) l (arrivals fd clientIp events)
  let transcript :=
    match reached.connections.lookup fd with
    | some c => some c.transcript
    | none => reached.finished[l.finished.length]?
  transcript.map fun t => (t.exchanges, t.answers, t.written)

/-- The connection behind `fd` has come to where the machine is. -/
inductive Follows (config : ServerConfig) (clientIp : Bytes)
    (fd : ℕ) (finished : List Transcript) (turns : List Turn)
    (m : Config Position UInt8) (l : EventLoop) : Prop where
  | running {c : Connection} (hc : l.connections.lookup fd = some c) (hrunning : m.stopped = false)
      (hat : c.At config clientIp l.shared m.state m.buffer)
      (hsaid : c.transcript.Says turns) (hfinished : l.finished = finished)
  | ended {t : Transcript} (hgone : l.connections.lookup fd = none)
      (hstopped : m.stopped = true) (hsaid : t.Says turns)
      (hfinished : l.finished = finished ++ [t])

section Follow

variable {cfg : ServerConfig} {clientIp : Bytes} {fd : ℕ}
  {finished : List Transcript} {turns : List Turn}
  {m : Config Position UInt8} {l : EventLoop}

theorem perform_accepted (hfree : fd ∉ l.connections) : l.perform cfg (.accepted fd clientIp) =
      { l with
        connections := l.connections.insert fd { fd, id := l.nextConnectionId, clientIp }
        nextConnectionId := l.nextConnectionId + 1 } :=
  if_neg hfree

theorem Follows.accepted (hfree : fd ∉ l.connections) :
    (l.perform cfg (.accepted fd clientIp)).Follows cfg clientIp fd
      l.finished [] (Position.fresh ⟨l.shared.requests, 0⟩) := by
  rw [perform_accepted hfree]
  exact .running (lookup_insert _) rfl ⟨rfl, rfl, rfl, rfl, .inl rfl⟩ ⟨rfl, rfl, rfl⟩ rfl

theorem Follows.read (honce : cfg.AnswersAtOnce) {ev : ReadEvent}
    (h : l.Follows cfg clientIp fd finished turns m) (hprompt : Prompt cfg l (ev.action fd)) :
    (l.perform cfg (ev.action fd)).Follows cfg clientIp fd finished
      (turns ++ (feedAll (requestMachine cfg clientIp) m ev.pieces).2)
      (feedAll (requestMachine cfg clientIp) m ev.pieces).1 := by
  have hperform : l.perform cfg (ev.action fd) = l.withConnection fd fun c =>
        onReadable cfg l.shared c ev.recvs ev.sends := rfl
  rw [hperform]
  cases h with
  | ended hgone hstop hsaid hfin =>
    rw [feedAll_of_stopped hstop, append_nil, withConnection, hgone]
    exact .ended hgone hstop hsaid hfin
  | @running c hc hrun hat hsaid hfin =>
    obtain ⟨hrecvs, hfail, hunbl⟩ := hprompt
    have hread : onReadable cfg l.shared c ev.recvs ev.sends = readLoop .. := if_neg hat.not_writing
    have hrch := readLoop_reaches honce hrecvs hat hsaid hfail (hread ▸ hunbl c hc)
    have hm : m = ⟨m.state, m.buffer, false⟩ := Config.ext rfl rfl hrun
    rw [← hm, ← hread] at hrch
    rw [withConnection, hc]
    dsimp only
    generalize onReadable cfg l.shared c ev.recvs ev.sends = result at hrch
    obtain ⟨shared, out⟩ := result
    cases out with
    | alive c =>
      obtain ⟨hrun', hat', hsaid'⟩ := hrch
      exact .running (lookup_insert _) hrun' hat' hsaid' hfin
    | closed t =>
      obtain ⟨hstop, hsaid'⟩ := hrch
      refine .ended (lookup_erase _ _) hstop hsaid' ?_
      exact congrArg (· ++ [t]) hfin

theorem Follows.run (honce : cfg.AnswersAtOnce) {evs : List ReadEvent}
    (h : l.Follows cfg clientIp fd finished turns m)
    (hprompt : Run.Along (EventLoop.perform cfg) (Prompt cfg) l (evs.map (·.action fd))) :
    (Run.run (EventLoop.perform cfg) l (evs.map (·.action fd))).Follows cfg clientIp fd finished
      (turns ++ (feedAll (requestMachine cfg clientIp) m (evs.flatMap ReadEvent.pieces)).2)
      (feedAll (requestMachine cfg clientIp) m (evs.flatMap ReadEvent.pieces)).1 := by
  induction evs generalizing l turns m with
  | nil => simpa [feedAll, Run.run] using h
  | cons ev rest ih =>
    obtain ⟨hfst, hrest⟩ := hprompt
    rw [flatMap_cons, feedAll_append, ← append_assoc]
    exact ih (h.read honce hfst) hrest

theorem Delivers.served_eq (honce : cfg.AnswersAtOnce) (hfree : fd ∉ l.connections) {stream : Bytes}
    {evs : List ReadEvent} (h : l.Delivers cfg fd clientIp stream evs) :
    l.served cfg fd clientIp evs =
      let turns := (feedAll (requestMachine cfg clientIp) (Position.fresh ⟨l.shared.requests, 0⟩)
        (evs.flatMap ReadEvent.pieces)).2
      some (turns.map Turn.exchange, turns.filterMap Turn.answer,
        (turns.filterMap Turn.answer).flatMap Answer.wire) := by
  have hfol := (Follows.accepted hfree).run honce h.prompt.2
  rw [served, arrivals]
  cases hfol with
  | running hc _ _ hsaid _ =>
    have hlook : (Run.run (EventLoop.perform cfg) l (.accepted fd clientIp :: evs.map
          (·.action fd))).connections.lookup fd = some _ := hc
    rw [hlook]
    simp [hsaid.exchanges, hsaid.answers, hsaid.written]
  | ended hgone _ hsaid hfin =>
    have hlook : (Run.run (EventLoop.perform cfg) l (.accepted fd clientIp :: evs.map
          (·.action fd))).connections.lookup fd = none := hgone
    have hlast : (Run.run (EventLoop.perform cfg) l
        (.accepted fd clientIp :: evs.map (·.action fd))).finished = l.finished ++ [_] := hfin
    rw [hlook, hlast]
    simp [hsaid.exchanges, hsaid.answers, hsaid.written]

/-- Every cut into pieces that `recv` may bring can be met with sends that do
not block. -/
theorem exists_delivers (cfg : ServerConfig) (clientIp : Bytes) (hfree : fd ∉ l.connections)
    {pieces : List Bytes} (hpcs : ∀ piece ∈ pieces, Receivable piece) :
    ∃ evs, l.Delivers cfg fd clientIp pieces.flatten evs ∧
      evs.flatMap ReadEvent.pieces = pieces := by
  obtain ⟨sends, hfail, hunbl⟩ := readLoop_servable cfg (pieces.map RecvResult.data) l.shared
    { fd, id := l.nextConnectionId, clientIp } nofun
  have hbrt : [ReadEvent.mk (pieces.map RecvResult.data) sends].flatMap
      ReadEvent.pieces = pieces := by
    simp [ReadEvent.pieces, Function.comp_def, RecvResult.bytes]
  refine ⟨[⟨pieces.map RecvResult.data, sends⟩], ⟨by rw [hbrt], ?_⟩, hbrt⟩
  refine ⟨trivial, ⟨?_, hfail, ?_⟩, trivial⟩
  · intro result hres
    obtain ⟨piece, hpiece, rfl⟩ := mem_map.mp hres
    exact hpcs piece hpiece
  · intro c hc
    rw [perform_accepted hfree, lookup_insert] at hc
    cases hc
    rw [perform_accepted hfree]
    exact hunbl

end Follow

/-- A stream is served alike however the transport cuts it, exactly if none of
its heads comes so close to the limit that it can reach it before its end is in
sight. -/
theorem served_alike_iff (config : ServerConfig) (honce : config.AnswersAtOnce)
    (l : EventLoop) {fd : ℕ} (hfree : fd ∉ l.connections) (clientIp stream : List UInt8) :
    (∀ events events', l.Delivers config fd clientIp stream events →
        l.Delivers config fd clientIp stream events' → (l.served config fd clientIp events).isSome ∧
            l.served config fd clientIp events = l.served config fd clientIp events') ↔
      ¬ Straddles config clientIp ⟨l.shared.requests, 0⟩ stream := by
  constructor
  · intro halike hstraddles
    obtain ⟨pieces, pieces', hpieces, hpieces', rfl, hflat, hdiffer⟩ := hstraddles.cutsDiffer
    obtain ⟨events, hdelivers, hbrought⟩ := exists_delivers config clientIp hfree hpieces
    obtain ⟨events', hdelivers', hbrought'⟩ := exists_delivers config clientIp hfree hpieces'
    rw [hflat] at hdelivers'
    have hsame := (halike events events' hdelivers hdelivers').2
    rw [hdelivers.served_eq honce hfree, hdelivers'.served_eq honce hfree,
      hbrought, hbrought'] at hsame
    exact hdiffer (congrArg Prod.fst (Option.some.inj hsame))
  · intro hclear events events' hdelivers hdelivers'
    have hwhole : ∀ {events : List ReadEvent}, l.Delivers config fd clientIp stream events →
          feedAll (requestMachine config clientIp) (Position.fresh ⟨l.shared.requests, 0⟩)
            (events.flatMap ReadEvent.pieces) =
          feed (requestMachine config clientIp) (Position.fresh ⟨l.shared.requests, 0⟩) stream := by
      intro events hdelivers
      rw [(requestMachine_stableOn config clientIp).feedAll_eq_feed_flatten, hdelivers.bytes]
      intro _
      rw [hdelivers.bytes]
      exact hclear
    rw [hdelivers.served_eq honce hfree, hdelivers'.served_eq honce hfree,
      hwhole hdelivers, hwhole hdelivers']
    exact ⟨rfl, rfl⟩

/-- The plain server with a limit of sixteen bytes for a head. -/
def narrowServer : ServerConfig := { plainServer with options := { maxHeaderBytes := 16 } }

theorem served_alike_iff_narrow : (∀ events events',
        EventLoop.Delivers narrowServer {} 7 [] "GET / HTTP\r\n\r\n"
            events →
          EventLoop.Delivers narrowServer {} 7 []
              "GET / HTTP\r\n\r\n" events' →
            (EventLoop.served narrowServer {} 7 [] events).isSome ∧
              EventLoop.served narrowServer {} 7 [] events =
                EventLoop.served narrowServer {} 7 [] events') ↔
      ¬ Straddles narrowServer [] ⟨0, 0⟩ "GET / HTTP\r\n\r\n" :=
  served_alike_iff narrowServer (fun _ _ => rfl) {} (by decide) [] _

/-- A request of fifteen bytes is served if it arrives at once, and refused if
its first seventeen bytes, with the first half of its end, arrive before the
others. -/
theorem served_differs_by_cut : ∃ events events' : List ReadEvent,
      EventLoop.Delivers narrowServer {} 7 []
          "GET /a HTTP/1.1\r\n\r\n" events ∧
        EventLoop.Delivers narrowServer {} 7 []
          "GET /a HTTP/1.1\r\n\r\n" events' ∧
        (EventLoop.served narrowServer {} 7 [] events).map (·.1) =
          some [⟨"GET /a HTTP/1.1", [], .handled {}⟩] ∧
        (EventLoop.served narrowServer {} 7 [] events').map (·.1) =
          some [⟨[], [], .refused 431⟩] := by
  refine ⟨[⟨[.data "GET /a HTTP/1.1\r\n\r\n"], [.accepted 1000]⟩],
    [⟨[.data "GET /a HTTP/1.1\r\n"], [.accepted 1000]⟩,
      ⟨[.data "\r\n"], []⟩], ⟨by decide +kernel, by decide +kernel⟩,
    ⟨by decide +kernel, by decide +kernel⟩, by decide +kernel,
    by decide +kernel⟩

end EventLoop

end RtmpCore.Http
