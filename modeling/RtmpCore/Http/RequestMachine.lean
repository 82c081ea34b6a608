import RtmpCore.Http.Answers
import RtmpCore.Http.Framing
import RtmpCore.Support.Incremental

/-!
# A connection as an incremental machine

As long as no response is postponed and no send blocks, a connection does
nothing but take one request after another off the front of what it received.
This is an incremental machine in the sense of `Support.Incremental`: an
attempt takes a whole request, asks for more bytes, or ends the connection.

The machine keeps the bytes of a head in the buffer until the body is there as
well, while the connection moves them out of its inbox.  `Connection.At` says
how the two correspond.
-/

namespace RtmpCore.Http

open Text Incremental List

/-! ## The machine -/

/-- A request and the response that was begun.  A response whose slice lies
outside of its buffer is not begun. -/
structure Turn where
  exchange : Exchange
  answer : Option Answer
deriving DecidableEq

def refusal (status : ℕ) : Turn :=
  ⟨⟨[], [], .refused status⟩, some ⟨Connection.badRequest status, false⟩⟩

/-- How far a connection has come: the calls of the handler so far and the
requests that were served on the connection. -/
structure Position where
  calls : ℕ
  served : ℕ
deriving DecidableEq

def Position.next (s : Position) : Position := ⟨s.calls + 1, s.served + 1⟩

/-- A request that stands at the front of the unread bytes: where its head
ends, what the head says and how long the body is. -/
structure FrontRequest where
  marker : ℕ
  request : HttpRequest
  length : ℕ

namespace FrontRequest

variable (config : ServerConfig) (clientIp : Bytes) (s : Position) (front : FrontRequest)
  (b : Bytes)

def size : ℕ := front.marker + headEnd.length + front.length

/-- The request as the handler sees it. -/
def full : HttpRequest :=
  { front.request with
    body := (b.drop (front.marker + headEnd.length)).take front.length
    clientIp := forwardedIp config clientIp front.request }

def response : HttpResponse := handlerResponse config s.calls (front.full config clientIp b)

def keepAlive : Bool := staysOpen config.options (front.full config clientIp b) s.served

def exchange : Exchange :=
  ⟨b.take front.marker, (b.drop (front.marker + headEnd.length)).take front.length,
    .handled (front.response config clientIp s b)⟩

/-- The response can be sent, and the connection goes on after it. -/
def KeptOpen : Prop :=
  ((front.response config clientIp s b).sharedBody = [] ∨
      (front.response config clientIp s b).SliceInBounds) ∧
    front.keepAlive config clientIp s b = true

/-- Answer a request that is there in full. -/
def serve : Attempt Position UInt8 Turn :=
  let response := front.response config clientIp s b
  let exchange := front.exchange config clientIp s b
  if response.sharedBody ≠ [] ∧ ¬ response.SliceInBounds then .stopped s.next [⟨exchange, none⟩]
  else if front.keepAlive config clientIp s b then
    .consumed s.next (b.drop front.size) [⟨exchange, some ⟨response, true⟩⟩]
  else .stopped s.next [⟨exchange, some ⟨response, false⟩⟩]

end FrontRequest

/-- One round on everything that is unread.  Without the end of a head in
sight, the limit is applied to what there is. -/
def requestAttempt (config : ServerConfig) (clientIp : Bytes)
    (s : Position) (b : Bytes) : Attempt Position UInt8 Turn :=
  match find headEnd b with
  | none =>
    if b ≠ [] ∧ config.options.maxHeaderBytes ≤ b.length then .stopped s [refusal 431]
    else .needMore s
  | some marker =>
    match acceptHead config.options clientIp b marker with
    | .error status => .stopped s [refusal status]
    | .ok (request, length) =>
      let front : FrontRequest := ⟨marker, request, length⟩
      if b.length < front.size then .needMore s
      else front.serve config clientIp s b

/-- A whole request stands at the front of `b`. -/
structure FrontRequest.Stands (config : ServerConfig) (clientIp : Bytes)
    (front : FrontRequest) (b : Bytes) : Prop where
  marked : find headEnd b = some front.marker
  accepted : acceptHead config.options clientIp b front.marker = .ok (front.request, front.length)
  complete : front.size ≤ b.length

section Attempts

variable {cfg : ServerConfig} {ip b : Bytes} {s : Position}

theorem requestAttempt_unmarked (h : find headEnd b = none) : requestAttempt cfg ip s b =
      if b ≠ [] ∧ cfg.options.maxHeaderBytes ≤ b.length then .stopped s [refusal 431]
      else .needMore s := by
  rw [requestAttempt, h]

theorem requestAttempt_refused {marker status : ℕ} (hmark : find headEnd b = some marker)
    (hacc : acceptHead cfg.options ip b marker = .error status) :
    requestAttempt cfg ip s b = .stopped s [refusal status] := by
  rw [requestAttempt, hmark]
  dsimp only
  rw [hacc]

theorem requestAttempt_accepted (front : FrontRequest) (hmark : find headEnd b = some front.marker)
    (hacc : acceptHead cfg.options ip b front.marker = .ok (front.request, front.length)) :
    requestAttempt cfg ip s b = if b.length < front.size then .needMore s
      else front.serve cfg ip s b := by
  rw [requestAttempt, hmark]
  dsimp only
  rw [hacc]

theorem requestAttempt_stands {front : FrontRequest} (h : front.Stands cfg ip b) :
    requestAttempt cfg ip s b = front.serve cfg ip s b := by
  rw [requestAttempt_accepted front h.marked h.accepted, if_neg (Nat.not_lt.mpr h.complete)]

/-- What an attempt can do.  A request after which the connection goes on is
taken; any other one ends the connection. -/
inductive Tried (config : ServerConfig) (clientIp : Bytes) (s : Position) (b : Bytes) :
    Attempt Position UInt8 Turn → Prop where
  | waits : Tried config clientIp s b (.needMore s)
  | limit (hmark : find headEnd b = none) (hbytes : b ≠ [])
      (hlimit : config.options.maxHeaderBytes ≤ b.length) :
      Tried config clientIp s b (.stopped s [refusal 431])
  | refused {marker status : ℕ} (hmark : find headEnd b = some marker)
      (haccept : acceptHead config.options clientIp b marker = .error status) :
      Tried config clientIp s b (.stopped s [refusal status])
  | taken {front : FrontRequest} (hstands : front.Stands config clientIp b)
      (hopen : front.KeptOpen config clientIp s b) :
      Tried config clientIp s b (.consumed s.next (b.drop front.size)
        [⟨front.exchange config clientIp s b, some ⟨front.response config clientIp s b, true⟩⟩])
  | ended {front : FrontRequest} {answer : Option Answer}
      (hstands : front.Stands config clientIp b) (hended : ¬front.KeptOpen config clientIp s b) :
      Tried config clientIp s b (.stopped s.next [⟨front.exchange config clientIp s b, answer⟩])

theorem FrontRequest.serve_keptOpen {front : FrontRequest} (h : front.KeptOpen cfg ip s b) :
    front.serve cfg ip s b = .consumed s.next (b.drop front.size)
      [⟨front.exchange cfg ip s b, some ⟨front.response cfg ip s b, true⟩⟩] := by
  have hslice : ¬((front.response cfg ip s b).sharedBody ≠ [] ∧
      ¬(front.response cfg ip s b).SliceInBounds) := not_and_or.mpr (by simpa using h.1)
  simp only [serve, if_neg hslice, h.2, if_true]

theorem FrontRequest.Stands.tried {front : FrontRequest} (h : front.Stands cfg ip b) :
    Tried cfg ip s b (front.serve cfg ip s b) := by
  dsimp only [serve]
  split_ifs with hslice hkeep
  · refine .ended h ?_
    rintro ⟨hemp | hbounds, -⟩
    · exact hslice.1 hemp
    · exact hslice.2 hbounds
  · refine .taken h ⟨?_, hkeep⟩
    by_contra hbad
    exact hslice (not_or.mp hbad)
  · exact .ended h fun hopen => hkeep hopen.2

theorem requestAttempt_tried (cfg : ServerConfig) (ip : Bytes) (s : Position) (b : Bytes) :
    Tried cfg ip s b (requestAttempt cfg ip s b) := by
  cases hmark : find headEnd b with
  | none =>
    rw [requestAttempt_unmarked hmark]
    split
    next hlim => exact .limit hmark hlim.1 hlim.2
    · exact .waits
  | some marker =>
    cases hacc : acceptHead cfg.options ip b marker with
    | error status =>
      rw [requestAttempt_refused hmark hacc]
      exact .refused hmark hacc
    | ok accepted =>
      rw [requestAttempt_accepted ⟨marker, accepted.1, accepted.2⟩ hmark hacc]
      split
      · exact .waits
      next hcomp => exact FrontRequest.Stands.tried ⟨hmark, hacc, Nat.not_lt.mp hcomp⟩

theorem tried_of_eq {attempt : Attempt Position UInt8 Turn}
    (h : requestAttempt cfg ip s b = attempt) : Tried cfg ip s b attempt :=
  h ▸ requestAttempt_tried cfg ip s b

end Attempts

theorem FrontRequest.size_pos (front : FrontRequest) : 0 < front.size := by
  have hend : 0 < headEnd.length := by decide
  unfold size
  omega

/-- The machine a connection is. -/
def requestMachine (config : ServerConfig) (clientIp : Bytes) : Machine Position UInt8 Turn where
  attempt := requestAttempt config clientIp
  rest_shorter := by
    intro s s' b r o h
    cases tried_of_eq h with
    | @taken front hstands _ =>
      have hpos := front.size_pos
      have hcomplete := hstands.complete
      rw [length_drop]
      omega

theorem attempt_nil (cfg : ServerConfig) (ip : Bytes) (s : Position) :
    (requestMachine cfg ip).attempt s [] = .needMore s := by
  change requestAttempt cfg ip s [] = .needMore s
  rw [requestAttempt_unmarked (by rfl), if_neg (by simp)]

/-! ## More bytes -/

section More

variable {cfg : ServerConfig} {ip b : Bytes} {s : Position}

theorem acceptHead_append {marker : ℕ} (hmark : find headEnd b = some marker) (x : Bytes) :
    acceptHead cfg.options ip (b ++ x) marker = acceptHead cfg.options ip b marker := by
  have hle := add_length_le_of_find hmark
  unfold acceptHead
  rw [take_append_of_le_length (by omega)]

namespace FrontRequest

variable {front : FrontRequest}

section

variable (h : front.Stands cfg ip b)
include h

theorem Stands.append (x : Bytes) : front.Stands cfg ip (b ++ x) where
  marked := find_append h.marked x
  accepted := by rw [acceptHead_append h.marked, h.accepted]
  complete := by
    rw [length_append]
    exact Nat.le_add_right_of_le h.complete

theorem Stands.full_append (x : Bytes) : front.full cfg ip (b ++ x) = front.full cfg ip b := by
  have hsize := h.complete
  unfold size at hsize
  have hbody : ((b ++ x).drop (front.marker + headEnd.length)).take front.length =
        (b.drop (front.marker + headEnd.length)).take front.length := by
    rw [drop_append_of_le_length (by omega), take_append_of_le_length]
    rw [length_drop]
    omega
  simp only [full, hbody]

theorem Stands.exchange_append (x : Bytes) :
    front.exchange cfg ip s (b ++ x) = front.exchange cfg ip s b := by
  have hsize := h.complete
  unfold size at hsize
  have hbody : (front.full cfg ip (b ++ x)).body =
      (front.full cfg ip b).body := by rw [h.full_append]
  have hresp : front.response cfg ip s (b ++ x) = front.response cfg ip s b := by
    rw [response, h.full_append, response]
  dsimp only [full] at hbody
  rw [exchange, exchange, hresp, hbody, take_append_of_le_length (by omega)]

theorem Stands.keptOpen_append (x : Bytes) :
    front.KeptOpen cfg ip s (b ++ x) ↔ front.KeptOpen cfg ip s b := by
  unfold KeptOpen response keepAlive
  rw [h.full_append]

theorem Stands.attempt_append (x : Bytes) :
    requestAttempt cfg ip s (b ++ x) = (requestAttempt cfg ip s b).append x := by
  have hresp : front.response cfg ip s (b ++ x) = front.response cfg ip s b := by
    rw [response, h.full_append, response]
  have hkeep : front.keepAlive cfg ip s (b ++ x) = front.keepAlive cfg ip s b := by
    rw [keepAlive, h.full_append, keepAlive]
  rw [requestAttempt_stands h, requestAttempt_stands (h.append x)]
  simp only [serve, hresp, hkeep, h.exchange_append, drop_append_of_le_length h.complete]
  split
  · rfl
  · split <;> rfl

end

end FrontRequest

end More

end RtmpCore.Http
