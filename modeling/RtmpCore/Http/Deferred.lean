import RtmpCore.Http.Message

/-!
# Postponed responses

A handler that cannot answer yet returns a `DeferredResponse`.  Three parties
then meet on that object: the event loop attaches the place where the answer
is to be delivered, whoever produces the media resolves it from another
thread, and the event loop cancels it when its time is up.  Each of the three
calls is one critical section; the completion runs after it.
-/

namespace RtmpCore.Http

/-- Where an answer goes: to the connection with that descriptor and identity
of the event loop, or to another event loop. -/
inductive Completion where
  | here (fd id : ℕ)
  | elsewhere
deriving DecidableEq

/-- A postponed response.  Once it is resolved or delivered it has no
completion left. -/
structure DeferredResponse where
  completion : Option Completion := none
  response : HttpResponse := {}
  resolved : Bool := false
  delivered : Bool := false
  idle_of_settled : resolved = true ∨ delivered = true → completion = none := by simp

namespace DeferredResponse

variable (d : DeferredResponse)

/-- Install a completion.  A response that is already there is delivered to it
at once. -/
def attach (completion : Completion) : DeferredResponse × Option (Completion × HttpResponse) :=
  if hdelivered : d.delivered = true then (d, none)
  else if hresolved : d.resolved = true then
    ({ d with
        delivered := true
        idle_of_settled := fun _ => d.idle_of_settled (.inl hresolved) },
      some (completion, d.response))
  else
    ({ d with
        completion := some completion
        idle_of_settled := fun h => (h.elim hresolved hdelivered).elim }, none)

/-- Supply the response.  The first call wins. -/
def resolve (response : HttpResponse) : DeferredResponse × Option (Completion × HttpResponse) :=
  if d.resolved = true ∨ d.delivered = true then (d, none)
  else
    match hcompletion : d.completion with
    | none =>
      ({ d with
          response
          resolved := true
          idle_of_settled := fun _ => hcompletion }, none)
    | some completion =>
      ({ completion := none
         response := d.response
         resolved := true
         delivered := true }, some (completion, response))

/-- Give the request back.  The answer says that no response was delivered and
none will be. -/
def cancel : DeferredResponse × Bool :=
  if d.delivered = true then (d, false)
  else
    ({ completion := none
       response := d.response
       resolved := d.resolved
       delivered := true }, true)

/-! ## What each call leaves behind -/

/-- Attaching finds the response delivered, finds it supplied and delivers it,
or installs the completion. -/
theorem attach_cases (completion : Completion) :
    (d.delivered = true ∧ d.attach completion = (d, none)) ∨
      (d.delivered = false ∧ d.resolved = true ∧
        (d.attach completion).2 = some (completion, d.response) ∧
        (d.attach completion).1.delivered = true) ∨
      (d.delivered = false ∧ d.resolved = false ∧ (d.attach completion).2 = none ∧
        (d.attach completion).1.completion = some completion ∧
        (d.attach completion).1.resolved = false) := by
  unfold attach
  split
  next hdel => exact .inl ⟨hdel, rfl⟩
  next hundel =>
    split
    next hres => exact .inr (.inl ⟨by simpa using hundel, hres, rfl, rfl⟩)
    next hunres =>
      exact .inr (.inr ⟨by simpa using hundel, by simpa using hunres,
        rfl, rfl, by simpa using hunres⟩)

theorem resolve_cases (resp : HttpResponse) :
    ((d.resolved = true ∨ d.delivered = true) ∧ d.resolve resp = (d, none)) ∨
      (¬ (d.resolved = true ∨ d.delivered = true) ∧ d.completion = none ∧
        (d.resolve resp).2 = none ∧
        (d.resolve resp).1.completion = none ∧
        (d.resolve resp).1.response = resp) ∨
      ∃ completion, ¬ (d.resolved = true ∨ d.delivered = true) ∧ d.completion = some completion ∧
        (d.resolve resp).2 = some (completion, resp) ∧
        (d.resolve resp).1.completion = none ∧
        (d.resolve resp).1.delivered = true := by
  unfold resolve
  split
  next hset => exact .inl ⟨hset, rfl⟩
  next hopen =>
    split
    next hnone => exact .inr (.inl ⟨hopen, hnone, rfl, hnone, rfl⟩)
    next completion hsome => exact .inr (.inr ⟨completion, hopen, hsome, rfl, rfl, rfl⟩)

theorem completion_of_delivered {d : DeferredResponse}
    (h : d.delivered = true) : d.completion = none :=
  d.idle_of_settled (.inr h)

@[simp] theorem cancel_snd : d.cancel.2 = !d.delivered := by
  unfold cancel
  split
  next hdel => simp [hdel]
  next hundel => simp [hundel]

@[simp] theorem delivered_cancel : d.cancel.1.delivered = true := by
  unfold cancel
  split
  · assumption
  · rfl

end DeferredResponse

end RtmpCore.Http
