import BearerTokens.Error

/-!
# Transports

A transport keeps every request it was handed, in order, with what has become of it. A reply that is ready
beforehand answers a request at once; otherwise the request waits for its answer.
-/

set_option autoImplicit false

namespace BearerTokens.Http

/-- What has become of a request. One is dropped when it is given up before its answer is read. -/
inductive CallState where
  | waiting
  | answered (reply : Reply)
  | dropped
  deriving DecidableEq, Repr

structure Call where
  request : Request
  state : CallState
  deriving DecidableEq, Repr

structure Transport where
  calls : List Call
  deriving DecidableEq, Repr

namespace Transport

def empty : Transport := ⟨[]⟩

/-- Hands over a request. Its number is the count of the requests before it. -/
def send (t : Transport) (request : Request) (ready : Option Reply) : Transport :=
  ⟨t.calls ++ [⟨request, (ready.map CallState.answered).getD .waiting⟩]⟩

def nextNumber (t : Transport) : Nat :=
  t.calls.length

def state? (t : Transport) (number : Nat) : Option CallState :=
  t.calls[number]?.map (·.state)

def isWaiting (t : Transport) (number : Nat) : Bool :=
  decide (t.state? number = some .waiting)

def reply? (t : Transport) (number : Nat) : Option Reply :=
  match t.state? number with
  | some (.answered reply) => some reply
  | _ => none

def resolve (t : Transport) (number : Nat) (state : CallState) : Transport :=
  ⟨t.calls.modify number fun c => if c.state = .waiting then { c with state := state } else c⟩

def answer (t : Transport) (number : Nat) (reply : Reply) : Transport :=
  t.resolve number (.answered reply)

/-- Nobody will read the answer to a request any more, whether it has come or not. -/
def abandon (t : Transport) (number : Nat) : Transport :=
  ⟨t.calls.modify number fun c => { c with state := .dropped }⟩

def waiting (t : Transport) : List Nat :=
  (List.range t.calls.length).filter t.isWaiting

def dropped (t : Transport) : Nat :=
  t.calls.countP fun c => decide (c.state = .dropped)

theorem isWaiting_eq_true_iff {t : Transport} {number : Nat} :
    t.isWaiting number = true ↔ t.state? number = some .waiting := by
  simp [isWaiting]

theorem reply?_eq_some_iff {t : Transport} {number : Nat} {reply : Reply} :
    t.reply? number = some reply ↔ t.state? number = some (.answered reply) := by
  unfold reply?
  split <;> simp_all

@[simp] theorem length_send (t : Transport) (request : Request) (ready : Option Reply) :
    (t.send request ready).calls.length = t.calls.length + 1 := by
  simp [send]

@[simp] theorem length_answer (t : Transport) (number : Nat) (reply : Reply) :
    (t.answer number reply).calls.length = t.calls.length := by
  simp [answer, resolve]

@[simp] theorem length_abandon (t : Transport) (number : Nat) :
    (t.abandon number).calls.length = t.calls.length := by
  simp [abandon]

theorem state?_send (t : Transport) (request : Request) (ready : Option Reply) (number : Nat) :
    (t.send request ready).state? number =
      if number = t.nextNumber then some ((ready.map CallState.answered).getD .waiting)
      else t.state? number := by
  unfold send state? nextNumber
  rw [List.getElem?_append]
  split
  · rename_i h
    rw [if_neg (Nat.ne_of_lt h)]
  · rename_i h
    by_cases hEnd : number = t.calls.length
    · simp [hEnd]
    · have hPast : number - t.calls.length ≠ 0 := by omega
      rw [if_neg hEnd, List.getElem?_eq_none (Nat.le_of_not_lt h)]
      simp [hPast]

theorem state?_answer {t : Transport} {number : Nat} (h : t.state? number = some .waiting) (reply : Reply)
    (n : Nat) :
    (t.answer number reply).state? n = if n = number then some (.answered reply) else t.state? n := by
  obtain ⟨call, hCall, hState⟩ := Option.map_eq_some_iff.1 h
  unfold answer resolve state?
  rw [List.getElem?_modify]
  by_cases hn : n = number
  · subst hn
    simp [hCall, hState]
  · simp [hn, Ne.symm hn]

theorem state?_abandon (t : Transport) (number n : Nat) :
    (t.abandon number).state? n =
      if n = number then (t.state? n).map fun _ => .dropped else t.state? n := by
  unfold abandon state?
  rw [List.getElem?_modify]
  by_cases hn : n = number
  · subst hn
    simp [Function.comp_def]
  · simp [hn, Ne.symm hn]

end Transport

/-- How a transport's own network errors are classified, by the endpoint called and the error's text. -/
abbrev Classifier := Endpoint → String → Error

def asNetworkError : Classifier := fun endpoint cause =>
  .transport (.network endpoint.name cause)

def Failure.toError (classify : Classifier) (endpoint : Endpoint) : Failure → Error
  | .network cause => classify endpoint cause
  | .io cause => .transport (.io endpoint.name cause)
  | .other message => .transport (.other endpoint.name message)
  | .request cause => .config (.request cause)

def Reply.result (classify : Classifier) (endpoint : Endpoint) : Reply → Except Error Response
  | .response r => .ok r
  | .failure f => .error (f.toError classify endpoint)

end BearerTokens.Http
