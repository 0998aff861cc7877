import BigMovies.Transition.Runs
import BigMovies.Transition.Segments

/-! An asynchronous feed over arbitrary queries, requests and answers. A feed
shows the answers received for its current query. Any number of requests are in
flight at once, and each succeeds or fails at any later time, in any order. -/
namespace Feed
open Transition
universe u v w
variable {Q : Type u} {R : Type v} {A : Type w}

/-- A request in flight. Its ticket is the position in the history of the
event that issued it, zero for the request made at the start. -/
structure Flight (R : Type v) where
  ticket : Nat
  request : R
deriving DecidableEq, Repr

/-- `dispatch q n` asks for the page after the first `n` answers to `q`. -/
structure Protocol (Q : Type u) (R : Type v) (A : Type w) where
  dispatch : Q → Nat → R
  fits : R → A → Bool

/-- The request is one that the query makes, for some page of it. -/
def IssuedFor (P : Protocol Q R A) (q : Q) (flight : Flight R) : Prop :=
  ∃ n, flight.request = P.dispatch q n

structure State (Q : Type u) (R : Type v) (A : Type w) where
  query : Q
  received : List A
  inflight : List (Flight R)
  clock : Nat

inductive Event (Q : Type u) (R : Type v) (A : Type w) where
  | reset (change : Q → Q)
  | fetch
  | succeed (flight : Flight R) (answer : A)
  | fail (flight : Flight R)

namespace Event

def isReset : Event Q R A → Bool
  | .reset _ => true
  | _ => false

def completion? : Event Q R A → Option (Flight R × A)
  | .succeed flight answer => some (flight, answer)
  | _ => none

/-- The flight that an event takes out of the air. -/
def landed? : Event Q R A → Option (Flight R)
  | .succeed flight _ | .fail flight => some flight
  | _ => none

def change : Event Q R A → Q → Q
  | .reset change => change
  | _ => id

end Event

def State.issue (P : Protocol Q R A) (s : State Q R A) : State Q R A :=
  { s with
    clock := s.clock + 1
    inflight := s.inflight ++ [⟨s.clock + 1, P.dispatch s.query s.received.length⟩] }

def start (P : Protocol Q R A) (q : Q) : State Q R A := ⟨q, [], [⟨0, P.dispatch q 0⟩], 0⟩

/-- A completion is refused unless its request is in flight, and a success
also unless its answer is one the request admits. -/
def step [DecidableEq R] (P : Protocol Q R A) (s : State Q R A) :
    Event Q R A → Option (State Q R A)
  | .reset change => some ({ s with query := change s.query, received := [] }.issue P)
  | .fetch => some (s.issue P)
  | .succeed flight answer =>
    if flight ∈ s.inflight ∧ P.fits flight.request answer then
      some { s with
        received := s.received ++ [answer]
        inflight := s.inflight.erase flight
        clock := s.clock + 1 }
    else none
  | .fail flight =>
    if flight ∈ s.inflight then
      some { s with inflight := s.inflight.erase flight, clock := s.clock + 1 }
    else none

/-- Everything a step can do, in terms of the query, the answers and the flights. -/
theorem step_cases [DecidableEq R] {P : Protocol Q R A} {s t : State Q R A} {e : Event Q R A}
    (stepped : step P s e = some t) :
    t.clock = s.clock + 1 ∧
      ((∃ change, e = .reset change ∧ t.query = change s.query ∧ t.received = [] ∧
          t.inflight = s.inflight ++ [⟨s.clock + 1, P.dispatch t.query 0⟩]) ∨
       (e = .fetch ∧ t.query = s.query ∧ t.received = s.received ∧
          t.inflight = s.inflight ++ [⟨s.clock + 1, P.dispatch s.query s.received.length⟩]) ∨
       (∃ flight answer, e = .succeed flight answer ∧ flight ∈ s.inflight ∧
          P.fits flight.request answer = true ∧ t.query = s.query ∧
          t.received = s.received ++ [answer] ∧ t.inflight = s.inflight.erase flight) ∨
       (∃ flight, e = .fail flight ∧ flight ∈ s.inflight ∧ t.query = s.query ∧
          t.received = s.received ∧ t.inflight = s.inflight.erase flight)) := by
  cases e with
  | reset change =>
    cases stepped
    exact ⟨rfl, .inl ⟨change, rfl, rfl, rfl, rfl⟩⟩
  | fetch =>
    cases stepped
    exact ⟨rfl, .inr (.inl ⟨rfl, rfl, rfl, rfl⟩)⟩
  | succeed flight answer =>
    simp only [step] at stepped
    split at stepped
    · rename_i enabled
      cases stepped
      exact ⟨rfl, .inr (.inr (.inl ⟨flight, answer, rfl, enabled.1, enabled.2, rfl, rfl, rfl⟩))⟩
    · contradiction
  | fail flight =>
    simp only [step] at stepped
    split at stepped
    · rename_i enabled
      cases stepped
      exact ⟨rfl, .inr (.inr (.inr ⟨flight, rfl, enabled, rfl, rfl, rfl⟩))⟩
    · contradiction

/-- A flight that a step lands was in the air before it. -/
theorem airborne [DecidableEq R] {P : Protocol Q R A} {s t : State Q R A} {e : Event Q R A}
    (stepped : step P s e = some t)
    (lands : e.landed? = some flight) : flight ∈ s.inflight := by
  obtain ⟨-, ⟨change, rfl, -⟩ | ⟨rfl, -⟩ | ⟨other, answer, rfl, enabled, -⟩ |
    ⟨other, rfl, enabled, -⟩⟩ := step_cases stepped
  · cases lands
  · cases lands
  · exact Option.some.inj lands ▸ enabled
  · exact Option.some.inj lands ▸ enabled

/-- The query after a history: the changes in it, oldest first. -/
def queryAfter (q : Q) (log : List (Event Q R A)) : Q := log.foldl (fun q e => e.change q) q

/-- The successful completions since the last reset, in completion order. -/
def completions (log : List (Event Q R A)) : List (Flight R × A) :=
  gathered Event.isReset Event.completion? log

/-- The position of the last reset, zero for the start. -/
def lastReset (log : List (Event Q R A)) : Nat := lastMark Event.isReset log

theorem queryAfter_concat (q : Q) (log : List (Event Q R A)) (e : Event Q R A) :
    queryAfter q (log ++ [e]) = e.change (queryAfter q log) := by
  simp [queryAfter, List.foldl_append]

theorem completions_concat (log : List (Event Q R A)) (e : Event Q R A) :
    completions (log ++ [e]) =
      if e.isReset then [] else completions log ++ e.completion?.toList :=
  gathered_concat log e

end Feed
