import BigMovies.Feed.Basic

/-! The state of a feed is a function of its history: no answer is lost,
duplicated or half applied, whichever requests overlap and however late they
land. Every flight still carries the query and the count it was issued with. -/
namespace Feed
open Transition
universe u v w
variable {Q : Type u} {R : Type v} {A : Type w}

/-- The request was issued by the event at the position of its ticket, for the
query and after the answers of the history up to that event. -/
def Issued (P : Protocol Q R A) (q : Q) (log : List (Event Q R A)) (flight : Flight R) : Prop :=
  flight.ticket ≤ log.length ∧
    flight.request = P.dispatch (queryAfter q (log.take flight.ticket))
      (completions (log.take flight.ticket)).length

theorem Issued.concat {P : Protocol Q R A} (issued : Issued P q log flight)
    (e : Event Q R A) : Issued P q (log ++ [e]) flight := by
  obtain ⟨bound, request⟩ := issued
  refine ⟨by simp; omega, ?_⟩
  rw [List.take_append_of_le_length bound]
  exact request

/-- A request issued by the newest event carries what holds right after it. -/
theorem issued_now {P : Protocol Q R A} (q : Q) (log : List (Event Q R A)) (e : Event Q R A) :
    Issued P q (log ++ [e]) ⟨log.length + 1, P.dispatch (queryAfter q (log ++ [e]))
      (completions (log ++ [e])).length⟩ := by
  refine ⟨by simp, ?_⟩
  rw [List.take_of_length_le (by simp)]

/-- What no reset has overtaken was issued for the query that is current. -/
theorem Issued.current {P : Protocol Q R A} (issued : Issued P q log flight)
    (recent : lastReset log ≤ flight.ticket) :
    ∃ n, flight.request = P.dispatch (queryAfter q log) n := by
  have same : queryAfter q (log.take flight.ticket) = queryAfter q log := by
    refine unmarked_constant (fun log e unmarked => ?_) log flight.ticket recent
    rw [queryAfter_concat]
    cases e with
    | reset change => simp [Event.isReset] at unmarked
    | fetch | succeed | fail => rfl
  exact ⟨_, same ▸ issued.2⟩

structure Ledger (P : Protocol Q R A) (q : Q) (log : List (Event Q R A)) (s : State Q R A) :
    Prop where
  clock : s.clock = log.length
  query : s.query = queryAfter q log
  received : s.received = (completions log).map Prod.snd
  inflight : ∀ flight ∈ s.inflight, Issued P q log flight
  landed : ∀ e ∈ log, ∀ flight, e.landed? = some flight → Issued P q log flight

namespace Ledger
variable {P : Protocol Q R A} {q : Q} {log : List (Event Q R A)} {s t : State Q R A}

theorem start (P : Protocol Q R A) (q : Q) : Ledger P q [] (start P q) where
  clock := rfl
  query := rfl
  received := rfl
  inflight := by
    intro flight member
    obtain rfl := List.mem_singleton.mp member
    exact ⟨Nat.zero_le _, rfl⟩
  landed := by
    intro e member
    cases member

theorem next [DecidableEq R] (ledger : Ledger P q log s) (stepped : step P s e = some t) :
    Ledger P q (log ++ [e]) t := by
  have older : ∀ flight ∈ s.inflight, Issued P q (log ++ [e]) flight :=
    fun flight member => (ledger.inflight flight member).concat e
  have landed : ∀ f ∈ log ++ [e], ∀ flight, f.landed? = some flight →
      Issued P q (log ++ [e]) flight := by
    intro f member flight lands
    rcases List.mem_append.mp member with earlier | last
    · exact (ledger.landed f earlier flight lands).concat e
    · obtain rfl := List.mem_singleton.mp last
      exact older flight (airborne stepped lands)
  have count : s.received.length = (completions log).length := by
    rw [ledger.received, List.length_map]
  obtain ⟨clock, ⟨change, rfl, query, received, inflight⟩ | ⟨rfl, query, received, inflight⟩ |
    ⟨flight, answer, rfl, -, -, query, received, inflight⟩ |
    ⟨flight, rfl, -, query, received, inflight⟩⟩ := step_cases stepped
  · have current : t.query = queryAfter q (log ++ [.reset change]) := by
      rw [query, queryAfter_concat, ledger.query]
      rfl
    have empty : completions (log ++ [.reset change]) = [] := by
      simp [completions_concat, Event.isReset]
    refine ⟨by simp [clock, ledger.clock], current, by simp [received, empty], ?_, landed⟩
    intro flight member
    rw [inflight, current, ledger.clock, List.mem_append, List.mem_singleton] at member
    rcases member with member | rfl
    · exact older flight member
    · simpa only [empty, List.length_nil] using issued_now q log (.reset change)
  · have current : t.query = queryAfter q (log ++ [.fetch]) := by
      rw [query, queryAfter_concat, ledger.query]
      rfl
    have same : completions (log ++ [.fetch]) = completions log := by
      simp [completions_concat, Event.isReset, Event.completion?]
    refine ⟨by simp [clock, ledger.clock], current, by rw [received, same, ledger.received], ?_,
      landed⟩
    intro flight member
    rw [inflight, ← query, current, ledger.clock, count, List.mem_append,
      List.mem_singleton] at member
    rcases member with member | rfl
    · exact older flight member
    · simpa only [same] using issued_now q log .fetch
  · have grown : completions (log ++ [.succeed flight answer]) =
        completions log ++ [(flight, answer)] := by
      simp [completions_concat, Event.isReset, Event.completion?]
    refine ⟨by simp [clock, ledger.clock], ?_, by simp [received, grown, ledger.received], ?_,
      landed⟩
    · rw [query, queryAfter_concat, ledger.query]
      rfl
    · intro other member
      exact older other (List.mem_of_mem_erase (inflight ▸ member))
  · have same : completions (log ++ [.fail flight]) = completions log := by
      simp [completions_concat, Event.isReset, Event.completion?]
    refine ⟨by simp [clock, ledger.clock], ?_, by rw [received, same, ledger.received], ?_,
      landed⟩
    · rw [query, queryAfter_concat, ledger.query]
      rfl
    · intro other member
      exact older other (List.mem_of_mem_erase (inflight ▸ member))

/-- Every reachable state is the one its history determines. -/
theorem of_reaches [DecidableEq R] (path : Reaches (step P) (Feed.start P q) log s) :
    Ledger P q log s :=
  path.invariant (start P q) fun _ ledger stepped => ledger.next stepped

end Ledger

end Feed
