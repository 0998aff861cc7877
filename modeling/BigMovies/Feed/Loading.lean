import BigMovies.Feed.Ledger

/-! A feed that shows nothing looks as if it were loading. Whether it is: an
empty feed has a request for its query in flight throughout a run exactly when
the last such request never lands without showing something. -/
namespace Feed
open Transition
universe u v w x
variable {Q : Type u} {R : Type v} {A : Type w} {ι : Type x}

/-- The items that the answers received show, under the current query. -/
def shown (visible : Q → A → List ι) (s : State Q R A) : List ι :=
  s.received.flatMap (visible s.query)

/-- The request was issued since the last reset, and the query makes it. -/
def Current (P : Protocol Q R A) (log : List (Event Q R A)) (s : State Q R A)
    (flight : Flight R) : Prop :=
  ¬ flight.ticket < lastReset log ∧ IssuedFor P s.query flight

def Loading (P : Protocol Q R A) (log : List (Event Q R A)) (s : State Q R A) : Prop :=
  ∃ flight ∈ s.inflight, Current P log s flight

/-- The event lands the last request of the query while nothing is shown. -/
def LandsLast [DecidableEq R] (P : Protocol Q R A) (visible : Q → A → List ι)
    (log : List (Event Q R A)) (s : State Q R A) (flight : Flight R) : Prop :=
  shown visible s = [] ∧ Current P log s flight ∧
    ∀ other ∈ s.inflight.erase flight, ¬ Current P log s other

variable {P : Protocol Q R A} {visible : Q → A → List ι} {s t : State Q R A} {flight : Flight R}
  {log : List (Event Q R A)}

theorem lastReset_concat_le (log : List (Event Q R A)) (e : Event Q R A) :
    lastReset (log ++ [e]) ≤ log.length + 1 := by
  have bound : lastReset log ≤ log.length := Nat.sub_le _ _
  have concat : lastReset (log ++ [e]) = if e.isReset then log.length + 1 else lastReset log :=
    lastMark_concat log e
  rw [concat]
  split <;> omega

/-- A request that the newest event issued. -/
theorem loading_issued
    (inflight : t.inflight = s.inflight ++ [⟨log.length + 1, P.dispatch t.query n⟩]) :
    Loading P (log ++ [e]) t := by
  refine ⟨⟨log.length + 1, P.dispatch t.query n⟩, ?_, ?_, n, rfl⟩
  · rw [inflight]
    exact List.mem_append_right _ (List.mem_singleton.mpr rfl)
  · have bound := lastReset_concat_le log e
    exact Nat.not_lt.mpr bound

theorem lastReset_landing (lands : e.landed? = some flight) :
    lastReset (log ++ [e]) = lastReset log := by
  have unmarked : e.isReset = false := by
    cases e with
    | reset | fetch => cases lands
    | succeed | fail => rfl
  rw [lastReset, lastMark_concat, unmarked]
  rfl

variable [DecidableEq R]

/-- Taking a request out of the air keeps an empty feed loading unless it was
the last one of the query. -/
theorem loading_landed (lands : e.landed? = some flight) (query : t.query = s.query)
    (inflight : t.inflight = s.inflight.erase flight) (loading : Loading P log s)
    (empty : shown visible s = []) :
    Loading P (log ++ [e]) t ↔ ¬ LandsLast P visible log s flight := by
  rw [Loading, inflight]
  simp only [Current, query, lastReset_landing lands]
  constructor
  · rintro ⟨other, member, issued⟩ ⟨-, -, none⟩
    exact none other member issued
  · intro remaining
    obtain ⟨other, member, issued⟩ := loading
    by_cases same : other = flight
    · subst other
      by_contra absent
      refine remaining ⟨empty, issued, fun other member issued => ?_⟩
      exact absent ⟨other, member, issued⟩
    · exact ⟨other, (List.mem_erase_of_ne same).mpr member, issued⟩

/-- An empty feed is always loading exactly when every event that lands the
last request of the query is a success that shows something. -/
theorem loading_iff (visible : Q → A → List ι) (path : Reaches (step P) (start P q) log s) :
    Throughout (step P) (start P q) log (fun pre s => shown visible s = [] → Loading P pre s) ↔
      Along (step P) (start P q) log (fun pre s e => ∀ flight, e.landed? = some flight →
        LandsLast P visible pre s flight →
          ∃ answer, e = .succeed flight answer ∧ visible s.query answer ≠ []) := by
  refine throughout_iff_along
    (fun _ => ⟨_, List.mem_singleton.mpr rfl, Nat.not_lt_zero _, 0, rfl⟩) ?_ path
  intro pre s e t _ visited loading stepped
  have clock := (Ledger.of_reaches visited).clock
  obtain ⟨-, ⟨change, rfl, query, received, inflight⟩ | ⟨rfl, query, received, inflight⟩ |
    ⟨flight, answer, rfl, member, -, query, received, inflight⟩ |
    ⟨flight, rfl, member, query, received, inflight⟩⟩ := step_cases stepped
  · rw [clock] at inflight
    exact iff_of_true (fun _ => loading_issued inflight) (by simp [Event.landed?])
  · rw [clock, ← query] at inflight
    exact iff_of_true (fun _ => loading_issued inflight) (by simp [Event.landed?])
  · have shows : shown visible t = shown visible s ++ visible s.query answer := by
      simp [shown, query, received]
    simp only [Event.landed?, Option.some.injEq, forall_eq', Event.succeed.injEq, true_and]
    by_cases empty : shown visible s = []
    · have landed := loading_landed (e := .succeed flight answer) rfl query inflight
        (loading empty) empty
      rw [shows, empty, List.nil_append, landed]
      constructor
      · rintro kept last
        exact ⟨answer, rfl, fun silent => kept silent last⟩
      · rintro kept silent last
        obtain ⟨_, rfl, loud⟩ := kept last
        exact loud silent
    · exact iff_of_true (fun none => absurd (List.append_eq_nil_iff.mp (shows ▸ none)).1 empty)
        (fun last => absurd last.1 empty)
  · have shows : shown visible t = shown visible s := by simp [shown, query, received]
    simp only [Event.landed?, Option.some.injEq, forall_eq', reduceCtorEq, false_and, exists_false]
    by_cases empty : shown visible s = []
    · have landed := loading_landed (e := .fail flight) rfl query inflight (loading empty) empty
      rw [shows, landed]
      exact ⟨fun kept last => kept empty last, fun kept _ last => kept last⟩
    · exact iff_of_true (fun none => absurd (shows ▸ none) empty) (fun last => absurd last.1 empty)

end Feed
