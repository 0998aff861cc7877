import BigMovies.Controllers.Refinement

/-! What the history of a controller says about its state, for every order in
which overlapping requests complete. No answer is lost or half applied; but an
answer counts for the query of the moment, not for the one it was asked for. -/
namespace BigMovies
open Dart Transition

/-- The query asks for the page it is given, or for none. -/
theorem Query.page?_requestAt (query : Query) (page : Int) :
    (query.requestAt page).page? = if query.Paged then some page else none := by
  obtain ⟨category, text⟩ := query
  by_cases blank : text = ""
  · subst text
    cases category <;> rfl
  · have typed : text.isEmpty = false := by simpa using blank
    cases tv : category.isTV <;> simp [Query.requestAt, Query.Paged, typed, tv, blank, Request.page?]

/-- The service and the substring test of the view agree on what is a TV category. -/
theorem Query.isTV_requestAt (query : Query) (page : Int) :
    (query.requestAt page).isTV = query.category.isTV := by
  obtain ⟨category, text⟩ := query
  by_cases blank : text = ""
  · subst text
    cases category <;> rfl
  · have typed : text.isEmpty = false := by simpa using blank
    cases tv : category.isTV <;> simp [Query.requestAt, typed, tv, Request.isTV]

namespace MainPageDataController

namespace Event

/-- The category that a call gives. -/
def category? : Event → Option OfferedCategory
  | .updateSearchCategory category => some category
  | _ => none

/-- The search text that a reset gives. -/
def text? : Event → Option String
  | .updateSearchText searchText => some searchText
  | .updateSearchCategory _ => some ""
  | _ => none

end Event

/-- The successful completions since the last reset, in completion order,
whenever their requests were issued. -/
def completions (log : List Event) : List (Flight × Answer) :=
  gathered Event.isReset Event.completion? log

/-- The position in the history of the last reset, zero for the constructor. -/
def lastReset (log : List Event) : Nat := lastMark Event.isReset log

def lastCategory (log : List Event) : OfferedCategory :=
  (log.filterMap Event.category?).getLast?.getD .popular

def lastText (log : List Event) : String := (log.filterMap Event.text?).getLast?.getD ""

/-- The state that a history determines. -/
def stateAfter (log : List Event) : MainPageData where
  movies := some ((completions log).flatMap fun completion => completion.2.movies)
  tvShows := some ((completions log).flatMap fun completion => completion.2.tvShows)
  page := some (1 + (completions log).length)
  searchCategory := some (lastCategory log).value
  searchText := some (lastText log)

/-- The request was issued before the most recent reset. -/
def Stale (log : List Event) (flight : Flight) : Prop := flight.ticket < lastReset log

/-- The request is the one that a fetch makes for some page, with the search
category and the search text of the state. -/
def IssuedFor (data : MainPageData) (request : Request) : Prop :=
  ∃ page : Int, 1 ≤ page ∧ serviceCall { data with page := some page } = .ok (some request)

theorem Event.completion?_eq_some {e : Event} {completion : Flight × Answer} :
    e.completion? = some completion ↔ e = .succeed completion.1 completion.2 := by
  obtain ⟨flight, answer⟩ := completion
  cases e <;> simp [Event.completion?]

theorem completions_toFeed (log : List Event) :
    Feed.completions (log.map Event.toFeed) = completions log := by
  simp [Feed.completions, gathered_map, completions]

theorem lastReset_toFeed (log : List Event) :
    Feed.lastReset (log.map Event.toFeed) = lastReset log := by
  simp [Feed.lastReset, lastMark_map, lastReset]

theorem queryAfter_toFeed (log : List Event) :
    Feed.queryAfter ⟨.popular, ""⟩ (log.map Event.toFeed) = ⟨lastCategory log, lastText log⟩ := by
  induction log using List.reverseRecOn with
  | nil => rfl
  | append_singleton log e ih =>
    rw [List.map_append, List.map_singleton, Feed.queryAfter_concat, ih]
    cases e <;>
      simp [Event.toFeed, Feed.Event.change, lastCategory, lastText, Event.category?, Event.text?]

theorem issuedFor_present (query : Query) (received : List Answer) (request : Request) :
    IssuedFor (present query received) request ↔ ∃ n, request = query.request n := by
  simp only [IssuedFor, serviceCall_page, Except.ok.injEq, Option.some.injEq]
  constructor
  · rintro ⟨page, positive, rfl⟩
    refine ⟨(page - 1).toNat, ?_⟩
    have same : (1 + ((page - 1).toNat : Int)) = page := by omega
    rw [Query.request, same]
  · rintro ⟨n, rfl⟩
    exact ⟨1 + n, by omega, rfl⟩

/-- A run of the controller with the feed it presents. -/
theorem ledger_of_reaches (run : Reaches step init log s) :
    ∃ t, s = render t ∧ Feed.Ledger protocol ⟨.popular, ""⟩ (log.map Event.toFeed) t := by
  obtain ⟨t, path, rfl⟩ := reaches_iff.mp run
  exact ⟨t, rfl, .of_reaches path⟩

theorem data_of_reaches (run : Reaches step init log s) : s.data = stateAfter log := by
  obtain ⟨t, rfl, ledger⟩ := ledger_of_reaches run
  have received := ledger.received
  rw [completions_toFeed] at received
  have query := ledger.query
  rw [queryAfter_toFeed] at query
  simp [render, present, stateAfter, received, query, List.flatMap_map]

/-- Every request ever made: it is in flight or it has landed. -/
theorem issued_of_reaches (run : Reaches step init log s)
    (made : flight ∈ s.inflight ∨ ∃ e ∈ log, e.landed? = some flight) :
    Feed.Issued protocol ⟨.popular, ""⟩ (log.map Event.toFeed) flight := by
  obtain ⟨t, rfl, ledger⟩ := ledger_of_reaches run
  rcases made with airborne | ⟨e, member, lands⟩
  · exact ledger.inflight flight airborne
  · exact ledger.landed e.toFeed (List.mem_map_of_mem member) flight (by simpa using lands)

/-- The state is the one that its history determines, a failure changes no
field of it, and every paged request asks for the page after the completions
that the state counted when the request was issued. -/
theorem completed_answers_kept (run : Reaches step init log s) :
    s.data = stateAfter log ∧
    (∀ flight cause t, step s (.fail flight cause) = some t → t.data = s.data) ∧
    ∀ flight, (flight ∈ s.inflight ∨ ∃ e ∈ log, e.landed? = some flight) →
      ∀ page, flight.request.page? = some page →
        page = 1 + (completions (log.take flight.ticket)).length := by
  refine ⟨data_of_reaches run, fun flight cause t failed => step_data failed, ?_⟩
  intro flight made page asks
  have request := (issued_of_reaches run made).2
  rw [← List.map_take, completions_toFeed] at request
  rw [request] at asks
  change (Query.requestAt _ _).page? = some page at asks
  rw [Query.page?_requestAt] at asks
  split at asks
  · exact (Option.some.inj asks).symm
  · contradiction

/-- A reset overtakes the first request, whose answer still lands in the new list. -/
def overtaken : List Event :=
  [.updateSearchText "a", .succeed ⟨0, .getPopularMovies 1⟩ { movies := [{ id := some 1 }] }]

theorem completed_answers_kept_overtaken :
    ∃ s, Reaches step init overtaken s ∧ s.data = stateAfter overtaken ∧
      s.data.movies = some [{ id := some 1 }] ∧ s.data.page = some 2 := by
  obtain ⟨s, run⟩ : ∃ s, Reaches step init overtaken s := ⟨_, .of_run rfl⟩
  have kept := (completed_answers_kept run).1
  refine ⟨s, run, kept, ?_, ?_⟩
  · rw [kept]; decide
  · rw [kept]; decide

/-- The completion of a request issued before the most recent reset leaves the
state as it was. -/
def StaleInert (log : List Event) (s : System) (e : Event) : Prop :=
  ∀ flight t, e.landed? = some flight → Stale log flight → step s e = some t → t.data = s.data

/-- Every item of the lists and every increment of the page since the last
reset comes from a request issued since then, for the current query. -/
def FromCurrentQuery (log : List Event) (s : System) : Prop :=
  s.data.movies = some ((completions log).flatMap fun completion => completion.2.movies) ∧
  s.data.tvShows = some ((completions log).flatMap fun completion => completion.2.tvShows) ∧
  s.data.page = some (1 + (completions log).length) ∧
  ∀ completion ∈ completions log,
    ¬ Stale log completion.1 ∧ IssuedFor s.data completion.1.request

/-- A success always moves the page on. -/
theorem succeed_data (run : Reaches step init log s)
    (stepped : step s (.succeed flight answer) = some t) : t.data ≠ s.data := by
  have next := data_of_reaches (run.next stepped)
  rw [data_of_reaches run, next]
  intro same
  have pages := congrArg MainPageData.page same
  simp only [stateAfter, completions, gathered_concat, Event.isReset, Event.completion?,
    Bool.false_eq_true, if_false, Option.toList_some, List.length_append, List.length_singleton,
    Option.some.injEq] at pages
  omega

theorem fromCurrentQuery_of_recent (run : Reaches step init log s)
    (recent : ∀ completion ∈ completions log, lastReset log ≤ completion.1.ticket) :
    FromCurrentQuery log s := by
  have data := data_of_reaches run
  refine ⟨by rw [data]; rfl, by rw [data]; rfl, by rw [data]; rfl, ?_⟩
  intro completion member
  have timely := recent completion member
  refine ⟨by simpa [Stale] using timely, ?_⟩
  obtain ⟨e, logged, completes⟩ := mem_gathered member
  have lands : e.landed? = some completion.1 := by
    rw [Event.completion?_eq_some.mp completes]
    rfl
  have issued := issued_of_reaches run (.inr ⟨e, logged, lands⟩)
  rw [← lastReset_toFeed] at timely
  obtain ⟨n, request⟩ := issued.current timely
  obtain ⟨t, rfl, ledger⟩ := ledger_of_reaches run
  rw [← ledger.query] at request
  exact (issuedFor_present t.query t.received _).mpr ⟨n, request⟩

/-- Stale answers leave the current query alone, throughout a run, exactly when
no request that a reset has overtaken ever succeeds. -/
theorem stale_inert_iff (run : Reaches step init log s) :
    (Along step init log StaleInert ∧ Throughout step init log FromCurrentQuery) ↔
      Along step init log
        (fun before _ e => ∀ flight answer, e = .succeed flight answer → ¬ Stale before flight) := by
  constructor
  · rintro ⟨inert, -⟩ before t e shorter visited flight answer rfl stale
    obtain ⟨u, stepped⟩ := run.step_of_prefix shorter visited
    exact succeed_data visited stepped (inert before t _ shorter visited flight u rfl stale stepped)
  · intro timely
    constructor
    · intro before t e shorter visited flight u lands stale stepped
      cases e with
      | succeed landed answer =>
        cases lands
        exact absurd stale (timely before t _ shorter visited flight answer rfl)
      | fail landed cause => exact step_data stepped
      | updateSearchText | updateSearchCategory | fetchMoviesOrTVShows => cases lands
    · have recent := (recent_iff Event.isReset Event.completion?
        (fun completion => completion.1.ticket) ?_ run).mpr ?_
      · exact recent.mono fun visited recent => fromCurrentQuery_of_recent visited recent
      · intro e completion completes
        rw [Event.completion?_eq_some.mp completes]
        rfl
      · refine timely.mono fun {before t e} _ timely completion completes => ?_
        apply Nat.le_of_not_lt
        exact timely completion.1 completion.2 (Event.completion?_eq_some.mp completes)

/-- The first request is overtaken and fails; the answer to the search arrives. -/
def overtakenFails : List Event :=
  [.updateSearchText "a", .fail ⟨0, .getPopularMovies 1⟩ .typeError,
    .succeed ⟨1, .searchMovies "a" 1⟩ { movies := [{ id := some 1 }] }]

theorem stale_inert_overtakenFails :
    Along step init overtakenFails StaleInert ∧
      Throughout step init overtakenFails FromCurrentQuery := by
  apply (stale_inert_iff (.of_run rfl)).mpr
  refine .cons rfl ?_ <| .cons rfl ?_ <| .cons rfl ?_ <| along_nil _
  · intro flight answer succeeds
    cases succeeds
  · intro flight answer succeeds
    cases succeeds
  · intro flight answer succeeds
    cases succeeds
    unfold Stale
    decide

/-- An answer to the popular movies ends up in the list of a search. -/
theorem stale_answer_lands :
    ∃ s, Reaches step init overtaken s ∧
      ¬ (Along step init overtaken StaleInert ∧ Throughout step init overtaken FromCurrentQuery) := by
  refine ⟨_, .of_run rfl, ?_⟩
  rintro ⟨inert, -⟩
  have before : Reaches step init [.updateSearchText "a"] _ := .of_run rfl
  have same := inert _ _ _ (List.prefix_refl _) before ⟨0, .getPopularMovies 1⟩ _ rfl
    (by unfold Stale; decide) rfl
  exact absurd (congrArg MainPageData.page same) (by decide)

end MainPageDataController
end BigMovies
