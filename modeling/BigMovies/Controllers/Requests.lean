import BigMovies.Controllers.Delivery
import BigMovies.Services.Endpoints
import BigMovies.Feed.Conservation

/-! The requests of a controller over a whole run: which ones it makes, that
each of them is answered at most once, and how little the order of the answers
matters. -/
namespace BigMovies
open Dart Transition

def OfferedCategory.endpoint : OfferedCategory → Endpoint
  | .popular => .getPopularMovies
  | .upcoming => .getUpcomingMovies
  | .latest => .getLatestMovie
  | .nowPlaying => .getNowPlayingMovies
  | .topRated => .getTopRatedMovies
  | .tvAiringToday => .getAiringTodayTVShows
  | .tvOnTheAir => .getOnTheAirTVShows
  | .tvPopular => .getPopularTVShows
  | .tvTopRated => .getTopRatedTVShows

/-- A search goes to one of two endpoints, whatever the category. -/
def Query.endpoint (query : Query) : Endpoint :=
  if query.text = "" then query.category.endpoint
  else if query.category.isTV then .searchTVShows
  else .searchMovies

theorem OfferedCategory.endpoint_injective : Function.Injective OfferedCategory.endpoint := by
  intro first second same
  cases first <;> cases second <;> first | rfl | exact absurd same (by decide)

theorem Query.requestAt_sends (query : Query) (page : Int) :
    (query.requestAt page).endpoint = query.endpoint ∧
      (query.requestAt page).query? = if query.text = "" then none else some query.text := by
  obtain ⟨category, text⟩ := query
  by_cases blank : text = ""
  · subst text
    cases category <;> exact ⟨rfl, rfl⟩
  · have typed : text.isEmpty = false := by simpa using blank
    cases tv : category.isTV <;>
      simp [Query.requestAt, Query.endpoint, typed, blank, tv, Request.endpoint, Request.query?]

/-- The queries differ in nothing that a request carries: a search does not
tell categories of one kind apart. -/
def Query.SameSearch (first second : Query) : Prop :=
  first.text = second.text ∧ if first.text = "" then first.category = second.category
    else first.category.isTV = second.category.isTV

theorem Query.SameSearch.endpoint (same : Query.SameSearch first second) :
    first.endpoint = second.endpoint := by
  obtain ⟨text, kind⟩ := same
  unfold Query.endpoint
  rw [← text]
  split at kind
  · rw [kind]
  · rename_i typed
    rw [if_neg typed, if_neg typed, kind]

theorem Query.SameSearch.paged (same : Query.SameSearch first second) :
    first.Paged ↔ second.Paged := by
  obtain ⟨text, kind⟩ := same
  unfold Query.Paged
  rw [← text]
  split at kind
  · rw [kind]
  · rename_i typed
    exact iff_of_true (.inl typed) (.inl typed)

theorem Query.sameSearch_of_sends {first second : Query}
    (endpoint : first.endpoint = second.endpoint)
    (sent : (if first.text = "" then none else some first.text) =
      if second.text = "" then none else some second.text) : Query.SameSearch first second := by
  by_cases blank : first.text = ""
  · have text : first.text = second.text := by
      rw [if_pos blank] at sent
      by_cases blank' : second.text = ""
      · rw [blank, blank']
      · rw [if_neg blank'] at sent
        cases sent
    refine ⟨text, ?_⟩
    simp only [Query.endpoint, ← text, blank, if_true] at endpoint ⊢
    exact OfferedCategory.endpoint_injective endpoint
  · have text : first.text = second.text := by
      by_cases blank' : second.text = ""
      · simp [blank, blank'] at sent
      · simpa [blank, blank'] using sent
    refine ⟨text, ?_⟩
    simp only [Query.endpoint, ← text, blank, if_false] at endpoint ⊢
    cases tv : first.category.isTV <;> cases tv' : second.category.isTV <;>
      simp [tv, tv'] at endpoint ⊢

/-- Two queries make the same request exactly when they are the same search and
ask for the same page, if they ask for one. -/
theorem Query.requestAt_eq_iff {first second : Query} {page page' : Int} :
    first.requestAt page = second.requestAt page' ↔
      Query.SameSearch first second ∧ (first.Paged → page = page') := by
  obtain ⟨endpoint, query⟩ := first.requestAt_sends page
  obtain ⟨endpoint', query'⟩ := second.requestAt_sends page'
  have pages := first.page?_requestAt page
  have pages' := second.page?_requestAt page'
  constructor
  · intro same
    rw [same] at endpoint query pages
    have search := Query.sameSearch_of_sends (endpoint.symm.trans endpoint')
      (query.symm.trans query')
    refine ⟨search, fun paged => ?_⟩
    rw [pages', if_pos paged, if_pos (search.paged.mp paged)] at pages
    exact (Option.some.inj pages).symm
  · rintro ⟨search, agree⟩
    apply Request.eq_of_endpoint
    · rw [endpoint, endpoint', search.endpoint]
    · rw [query, query', search.1]
    · rw [pages, pages']
      by_cases paged : first.Paged
      · rw [if_pos paged, if_pos (search.paged.mp paged), agree paged]
      · rw [if_neg paged, if_neg (search.paged.not.mp paged)]

namespace MainPageDataController

/-- The request that the last event of a history made: the one that the state
after it calls for. The empty history is the constructor's. -/
def requestAfter (log : List Event) : Option Flight :=
  if (log.getLast?.bind Event.landed?).isNone then
    match serviceCall (stateAfter log) with
    | .ok (some request) => some ⟨log.length, request⟩
    | _ => none
  else none

/-- The requests that a history made, oldest first. -/
def requests (log : List Event) : List Flight := log.inits.filterMap requestAfter

theorem stateAfter_eq_present (log : List Event) :
    stateAfter log = present ⟨lastCategory log, lastText log⟩ ((completions log).map Prod.snd) := by
  simp [stateAfter, present, List.flatMap_map]

theorem issuedLast_toFeed (log : List Event) :
    Feed.issuedLast protocol ⟨.popular, ""⟩ (log.map Event.toFeed) = requestAfter log := by
  have last : (log.map Event.toFeed).getLast?.bind Feed.Event.landed? =
      log.getLast?.bind Event.landed? := by
    rw [List.getLast?_map]
    cases log.getLast? <;> simp
  have called := serviceCall_present ⟨lastCategory log, lastText log⟩
    ((completions log).map Prod.snd)
  rw [← stateAfter_eq_present, List.length_map] at called
  simp only [Feed.issuedLast, requestAfter, last, called, List.length_map, queryAfter_toFeed,
    completions_toFeed, protocol]

theorem issuedBy_toFeed (log : List Event) :
    Feed.issuedBy protocol ⟨.popular, ""⟩ (log.map Event.toFeed) = requests log := by
  rw [Feed.issuedBy, List.map_inits, List.filterMap_map, requests]
  congr 1
  funext pre
  exact issuedLast_toFeed pre

theorem landings_toFeed (log : List Event) :
    Feed.landings (log.map Event.toFeed) = log.filterMap Event.landed? := by
  simp [Feed.landings, List.filterMap_map]

/-- Every request that a run makes is in flight or has been answered once, none
is made up, and every event of the run makes one request or answers one. -/
theorem requests_conserved (run : Reaches step init log s) :
    (log.filterMap Event.landed? ++ s.inflight).Perm (requests log) ∧
      (log.filterMap Event.landed? ++ s.inflight).Nodup ∧
      (requests log).length + (log.filterMap Event.landed?).length = 1 + log.length := by
  obtain ⟨t, path, rfl⟩ := reaches_iff.mp run
  rw [← landings_toFeed, ← issuedBy_toFeed]
  refine ⟨Feed.conserved path, Feed.conserved_nodup path, ?_⟩
  simpa using Feed.issuedBy_length (log.map Event.toFeed)

theorem requests_conserved_overtaken :
    ∃ s, Reaches step init overtaken s ∧ requests overtaken =
        [⟨0, .getPopularMovies 1⟩, ⟨1, .searchMovies "a" 1⟩] ∧
      (overtaken.filterMap Event.landed? ++ s.inflight).Perm (requests overtaken) := by
  obtain ⟨s, run⟩ : ∃ s, Reaches step init overtaken s := ⟨_, .of_run rfl⟩
  exact ⟨s, run, by decide, (requests_conserved run).1⟩

/-- The query for which the request was made. -/
def queryAt (log : List Event) (flight : Flight) : Query :=
  ⟨lastCategory (log.take flight.ticket), lastText (log.take flight.ticket)⟩

/-- The number of answers that the state counted when the request was made. -/
def countedAt (log : List Event) (flight : Flight) : Nat :=
  (completions (log.take flight.ticket)).length

/-- The request is in flight or has been answered. -/
def Made (log : List Event) (s : System) (flight : Flight) : Prop :=
  flight ∈ s.inflight ∨ ∃ e ∈ log, e.landed? = some flight

theorem request_of_made (run : Reaches step init log s) (made : Made log s flight) :
    flight.request = (queryAt log flight).requestAt (1 + countedAt log flight) := by
  have request := (issued_of_reaches run made).2
  rw [← List.map_take, completions_toFeed, queryAfter_toFeed] at request
  exact request

/-- What a request of a run carries over the network is the query and the page
of the moment at which it was made, so that requests made at two moments can be
told apart by what they carry exactly when the query or the page differs. -/
theorem wire_of_history (run : Reaches step init log s) (made : Made log s flight) :
    flight.request.wire.url = Config.baseApiUrl ++ (queryAt log flight).endpoint.path ∧
      flight.request.wire.queryParameters.get "query" = (if (queryAt log flight).text = "" then .null
        else .string (queryAt log flight).text) ∧
      flight.request.wire.queryParameters.get "page" = (if (queryAt log flight).Paged then
        .num (.int (1 + countedAt log flight)) else .null) ∧
      ∀ other, Made log s other → (flight.request.wire = other.request.wire ↔
        Query.SameSearch (queryAt log flight) (queryAt log other) ∧
          ((queryAt log flight).Paged → countedAt log flight = countedAt log other)) := by
  have request := request_of_made run made
  obtain ⟨endpoint, query⟩ := (queryAt log flight).requestAt_sends (1 + countedAt log flight)
  have page := (queryAt log flight).page?_requestAt (1 + countedAt log flight)
  obtain ⟨-, -, sentQuery, sentPage⟩ := flight.request.wire_parameters
  rw [request] at sentQuery sentPage
  refine ⟨?_, ?_, ?_, fun other also => ?_⟩
  · rw [Request.wire_url, request, endpoint]
  · rw [request, sentQuery, query]
    split <;> rfl
  · rw [request, sentPage, page]
    split <;> rfl
  · rw [Request.wire_injective.eq_iff, request, request_of_made run also, Query.requestAt_eq_iff]
    refine and_congr_right fun _ => forall_congr' fun _ => ?_
    omega

theorem wire_of_history_overtaken :
    ∃ s, Reaches step init overtaken s ∧ ∃ flight ∈ s.inflight,
      flight.request.wire.url = "https://api.themoviedb.org/3/search/movie" := by
  obtain ⟨s, run⟩ : ∃ s, Reaches step init overtaken s := ⟨_, .of_run rfl⟩
  have airborne : ⟨1, .searchMovies "a" 1⟩ ∈ s.inflight := by
    have reached : Reaches step init overtaken _ := .of_run rfl
    rw [run.unique reached]
    decide
  refine ⟨s, run, _, airborne, ?_⟩
  rw [(wire_of_history run (.inl airborne)).1]
  decide

/-- The controllers differ in the order of their lists alone. -/
structure Alike (s t : System) : Prop where
  movies : Option.Rel List.Perm s.data.movies t.data.movies
  tvShows : Option.Rel List.Perm s.data.tvShows t.data.tvShows
  page : s.data.page = t.data.page
  searchCategory : s.data.searchCategory = t.data.searchCategory
  searchText : s.data.searchText = t.data.searchText
  inflight : s.inflight = t.inflight
  clock : s.clock = t.clock

/-- Both events answer a request. -/
def BothLand (first second : Event) : Prop :=
  first.landed?.isSome = true ∧ second.landed?.isSome = true

theorem alike_render {s t : Feed.State Query Request Answer} (same : Feed.Alike s t) :
    Alike (render s) (render t) := by
  obtain ⟨query, received, inflight, clock⟩ := same
  refine ⟨.some (received.flatMap_right _), .some (received.flatMap_right _), ?_, ?_, ?_, inflight,
    clock⟩
  · simp only [render, present, received.length_eq]
  · simp only [render, present, query]
  · simp only [render, present, query]

/-- Answers that arrive in another order between two user actions lead to the
same requests, the same query and the same page, and to the same items in
another order. -/
theorem answers_reorder (run : Reaches step init log s) (reordered : Reorders BothLand log other) :
    ∃ t, Reaches step init other t ∧ Alike s t := by
  obtain ⟨u, path, rfl⟩ := reaches_iff.mp run
  have translated : Reorders Feed.BothLand (log.map Event.toFeed) (other.map Event.toFeed) :=
    reordered.map Event.toFeed fun both => by simpa [Feed.BothLand, BothLand] using both
  obtain ⟨v, path', same⟩ := Feed.landings_commute.reaches_reorders translated path
  exact ⟨render v, reaches_iff.mpr ⟨v, path', rfl⟩, alike_render same⟩

/-- The list is loaded on twice at once. -/
def loadedTwice : List Event :=
  [.succeed ⟨0, .getPopularMovies 1⟩ { movies := [{ id := some 1 }] }, .fetchMoviesOrTVShows,
    .fetchMoviesOrTVShows]

/-- The answers in the order of the requests. -/
def inOrder : List Event :=
  loadedTwice ++ [.succeed ⟨2, .getPopularMovies 2⟩ { movies := [{ id := some 2 }] },
    .succeed ⟨3, .getPopularMovies 2⟩ { movies := [{ id := some 3 }] }]

/-- The second answer arrives first. -/
def outOfOrder : List Event :=
  loadedTwice ++ [.succeed ⟨3, .getPopularMovies 2⟩ { movies := [{ id := some 3 }] },
    .succeed ⟨2, .getPopularMovies 2⟩ { movies := [{ id := some 2 }] }]

theorem answers_reorder_outOfOrder :
    ∃ s t, Reaches step init inOrder s ∧ Reaches step init outOfOrder t ∧ Alike s t ∧
      s.data.movies = some [{ id := some 1 }, { id := some 2 }, { id := some 3 }] ∧
      t.data.movies = some [{ id := some 1 }, { id := some 3 }, { id := some 2 }] := by
  obtain ⟨s, run, movies⟩ : ∃ s, Reaches step init inOrder s ∧ s.data.movies =
      some [{ id := some 1 }, { id := some 2 }, { id := some 3 }] := ⟨_, .of_run rfl, by decide⟩
  have swapped : Reorders BothLand inOrder outOfOrder :=
    .single (.swap loadedTwice _ _ [] ⟨rfl, rfl⟩)
  obtain ⟨t, reached, same⟩ := answers_reorder run swapped
  refine ⟨s, t, run, reached, same, movies, ?_⟩
  rw [data_of_reaches reached]
  decide

end MainPageDataController
end BigMovies
