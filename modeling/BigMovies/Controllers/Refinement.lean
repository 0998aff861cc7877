import BigMovies.Controllers.MainPageDataController
import BigMovies.Feed.Ledger

/-! The controller is a feed. Its query is one of the offered categories with
a search text, and `MainPageData` is what that query and the answers received
for it look like: in every run nothing else is ever in the state. -/
namespace BigMovies
open Dart Transition

structure Query where
  category : OfferedCategory
  text : String
deriving DecidableEq, Repr

/-- The request of the query for a page. -/
def Query.requestAt (query : Query) (page : Int) : Request :=
  if query.text.isEmpty then
    match query.category with
    | .popular => .getPopularMovies page
    | .upcoming => .getUpcomingMovies page
    | .latest => .getLatestMovie
    | .nowPlaying => .getNowPlayingMovies page
    | .topRated => .getTopRatedMovies page
    | .tvAiringToday => .getAiringTodayTVShows page
    | .tvOnTheAir => .getOnTheAirTVShows page
    | .tvPopular => .getPopularTVShows page
    | .tvTopRated => .getTopRatedTVShows page
  else if query.category.isTV then .searchTVShows query.text page
  else .searchMovies query.text page

/-- The request for the page after the first `received` answers. -/
def Query.request (query : Query) (received : Nat) : Request := query.requestAt (1 + received)

/-- The query asks for pages: only the latest movie is not paged. -/
def Query.Paged (query : Query) : Prop := query.text ≠ "" ∨ query.category ≠ .latest

instance (query : Query) : Decidable query.Paged := inferInstanceAs (Decidable (_ ∨ _))

namespace MainPageDataController

def protocol : Feed.Protocol Query Request Answer := ⟨Query.request, Request.fits⟩

/-- The state of the main page for a query and the answers received for it. -/
def present (query : Query) (received : List Answer) : MainPageData where
  movies := some (received.flatMap Answer.movies)
  tvShows := some (received.flatMap Answer.tvShows)
  page := some (1 + received.length)
  searchCategory := some query.category.value
  searchText := some query.text

def render (s : Feed.State Query Request Answer) : System :=
  ⟨present s.query s.received, s.inflight, s.clock⟩

def Event.toFeed : Event → Feed.Event Query Request Answer
  | .updateSearchText searchText => .reset fun query => { query with text := searchText }
  | .updateSearchCategory category => .reset fun _ => ⟨category, ""⟩
  | .fetchMoviesOrTVShows => .fetch
  | .succeed flight answer => .succeed flight answer
  | .fail flight _ => .fail flight

def start : Feed.State Query Request Answer := Feed.start protocol ⟨.popular, ""⟩

@[simp] theorem Event.isReset_toFeed (e : Event) : e.toFeed.isReset = e.isReset := by
  cases e <;> rfl

@[simp] theorem Event.completion?_toFeed (e : Event) : e.toFeed.completion? = e.completion? := by
  cases e <;> rfl

@[simp] theorem Event.landed?_toFeed (e : Event) : e.toFeed.landed? = e.landed? := by
  cases e <;> rfl

@[simp] theorem Event.toFeed_eq_succeed {e : Event} :
    e.toFeed = .succeed flight answer ↔ e = .succeed flight answer := by
  cases e <;> simp [Event.toFeed]

theorem Event.toFeed_eq_fetch {e : Event} : e.toFeed = .fetch ↔ e = .fetchMoviesOrTVShows := by
  cases e <;> simp [Event.toFeed]

@[simp] theorem isTVCategory_present (query : Query) (received : List Answer) :
    (present query received).isTVCategory = query.category.isTV := by
  simp [MainPageData.isTVCategory, present, query.category.contains_iff]

/-- For an offered category, a text and a page, no `!` of a fetch fails and
exactly one branch makes its service call. -/
theorem serviceCall_page (query : Query) (received : List Answer) (page : Int) :
    serviceCall { present query received with page := some page } =
      .ok (some (query.requestAt page)) := by
  obtain ⟨category, text⟩ := query
  by_cases blank : text = ""
  · subst text
    cases category <;> rfl
  · have typed : text.isEmpty = false := by simpa using blank
    have view : MainPageData.isTVCategory
        { present ⟨category, text⟩ received with page := some page } = category.isTV :=
      isTVCategory_present _ received
    simp only [serviceCall, view]
    cases tv : category.isTV <;>
      simp [present, Query.requestAt, typed, tv, nonNull, bind, Except.bind, pure, Except.pure]

theorem serviceCall_present (query : Query) (received : List Answer) :
    serviceCall (present query received) = .ok (some (query.request received.length)) :=
  serviceCall_page query received (1 + received.length)

theorem fetch_present (query : Query) (received : List Answer) :
    fetchMoviesOrTVShows (present query received) =
      ⟨present query received, false, some (query.request received.length)⟩ := by
  rw [fetchMoviesOrTVShows, serviceCall_present]

theorem append_present (query : Query) (received : List Answer) (answer : Answer) :
    append (present query received) answer = present query (received ++ [answer]) := by
  simp [append, present, MainPageData.copyWith, Int.add_assoc]

theorem updateSearchCategory_present (query : Query) (received : List Answer)
    (category : OfferedCategory) :
    updateSearchCategory (present query received) category.value =
      ⟨present ⟨category, ""⟩ [], true, some (Query.request ⟨category, ""⟩ 0)⟩ := by
  have fetched := fetch_present ⟨category, ""⟩ []
  simp only [updateSearchCategory]
  change { fetchMoviesOrTVShows (present ⟨category, ""⟩ []) with assigned := true } = _
  rw [fetched]
  rfl

/-- Clearing the search text goes through the category update and ends in the
same place as setting it to the empty text. -/
theorem updateSearchText_present (query : Query) (received : List Answer) (searchText : String) :
    updateSearchText (present query received) searchText =
      ⟨present { query with text := searchText } [], true,
        some (Query.request { query with text := searchText } 0)⟩ := by
  by_cases blank : searchText = ""
  · subst searchText
    exact updateSearchCategory_present query received query.category
  · have typed : searchText.isEmpty = false := by simpa using blank
    have fetched := fetch_present { query with text := searchText } []
    simp only [updateSearchText, typed, Bool.false_eq_true, if_false]
    change { fetchMoviesOrTVShows (present { query with text := searchText } []) with
      assigned := true } = _
    rw [fetched]
    rfl

theorem init_eq : init = render start := by
  have fetched := fetch_present ⟨.popular, ""⟩ []
  change fetchMoviesOrTVShows .initial = _ at fetched
  rw [init, fetched]
  rfl

theorem step_data (stepped : step s e = some t) : t.data = (turn s.data e).data := by
  simp only [step] at stepped
  split at stepped
  · cases stepped
    rfl
  · contradiction

/-- Every turn of the controller is one step of the feed. -/
theorem step_render (s : Feed.State Query Request Answer) (e : Event) :
    step (render s) e = (Feed.step protocol s e.toFeed).map render := by
  cases e with
  | updateSearchText searchText =>
    simp [step, enabled, airborne, Event.landed?, turn, render, updateSearchText_present,
      Event.toFeed, Feed.step, Feed.State.issue, protocol]
  | updateSearchCategory category =>
    simp [step, enabled, airborne, Event.landed?, turn, render, updateSearchCategory_present,
      Event.toFeed, Feed.step, Feed.State.issue, protocol]
  | fetchMoviesOrTVShows =>
    simp [step, enabled, airborne, Event.landed?, turn, render, fetch_present,
      Event.toFeed, Feed.step, Feed.State.issue, protocol]
  | succeed flight answer =>
    by_cases may : flight ∈ s.inflight ∧ flight.request.fits answer = true
    · simp [step, enabled, airborne, Event.landed?, turn, resume, render, append_present,
        Event.toFeed, Feed.step, protocol, may]
    · have refused : enabled (render s) (.succeed flight answer) = false := by
        simpa [enabled, render] using may
      simp [step, refused, Event.toFeed, Feed.step, protocol, may]
  | fail flight cause =>
    by_cases may : flight ∈ s.inflight
    · simp [step, enabled, airborne, Event.landed?, turn, resume, render,
        Event.toFeed, Feed.step, may]
    · simp [step, enabled, render, Event.toFeed, Feed.step, may]

/-- The reachable states of the controller are exactly the images of the
reachable states of the feed, under the same history. -/
theorem reaches_iff : Reaches step init log s ↔
    ∃ t, Reaches (Feed.step protocol) start (log.map Event.toFeed) t ∧ s = render t := by
  rw [init_eq]
  exact reaches_map render Event.toFeed step_render

end MainPageDataController
end BigMovies
