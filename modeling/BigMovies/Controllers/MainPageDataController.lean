import BigMovies.Services.MovieService
import BigMovies.Feed.Basic

/-! The controller of `main_page_data_controller.dart` as a machine of event
loop turns. The code of a fetch before its `await` runs in the turn that calls
it, the code after it in the later turn in which the request completes, and
that code reads the state as it then is. -/
namespace BigMovies
open Dart

abbrev Flight := Feed.Flight Request

/-- One turn of the event loop: the state it leaves, whether it assigned `state`
and so notified the watchers, and the request it issued. -/
structure Turn where
  data : MainPageData
  assigned : Bool
  issued : Option Request
deriving Repr

namespace MainPageDataController

/-- The service call of a fetch, `none` when no branch applies. A failed `!`
is an error. -/
def serviceCall (state : MainPageData) : Except Thrown (Option Request) := do
  if !(state.searchText.getD "").isEmpty then
    if state.isTVCategory then
      return some (.searchTVShows (← nonNull state.searchText) (← nonNull state.page))
    else
      return some (.searchMovies (← nonNull state.searchText) (← nonNull state.page))
  else if state.searchCategory = some SearchCategory.popular then
    return some (.getPopularMovies (← nonNull state.page))
  else if state.searchCategory = some SearchCategory.upcoming then
    return some (.getUpcomingMovies (← nonNull state.page))
  else if state.searchCategory = some SearchCategory.latest then
    return some .getLatestMovie
  else if state.searchCategory = some SearchCategory.nowPlaying then
    return some (.getNowPlayingMovies (← nonNull state.page))
  else if state.searchCategory = some SearchCategory.topRated then
    return some (.getTopRatedMovies (← nonNull state.page))
  else if state.searchCategory = some SearchCategory.tvAiringToday then
    return some (.getAiringTodayTVShows (← nonNull state.page))
  else if state.searchCategory = some SearchCategory.tvOnTheAir then
    return some (.getOnTheAirTVShows (← nonNull state.page))
  else if state.searchCategory = some SearchCategory.tvPopular then
    return some (.getPopularTVShows (← nonNull state.page))
  else if state.searchCategory = some SearchCategory.tvTopRated then
    return some (.getTopRatedTVShows (← nonNull state.page))
  else
    return none

/-- The assignment at the end of a fetch. -/
def append (state : MainPageData) (answer : Answer) : MainPageData :=
  state.copyWith {
    movies := some (state.movies.getD [] ++ answer.movies)
    tvShows := some (state.tvShows.getD [] ++ answer.tvShows)
    page := some (state.page.getD 1 + 1) }

/-- The turn that calls a fetch. Without a service call there is no `await`,
and the fetch runs to its end at once. -/
def fetchMoviesOrTVShows (state : MainPageData) : Turn :=
  match serviceCall state with
  | .ok (some request) => ⟨state, false, some request⟩
  | .ok none => ⟨append state {}, true, none⟩
  | .error _ => ⟨state, false, none⟩

/-- The turn in which the awaited call returns or throws; the `catch` of the
fetch swallows whatever is thrown. -/
def resume (state : MainPageData) : Except Thrown Answer → Turn
  | .ok answer => ⟨append state answer, true, none⟩
  | .error _ => ⟨state, false, none⟩

def updateSearchCategory (state : MainPageData) (searchCategory : String) : Turn :=
  let assigned := state.copyWith {
    searchCategory := some searchCategory
    page := some 1
    movies := some []
    tvShows := some []
    searchText := some "" }
  { fetchMoviesOrTVShows assigned with assigned := true }

def updateSearchText (state : MainPageData) (searchText : String) : Turn :=
  if searchText.isEmpty then
    updateSearchCategory state (state.searchCategory.getD SearchCategory.popular)
  else
    let assigned := state.copyWith {
      searchText := some searchText
      page := some 1
      movies := some []
      tvShows := some [] }
    { fetchMoviesOrTVShows assigned with assigned := true }

/-- What can happen to a controller after its construction. -/
inductive Event where
  | updateSearchText (searchText : String)
  | updateSearchCategory (category : OfferedCategory)
  | fetchMoviesOrTVShows
  | succeed (flight : Flight) (answer : Answer)
  | fail (flight : Flight) (cause : Thrown)

namespace Event

/-- The calls that start a new query. -/
def isReset : Event → Bool
  | .updateSearchText _ | .updateSearchCategory _ => true
  | _ => false

def completion? : Event → Option (Flight × Answer)
  | .succeed flight answer => some (flight, answer)
  | _ => none

def landed? : Event → Option Flight
  | .succeed flight _ | .fail flight _ => some flight
  | _ => none

end Event

def turn (state : MainPageData) : Event → Turn
  | .updateSearchText searchText => updateSearchText state searchText
  | .updateSearchCategory category => updateSearchCategory state category.value
  | .fetchMoviesOrTVShows => fetchMoviesOrTVShows state
  | .succeed _ answer => resume state (.ok answer)
  | .fail _ cause => resume state (.error cause)

/-- The controller with its requests in flight. The clock counts events and
stamps each request with the event that issued it. -/
structure System where
  data : MainPageData
  inflight : List Flight
  clock : Nat
deriving Repr

/-- The constructor. -/
def init : System :=
  let turn := fetchMoviesOrTVShows .initial
  ⟨turn.data, (turn.issued.map (⟨0, ·⟩)).toList, 0⟩

/-- Only requests in flight complete, and only with what their call can return. -/
def enabled (s : System) : Event → Bool
  | .succeed flight answer => s.inflight.contains flight && flight.request.fits answer
  | .fail flight _ => s.inflight.contains flight
  | _ => true

def airborne (s : System) (e : Event) : List Flight :=
  match e.landed? with
  | some flight => s.inflight.erase flight
  | none => s.inflight

def step (s : System) (e : Event) : Option System :=
  if enabled s e then
    let turn := turn s.data e
    some {
      data := turn.data
      inflight := airborne s e ++ (turn.issued.map (⟨s.clock + 1, ·⟩)).toList
      clock := s.clock + 1 }
  else none

end MainPageDataController
end BigMovies
