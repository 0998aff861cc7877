import BigMovies.Services.MovieService
import BigMovies.Model.Encoding

/-! What the service methods send. Each method has an endpoint of its own, and
the endpoint with the query parameters determines the call. -/
namespace BigMovies
open Dart

/-- The methods of the service. -/
inductive Endpoint where
  | searchTVShows | searchMovies | getPopularMovies | getUpcomingMovies | getLatestMovie
  | getNowPlayingMovies | getTopRatedMovies | getAiringTodayTVShows | getOnTheAirTVShows
  | getPopularTVShows | getTopRatedTVShows
deriving DecidableEq, Repr

namespace Endpoint

def path : Endpoint → String
  | .searchTVShows => "/search/tv"
  | .searchMovies => "/search/movie"
  | .getPopularMovies => "/movie/popular"
  | .getUpcomingMovies => "/movie/upcoming"
  | .getLatestMovie => "/movie/latest"
  | .getNowPlayingMovies => "/movie/now_playing"
  | .getTopRatedMovies => "/movie/top_rated"
  | .getAiringTodayTVShows => "/tv/airing_today"
  | .getOnTheAirTVShows => "/tv/on_the_air"
  | .getPopularTVShows => "/tv/popular"
  | .getTopRatedTVShows => "/tv/top_rated"

/-- The text that the method puts before the cause of its failure. -/
def message : Endpoint → String
  | .searchTVShows => "Error occurred while searching TV shows: "
  | .searchMovies => "Error occurred while searching movies: "
  | .getPopularMovies => "Error occurred while fetching popular movies: "
  | .getUpcomingMovies => "Error occurred while fetching upcoming movies: "
  | .getLatestMovie => "Error occurred while fetching the latest movie: "
  | .getNowPlayingMovies => "Error occurred while fetching now playing movies: "
  | .getTopRatedMovies => "Error occurred while fetching top-rated movies: "
  | .getAiringTodayTVShows => "Error occurred while fetching airing today TV shows: "
  | .getOnTheAirTVShows => "Error occurred while fetching on-the-air TV shows: "
  | .getPopularTVShows => "Error occurred while fetching popular TV shows: "
  | .getTopRatedTVShows => "Error occurred while fetching top-rated TV shows: "

def all : List Endpoint :=
  [.searchTVShows, .searchMovies, .getPopularMovies, .getUpcomingMovies, .getLatestMovie,
    .getNowPlayingMovies, .getTopRatedMovies, .getAiringTodayTVShows, .getOnTheAirTVShows,
    .getPopularTVShows, .getTopRatedTVShows]

theorem find_path (endpoint : Endpoint) :
    all.find? (fun other => other.path == endpoint.path) = some endpoint := by
  cases endpoint <;> decide

theorem path_injective : Function.Injective path := by
  intro first second same
  have found := find_path first
  rw [same, find_path second] at found
  exact (Option.some.inj found).symm

end Endpoint

namespace Request

def endpoint : Request → Endpoint
  | .searchTVShows .. => .searchTVShows
  | .searchMovies .. => .searchMovies
  | .getPopularMovies _ => .getPopularMovies
  | .getUpcomingMovies _ => .getUpcomingMovies
  | .getLatestMovie => .getLatestMovie
  | .getNowPlayingMovies _ => .getNowPlayingMovies
  | .getTopRatedMovies _ => .getTopRatedMovies
  | .getAiringTodayTVShows _ => .getAiringTodayTVShows
  | .getOnTheAirTVShows _ => .getOnTheAirTVShows
  | .getPopularTVShows _ => .getPopularTVShows
  | .getTopRatedTVShows _ => .getTopRatedTVShows

/-- The text that the call searches for, if it is a search. -/
def query? : Request → Option String
  | .searchTVShows query _ | .searchMovies query _ => some query
  | _ => none

/-- The HTTP request that the call sends. -/
def wire : Request → HttpRequest
  | .searchTVShows query page => (MovieService.searchTVShows query page).request
  | .searchMovies query page => (MovieService.searchMovies query page).request
  | .getPopularMovies page => (MovieService.getPopularMovies page).request
  | .getUpcomingMovies page => (MovieService.getUpcomingMovies page).request
  | .getLatestMovie => MovieService.getLatestMovie.request
  | .getNowPlayingMovies page => (MovieService.getNowPlayingMovies page).request
  | .getTopRatedMovies page => (MovieService.getTopRatedMovies page).request
  | .getAiringTodayTVShows page => (MovieService.getAiringTodayTVShows page).request
  | .getOnTheAirTVShows page => (MovieService.getOnTheAirTVShows page).request
  | .getPopularTVShows page => (MovieService.getPopularTVShows page).request
  | .getTopRatedTVShows page => (MovieService.getTopRatedTVShows page).request

/-- The call to an endpoint with a query and a page, as far as it takes them. -/
def ofParts (endpoint : Endpoint) (query? : Option String) (page? : Option Int) : Request :=
  let query := query?.getD ""
  let page := page?.getD 1
  match endpoint with
  | .searchTVShows => .searchTVShows query page
  | .searchMovies => .searchMovies query page
  | .getPopularMovies => .getPopularMovies page
  | .getUpcomingMovies => .getUpcomingMovies page
  | .getLatestMovie => .getLatestMovie
  | .getNowPlayingMovies => .getNowPlayingMovies page
  | .getTopRatedMovies => .getTopRatedMovies page
  | .getAiringTodayTVShows => .getAiringTodayTVShows page
  | .getOnTheAirTVShows => .getOnTheAirTVShows page
  | .getPopularTVShows => .getPopularTVShows page
  | .getTopRatedTVShows => .getTopRatedTVShows page

theorem ofParts_parts (request : Request) :
    ofParts request.endpoint request.query? request.page? = request := by
  cases request <;> rfl

theorem eq_of_endpoint {first second : Request} (endpoint : first.endpoint = second.endpoint)
    (query : first.query? = second.query?) (page : first.page? = second.page?) : first = second := by
  rw [← ofParts_parts first, endpoint, query, page, ofParts_parts]

theorem wire_url (request : Request) :
    request.wire.url = Config.baseApiUrl ++ request.endpoint.path := by
  cases request <;> rfl

theorem wire_parameters (request : Request) :
    request.wire.queryParameters.get "api_key" = .string Config.apiKey ∧
      request.wire.queryParameters.get "language" = .string "en-US" ∧
      request.wire.queryParameters.get "query" = nullable .string request.query? ∧
      request.wire.queryParameters.get "page" = nullable (.num ∘ .int) request.page? := by
  cases request <;> exact ⟨rfl, rfl, rfl, rfl⟩

theorem nullable_injective {encode : α → Json} {read : Json → Option α}
    (inverse : ∀ value, castNullable read (nullable encode value) = .ok value)
    (same : nullable encode first = nullable encode second) : first = second := by
  have read := inverse first
  rw [same, inverse second] at read
  exact (Except.ok.inj read).symm

/-- What a call sends determines the call. -/
theorem wire_injective : Function.Injective wire := by
  intro first second same
  obtain ⟨-, -, query, page⟩ := first.wire_parameters
  obtain ⟨-, -, query', page'⟩ := second.wire_parameters
  have url := first.wire_url
  rw [same] at query page url
  apply eq_of_endpoint
  · apply Endpoint.path_injective
    rw [second.wire_url] at url
    exact ((String.append_right_inj _).mp url).symm
  · exact nullable_injective string_nullable (query.symm.trans query')
  · exact nullable_injective int_nullable (page.symm.trans page')

end Request
end BigMovies
