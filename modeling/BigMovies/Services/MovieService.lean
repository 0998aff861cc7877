import BigMovies.Model.MainPageData

/-! The requests that the app makes and how their answers are read, from
`http_service.dart` and `movie_service.dart`. A service method runs up to the
request it sends, and reads the result of that request when it is there. -/
namespace BigMovies
open Dart

structure HttpRequest where
  url : String
  queryParameters : JsonMap
deriving Repr

structure Response where
  statusCode : Option Int
  data : Json
deriving Repr

/-- How a request ends: dio hands out a response or throws. -/
inductive DioResult where
  | response (response : Response)
  | dioException (message : Option String)
deriving Repr

namespace HttpService

def get (path : String) (query : Option JsonMap) : HttpRequest where
  url := Config.baseApiUrl ++ path
  queryParameters :=
    [("api_key", .string Config.apiKey), ("language", .string "en-US")] ++ query.getD []

def received : DioResult → Except Thrown Response
  | .response response => .ok response
  | .dioException message =>
    .error (.exception ("Failed to perform GET request: " ++ interpolate message))

end HttpService

/-- A service method: the request it sends and what it returns on a result. -/
structure Call (α : Type) where
  request : HttpRequest
  receive : DioResult → Except Thrown α

namespace MovieService
variable {α : Type}

/-- `try { … } catch (e) { throw Exception('…$e'); }` -/
def guarded (message : String) : Except Thrown α → Except Thrown α
  | .ok value => .ok value
  | .error cause => .error (.wrapped message cause)

def results (fromJson : JsonMap → Except Thrown α) (data : Json) : Except Thrown (List α) := do
  let elements ← cast Json.list? (← data.index "results")
  elements.mapM fun element => do fromJson (← cast Json.map? element)

/-- The body that all methods but `getLatestMovie` share. -/
def listing (fromJson : JsonMap → Except Thrown α) (path : String) (query : JsonMap)
    (message : String) : Call (List α) where
  request := HttpService.get path (some query)
  receive result := guarded message do
    let response ← HttpService.received result
    results fromJson response.data

def pageQuery (page : Int) : JsonMap := [("page", .num (.int page))]

def searchQuery (query : String) (page : Int) : JsonMap :=
  [("query", .string query), ("page", .num (.int page))]

def getPopularMovies (page : Int) : Call (List Movie) :=
  listing Movie.fromJson "/movie/popular" (pageQuery page)
    "Error occurred while fetching popular movies: "

def getUpcomingMovies (page : Int) : Call (List Movie) :=
  listing Movie.fromJson "/movie/upcoming" (pageQuery page)
    "Error occurred while fetching upcoming movies: "

def searchMovies (query : String) (page : Int) : Call (List Movie) :=
  listing Movie.fromJson "/search/movie" (searchQuery query page)
    "Error occurred while searching movies: "

def getLatestMovie : Call (List Movie) where
  request := HttpService.get "/movie/latest" none
  receive result := guarded "Error occurred while fetching the latest movie: " do
    let response ← HttpService.received result
    if response.statusCode = some 200 then
      let movie ← Movie.fromJson (← cast Json.map? response.data)
      return [movie]
    else
      throw (.exception "Failed to load latest movie")

def getNowPlayingMovies (page : Int) : Call (List Movie) :=
  listing Movie.fromJson "/movie/now_playing" (pageQuery page)
    "Error occurred while fetching now playing movies: "

def getTopRatedMovies (page : Int) : Call (List Movie) :=
  listing Movie.fromJson "/movie/top_rated" (pageQuery page)
    "Error occurred while fetching top-rated movies: "

def getAiringTodayTVShows (page : Int) : Call (List TVShow) :=
  listing TVShow.fromJson "/tv/airing_today" (pageQuery page)
    "Error occurred while fetching airing today TV shows: "

def getOnTheAirTVShows (page : Int) : Call (List TVShow) :=
  listing TVShow.fromJson "/tv/on_the_air" (pageQuery page)
    "Error occurred while fetching on-the-air TV shows: "

def getPopularTVShows (page : Int) : Call (List TVShow) :=
  listing TVShow.fromJson "/tv/popular" (pageQuery page)
    "Error occurred while fetching popular TV shows: "

def getTopRatedTVShows (page : Int) : Call (List TVShow) :=
  listing TVShow.fromJson "/tv/top_rated" (pageQuery page)
    "Error occurred while fetching top-rated TV shows: "

def searchTVShows (query : String) (page : Int) : Call (List TVShow) :=
  listing TVShow.fromJson "/search/tv" (searchQuery query page)
    "Error occurred while searching TV shows: "

end MovieService

/-- A call of one of the service methods, with its arguments. -/
inductive Request where
  | searchTVShows (query : String) (page : Int)
  | searchMovies (query : String) (page : Int)
  | getPopularMovies (page : Int)
  | getUpcomingMovies (page : Int)
  | getLatestMovie
  | getNowPlayingMovies (page : Int)
  | getTopRatedMovies (page : Int)
  | getAiringTodayTVShows (page : Int)
  | getOnTheAirTVShows (page : Int)
  | getPopularTVShows (page : Int)
  | getTopRatedTVShows (page : Int)
deriving DecidableEq, Repr

/-- The local variables `movies` and `tvShows` of a fetch once its call has
returned. Both start empty and the call assigns one of them. -/
structure Answer where
  movies : List Movie := []
  tvShows : List TVShow := []
deriving DecidableEq, Repr

namespace Request

/-- The call returns TV shows rather than movies. -/
def isTV : Request → Bool
  | .searchTVShows .. | .getAiringTodayTVShows _ | .getOnTheAirTVShows _
  | .getPopularTVShows _ | .getTopRatedTVShows _ => true
  | _ => false

/-- The page that the call asks for, if it takes one. -/
def page? : Request → Option Int
  | .searchTVShows _ page | .searchMovies _ page | .getPopularMovies page
  | .getUpcomingMovies page | .getNowPlayingMovies page | .getTopRatedMovies page
  | .getAiringTodayTVShows page | .getOnTheAirTVShows page | .getPopularTVShows page
  | .getTopRatedTVShows page => some page
  | .getLatestMovie => none

def receiveMovies (call : Call (List Movie)) (result : DioResult) : Except Thrown Answer := do
  return { movies := ← call.receive result }

def receiveTVShows (call : Call (List TVShow)) (result : DioResult) : Except Thrown Answer := do
  return { tvShows := ← call.receive result }

/-- What awaiting the call yields when its HTTP request ends so. -/
def receive : Request → DioResult → Except Thrown Answer
  | .searchTVShows query page => receiveTVShows (MovieService.searchTVShows query page)
  | .searchMovies query page => receiveMovies (MovieService.searchMovies query page)
  | .getPopularMovies page => receiveMovies (MovieService.getPopularMovies page)
  | .getUpcomingMovies page => receiveMovies (MovieService.getUpcomingMovies page)
  | .getLatestMovie => receiveMovies MovieService.getLatestMovie
  | .getNowPlayingMovies page => receiveMovies (MovieService.getNowPlayingMovies page)
  | .getTopRatedMovies page => receiveMovies (MovieService.getTopRatedMovies page)
  | .getAiringTodayTVShows page => receiveTVShows (MovieService.getAiringTodayTVShows page)
  | .getOnTheAirTVShows page => receiveTVShows (MovieService.getOnTheAirTVShows page)
  | .getPopularTVShows page => receiveTVShows (MovieService.getPopularTVShows page)
  | .getTopRatedTVShows page => receiveTVShows (MovieService.getTopRatedTVShows page)

/-- The answer has the static type of the call: its other list is still empty. -/
def fits (request : Request) (answer : Answer) : Bool :=
  if request.isTV then answer.movies.isEmpty else answer.tvShows.isEmpty

end Request
end BigMovies
