import BigMovies.Dart.Dynamic

/-! The items of the app and their decoders, from `config.dart`,
`app_provider.dart`, `movie.dart` and `tv_show.dart`. Reading a `dynamic` value
into a typed field is an implicit cast, so each field below may throw. -/
namespace BigMovies
open Dart

namespace Config

def baseApiUrl : String := "https://api.themoviedb.org/3"
def baseImageApiUrl : String := "https://image.tmdb.org/t/p/"
def apiKey : String := "112c77b8d014c840a31f35c2176cdad9"

end Config

structure Provider where
  name : Option String
  logoPath : Option String
  link : Option String
deriving DecidableEq, Repr

def Provider.fromJson (json : JsonMap) : Except Thrown Provider := do
  return {
    name := ← castNullable Json.string? (json.get "provider_name")
    logoPath := ← castNullable Json.string? (json.get "logo_path")
    link := ← castNullable Json.string? (json.get "link") }

structure Movie where
  id : Option Int := none
  name : Option String := none
  language : Option String := none
  isAdult : Option Bool := none
  description : Option String := none
  posterPath : Option String := none
  backdropPath : Option String := none
  rating : Option Number := none
  releaseDate : Option String := none
  providers : Option (List Provider) := none
deriving DecidableEq, Repr

/-- Anything but a list is passed over; a list must hold objects throughout. -/
def Movie.providersList (json : JsonMap) : Except Thrown (Option (List Provider)) :=
  match (json.get "providers").list? with
  | some elements => some <$> elements.mapM fun provider => do
      Provider.fromJson (← cast Json.map? provider)
  | none => return none

def Movie.fromJson (json : JsonMap) : Except Thrown Movie := do
  let providersList ← Movie.providersList json
  return {
    id := ← castNullable Json.int? (json.get "id")
    name := ← castNullable Json.string? (json.get "title")
    language := ← castNullable Json.string? (json.get "original_language")
    isAdult := ← castNullable Json.bool? (json.get "adult")
    description := ← castNullable Json.string? (json.get "overview")
    posterPath := ← castNullable Json.string? (json.get "poster_path")
    backdropPath := ← castNullable Json.string? (json.get "backdrop_path")
    rating := ← castNullable Json.num? (json.get "vote_average")
    releaseDate := ← castNullable Json.string? (json.get "release_date")
    providers := providersList }

def Movie.posterURL (movie : Movie) : String :=
  Config.baseImageApiUrl ++ "w500" ++ interpolate movie.posterPath

structure TVShow where
  id : Option Int := none
  name : Option String := none
  language : Option String := none
  overview : Option String := none
  posterPath : Option String := none
  backdropPath : Option String := none
  rating : Option Number := none
  firstAirDate : Option String := none
  originCountry : Option String := none
  voteAverage : Option Double := none
deriving DecidableEq, Repr

def TVShow.originCountryOf (json : JsonMap) : Except Thrown String :=
  if (json.get "origin_country").isNull then return ""
  else do
    match ← cast Json.list? (json.get "origin_country") with
    | [] => return ""
    | first :: _ => cast Json.string? first

/-- The decoder passes no `voteAverage` to the constructor, which leaves it null. -/
def TVShow.fromJson (json : JsonMap) : Except Thrown TVShow := do
  return {
    id := ← castNullable Json.int? (json.get "id")
    name := ← castNullable Json.string? ((json.get "name").orElse (json.get "original_name"))
    language := ← castNullable Json.string? (json.get "original_language")
    overview := ← castNullable Json.string? (json.get "overview")
    posterPath := ← castNullable Json.string? (json.get "poster_path")
    backdropPath := ← castNullable Json.string? (json.get "backdrop_path")
    rating := ← castNullable Json.num? (json.get "vote_average")
    firstAirDate := ← castNullable Json.string? (json.get "first_air_date")
    originCountry := some (← TVShow.originCountryOf json) }

def TVShow.posterURL (tvShow : TVShow) : String :=
  "https://image.tmdb.org/t/p/w500" ++ interpolate tvShow.posterPath

end BigMovies
