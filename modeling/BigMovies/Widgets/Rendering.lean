import BigMovies.Widgets.Tiles
import BigMovies.Model.Decoding

/-! From the JSON object to the tile. The decoders leave null what the server
leaves out; the tiles unwrap some of these fields and have fallback texts for
others. The vote average of a TV show is decoded, but its tile reads another
field, which is never set. -/
namespace BigMovies
open Dart

theorem MovieTile.build_ok {formats : Formats} {movie : Movie} {tile : Tile} :
    MovieTile.build formats movie = .ok tile ↔ ∃ name rating language description,
      movie.name = some name ∧ movie.rating = some rating ∧ movie.language = some language ∧
      movie.description = some description ∧ tile = {
        posterURL := movie.posterURL
        name := name
        rating := formats.toStringAsFixed1 rating
        details := formats.toUpperCase language ++ " | R: " ++ interpolateBool movie.isAdult ++
          " | " ++ interpolate movie.releaseDate
        description := description } := by
  simp only [MovieTile.build, bind_ok, nonNull_ok, pure, Except.pure, Except.ok.injEq]
  constructor
  · rintro ⟨name, named, rating, rated, language, spoken, description, described, rfl⟩
    exact ⟨name, rating, language, description, named, rated, spoken, described, rfl⟩
  · rintro ⟨name, rating, language, description, named, rated, spoken, described, rfl⟩
    exact ⟨name, named, rating, rated, language, spoken, description, described, rfl⟩

theorem TVShowTile.build_ok {formats : Formats} {tvShow : TVShow} {tile : Tile} :
    TVShowTile.build formats tvShow = .ok tile ↔ ∃ name, tvShow.name = some name ∧ tile = {
      posterURL := tvShow.posterURL
      name := name
      rating := match tvShow.voteAverage with
        | some voteAverage => formats.toStringAsFixed1 (.double voteAverage)
        | none => "N/A"
      details := interpolate (tvShow.language.map formats.toUpperCase) ++ " | " ++
        interpolate tvShow.firstAirDate
      description := tvShow.overview.getD "No description available" } := by
  simp only [TVShowTile.build, bind_ok, nonNull_ok, pure, Except.pure, Except.ok.injEq]
  constructor
  · rintro ⟨name, named, rfl⟩
    exact ⟨name, named, rfl⟩
  · rintro ⟨name, named, rfl⟩
    exact ⟨name, named, rfl⟩

theorem MovieTile.build_succeeds (formats : Formats) (movie : Movie) :
    (∃ tile, MovieTile.build formats movie = .ok tile) ↔
      movie.name.isSome = true ∧ movie.rating.isSome = true ∧ movie.language.isSome = true ∧
        movie.description.isSome = true := by
  simp only [MovieTile.build_ok, Option.isSome_iff_exists]
  constructor
  · rintro ⟨_, name, rating, language, description, named, rated, spoken, described, -⟩
    exact ⟨⟨name, named⟩, ⟨rating, rated⟩, ⟨language, spoken⟩, ⟨description, described⟩⟩
  · rintro ⟨⟨name, named⟩, ⟨rating, rated⟩, ⟨language, spoken⟩, ⟨description, described⟩⟩
    exact ⟨_, name, rating, language, description, named, rated, spoken, described, rfl⟩

theorem TVShowTile.build_succeeds (formats : Formats) (tvShow : TVShow) :
    (∃ tile, TVShowTile.build formats tvShow = .ok tile) ↔ tvShow.name.isSome = true := by
  simp only [TVShowTile.build_ok, Option.isSome_iff_exists]
  constructor
  · rintro ⟨_, name, named, -⟩
    exact ⟨name, named⟩
  · rintro ⟨name, named⟩
    exact ⟨_, name, named, rfl⟩

/-- The object holds what the tile of a movie unwraps. -/
def MovieTile.Needs (json : JsonMap) : Prop :=
  ∀ key ∈ ["title", "vote_average", "original_language", "overview"], (json.get key).isNull = false

/-- The object holds what the tile of a TV show unwraps. -/
def TVShowTile.Needs (json : JsonMap) : Prop :=
  ∃ key ∈ ["name", "original_name"], (json.get key).isNull = false

theorem MovieTile.builds_iff {json : JsonMap} (decoded : Movie.fromJson json = .ok movie)
    (formats : Formats) :
    (∃ tile, MovieTile.build formats movie = .ok tile) ↔ MovieTile.Needs json := by
  obtain ⟨accepted, providers, -, rfl⟩ := Movie.fromJson_ok.mp decoded
  simp only [MovieTile.build_succeeds, MovieTile.Needs, List.forall_mem_cons, List.not_mem_nil,
    accepted.title.isSome_iff rfl, accepted.vote_average.isSome_iff rfl,
    accepted.original_language.isSome_iff rfl, accepted.overview.isSome_iff rfl]
  simp

theorem TVShowTile.builds_iff {json : JsonMap} (decoded : TVShow.fromJson json = .ok tvShow)
    (formats : Formats) :
    (∃ tile, TVShowTile.build formats tvShow = .ok tile) ↔ TVShowTile.Needs json := by
  obtain ⟨accepted, country, -, rfl⟩ := TVShow.fromJson_ok.mp decoded
  rw [TVShowTile.build_succeeds, accepted.name.isSome_iff rfl, Json.isNull_orElse,
    Bool.and_eq_false_iff]
  simp [TVShowTile.Needs]

/-- The data that a tile is to show, as far as the server sent them. -/
structure Sent where
  name : Option String
  rating : Option Number
  language : Option String
  date : Option String
  description : Option String
  posterPath : Option String

/-- By key, in the object of a movie. -/
def Sent.ofMovie (json : JsonMap) : Sent where
  name := (json.get "title").string?
  rating := (json.get "vote_average").num?
  language := (json.get "original_language").string?
  date := (json.get "release_date").string?
  description := (json.get "overview").string?
  posterPath := (json.get "poster_path").string?

/-- By key, in the object of a TV show. -/
def Sent.ofTVShow (json : JsonMap) : Sent where
  name := ((json.get "name").orElse (json.get "original_name")).string?
  rating := (json.get "vote_average").num?
  language := (json.get "original_language").string?
  date := (json.get "first_air_date").string?
  description := (json.get "overview").string?
  posterPath := (json.get "poster_path").string?

def Sent.of (isTV : Bool) (json : JsonMap) : Sent :=
  if isTV then .ofTVShow json else .ofMovie json

theorem Movie.sent {json : JsonMap} (decoded : Movie.fromJson json = .ok movie) :
    Sent.ofMovie json = ⟨movie.name, movie.rating, movie.language, movie.releaseDate,
      movie.description, movie.posterPath⟩ := by
  obtain ⟨-, providers, -, rfl⟩ := Movie.fromJson_ok.mp decoded
  rfl

theorem TVShow.sent {json : JsonMap} (decoded : TVShow.fromJson json = .ok tvShow) :
    Sent.ofTVShow json = ⟨tvShow.name, tvShow.rating, tvShow.language, tvShow.firstAirDate,
      tvShow.overview, tvShow.posterPath⟩ ∧ tvShow.voteAverage = none := by
  obtain ⟨-, country, -, rfl⟩ := TVShow.fromJson_ok.mp decoded
  exact ⟨rfl, rfl⟩

/-- The tile shows each datum that was sent in its form, and a fallback text
only for one that was not. -/
structure Tile.Shows (formats : Formats) (sent : Sent) (tile : Tile) : Prop where
  name : ∀ name, sent.name = some name → tile.name = name
  rating : ∀ rating, sent.rating = some rating → tile.rating = formats.toStringAsFixed1 rating
  language : ∀ language, sent.language = some language →
    ∃ rest, tile.details = formats.toUpperCase language ++ " | " ++ rest
  date : ∀ date, sent.date = some date → ∃ rest, tile.details = rest ++ " | " ++ date
  description : ∀ description, sent.description = some description → tile.description = description
  poster : ∀ path, sent.posterPath = some path →
    tile.posterURL = "https://image.tmdb.org/t/p/" ++ "w500" ++ path
  rating_fallback : tile.rating = "N/A" → sent.rating = none
  description_fallback : tile.description = "No description available" →
    sent.description = none ∨ sent.description = some "No description available"

/-- Decoding an object and building its tile. -/
def draw (formats : Formats) (isTV : Bool) (json : JsonMap) : Except Thrown Tile :=
  if isTV then do TVShowTile.build formats (← TVShow.fromJson json)
  else do MovieTile.build formats (← Movie.fromJson json)

section
variable {formats : Formats} {json : JsonMap} {tile : Tile}

theorem draw_movie (drawn : draw formats false json = .ok tile) :
    ∃ movie, Movie.fromJson json = .ok movie ∧ MovieTile.build formats movie = .ok tile :=
  bind_ok.mp drawn

theorem draw_tvShow (drawn : draw formats true json = .ok tile) :
    ∃ tvShow, TVShow.fromJson json = .ok tvShow ∧ TVShowTile.build formats tvShow = .ok tile :=
  bind_ok.mp drawn

theorem movie_shows (numeric : ∀ rating, formats.toStringAsFixed1 rating ≠ "N/A")
    (drawn : draw formats false json = .ok tile) : tile.Shows formats (Sent.ofMovie json) := by
  obtain ⟨movie, decoded, built⟩ := draw_movie drawn
  rw [Movie.sent decoded]
  obtain ⟨name, rating, language, description, named, rated, spoken, described, rfl⟩ :=
    MovieTile.build_ok.mp built
  constructor
  case name => simp [named]
  case rating => simp [rated]
  case language =>
    intro sent same
    obtain rfl := Option.some.inj (spoken.symm.trans same)
    refine ⟨"R: " ++ interpolateBool movie.isAdult ++ " | " ++ interpolate movie.releaseDate, ?_⟩
    have bars : " | R: " = " | " ++ "R: " := by decide
    simp only [bars, String.append_assoc]
  case date =>
    intro date same
    exact ⟨_, by rw [show movie.releaseDate = some date from same]; rfl⟩
  case description => simp [described]
  case poster =>
    intro path same
    rw [Movie.posterURL, show movie.posterPath = some path from same]
    rfl
  case rating_fallback => exact fun shown => absurd shown (numeric rating)
  case description_fallback =>
    intro shown
    exact .inr (described.trans (congrArg some shown))

/-- The field that the tile reads is not the one that the decoder sets. -/
theorem tvShow_rating (drawn : draw formats true json = .ok tile) : tile.rating = "N/A" := by
  obtain ⟨tvShow, decoded, built⟩ := draw_tvShow drawn
  obtain ⟨_, -, rfl⟩ := TVShowTile.build_ok.mp built
  simp only [(TVShow.sent decoded).2]

theorem tvShow_rating_sent (drawn : draw formats true json = .ok tile) :
    (Sent.ofTVShow json).rating = none ↔ (json.get "vote_average").isNull = true := by
  obtain ⟨tvShow, decoded, -⟩ := draw_tvShow drawn
  have present := (TVShow.fromJson_ok.mp decoded).1.vote_average.isSome_iff rfl
  rw [← Bool.not_eq_false, ← present, Option.not_isSome_iff_eq_none]
  rfl

/-- Every other datum of a TV show comes through. -/
theorem tvShow_shows_iff (drawn : draw formats true json = .ok tile) :
    tile.Shows formats (Sent.ofTVShow json) ↔ (json.get "vote_average").isNull = true := by
  rw [← tvShow_rating_sent drawn]
  refine ⟨fun shows => shows.rating_fallback (tvShow_rating drawn), fun unrated => ?_⟩
  obtain ⟨tvShow, decoded, built⟩ := draw_tvShow drawn
  rw [(TVShow.sent decoded).1] at unrated ⊢
  obtain ⟨name, named, rfl⟩ := TVShowTile.build_ok.mp built
  constructor
  case name => simp [named]
  case rating =>
    intro rating sent
    rw [unrated] at sent
    cases sent
  case language =>
    intro language same
    exact ⟨_, by rw [show tvShow.language = some language from same]; rfl⟩
  case date =>
    intro date same
    exact ⟨_, by rw [show tvShow.firstAirDate = some date from same]; rfl⟩
  case description =>
    intro description same
    rw [show tvShow.overview = some description from same]
    rfl
  case poster =>
    intro path same
    have base : "https://image.tmdb.org/t/p/w500" = "https://image.tmdb.org/t/p/" ++ "w500" := by
      decide
    change tvShow.posterPath = some path at same
    unfold TVShow.posterURL
    rw [same]
    exact congrArg (· ++ path) base
  case rating_fallback => exact fun _ => unrated
  case description_fallback =>
    intro shown
    cases sent : tvShow.overview with
    | none => exact .inl rfl
    | some overview =>
      simp only [sent, Option.getD_some] at shown
      exact .inr (congrArg some shown)

end

/-- A tile shows what the server sent unless it is the tile of a TV show with a
vote average. The tile of a movie has one, so a movie and a TV show of the same
vote average never show the same rating. -/
theorem tile_shows_iff (formats : Formats)
    (numeric : ∀ rating, formats.toStringAsFixed1 rating ≠ "N/A") :
    (∀ isTV json tile, draw formats isTV json = .ok tile →
      (tile.Shows formats (Sent.of isTV json) ↔
        (isTV = true → (json.get "vote_average").isNull = true))) ∧
    ∀ movie tvShow movieTile tvShowTile, draw formats false movie = .ok movieTile →
      draw formats true tvShow = .ok tvShowTile →
      movie.get "vote_average" = tvShow.get "vote_average" →
      movieTile.rating ≠ tvShowTile.rating := by
  constructor
  · intro isTV json tile drawn
    cases isTV with
    | true => simpa [Sent.of] using tvShow_shows_iff drawn
    | false => exact iff_of_true (movie_shows numeric drawn) nofun
  · intro movie tvShow movieTile tvShowTile drawnMovie drawnTVShow _
    rw [tvShow_rating drawnTVShow]
    obtain ⟨decoded, -, built⟩ := draw_movie drawnMovie
    obtain ⟨_, rating, _, _, -, -, -, -, rfl⟩ := MovieTile.build_ok.mp built
    exact numeric rating

/-- Formats that are right for whole ratings. -/
def wholeFormats : Formats where
  toStringAsFixed1
    | .int value => toString value ++ ".0"
    | .double _ => "0.0"
  toUpperCase := String.toUpper

theorem wholeFormats_numeric (rating : Number) : wholeFormats.toStringAsFixed1 rating ≠ "N/A" := by
  cases rating with
  | int value =>
    intro same
    have last := congrArg (fun text => text.toList.getLast?) same
    simp [wholeFormats, String.toList_append] at last
  | double value => simp [wholeFormats]

/-- A TV show that nobody has rated yet. -/
def unrated : JsonMap :=
  [("id", .num (.int 70523)), ("name", .string "Dark"), ("original_language", .string "de"),
    ("first_air_date", .string "2017-12-01"), ("overview", .string "Four families."),
    ("poster_path", .string "/dark.jpg"), ("vote_average", .null)]

theorem tile_shows_unrated :
    ∃ tile, draw wholeFormats true unrated = .ok tile ∧
      tile.Shows wholeFormats (Sent.of true unrated) :=
  ⟨_, rfl, ((tile_shows_iff wholeFormats wholeFormats_numeric).1 true _ _ rfl).mpr fun _ => rfl⟩

theorem tvShow_rating_lost :
    ∃ tile, draw wholeFormats true [("name", .string "Dark"), ("vote_average", .num (.int 8))] =
        .ok tile ∧
      ¬ tile.Shows wholeFormats
        (Sent.of true [("name", .string "Dark"), ("vote_average", .num (.int 8))]) := by
  refine ⟨_, rfl, fun shows => ?_⟩
  have shown := shows.rating (.int 8) rfl
  exact wholeFormats_numeric (.int 8) shown.symm

end BigMovies
