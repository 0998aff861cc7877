import BigMovies.Dart.Codec
import BigMovies.Model.Decoding

/-! What the decoders can produce. An encoding for each kind of item shows that
the decoder of movies produces every movie, and that of TV shows every TV show
with a country of origin and without a vote average. -/
namespace BigMovies
open Dart

def Provider.json (provider : Provider) : JsonMap :=
  [("provider_name", nullable .string provider.name),
    ("logo_path", nullable .string provider.logoPath),
    ("link", nullable .string provider.link)]

def Movie.json (movie : Movie) : JsonMap :=
  [("id", nullable (.num ∘ .int) movie.id),
    ("title", nullable .string movie.name),
    ("original_language", nullable .string movie.language),
    ("adult", nullable .bool movie.isAdult),
    ("overview", nullable .string movie.description),
    ("poster_path", nullable .string movie.posterPath),
    ("backdrop_path", nullable .string movie.backdropPath),
    ("vote_average", nullable .num movie.rating),
    ("release_date", nullable .string movie.releaseDate),
    ("providers", nullable (fun providers => .list (providers.map fun provider => .map provider.json))
      movie.providers)]

def TVShow.json (tvShow : TVShow) : JsonMap :=
  [("id", nullable (.num ∘ .int) tvShow.id),
    ("name", nullable .string tvShow.name),
    ("original_language", nullable .string tvShow.language),
    ("overview", nullable .string tvShow.overview),
    ("poster_path", nullable .string tvShow.posterPath),
    ("backdrop_path", nullable .string tvShow.backdropPath),
    ("vote_average", nullable .num tvShow.rating),
    ("first_air_date", nullable .string tvShow.firstAirDate),
    ("origin_country", nullable (fun country => .list [.string country]) tvShow.originCountry)]

theorem string_nullable (value : Option String) :
    castNullable Json.string? (nullable .string value) = .ok value :=
  castNullable_nullable Json.string? Json.string (fun _ => rfl) rfl value

theorem int_nullable (value : Option Int) :
    castNullable Json.int? (nullable (.num ∘ .int) value) = .ok value :=
  castNullable_nullable Json.int? (.num ∘ .int) (fun _ => rfl) rfl value

theorem bool_nullable (value : Option Bool) :
    castNullable Json.bool? (nullable .bool value) = .ok value :=
  castNullable_nullable Json.bool? Json.bool (fun _ => rfl) rfl value

theorem num_nullable (value : Option Number) :
    castNullable Json.num? (nullable .num value) = .ok value :=
  castNullable_nullable Json.num? Json.num (fun _ => rfl) rfl value

theorem Provider.fromJson_json (provider : Provider) :
    Provider.fromJson provider.json = .ok provider := by
  have name : provider.json.get "provider_name" = nullable .string provider.name := rfl
  have logo : provider.json.get "logo_path" = nullable .string provider.logoPath := rfl
  have link : provider.json.get "link" = nullable .string provider.link := rfl
  rw [Provider.fromJson, name, logo, link, string_nullable, string_nullable, string_nullable]
  rfl

theorem Movie.providersList_json (movie : Movie) :
    Movie.providersList movie.json = .ok movie.providers := by
  have listed : movie.json.get "providers" = nullable (fun providers =>
    .list (providers.map fun provider => .map provider.json)) movie.providers := rfl
  rw [Movie.providersList, listed]
  cases movie.providers with
  | none => rfl
  | some providers =>
    have decoded := mapM_encoded (fun provider => do Provider.fromJson (← cast Json.map? provider))
      (fun provider : Provider => .map provider.json) Provider.fromJson_json providers
    simp only [nullable, Json.list?, decoded]
    rfl

/-- Every movie is decoded from its encoding. -/
theorem Movie.fromJson_json (movie : Movie) : Movie.fromJson movie.json = .ok movie := by
  have id : movie.json.get "id" = nullable (.num ∘ .int) movie.id := rfl
  have title : movie.json.get "title" = nullable .string movie.name := rfl
  have language : movie.json.get "original_language" = nullable .string movie.language := rfl
  have adult : movie.json.get "adult" = nullable .bool movie.isAdult := rfl
  have overview : movie.json.get "overview" = nullable .string movie.description := rfl
  have poster : movie.json.get "poster_path" = nullable .string movie.posterPath := rfl
  have backdrop : movie.json.get "backdrop_path" = nullable .string movie.backdropPath := rfl
  have vote : movie.json.get "vote_average" = nullable .num movie.rating := rfl
  have date : movie.json.get "release_date" = nullable .string movie.releaseDate := rfl
  simp only [Movie.fromJson, Movie.providersList_json, id, title, language, adult, overview, poster,
    backdrop, vote, date, string_nullable, int_nullable, bool_nullable, num_nullable]
  rfl

/-- The TV shows that the decoder produces. -/
def TVShow.Decodable (tvShow : TVShow) : Prop :=
  tvShow.voteAverage = none ∧ tvShow.originCountry.isSome = true

instance (tvShow : TVShow) : Decidable tvShow.Decodable := inferInstanceAs (Decidable (_ ∧ _))

theorem TVShow.fromJson_json (tvShow : TVShow) (decodable : tvShow.Decodable) :
    TVShow.fromJson tvShow.json = .ok tvShow := by
  have id : tvShow.json.get "id" = nullable (.num ∘ .int) tvShow.id := rfl
  have name : (tvShow.json.get "name").orElse (tvShow.json.get "original_name") =
      nullable .string tvShow.name := by
    change (nullable Json.string tvShow.name).orElse .null = _
    cases tvShow.name <;> rfl
  have language : tvShow.json.get "original_language" = nullable .string tvShow.language := rfl
  have overview : tvShow.json.get "overview" = nullable .string tvShow.overview := rfl
  have poster : tvShow.json.get "poster_path" = nullable .string tvShow.posterPath := rfl
  have backdrop : tvShow.json.get "backdrop_path" = nullable .string tvShow.backdropPath := rfl
  have vote : tvShow.json.get "vote_average" = nullable .num tvShow.rating := rfl
  have date : tvShow.json.get "first_air_date" = nullable .string tvShow.firstAirDate := rfl
  have listed : tvShow.json.get "origin_country" =
    nullable (fun country => .list [.string country]) tvShow.originCountry := rfl
  simp only [TVShow.fromJson, TVShow.originCountryOf, listed, id, name, language, overview, poster,
    backdrop, vote, date, string_nullable, int_nullable, num_nullable]
  obtain ⟨unrated, located⟩ := decodable
  obtain ⟨country, originCountry⟩ := Option.isSome_iff_exists.mp located
  cases tvShow
  cases unrated
  cases originCountry
  rfl

theorem TVShow.decodable_of_fromJson {object : JsonMap} {tvShow : TVShow}
    (decoded : TVShow.fromJson object = .ok tvShow) : tvShow.Decodable := by
  obtain ⟨-, country, -, rfl⟩ := TVShow.fromJson_ok.mp decoded
  exact ⟨rfl, rfl⟩

/-- The decoders fail by casts alone. -/
theorem Provider.fromJson_typeError (json : JsonMap) : OnlyTypeErrors (Provider.fromJson json) := by
  unfold Provider.fromJson
  exact .bind (.castNullable _ _) fun _ => .bind (.castNullable _ _) fun _ =>
    .bind (.castNullable _ _) fun _ => .pure _

theorem Movie.providersList_typeError (json : JsonMap) :
    OnlyTypeErrors (Movie.providersList json) := by
  unfold Movie.providersList
  split
  · exact .map some (.mapM (fun provider => .bind (.cast _ _) Provider.fromJson_typeError) _)
  · exact .pure none

theorem Movie.fromJson_typeError (json : JsonMap) : OnlyTypeErrors (Movie.fromJson json) := by
  unfold Movie.fromJson
  refine .bind (Movie.providersList_typeError json) fun _ => ?_
  repeat refine .bind (.castNullable _ _) fun _ => ?_
  exact .pure _

theorem TVShow.originCountryOf_typeError (json : JsonMap) :
    OnlyTypeErrors (TVShow.originCountryOf json) := by
  unfold TVShow.originCountryOf
  split
  · exact .pure ""
  · refine .bind (.cast _ _) fun countries => ?_
    cases countries with
    | nil => exact .pure ""
    | cons first rest => exact .cast _ first

theorem TVShow.fromJson_typeError (json : JsonMap) : OnlyTypeErrors (TVShow.fromJson json) := by
  unfold TVShow.fromJson
  repeat refine .bind (.castNullable _ _) fun _ => ?_
  exact .bind (TVShow.originCountryOf_typeError json) fun _ => .pure _

end BigMovies
