import BigMovies.Model.Items

/-! What the decoders accept and what they make of it. Each field is read from
one key and an absent key reads as null, so an object is rejected only for a
value of another type; what is accepted is read unchanged. -/
namespace BigMovies
open Dart

structure Provider.Accepts (json : JsonMap) : Prop where
  provider_name : Admits Json.string? (json.get "provider_name")
  logo_path : Admits Json.string? (json.get "logo_path")
  link : Admits Json.string? (json.get "link")

theorem Provider.fromJson_succeeds (json : JsonMap) :
    (∃ provider, Provider.fromJson json = .ok provider) ↔ Provider.Accepts json := by
  simp only [Provider.fromJson, bind_ok, castNullable_ok Json.string? rfl, pure, Except.pure,
    Except.ok.injEq]
  constructor
  · rintro ⟨_, _, ⟨name, rfl⟩, _, ⟨logo, rfl⟩, _, ⟨link, rfl⟩, rfl⟩
    exact ⟨name, logo, link⟩
  · rintro ⟨name, logo, link⟩
    exact ⟨_, _, ⟨name, rfl⟩, _, ⟨logo, rfl⟩, _, ⟨link, rfl⟩, rfl⟩

/-- An object is accepted when each of these keys is absent, null or of the type
of its field. Providers that are not a list are passed over. -/
structure Movie.Accepts (json : JsonMap) : Prop where
  id : Admits Json.int? (json.get "id")
  title : Admits Json.string? (json.get "title")
  original_language : Admits Json.string? (json.get "original_language")
  adult : Admits Json.bool? (json.get "adult")
  overview : Admits Json.string? (json.get "overview")
  poster_path : Admits Json.string? (json.get "poster_path")
  backdrop_path : Admits Json.string? (json.get "backdrop_path")
  vote_average : Admits Json.num? (json.get "vote_average")
  release_date : Admits Json.string? (json.get "release_date")
  providers : ∀ elements, json.get "providers" = .list elements → ∀ provider ∈ elements,
    ∃ object, provider = .map object ∧ Provider.Accepts object

theorem Movie.providersList_succeeds (json : JsonMap) :
    (∃ providers, Movie.providersList json = .ok providers) ↔
      ∀ elements, json.get "providers" = .list elements → ∀ provider ∈ elements,
        ∃ object, provider = .map object ∧ Provider.Accepts object := by
  unfold Movie.providersList
  cases listed : (json.get "providers").list? with
  | none =>
    refine iff_of_true ⟨none, rfl⟩ fun elements same => ?_
    rw [list?_eq_some.mpr same] at listed
    cases listed
  | some elements =>
    rw [list?_eq_some] at listed
    simp only [listed, Json.list.injEq, forall_eq', Functor.map, map_ok]
    simp only [← decodes_iff Provider.fromJson_succeeds, ← exists_forall₂_iff, mapM_ok, decode_ok]
    constructor
    · rintro ⟨_, results, decoded, rfl⟩
      exact ⟨results, decoded⟩
    · rintro ⟨results, decoded⟩
      exact ⟨_, results, decoded, rfl⟩

/-- What is accepted is read unchanged. -/
theorem Movie.fromJson_ok {json : JsonMap} {movie : Movie} :
    Movie.fromJson json = .ok movie ↔ Movie.Accepts json ∧
      ∃ providers, Movie.providersList json = .ok providers ∧ movie = {
        id := (json.get "id").int?
        name := (json.get "title").string?
        language := (json.get "original_language").string?
        isAdult := (json.get "adult").bool?
        description := (json.get "overview").string?
        posterPath := (json.get "poster_path").string?
        backdropPath := (json.get "backdrop_path").string?
        rating := (json.get "vote_average").num?
        releaseDate := (json.get "release_date").string?
        providers := providers } := by
  simp only [Movie.fromJson, bind_ok, castNullable_ok Json.string? rfl,
    castNullable_ok Json.int? rfl, castNullable_ok Json.bool? rfl, castNullable_ok Json.num? rfl,
    pure, Except.pure, Except.ok.injEq]
  constructor
  · rintro ⟨providers, listed, _, ⟨id, rfl⟩, _, ⟨title, rfl⟩, _, ⟨language, rfl⟩, _, ⟨adult, rfl⟩,
      _, ⟨overview, rfl⟩, _, ⟨poster, rfl⟩, _, ⟨backdrop, rfl⟩, _, ⟨vote, rfl⟩, _, ⟨date, rfl⟩, rfl⟩
    exact ⟨⟨id, title, language, adult, overview, poster, backdrop, vote, date,
      (Movie.providersList_succeeds json).mp ⟨providers, listed⟩⟩, providers, listed, rfl⟩
  · rintro ⟨⟨id, title, language, adult, overview, poster, backdrop, vote, date, -⟩,
      providers, listed, rfl⟩
    exact ⟨providers, listed, _, ⟨id, rfl⟩, _, ⟨title, rfl⟩, _, ⟨language, rfl⟩, _, ⟨adult, rfl⟩,
      _, ⟨overview, rfl⟩, _, ⟨poster, rfl⟩, _, ⟨backdrop, rfl⟩, _, ⟨vote, rfl⟩, _, ⟨date, rfl⟩, rfl⟩

theorem Movie.fromJson_succeeds (json : JsonMap) :
    (∃ movie, Movie.fromJson json = .ok movie) ↔ Movie.Accepts json := by
  constructor
  · rintro ⟨movie, decoded⟩
    exact (Movie.fromJson_ok.mp decoded).1
  · intro accepted
    obtain ⟨providers, listed⟩ := (Movie.providersList_succeeds json).mpr accepted.providers
    exact ⟨_, Movie.fromJson_ok.mpr ⟨accepted, providers, listed, rfl⟩⟩

example : Movie.fromJson [("title", .string "Up"), ("providers", .list [.null])] =
    .error .typeError := rfl

/-- The name may stand under either of two keys, and the first country of
origin must be a string. -/
structure TVShow.Accepts (json : JsonMap) : Prop where
  id : Admits Json.int? (json.get "id")
  name : Admits Json.string? ((json.get "name").orElse (json.get "original_name"))
  original_language : Admits Json.string? (json.get "original_language")
  overview : Admits Json.string? (json.get "overview")
  poster_path : Admits Json.string? (json.get "poster_path")
  backdrop_path : Admits Json.string? (json.get "backdrop_path")
  vote_average : Admits Json.num? (json.get "vote_average")
  first_air_date : Admits Json.string? (json.get "first_air_date")
  origin_country : (json.get "origin_country").isNull = true ∨
    ∃ countries, json.get "origin_country" = .list countries ∧
      ∀ first, countries.head? = some first → ∃ country, first = .string country

theorem TVShow.originCountryOf_succeeds (json : JsonMap) :
    (∃ country, TVShow.originCountryOf json = .ok country) ↔
      (json.get "origin_country").isNull = true ∨
        ∃ countries, json.get "origin_country" = .list countries ∧
          ∀ first, countries.head? = some first → ∃ country, first = .string country := by
  unfold TVShow.originCountryOf
  cases json.get "origin_country" with
  | null => simp [Json.isNull, pure, Except.pure]
  | list countries =>
    cases countries with
    | nil => simp [Json.isNull, bind_ok, cast_ok, list?_eq_some, pure, Except.pure]
    | cons first rest =>
      have reads : ∀ country, first.string? = some country ↔ first = .string country := by
        cases first <;> simp [Json.string?]
      simp [Json.isNull, bind_ok, cast_ok, list?_eq_some, reads]
  | bool | num | string | map => simp [Json.isNull, bind_ok, cast_ok, list?_eq_some]

/-- The decoder reads the vote average, but into a field other than `voteAverage`. -/
theorem TVShow.fromJson_ok {json : JsonMap} {tvShow : TVShow} :
    TVShow.fromJson json = .ok tvShow ↔ TVShow.Accepts json ∧
      ∃ country, TVShow.originCountryOf json = .ok country ∧ tvShow = {
        id := (json.get "id").int?
        name := ((json.get "name").orElse (json.get "original_name")).string?
        language := (json.get "original_language").string?
        overview := (json.get "overview").string?
        posterPath := (json.get "poster_path").string?
        backdropPath := (json.get "backdrop_path").string?
        rating := (json.get "vote_average").num?
        firstAirDate := (json.get "first_air_date").string?
        originCountry := some country
        voteAverage := none } := by
  simp only [TVShow.fromJson, bind_ok, castNullable_ok Json.string? rfl,
    castNullable_ok Json.int? rfl, castNullable_ok Json.num? rfl, pure, Except.pure,
    Except.ok.injEq]
  constructor
  · rintro ⟨_, ⟨id, rfl⟩, _, ⟨name, rfl⟩, _, ⟨language, rfl⟩, _, ⟨overview, rfl⟩,
      _, ⟨poster, rfl⟩, _, ⟨backdrop, rfl⟩, _, ⟨vote, rfl⟩, _, ⟨date, rfl⟩, country, listed, rfl⟩
    exact ⟨⟨id, name, language, overview, poster, backdrop, vote, date,
      (TVShow.originCountryOf_succeeds json).mp ⟨country, listed⟩⟩, country, listed, rfl⟩
  · rintro ⟨⟨id, name, language, overview, poster, backdrop, vote, date, -⟩, country, listed, rfl⟩
    exact ⟨_, ⟨id, rfl⟩, _, ⟨name, rfl⟩, _, ⟨language, rfl⟩, _, ⟨overview, rfl⟩,
      _, ⟨poster, rfl⟩, _, ⟨backdrop, rfl⟩, _, ⟨vote, rfl⟩, _, ⟨date, rfl⟩, country, listed, rfl⟩

theorem TVShow.fromJson_succeeds (json : JsonMap) :
    (∃ tvShow, TVShow.fromJson json = .ok tvShow) ↔ TVShow.Accepts json := by
  constructor
  · rintro ⟨tvShow, decoded⟩
    exact (TVShow.fromJson_ok.mp decoded).1
  · intro accepted
    obtain ⟨country, listed⟩ :=
      (TVShow.originCountryOf_succeeds json).mpr accepted.origin_country
    exact ⟨_, TVShow.fromJson_ok.mpr ⟨accepted, country, listed, rfl⟩⟩

end BigMovies
