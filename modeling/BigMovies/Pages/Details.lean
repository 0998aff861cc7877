import BigMovies.Dart.Decimal
import BigMovies.Pages.MainPage
import BigMovies.Pages.EmbedPage

/-! The details pages of `movie_details_page.dart` and
`tv_show_details_page.dart`, and the player that they open. The URL of the
player names the item and, for a TV show, the season and the episode. -/
namespace BigMovies
open Dart Web

namespace MovieDetailsPage

/-- The player that a tap on the poster pushes. -/
def onTap (movie : Movie) : EmbedPage where
  embedUrl := "https://vidsrc.xyz/embed/movie?tmdb=" ++ interpolateInt movie.id
  title := movie.name.getD "Movie"

end MovieDetailsPage

/-- The details page of a TV show with its state. -/
structure TVShowDetailsPage where
  tvShow : TVShow
  selectedSeason : Int := 1
  selectedEpisode : Int := 1
deriving DecidableEq, Repr

namespace TVShowDetailsPage

/-- The values of the items of the season dropdown. -/
def seasons : List Int := (List.range 10).map fun index => index + 1

/-- The values of the items of the episode dropdown. -/
def episodes : List Int := (List.range 20).map fun index => index + 1

def onSeasonChanged (page : TVShowDetailsPage) (value : Option Int) :
    Except Thrown TVShowDetailsPage := do
  return { page with selectedSeason := ← nonNull value }

def onEpisodeChanged (page : TVShowDetailsPage) (value : Option Int) :
    Except Thrown TVShowDetailsPage := do
  return { page with selectedEpisode := ← nonNull value }

def constructEmbedUrl (tmdbId : Option Int) (season episode : Int) : String :=
  "https://vidsrc.xyz/embed/tv/" ++ interpolateInt tmdbId ++ "/" ++ toString season ++ "-" ++
    toString episode

/-- The player that a tap on the poster pushes. -/
def onTap (page : TVShowDetailsPage) : EmbedPage where
  embedUrl := constructEmbedUrl page.tvShow.id page.selectedSeason page.selectedEpisode
  title := page.tvShow.name.getD "TV Show"

end TVShowDetailsPage

namespace Item

def isTV : Item → Bool
  | .movie _ => false
  | .tvShow _ => true

/-- The player of an item, at a season and an episode if it is a TV show. -/
def player (item : Item) (season episode : Int) : EmbedPage :=
  match item with
  | .movie shown => MovieDetailsPage.onTap shown
  | .tvShow shown => TVShowDetailsPage.onTap ⟨shown, season, episode⟩

end Item

namespace EmbedPage

/-- The characters of the part of a player's URL that is not the same for all. -/
def alphabet : List Char := "embd/tv=-nul".toList

/-- Every entry holds a character that is neither a digit nor in the alphabet. -/
theorem foreign_character : ∀ entry ∈ adDomains, ∃ c ∈ entry.toList,
    c.isDigit = false ∧ c ∉ alphabet := by
  have checked : (adDomains.all fun entry => entry.toList.any fun c =>
      !c.isDigit && !alphabet.contains c) = true := by decide
  simpa only [List.all_eq_true, List.any_eq_true, Bool.and_eq_true, Bool.not_eq_true',
    List.contains_eq_mem, decide_eq_false_iff_not] using checked

theorem not_namesAd_of_alphabet {text : String}
    (plain : ∀ c ∈ text.toList, c.isDigit = true ∨ c ∈ alphabet) : ¬ NamesAd text := by
  rintro ⟨entry, listed, found⟩
  obtain ⟨c, member, nondigit, foreign⟩ := foreign_character entry listed
  rcases plain c (found.subset member) with digit | known
  · rw [nondigit] at digit
    cases digit
  · exact foreign known

theorem interpolateInt_alphabet (value : Option Int) (member : c ∈ (interpolateInt value).toList) :
    c.isDigit = true ∨ c ∈ alphabet := by
  have letters : "-nul".toList ⊆ alphabet := by decide
  exact (interpolateInt_characters value member).imp_right fun letter => letters letter

theorem toString_alphabet (value : Int) (member : c ∈ (toString value).toList) :
    c.isDigit = true ∨ c ∈ alphabet :=
  interpolateInt_alphabet (some value) member

/-- The path of a TV show's player. -/
def tvShowPath (tmdbId : Option Int) (season episode : Int) : String :=
  "embed/tv/" ++ interpolateInt tmdbId ++ "/" ++ toString season ++ "-" ++ toString episode

theorem tvShowPath_alphabet (tmdbId : Option Int) (season episode : Int)
    (member : c ∈ (tvShowPath tmdbId season episode).toList) : c.isDigit = true ∨ c ∈ alphabet := by
  have embed : "embed/tv/".toList ⊆ alphabet := by decide
  have slash : "/".toList ⊆ alphabet := by decide
  have dash : "-".toList ⊆ alphabet := by decide
  simp only [tvShowPath, String.toList_append, List.mem_append] at member
  rcases member with ((((start | id) | between) | season) | between) | episode
  · exact .inr (embed start)
  · exact interpolateInt_alphabet tmdbId id
  · exact .inr (slash between)
  · exact toString_alphabet _ season
  · exact .inr (dash between)
  · exact toString_alphabet _ episode

theorem free_of_alphabet {text : String}
    (plain : ∀ c ∈ text.toList, c.isDigit = true ∨ c ∈ alphabet) : Free ['?', '#'] text := by
  intro c member separates
  rcases plain c member with digit | known
  · simp only [List.mem_cons, List.not_mem_nil, or_false] at separates
    rcases separates with rfl | rfl <;> cases digit
  · simp only [List.mem_cons, List.not_mem_nil, or_false] at separates
    rcases separates with rfl | rfl <;> exact absurd known (by decide)

/-- The player's URL by its components. -/
def tvShowUrl (tmdbId : Option Int) (season episode : Int) : HttpUrl :=
  playerPage (tvShowPath tmdbId season episode)
    (free_of_alphabet fun _ => tvShowPath_alphabet tmdbId season episode)

theorem movieQuery_alphabet (id : Option Int)
    (member : c ∈ ("tmdb=" ++ interpolateInt id).toList) : c.isDigit = true ∨ c ∈ alphabet := by
  have name : "tmdb=".toList ⊆ alphabet := by decide
  rw [String.toList_append, List.mem_append] at member
  rcases member with start | digits
  · exact .inr (name start)
  · exact interpolateInt_alphabet id digits

def movieUrl (id : Option Int) : HttpUrl :=
  { embedMovie with
    query := some ("tmdb=" ++ interpolateInt id)
    query_free := by
      intro text given c member
      cases given
      have free := free_of_alphabet (fun _ => movieQuery_alphabet id) c member
      exact fun separates => free (List.mem_cons_of_mem _ separates) }

/-- The player's URL of an item, by its components. -/
def playerUrl (item : Item) (season episode : Int) : HttpUrl :=
  match item with
  | .movie shown => movieUrl shown.id
  | .tvShow shown => tvShowUrl shown.id season episode

/-- The start of a player's URL, read as scheme, host and path. -/
theorem player_start (path tail : String) (url : HttpUrl) (scheme : url.scheme = "https")
    (rest : url.authority ++ url.rest = "vidsrc.xyz".toList ++ '/' :: (path ++ tail).toList) :
    ("https" ++ "://" ++ "vidsrc.xyz" ++ "/" ++ path ++ tail) = url.text := by
  have colon : "://".toList = [':', '/', '/'] := rfl
  have slash : "/".toList = ['/'] := rfl
  apply String.toList_injective
  rw [HttpUrl.text_toList, rest, scheme]
  simp only [String.toList_append, List.append_assoc, colon, slash, List.cons_append,
    List.nil_append]

theorem append_start (start first second third fourth fifth : String) :
    start ++ first ++ second ++ third ++ fourth ++ fifth =
      start ++ (first ++ second ++ third ++ fourth ++ fifth) := by
  simp only [String.append_assoc]

/-- What the URL of a TV show's player names. -/
def programme (tmdbId : Option Int) (season episode : Int) : String :=
  interpolateInt tmdbId ++ "/" ++ toString season ++ "-" ++ toString episode

theorem constructEmbedUrl_eq (tmdbId : Option Int) (season episode : Int) :
    TVShowDetailsPage.constructEmbedUrl tmdbId season episode =
      "https://vidsrc.xyz/embed/tv/" ++ programme tmdbId season episode :=
  append_start _ _ _ _ _ _

theorem tvShowPath_eq (tmdbId : Option Int) (season episode : Int) :
    tvShowPath tmdbId season episode = "embed/tv/" ++ programme tmdbId season episode :=
  append_start _ _ _ _ _ _

theorem movie_embedUrl (id : Option Int) :
    "https://vidsrc.xyz/embed/movie?tmdb=" ++ interpolateInt id = (movieUrl id).text := by
  have parts : "https://vidsrc.xyz/embed/movie?tmdb=" =
      "https" ++ "://" ++ "vidsrc.xyz" ++ "/" ++ "embed/movie?tmdb=" := by decide
  have path : "embed/movie?tmdb=".toList = "embed/movie".toList ++ '?' :: "tmdb=".toList := by decide
  refine (congrArg (· ++ interpolateInt id) parts).trans (player_start _ _ _ rfl ?_)
  simp only [HttpUrl.authority, HttpUrl.rest, movieUrl, embedMovie, playerPage, ended, started,
    String.toList_append, path, List.nil_append, List.append_nil, List.cons_append,
    List.append_assoc]

theorem tvShow_embedUrl (tmdbId : Option Int) (season episode : Int) :
    TVShowDetailsPage.constructEmbedUrl tmdbId season episode =
      (tvShowUrl tmdbId season episode).text := by
  have parts : "https://vidsrc.xyz/embed/tv/" =
      "https" ++ "://" ++ "vidsrc.xyz" ++ "/" ++ "embed/tv/" := by decide
  refine (constructEmbedUrl_eq tmdbId season episode).trans
    ((congrArg (· ++ _) parts).trans (player_start _ _ _ rfl ?_))
  rw [← tvShowPath_eq]
  simp only [HttpUrl.authority, HttpUrl.rest, tvShowUrl, playerPage, ended, started,
    List.nil_append, List.append_nil]

theorem embedUrl_eq_text (item : Item) (season episode : Int) :
    (item.player season episode).embedUrl = (playerUrl item season episode).text := by
  cases item with
  | movie shown => exact movie_embedUrl shown.id
  | tvShow shown => exact tvShow_embedUrl shown.id season episode

/-- The player stays on its own site. -/
theorem hostOf_embedUrl (item : Item) (season episode : Int) :
    hostOf (item.player season episode).embedUrl = "vidsrc.xyz" := by
  rw [embedUrl_eq_text, HttpUrl.hostOf_text]
  cases item <;> rfl

/-- The filter of advertising lets every player pass. -/
theorem not_namesAd_embedUrl (item : Item) (season episode : Int) :
    ¬ NamesAd (item.player season episode).embedUrl := by
  rw [embedUrl_eq_text, namesAd_text]
  rintro (host | ⟨component, member, named⟩)
  · have plain : ¬ NamesAd "vidsrc.xyz" := by decide
    cases item <;> exact plain host
  · cases item with
    | movie shown =>
      have components : beyondHost (playerUrl (.movie shown) season episode) =
        ["embed/movie", "tmdb=" ++ interpolateInt shown.id] := rfl
      rw [components, List.mem_cons, List.mem_singleton] at member
      rcases member with rfl | rfl
      · exact absurd named (by decide)
      · exact not_namesAd_of_alphabet (fun _ => movieQuery_alphabet shown.id) named
    | tvShow shown =>
      have components : beyondHost (playerUrl (.tvShow shown) season episode) =
        [tvShowPath shown.id season episode] := rfl
      rw [components, List.mem_singleton] at member
      subst member
      exact not_namesAd_of_alphabet (fun _ => tvShowPath_alphabet shown.id season episode) named

theorem toList_fields (start id season episode : String) :
    (start ++ id ++ "/" ++ season ++ "-" ++ episode).toList =
      start.toList ++ (id.toList ++ '/' :: (season.toList ++ '-' :: episode.toList)) := by
  have slash : "/".toList = ['/'] := rfl
  have dash : "-".toList = ['-'] := rfl
  simp only [String.toList_append, slash, dash, List.append_assoc, List.cons_append, List.nil_append]

theorem slash_notMem (value : Option Int) : '/' ∉ (interpolateInt value).toList := by
  intro member
  rcases interpolateInt_characters value member with digit | letter
  · cases digit
  · exact absurd letter (by decide)

/-- The dash after a season is told from the sign of a number by its place. -/
theorem dashed_inj {season season' : Int} {right right' : List Char}
    (same : (toString season).toList ++ '-' :: right = (toString season').toList ++ '-' :: right') :
    season = season' ∧ right = right' := by
  obtain ⟨first, rest, written, digits⟩ := toList_toString_cons season
  obtain ⟨start, tail, other, numerals⟩ := toList_toString_cons season'
  have apart : '-' ∉ rest := fun member => absurd (digits '-' member) (by decide)
  have distinct : '-' ∉ tail := fun member => absurd (numerals '-' member) (by decide)
  rw [written, other, List.cons_append, List.cons_append] at same
  obtain ⟨starts, later⟩ := List.cons.inj same
  obtain ⟨rests, episodes⟩ := (separated_inj apart distinct).mp later
  refine ⟨toString_injective (String.toList_injective ?_), episodes⟩
  rw [written, other, starts, rests]

/-- The fields of a TV show's URL can be read back. -/
theorem constructEmbedUrl_inj {tmdbId tmdbId' : Option Int} {season season' episode episode' : Int}
    (same : TVShowDetailsPage.constructEmbedUrl tmdbId season episode =
      TVShowDetailsPage.constructEmbedUrl tmdbId' season' episode') :
    tmdbId = tmdbId' ∧ season = season' ∧ episode = episode' := by
  have lists := congrArg String.toList same
  unfold TVShowDetailsPage.constructEmbedUrl at lists
  rw [toList_fields, toList_fields] at lists
  obtain ⟨ids, later⟩ := (separated_inj (slash_notMem tmdbId) (slash_notMem tmdbId')).mp
    (List.append_cancel_left lists)
  obtain ⟨seasons, episodes⟩ := dashed_inj later
  exact ⟨interpolateInt_injective (String.toList_injective ids), seasons,
    toString_injective (String.toList_injective episodes)⟩

theorem movie_ne_tvShow (id tmdbId : Option Int) (season episode : Int) :
    "https://vidsrc.xyz/embed/movie?tmdb=" ++ interpolateInt id ≠
      TVShowDetailsPage.constructEmbedUrl tmdbId season episode := by
  intro same
  have marked : '?' ∈ ("https://vidsrc.xyz/embed/movie?tmdb=" ++ interpolateInt id).toList := by
    rw [String.toList_append]
    exact List.mem_append_left _ (by decide)
  rw [same, constructEmbedUrl_eq, String.toList_append, List.mem_append] at marked
  rcases marked with start | later
  · exact absurd start (by decide)
  · have path : '?' ∈ (tvShowPath tmdbId season episode).toList := by
      rw [tvShowPath_eq, String.toList_append]
      exact List.mem_append_right _ later
    rcases tvShowPath_alphabet tmdbId season episode path with digit | known
    · cases digit
    · exact absurd known (by decide)

/-- The URL of the player stays on its site and names what is to be played: two
items have the same player exactly when they are of one kind and have one id,
and for TV shows the same season and episode. -/
theorem embedUrl_identifies (first second : Item) (season season' episode episode' : Int) :
    hostOf (first.player season episode).embedUrl = "vidsrc.xyz" ∧
      ((first.player season episode).embedUrl = (second.player season' episode').embedUrl ↔
        first.isTV = second.isTV ∧ first.id = second.id ∧
          (first.isTV = true → season = season' ∧ episode = episode')) := by
  refine ⟨hostOf_embedUrl first season episode, ?_⟩
  cases first with
  | movie shown =>
    cases second with
    | movie other =>
      constructor
      · intro same
        have id := interpolateInt_injective ((String.append_right_inj _).mp same)
        exact ⟨rfl, id, fun tv => absurd tv Bool.false_ne_true⟩
      · rintro ⟨-, id, -⟩
        exact congrArg (fun id => "https://vidsrc.xyz/embed/movie?tmdb=" ++ interpolateInt id) id
    | tvShow other =>
      exact iff_of_false (movie_ne_tvShow _ _ _ _) fun same => Bool.false_ne_true same.1
  | tvShow shown =>
    cases second with
    | movie other =>
      exact iff_of_false (fun same => movie_ne_tvShow _ _ _ _ same.symm)
        fun same => Bool.false_ne_true same.1.symm
    | tvShow other =>
      constructor
      · intro same
        obtain ⟨id, season, episode⟩ := constructEmbedUrl_inj same
        exact ⟨rfl, id, fun _ => ⟨season, episode⟩⟩
      · rintro ⟨-, id, selected⟩
        obtain ⟨rfl, rfl⟩ := selected rfl
        exact congrArg (TVShowDetailsPage.constructEmbedUrl · season episode) id

end EmbedPage
end BigMovies
