import BigMovies.Model.Items

/-! The state of the main page, from `search_category.dart` and
`main_page_data.dart`. Categories are strings in the source and stay so here;
the nine that the main page offers are an enumeration of their own. -/
namespace BigMovies
open Dart

namespace SearchCategory

def popular : String := "Popular Movies"
def upcoming : String := "Upcoming Movies"
def latest : String := "Latest Movies"
def nowPlaying : String := "Now Playing Movies"
def topRated : String := "Top Rated Movies"
def tvAiringToday : String := "Airing Today TV Shows"
def tvOnTheAir : String := "On The Air TV Shows"
def tvPopular : String := "Popular TV Shows"
def tvTopRated : String := "Top Rated TV Shows"

end SearchCategory

inductive OfferedCategory where
  | popular | upcoming | latest | nowPlaying | topRated
  | tvAiringToday | tvOnTheAir | tvPopular | tvTopRated
deriving DecidableEq, Repr

def OfferedCategory.value : OfferedCategory → String
  | .popular => SearchCategory.popular
  | .upcoming => SearchCategory.upcoming
  | .latest => SearchCategory.latest
  | .nowPlaying => SearchCategory.nowPlaying
  | .topRated => SearchCategory.topRated
  | .tvAiringToday => SearchCategory.tvAiringToday
  | .tvOnTheAir => SearchCategory.tvOnTheAir
  | .tvPopular => SearchCategory.tvPopular
  | .tvTopRated => SearchCategory.tvTopRated

def OfferedCategory.isTV : OfferedCategory → Bool
  | .tvAiringToday | .tvOnTheAir | .tvPopular | .tvTopRated => true
  | _ => false

/-- The page is an `int` of Dart, which has 64 bits on the platforms of the app; it
is unbounded here, which makes no difference before the page 2^63 - 1. -/
structure MainPageData where
  movies : Option (List Movie) := none
  tvShows : Option (List TVShow) := none
  page : Option Int := none
  searchCategory : Option String := none
  searchText : Option String := none
deriving DecidableEq, Repr

namespace MainPageData

def initial : MainPageData where
  movies := some []
  tvShows := some []
  page := some 1
  searchCategory := some SearchCategory.popular
  searchText := some ""

/-- The named arguments are a record of the same shape; a null one keeps the field. -/
def copyWith (this arguments : MainPageData) : MainPageData where
  movies := arguments.movies <|> this.movies
  tvShows := arguments.tvShows <|> this.tvShows
  page := arguments.page <|> this.page
  searchCategory := arguments.searchCategory <|> this.searchCategory
  searchText := arguments.searchText <|> this.searchText

/-- `searchCategory?.contains("TV Shows") ?? false`, which the controller and
the view compute alike. -/
def isTVCategory (data : MainPageData) : Bool :=
  (data.searchCategory.map (contains · "TV Shows")).getD false

end MainPageData

/-- The substring test tells the TV categories from the others. -/
theorem OfferedCategory.contains_iff (category : OfferedCategory) :
    contains category.value "TV Shows" = category.isTV := by
  cases category <;> decide

theorem OfferedCategory.value_injective : Function.Injective OfferedCategory.value := by
  intro first second same
  cases first <;> cases second <;> first | rfl | exact absurd same (by decide)

end BigMovies
