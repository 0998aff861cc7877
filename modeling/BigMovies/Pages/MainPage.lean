import BigMovies.Controllers.MainPageDataController

/-! The main page of `main_page.dart`: what it shows of the controller's state,
and the callbacks by which it drives the controller. Layout is left out. -/
namespace BigMovies
open Dart

/-- An element of the list that the page shows. -/
inductive Item where
  | movie (movie : Movie)
  | tvShow (tvShow : TVShow)
deriving DecidableEq, Repr

namespace Item

def id : Item → Option Int
  | .movie shown => shown.id
  | .tvShow shown => shown.id

def posterURL : Item → String
  | .movie shown => shown.posterURL
  | .tvShow shown => shown.posterURL

end Item

namespace MainPage

/-- The items of `_moviesListViewWidget`. -/
def items (data : MainPageData) : Option (List Item) :=
  if data.isTVCategory then data.tvShows.map (·.map .tvShow)
  else data.movies.map (·.map .movie)

/-- `_moviesListViewWidget` builds the progress indicator instead of a list. -/
def showsProgress (data : MainPageData) : Bool :=
  match items data with
  | some (_ :: _) => false
  | _ => true

/-- The values of the items of the category dropdown. -/
def dropdownItems : List String :=
  [SearchCategory.popular, SearchCategory.upcoming, SearchCategory.latest,
    SearchCategory.nowPlaying, SearchCategory.topRated, SearchCategory.tvAiringToday,
    SearchCategory.tvOnTheAir, SearchCategory.tvPopular, SearchCategory.tvTopRated]

/-- The value that the dropdown is built with. -/
def selectedCategory (data : MainPageData) : String :=
  data.searchCategory.getD SearchCategory.popular

/-- The create function of `selectedMoviePosterURLProvider`. -/
def selectedMoviePosterURL (data : MainPageData) : Option String :=
  match data.movies with
  | some (first :: _) => some first.posterURL
  | _ => none

/-- The mounted page: the content of its text field, the controller, and the
value of `selectedMoviePosterURLProvider`. -/
structure State where
  searchField : String
  controller : MainPageDataController.System
  selectedMoviePosterURL : Option String
deriving Repr

def init : State :=
  ⟨"", MainPageDataController.init, selectedMoviePosterURL MainPageDataController.init.data⟩

/-- Typing, the dropdown, the end of a scroll, the completion of a request, and
a tap on the tile at an index. A scroll may end after the list was emptied and
before the page is rebuilt, so it is not refused on an empty list. For taps that
window is assumed away: the `onTap` of a tile holds the item of the last build, and
the page is taken to have been built from the current state when it is tapped. -/
inductive Event where
  | onSearchChanged (input : String)
  | onCategoryChanged (value : Option OfferedCategory)
  | onScrollEnd
  | succeed (flight : Flight) (answer : Answer)
  | fail (flight : Flight) (cause : Thrown)
  | onTap (index : Nat) (item : Item)

namespace Event

/-- What the callback does to the text field: the user's edit, or `clear()`. -/
def edited (field : String) : Event → String
  | .onSearchChanged input => input
  | .onCategoryChanged (some _) => ""
  | _ => field

/-- The event of the controller that the callback or the network causes. -/
def toController? : Event → Option MainPageDataController.Event
  | .onSearchChanged input => some (.updateSearchText input)
  | .onCategoryChanged value => value.map .updateSearchCategory
  | .onScrollEnd => some .fetchMoviesOrTVShows
  | .succeed flight answer => some (.succeed flight answer)
  | .fail flight cause => some (.fail flight cause)
  | .onTap _ _ => none

def isQueryChange (e : Event) : Bool :=
  match e.toController? with
  | some call => call.isReset
  | none => false

def tapped? : Event → Option Item
  | .onTap _ item => some item
  | _ => none

end Event

/-- Every assignment of the controller's state re-creates the provider, which
drops the value that a tap has written to it. -/
def drive (p : State) (field : String) (call : MainPageDataController.Event) : Option State := do
  let controller ← MainPageDataController.step p.controller call
  return {
    searchField := field
    controller := controller
    selectedMoviePosterURL :=
      if (MainPageDataController.turn p.controller.data call).assigned then
        selectedMoviePosterURL controller.data
      else p.selectedMoviePosterURL }

/-- A tap is refused unless the list of the current state has the item there. -/
def step (p : State) (e : Event) : Option State :=
  match e with
  | .onTap index item =>
    if (items p.controller.data).bind (·[index]?) = some item then
      some { p with selectedMoviePosterURL := some item.posterURL }
    else none
  | e =>
    match e.toController? with
    | some call => drive p (e.edited p.searchField) call
    | none => some p

end MainPage
end BigMovies
