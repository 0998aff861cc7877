import BigMovies.Pages.Agreement
import BigMovies.Pages.Details
import BigMovies.Pages.SplashPage

/-! The whole app, from `main.dart`: the splash page sets it up, and then the
main page stays at the bottom of a stack of routes for as long as the app runs.

Of Flutter's Navigator it is assumed that `push` and `pop` make a stack of the
routes and that input reaches the route on top alone. Requests in flight complete
whatever is on top. -/
namespace BigMovies
open Dart Transition

/-- A route over the main page: a details page, or the player with what its web
view has asked the delegate so far and how that decided. -/
inductive Route where
  | movieDetails (movie : Movie)
  | tvShowDetails (page : TVShowDetailsPage)
  | embed (page : EmbedPage) (decisions : List (NavigationRequest × NavigationDecision))
deriving DecidableEq, Repr

/-- The details page that a tap on the tile of an item pushes. -/
def Item.details : Item → Route
  | .movie shown => .movieDetails shown
  | .tvShow shown => .tvShowDetails { tvShow := shown }

namespace MainPage.Event

/-- The completion of a request, which needs no input. -/
def isAnswer : MainPage.Event → Bool
  | .succeed _ _ | .fail _ _ => true
  | _ => false

/-- The routes that the callback pushes. -/
def pushed (e : MainPage.Event) : List Route := (e.tapped?.map Item.details).toList

end MainPage.Event

namespace App

/-- What can happen to the app: the end of the set-up, an event of the main
page, the dropdowns and the poster of a details page, a navigation of the
player, and the way back. -/
inductive Event where
  | initialized (configFile : Except Thrown Json)
  | main (e : MainPage.Event)
  | onSeasonChanged (value : Option Int)
  | onEpisodeChanged (value : Option Int)
  | onPlay
  | navigate (request : NavigationRequest)
  | pop

/-- The running app. The route on top is the first. -/
structure Home where
  page : MainPage.State
  routes : List Route

namespace Home

def start : Home := ⟨MainPage.init, []⟩

/-- A callback that throws leaves the page as it was. -/
def selected (page : TVShowDetailsPage) : Except Thrown TVShowDetailsPage → TVShowDetailsPage
  | .ok changed => changed
  | .error _ => page

/-- The player that the route opens. -/
def player? : Route → Option EmbedPage
  | .movieDetails movie => some (MovieDetailsPage.onTap movie)
  | .tvShowDetails page => some page.onTap
  | .embed _ _ => none

/-- The route on top after an input to it: a dropdown hands out the value of
one of its items. -/
def input (e : Event) : Route → Option Route
  | .tvShowDetails page =>
    match e with
    | .onSeasonChanged value =>
      if value.all (TVShowDetailsPage.seasons.contains ·) then
        some (.tvShowDetails (selected page (page.onSeasonChanged value)))
      else none
    | .onEpisodeChanged value =>
      if value.all (TVShowDetailsPage.episodes.contains ·) then
        some (.tvShowDetails (selected page (page.onEpisodeChanged value)))
      else none
    | _ => none
  | .embed page decisions =>
    match e with
    | .navigate request =>
      some (.embed page (decisions ++ [(request, EmbedPage.navigationDelegate request)]))
    | _ => none
  | .movieDetails _ => none

/-- The main page takes its own events while it is on top, and the completion of
a request at all times. -/
def mainTakes (routes : List Route) (e : MainPage.Event) : Bool := e.isAnswer || routes.isEmpty

/-- An event of the running app. What is no event of the main page is an input to
the route on top, and refused if there is none. -/
def step (home : Home) (e : Event) : Option Home :=
  match e, home.routes with
  | .main e, routes =>
    if mainTakes routes e then do
      let page ← MainPage.step home.page e
      return ⟨page, e.pushed ++ routes⟩
    else none
  | .onPlay, top :: below => do
    let page ← player? top
    return { home with routes := .embed page [] :: top :: below }
  | .pop, _ :: below => some { home with routes := below }
  | e, top :: below => do
    let changed ← input e top
    return { home with routes := changed :: below }
  | _, [] => none

end Home

/-- What is on the screen. The main page cannot be built without the movie
service, and nothing leads out of that. -/
inductive Screen where
  | splash
  | broken
  | home (home : Home)

structure State (getIt : GetIt) where
  services : getIt.Registry
  screen : Screen

variable (getIt : GetIt)

def start : State getIt := ⟨getIt.empty, .splash⟩

/-- `_launchApp`: the controller of the main page looks up the movie service. -/
def launch (services : getIt.Registry) : Screen :=
  match getIt.get services .movieService with
  | .ok () => .home Home.start
  | .error _ => .broken

def step (s : State getIt) (e : Event) : Option (State getIt) :=
  match s.screen, e with
  | .splash, .initialized configFile =>
    let services := SplashPage.setup getIt s.services configFile
    some ⟨services, launch getIt services⟩
  | .home home, e => do
    let home ← home.step e
    return { s with screen := .home home }
  | _, _ => none

end App
end BigMovies
