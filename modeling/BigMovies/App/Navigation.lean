import Mathlib.Data.List.Nodup
import BigMovies.App.Runs

/-! What is on top of the main page, in every run of the app. The stack of routes
is a function of the history: as many routes as were opened and not closed again,
at most the details page of the item tapped last, with what was selected on it
since, and over it the player of that item. -/
namespace BigMovies
open Dart Transition

namespace App

namespace Event

def tapped? : Event → Option Item
  | .main e => e.tapped?
  | _ => none

def isTap (e : Event) : Bool := e.tapped?.isSome

def season? : Event → Option Int
  | .onSeasonChanged value => value
  | _ => none

def episode? : Event → Option Int
  | .onEpisodeChanged value => value
  | _ => none

def opensPlayer : Event → Bool
  | .onPlay => true
  | _ => false

/-- What the web view asks, with the answer of the delegate. -/
def decision? : Event → Option (NavigationRequest × NavigationDecision)
  | .navigate request => some (request, EmbedPage.navigationDelegate request)
  | _ => none

def opens (e : Event) : Bool := e.isTap || e.opensPlayer

def closes : Event → Bool
  | .pop => true
  | _ => false

end Event

/-- The item tapped last. -/
def lastTap (log : List Event) : Option Item := (log.filterMap Event.tapped?).getLast?

/-- The season selected last since the last tap on an item. -/
def season (log : List Event) : Int := (gathered Event.isTap Event.season? log).getLast?.getD 1

/-- The episode selected last since the last tap on an item. -/
def episode (log : List Event) : Int := (gathered Event.isTap Event.episode? log).getLast?.getD 1

/-- What the delegate has decided since the player was opened. -/
def decided (log : List Event) : List (NavigationRequest × NavigationDecision) :=
  gathered Event.opensPlayer Event.decision? log

/-- The player of an item with what a history has selected on its details page. -/
def playerAfter (log : List Event) (item : Item) : EmbedPage :=
  item.player (season log) (episode log)

/-- The details page of an item with what a history has selected on it. -/
def detailsAfter (log : List Event) : Item → Route
  | .movie shown => .movieDetails shown
  | .tvShow shown => .tvShowDetails ⟨shown, season log, episode log⟩

def opened (log : List Event) : Nat := log.countP Event.opens

def closed (log : List Event) : Nat := log.countP Event.closes

/-- How many routes a history has opened and not closed again. -/
def depth (log : List Event) : Nat := opened log - closed log

/-- The routes that a history leaves over the main page, the one on top first. -/
def routesAfter (log : List Event) : List Route :=
  match depth log, lastTap log with
  | 1, some item => [detailsAfter log item]
  | 2, some item => [.embed (playerAfter log item) (decided log), detailsAfter log item]
  | _, _ => []

/-- The routes over the main page in step with what was opened and closed. -/
inductive Follows (log : List Event) : List Route → Prop where
  | main (none : opened log = closed log) : Follows log []
  | details (tapped : lastTap log = some item) (one : opened log = closed log + 1) :
    Follows log [detailsAfter log item]
  | player (tapped : lastTap log = some item) (two : opened log = closed log + 2) :
    Follows log [.embed (playerAfter log item) (decided log), detailsAfter log item]

theorem Follows.length_eq (follows : Follows log routes) : routes.length = depth log := by
  unfold depth
  cases follows with
  | main none =>
    rw [List.length_nil]
    omega
  | details _ one =>
    rw [List.length_singleton]
    omega
  | player _ two =>
    rw [List.length_cons, List.length_singleton]
    omega

theorem Follows.routes_eq (follows : Follows log routes) : routes = routesAfter log := by
  have length := follows.length_eq
  unfold routesAfter
  cases follows with
  | main =>
    rw [← length]
    rfl
  | details tapped =>
    rw [← length, tapped]
    rfl
  | player tapped =>
    rw [← length, tapped]
    rfl

section
variable (log : List Event) (e : Event)

theorem lastTap_concat : lastTap (log ++ [e]) = e.tapped?.or (lastTap log) := by
  cases tapped : e.tapped? <;> simp [lastTap, tapped]

theorem season_concat :
    season (log ++ [e]) = if e.isTap then 1 else e.season?.getD (season log) :=
  getD_gathered_concat log e 1

theorem episode_concat :
    episode (log ++ [e]) = if e.isTap then 1 else e.episode?.getD (episode log) :=
  getD_gathered_concat log e 1

theorem decided_concat :
    decided (log ++ [e]) = if e.opensPlayer then [] else decided log ++ e.decision?.toList :=
  gathered_concat log e

theorem opened_concat : opened (log ++ [e]) = opened log + if e.opens then 1 else 0 := by
  rw [opened, List.countP_append, List.countP_singleton, opened]

theorem closed_concat : closed (log ++ [e]) = closed log + if e.closes then 1 else 0 := by
  rw [closed, List.countP_append, List.countP_singleton, closed]

end

section
variable {e : Event} (log : List Event)

theorem opened_of_inert (keeps : e.opens = false) : opened (log ++ [e]) = opened log := by
  simp [opened_concat, keeps]

theorem closed_of_inert (keeps : e.closes = false) : closed (log ++ [e]) = closed log := by
  simp [closed_concat, keeps]

variable (tapped : e.tapped? = none)
include tapped

theorem lastTap_of_inert : lastTap (log ++ [e]) = lastTap log := by
  simp [lastTap_concat, tapped]

variable (season' : e.season? = none) (episode' : e.episode? = none)
include season' episode'

theorem details_of_inert (item : Item) : detailsAfter (log ++ [e]) item = detailsAfter log item := by
  cases item <;>
    simp [detailsAfter, season_concat, episode_concat, Event.isTap, tapped, season', episode']

theorem player_of_inert (item : Item) : playerAfter (log ++ [e]) item = playerAfter log item := by
  simp [playerAfter, season_concat, episode_concat, Event.isTap, tapped, season', episode']

end

namespace Home
variable {home next : Home} {e : Event} {log : List Event}

theorem isTap_main {event : MainPage.Event} (tapped : event.tapped? = some item) :
    (Event.main event).isTap = true := by
  simp [Event.isTap, Event.tapped?, tapped]

theorem follows_tap {event : MainPage.Event} (tapped : event.tapped? = some item)
    (follows : Follows log []) : Follows (log ++ [.main event]) (event.pushed ++ []) := by
  have isTap := isTap_main tapped
  have pushed : event.pushed ++ [] = [detailsAfter (log ++ [.main event]) item] := by
    cases item <;>
      simp [MainPage.Event.pushed, tapped, Item.details, detailsAfter, season_concat,
        episode_concat, isTap]
  rw [pushed]
  apply Follows.details
  · simp [lastTap_concat, Event.tapped?, tapped]
  · cases follows with
    | main none => simp [opened_concat, closed_concat, Event.opens, Event.closes, isTap, none]

/-- An event of the main page that opens nothing, while anything may be open. -/
theorem follows_untapped {event : MainPage.Event} {left : List Route}
    (untapped : event.tapped? = none) (follows : Follows log left) :
    Follows (log ++ [.main event]) left := by
  have keeps : (Event.main event).opens = false := by
    simp [Event.opens, Event.isTap, Event.tapped?, Event.opensPlayer, untapped]
  have opens := opened_of_inert log keeps
  have closes := closed_of_inert (e := .main event) log rfl
  have decides : decided log = decided (log ++ [.main event]) := by
    simp [decided_concat, Event.opensPlayer, Event.decision?]
  have last := lastTap_of_inert (e := .main event) log untapped
  cases follows with
  | main none => exact .main (by omega)
  | @details item tapped one =>
    rw [← details_of_inert (e := .main event) log untapped rfl rfl item]
    exact .details (last.trans tapped) (by omega)
  | @player item tapped two =>
    rw [← details_of_inert (e := .main event) log untapped rfl rfl item,
      ← player_of_inert (e := .main event) log untapped rfl rfl item, decides]
    exact .player (last.trans tapped) (by omega)

theorem follows_select (follows : Follows log (.tvShowDetails details :: below))
    (untapped : e.tapped? = none) (keeps : e.opens = false) (stays : e.closes = false) :
    Follows (log ++ [e]) (.tvShowDetails ⟨details.tvShow, e.season?.getD details.selectedSeason,
      e.episode?.getD details.selectedEpisode⟩ :: below) := by
  generalize routed : Route.tvShowDetails details :: below = routes at follows
  cases follows with
  | main => cases routed
  | player => cases routed
  | @details item tapped one =>
    cases item with
    | movie shown => cases routed
    | tvShow shown =>
      cases routed
      have after : detailsAfter (log ++ [e]) (.tvShow shown) = .tvShowDetails
          ⟨shown, e.season?.getD (season log), e.episode?.getD (episode log)⟩ := by
        simp [detailsAfter, season_concat, episode_concat, Event.isTap, untapped]
      have opens := opened_of_inert log keeps
      have closes := closed_of_inert log stays
      rw [← after]
      exact .details ((lastTap_of_inert log untapped).trans tapped) (by omega)

theorem follows_play (follows : Follows log (top :: below)) (plays : player? top = some player) :
    Follows (log ++ [.onPlay]) (.embed player [] :: top :: below) := by
  generalize routed : top :: below = routes at follows
  cases follows with
  | main => cases routed
  | player =>
    cases routed
    cases plays
  | @details item tapped one =>
    cases routed
    have details := details_of_inert (e := .onPlay) log rfl rfl rfl item
    have same := player_of_inert (e := .onPlay) log rfl rfl rfl item
    have opens : player? (detailsAfter log item) = some (playerAfter log item) := by
      cases item <;> rfl
    cases plays.symm.trans opens
    have opened : opened (log ++ [.onPlay]) = opened log + 1 := opened_concat log .onPlay
    have closed := closed_of_inert (e := .onPlay) log rfl
    have follows : Follows (log ++ [.onPlay]) _ :=
      .player ((lastTap_of_inert (e := .onPlay) log rfl).trans tapped) (by omega)
    simpa [details, same, decided_concat, Event.opensPlayer] using follows

theorem follows_pop (follows : Follows log (top :: below)) : Follows (log ++ [.pop]) below := by
  have opens := opened_of_inert (e := .pop) log rfl
  have closes : closed (log ++ [.pop]) = closed log + 1 := closed_concat log .pop
  generalize routed : top :: below = routes at follows
  cases follows with
  | main => cases routed
  | details tapped one =>
    cases routed
    exact .main (by omega)
  | @player item tapped two =>
    cases routed
    rw [← details_of_inert (e := .pop) log rfl rfl rfl item]
    exact .details ((lastTap_of_inert (e := .pop) log rfl).trans tapped) (by omega)

theorem follows_navigate (follows : Follows log (.embed player decisions :: below))
    (request : NavigationRequest) :
    Follows (log ++ [.navigate request]) (.embed player
      (decisions ++ [(request, EmbedPage.navigationDelegate request)]) :: below) := by
  generalize routed : Route.embed player decisions :: below = routes at follows
  cases follows with
  | main => cases routed
  | @details item => cases item <;> cases routed
  | @player item tapped two =>
    cases routed
    have details := details_of_inert (e := .navigate request) log rfl rfl rfl item
    have same := player_of_inert (e := .navigate request) log rfl rfl rfl item
    have opens := opened_of_inert (e := .navigate request) log rfl
    have closes := closed_of_inert (e := .navigate request) log rfl
    have follows : Follows (log ++ [.navigate request]) _ :=
      .player ((lastTap_of_inert (e := .navigate request) log rfl).trans tapped) (by omega)
    simpa [details, same, decided_concat, Event.opensPlayer, Event.decision?] using follows

/-- Each step keeps the routes such as the history says. -/
theorem follows_next (follows : Follows log home.routes) (stepped : home.step e = some next) :
    Follows (log ++ [e]) next.routes := by
  cases steps_of_step stepped with
  | @main event shown uncovered _ =>
    cases tapped : event.tapped? with
    | none =>
      -- Answers also arrive while something is open, and leave it open.
      simpa [MainPage.Event.pushed, tapped] using follows_untapped tapped follows
    | some item =>
      have idle : home.routes = [] := by
        apply uncovered.resolve_left
        cases event <;> simp_all [MainPage.Event.isAnswer, MainPage.Event.tapped?]
      rw [idle] at follows ⊢
      exact follows_tap tapped follows
  | play covered plays =>
    rw [covered] at follows
    exact follows_play follows plays
  | pop covered =>
    rw [covered] at follows
    exact follows_pop follows
  | season covered =>
    rw [covered] at follows
    exact follows_select follows rfl rfl rfl
  | episode covered =>
    rw [covered] at follows
    exact follows_select follows rfl rfl rfl
  | navigate covered =>
    rw [covered] at follows
    exact follows_navigate follows _

theorem follows_of_reaches (run : Reaches step start log home) : Follows log home.routes := by
  induction run with
  | refl => exact .main rfl
  | next _ stepped ih => exact follows_next ih stepped

/-- The dropdowns are built with a value that exactly one of their items has. -/
def Offered (log : List Event) : Prop :=
  TVShowDetailsPage.seasons.count (App.season log) = 1 ∧
    TVShowDetailsPage.episodes.count (App.episode log) = 1

theorem count_selected {values : List Int} (distinct : values.Nodup) {value : Option Int}
    (offered : value.all (values.contains ·) = true) (before : values.count current = 1) :
    values.count (value.getD current) = 1 := by
  cases value with
  | none => exact before
  | some selected =>
    exact List.count_eq_one_of_mem distinct (by simpa using offered)

theorem offered_of_inert (tapped : e.tapped? = none) (season' : e.season? = none)
    (episode' : e.episode? = none) (offered : Offered log) : Offered (log ++ [e]) := by
  unfold Offered
  rw [season_concat, episode_concat, Event.isTap, tapped, season', episode']
  exact offered

theorem offered_next (offered : Offered log) (stepped : home.step e = some next) :
    Offered (log ++ [e]) := by
  cases steps_of_step stepped with
  | @main event =>
    cases tapped : event.tapped? with
    | none => exact offered_of_inert tapped rfl rfl offered
    | some item =>
      -- A tap opens the page anew, at the first season and episode.
      unfold Offered
      rw [season_concat, episode_concat, isTap_main tapped, if_pos rfl, if_pos rfl]
      decide
  | @season details below value _ selects =>
    refine ⟨?_, ?_⟩
    · rw [season_concat]
      exact count_selected (by decide) selects offered.1
    · rw [episode_concat]
      exact offered.2
  | @episode details below value _ selects =>
    refine ⟨?_, ?_⟩
    · rw [season_concat]
      exact offered.1
    · rw [episode_concat]
      exact count_selected (by decide) selects offered.2
  | play | pop | navigate => exact offered_of_inert rfl rfl rfl offered

theorem offered_of_reaches (run : Reaches step start log home) : Offered log := by
  induction run with
  | refl => exact ⟨by decide, by decide⟩
  | next _ stepped ih => exact offered_next ih stepped

end Home

/-- A player that is open is that of the item tapped last. -/
theorem player_of_follows (follows : Follows log routes) (shows : .embed player decisions ∈ routes) :
    ∃ item, lastTap log = some item ∧ player = playerAfter log item ∧ decisions = decided log := by
  cases follows with
  | main => cases shows
  | @details item => cases item <;> simp [detailsAfter] at shows
  | @player item tapped =>
    have top : player = playerAfter log item ∧ decisions = decided log := by
      cases item <;> simpa [detailsAfter] using shows
    exact ⟨item, tapped, top⟩

/-- The delegate has let pass only what does not look like advertising. -/
theorem decided_clean (allowed : (request, NavigationDecision.navigate) ∈ decided log) :
    ¬ EmbedPage.NamesAd request.url := by
  obtain ⟨e, -, decides⟩ := mem_gathered allowed
  cases e with
  | navigate asked =>
    obtain ⟨rfl, passes⟩ := Prod.mk.inj (Option.some.inj decides)
    exact EmbedPage.navigate_iff.mp passes
  | initialized | main | onSeasonChanged | onEpisodeChanged | onPlay | pop => cases decides

section
variable {getIt : GetIt} {configFile : Except Thrown Json} {log : List Event} {s : State getIt}
  {home : Home}

/-- What is over the main page is a function of the history: as many routes as
were opened and not closed again, the details page of the item tapped last and
over it the player of that item. Both stand at the season and the episode
selected since that tap, which the dropdowns always offer. -/
theorem routes_of_history
    (run : Reaches (step getIt) (start getIt) (.initialized configFile :: log) s)
    (up : s.screen = .home home) :
    home.routes = routesAfter log ∧ home.routes.length = depth log ∧ Home.Offered log := by
  have later := (home_run run up).2
  have follows := Home.follows_of_reaches later
  exact ⟨follows.routes_eq, follows.length_eq, Home.offered_of_reaches later⟩

def watchedShow : TVShow := { id := some 7, originCountry := some "US" }

/-- The second season of a TV show and on to its next episode, with advertising
kept out. -/
def watched : List Event :=
  [.main (.onCategoryChanged (some .tvPopular)),
    .main (.succeed ⟨1, .getPopularTVShows 1⟩ { tvShows := [watchedShow] }),
    .main (.onTap 0 (.tvShow watchedShow)),
    .onSeasonChanged (some 2),
    .onPlay,
    .navigate ⟨"https://vidsrc.xyz/embed/tv/7/2-2"⟩,
    .navigate ⟨"https://popads.net/"⟩]

/-- The player that is left by it. -/
def watchedPlayer : EmbedPage := (Item.tvShow watchedShow).player 2 1

def watchedDecisions : List (NavigationRequest × NavigationDecision) :=
  [(⟨"https://vidsrc.xyz/embed/tv/7/2-2"⟩, .navigate), (⟨"https://popads.net/"⟩, .prevent)]

theorem watched_reaches :
    ∃ home, Reaches Home.step Home.start watched home ∧
      .embed watchedPlayer watchedDecisions ∈ home.routes := by
  obtain ⟨home, executed, shows⟩ : ∃ home, run Home.step Home.start watched = some home ∧
      .embed watchedPlayer watchedDecisions ∈ home.routes := ⟨_, rfl, by decide⟩
  exact ⟨home, .of_run executed, shows⟩

theorem routes_of_watched :
    ∃ s home, Reaches (step GetIt.listed) (start GetIt.listed)
        (.initialized completeConfig :: watched) s ∧
      s.screen = .home home ∧ home.routes = [.embed watchedPlayer watchedDecisions,
        .tvShowDetails { tvShow := watchedShow, selectedSeason := 2 }] := by
  obtain ⟨home, visited, -⟩ := watched_reaches
  have run := up_reaches GetIt.listed completeConfig_accepted visited
  have left : routesAfter watched = [.embed watchedPlayer watchedDecisions,
      .tvShowDetails { tvShow := watchedShow, selectedSeason := 2 }] := by decide
  exact ⟨_, home, run, rfl, (routes_of_history run rfl).1.trans left⟩

/-- The player never shows advertising, whatever the web view is that keeps to
its contract. Its own page, about which the delegate is not asked, is none for any
item, and every other page must have passed the delegate. -/
theorem player_avoids_ads (webView : WebView)
    (run : Reaches (step getIt) (start getIt) (.initialized configFile :: log) s)
    (up : s.screen = .home home) (shows : .embed player decisions ∈ home.routes) :
    Web.hostOf player.embedUrl = "vidsrc.xyz" ∧
      EmbedPage.navigationDelegate ⟨player.embedUrl⟩ = .navigate ∧
      ∀ url, webView.Shows player.embedUrl decisions url → ¬ EmbedPage.NamesAd url := by
  have follows := Home.follows_of_reaches (home_run run up).2
  obtain ⟨item, -, rfl, rfl⟩ := player_of_follows follows shows
  have clean := EmbedPage.not_namesAd_embedUrl item (season log) (episode log)
  refine ⟨EmbedPage.hostOf_embedUrl item _ _, EmbedPage.navigate_iff.mpr clean, ?_⟩
  intro url shown
  rcases webView.asks _ _ _ shown with rfl | ⟨request, allowed, rfl⟩
  · exact clean
  · exact decided_clean allowed

theorem player_avoids_ads_watched :
    ∃ s home, Reaches (step GetIt.listed) (start GetIt.listed)
        (.initialized completeConfig :: watched) s ∧
      s.screen = .home home ∧ .embed watchedPlayer watchedDecisions ∈ home.routes ∧
      ∃ url, url ≠ watchedPlayer.embedUrl ∧
        WebView.latest.Shows watchedPlayer.embedUrl watchedDecisions url ∧
        ¬ EmbedPage.NamesAd url := by
  obtain ⟨home, visited, shows⟩ := watched_reaches
  have run := up_reaches GetIt.listed completeConfig_accepted visited
  have shown : WebView.latest.Shows watchedPlayer.embedUrl watchedDecisions
    "https://vidsrc.xyz/embed/tv/7/2-2" := rfl
  exact ⟨_, home, run, rfl, shows, _, by decide, shown,
    (player_avoids_ads WebView.latest run rfl shows).2.2 _ shown⟩

end

end App
end BigMovies
