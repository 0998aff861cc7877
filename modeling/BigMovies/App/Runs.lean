import BigMovies.App.Main

/-! The runs of the app. It comes up exactly when the configuration was accepted,
and from then on its main page goes through exactly the runs of the main page
alone, whatever is opened over it. -/
namespace BigMovies
open Dart Transition

namespace App

/-- The event of the main page, if it is one. -/
def Event.main? : Event → Option MainPage.Event
  | .main e => some e
  | _ => none

namespace Home
variable {home next : Home} {e : Event} {log : List Event}

/-- Everything a step of the running app can do. -/
inductive Steps (home : Home) : Event → Home → Prop where
  | main (uncovered : event.isAnswer = true ∨ home.routes = [])
      (stepped : MainPage.step home.page event = some shown) :
      Steps home (.main event) ⟨shown, event.pushed ++ home.routes⟩
  | play (covered : home.routes = top :: below) (plays : player? top = some player) :
      Steps home .onPlay ⟨home.page, .embed player [] :: top :: below⟩
  | pop (covered : home.routes = top :: below) : Steps home .pop ⟨home.page, below⟩
  | season (covered : home.routes = .tvShowDetails details :: below)
      (offered : value.all (TVShowDetailsPage.seasons.contains ·) = true) :
      Steps home (.onSeasonChanged value) ⟨home.page, .tvShowDetails
        { details with selectedSeason := value.getD details.selectedSeason } :: below⟩
  | episode (covered : home.routes = .tvShowDetails details :: below)
      (offered : value.all (TVShowDetailsPage.episodes.contains ·) = true) :
      Steps home (.onEpisodeChanged value) ⟨home.page, .tvShowDetails
        { details with selectedEpisode := value.getD details.selectedEpisode } :: below⟩
  | navigate (covered : home.routes = .embed player decisions :: below) :
      Steps home (.navigate request) ⟨home.page,
        .embed player (decisions ++ [(request, EmbedPage.navigationDelegate request)]) :: below⟩

theorem input_steps (covered : home.routes = top :: below) (changes : input e top = some changed) :
    Steps home e ⟨home.page, changed :: below⟩ := by
  cases top with
  | movieDetails movie => cases changes
  | tvShowDetails page =>
    cases e with
    | onSeasonChanged value =>
      simp only [input, Option.ite_none_right_eq_some, Option.some.injEq] at changes
      obtain ⟨offered, rfl⟩ := changes
      cases value <;> exact .season covered offered
    | onEpisodeChanged value =>
      simp only [input, Option.ite_none_right_eq_some, Option.some.injEq] at changes
      obtain ⟨offered, rfl⟩ := changes
      cases value <;> exact .episode covered offered
    | initialized | main | onPlay | navigate | pop => cases changes
  | embed page decisions =>
    cases e with
    | navigate request =>
      cases changes
      exact .navigate covered
    | initialized | main | onSeasonChanged | onEpisodeChanged | onPlay | pop => cases changes

theorem steps_of_step (stepped : home.step e = some next) : Steps home e next := by
  obtain ⟨page, routes⟩ := home
  cases e with
  | main event =>
    simp only [step, mainTakes, Option.ite_none_right_eq_some, Option.bind_eq_bind,
      Option.bind_eq_some_iff, Option.pure_def, Option.some.injEq, Bool.or_eq_true,
      List.isEmpty_iff] at stepped
    obtain ⟨uncovered, page, stepped, rfl⟩ := stepped
    exact .main uncovered stepped
  | onPlay =>
    cases routes with
    | nil => cases stepped
    | cons top below =>
      simp only [step, Option.bind_eq_bind, Option.bind_eq_some_iff, Option.pure_def,
        Option.some.injEq] at stepped
      obtain ⟨player, plays, rfl⟩ := stepped
      exact .play rfl plays
  | pop =>
    cases routes with
    | nil => cases stepped
    | cons top below =>
      cases stepped
      exact .pop rfl
  | initialized | onSeasonChanged | onEpisodeChanged | navigate =>
    cases routes with
    | nil => cases stepped
    | cons top below =>
      simp only [step, Option.bind_eq_bind, Option.bind_eq_some_iff, Option.pure_def,
        Option.some.injEq] at stepped
      obtain ⟨changed, changes, rfl⟩ := stepped
      exact input_steps rfl changes

/-- The main page sees its own events only. -/
theorem page_run (run : Reaches step start log home) :
    Reaches MainPage.step MainPage.init (log.filterMap Event.main?) home.page := by
  apply run.project page Event.main?
  intro home e next stepped
  cases steps_of_step stepped with
  | main uncovered moved => exact moved
  | play | pop | season | episode | navigate => rfl

/-- An event of the main page in the app, which closes a details page at once. -/
def lifted (e : MainPage.Event) : List Event :=
  .main e :: (e.tapped?.map fun _ => Event.pop).toList

theorem lifted_step {before after : MainPage.State} {e : MainPage.Event}
    (stepped : MainPage.step before e = some after) :
    Reaches step ⟨before, []⟩ (lifted e) ⟨after, []⟩ := by
  have first : Home.step ⟨before, []⟩ (.main e) = some ⟨after, e.pushed⟩ := by
    simp [step, mainTakes, stepped]
  rw [lifted, Reaches.cons_iff]
  refine ⟨_, first, ?_⟩
  cases tapped : e.tapped? with
  | none => simpa [MainPage.Event.pushed, tapped] using Reaches.refl
  | some item =>
    rw [MainPage.Event.pushed, tapped, Option.map_some, Option.map_some, Option.toList_some,
      Option.toList_some, Reaches.cons_iff]
    exact ⟨_, rfl, .refl⟩

theorem lifted_run {events : List MainPage.Event}
    (run : Reaches MainPage.step MainPage.init events shown) :
    Reaches step start (events.flatMap lifted) ⟨shown, []⟩ := by
  induction run with
  | refl => exact .refl
  | next earlier stepped ih =>
    rw [List.flatMap_append, List.flatMap_singleton]
    exact ih.append (lifted_step stepped)

theorem main?_lifted (events : List MainPage.Event) :
    (events.flatMap lifted).filterMap Event.main? = events := by
  induction events with
  | nil => rfl
  | cons e events ih =>
    have own : (lifted e).filterMap Event.main? = [e] := by
      cases tapped : e.tapped? <;> simp [lifted, tapped, Event.main?]
    rw [List.flatMap_cons, List.filterMap_append, ih, own, List.singleton_append]

end Home

section
variable {getIt : GetIt} {s t : State getIt} {log : List Event} {e : Event} {home : Home}

/-- Runs of the app that is up are those of `Home`. -/
theorem home_reaches (services : getIt.Registry) :
    Reaches (step getIt) ⟨services, .home home⟩ log s ↔
      ∃ next, Reaches Home.step home log next ∧ s = ⟨services, .home next⟩ := by
  have same : Reaches (step getIt) ⟨services, .home home⟩ log s ↔
      ∃ next, Reaches Home.step home (log.map id) next ∧ s = ⟨services, .home next⟩ := by
    apply reaches_map (fun home : Home => (⟨services, .home home⟩ : State getIt)) id
    intro home e
    simp only [step, id]
    cases home.step e <;> rfl
  rwa [List.map_id] at same

theorem start_step :
    step getIt (start getIt) e = some t ↔
      ∃ configFile, e = .initialized configFile ∧
        t = ⟨SplashPage.setup getIt getIt.empty configFile,
          launch getIt (SplashPage.setup getIt getIt.empty configFile)⟩ := by
  constructor
  · intro stepped
    cases e with
    | initialized configFile =>
      cases stepped
      exact ⟨configFile, rfl, rfl⟩
    | main | onSeasonChanged | onEpisodeChanged | onPlay | navigate | pop => cases stepped
  · rintro ⟨configFile, rfl, rfl⟩
    rfl

theorem setup_iff (getIt : GetIt) (configFile : Except Thrown Json) (service : Service) :
    getIt.isRegistered (SplashPage.setup getIt getIt.empty configFile) service = true ↔
      SplashPage.ConfigAccepted configFile := by
  rw [SplashPage.setup_registered SplashPage.coherent_empty, getIt.empty_unregistered]
  simp

section
variable {configFile : Except Thrown Json}

theorem launch_accepted (getIt : GetIt) (accepted : SplashPage.ConfigAccepted configFile) :
    launch getIt (SplashPage.setup getIt getIt.empty configFile) = .home Home.start := by
  have registered := (setup_iff getIt configFile .movieService).mpr accepted
  rw [launch, (getIt.get_ok _ _).mpr registered]

theorem launch_rejected (getIt : GetIt) (rejected : ¬ SplashPage.ConfigAccepted configFile) :
    launch getIt (SplashPage.setup getIt getIt.empty configFile) = .broken := by
  rw [← setup_iff getIt configFile .movieService, ← getIt.get_ok] at rejected
  unfold launch
  split
  · contradiction
  · rfl

/-- The app after the set-up: up if the configuration was accepted, and
otherwise broken for good. -/
theorem after_setup (run : Reaches (step getIt) (start getIt) (.initialized configFile :: log) s) :
    (SplashPage.ConfigAccepted configFile ∧ ∃ home, s =
        ⟨SplashPage.setup getIt getIt.empty configFile, .home home⟩ ∧
        Reaches Home.step Home.start log home) ∨
      (¬ SplashPage.ConfigAccepted configFile ∧ log = [] ∧
        s = ⟨SplashPage.setup getIt getIt.empty configFile, .broken⟩) := by
  obtain ⟨first, stepped, later⟩ := Reaches.cons_iff.mp run
  obtain ⟨_, same, rfl⟩ := start_step.mp stepped
  cases same
  by_cases accepted : SplashPage.ConfigAccepted configFile
  · rw [launch_accepted getIt accepted, home_reaches] at later
    obtain ⟨home, later, rfl⟩ := later
    exact .inl ⟨accepted, home, rfl, later⟩
  · rw [launch_rejected getIt accepted] at later
    cases log with
    | nil => exact .inr ⟨accepted, rfl, later.unique .refl⟩
    | cons e log =>
      obtain ⟨_, refused, -⟩ := Reaches.cons_iff.mp later
      cases refused

theorem home_run (run : Reaches (step getIt) (start getIt) (.initialized configFile :: log) s)
    (up : s.screen = .home home) :
    SplashPage.ConfigAccepted configFile ∧ Reaches Home.step Home.start log home := by
  rcases after_setup run with ⟨accepted, other, rfl, later⟩ | ⟨-, -, rfl⟩
  · cases up
    exact ⟨accepted, later⟩
  · cases up

theorem up_reaches (getIt : GetIt) (accepted : SplashPage.ConfigAccepted configFile)
    (run : Reaches Home.step Home.start log home) :
    Reaches (step getIt) (start getIt) (.initialized configFile :: log)
      ⟨SplashPage.setup getIt getIt.empty configFile, .home home⟩ := by
  refine Reaches.cons_iff.mpr ⟨_, start_step.mpr ⟨configFile, rfl, rfl⟩, ?_⟩
  rw [launch_accepted getIt accepted, home_reaches]
  exact ⟨home, run, rfl⟩

end

/-- Start-up. The splash page is left exactly by the end of the set-up. From then
on both services are registered or neither is, by whether the configuration was
accepted; with it the main page is up for as long as the app runs, and without
it the app can do nothing more. -/
theorem startup_of_history (run : Reaches (step getIt) (start getIt) log s) :
    (log = [] ∧ s = start getIt) ∨
      ∃ configFile later, log = .initialized configFile :: later ∧
        (∀ service, getIt.isRegistered s.services service = true ↔
          SplashPage.ConfigAccepted configFile) ∧
        (SplashPage.ConfigAccepted configFile → ∃ home, s.screen = .home home) ∧
        (¬ SplashPage.ConfigAccepted configFile → s.screen = .broken ∧ later = []) := by
  cases log with
  | nil => exact .inl ⟨rfl, run.unique .refl⟩
  | cons e later =>
    obtain ⟨first, stepped, -⟩ := Reaches.cons_iff.mp run
    obtain ⟨configFile, rfl, -⟩ := start_step.mp stepped
    refine .inr ⟨configFile, later, rfl, ?_⟩
    rcases after_setup run with ⟨accepted, home, rfl, -⟩ | ⟨rejected, rfl, rfl⟩
    · exact ⟨setup_iff getIt configFile, fun _ => ⟨home, rfl⟩, fun rejected => absurd accepted rejected⟩
    · exact ⟨setup_iff getIt configFile, fun accepted => absurd accepted rejected, fun _ => ⟨rfl, rfl⟩⟩

/-- A configuration file that has what the set-up asks for. -/
def completeConfig : Except Thrown Json :=
  .ok (.map [("API_KEY", .string "key"), ("BASE_API_URL", .string "https://api.themoviedb.org/3"),
    ("BASE_IMAGE_API_URL", .string "https://image.tmdb.org/t/p/original/")])

theorem completeConfig_accepted : SplashPage.ConfigAccepted completeConfig :=
  (SplashPage.configAccepted_iff completeConfig).mp rfl

theorem startup_of_completeConfig :
    ∃ s, Reaches (step GetIt.listed) (start GetIt.listed) [.initialized completeConfig] s ∧
      GetIt.listed.isRegistered s.services .movieService = true ∧
      ∃ home, s.screen = .home home := by
  have run : Reaches (step GetIt.listed) (start GetIt.listed) [.initialized completeConfig] _ :=
    up_reaches _ completeConfig_accepted .refl
  rcases startup_of_history run with ⟨unlaunched, -⟩ | ⟨_, _, log, registered, up, -⟩
  · cases unlaunched
  · cases log
    exact ⟨_, run, (registered .movieService).mpr completeConfig_accepted,
      up completeConfig_accepted⟩

/-- The main page within the app goes through exactly the runs of the main page
alone, provided that the configuration was accepted. -/
theorem page_runs_iff (getIt : GetIt) (configFile : Except Thrown Json)
    (events : List MainPage.Event) (page : MainPage.State) :
    (∃ log s home, Reaches (step getIt) (start getIt) (.initialized configFile :: log) s ∧
        s.screen = .home home ∧ log.filterMap Event.main? = events ∧ home.page = page) ↔
      SplashPage.ConfigAccepted configFile ∧ Reaches MainPage.step MainPage.init events page := by
  constructor
  · rintro ⟨log, s, home, run, up, rfl, rfl⟩
    obtain ⟨accepted, later⟩ := home_run run up
    exact ⟨accepted, Home.page_run later⟩
  · rintro ⟨accepted, run⟩
    have lifted := up_reaches getIt accepted (Home.lifted_run run)
    exact ⟨_, _, ⟨page, []⟩, lifted, rfl, Home.main?_lifted events, rfl⟩

end
end App
end BigMovies
