import BigMovies.Pages.Agreement

/-! The background of the main page as a function of its history: the poster of
the tile tapped last since the controller last assigned its state, and without
such a tap the poster of the first movie. TV shows have no part in the latter. -/
namespace BigMovies
open Dart Transition MainPageDataController

namespace MainPageDataController

/-- Every answer that a run took has the type of its request. -/
theorem fits_of_completion (run : Reaches step init log s)
    (member : completion ∈ completions log) : completion.1.request.fits completion.2 = true := by
  obtain ⟨e, logged, completes⟩ := mem_gathered member
  obtain ⟨pre, post, rfl⟩ := List.append_of_mem logged
  have shorter : pre ++ [e] <+: pre ++ e :: post := ⟨post, by simp⟩
  obtain ⟨t, visited⟩ := run.of_prefix ((List.prefix_append _ _).trans shorter)
  obtain ⟨u, stepped⟩ := run.step_of_prefix shorter visited
  rw [Event.completion?_eq_some.mp completes] at stepped
  simp only [step, enabled, Option.ite_none_right_eq_some, Bool.and_eq_true] at stepped
  exact stepped.1.2

theorem isTV_of_issuedFor (run : Reaches step init log s) (issued : IssuedFor s.data request) :
    request.isTV = s.data.isTVCategory := by
  obtain ⟨t, rfl, -⟩ := ledger_of_reaches run
  obtain ⟨n, rfl⟩ := (issuedFor_present t.query t.received request).mp issued
  exact (t.query.isTV_requestAt _).trans (isTVCategory_present t.query t.received).symm

/-- Movies get into the list of a TV category by stale answers alone. -/
theorem movies_of_tvCategory (run : Reaches step init log s) (tv : s.data.isTVCategory = true)
    (timely : ∀ completion ∈ completions log, ¬ Stale log completion.1) :
    s.data.movies = some [] := by
  obtain ⟨movies, -, -, current⟩ := fromCurrentQuery_of_recent run fun completion member =>
    Nat.le_of_not_lt (timely completion member)
  rw [movies, Option.some.injEq, List.flatMap_eq_nil_iff]
  intro completion member
  have fits := fits_of_completion run member
  have kind := isTV_of_issuedFor run (current completion member).2
  simpa [Request.fits, kind, tv] using fits

end MainPageDataController

namespace MainPage

/-- The callbacks and completions that assign the controller's state. -/
def Event.assigns : Event → Bool
  | .onSearchChanged _ | .onCategoryChanged (some _) | .succeed _ _ => true
  | _ => false

/-- The tile tapped last since the last assignment. -/
def tappedSince (log : List Event) : Option Item :=
  (gathered Event.assigns Event.tapped? log).getLast?

/-- The background that a history leaves over a state of the controller. -/
def background (log : List Event) (data : MainPageData) : Option String :=
  match tappedSince log with
  | some item => some item.posterURL
  | none => (data.movies.getD []).head?.map Movie.posterURL

theorem selectedMoviePosterURL_eq (data : MainPageData) :
    selectedMoviePosterURL data = (data.movies.getD []).head?.map Movie.posterURL := by
  unfold selectedMoviePosterURL
  cases data.movies with
  | none => rfl
  | some movies => cases movies <;> rfl

theorem tappedSince_concat (log : List Event) (e : Event) :
    tappedSince (log ++ [e]) = if e.assigns then none else e.tapped?.or (tappedSince log) :=
  getLast?_gathered_concat log e

/-- In a run, the turns that assign are those of the events that do. -/
theorem turn_assigned (run : Reaches step init log p) (calls : Event.toController? e = some call) :
    (turn p.controller.data call).assigned = e.assigns := by
  obtain ⟨request, -, fetched, -⟩ := (agrees run).request
  cases e with
  | onSearchChanged input =>
    cases calls
    simp only [turn, updateSearchText, Event.assigns]
    split <;> rfl
  | onCategoryChanged value =>
    cases value with
    | none => cases calls
    | some category => cases calls; rfl
  | onScrollEnd =>
    cases calls
    rw [turn, fetched]
    rfl
  | succeed | fail => cases calls; rfl
  | onTap => cases calls

/-- What assigns nothing leaves the data as they are. -/
theorem data_of_unassigned (run : Reaches step init log p) (stepped : step p e = some q)
    (unassigned : e.assigns = false) : q.controller.data = p.controller.data := by
  obtain ⟨index, item, rfl, -, rfl⟩ | ⟨rfl, rfl⟩ | ⟨call, drives⟩ := step_cases stepped
  · rfl
  · rfl
  · obtain ⟨request, -, fetched, -⟩ := (agrees run).request
    have moved := step_data drives.controlled
    have calls := drives.calls
    cases e with
    | onScrollEnd =>
      cases calls
      rw [moved, turn, fetched]
    | fail flight cause =>
      cases calls
      exact moved
    | onCategoryChanged value =>
      cases value with
      | none => cases calls
      | some category => cases unassigned
    | onSearchChanged | succeed => cases unassigned
    | onTap => cases calls

theorem background_of_reaches (run : Reaches step init log p) :
    p.selectedMoviePosterURL = background log p.controller.data := by
  induction run with
  | refl => rfl
  | @next log p e q earlier stepped ih =>
    have kept := data_of_unassigned earlier stepped
    unfold background
    rw [tappedSince_concat]
    obtain ⟨index, item, rfl, -, rfl⟩ | ⟨rfl, rfl⟩ | ⟨call, drives⟩ := step_cases stepped
    · rfl
    · exact ih
    · rw [drives.poster, turn_assigned earlier drives.calls, drives.untapped]
      cases assigns : e.assigns with
      | true => exact selectedMoviePosterURL_eq q.controller.data
      | false =>
        rw [kept assigns]
        exact ih

/-- The background follows from the history: a tap shows until the next
assignment and the first movie of the state otherwise, so that a TV category
shows none before a tap unless a stale answer has brought movies. -/
theorem background_of_history (run : Reaches step init log p) :
    p.selectedMoviePosterURL = background log p.controller.data ∧
      (p.controller.data.isTVCategory = true → tappedSince log = none →
        (∀ completion ∈ completions (log.filterMap Event.toController?),
          ¬ Stale (log.filterMap Event.toController?) completion.1) →
        p.selectedMoviePosterURL = none) := by
  refine ⟨background_of_reaches run, fun tv untapped timely => ?_⟩
  have movies := movies_of_tvCategory (controller_reaches run) tv timely
  rw [background_of_reaches run, background, untapped, movies]
  rfl

/-- A tap on the second movie of the list. -/
def tappedSecond : List Event :=
  [.succeed ⟨0, .getPopularMovies 1⟩
      { movies := [{ posterPath := some "/a.jpg" }, { posterPath := some "/b.jpg" }] },
    .onTap 1 (.movie { posterPath := some "/b.jpg" })]

/-- The next page arrives after the tap. -/
def loadedSince : List Event :=
  tappedSecond ++ [.onScrollEnd, .succeed ⟨2, .getPopularMovies 2⟩ {}]

/-- The tap shows, and the next page puts the first movie in its place. -/
theorem background_of_tappedSecond :
    (∃ p, Reaches step init tappedSecond p ∧
      p.selectedMoviePosterURL = some "https://image.tmdb.org/t/p/w500/b.jpg") ∧
    ∃ p, Reaches step init loadedSince p ∧
      p.selectedMoviePosterURL = some "https://image.tmdb.org/t/p/w500/a.jpg" := by
  constructor
  · obtain ⟨p, run, tapped⟩ : ∃ p, Reaches step init tappedSecond p ∧ background tappedSecond
        p.controller.data = some "https://image.tmdb.org/t/p/w500/b.jpg" :=
      ⟨_, .of_run rfl, by decide⟩
    exact ⟨p, run, (background_of_history run).1.trans tapped⟩
  · obtain ⟨p, run, first⟩ : ∃ p, Reaches step init loadedSince p ∧ background loadedSince
        p.controller.data = some "https://image.tmdb.org/t/p/w500/a.jpg" :=
      ⟨_, .of_run rfl, by decide⟩
    exact ⟨p, run, (background_of_history run).1.trans first⟩

end MainPage
end BigMovies
