import BigMovies.Pages.Agreement

/-! The background poster. A tap writes it, and so does every assignment of the
controller's state, because the provider of the poster watches that state. A
tapped poster is therefore lost to the next answer that arrives. -/
namespace BigMovies
open Dart Transition MainPageDataController

namespace MainPage

/-- The tile tapped last since the last query change. -/
def lastTapped (log : List Event) : Option Item :=
  (gathered Event.isQueryChange Event.tapped? log).getLast?

/-- The background is the poster of the tile tapped last. -/
def KeepsTap (log : List Event) (p : State) : Prop :=
  ∀ item, lastTapped log = some item → p.selectedMoviePosterURL = some item.posterURL

/-- An answer that arrives after a tap finds, or else brings, a first movie
with the poster of the tapped tile. -/
def SparesTap (log : List Event) (p : State) (e : Event) : Prop :=
  ∀ flight answer item, e = .succeed flight answer → lastTapped log = some item →
    (p.controller.data.movies.getD [] ++ answer.movies).head?.map Movie.posterURL =
      some item.posterURL

theorem lastTapped_concat (log : List Event) (e : Event) :
    lastTapped (log ++ [e]) =
      if e.isQueryChange then none else e.tapped?.or (lastTapped log) := by
  rw [lastTapped, gathered_concat]
  cases e.isQueryChange with
  | true => rfl
  | false => cases tapped : e.tapped? <;> simp [lastTapped]

theorem selectedMoviePosterURL_append (data : MainPageData) (answer : Answer) :
    selectedMoviePosterURL (append data answer) =
      (data.movies.getD [] ++ answer.movies).head?.map Movie.posterURL := by
  have movies : (append data answer).movies = some (data.movies.getD [] ++ answer.movies) := rfl
  rw [selectedMoviePosterURL, movies]
  cases data.movies.getD [] ++ answer.movies <;> rfl

/-- A run keeps the poster of the tile tapped last exactly when every answer
that arrives after a tap spares it. -/
theorem tap_kept_iff (run : Reaches step init log p) :
    Throughout step init log KeepsTap ↔ Along step init log SparesTap := by
  refine throughout_iff_along (fun item none => by cases none) ?_ run
  intro pre p e q _ visited kept stepped
  unfold KeepsTap SparesTap
  rw [lastTapped_concat]
  obtain ⟨index, item, rfl, -, rfl⟩ | ⟨rfl, rfl⟩ | ⟨call, drives⟩ := step_cases stepped
  · refine iff_of_true ?_ (by simp)
    rintro other same
    cases same
    rfl
  · exact iff_of_true kept (by simp)
  · rw [drives.untapped, Option.none_or, drives.poster]
    obtain ⟨request, -, fetched, -⟩ := (agrees visited).request
    have calls := drives.calls
    have controlled := drives.controlled
    cases e with
    | onSearchChanged input => exact iff_of_true (fun _ none => by cases none) (by simp)
    | onCategoryChanged value =>
      cases value with
      | none => cases calls
      | some category => exact iff_of_true (fun _ none => by cases none) (by simp)
    | onScrollEnd =>
      cases calls
      have unassigned : (turn p.controller.data .fetchMoviesOrTVShows).assigned = false := by
        rw [turn, fetched]
      rw [unassigned]
      exact iff_of_true (fun item tapped => kept item tapped) (by simp)
    | fail flight cause =>
      cases calls
      exact iff_of_true (fun item tapped => kept item tapped) (by simp)
    | succeed flight answer =>
      cases calls
      have appended : q.controller.data = append p.controller.data answer := step_data controlled
      rw [appended, selectedMoviePosterURL_append]
      constructor
      · rintro spared _ _ item ⟨rfl, rfl⟩ tapped
        exact spared item tapped
      · intro spared item tapped
        exact spared flight answer item rfl tapped
    | onTap index item => cases calls

/-- The second page of a query arrives after the second tile was tapped. -/
def tappedThenLoaded : List Event :=
  [.succeed ⟨0, .getPopularMovies 1⟩
      { movies := [{ posterPath := some "/first.jpg" }, { posterPath := some "/second.jpg" }] },
    .onScrollEnd, .onTap 1 (.movie { posterPath := some "/second.jpg" }),
    .succeed ⟨2, .getPopularMovies 2⟩ {}]

theorem tapped_poster_lost :
    ∃ p, Reaches step init tappedThenLoaded p ∧ ¬ KeepsTap tappedThenLoaded p := by
  refine ⟨_, .of_run rfl, fun kept => ?_⟩
  exact absurd (kept (.movie { posterPath := some "/second.jpg" }) (by decide)) (by decide)

/-- The same with a tap on the first tile, whose poster comes back. -/
theorem tap_on_first_kept :
    Throughout step init
      [.succeed ⟨0, .getPopularMovies 1⟩ { movies := [{ posterPath := some "/first.jpg" }] },
        .onScrollEnd, .onTap 0 (.movie { posterPath := some "/first.jpg" }),
        .succeed ⟨2, .getPopularMovies 2⟩ {}] KeepsTap := by
  have first : Reaches step init
    [.succeed ⟨0, .getPopularMovies 1⟩ { movies := [{ posterPath := some "/first.jpg" }] }] _ :=
      .of_run rfl
  have second := first.next (e := .onScrollEnd) rfl
  have third := second.next (e := .onTap 0 (.movie { posterPath := some "/first.jpg" })) rfl
  refine (tap_kept_iff (.of_run rfl)).mpr ((along_concat third).mpr
    ⟨(along_concat second).mpr ⟨(along_concat first).mpr ⟨along_singleton.mpr ?_, ?_⟩, ?_⟩, ?_⟩)
  · rintro flight answer item - untapped
    cases untapped
  · rintro flight answer item scrolls
    cases scrolls
  · rintro flight answer item taps
    cases taps
  · rintro flight answer item succeeds tapped
    cases succeeds
    cases tapped
    rfl

end MainPage
end BigMovies
