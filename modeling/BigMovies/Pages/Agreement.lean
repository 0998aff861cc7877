import BigMovies.Pages.MainPage
import BigMovies.Controllers.History

/-! The page and its controller hold the query twice, in the text field and in
the state, and pick the list of a category by different tests. They agree in
every state that the mounted page reaches. -/
namespace BigMovies
open Dart Transition MainPageDataController

namespace MainPage

/-- The step hands the call to the controller and updates the page around it. -/
structure Drives (p : State) (e : Event) (call : MainPageDataController.Event) (q : State) :
    Prop where
  calls : e.toController? = some call
  untapped : e.tapped? = none
  controlled : MainPageDataController.step p.controller call = some q.controller
  field : q.searchField = e.edited p.searchField
  poster : q.selectedMoviePosterURL = if (turn p.controller.data call).assigned then
    selectedMoviePosterURL q.controller.data else p.selectedMoviePosterURL

theorem drives_of_drive (calls : e.toController? = some call) (untapped : e.tapped? = none)
    (driven : drive p (e.edited p.searchField) call = some q) : Drives p e call q := by
  simp only [drive, Option.bind_eq_bind, Option.bind_eq_some_iff, Option.pure_def,
    Option.some.injEq] at driven
  obtain ⟨controller, controlled, rfl⟩ := driven
  exact ⟨calls, untapped, controlled, rfl, rfl⟩

/-- Everything a step of the page can do: a tap writes the poster, a null
category does nothing, and all else drives the controller. -/
theorem step_cases (stepped : step p e = some q) :
    (∃ index item, e = .onTap index item ∧ (items p.controller.data).bind (·[index]?) = some item ∧
        q = { p with selectedMoviePosterURL := some item.posterURL }) ∨
      (e = .onCategoryChanged none ∧ q = p) ∨ ∃ call, Drives p e call q := by
  cases e with
  | onTap index item =>
    simp only [step] at stepped
    split at stepped
    · rename_i tapped
      exact .inl ⟨index, item, rfl, tapped, (Option.some.inj stepped).symm⟩
    · contradiction
  | onCategoryChanged value =>
    cases value with
    | none => exact .inr (.inl ⟨rfl, (Option.some.inj stepped).symm⟩)
    | some category => exact .inr (.inr ⟨_, drives_of_drive rfl rfl stepped⟩)
  | onSearchChanged | onScrollEnd | succeed | fail =>
    exact .inr (.inr ⟨_, drives_of_drive rfl rfl stepped⟩)

/-- The controller's part of a run of the page is a run of the controller. -/
theorem controller_reaches (run : Reaches step init log p) :
    Reaches MainPageDataController.step MainPageDataController.init
      (log.filterMap Event.toController?) p.controller := by
  apply run.project State.controller Event.toController?
  intro p e q stepped
  obtain ⟨index, item, rfl, -, rfl⟩ | ⟨rfl, rfl⟩ | ⟨call, drives⟩ := step_cases stepped
  · rfl
  · rfl
  · simpa only [drives.calls] using drives.controlled

/-- What the text field holds follows what the last reset gave the controller. -/
theorem edited_lastText (calls : Event.toController? e = some call)
    (log : List MainPageDataController.Event) :
    lastText (log ++ [call]) = e.edited (lastText log) := by
  cases e with
  | onCategoryChanged value =>
    cases value with
    | none => cases calls
    | some category =>
      cases calls
      simp [lastText, Event.text?, Event.edited]
  | onTap index item => cases calls
  | onSearchChanged | onScrollEnd | succeed | fail =>
    cases calls
    simp [lastText, Event.text?, Event.edited]

theorem field_of_reaches (run : Reaches step init log p) :
    p.searchField = lastText (log.filterMap Event.toController?) := by
  refine run.invariant (I := fun log p =>
    p.searchField = lastText (log.filterMap Event.toController?)) rfl ?_
  intro log p e q _ same stepped
  rw [List.filterMap_append]
  obtain ⟨index, item, rfl, -, rfl⟩ | ⟨rfl, rfl⟩ | ⟨call, drives⟩ := step_cases stepped
  · rw [List.filterMap_cons_none rfl, List.filterMap_nil, List.append_nil]
    exact same
  · rw [List.filterMap_cons_none rfl, List.filterMap_nil, List.append_nil]
    exact same
  · simp only [List.filterMap_cons, drives.calls, List.filterMap_nil]
    rw [edited_lastText drives.calls, drives.field, same]

theorem dropdownItems_count (category : OfferedCategory) :
    dropdownItems.count category.value = 1 := by
  cases category <;> decide

/-- The answer is added to the list of TV shows, or to the list of movies, and
the other list is kept. -/
def GoesTo (tv : Bool) (answer : Answer) (before after : MainPageData) : Prop :=
  ∃ movies tvShows, before.movies = some movies ∧ before.tvShows = some tvShows ∧
    after.movies = some (if tv then movies else movies ++ answer.movies) ∧
    after.tvShows = some (if tv then tvShows ++ answer.tvShows else tvShows)

/-- What the page relies on in its controller. -/
structure Agrees (p : State) : Prop where
  text : p.controller.data.searchText = some p.searchField
  category : ∃ value, p.controller.data.searchCategory = some value ∧
    selectedCategory p.controller.data = value ∧ dropdownItems.count value = 1
  fields : ∃ movies tvShows page, p.controller.data.movies = some movies ∧
    p.controller.data.tvShows = some tvShows ∧ p.controller.data.page = some page ∧ 1 ≤ page
  request : ∃ request, serviceCall p.controller.data = .ok (some request) ∧
    fetchMoviesOrTVShows p.controller.data = ⟨p.controller.data, false, some request⟩ ∧
    request.isTV = p.controller.data.isTVCategory ∧
    items p.controller.data = if request.isTV then p.controller.data.tvShows.map (·.map .tvShow)
      else p.controller.data.movies.map (·.map .movie)

/-- The callbacks that call a fetch. -/
def Event.fetches : Event → Bool
  | .onSearchChanged _ | .onCategoryChanged (some _) | .onScrollEnd => true
  | _ => false

theorem fetches_landed? (fetches : Event.fetches e = true)
    (calls : e.toController? = some call) : call.landed? = none := by
  cases e with
  | onCategoryChanged value =>
    cases value with
    | none => cases fetches
    | some category => cases calls; rfl
  | onSearchChanged | onScrollEnd => cases calls; rfl
  | succeed | fail | onTap => cases fetches

theorem agrees (run : Reaches step init log p) : Agrees p := by
  have controlled := controller_reaches run
  have field := field_of_reaches run
  have data := data_of_reaches controlled
  obtain ⟨t, same, -⟩ := ledger_of_reaches controlled
  have presented : p.controller.data = present t.query t.received := by rw [same]; rfl
  refine ⟨by rw [data, field]; rfl, ?_, ?_, ?_⟩
  · exact ⟨t.query.category.value, by rw [presented]; rfl, by rw [presented]; rfl,
      dropdownItems_count _⟩
  · exact ⟨_, _, _, by rw [presented]; rfl, by rw [presented]; rfl, by rw [presented]; rfl,
      by omega⟩
  · have kind : (t.query.request t.received.length).isTV =
        (present t.query t.received).isTVCategory := by
      rw [isTVCategory_present]
      exact t.query.isTV_requestAt _
    rw [presented]
    refine ⟨_, serviceCall_present _ _, fetch_present _ _, kind, ?_⟩
    rw [kind, items]

/-- A callback that calls a fetch puts exactly one request in flight: the one
that the state after it calls for. -/
theorem fetches_once (run : Reaches step init log p) (fetches : Event.fetches e = true)
    (stepped : step p e = some q) :
    ∃ request, serviceCall q.controller.data = .ok (some request) ∧
      q.controller.inflight = p.controller.inflight ++ [⟨p.controller.clock + 1, request⟩] := by
  obtain ⟨index, item, rfl, -⟩ | ⟨rfl, -⟩ | ⟨call, drives⟩ := step_cases stepped
  · cases fetches
  · cases fetches
  · obtain ⟨t, same, -⟩ := ledger_of_reaches (controller_reaches run)
    have controlled := drives.controlled
    rw [same, step_render, Option.map_eq_some_iff] at controlled
    obtain ⟨u, fed, rendered⟩ := controlled
    rw [same, ← rendered]
    refine ⟨_, serviceCall_present u.query u.received, ?_⟩
    obtain ⟨-, ⟨change, -, -, received, inflight⟩ | ⟨-, query, received, inflight⟩ |
      ⟨flight, answer, lands, -⟩ | ⟨flight, lands, -⟩⟩ := Feed.step_cases fed
    · rw [received]
      exact inflight
    · rw [query, received]
      exact inflight
    all_goals
      have landed := congrArg Feed.Event.landed? lands
      rw [Event.landed?_toFeed, fetches_landed? fetches drives.calls] at landed
      cases landed

/-- A success adds its answer to the list of the kind of its request. -/
theorem succeed_goesTo (run : Reaches step init log p)
    (stepped : step p (.succeed flight answer) = some q) :
    GoesTo flight.request.isTV answer p.controller.data q.controller.data := by
  have controlled := (drives_of_drive rfl rfl stepped).controlled
  obtain ⟨movies, tvShows, page, hasMovies, hasTVShows, -⟩ := (agrees run).fields
  have fits : flight.request.fits answer = true := by
    simp only [MainPageDataController.step, enabled, Option.ite_none_right_eq_some,
      Bool.and_eq_true] at controlled
    exact controlled.1.2
  refine ⟨movies, tvShows, hasMovies, hasTVShows, ?_⟩
  rw [step_data controlled]
  unfold Request.fits at fits
  cases tv : flight.request.isTV <;>
    simp_all [turn, resume, append, MainPageData.copyWith]

/-- The page and its controller agree in every state that the page reaches. Every
callback that fetches puts one request in flight, and the success of a request
adds its answer to the list that the page shows for a query of its kind. -/
theorem page_agrees (run : Reaches step init log p) :
    Agrees p ∧
    (∀ e q, e.fetches = true → step p e = some q →
      ∃ request, serviceCall q.controller.data = .ok (some request) ∧
        q.controller.inflight = p.controller.inflight ++ [⟨p.controller.clock + 1, request⟩]) ∧
    ∀ flight answer q, step p (.succeed flight answer) = some q →
      GoesTo flight.request.isTV answer p.controller.data q.controller.data :=
  ⟨agrees run, fun _ _ fetches stepped => fetches_once run fetches stepped,
    fun _ _ _ stepped => succeed_goesTo run stepped⟩

/-- A text is given up for a TV category, and another one is searched for in it. -/
def searchedTV : List Event :=
  [.onSearchChanged "a", .onCategoryChanged (some .tvPopular), .onSearchChanged "b"]

theorem page_agrees_searchedTV :
    ∃ p q, Reaches step init searchedTV p ∧ Agrees p ∧ p.searchField = "b" ∧
      step p (.succeed ⟨3, .searchTVShows "b" 1⟩ { tvShows := [{ id := some 1 }] }) = some q ∧
      GoesTo true { tvShows := [{ id := some 1 }] } p.controller.data q.controller.data := by
  obtain ⟨p, q, run, stepped⟩ : ∃ p q, Reaches step init searchedTV p ∧
      step p (.succeed ⟨3, .searchTVShows "b" 1⟩ { tvShows := [{ id := some 1 }] }) = some q :=
    ⟨_, _, .of_run rfl, rfl⟩
  obtain ⟨agreed, -, completes⟩ := page_agrees run
  exact ⟨p, q, run, agreed, field_of_reaches run, stepped, completes _ _ q stepped⟩

end MainPage
end BigMovies
