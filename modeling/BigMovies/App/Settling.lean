import Mathlib.Data.List.ReduceOption
import BigMovies.App.Runs
import BigMovies.Controllers.Delivery
import BigMovies.Services.Failures

/-! The app never gets stuck. Whatever is open over the main page, the requests
in flight can be answered in any order and with anything, and the way back leads
to the main page, in any interleaving of the two. What the page then shows is
what it showed before and the items of the bodies that could be decoded. -/
namespace BigMovies
open Dart Transition

/-- What a request that ends so brings: the items that the elements of its body
decode to, or nothing. -/
inductive Request.Outcome (request : Request) : DioResult → Option Answer → Prop where
  | taken (passes : request.Passes response.statusCode)
      (listed : request.elements? response.data = some elements)
      (decodes : request.Decodes elements answer) :
      Outcome request (.response response) (some answer)
  | refused (untaken : ¬ request.Takes result) : Outcome request result none

namespace MainPageDataController

/-- The state with the items of some answers added, and one page for each of them. -/
structure Grown (before : MainPageData) (answers : List Answer) (after : MainPageData) : Prop where
  movies : ∃ movies, before.movies = some movies ∧
    after.movies = some (movies ++ answers.flatMap Answer.movies)
  tvShows : ∃ tvShows, before.tvShows = some tvShows ∧
    after.tvShows = some (tvShows ++ answers.flatMap Answer.tvShows)
  page : ∃ page, before.page = some page ∧ after.page = some (page + answers.length)
  searchCategory : after.searchCategory = before.searchCategory
  searchText : after.searchText = before.searchText

namespace Grown

theorem complete (grown : Grown before answers after) : Grown after [] after := by
  obtain ⟨_, -, movies⟩ := grown.movies
  obtain ⟨_, -, tvShows⟩ := grown.tvShows
  obtain ⟨_, -, page⟩ := grown.page
  exact ⟨⟨_, movies, by simpa using movies⟩, ⟨_, tvShows, by simpa using tvShows⟩,
    ⟨_, page, by simpa using page⟩, rfl, rfl⟩

theorem trans (first : Grown before answers between) (second : Grown between others after) :
    Grown before (answers ++ others) after := by
  constructor
  · obtain ⟨movies, before, between⟩ := first.movies
    obtain ⟨_, same, after⟩ := second.movies
    cases same.symm.trans between
    exact ⟨movies, before, by rw [after, List.flatMap_append, List.append_assoc]⟩
  · obtain ⟨tvShows, before, between⟩ := first.tvShows
    obtain ⟨_, same, after⟩ := second.tvShows
    cases same.symm.trans between
    exact ⟨tvShows, before, by rw [after, List.flatMap_append, List.append_assoc]⟩
  · obtain ⟨page, before, between⟩ := first.page
    obtain ⟨_, same, after⟩ := second.page
    cases same.symm.trans between
    exact ⟨page, before, by rw [after, List.length_append, Int.natCast_add, Int.add_assoc]⟩
  · exact second.searchCategory.trans first.searchCategory
  · exact second.searchText.trans first.searchText

end Grown

theorem append_grown (complete : Grown state [] state) (answer : Answer) :
    Grown state [answer] (append state answer) := by
  obtain ⟨movies, listed, -⟩ := complete.movies
  obtain ⟨tvShows, shown, -⟩ := complete.tvShows
  obtain ⟨page, counted, -⟩ := complete.page
  refine ⟨⟨movies, listed, ?_⟩, ⟨tvShows, shown, ?_⟩, ⟨page, counted, ?_⟩, rfl, rfl⟩
  · simp [append, MainPageData.copyWith, listed]
  · simp [append, MainPageData.copyWith, shown]
  · simp [append, MainPageData.copyWith, counted]

/-- The completion of a fetch adds what its body decodes to. -/
theorem deliver_grown (complete : Grown state [] state) (request : Request) (result : DioResult) :
    ∃ outcome, request.Outcome result outcome ∧
      Grown state outcome.toList (deliver state request result) := by
  cases received : request.receive result with
  | error cause =>
    refine ⟨none, .refused ?_, ?_⟩
    · rw [request.takes_iff]
      rintro ⟨answer, returned⟩
      rw [received] at returned
      cases returned
    · simpa [deliver, received, resume] using complete
  | ok answer =>
    have added : deliver state request result = append state answer := by
      simp [deliver, received, resume]
    cases result with
    | dioException message => exact absurd received (request.receive_dioException message answer)
    | response response =>
      obtain ⟨passes, elements, listed, decodes⟩ := Request.receive_ok.mp received
      rw [added]
      exact ⟨some answer, .taken passes listed decodes, append_grown complete answer⟩

end MainPageDataController

/-- What the controller takes, the page hands to it. -/
theorem MainPage.step_of_controller {e : MainPage.Event} (calls : e.toController? = some call)
    (controlled : MainPageDataController.step p.controller call = some controller) :
    ∃ q, MainPage.step p e = some q ∧ q.controller = controller := by
  cases e with
  | onTap index item => cases calls
  | onSearchChanged | onCategoryChanged | onScrollEnd | succeed | fail =>
    simp [MainPage.step, MainPage.drive, calls, controlled]

namespace App
open MainPageDataController (Grown deliver deliver_grown serve_respond ServerEvent)

/-- The end of an HTTP request, or the way back. -/
inductive Unwinding where
  | respond (flight : Flight) (result : DioResult)
  | back

namespace Unwinding

/-- The completion of the service call as the main page sees it. -/
def completion (flight : Flight) (result : DioResult) : MainPage.Event :=
  match flight.request.receive result with
  | .ok answer => .succeed flight answer
  | .error cause => .fail flight cause

def toEvent : Unwinding → Event
  | .respond flight result => .main (completion flight result)
  | .back => .pop

def response? : Unwinding → Option (Flight × DioResult)
  | .respond flight result => some (flight, result)
  | .back => none

def isBack : Unwinding → Bool
  | .respond _ _ => false
  | .back => true

theorem completion_cases (flight : Flight) (result : DioResult) :
    (completion flight result).isAnswer = true ∧ (completion flight result).pushed = [] ∧
      (completion flight result).toController? = some (ServerEvent.respond flight result).toEvent := by
  cases received : flight.request.receive result <;>
    simp [completion, received, ServerEvent.toEvent, MainPage.Event.isAnswer,
      MainPage.Event.pushed, MainPage.Event.tapped?, MainPage.Event.toController?]

end Unwinding

namespace Home

/-- The controller takes the result of a request in flight whatever is open. -/
theorem step_respond (home : Home) (airborne : flight ∈ home.page.controller.inflight)
    (result : DioResult) :
    ∃ next, home.step (Unwinding.respond flight result).toEvent = some next ∧
      next.routes = home.routes ∧ next.page.controller =
        ⟨deliver home.page.controller.data flight.request result,
          home.page.controller.inflight.erase flight, home.page.controller.clock + 1⟩ := by
  obtain ⟨answers, pushed, calls⟩ := Unwinding.completion_cases flight result
  obtain ⟨shown, stepped, controller⟩ := MainPage.step_of_controller calls
    (serve_respond home.page.controller airborne result)
  refine ⟨⟨shown, home.routes⟩, ?_, rfl, controller⟩
  simp [step, mainTakes, Unwinding.toEvent, answers, pushed, stepped]

theorem complete_of_reaches (run : Reaches step start log home) :
    Grown home.page.controller.data [] home.page.controller.data := by
  obtain ⟨movies, tvShows, page, listed, shown, counted, -⟩ := (MainPage.agrees (page_run run)).fields
  exact ⟨⟨movies, listed, by simpa using listed⟩, ⟨tvShows, shown, by simpa using shown⟩,
    ⟨page, counted, by simpa using counted⟩, rfl, rfl⟩

/-- The induction is on the steps; only a response lets the state grow. -/
theorem settles_of_complete (home : Home)
    (complete : Grown home.page.controller.data [] home.page.controller.data)
    (steps : List Unwinding)
    (order : ((steps.filterMap Unwinding.response?).map Prod.fst).Perm
      home.page.controller.inflight)
    (back : steps.countP Unwinding.isBack = home.routes.length) :
    ∃ settled outcomes, Reaches step home (steps.map Unwinding.toEvent) settled ∧
      settled.routes = [] ∧ settled.page.controller.inflight = [] ∧
      List.Forall₂ (fun response outcome => response.1.request.Outcome response.2 outcome)
        (steps.filterMap Unwinding.response?) outcomes ∧
      Grown home.page.controller.data outcomes.reduceOption settled.page.controller.data := by
  induction steps generalizing home with
  | nil =>
    have idle : home.page.controller.inflight = [] := by simpa using order
    have uncovered : home.routes = [] := by simpa using back.symm
    exact ⟨home, [], .refl, uncovered, idle, .nil, complete⟩
  | cons first steps ih =>
    cases first with
    | back =>
      obtain ⟨shown, routes⟩ := home
      rw [List.countP_cons_of_pos rfl] at back
      cases routes with
      | nil => cases back
      | cons top below =>
        obtain ⟨settled, outcomes, later, rest⟩ := ih ⟨shown, below⟩ complete order (Nat.succ.inj back)
        exact ⟨settled, outcomes, Reaches.cons_iff.mpr ⟨_, rfl, later⟩, rest⟩
    | respond flight result =>
      rw [List.countP_cons_of_neg Bool.false_ne_true] at back
      have order : (flight :: (steps.filterMap Unwinding.response?).map Prod.fst).Perm
        home.page.controller.inflight := order
      obtain ⟨airborne, remaining⟩ := List.cons_perm_iff_perm_erase.mp order
      obtain ⟨next, stepped, routes, controller⟩ := home.step_respond airborne result
      obtain ⟨outcome, ends, grown⟩ := deliver_grown complete flight.request result
      have taken : Grown home.page.controller.data outcome.toList next.page.controller.data := by
        rw [controller]
        exact grown
      obtain ⟨settled, outcomes, later, closed, idle, decoded, after⟩ := ih next taken.complete
        (by rw [controller]; exact remaining) (by rw [routes]; exact back)
      refine ⟨settled, outcome :: outcomes, Reaches.cons_iff.mpr ⟨next, stepped, later⟩, closed,
        idle, .cons ends decoded, ?_⟩
      have all : (outcome :: outcomes).reduceOption = outcome.toList ++ outcomes.reduceOption := by
        cases outcome <;> simp
      rw [all]
      exact taken.trans after

/-- Whatever is open at any moment, let the requests in flight end in any order
and with anything, and let the user go back as often as something is open, in any
interleaving. Then the main page is on top and nothing is in flight. The lists have
grown by the items that the bodies decode to, in the order in which they came, the
page by the number of these bodies, and the query is the same. -/
theorem settles (run : Reaches step start log home) (steps : List Unwinding)
    (order : ((steps.filterMap Unwinding.response?).map Prod.fst).Perm
      home.page.controller.inflight)
    (back : steps.countP Unwinding.isBack = home.routes.length) :
    ∃ settled outcomes, Reaches step home (steps.map Unwinding.toEvent) settled ∧
      settled.routes = [] ∧ settled.page.controller.inflight = [] ∧
      List.Forall₂ (fun response outcome => response.1.request.Outcome response.2 outcome)
        (steps.filterMap Unwinding.response?) outcomes ∧
      Grown home.page.controller.data outcomes.reduceOption settled.page.controller.data :=
  home.settles_of_complete (complete_of_reaches run) steps order back

/-- A details page over a list of which two more pages are on their way. -/
def openedMovie : List Event :=
  [.main (.succeed ⟨0, .getPopularMovies 1⟩ { movies := [{}] }), .main .onScrollEnd,
    .main .onScrollEnd, .main (.onTap 0 (.movie {}))]

/-- The later request is answered, the earlier one fails. -/
def answeredOnce : List Unwinding :=
  [.respond ⟨3, .getPopularMovies 2⟩ (.response ⟨some 200, .map [("results", .list [.map []])]⟩),
    .back, .respond ⟨2, .getPopularMovies 2⟩ (.dioException none)]

theorem settles_openedMovie :
    ∃ home settled, Reaches step start openedMovie home ∧
      home.page.controller.data.page = some 2 ∧
      Reaches step home (answeredOnce.map Unwinding.toEvent) settled ∧
      settled.routes = [] ∧ settled.page.controller.inflight = [] ∧
      settled.page.controller.data.page = some 3 := by
  obtain ⟨home, executed, routes, inflight, page⟩ : ∃ home,
      run step start openedMovie = some home ∧ home.routes.length = 1 ∧
      home.page.controller.inflight = [⟨2, .getPopularMovies 2⟩, ⟨3, .getPopularMovies 2⟩] ∧
      home.page.controller.data.page = some 2 := ⟨_, rfl, rfl, by decide, rfl⟩
  have visited : Reaches step start openedMovie home := .of_run executed
  obtain ⟨settled, outcomes, later, closed, idle, ends, grown⟩ := settles visited answeredOnce
    (by rw [inflight]; exact .swap _ _ _) routes.symm
  refine ⟨home, settled, visited, page, later, closed, idle, ?_⟩
  obtain ⟨_, _, answered, rest, rfl⟩ := List.forall₂_cons_left_iff.mp ends
  obtain ⟨_, _, failed, none, rfl⟩ := List.forall₂_cons_left_iff.mp rest
  cases none
  cases failed
  cases answered with
  | refused untaken => exact absurd ((Request.takes_iff _ _).mpr ⟨_, rfl⟩) untaken
  | taken =>
    obtain ⟨_, before, after⟩ := grown.page
    cases before.symm.trans page
    exact after

end Home
end App
end BigMovies
