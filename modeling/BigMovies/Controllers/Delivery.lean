import BigMovies.Services.Bodies
import BigMovies.Controllers.History

/-! A response body reaches the state of the controller as a whole page or not
at all. The server may answer a request with any body, or not at all; seen from
the controller, each such answer is a success or a failure of the request. -/
namespace BigMovies
open Dart Transition

namespace MainPageDataController

/-- The state after the completion of a fetch whose request ended so. -/
def deliver (state : MainPageData) (request : Request) (result : DioResult) : MainPageData :=
  (resume state (request.receive result)).data

/-- The completion of a fetch adds one decoded item for each element of the body
to the list of its kind and moves the page on, or it changes nothing; and it
changes nothing exactly when the body has no results or an element is rejected. -/
theorem page_taken_whole (request : Request) (movies : List Movie) (tvShows : List TVShow)
    (page : Int) (searchCategory searchText : String) (body : Json) :
    let before : MainPageData :=
      ⟨some movies, some tvShows, some page, some searchCategory, some searchText⟩
    let after := deliver before request (.response ⟨some 200, body⟩)
    (after = before ∨ ∃ elements, request.elements? body = some elements ∧
      if request.isTV then
        ∃ added, List.Forall₂ (Decoded TVShow.fromJson) elements added ∧ after =
          ⟨some movies, some (tvShows ++ added), some (page + 1), some searchCategory,
            some searchText⟩
      else
        ∃ added, List.Forall₂ (Decoded Movie.fromJson) elements added ∧ after =
          ⟨some (movies ++ added), some tvShows, some (page + 1), some searchCategory,
            some searchText⟩) ∧
    (after = before ↔
      ¬ ∃ elements, request.elements? body = some elements ∧ request.AcceptsAll elements) := by
  intro before after
  have passes : request.Passes (some 200) := fun _ => rfl
  cases received : request.receive (.response ⟨some 200, body⟩) with
  | error cause =>
    have same : after = before := by simp only [after, deliver, received, resume]
    refine ⟨.inl same, iff_of_true same ?_⟩
    intro accepted
    obtain ⟨answer, returned⟩ := (request.receive_succeeds ⟨some 200, body⟩).mpr ⟨passes, accepted⟩
    rw [returned] at received
    cases received
  | ok answer =>
    obtain ⟨-, elements, listed, decodes⟩ := Request.receive_ok.mp received
    have appended : after = append before answer := by simp only [after, deliver, received, resume]
    have moved : after ≠ before := by
      intro same
      have pages := congrArg MainPageData.page (appended.symm.trans same)
      change some (page + 1) = some page at pages
      have next := Option.some.inj pages
      omega
    refine ⟨.inr ⟨elements, listed, ?_⟩, iff_of_false moved ?_⟩
    · unfold Request.Decodes at decodes
      rw [appended]
      by_cases tv : request.isTV = true
      · rw [if_pos tv] at decodes ⊢
        exact ⟨answer.tvShows, decodes.2, by simp [append, MainPageData.copyWith, before, decodes.1]⟩
      · rw [if_neg tv] at decodes ⊢
        exact ⟨answer.movies, decodes.2, by simp [append, MainPageData.copyWith, before, decodes.1]⟩
    · rw [not_not]
      exact ((request.receive_succeeds ⟨some 200, body⟩).mp ⟨answer, received⟩).2

/-- What can happen to a controller whose server is free in what it answers. -/
inductive ServerEvent where
  | updateSearchText (searchText : String)
  | updateSearchCategory (category : OfferedCategory)
  | fetchMoviesOrTVShows
  | respond (flight : Flight) (result : DioResult)

def ServerEvent.toEvent : ServerEvent → Event
  | .updateSearchText searchText => .updateSearchText searchText
  | .updateSearchCategory category => .updateSearchCategory category
  | .fetchMoviesOrTVShows => .fetchMoviesOrTVShows
  | .respond flight result =>
    match flight.request.receive result with
    | .ok answer => .succeed flight answer
    | .error cause => .fail flight cause

theorem ServerEvent.turn_respond (state : MainPageData) (flight : Flight) (result : DioResult) :
    (turn state (ServerEvent.respond flight result).toEvent).data =
      deliver state flight.request result := by
  cases received : flight.request.receive result with
  | ok answer => simp only [ServerEvent.toEvent, deliver, received, turn]
  | error cause => simp only [ServerEvent.toEvent, deliver, received, turn]

def serve (s : System) (e : ServerEvent) : Option System := step s e.toEvent

theorem reaches_serve (run : Reaches serve init log s) :
    Reaches step init (log.map ServerEvent.toEvent) s := by
  have simulates : ∀ s e, serve s e = (step s (ServerEvent.toEvent e)).map id := by simp [serve]
  obtain ⟨t, path, rfl⟩ := (reaches_map id ServerEvent.toEvent simulates).mp run
  exact path

/-- The server may answer every request in flight with anything. -/
theorem serve_respond (s : System) (airborne : flight ∈ s.inflight) (result : DioResult) :
    serve s (.respond flight result) =
      some ⟨deliver s.data flight.request result, s.inflight.erase flight, s.clock + 1⟩ := by
  cases received : flight.request.receive result with
  | ok answer =>
    have fits := Request.receive_fits received
    simp [serve, ServerEvent.toEvent, received, step, enabled, airborne, fits, turn, deliver,
      MainPageDataController.airborne, Event.landed?, resume]
  | error cause =>
    simp [serve, ServerEvent.toEvent, received, step, enabled, airborne, turn, deliver,
      MainPageDataController.airborne, Event.landed?, resume]

end MainPageDataController
end BigMovies
