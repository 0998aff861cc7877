import BigMovies.Controllers.Delivery
import BigMovies.Services.Failures

/-! The two machines of the controller describe the same runs. In one of them
a request succeeds with any answer of its type or fails with anything, in the
other it ends with a response or an exception of the network; the first takes
exactly the runs of the second once its answers and failures are restricted to
those that the service calls can return and throw. -/
namespace BigMovies
open Dart Transition

namespace MainPageDataController

/-- Some result of the HTTP request makes the service call end so. -/
def Servable : Event → Prop
  | .succeed flight answer => flight.request.Delivers answer
  | .fail flight thrown => ∃ cause, thrown = .wrapped flight.request.endpoint.message cause ∧
      flight.request.MayThrow cause
  | _ => True

theorem ServerEvent.toEvent_respond_ok (received : flight.request.receive result = .ok answer) :
    (ServerEvent.respond flight result).toEvent = .succeed flight answer := by
  simp only [ServerEvent.toEvent, received]

theorem ServerEvent.toEvent_respond_error (failed : flight.request.receive result = .error thrown) :
    (ServerEvent.respond flight result).toEvent = .fail flight thrown := by
  simp only [ServerEvent.toEvent, failed]

theorem servable_toEvent (e : ServerEvent) : Servable e.toEvent := by
  cases e with
  | respond flight result =>
    cases received : flight.request.receive result with
    | ok answer =>
      rw [ServerEvent.toEvent_respond_ok received]
      exact (flight.request.delivers_iff answer).mp ⟨result, received⟩
    | error thrown =>
      rw [ServerEvent.toEvent_respond_error received]
      exact (flight.request.mayThrow_iff thrown).mp ⟨result, received⟩
  | updateSearchText | updateSearchCategory | fetchMoviesOrTVShows => trivial

theorem exists_toEvent (servable : Servable e) : ∃ served : ServerEvent, served.toEvent = e := by
  cases e with
  | updateSearchText searchText => exact ⟨.updateSearchText searchText, rfl⟩
  | updateSearchCategory category => exact ⟨.updateSearchCategory category, rfl⟩
  | fetchMoviesOrTVShows => exact ⟨.fetchMoviesOrTVShows, rfl⟩
  | succeed flight answer =>
    obtain ⟨result, received⟩ := (flight.request.delivers_iff answer).mpr servable
    exact ⟨.respond flight result, ServerEvent.toEvent_respond_ok received⟩
  | fail flight thrown =>
    obtain ⟨result, failed⟩ := (flight.request.mayThrow_iff thrown).mpr servable
    exact ⟨.respond flight result, ServerEvent.toEvent_respond_error failed⟩

theorem exists_served {log : List Event} (servable : ∀ e ∈ log, Servable e) :
    ∃ served : List ServerEvent, served.map ServerEvent.toEvent = log := by
  induction log with
  | nil => exact ⟨[], rfl⟩
  | cons e log ih =>
    obtain ⟨first, same⟩ := exists_toEvent (servable e List.mem_cons_self)
    obtain ⟨rest, later⟩ := ih fun e member => servable e (List.mem_cons_of_mem _ member)
    exact ⟨first :: rest, by rw [List.map_cons, same, later]⟩

/-- A run of the controller is one that some server causes exactly when each of
its answers and failures is one that the service call can return or throw. -/
theorem served_iff (log : List Event) (s : System) :
    (∃ served, served.map ServerEvent.toEvent = log ∧ Reaches serve init served s) ↔
      Reaches step init log s ∧ ∀ e ∈ log, Servable e := by
  constructor
  · rintro ⟨served, rfl, run⟩
    refine ⟨reaches_serve run, fun e member => ?_⟩
    obtain ⟨source, -, rfl⟩ := List.mem_map.mp member
    exact servable_toEvent source
  · rintro ⟨run, servable⟩
    obtain ⟨served, rfl⟩ := exists_served servable
    refine ⟨served, rfl, ?_⟩
    have simulates : ∀ s e, serve s e = (step s (ServerEvent.toEvent e)).map id := by simp [serve]
    exact (reaches_map id ServerEvent.toEvent simulates).mpr ⟨s, run, rfl⟩

end MainPageDataController
end BigMovies
