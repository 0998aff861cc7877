import BigMovies.Pages.Pagination
import BigMovies.Feed.Loading

/-! The progress indicator. The page shows it whenever its list is empty, and
takes an empty list to mean that something is loading. A failure is swallowed
and an answer may be empty, so the indicator can outlast every request. -/
namespace BigMovies
open Dart Transition MainPageDataController

namespace MainPage

/-- The items that an answer adds to the list of a query. -/
def visible (query : Query) (answer : Answer) : List Item := answer.items query.category.isTV

theorem showsProgress_render (s : Feed.State Query Request Answer) :
    showsProgress (render s).data = true ↔ Feed.shown visible s = [] := by
  change showsProgress (present s.query s.received) = true ↔ _
  rw [showsProgress, items_present]
  change _ ↔ s.received.flatMap (Answer.items s.query.category.isTV) = []
  cases s.received.flatMap (Answer.items s.query.category.isTV) <;> simp

theorem issuedFor_render (s : Feed.State Query Request Answer) (flight : Flight) :
    IssuedFor (render s).data flight.request ↔ Feed.IssuedFor protocol s.query flight :=
  issuedFor_present s.query s.received flight.request

/-- What fits a request of the query is shown unless it is empty. -/
theorem visible_nonempty (issued : Feed.IssuedFor protocol query flight)
    (fits : flight.request.fits answer = true) :
    visible query answer ≠ [] ↔ answer.movies ≠ [] ∨ answer.tvShows ≠ [] := by
  obtain ⟨n, request⟩ := issued
  have kind : flight.request.isTV = query.category.isTV := by
    rw [request]
    exact query.isTV_requestAt _
  unfold Request.fits at fits
  rw [kind] at fits
  cases tv : query.category.isTV <;> simp_all [visible, Answer.items]

/-- The request was issued since the last change of the query, and for the
category and the text of the state. -/
def ForCurrentQuery (log : List MainPageDataController.Event) (data : MainPageData)
    (flight : Flight) : Prop :=
  ¬ Stale log flight ∧ IssuedFor data flight.request

/-- Some request issued for the current query is still in flight. -/
def Loading (log : List MainPageDataController.Event) (s : System) : Prop :=
  ∃ flight ∈ s.inflight, ForCurrentQuery log s.data flight

/-- The request is the last one in flight for the current query, and nothing is shown. -/
def LastHope (log : List MainPageDataController.Event) (s : System) (flight : Flight) : Prop :=
  showsProgress s.data = true ∧ ForCurrentQuery log s.data flight ∧
    ∀ other ∈ s.inflight.erase flight, ¬ ForCurrentQuery log s.data other

theorem forCurrentQuery_render (log : List MainPageDataController.Event)
    (s : Feed.State Query Request Answer) (flight : Flight) :
    ForCurrentQuery log (render s).data flight ↔
      Feed.Current protocol (log.map Event.toFeed) s flight := by
  rw [ForCurrentQuery, Feed.Current, issuedFor_render, Stale, lastReset_toFeed]

theorem loading_render (log : List MainPageDataController.Event)
    (s : Feed.State Query Request Answer) :
    Loading log (render s) ↔ Feed.Loading protocol (log.map Event.toFeed) s := by
  simp only [Loading, Feed.Loading, forCurrentQuery_render]
  rfl

theorem lastHope_render (log : List MainPageDataController.Event)
    (s : Feed.State Query Request Answer) (flight : Flight) :
    LastHope log (render s) flight ↔
      Feed.LandsLast protocol visible (log.map Event.toFeed) s flight := by
  simp only [LastHope, Feed.LandsLast, forCurrentQuery_render, showsProgress_render]
  rfl

/-- The indicator is shown only while a request for the current query is in
flight, throughout a run, exactly when the last such request never lands on an
empty list without bringing an item. -/
theorem progress_iff (run : Reaches MainPageDataController.step MainPageDataController.init log s) :
    Throughout MainPageDataController.step MainPageDataController.init log
        (fun pre s => showsProgress s.data = true → Loading pre s) ↔
      Along MainPageDataController.step MainPageDataController.init log (fun pre s e =>
        ∀ flight, e.landed? = some flight → LastHope pre s flight →
          ∃ answer, e = .succeed flight answer ∧ (answer.movies ≠ [] ∨ answer.tvShows ≠ [])) := by
  rw [init_eq] at run ⊢
  obtain ⟨t, path, rfl⟩ := (reaches_map render Event.toFeed step_render).mp run
  rw [throughout_map step_render, along_map step_render]
  · exact Feed.loading_iff visible path
  · intro pre v e shorter visited
    obtain ⟨w, stepped⟩ := path.step_of_prefix_map shorter visited
    simp only [Event.landed?_toFeed, lastHope_render, Event.toFeed_eq_succeed]
    refine forall_congr' fun flight => imp_congr_right fun lands => imp_congr_right fun last => ?_
    refine exists_congr fun answer => and_congr_right fun succeeds => ?_
    subst succeeds
    have fits : flight.request.fits answer = true := by
      obtain ⟨-, ⟨_, resets, -⟩ | ⟨fetches, -⟩ | ⟨_, _, same, -, fits, -⟩ | ⟨_, fails, -⟩⟩ :=
        Feed.step_cases stepped
      · cases resets
      · cases fetches
      · cases same
        exact fits
      · cases fails
    exact (visible_nonempty last.2.1.2 fits).symm
  · intro pre v shorter visited
    rw [showsProgress_render, loading_render]

/-- Two requests are overtaken while the user types; one brings nothing and one
fails, and the answer to the last text arrives after them. -/
def typedOn : List MainPageDataController.Event :=
  [.updateSearchText "a", .updateSearchText "ab", .succeed ⟨0, .getPopularMovies 1⟩ {},
    .fail ⟨1, .searchMovies "a" 1⟩ .typeError,
    .succeed ⟨2, .searchMovies "ab" 1⟩ { movies := [{ id := some 1 }] }]

theorem not_lastHope_of_stale (stale : Stale log flight) : ¬ LastHope log s flight := by
  rintro ⟨-, ⟨recent, -⟩, -⟩
  exact recent stale

theorem progress_typedOn :
    Throughout MainPageDataController.step MainPageDataController.init typedOn
      (fun pre s => showsProgress s.data = true → Loading pre s) := by
  apply (progress_iff (.of_run rfl)).mpr
  refine .cons rfl ?_ <| .cons rfl ?_ <| .cons rfl ?_ <| .cons rfl ?_ <| .cons rfl ?_ <| along_nil _
  · intro flight lands
    cases lands
  · intro flight lands
    cases lands
  · intro flight lands last
    cases lands
    exact absurd last (not_lastHope_of_stale (by unfold Stale; decide))
  · intro flight lands last
    cases lands
    exact absurd last (not_lastHope_of_stale (by unfold Stale; decide))
  · intro flight lands _
    cases lands
    exact ⟨_, rfl, .inl (List.cons_ne_nil _ _)⟩

/-- The first request fails for want of a network. -/
def firstFails : List MainPageDataController.Event :=
  [.fail ⟨0, .getPopularMovies 1⟩ (.wrapped "Error occurred while fetching popular movies: "
    (.exception "Failed to perform GET request: null"))]

/-- The indicator stays with nothing in flight. -/
theorem progress_without_request :
    ∃ s, Reaches MainPageDataController.step MainPageDataController.init firstFails s ∧
      showsProgress s.data = true ∧ ¬ Loading firstFails s := by
  refine ⟨_, .of_run rfl, by decide, ?_⟩
  rintro ⟨flight, airborne, -⟩
  cases airborne

end MainPage
end BigMovies
