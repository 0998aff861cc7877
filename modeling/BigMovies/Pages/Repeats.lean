import BigMovies.Pages.Pagination

/-! Loading more, one fetch at a time. The paged queries take the pages in order
whichever fetches fail, so pages without common items never repeat one. The
latest movie has no page, and every further fetch lists it once more. -/
namespace BigMovies
open Dart Transition MainPageDataController

namespace MainPage

/-- As `ServedBy`, and the latest movie does not change either. -/
def ServedWith (answer : Int → Answer) (latest : Movie) (e : MainPageDataController.Event) : Prop :=
  ServedBy answer e ∧ ∀ flight given, e = .succeed flight given →
    flight.request = .getLatestMovie → given = { movies := [latest] }

/-- A fetch starts only when the one before it has finished. -/
def OneAtATime (s : System) (e : MainPageDataController.Event) : Prop :=
  e = .fetchMoviesOrTVShows → s.inflight = []

theorem oneAtATime_succeed : OneAtATime s (.succeed flight given) := by
  intro fetches
  cases fetches

/-- The ids that an answer brings to the list shown. -/
def Answer.ids (tv : Bool) (answer : Answer) : List Int := (answer.items tv).filterMap Item.id

/-- No page of the server repeats an id, and no two pages share one. -/
def DistinctPages (answer : Int → Answer) (tv : Bool) : Prop :=
  (∀ page, 1 ≤ page → (Answer.ids tv (answer page)).Nodup) ∧
    ∀ first second, 1 ≤ first → 1 ≤ second → first ≠ second →
      (Answer.ids tv (answer first)).Disjoint (Answer.ids tv (answer second))

/-- The list shown holds no id more than once. -/
def NoRepeats (data : MainPageData) : Prop :=
  ∀ shown, items data = some shown → (shown.filterMap Item.id).Nodup

theorem noRepeats_present (query : Query) (received : List Answer) :
    NoRepeats (present query received) ↔
      (received.flatMap (Answer.ids query.category.isTV)).Nodup := by
  have ids : (received.flatMap (Answer.items query.category.isTV)).filterMap Item.id =
      received.flatMap (Answer.ids query.category.isTV) := List.filterMap_flatMap ..
  simp [NoRepeats, items_present, ids]

theorem paged_or_latest (query : Query) : query.Paged ∨ query = ⟨.latest, ""⟩ := by
  obtain ⟨category, text⟩ := query
  by_cases paged : Query.Paged ⟨category, text⟩
  · exact .inl paged
  · simp only [Query.Paged, not_or, not_not] at paged
    exact .inr (by rw [paged.1, paged.2])

theorem request_latest_iff (query : Query) (n : Nat) :
    query.request n = .getLatestMovie ↔ query = ⟨.latest, ""⟩ := by
  constructor
  · intro asks
    rcases paged_or_latest query with paged | unpaged
    · have page := request_page paged n
      rw [asks] at page
      cases page
    · exact unpaged
  · rintro rfl
    rfl

theorem ServedWith.served (query : Query) (served : ServedWith answer latest e) :
    Feed.Served protocol (reply answer { movies := [latest] }) query e.toFeed := by
  rcases paged_or_latest query with paged | rfl
  · exact served.1.served paged _
  · refine ⟨by simpa using served.1.1, ?_⟩
    rintro flight given succeeds ⟨n, request⟩
    have asks : flight.request = .getLatestMovie := request
    rw [asks]
    exact served.2 flight given (Event.toFeed_eq_succeed.mp succeeds) asks

/-- Copies of one answer share its ids with it, unless there are none of either. -/
theorem replicate_disjoint (f : Answer → List Int) (answer : Answer) (n : Nat) :
    ((List.replicate n answer).flatMap f).Disjoint (f answer) ↔ n = 0 ∨ f answer = [] := by
  constructor
  · intro apart
    by_cases none : n = 0
    · exact .inl none
    · refine .inr (List.eq_nil_iff_forall_not_mem.mpr fun id member => apart ?_ member)
      exact List.mem_flatMap.mpr ⟨answer, List.mem_replicate.mpr ⟨none, rfl⟩, member⟩
  · rintro (rfl | none)
    · simp
    · simp [none]

theorem latest_pages (answer : Int → Answer) (latest : Movie) (n : Nat) :
    Feed.pages protocol (reply answer { movies := [latest] }) ⟨.latest, ""⟩ n =
      List.replicate n { movies := [latest] } := by
  change (List.range n).map (fun _ => ({ movies := [latest] } : Answer)) = _
  rw [List.map_const', List.length_range]

theorem latest_ids (latest : Movie) :
    Answer.ids false { movies := [latest] } = latest.id.toList := by
  cases known : latest.id <;> simp [Answer.ids, Answer.items, Item.id, known]

theorem reply_nodup {query : Query} (distinct : DistinctPages answer query.category.isTV)
    (latest : Movie) (n : Nat) :
    (Answer.ids query.category.isTV
      (reply answer { movies := [latest] } (protocol.dispatch query n))).Nodup := by
  rcases paged_or_latest query with paged | rfl
  · have due : reply answer { movies := [latest] } (protocol.dispatch query n) = answer (1 + n) :=
      reply_paged paged answer _ n
    rw [due]
    exact distinct.1 (1 + n) (by omega)
  · change (Answer.ids false { movies := [latest] }).Nodup
    rw [latest_ids]
    cases latest.id <;> simp

/-- What one answer shares with the list at its arrival. -/
theorem disjoint_iff (distinct : DistinctPages answer query.category.isTV) (latest : Movie)
    (n : Nat) :
    ((Feed.pages protocol (reply answer { movies := [latest] }) query n).flatMap
        (Answer.ids query.category.isTV)).Disjoint
      (Answer.ids query.category.isTV (reply answer { movies := [latest] } (query.request n))) ↔
    (query.request n = .getLatestMovie → latest.id.isSome = true → n = 0) := by
  rcases paged_or_latest query with paged | rfl
  · have asks : query.request n ≠ .getLatestMovie := by
      intro same
      obtain rfl := (request_latest_iff query n).mp same
      exact absurd paged (by decide)
    refine iff_of_true ?_ fun same => absurd same asks
    rw [reply_paged paged, Feed.pages, List.flatMap_map]
    intro id earlier later
    obtain ⟨i, below, member⟩ := List.mem_flatMap.mp earlier
    have shown : id ∈ Answer.ids query.category.isTV (answer (1 + i)) := by
      rw [← reply_paged paged answer { movies := [latest] } i]
      exact member
    have different := List.mem_range.mp below
    exact distinct.2 (1 + i) (1 + n) (by omega) (by omega) (by omega) shown later
  · have asks : Query.request ⟨.latest, ""⟩ n = .getLatestMovie := rfl
    rw [asks, latest_pages]
    change List.Disjoint ((List.replicate n _).flatMap (Answer.ids false))
      (Answer.ids false { movies := [latest] }) ↔ _
    rw [replicate_disjoint, latest_ids]
    cases latest.id <;> simp

/-- The same of the answers that the list holds at the arrival. -/
theorem first_latest_iff (distinct : DistinctPages answer query.category.isTV) (latest : Movie)
    {received : List Answer} (inOrder : received =
      Feed.pages protocol (reply answer { movies := [latest] }) query received.length) :
    (query.request received.length = .getLatestMovie → latest.id.isSome = true →
      received.flatMap Answer.movies = []) ↔
    (received.flatMap (Answer.ids query.category.isTV)).Disjoint
      (Answer.ids query.category.isTV
        (reply answer { movies := [latest] } (query.request received.length))) := by
  have apart := disjoint_iff distinct latest received.length
  rw [← inOrder] at apart
  rw [apart]
  refine imp_congr_right fun asks => imp_congr_right fun _ => ?_
  have unpaged := (request_latest_iff _ _).mp asks
  rw [unpaged, latest_pages] at inOrder
  constructor
  · intro none
    by_contra some_received
    rw [inOrder, List.flatMap_eq_nil_iff] at none
    exact absurd (none _ (List.mem_replicate.mpr ⟨some_received, rfl⟩)) (by simp)
  · intro none
    simp [List.length_eq_zero_iff.mp none]

/-- Fetches made one at a time list no id twice, throughout a run, exactly when
no latest movie with an id arrives at a list that is not empty. -/
theorem no_repeats_iff (answer : Int → Answer) (latest : Movie) (begins : Begins origin)
    (distinct : DistinctPages answer origin.data.isTVCategory)
    (run : Reaches MainPageDataController.step origin log s)
    (served : Along MainPageDataController.step origin log
      fun _ s e => ServedWith answer latest e ∧ OneAtATime s e) :
    Throughout MainPageDataController.step origin log (fun _ s => NoRepeats s.data) ↔
      Along MainPageDataController.step origin log (fun _ s e =>
        ∀ flight given, e = .succeed flight given → flight.request = .getLatestMovie →
          latest.id.isSome = true → s.data.movies = some []) := by
  obtain ⟨t, rfl, fresh⟩ := begins_fresh begins
  obtain ⟨u, path, rfl⟩ := (reaches_map render Event.toFeed step_render).mp run
  have distinct : DistinctPages answer t.query.category.isTV := by
    simpa only [render, isTVCategory_present] using distinct
  have sequential : Along (Feed.step protocol) t (log.map Event.toFeed) fun _ v e =>
      Feed.Served protocol (reply answer { movies := [latest] }) t.query e ∧
        Feed.OneAtATime v e :=
    served.image step_render fun _ v e _ _ kept =>
      ⟨kept.1.served t.query, fun fetches => kept.2 (Event.toFeed_eq_fetch.mp fetches)⟩
  have alone := sequential.mono fun _ kept => kept.1
  have nodup := Feed.nodup_iff (Answer.ids t.query.category.isTV) fresh path alone
    (reply_nodup distinct latest)
  rw [throughout_map step_render, along_map step_render]
  · exact nodup
  · intro pre v e shorter visited
    have before := sequential.of_prefix
      (((List.prefix_append _ _).trans shorter).map Event.toFeed)
    have query := (Feed.served_query fresh visited (before.mono fun _ kept => kept.1)).1
    obtain ⟨w, stepped⟩ := path.step_of_prefix_map shorter visited
    have received := Feed.sequential_received fresh visited before
    rw [← query] at distinct
    simp only [Event.toFeed_eq_succeed]
    refine forall₂_congr fun flight given => imp_congr_right fun succeeds => ?_
    subst succeeds
    have due : flight.request = v.query.request v.received.length :=
      Feed.sequential_due fresh visited before (Feed.airborne stepped rfl)
    rw [due, ← query, ← first_latest_iff distinct latest received]
    simp only [render, present, Option.some.injEq]
  · intro pre v shorter visited
    have query := (Feed.served_query fresh visited
      (alone.of_prefix (shorter.map Event.toFeed))).1
    rw [← query]
    exact noRepeats_present v.query v.received

theorem numbered_distinct : DistinctPages numbered false := by
  constructor
  · intro page _
    exact List.nodup_singleton page
  · intro first second _ _ different
    exact List.disjoint_singleton.mpr (List.mem_singleton.not.mpr (Ne.symm different))

/-- The second page is asked for again after a failure. -/
def oneByOne : List MainPageDataController.Event :=
  [.succeed ⟨0, .getPopularMovies 1⟩ (numbered 1), .fetchMoviesOrTVShows,
    .fail ⟨2, .getPopularMovies 2⟩ .typeError, .fetchMoviesOrTVShows,
    .succeed ⟨4, .getPopularMovies 2⟩ (numbered 2)]

/-- The page after the choice of Latest Movies, with nothing else in flight. -/
def latestChosen : System := ⟨present ⟨.latest, ""⟩ [], [⟨2, .getLatestMovie⟩], 2⟩

theorem latestChosen_begins : Begins latestChosen :=
  .inr ⟨[.succeed ⟨0, .getPopularMovies 1⟩ {}], _, .updateSearchCategory .latest, .of_run rfl, rfl,
    rfl, rfl⟩

/-- The latest movie arrives, and loading it once more fails. -/
def reloadFails (latest : Movie) : List MainPageDataController.Event :=
  [.succeed ⟨2, .getLatestMovie⟩ { movies := [latest] }, .fetchMoviesOrTVShows,
    .fail ⟨4, .getLatestMovie⟩ .typeError]

theorem no_repeats_oneByOne :
    Throughout MainPageDataController.step MainPageDataController.init oneByOne
        (fun _ s => NoRepeats s.data) ∧
      Throughout MainPageDataController.step latestChosen (reloadFails { id := some 1 })
        (fun _ s => NoRepeats s.data) := by
  constructor
  · refine (no_repeats_iff numbered { id := some 1 } (.inl rfl) numbered_distinct (.of_run rfl)
      ?_).mpr ?_
    · exact .cons rfl ⟨by simp [ServedWith, Request.page?], oneAtATime_succeed⟩ <|
        .cons rfl ⟨by simp [ServedWith], fun _ => rfl⟩ <|
        .cons rfl ⟨by simp [ServedWith], by simp [OneAtATime]⟩ <|
        .cons rfl ⟨by simp [ServedWith], fun _ => rfl⟩ <|
        .cons rfl ⟨by simp [ServedWith, Request.page?], oneAtATime_succeed⟩ <| along_nil _
    · refine .cons rfl ?_ <| .cons rfl ?_ <| .cons rfl ?_ <| .cons rfl ?_ <| .cons rfl ?_ <|
        along_nil _
      -- No request of these asks for the latest movie.
      all_goals
        rintro flight given succeeds asks -
        cases succeeds
      all_goals cases asks
  · refine (no_repeats_iff numbered { id := some 1 } latestChosen_begins numbered_distinct
      (.of_run rfl) ?_).mpr ?_
    · exact .cons rfl ⟨by simp [ServedWith, Request.page?], oneAtATime_succeed⟩ <|
        .cons rfl ⟨by simp [ServedWith], fun _ => rfl⟩ <|
        .cons rfl ⟨by simp [ServedWith], by simp [OneAtATime]⟩ <| along_nil _
    · refine .cons rfl ?_ <| .cons rfl ?_ <| .cons rfl ?_ <| along_nil _
      · intro flight given _ _ _
        rfl
      · intro flight given succeeds
        cases succeeds
      · intro flight given succeeds
        cases succeeds

/-- The latest movie arrives, the end of the list is reached, and it arrives again. -/
def reloaded (latest : Movie) : List MainPageDataController.Event :=
  [.succeed ⟨2, .getLatestMovie⟩ { movies := [latest] }, .fetchMoviesOrTVShows,
    .succeed ⟨4, .getLatestMovie⟩ { movies := [latest] }]

theorem latest_listed_twice :
    ∃ s, Begins latestChosen ∧ DistinctPages numbered latestChosen.data.isTVCategory ∧
      Reaches MainPageDataController.step latestChosen (reloaded { id := some 1 }) s ∧
      Along MainPageDataController.step latestChosen (reloaded { id := some 1 })
        (fun _ s e => ServedWith numbered { id := some 1 } e ∧ OneAtATime s e) ∧
      ¬ NoRepeats s.data := by
  refine ⟨_, latestChosen_begins, numbered_distinct, .of_run rfl, ?_, ?_⟩
  · exact .cons rfl ⟨by simp [ServedWith, Request.page?], oneAtATime_succeed⟩ <|
      .cons rfl ⟨by simp [ServedWith], fun _ => rfl⟩ <|
      .cons rfl ⟨by simp [ServedWith, Request.page?], oneAtATime_succeed⟩ <| along_nil _
  · intro distinct
    exact absurd (distinct _ rfl) (by decide)

end MainPage
end BigMovies
