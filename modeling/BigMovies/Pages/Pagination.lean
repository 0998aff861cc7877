import BigMovies.Pages.MainPage
import BigMovies.Controllers.History
import BigMovies.Feed.Pages

/-! Loading more within one query. The page of a request is read when it is
issued and the counter moves when one completes, so overlapping fetches ask for
the same page. -/
namespace BigMovies
open Dart Transition MainPageDataController

/-- The items of an answer that the page shows, for a TV category or another. -/
def Answer.items (tv : Bool) (answer : Answer) : List Item :=
  if tv then answer.tvShows.map .tvShow else answer.movies.map .movie

namespace MainPage

theorem items_present (query : Query) (received : List Answer) :
    items (present query received) = some (received.flatMap (Answer.items query.category.isTV)) := by
  have view := isTVCategory_present query received
  unfold items
  rw [view]
  cases tv : query.category.isTV with
  | true => simp [present, List.map_flatMap]; rfl
  | false => simp [present, List.map_flatMap]; rfl

/-- The state just after the construction of the controller, or just after a
reset made while no request was in flight. -/
def Begins (s : System) : Prop :=
  s = MainPageDataController.init ∨ ∃ log before e,
    Reaches MainPageDataController.step MainPageDataController.init log before ∧
      before.inflight = [] ∧ e.isReset = true ∧ MainPageDataController.step before e = some s

theorem begins_fresh (begins : Begins s) : ∃ t, s = render t ∧ Feed.Fresh protocol t := by
  rcases begins with rfl | ⟨log, before, e, run, idle, resets, stepped⟩
  · exact ⟨start, init_eq, Feed.fresh_start _ _⟩
  · obtain ⟨b, -, rfl⟩ := reaches_iff.mp run
    rw [step_render, Option.map_eq_some_iff] at stepped
    obtain ⟨t, reset, rfl⟩ := stepped
    cases e with
    | updateSearchText searchText => exact ⟨t, rfl, Feed.fresh_reset idle reset⟩
    | updateSearchCategory category => exact ⟨t, rfl, Feed.fresh_reset idle reset⟩
    | fetchMoviesOrTVShows | succeed | fail => cases resets

/-- The query is paged: it is a search, or its category is not Latest Movies. -/
def PagedQuery (data : MainPageData) : Prop :=
  data.searchText ≠ some "" ∨ data.searchCategory ≠ some SearchCategory.latest

theorem pagedQuery_present (query : Query) (received : List Answer) :
    PagedQuery (present query received) ↔ query.Paged := by
  have latest : query.category.value = SearchCategory.latest ↔ query.category = .latest :=
    OfferedCategory.value_injective.eq_iff (b := .latest)
  simp [PagedQuery, Query.Paged, present, latest]

/-- The event keeps the query, and the answer to a page is a fixed one. -/
def ServedBy (answer : Int → Answer) (e : MainPageDataController.Event) : Prop :=
  e.isReset = false ∧ ∀ flight given page, e = .succeed flight given →
    flight.request.page? = some page → given = answer page

@[simp] theorem servedBy_fetch : ServedBy answer .fetchMoviesOrTVShows := ⟨rfl, nofun⟩

@[simp] theorem servedBy_succeed : ServedBy answer (.succeed flight given) ↔
    ∀ page, flight.request.page? = some page → given = answer page := by
  constructor
  · intro served page
    exact served.2 flight given page rfl
  · intro fixed
    refine ⟨rfl, ?_⟩
    rintro _ _ page ⟨rfl, rfl⟩
    exact fixed page

@[simp] theorem servedBy_fail : ServedBy answer (.fail flight cause) := by
  refine ⟨rfl, fun _ _ _ succeeds => ?_⟩
  cases succeeds

/-- The server as a function of the request; `latest` answers what has no page. -/
def reply (answer : Int → Answer) (latest : Answer) (request : Request) : Answer :=
  match request.page? with
  | some page => answer page
  | none => latest

theorem reply_asked (asks : request.page? = some page) : reply answer latest request = answer page := by
  rw [reply, asks]

theorem request_page {query : Query} (paged : query.Paged) (n : Nat) :
    (query.request n).page? = some (1 + (n : Int)) := by
  rw [Query.request, Query.page?_requestAt, if_pos paged]

theorem reply_paged {query : Query} (paged : query.Paged) (answer : Int → Answer) (latest : Answer)
    (n : Nat) : reply answer latest (query.request n) = answer (1 + n) :=
  reply_asked (request_page paged n)

theorem ServedBy.served {query : Query} (paged : query.Paged) (latest : Answer)
    (served : ServedBy answer e) :
    Feed.Served protocol (reply answer latest) query e.toFeed := by
  refine ⟨by simpa using served.1, ?_⟩
  rintro flight given succeeds ⟨n, request⟩
  have asks : flight.request.page? = some (1 + (n : Int)) := by
    rw [request]
    exact request_page paged n
  rw [reply_asked asks]
  exact served.2 flight given _ (Event.toFeed_eq_succeed.mp succeeds) asks

/-- The answers to the pages before `page`, in order, as the page shows them. -/
def pagesBefore (answer : Int → Answer) (tv : Bool) (page : Int) : List Item :=
  (List.range (page - 1).toNat).flatMap fun (i : Nat) => (answer (1 + i)).items tv

/-- The list shown is exactly the answers to the pages before the state's page. -/
def ShowsPages (answer : Int → Answer) (data : MainPageData) : Prop :=
  ∃ page, data.page = some page ∧ items data = some (pagesBefore answer data.isTVCategory page)

theorem showsPages_present (answer : Int → Answer) {query : Query} (paged : query.Paged)
    (received : List Answer) (latest : Answer) :
    ShowsPages answer (present query received) ↔
      received.flatMap (Answer.items query.category.isTV) =
        (Feed.pages protocol (reply answer latest) query received.length).flatMap
          (Answer.items query.category.isTV) := by
  have count : (1 + (received.length : Int) - 1).toNat = received.length := by omega
  have due : ∀ n, reply answer latest (protocol.dispatch query n) = answer (1 + n) :=
    reply_paged paged answer latest
  simp only [ShowsPages, items_present, isTVCategory_present, Option.some.injEq]
  constructor
  · rintro ⟨page, paged, shown⟩
    obtain rfl := Option.some.inj paged
    rw [shown, pagesBefore, count, Feed.pages, List.flatMap_map]
    simp only [due]
  · intro shown
    refine ⟨_, rfl, ?_⟩
    rw [shown, pagesBefore, count, Feed.pages, List.flatMap_map]
    simp only [due]

/-- The list shown is the pages in order, none twice and none skipped,
throughout a run exactly when every answer shows what the page that is due at
its arrival would have shown. -/
theorem pagination_exact_iff (answer : Int → Answer) (begins : Begins origin)
    (paged : PagedQuery origin.data) (run : Reaches MainPageDataController.step origin log s)
    (served : Along MainPageDataController.step origin log fun _ _ e => ServedBy answer e) :
    Throughout MainPageDataController.step origin log (fun _ s => ShowsPages answer s.data) ↔
      Along MainPageDataController.step origin log (fun _ s e =>
        ∀ flight given asked due, e = .succeed flight given →
          flight.request.page? = some asked → s.data.page = some due →
          (answer asked).items s.data.isTVCategory = (answer due).items s.data.isTVCategory) := by
  obtain ⟨t, rfl, fresh⟩ := begins_fresh begins
  obtain ⟨u, path, rfl⟩ := (reaches_map render Event.toFeed step_render).mp run
  have paged : t.query.Paged := (pagedQuery_present _ _).mp paged
  have feed_served : Along (Feed.step protocol) t (log.map Event.toFeed)
      fun _ _ e => Feed.Served protocol (reply answer {}) t.query e :=
    served.image step_render fun _ _ _ _ _ kept => kept.served paged {}
  have pages := Feed.exact_pages_iff (Answer.items t.query.category.isTV) fresh path feed_served
  rw [throughout_map step_render, along_map step_render]
  · exact pages
  · intro pre v e shorter visited
    have before := feed_served.of_prefix
      (((List.prefix_append _ _).trans shorter).map Event.toFeed)
    obtain ⟨query, issued⟩ := Feed.served_query fresh visited before
    obtain ⟨w, stepped⟩ := path.step_of_prefix_map shorter visited
    have asks : ∀ flight given, e = .succeed flight given →
        ∃ n : Nat, flight.request.page? = some (1 + (n : Int)) := by
      rintro flight given rfl
      obtain ⟨n, request⟩ := issued flight (Feed.airborne stepped rfl)
      rw [request]
      exact ⟨n, request_page paged n⟩
    have due : reply answer {} (protocol.dispatch t.query v.received.length) =
        answer (1 + v.received.length) := reply_paged paged answer {} _
    simp only [Event.toFeed_eq_succeed, render, isTVCategory_present, query, due]
    constructor
    · intro same flight given succeeds
      obtain ⟨n, asked⟩ := asks flight given succeeds
      rw [reply_asked asked]
      exact same flight given _ _ succeeds asked rfl
    · intro same flight given asked page succeeds asks counted
      obtain rfl := Option.some.inj counted
      have shown := same flight given succeeds
      rwa [reply_asked asks] at shown
  · intro pre v shorter visited
    have query := (Feed.served_query fresh visited
      (feed_served.of_prefix (shorter.map Event.toFeed))).1
    have shown := showsPages_present answer paged v.received {}
    simpa only [render, query] using shown

/-- A server whose page `p` is the movie with the id `p`. -/
def numbered (page : Int) : Answer := { movies := [{ id := some page }] }

/-- Two fetches of the second page overlap and the first of them fails; the third
page is asked for when the second is there. -/
def retried : List MainPageDataController.Event :=
  [.succeed ⟨0, .getPopularMovies 1⟩ (numbered 1), .fetchMoviesOrTVShows, .fetchMoviesOrTVShows,
    .fail ⟨2, .getPopularMovies 2⟩ .typeError, .succeed ⟨3, .getPopularMovies 2⟩ (numbered 2),
    .fetchMoviesOrTVShows, .succeed ⟨6, .getPopularMovies 3⟩ (numbered 3)]

/-- An answer to the page that is due. -/
theorem shows_due {answer : Int → Answer} {s : System} (due : s.data.page = flight.request.page?) :
    ∀ landed received asked page, MainPageDataController.Event.succeed flight given =
      .succeed landed received → landed.request.page? = some asked → s.data.page = some page →
      (answer asked).items s.data.isTVCategory = (answer page).items s.data.isTVCategory := by
  intro landed received asked page succeeds asks counted
  cases succeeds
  rw [due, asks] at counted
  cases counted
  rfl

theorem pagination_exact_retried :
    Throughout MainPageDataController.step MainPageDataController.init retried
      (fun _ s => ShowsPages numbered s.data) := by
  refine (pagination_exact_iff numbered (.inl rfl) (.inr (by decide)) (.of_run rfl)
    (along_of_events ?_)).mpr ?_
  · simp [retried, Request.page?]
  · exact .cons rfl (shows_due rfl) <| .cons rfl (by simp) <| .cons rfl (by simp) <|
      .cons rfl (by simp) <| .cons rfl (shows_due rfl) <| .cons rfl (by simp) <|
      .cons rfl (shows_due rfl) <| along_nil _

/-- The end of the list is reached twice before the second page is there. -/
def overlapping : List MainPageDataController.Event :=
  [.succeed ⟨0, .getPopularMovies 1⟩ (numbered 1), .fetchMoviesOrTVShows, .fetchMoviesOrTVShows,
    .succeed ⟨2, .getPopularMovies 2⟩ (numbered 2), .succeed ⟨3, .getPopularMovies 2⟩ (numbered 2)]

/-- Both answers hold the second page, and the third page is never asked for. -/
theorem page_appended_twice :
    ∃ s, Begins MainPageDataController.init ∧ PagedQuery MainPageDataController.init.data ∧
      Reaches MainPageDataController.step MainPageDataController.init overlapping s ∧
      Along MainPageDataController.step MainPageDataController.init overlapping
        (fun _ _ e => ServedBy numbered e) ∧
      ¬ ShowsPages numbered s.data := by
  refine ⟨_, .inl rfl, .inr (by decide), .of_run rfl, along_of_events ?_, ?_⟩
  · simp [overlapping, Request.page?]
  · rintro ⟨page, counted, shown⟩
    cases counted
    exact absurd shown (by decide)

end MainPage
end BigMovies
