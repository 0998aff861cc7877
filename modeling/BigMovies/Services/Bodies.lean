import BigMovies.Services.MovieService
import BigMovies.Model.Decoding

/-! What the service makes of a response body. Ten methods read a list of
results and one reads the body itself; each of them decodes every element or
throws, and the answer of each holds one item for each element. -/
namespace BigMovies
open Dart

namespace Request

/-- The elements that the call decodes, `none` when the body has no results. -/
def elements? : Request → Json → Option (List Json)
  | .getLatestMovie, body => some [body]
  | _, body => body.map?.bind fun entries => (JsonMap.get entries "results").list?

/-- The decoder of the call accepts the object. -/
def Accepts (request : Request) (object : JsonMap) : Prop :=
  if request.isTV then TVShow.Accepts object else Movie.Accepts object

def AcceptsAll (request : Request) (elements : List Json) : Prop :=
  ∀ element ∈ elements, ∃ object, element = .map object ∧ request.Accepts object

/-- The answer holds one decoded item for each element, in order. -/
def Decodes (request : Request) (elements : List Json) (answer : Answer) : Prop :=
  if request.isTV then
    answer.movies = [] ∧ List.Forall₂ (Decoded TVShow.fromJson) elements answer.tvShows
  else
    answer.tvShows = [] ∧ List.Forall₂ (Decoded Movie.fromJson) elements answer.movies

/-- Only the latest movie looks at the status. -/
def Passes (request : Request) (status : Option Int) : Prop :=
  request = .getLatestMovie → status = some 200

theorem receiveMovies_ok {call : Call (List Movie)} {answer : Answer} :
    receiveMovies call result = .ok answer ↔
      answer.tvShows = [] ∧ call.receive result = .ok answer.movies := by
  obtain ⟨movies, tvShows⟩ := answer
  simp only [receiveMovies, bind_ok, pure, Except.pure, Except.ok.injEq, Answer.mk.injEq]
  constructor
  · rintro ⟨_, received, rfl, rfl⟩
    exact ⟨rfl, received⟩
  · rintro ⟨rfl, received⟩
    exact ⟨movies, received, rfl, rfl⟩

theorem receiveTVShows_ok {call : Call (List TVShow)} {answer : Answer} :
    receiveTVShows call result = .ok answer ↔
      answer.movies = [] ∧ call.receive result = .ok answer.tvShows := by
  obtain ⟨movies, tvShows⟩ := answer
  simp only [receiveTVShows, bind_ok, pure, Except.pure, Except.ok.injEq, Answer.mk.injEq]
  constructor
  · rintro ⟨_, received, rfl, rfl⟩
    exact ⟨rfl, received⟩
  · rintro ⟨rfl, received⟩
    exact ⟨tvShows, received, rfl, rfl⟩

theorem guarded_ok {result : Except Thrown α} {value : α} :
    MovieService.guarded message result = .ok value ↔ result = .ok value := by
  cases result <;> simp [MovieService.guarded]

theorem results_ok {fromJson : JsonMap → Except Thrown α} {items : List α} :
    MovieService.results fromJson data = .ok items ↔
      ∃ entries elements, data = .map entries ∧ JsonMap.get entries "results" = .list elements ∧
        List.Forall₂ (Decoded fromJson) elements items := by
  simp only [MovieService.results, bind_ok, index_ok, cast_ok, list?_eq_some, map?_eq_some, mapM_ok]
  constructor
  · rintro ⟨_, ⟨entries, body, rfl⟩, elements, listed, decoded⟩
    exact ⟨entries, elements, body, listed, decoded⟩
  · rintro ⟨entries, elements, body, listed, decoded⟩
    exact ⟨_, ⟨entries, body, rfl⟩, elements, listed, decoded⟩

theorem listing_ok {fromJson : JsonMap → Except Thrown α} {items : List α} :
    (MovieService.listing fromJson path query message).receive (.response response) = .ok items ↔
      ∃ elements, (response.data.map?.bind fun entries => (JsonMap.get entries "results").list?) =
        some elements ∧ List.Forall₂ (Decoded fromJson) elements items := by
  change MovieService.guarded message (MovieService.results fromJson response.data) = _ ↔ _
  simp only [guarded_ok, results_ok, Option.bind_eq_some_iff, map?_eq_some, list?_eq_some]
  constructor
  · rintro ⟨entries, elements, body, listed, decoded⟩
    exact ⟨elements, ⟨entries, body, listed⟩, decoded⟩
  · rintro ⟨elements, ⟨entries, body, listed⟩, decoded⟩
    exact ⟨entries, elements, body, listed, decoded⟩

theorem getLatestMovie_ok {movies : List Movie} :
    MovieService.getLatestMovie.receive (.response response) = .ok movies ↔
      response.statusCode = some 200 ∧
        List.Forall₂ (Decoded Movie.fromJson) [response.data] movies := by
  simp only [MovieService.getLatestMovie, guarded_ok, HttpService.received,
    bind_ok, Except.ok.injEq, exists_eq_left']
  by_cases fine : response.statusCode = some 200
  · rw [if_pos fine]
    simp only [fine, true_and, List.forall₂_cons_left_iff, List.forall₂_nil_left_iff, bind_ok,
      cast_ok, map?_eq_some, pure, Except.pure, Except.ok.injEq]
    constructor
    · rintro ⟨object, body, movie, decoded, rfl⟩
      exact ⟨movie, [], ⟨object, body, decoded⟩, rfl, rfl⟩
    · rintro ⟨movie, _, ⟨object, body, decoded⟩, rfl, rfl⟩
      exact ⟨object, body, movie, decoded, rfl⟩
  · rw [if_neg fine]
    exact iff_of_false nofun fun passes => fine passes.1

/-- What the call returns is decoded from the elements. -/
theorem receive_ok {request : Request} {response : Response} {answer : Answer} :
    request.receive (.response response) = .ok answer ↔ request.Passes response.statusCode ∧
      ∃ elements, request.elements? response.data = some elements ∧
        request.Decodes elements answer := by
  cases request with
  | getLatestMovie =>
    simp [receive, receiveMovies_ok, getLatestMovie_ok, Passes, elements?, Decodes, isTV,
      and_left_comm]
  | searchMovies | getPopularMovies | getUpcomingMovies | getNowPlayingMovies | getTopRatedMovies =>
    apply receiveMovies_ok.trans
    apply (and_congr_right' listing_ok).trans
    simp [Passes, elements?, Decodes, isTV, and_left_comm]
  | searchTVShows | getAiringTodayTVShows | getOnTheAirTVShows | getPopularTVShows
  | getTopRatedTVShows =>
    apply receiveTVShows_ok.trans
    apply (and_congr_right' listing_ok).trans
    simp [Passes, elements?, Decodes, isTV, and_left_comm]

theorem decodes_iff (request : Request) (elements : List Json) :
    (∃ answer, request.Decodes elements answer) ↔ request.AcceptsAll elements := by
  unfold AcceptsAll Decodes Accepts
  cases request.isTV with
  | true =>
    simp only [if_true, ← Dart.decodes_iff TVShow.fromJson_succeeds, ← exists_forall₂_iff]
    constructor
    · rintro ⟨answer, -, decoded⟩
      exact ⟨answer.tvShows, decoded⟩
    · rintro ⟨tvShows, decoded⟩
      exact ⟨{ tvShows := tvShows }, rfl, decoded⟩
  | false =>
    simp only [Bool.false_eq_true, if_false, ← Dart.decodes_iff Movie.fromJson_succeeds,
      ← exists_forall₂_iff]
    constructor
    · rintro ⟨answer, -, decoded⟩
      exact ⟨answer.movies, decoded⟩
    · rintro ⟨movies, decoded⟩
      exact ⟨{ movies := movies }, rfl, decoded⟩

/-- The call returns exactly when every element is accepted. -/
theorem receive_succeeds (request : Request) (response : Response) :
    (∃ answer, request.receive (.response response) = .ok answer) ↔
      request.Passes response.statusCode ∧ ∃ elements,
        request.elements? response.data = some elements ∧ request.AcceptsAll elements := by
  simp only [receive_ok, ← decodes_iff]
  constructor
  · rintro ⟨answer, passes, elements, listed, decodes⟩
    exact ⟨passes, elements, listed, answer, decodes⟩
  · rintro ⟨passes, elements, listed, answer, decodes⟩
    exact ⟨answer, passes, elements, listed, decodes⟩

theorem receive_dioException (request : Request) (message : Option String) (answer : Answer) :
    request.receive (.dioException message) ≠ .ok answer := by
  cases request <;> exact nofun

/-- What a call returns has the static type of the call. -/
theorem receive_fits {request : Request} (received : request.receive result = .ok answer) :
    request.fits answer = true := by
  cases result with
  | dioException message => exact absurd received (receive_dioException request message answer)
  | response response =>
    obtain ⟨-, elements, -, decodes⟩ := receive_ok.mp received
    unfold Decodes at decodes
    unfold fits
    cases tv : request.isTV with
    | true =>
      rw [tv, if_pos rfl] at decodes
      simp [decodes.1]
    | false =>
      rw [tv, if_neg Bool.false_ne_true] at decodes
      simp [decodes.1]

end Request
end BigMovies
