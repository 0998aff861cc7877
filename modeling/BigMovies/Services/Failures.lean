import BigMovies.Services.Bodies
import BigMovies.Services.Endpoints

/-! What the service methods can return and throw, for every result of their
HTTP request. A method throws its own message around a cause, and the cause
follows from the result alone. -/
namespace BigMovies
open Dart

namespace Request

/-- The cause of a failure of the call, should it fail on the result. Only the
latest movie is refused by its status, and only lists of results are looked up
by a key that the body may not have an operator for. -/
def cause (request : Request) : DioResult → Thrown
  | .dioException message => .exception ("Failed to perform GET request: " ++ interpolate message)
  | .response response =>
    if request = .getLatestMovie ∧ response.statusCode ≠ some 200 then
      .exception "Failed to load latest movie"
    else if request = .getLatestMovie ∨ response.data.hasIndex then .typeError
    else .noSuchMethodError

/-- The result holds everything that the call decodes. -/
def Takes (request : Request) : DioResult → Prop
  | .dioException _ => False
  | .response response => request.Passes response.statusCode ∧ ∃ elements,
      request.elements? response.data = some elements ∧ request.AcceptsAll elements

theorem takes_iff (request : Request) (result : DioResult) :
    request.Takes result ↔ ∃ answer, request.receive result = .ok answer := by
  cases result with
  | dioException message =>
    refine iff_of_false id ?_
    rintro ⟨answer, received⟩
    exact request.receive_dioException message answer received
  | response response => exact (request.receive_succeeds response).symm

theorem guarded_error {result : Except Thrown α} {thrown : Thrown} :
    MovieService.guarded message result = .error thrown ↔
      ∃ cause, result = .error cause ∧ thrown = .wrapped message cause := by
  cases result <;> simp [MovieService.guarded, eq_comm]

theorem receiveMovies_error {call : Call (List Movie)} {thrown : Thrown} :
    receiveMovies call result = .error thrown ↔ call.receive result = .error thrown := by
  simp [receiveMovies, bind_error, pure, Except.pure]

theorem receiveTVShows_error {call : Call (List TVShow)} {thrown : Thrown} :
    receiveTVShows call result = .error thrown ↔ call.receive result = .error thrown := by
  simp [receiveTVShows, bind_error, pure, Except.pure]

theorem results_error {fromJson : JsonMap → Except Thrown α} {cause : Thrown}
    (typed : ∀ json, OnlyTypeErrors (fromJson json))
    (failed : MovieService.results fromJson data = .error cause) :
    cause = if data.hasIndex then .typeError else .noSuchMethodError := by
  rcases bind_error.mp failed with unindexed | ⟨found, indexed, later⟩
  · exact (index_error.mp unindexed).2
  · obtain ⟨entries, rfl, -⟩ := index_ok.mp indexed
    have decoding : OnlyTypeErrors (do
        let elements ← cast Json.list? found
        elements.mapM fun element => do fromJson (← cast Json.map? element)) :=
      .bind (.cast _ _) fun _ => .mapM (fun _ => .bind (.cast _ _) typed) _
    exact decoding cause later

theorem listing_error {fromJson : JsonMap → Except Thrown α} {thrown : Thrown}
    (typed : ∀ json, OnlyTypeErrors (fromJson json))
    (failed : (MovieService.listing fromJson path query message).receive (.response response) =
      .error thrown) :
    thrown = .wrapped message (if response.data.hasIndex then .typeError else .noSuchMethodError) := by
  change MovieService.guarded message (MovieService.results fromJson response.data) = _ at failed
  obtain ⟨cause, inner, rfl⟩ := guarded_error.mp failed
  rw [results_error typed inner]

theorem getLatestMovie_error {thrown : Thrown}
    (failed : MovieService.getLatestMovie.receive (.response response) = .error thrown) :
    thrown = .wrapped "Error occurred while fetching the latest movie: "
      (if response.statusCode = some 200 then .typeError
        else .exception "Failed to load latest movie") := by
  obtain ⟨cause, inner, rfl⟩ := guarded_error.mp failed
  simp only [HttpService.received, bind_error, reduceCtorEq, Except.ok.injEq, exists_eq_left',
    false_or] at inner
  by_cases fine : response.statusCode = some 200
  · rw [if_pos fine] at inner ⊢
    have decoding : OnlyTypeErrors (do
        let movie ← Movie.fromJson (← cast Json.map? response.data)
        return [movie]) :=
      .bind (.cast _ _) fun _ => .bind (Movie.fromJson_typeError _) fun _ => .pure _
    rw [decoding cause inner]
  · rw [if_neg fine] at inner ⊢
    cases inner
    rfl

/-- A call that throws wraps its cause in its own message. -/
theorem receive_error {request : Request} {result : DioResult} {thrown : Thrown}
    (failed : request.receive result = .error thrown) :
    thrown = .wrapped request.endpoint.message (request.cause result) := by
  cases result with
  | dioException message =>
    cases request <;> exact (Except.error.inj failed).symm
  | response response =>
    cases request with
    | getLatestMovie =>
      rw [getLatestMovie_error (receiveMovies_error.mp failed)]
      by_cases fine : response.statusCode = some 200 <;> simp [cause, fine, endpoint, Endpoint.message]
    | searchMovies | getPopularMovies | getUpcomingMovies | getNowPlayingMovies
    | getTopRatedMovies =>
      have thrown := listing_error Movie.fromJson_typeError (receiveMovies_error.mp failed)
      simpa [cause, endpoint, Endpoint.message] using thrown
    | searchTVShows | getAiringTodayTVShows | getOnTheAirTVShows | getPopularTVShows
    | getTopRatedTVShows =>
      have thrown := listing_error TVShow.fromJson_typeError (receiveTVShows_error.mp failed)
      simpa [cause, endpoint, Endpoint.message] using thrown

/-- A call throws exactly when its result does not hold what it decodes, and
what it throws is then determined by the method and the result. -/
theorem throws_iff (request : Request) (result : DioResult) (thrown : Thrown) :
    request.receive result = .error thrown ↔ ¬ request.Takes result ∧
      thrown = .wrapped request.endpoint.message (request.cause result) := by
  rw [takes_iff]
  constructor
  · intro failed
    refine ⟨?_, receive_error failed⟩
    rintro ⟨answer, received⟩
    rw [failed] at received
    cases received
  · rintro ⟨rejected, rfl⟩
    cases received : request.receive result with
    | ok answer => exact absurd ⟨answer, received⟩ rejected
    | error other => rw [receive_error received]

/-- The causes of failure that some result of the HTTP request has. -/
def MayThrow (request : Request) (cause : Thrown) : Prop :=
  (∃ text, cause = .exception ("Failed to perform GET request: " ++ text)) ∨ cause = .typeError ∨
    cause = if request = .getLatestMovie then .exception "Failed to load latest movie"
      else .noSuchMethodError

theorem mayThrow_cause (request : Request) (result : DioResult) :
    request.MayThrow (request.cause result) := by
  cases result with
  | dioException message => exact .inl ⟨interpolate message, rfl⟩
  | response response =>
    simp only [cause]
    split
    · rename_i refused
      exact .inr (.inr (if_pos refused.1).symm)
    · split
      · exact .inr (.inl rfl)
      · rename_i unindexed
        exact .inr (.inr (if_neg fun latest => unindexed (.inl latest)).symm)

theorem throws_list (request : Request) :
    request.receive (.response ⟨some 200, .list []⟩) =
      .error (.wrapped request.endpoint.message .typeError) := by
  cases request <;> rfl

theorem throws_null (request : Request) :
    request.receive (.response ⟨none, .null⟩) = .error (.wrapped request.endpoint.message
      (if request = .getLatestMovie then .exception "Failed to load latest movie"
        else .noSuchMethodError)) := by
  cases request <;> rfl

theorem throws_dioException (request : Request) (text : String) :
    request.receive (.dioException (some text)) = .error (.wrapped request.endpoint.message
      (.exception ("Failed to perform GET request: " ++ text))) := by
  cases request <;> rfl

/-- What the call throws, over all results of its HTTP request. -/
theorem mayThrow_iff (request : Request) (thrown : Thrown) :
    (∃ result, request.receive result = .error thrown) ↔
      ∃ cause, thrown = .wrapped request.endpoint.message cause ∧ request.MayThrow cause := by
  constructor
  · rintro ⟨result, failed⟩
    exact ⟨request.cause result, receive_error failed, request.mayThrow_cause result⟩
  · rintro ⟨cause, rfl, ⟨text, rfl⟩ | rfl | rfl⟩
    · exact ⟨_, request.throws_dioException text⟩
    · exact ⟨_, request.throws_list⟩
    · exact ⟨_, request.throws_null⟩

/-- A body that carries the items of an answer. -/
def body (request : Request) (answer : Answer) : Json :=
  match request with
  | .getLatestMovie => .map ((answer.movies.head?.map Movie.json).getD [])
  | _ => .map [("results", .list ((answer.movies.map fun movie => .map movie.json) ++
      answer.tvShows.map fun tvShow => .map tvShow.json))]

/-- What the call can return: the latest movie is a single one, and TV shows are
as their decoder leaves them. -/
def Delivers (request : Request) (answer : Answer) : Prop :=
  request.fits answer = true ∧ (request = .getLatestMovie → answer.movies.length = 1) ∧
    ∀ tvShow ∈ answer.tvShows, tvShow.Decodable

instance (request : Request) (answer : Answer) : Decidable (request.Delivers answer) :=
  inferInstanceAs (Decidable (_ ∧ _ ∧ _))

theorem decoded_movies (movies : List Movie) :
    List.Forall₂ (Decoded Movie.fromJson) (movies.map fun movie => .map movie.json) movies := by
  rw [List.forall₂_map_left_iff]
  exact List.forall₂_same.mpr fun movie _ => ⟨movie.json, rfl, movie.fromJson_json⟩

theorem decoded_tvShows {tvShows : List TVShow} (decodable : ∀ tvShow ∈ tvShows, tvShow.Decodable) :
    List.Forall₂ (Decoded TVShow.fromJson) (tvShows.map fun tvShow => .map tvShow.json) tvShows := by
  rw [List.forall₂_map_left_iff]
  exact List.forall₂_same.mpr fun tvShow member =>
    ⟨tvShow.json, rfl, tvShow.fromJson_json (decodable tvShow member)⟩

theorem delivers_of_receive {request : Request} {answer : Answer}
    (received : request.receive result = .ok answer) : request.Delivers answer := by
  cases result with
  | dioException message => exact absurd received (request.receive_dioException message answer)
  | response response =>
    have fits := receive_fits received
    obtain ⟨-, elements, listed, decodes⟩ := receive_ok.mp received
    refine ⟨fits, ?_, ?_⟩
    · rintro rfl
      cases listed
      exact decodes.2.length_eq.symm
    · unfold Decodes at decodes
      split at decodes
      · have each := forall_decoded_iff (P := fun _ => True) (Q := TVShow.Decodable)
          (fun _ _ decoded => iff_of_true (TVShow.decodable_of_fromJson decoded) trivial) decodes.2
        exact each.mpr fun _ _ => trivial
      · simp [decodes.1]

theorem elements?_body {request : Request} (paged : request ≠ .getLatestMovie) (answer : Answer) :
    request.elements? (request.body answer) = some ((answer.movies.map fun movie => .map movie.json) ++
      answer.tvShows.map fun tvShow => .map tvShow.json) := by
  cases request with
  | getLatestMovie => contradiction
  | _ => rfl

theorem receive_body {request : Request} {answer : Answer} (delivers : request.Delivers answer) :
    request.receive (.response ⟨some 200, request.body answer⟩) = .ok answer := by
  obtain ⟨fits, single, decodable⟩ := delivers
  apply receive_ok.mpr
  refine ⟨fun _ => rfl, ?_⟩
  by_cases latest : request = .getLatestMovie
  · subst latest
    obtain ⟨movie, only⟩ := List.length_eq_one_iff.mp (single rfl)
    refine ⟨_, rfl, by simpa [Request.fits, isTV] using fits, ?_⟩
    simpa [body, only] using decoded_movies [movie]
  · refine ⟨_, elements?_body latest answer, ?_⟩
    unfold Request.fits at fits
    unfold Decodes
    cases tv : request.isTV with
    | true =>
      obtain none : answer.movies = [] := by simpa [tv] using fits
      simpa [none] using decoded_tvShows decodable
    | false =>
      obtain none : answer.tvShows = [] := by simpa [tv] using fits
      simpa [none] using decoded_movies answer.movies

/-- What the call returns, over all results of its HTTP request. -/
theorem delivers_iff (request : Request) (answer : Answer) :
    (∃ result, request.receive result = .ok answer) ↔ request.Delivers answer := by
  constructor
  · rintro ⟨result, received⟩
    exact delivers_of_receive received
  · intro delivers
    exact ⟨_, receive_body delivers⟩

end Request
end BigMovies
