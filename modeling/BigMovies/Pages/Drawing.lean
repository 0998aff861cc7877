import BigMovies.Controllers.Delivery
import BigMovies.Widgets.Rendering
import BigMovies.Pages.Pagination

/-! Drawing the list. Every item of the list was admitted by a decoder, but the
decoders admit objects without the fields that the tiles unwrap. -/
namespace BigMovies
open Dart Transition MainPageDataController

/-- The object holds what the tile of an item of this kind unwraps. -/
def Request.Needs (request : Request) (object : JsonMap) : Prop :=
  if request.isTV then TVShowTile.Needs object else MovieTile.Needs object

namespace MainPage

/-- The tile at every index of the list shown builds. -/
def Draws (formats : Formats) (data : MainPageData) : Prop :=
  ∀ shown (index : Nat) item, items data = some shown → shown[index]? = some item →
    ∃ tile, item.tile formats = .ok tile

/-- A response that is taken into the list shown holds only objects with all
that their tiles unwrap. -/
def SendsDrawable (s : System) (e : ServerEvent) : Prop :=
  ∀ flight response elements, e = .respond flight (.response response) →
    flight.request.isTV = s.data.isTVCategory →
    flight.request.Passes response.statusCode →
    flight.request.elements? response.data = some elements → flight.request.AcceptsAll elements →
    ∀ object, .map object ∈ elements → flight.request.Needs object

theorem draws_present (formats : Formats) (query : Query) (received : List Answer) :
    Draws formats (present query received) ↔
      ∀ answer ∈ received, ∀ item ∈ answer.items query.category.isTV,
        ∃ tile, item.tile formats = .ok tile := by
  simp only [Draws, items_present, Option.some.injEq]
  constructor
  · intro draws answer member item shown
    have listed := List.mem_flatMap.mpr ⟨answer, member, shown⟩
    obtain ⟨index, found⟩ := List.mem_iff_getElem?.mp listed
    exact draws _ index item rfl found
  · rintro draws _ index item rfl found
    obtain ⟨answer, member, shown⟩ := List.mem_flatMap.mp (List.mem_of_getElem? found)
    exact draws answer member item shown

/-- The items that an answer brings to the list shown can be drawn exactly when
the objects they were decoded from can. -/
theorem draws_decoded {request : Request} (decodes : request.Decodes elements answer)
    (formats : Formats) (tv : Bool) :
    (∀ item ∈ answer.items tv, ∃ tile, item.tile formats = .ok tile) ↔
      (request.isTV = tv → ∀ object, .map object ∈ elements → request.Needs object) := by
  unfold Request.Decodes at decodes
  unfold Request.Needs Answer.items
  cases kind : request.isTV with
  | true =>
    rw [kind, if_pos rfl] at decodes
    cases tv with
    | false => simp [decodes.1]
    | true =>
      simpa [Item.tile] using forall_decoded_iff
        (fun _ _ decoded => TVShowTile.builds_iff decoded formats) decodes.2
  | false =>
    rw [kind, if_neg Bool.false_ne_true] at decodes
    cases tv with
    | true => simp [decodes.1]
    | false =>
      simpa [Item.tile] using forall_decoded_iff
        (fun _ _ decoded => MovieTile.builds_iff decoded formats) decodes.2

/-- A page of the list is drawn whole exactly when the response it came in is drawable. -/
theorem respond_draws_iff (formats : Formats) (query : Query) (received : List Answer)
    (flight : Flight) (result : DioResult) (kept : Draws formats (present query received)) :
    Draws formats (deliver (present query received) flight.request result) ↔
      ∀ response elements, result = .response response →
        flight.request.isTV = query.category.isTV → flight.request.Passes response.statusCode →
        flight.request.elements? response.data = some elements →
        flight.request.AcceptsAll elements →
        ∀ object, .map object ∈ elements → flight.request.Needs object := by
  unfold deliver
  cases returned : flight.request.receive result with
  | error cause =>
    apply iff_of_true kept
    rintro response elements rfl - passes listed accepted
    obtain ⟨answer, received⟩ :=
      (flight.request.receive_succeeds response).mpr ⟨passes, elements, listed, accepted⟩
    rw [received] at returned
    cases returned
  | ok answer =>
    cases result with
    | dioException message => exact absurd returned (Request.receive_dioException _ _ _)
    | response response =>
      obtain ⟨passes, elements, listed, decodes⟩ := Request.receive_ok.mp returned
      have accepted := (flight.request.decodes_iff elements).mp ⟨answer, decodes⟩
      rw [draws_present] at kept
      change Draws formats (append (present query received) answer) ↔ _
      rw [append_present, draws_present]
      have page := draws_decoded decodes formats query.category.isTV
      constructor
      · rintro draws _ others ⟨rfl⟩ kind - found -
        obtain rfl := Option.some.inj (listed.symm.trans found)
        exact page.mp (draws answer (by simp)) kind
      · intro drawable other member
        rcases List.mem_append.mp member with earlier | last
        · exact kept other earlier
        · obtain rfl := List.mem_singleton.mp last
          exact page.mpr fun kind => drawable response elements rfl kind passes listed accepted

/-- Every tile of the list builds, throughout a run, exactly when the server
sends no object, in a response that is taken into the list shown, without a
value that its tile unwraps. -/
theorem tiles_build_iff (formats : Formats) (run : Reaches serve MainPageDataController.init log s) :
    Throughout serve MainPageDataController.init log (fun _ s => Draws formats s.data) ↔
      Along serve MainPageDataController.init log (fun _ s e => SendsDrawable s e) := by
  have emptied : ∀ query : Query, Draws formats (present query []) := by simp [draws_present]
  have initial : Draws formats MainPageDataController.init.data := by
    rw [init_eq]
    exact emptied _
  refine throughout_iff_along initial ?_ run
  intro pre s e t _ visited kept stepped
  obtain ⟨u, rfl, -⟩ := ledger_of_reaches (reaches_serve visited)
  have moved : t.data = (turn (render u).data e.toEvent).data := step_data stepped
  rw [moved]
  change Draws formats (turn (present u.query u.received) e.toEvent).data ↔ _
  cases e with
  | updateSearchText searchText =>
    rw [ServerEvent.toEvent, turn, updateSearchText_present]
    exact iff_of_true (emptied _) (by rintro _ _ _ ⟨⟩)
  | updateSearchCategory category =>
    rw [ServerEvent.toEvent, turn, updateSearchCategory_present]
    exact iff_of_true (emptied _) (by rintro _ _ _ ⟨⟩)
  | fetchMoviesOrTVShows =>
    rw [ServerEvent.toEvent, turn, fetch_present]
    exact iff_of_true kept (by rintro _ _ _ ⟨⟩)
  | respond flight result =>
    rw [ServerEvent.turn_respond, respond_draws_iff formats u.query u.received flight result kept,
      ← isTVCategory_present u.query u.received]
    constructor
    · rintro drawable _ response elements ⟨rfl, rfl⟩
      exact drawable response elements rfl
    · rintro drawable response elements rfl
      exact drawable flight response elements rfl

/-- The first request is answered with one page of these objects. -/
def answered (objects : List JsonMap) : List ServerEvent :=
  [.respond ⟨0, .getPopularMovies 1⟩
    (.response ⟨some 200, .map [("results", .list (objects.map .map))]⟩)]

theorem tiles_build_complete :
    Throughout serve MainPageDataController.init
      (answered [[("title", .string "Up"), ("vote_average", .num (.int 8)),
        ("original_language", .string "en"), ("overview", .string "A house flies.")]])
      (fun _ s => Draws wholeFormats s.data) := by
  apply (tiles_build_iff wholeFormats (.of_run rfl)).mpr
  rw [answered, along_singleton]
  rintro _ _ elements ⟨rfl, rfl⟩ - - listed - object member
  cases listed
  cases List.mem_singleton.mp member
  change MovieTile.Needs _
  unfold MovieTile.Needs
  decide

/-- The decoder accepts an object without any of the keys. -/
theorem empty_object_undrawable :
    ∃ s, Reaches serve MainPageDataController.init (answered [[]]) s ∧
      ¬ Draws wholeFormats s.data := by
  refine ⟨_, .of_run rfl, fun draws => ?_⟩
  obtain ⟨tile, built⟩ := draws [.movie {}] 0 (.movie {}) rfl rfl
  cases built

end MainPage
end BigMovies
