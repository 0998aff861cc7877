import BigMovies.Dart.Dynamic

/-! The set-up of `splash_page.dart`: it reads the configuration, and registers
the services of the app only if that holds what is expected. Nothing else is
made of the configuration, and the page goes on whether or not it failed. -/
namespace BigMovies
open Dart

/-- The services that are looked up by their type. -/
inductive Service where
  | httpService | movieService
deriving DecidableEq, Repr

/-- The locator of the package `get_it`, by what it documents of singletons: a
type is registered once, and found exactly when it is. -/
structure GetIt where
  Registry : Type
  empty : Registry
  isRegistered : Registry → Service → Bool
  registerSingleton : Registry → Service → Except Thrown Registry
  get : Registry → Service → Except Thrown Unit
  empty_unregistered : ∀ service, isRegistered empty service = false
  register_new : ∀ registry service, isRegistered registry service = false →
    ∃ grown, registerSingleton registry service = .ok grown ∧
      ∀ other, isRegistered grown other = (decide (other = service) || isRegistered registry other)
  register_twice : ∀ registry service, isRegistered registry service = true →
    ∃ cause, registerSingleton registry service = .error cause
  get_ok : ∀ registry service, get registry service = .ok () ↔ isRegistered registry service = true

/-- A locator that keeps a list. -/
def GetIt.listed : GetIt where
  Registry := List Service
  empty := []
  isRegistered registry service := registry.contains service
  registerSingleton registry service :=
    if registry.contains service then .error (.exception "already registered")
    else .ok (service :: registry)
  get registry service :=
    if registry.contains service then .ok () else .error (.exception "not registered")
  empty_unregistered := by simp
  register_new := by
    intro registry service unregistered
    exact ⟨service :: registry, if_neg (by simpa using unregistered), by simp⟩
  register_twice := by
    intro registry service registered
    exact ⟨_, if_pos registered⟩
  get_ok := by
    intro registry service
    by_cases registered : registry.contains service = true
    · exact iff_of_true (if_pos registered) registered
    · refine iff_of_false ?_ registered
      rw [if_neg registered]
      intro found
      cases found

namespace SplashPage

/-- The three entries that the set-up asks for, and that it does nothing else with. -/
def readConfig (configData : Json) : Except Thrown Unit := do
  let baseApiUrl ← castNullable Json.string? (← configData.index "BASE_API_URL")
  let baseImageApiUrl ← castNullable Json.string? (← configData.index "BASE_IMAGE_API_URL")
  let apiKey ← castNullable Json.string? (← configData.index "API_KEY")
  if baseApiUrl.isNone || baseImageApiUrl.isNone || apiKey.isNone then
    throw (.exception "Invalid configuration data.")

section
variable (getIt : GetIt)

/-- The registrations. What was registered stays so when a later one throws. -/
def registerServices (registry : getIt.Registry) : getIt.Registry :=
  match getIt.registerSingleton registry .httpService with
  | .error _ => registry
  | .ok withHttp =>
    -- The constructor of the movie service looks up the HTTP service.
    match getIt.get withHttp .httpService with
    | .error _ => withHttp
    | .ok () =>
      match getIt.registerSingleton withHttp .movieService with
      | .error _ => withHttp
      | .ok both => both

/-- `_setup` on what loading and decoding the configuration file gave. Whatever
is thrown is logged. -/
def setup (registry : getIt.Registry) (configFile : Except Thrown Json) : getIt.Registry :=
  match configFile >>= readConfig with
  | .ok () => registerServices getIt registry
  | .error _ => registry

end

/-- The file was read, and holds a string for each of the entries. -/
def ConfigAccepted (configFile : Except Thrown Json) : Prop :=
  ∃ entries, configFile = .ok (.map entries) ∧
    ∀ key ∈ ["BASE_API_URL", "BASE_IMAGE_API_URL", "API_KEY"],
      ∃ text, JsonMap.get entries key = .string text

theorem string?_eq_some {value : Json} {text : String} :
    value.string? = some text ↔ value = .string text := by
  cases value <;> simp [Json.string?]

theorem readConfig_map (entries : JsonMap) :
    readConfig (.map entries) = .ok () ↔
      ∀ key ∈ ["BASE_API_URL", "BASE_IMAGE_API_URL", "API_KEY"],
        ∃ text, JsonMap.get entries key = .string text := by
  simp only [readConfig, Json.index, bind_ok, Except.ok.injEq, exists_eq_left',
    castNullable_ok Json.string? rfl, List.forall_mem_cons, ← string?_eq_some,
    ← Option.isSome_iff_exists]
  constructor
  · rintro ⟨_, ⟨-, rfl⟩, _, ⟨-, rfl⟩, _, ⟨-, rfl⟩, checked⟩
    split at checked
    · cases checked
    · rename_i complete
      simpa [Option.isSome_iff_ne_none, and_assoc] using complete
  · rintro ⟨api, image, key, -⟩
    refine ⟨_, ⟨.inr api, rfl⟩, _, ⟨.inr image, rfl⟩, _, ⟨.inr key, rfl⟩, if_neg ?_⟩
    simp [Option.isNone_eq_false_iff.mpr api, Option.isNone_eq_false_iff.mpr image,
      Option.isNone_eq_false_iff.mpr key]

theorem configAccepted_iff (configFile : Except Thrown Json) :
    configFile >>= readConfig = .ok () ↔ ConfigAccepted configFile := by
  rw [bind_ok]
  constructor
  · rintro ⟨configData, rfl, accepted⟩
    cases configData with
    | map entries => exact ⟨entries, rfl, (readConfig_map entries).mp accepted⟩
    | null | bool | num | string | list => cases accepted
  · rintro ⟨entries, rfl, complete⟩
    exact ⟨_, rfl, (readConfig_map entries).mpr complete⟩

section
variable {getIt : GetIt} {registry : getIt.Registry}

/-- Both services are registered, or neither is. -/
def Coherent (registry : getIt.Registry) : Prop :=
  getIt.isRegistered registry .httpService = getIt.isRegistered registry .movieService

theorem registerServices_coherent (coherent : Coherent registry) (service : Service) :
    getIt.isRegistered (registerServices getIt registry) service = true := by
  unfold Coherent at coherent
  cases before : getIt.isRegistered registry .httpService with
  | true =>
    obtain ⟨cause, refused⟩ := getIt.register_twice registry .httpService before
    rw [registerServices, refused]
    cases service with
    | httpService => exact before
    | movieService => exact coherent.symm.trans before
  | false =>
    obtain ⟨withHttp, registered, grown⟩ := getIt.register_new registry .httpService before
    have found := (getIt.get_ok withHttp .httpService).mpr (by simp [grown])
    have missing : getIt.isRegistered withHttp .movieService = false := by
      simp [grown, ← coherent, before]
    obtain ⟨both, last, complete⟩ := getIt.register_new withHttp .movieService missing
    simp only [registerServices, registered, found, last]
    cases service with
    | httpService => simp [complete, grown]
    | movieService => simp [complete]

/-- The set-up registers both services or leaves the registry as it was, also
when it is run again. -/
theorem setup_registered (coherent : Coherent registry) (configFile : Except Thrown Json)
    (service : Service) :
    getIt.isRegistered (setup getIt registry configFile) service = true ↔
      getIt.isRegistered registry service = true ∨ ConfigAccepted configFile := by
  rw [← configAccepted_iff]
  cases read : configFile >>= readConfig with
  | ok value =>
    simp only [setup, read]
    exact iff_of_true (registerServices_coherent coherent service) (.inr trivial)
  | error cause => simp [setup, read]

theorem coherent_empty : Coherent getIt.empty := by
  simp [Coherent, getIt.empty_unregistered]

end

end SplashPage
end BigMovies
