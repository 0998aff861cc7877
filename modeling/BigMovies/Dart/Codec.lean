import BigMovies.Dart.Dynamic

/-! Both ends of a decoder: values as an encoder writes them, which a decoder
reads back unchanged, and the failures of a decoder, which are all of one kind
when it only casts. -/
namespace Dart
variable {α β : Type}

theorem bind_error {first : Except Thrown α} {next : α → Except Thrown β} {cause : Thrown} :
    (first >>= next) = .error cause ↔
      first = .error cause ∨ ∃ value, first = .ok value ∧ next value = .error cause := by
  cases first <;> simp [bind, Except.bind]

/-- Nothing but a type error is thrown. -/
def OnlyTypeErrors (result : Except Thrown α) : Prop :=
  ∀ cause, result = .error cause → cause = .typeError

namespace OnlyTypeErrors

theorem pure (value : α) : OnlyTypeErrors (pure value : Except Thrown α) := by
  intro cause thrown
  cases thrown

theorem bind {first : Except Thrown α} {next : α → Except Thrown β} (before : OnlyTypeErrors first)
    (after : ∀ value, OnlyTypeErrors (next value)) : OnlyTypeErrors (first >>= next) := by
  intro cause thrown
  rcases bind_error.mp thrown with thrown | ⟨value, -, thrown⟩
  · exact before cause thrown
  · exact after value cause thrown

theorem map {first : Except Thrown α} (f : α → β) (before : OnlyTypeErrors first) :
    OnlyTypeErrors (f <$> first) := by
  rw [map_eq_pure_bind]
  exact before.bind fun value => .pure (f value)

theorem cast (read : Json → Option α) (value : Json) : OnlyTypeErrors (cast read value) := by
  intro cause thrown
  unfold Dart.cast at thrown
  split at thrown
  · cases thrown
  · exact (Except.error.inj thrown).symm

theorem castNullable (read : Json → Option α) (value : Json) :
    OnlyTypeErrors (castNullable read value) := by
  unfold Dart.castNullable
  split
  · exact .pure none
  · exact .map some (.cast read value)

theorem mapM {f : α → Except Thrown β} (each : ∀ element, OnlyTypeErrors (f element))
    (elements : List α) : OnlyTypeErrors (elements.mapM f) := by
  induction elements with
  | nil => exact .pure []
  | cons element rest ih =>
    rw [List.mapM_cons]
    exact (each element).bind fun result => ih.bind fun results => .pure (result :: results)

end OnlyTypeErrors

/-- The value has an index operator. -/
def Json.hasIndex : Json → Bool
  | .map _ | .list _ | .string _ => true
  | .null | .bool _ | .num _ => false

theorem index_error {value : Json} {key : String} {cause : Thrown} :
    value.index key = .error cause ↔ value.map? = none ∧
      cause = if value.hasIndex then .typeError else .noSuchMethodError := by
  cases value <;> simp [Json.index, Json.map?, Json.hasIndex, eq_comm]

/-- A nullable value as JSON. -/
def nullable (encode : α → Json) : Option α → Json
  | some value => encode value
  | none => .null

/-- A nullable cast reads back what was encoded. -/
theorem castNullable_nullable (read : Json → Option α) (encode : α → Json)
    (inverse : ∀ value, read (encode value) = some value) (blank : read .null = none)
    (value : Option α) : castNullable read (nullable encode value) = .ok value := by
  rw [castNullable_ok read blank]
  cases value with
  | none => exact ⟨.inl rfl, blank⟩
  | some value => exact ⟨.inr (by simp [nullable, inverse]), inverse value⟩

theorem mapM_encoded (decode : β → Except Thrown α) (encode : α → β)
    (inverse : ∀ item, decode (encode item) = .ok item) (items : List α) :
    (items.map encode).mapM decode = .ok items := by
  induction items with
  | nil => rfl
  | cons item items ih => rw [List.map_cons, List.mapM_cons, inverse, ih]; rfl

end Dart
