import Mathlib.Data.List.Forall2

/-! The part of Dart that decoders of JSON rest on: decoded values, the casts
that `dynamic` values undergo, and what is thrown when one fails. Every read of
a value is one of `bool?`, `int?`, and so on; a cast is such a read or a throw. -/
namespace Dart
variable {α β : Type}

/-- A double by its bits. Decoders only move doubles about. -/
structure Double where
  bits : UInt64
deriving DecidableEq, Repr

inductive Number where
  | int (value : Int)
  | double (value : Double)
deriving DecidableEq, Repr

/-- What `jsonDecode` returns. An object is its list of entries. -/
inductive Json where
  | null
  | bool (value : Bool)
  | num (value : Number)
  | string (value : String)
  | list (elements : List Json)
  | map (entries : List (String × Json))
deriving Repr

/-- `Map<String, dynamic>` -/
abbrev JsonMap := List (String × Json)

/-- What a program throws. A wrapped error is an `Exception` whose text ends in
the text of its cause. -/
inductive Thrown where
  | typeError
  | noSuchMethodError
  | nullCheck
  | exception (message : String)
  | wrapped (message : String) (cause : Thrown)
deriving DecidableEq, Repr

namespace Json

def bool? : Json → Option Bool
  | .bool value => some value
  | _ => none

def int? : Json → Option Int
  | .num (.int value) => some value
  | _ => none

def num? : Json → Option Number
  | .num value => some value
  | _ => none

def string? : Json → Option String
  | .string value => some value
  | _ => none

def list? : Json → Option (List Json)
  | .list elements => some elements
  | _ => none

def map? : Json → Option JsonMap
  | .map entries => some entries
  | _ => none

/-- `value == null` -/
def isNull : Json → Bool
  | .null => true
  | _ => false

/-- `a ?? b` -/
def orElse (first second : Json) : Json := if first.isNull then second else first

end Json

/-- `json[key]`: an absent key reads as null. -/
def JsonMap.get (json : JsonMap) (key : String) : Json := (json.lookup key).getD .null

/-- `value[key]` on a `dynamic` value. Lists and strings have an index operator
too, but it takes an integer. -/
def Json.index (value : Json) (key : String) : Except Thrown Json :=
  match value with
  | .map entries => .ok (JsonMap.get entries key)
  | .list _ | .string _ => .error .typeError
  | .null | .bool _ | .num _ => .error .noSuchMethodError

/-- The cast of a `dynamic` value to a type without null. -/
def cast (read : Json → Option α) (value : Json) : Except Thrown α :=
  match read value with
  | some result => .ok result
  | none => .error .typeError

/-- The cast of a `dynamic` value to a nullable type. -/
def castNullable (read : Json → Option α) (value : Json) : Except Thrown (Option α) :=
  if value.isNull then .ok none else (cast read value).map some

/-- `value!` -/
def nonNull : Option α → Except Thrown α
  | some value => .ok value
  | none => .error .nullCheck

/-- The value is null or of the type that `read` reads. -/
def Admits (read : Json → Option α) (value : Json) : Prop :=
  value.isNull = true ∨ (read value).isSome = true

theorem bind_ok {first : Except Thrown α} {next : α → Except Thrown β} {result : β} :
    (first >>= next) = .ok result ↔ ∃ value, first = .ok value ∧ next value = .ok result := by
  cases first <;> simp [bind, Except.bind]

theorem map_ok {first : Except Thrown α} {f : α → β} {result : β} :
    first.map f = .ok result ↔ ∃ value, first = .ok value ∧ f value = result := by
  cases first <;> simp [Except.map]

theorem nonNull_ok {value : Option α} {result : α} :
    nonNull value = .ok result ↔ value = some result := by
  cases value <;> simp [nonNull]

theorem cast_ok {read : Json → Option α} {value : Json} {result : α} :
    cast read value = .ok result ↔ read value = some result := by
  unfold cast
  cases read value <;> simp

/-- A nullable cast never changes what it reads; it only refuses other types. -/
theorem castNullable_ok (read : Json → Option α) (blank : read .null = none) {value : Json}
    {result : Option α} :
    castNullable read value = .ok result ↔ Admits read value ∧ read value = result := by
  unfold castNullable Admits
  cases value with
  | null => simp [Json.isNull, blank]
  | _ =>
    simp only [Json.isNull, Bool.false_eq_true, if_false, map_ok, cast_ok, false_or,
      Option.isSome_iff_exists]
    constructor
    · rintro ⟨found, reads, rfl⟩
      exact ⟨⟨found, reads⟩, reads⟩
    · rintro ⟨⟨found, reads⟩, rfl⟩
      exact ⟨found, reads, reads.symm⟩

theorem Admits.isSome_iff {read : Json → Option α} (blank : read .null = none)
    (admits : Admits read value) : (read value).isSome = true ↔ value.isNull = false := by
  cases value with
  | null => simp [Json.isNull, blank]
  | _ => simpa [Admits, Json.isNull] using admits

theorem Json.isNull_orElse (first second : Json) :
    (first.orElse second).isNull = (first.isNull && second.isNull) := by
  cases first <;> simp [Json.orElse, Json.isNull]

theorem index_ok {value found : Json} {key : String} :
    value.index key = .ok found ↔
      ∃ entries, value = .map entries ∧ JsonMap.get entries key = found := by
  cases value <;> simp [Json.index]

theorem map?_eq_some {value : Json} {entries : JsonMap} :
    value.map? = some entries ↔ value = .map entries := by
  cases value <;> simp [Json.map?]

theorem list?_eq_some {value : Json} {elements : List Json} :
    value.list? = some elements ↔ value = .list elements := by
  cases value <;> simp [Json.list?]

/-- `.map(f).toList()` succeeds exactly with one result for each element, in order. -/
theorem mapM_ok {f : α → Except Thrown β} {elements : List α} {results : List β} :
    elements.mapM f = .ok results ↔
      List.Forall₂ (fun element result => f element = .ok result) elements results := by
  induction elements generalizing results with
  | nil => cases results <;> simp [pure, Except.pure]
  | cons element rest ih =>
    rw [List.mapM_cons, List.forall₂_cons_left_iff]
    simp only [bind_ok, ih, pure, Except.pure, Except.ok.injEq]
    constructor
    · rintro ⟨result, first, later, following, rfl⟩
      exact ⟨result, later, first, following, rfl⟩
    · rintro ⟨result, later, first, following, rfl⟩
      exact ⟨result, first, later, following, rfl⟩

/-- Each element has a result exactly when all of them together do. -/
theorem exists_forall₂_iff {R : α → β → Prop} {elements : List α} :
    (∃ results, List.Forall₂ R elements results) ↔
      ∀ element ∈ elements, ∃ result, R element result := by
  constructor
  · rintro ⟨results, related⟩ element member
    induction related with
    | nil => cases member
    | cons first _ ih =>
      rcases List.mem_cons.mp member with rfl | later
      · exact ⟨_, first⟩
      · exact ih later
  · intro succeeds
    induction elements with
    | nil => exact ⟨[], .nil⟩
    | cons element rest ih =>
      obtain ⟨result, first⟩ := succeeds element List.mem_cons_self
      obtain ⟨results, related⟩ := ih fun e member => succeeds e (List.mem_cons_of_mem _ member)
      exact ⟨result :: results, .cons first related⟩

/-- A property that related elements share holds of both lists or of neither. -/
theorem forall_mem_iff_of_forall₂ {R : α → β → Prop} {P : α → Prop} {Q : β → Prop}
    (same : ∀ element result, R element result → (P element ↔ Q result))
    (related : List.Forall₂ R elements results) :
    (∀ element ∈ elements, P element) ↔ ∀ result ∈ results, Q result := by
  induction related with
  | nil => simp
  | cons first _ ih => simp only [List.forall_mem_cons, same _ _ first, ih]

/-- The value is an object that the decoder reads as the item. -/
def Decoded (fromJson : JsonMap → Except Thrown α) (value : Json) (item : α) : Prop :=
  ∃ object, value = .map object ∧ fromJson object = .ok item

theorem decode_ok {fromJson : JsonMap → Except Thrown α} {value : Json} {item : α} :
    (do fromJson (← cast Json.map? value)) = .ok item ↔ Decoded fromJson value item := by
  simp only [bind_ok, cast_ok, map?_eq_some, Decoded]

theorem decodes_iff {fromJson : JsonMap → Except Thrown α} {accepts : JsonMap → Prop}
    (succeeds : ∀ object, (∃ item, fromJson object = .ok item) ↔ accepts object) (value : Json) :
    (∃ item, Decoded fromJson value item) ↔ ∃ object, value = .map object ∧ accepts object := by
  simp only [Decoded, ← succeeds]
  constructor
  · rintro ⟨item, object, rfl, decodes⟩
    exact ⟨object, rfl, item, decodes⟩
  · rintro ⟨object, rfl, item, decodes⟩
    exact ⟨item, object, rfl, decodes⟩

/-- What holds of a decoded item exactly by what holds of its object does so for
whole lists. -/
theorem forall_decoded_iff {fromJson : JsonMap → Except Thrown α} {P : JsonMap → Prop} {Q : α → Prop}
    (same : ∀ object item, fromJson object = .ok item → (Q item ↔ P object))
    (decoded : List.Forall₂ (Decoded fromJson) elements items) :
    (∀ item ∈ items, Q item) ↔ ∀ object, .map object ∈ elements → P object := by
  have related := forall_mem_iff_of_forall₂
    (P := fun element => ∀ object, element = .map object → P object) (Q := Q) ?_ decoded
  · rw [← related]
    exact ⟨fun holds object member => holds _ member object rfl,
      fun holds element member object same => holds object (same ▸ member)⟩
  · rintro _ item ⟨object, rfl, decodes⟩
    simpa using (same object item decodes).symm

/-- Some tail of the text starts with the part. -/
def occurs (part : List Char) : List Char → Bool
  | [] => part.isEmpty
  | first :: rest => part.isPrefixOf (first :: rest) || occurs part rest

/-- `text.contains(part)` -/
def contains (text part : String) : Bool := occurs part.toList text.toList

theorem occurs_iff {part text : List Char} : occurs part text = true ↔ part <:+: text := by
  induction text with
  | nil => simp [occurs]
  | cons first rest ih =>
    rw [occurs, Bool.or_eq_true, ih, List.isPrefixOf_iff_prefix, List.infix_cons_iff]

theorem contains_iff {text part : String} :
    contains text part = true ↔ part.toList <:+: text.toList :=
  occurs_iff

/-- A nullable string inside an interpolation: null reads as `null`. -/
def interpolate : Option String → String
  | some text => text
  | none => "null"

/-- A nullable `bool` inside an interpolation. -/
def interpolateBool : Option Bool → String
  | some true => "true"
  | some false => "false"
  | none => "null"

end Dart
