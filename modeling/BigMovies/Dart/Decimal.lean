import Mathlib.Data.List.Basic

/-! Integers inside an interpolation: which characters they are written with,
and that they can be told apart by how they are written. -/
namespace Dart

/-- A nullable integer inside an interpolation: null reads as `null`. -/
def interpolateInt : Option Int → String
  | some value => toString value
  | none => "null"

theorem toList_toString (value : Int) : (toString value).toList =
    if 0 ≤ value then Nat.toDigits 10 value.toNat else '-' :: Nat.toDigits 10 (-value).toNat := by
  rw [Int.toString_eq_repr, Int.repr_eq_if]
  split
  · exact Nat.toList_repr
  · simp [Nat.toList_repr]

/-- Only the first character of an integer can be a sign. -/
theorem toList_toString_cons (value : Int) :
    ∃ first rest, (toString value).toList = first :: rest ∧ ∀ c ∈ rest, c.isDigit = true := by
  have digits : ∀ n, ∀ c ∈ Nat.toDigits 10 n, c.isDigit = true := fun n c member =>
    Nat.isDigit_of_mem_toDigits (by decide) (by decide) member
  rw [toList_toString]
  split
  · obtain ⟨first, rest, written⟩ := List.exists_cons_of_ne_nil
      (Nat.toDigits_ne_nil (n := value.toNat) (b := 10))
    refine ⟨first, rest, written, fun c member => digits value.toNat c ?_⟩
    rw [written]
    exact List.mem_cons_of_mem _ member
  · exact ⟨'-', _, rfl, digits _⟩

theorem toDigits_injective (same : Nat.toDigits 10 first = Nat.toDigits 10 second) :
    first = second := by
  have read := congrArg (Nat.ofDigitChars 10 · 0) same
  simpa only [Nat.ofDigitChars_ten_toDigits] using read

/-- A number without a sign does not start like one with a sign. -/
theorem toDigits_ne_signed (n : Nat) (rest : List Char) : Nat.toDigits 10 n ≠ '-' :: rest := by
  intro same
  have sign : '-' ∈ Nat.toDigits 10 n := by simp [same]
  have digit := Nat.isDigit_of_mem_toDigits (by decide) (by decide) sign
  cases digit

theorem toString_injective {first second : Int} (same : toString first = toString second) :
    first = second := by
  have lists := congrArg String.toList same
  rw [toList_toString, toList_toString] at lists
  split at lists <;> split at lists
  · have digits := toDigits_injective lists
    omega
  · exact absurd lists (toDigits_ne_signed _ _)
  · exact absurd lists.symm (toDigits_ne_signed _ _)
  · have digits := toDigits_injective (List.cons.inj lists).2
    omega

/-- The characters of an integer, or of `null`. -/
theorem interpolateInt_characters (value : Option Int)
    (member : c ∈ (interpolateInt value).toList) : c.isDigit = true ∨ c ∈ "-nul".toList := by
  cases value with
  | none =>
    have letters : "null".toList ⊆ "-nul".toList := by decide
    exact .inr (letters member)
  | some value =>
    rw [interpolateInt, toList_toString] at member
    split at member
    · exact .inl (Nat.isDigit_of_mem_toDigits (by decide) (by decide) member)
    · rcases List.mem_cons.mp member with rfl | digit
      · exact .inr (by decide)
      · exact .inl (Nat.isDigit_of_mem_toDigits (by decide) (by decide) digit)

theorem toString_ne_null (value : Int) : toString value ≠ "null" := by
  intro same
  have letter : 'n' ∈ (toString value).toList := by rw [same]; decide
  rw [toList_toString] at letter
  split at letter
  · cases Nat.isDigit_of_mem_toDigits (by decide) (by decide) letter
  · rcases List.mem_cons.mp letter with sign | digit
    · cases sign
    · cases Nat.isDigit_of_mem_toDigits (by decide) (by decide) digit

theorem interpolateInt_injective {first second : Option Int}
    (same : interpolateInt first = interpolateInt second) : first = second := by
  cases first with
  | none =>
    cases second with
    | none => rfl
    | some value => exact absurd same.symm (toString_ne_null value)
  | some value =>
    cases second with
    | none => exact absurd same (toString_ne_null value)
    | some other => rw [toString_injective same]

end Dart
