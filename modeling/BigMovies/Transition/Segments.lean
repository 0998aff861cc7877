import BigMovies.Transition.Runs
import Mathlib.Data.List.TakeDrop

/-! The part of a history after the last event of some kind. Positions count
events from one, so that position zero is the start of the history. -/
namespace Transition
universe u v w x
variable {E : Type u} {F : Type v} {α : Type w} {S : Type x}

/-- The events after the last marked one; the whole history if none is marked. -/
def since (marks : E → Bool) (log : List E) : List E := log.rtakeWhile (fun e => !marks e)

/-- The position of the last marked event, zero if there is none. -/
def lastMark (marks : E → Bool) (log : List E) : Nat := log.length - (since marks log).length

/-- What `read` finds in the events after the last marked one, oldest first. -/
def gathered (marks : E → Bool) (read : E → Option α) (log : List E) : List α :=
  (since marks log).filterMap read

variable {marks : E → Bool} {read : E → Option α}

theorem since_concat (log : List E) (e : E) :
    since marks (log ++ [e]) = if marks e then [] else since marks log ++ [e] := by
  rw [since, List.rtakeWhile_concat]
  cases marks e <;> rfl

theorem since_length_le (log : List E) : (since marks log).length ≤ log.length :=
  (List.rtakeWhile_suffix _ log).length_le

theorem lastMark_concat (log : List E) (e : E) :
    lastMark marks (log ++ [e]) = if marks e then log.length + 1 else lastMark marks log := by
  have shorter : (since marks log).length ≤ log.length := since_length_le log
  rw [lastMark, since_concat]
  cases marks e <;> simp [lastMark]

@[simp] theorem gathered_nil : gathered marks read [] = [] := rfl

theorem gathered_concat (log : List E) (e : E) :
    gathered marks read (log ++ [e]) =
      if marks e then [] else gathered marks read log ++ (read e).toList := by
  rw [gathered, since_concat]
  cases marked : marks e with
  | true => rfl
  | false => cases found : read e <;> simp [gathered, List.filterMap_append, found]

/-- What was read last since the last marked event. -/
theorem getLast?_gathered_concat (log : List E) (e : E) :
    (gathered marks read (log ++ [e])).getLast? =
      if marks e then none else (read e).or (gathered marks read log).getLast? := by
  rw [gathered_concat]
  cases marks e with
  | true => rfl
  | false => cases found : read e <;> simp

theorem getD_gathered_concat (log : List E) (e : E) (before : α) :
    (gathered marks read (log ++ [e])).getLast?.getD before =
      if marks e then before
      else (read e).getD ((gathered marks read log).getLast?.getD before) := by
  rw [getLast?_gathered_concat]
  cases marks e with
  | true => rfl
  | false => cases found : read e <;> rfl

theorem since_map (translate : E → F) (marks : F → Bool) (log : List E) :
    since marks (log.map translate) = (since (fun e => marks (translate e)) log).map translate := by
  induction log using List.reverseRecOn with
  | nil => rfl
  | append_singleton log e ih =>
    rw [List.map_append, List.map_singleton, since_concat, since_concat, ih]
    cases marks (translate e) <;> simp

theorem lastMark_map (translate : E → F) (marks : F → Bool) (log : List E) :
    lastMark marks (log.map translate) = lastMark (fun e => marks (translate e)) log := by
  simp [lastMark, since_map]

theorem gathered_map (translate : E → F) (marks : F → Bool) (read : F → Option α) (log : List E) :
    gathered marks read (log.map translate) =
      gathered (fun e => marks (translate e)) (fun e => read (translate e)) log := by
  simp [gathered, since_map, List.filterMap_map]

theorem mem_gathered {log : List E} {found : α} (member : found ∈ gathered marks read log) :
    ∃ e ∈ log, read e = some found := by
  obtain ⟨e, recent, reads⟩ := List.mem_filterMap.mp member
  exact ⟨e, (List.rtakeWhile_suffix _ log).mem recent, reads⟩

/-- What only marked events change has kept its value since the last one. -/
theorem unmarked_constant {g : List E → α}
    (stable : ∀ log e, marks e = false → g (log ++ [e]) = g log)
    (log : List E) (n : Nat) (recent : lastMark marks log ≤ n) : g (log.take n) = g log := by
  induction log using List.reverseRecOn with
  | nil => rw [List.take_nil]
  | append_singleton log e ih =>
    rw [lastMark_concat] at recent
    by_cases whole : log.length + 1 ≤ n
    · rw [List.take_of_length_le (by simpa using whole)]
    · cases marked : marks e with
      | true =>
        simp only [marked, if_true] at recent
        exact absurd recent whole
      | false =>
        simp only [marked, Bool.false_eq_true, if_false] at recent
        rw [List.take_append_of_le_length (by omega), ih recent, stable log e marked]

/-- When what is gathered is dated, none of it is older than the last marked
event throughout a run exactly when nothing older is ever read. -/
theorem recent_iff {step : S → E → Option S} (marks : E → Bool) (read : E → Option α)
    (date : α → Nat) (unmarked : ∀ e found, read e = some found → marks e = false)
    (path : Reaches step start log s) :
    Throughout step start log
        (fun pre _ => ∀ found ∈ gathered marks read pre, lastMark marks pre ≤ date found) ↔
      Along step start log
        (fun pre _ e => ∀ found, read e = some found → lastMark marks pre ≤ date found) := by
  refine throughout_iff_along (by simp) ?_ path
  intro pre s e t _ _ recent _
  rw [gathered_concat, lastMark_concat]
  cases reads : read e with
  | none =>
    cases marks e with
    | true => simp
    | false => simpa using recent
  | some found =>
    simp only [unmarked e found reads, Bool.false_eq_true, if_false, Option.toList_some,
      List.mem_append, List.mem_singleton, Option.some.injEq, forall_eq']
    constructor
    · intro holds
      exact holds found (.inr rfl)
    · rintro last other (earlier | rfl)
      · exact recent other earlier
      · exact last

end Transition
