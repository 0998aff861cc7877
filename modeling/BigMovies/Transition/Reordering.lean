import BigMovies.Transition.Runs
import Mathlib.Logic.Relation

/-! Reordering a run. When two events commute up to a difference that no later
event can see, a run that takes them the other way round ends up alike, however
often and wherever in the run this is done. -/
namespace Transition
universe u v w
variable {S : Type u} {E : Type v} {F : Type w}

/-- The second history takes two neighbouring independent events of the first
the other way round. -/
inductive Swaps (independent : E → E → Prop) : List E → List E → Prop where
  | swap (pre : List E) (a b : E) (post : List E) (apart : independent a b) :
    Swaps independent (pre ++ a :: b :: post) (pre ++ b :: a :: post)

/-- The same after any number of swaps. -/
def Reorders (independent : E → E → Prop) : List E → List E → Prop :=
  Relation.ReflTransGen (Swaps independent)

/-- A relation of states that later events respect, and a relation of events
whose order only such states can tell. -/
structure Commutes (step : S → E → Option S) (alike : S → S → Prop)
    (independent : E → E → Prop) : Prop where
  refl : ∀ s, alike s s
  trans : ∀ {s t u}, alike s t → alike t u → alike s u
  follows : ∀ {s t e s'}, alike s t → step s e = some s' → ∃ t', step t e = some t' ∧ alike s' t'
  swaps : ∀ {s a b middle t}, independent a b → step s a = some middle → step middle b = some t →
    ∃ middle' t', step s b = some middle' ∧ step middle' a = some t' ∧ alike t t'

namespace Commutes
variable {step : S → E → Option S} {alike : S → S → Prop} {independent : E → E → Prop}
  {start s t : S} {log other : List E}

/-- States that are alike stay so under the same events. -/
theorem run_follows (commutes : Commutes step alike independent) (same : alike s t)
    (executed : run step s log = some s') : ∃ t', run step t log = some t' ∧ alike s' t' := by
  induction log generalizing s t with
  | nil =>
    cases executed
    exact ⟨t, rfl, same⟩
  | cons e log ih =>
    rw [run_cons, Option.bind_eq_some_iff] at executed
    obtain ⟨middle, stepped, rest⟩ := executed
    obtain ⟨middle', stepped', same'⟩ := commutes.follows same stepped
    obtain ⟨t', rest', final⟩ := ih same' rest
    refine ⟨t', ?_, final⟩
    rw [run_cons, stepped', Option.bind_some, rest']

theorem run_swaps (commutes : Commutes step alike independent) (swaps : Swaps independent log other)
    (executed : run step start log = some s) : ∃ t, run step start other = some t ∧ alike s t := by
  obtain ⟨pre, a, b, post, apart⟩ := swaps
  simp only [run_append, run_cons, Option.bind_eq_some_iff] at executed ⊢
  obtain ⟨before, earlier, middle, first, after, second, rest⟩ := executed
  obtain ⟨middle', after', second', first', same⟩ := commutes.swaps apart first second
  obtain ⟨t, rest', final⟩ := commutes.run_follows same rest
  exact ⟨t, ⟨before, earlier, middle', second', after', first', rest'⟩, final⟩

/-- A reordered run is a run, and ends in a state like that of the first. -/
theorem reaches_reorders (commutes : Commutes step alike independent)
    (reordered : Reorders independent log other) (path : Reaches step start log s) :
    ∃ t, Reaches step start other t ∧ alike s t := by
  induction reordered with
  | refl => exact ⟨s, path, commutes.refl s⟩
  | tail _ swaps ih =>
    obtain ⟨t, reached, same⟩ := ih
    obtain ⟨u, executed, next⟩ := commutes.run_swaps swaps reached.run_eq
    exact ⟨u, .of_run executed, commutes.trans same next⟩

end Commutes

/-- Reordering a history reorders its translation. -/
theorem Reorders.map {independent : E → E → Prop} {independent' : F → F → Prop} (translate : E → F)
    (keeps : ∀ {a b}, independent a b → independent' (translate a) (translate b))
    (reordered : Reorders independent log other) :
    Reorders independent' (log.map translate) (other.map translate) := by
  induction reordered with
  | refl => exact .refl
  | tail _ swaps ih =>
    obtain ⟨pre, a, b, post, apart⟩ := swaps
    apply ih.tail
    simpa using Swaps.swap (pre.map translate) _ _ (post.map translate) (keeps apart)

end Transition
