import Mathlib.Data.List.DropRight
import Mathlib.Data.List.Infix

/-! Finite runs of a partial machine driven by events. A run is the list of the
events taken so far, newest last, so that a property of a state may speak of
the whole history that led to it. -/
namespace Transition
universe u v w x
variable {S : Type u} {E : Type v} {T : Type w} {F : Type x}

inductive Reaches (step : S → E → Option S) (start : S) : List E → S → Prop where
  | refl : Reaches step start [] start
  | next : Reaches step start log s → step s e = some t → Reaches step start (log ++ [e]) t

/-- The machine as a function of its events; `none` once an event is refused. -/
def run (step : S → E → Option S) (start : S) (log : List E) : Option S :=
  log.foldlM step start

theorem run_concat (step : S → E → Option S) (start : S) (log : List E) (e : E) :
    run step start (log ++ [e]) = (run step start log).bind (step · e) := by
  simp [run, List.foldlM_append]

theorem run_cons (step : S → E → Option S) (start : S) (e : E) (log : List E) :
    run step start (e :: log) = (step start e).bind (run step · log) := by
  simp [run]

theorem run_append (step : S → E → Option S) (start : S) (first second : List E) :
    run step start (first ++ second) = (run step start first).bind (run step · second) := by
  simp [run, List.foldlM_append]

namespace Reaches
variable {step : S → E → Option S} {start s t : S} {log pre : List E}

theorem run_eq (path : Reaches step start log s) : run step start log = some s := by
  induction path with
  | refl => rfl
  | next _ stepped ih => rw [run_concat, ih, Option.bind_some, stepped]

theorem of_run (executed : run step start log = some s) : Reaches step start log s := by
  induction log using List.reverseRecOn generalizing s with
  | nil => cases executed; exact .refl
  | append_singleton log e ih =>
    rw [run_concat, Option.bind_eq_some_iff] at executed
    obtain ⟨middle, earlier, stepped⟩ := executed
    exact .next (ih earlier) stepped

theorem unique (first : Reaches step start log s) (second : Reaches step start log t) : s = t :=
  Option.some.inj (first.run_eq.symm.trans second.run_eq)

theorem split (path : Reaches step start (log ++ [e]) t) :
    ∃ s, Reaches step start log s ∧ step s e = some t := by
  have executed := path.run_eq
  rw [run_concat, Option.bind_eq_some_iff] at executed
  obtain ⟨s, earlier, stepped⟩ := executed
  exact ⟨s, of_run earlier, stepped⟩

theorem append (first : Reaches step start pre s) (second : Reaches step s log t) :
    Reaches step start (pre ++ log) t := by
  apply of_run
  rw [run_append, first.run_eq, Option.bind_some, second.run_eq]

/-- A run by its first event. -/
theorem cons_iff : Reaches step start (e :: log) t ↔
    ∃ s, step start e = some s ∧ Reaches step s log t := by
  constructor
  · intro path
    have executed := path.run_eq
    rw [run_cons, Option.bind_eq_some_iff] at executed
    obtain ⟨s, stepped, later⟩ := executed
    exact ⟨s, stepped, of_run later⟩
  · rintro ⟨s, stepped, later⟩
    apply of_run
    rw [run_cons, stepped, Option.bind_some, later.run_eq]

/-- Every prefix of a run is a run. -/
theorem of_prefix (path : Reaches step start log s) (shorter : pre <+: log) :
    ∃ t, Reaches step start pre t := by
  induction path with
  | refl => exact ⟨start, List.prefix_nil.mp shorter ▸ .refl⟩
  | next earlier stepped ih =>
    rcases List.prefix_concat_iff.mp shorter with rfl | shorter
    · exact ⟨_, earlier.next stepped⟩
    · exact ih shorter

/-- An event of a run is not refused where the run takes it. -/
theorem step_of_prefix (path : Reaches step start log s) (shorter : pre ++ [e] <+: log)
    (visited : Reaches step start pre t) : ∃ u, step t e = some u := by
  obtain ⟨u, longer⟩ := path.of_prefix shorter
  obtain ⟨before, earlier, stepped⟩ := longer.split
  exact ⟨u, visited.unique earlier ▸ stepped⟩

/-- The same of a translated run. -/
theorem step_of_prefix_map {translate : F → E} {log pre : List F}
    (path : Reaches step start (log.map translate) s) (shorter : pre ++ [e] <+: log)
    (visited : Reaches step start (pre.map translate) t) : ∃ u, step t (translate e) = some u := by
  have longer := shorter.map translate
  rw [List.map_append, List.map_singleton] at longer
  exact path.step_of_prefix longer visited

theorem invariant {I : List E → S → Prop} (initial : I [] start)
    (preserves : ∀ {log s e t}, Reaches step start log s → I log s → step s e = some t →
      I (log ++ [e]) t)
    (path : Reaches step start log s) : I log s := by
  induction path with
  | refl => exact initial
  | next earlier stepped ih => exact preserves earlier ih stepped

end Reaches

/-- `Q` holds of every state visited by the run, with the history up to it. -/
def Throughout (step : S → E → Option S) (start : S) (log : List E)
    (Q : List E → S → Prop) : Prop :=
  ∀ pre s, pre <+: log → Reaches step start pre s → Q pre s

/-- `P` holds of every step of the run: of its history, its source and its event. -/
def Along (step : S → E → Option S) (start : S) (log : List E)
    (P : List E → S → E → Prop) : Prop :=
  ∀ pre s e, pre ++ [e] <+: log → Reaches step start pre s → P pre s e

section
variable {step : S → E → Option S} {start s t : S} {log : List E}

theorem Throughout.last {Q : List E → S → Prop} (holds : Throughout step start log Q)
    (path : Reaches step start log s) : Q log s :=
  holds log s (List.prefix_refl _) path

theorem along_nil (P : List E → S → E → Prop) : Along step start [] P := by
  intro pre s e shorter
  simp at shorter

/-- A property of the events alone holds along every run of such events. -/
theorem along_of_events {P : E → Prop} (holds : ∀ e ∈ log, P e) :
    Along step start log fun _ _ e => P e := by
  intro pre s e shorter _
  exact holds e (shorter.mem (List.mem_append_right _ (List.mem_singleton.mpr rfl)))

theorem along_concat {P : List E → S → E → Prop} (path : Reaches step start log s) :
    Along step start (log ++ [e]) P ↔ Along step start log P ∧ P log s e := by
  constructor
  · intro holds
    exact ⟨fun pre u f shorter => holds pre u f (shorter.trans (List.prefix_append _ _)),
      holds log s e (List.prefix_refl _) path⟩
  · rintro ⟨earlier, last⟩ pre u f shorter visited
    rcases List.prefix_concat_iff.mp shorter with same | shorter
    · obtain ⟨rfl, event⟩ := List.append_inj' same rfl
      obtain rfl := List.singleton_inj.mp event
      exact visited.unique path ▸ last
    · exact earlier pre u f shorter visited

theorem along_singleton {P : List E → S → E → Prop} :
    Along step start [e] P ↔ P [] start e := by
  change Along step start ([] ++ [e]) P ↔ _
  rw [along_concat .refl]
  exact and_iff_right (along_nil P)

/-- A run by its first step, for runs that are written out. -/
theorem Along.cons {P : List E → S → E → Prop} (stepped : step start e = some s)
    (first : P [] start e) (later : Along step s log fun pre => P (e :: pre)) :
    Along step start (e :: log) P := by
  intro pre t f shorter visited
  cases pre with
  | nil =>
    obtain rfl := visited.unique .refl
    obtain rfl := (List.cons_prefix_cons.mp shorter).1
    exact first
  | cons head pre =>
    obtain ⟨rfl, rest⟩ := List.cons_prefix_cons.mp shorter
    obtain ⟨u, again, visited⟩ := Reaches.cons_iff.mp visited
    obtain rfl := Option.some.inj (again.symm.trans stepped)
    exact later pre t f rest visited

theorem Along.of_prefix {P : List E → S → E → Prop} (holds : Along step start log P)
    (shorter : pre <+: log) : Along step start pre P :=
  fun before s e earlier => holds before s e (earlier.trans shorter)

theorem throughout_nil {Q : List E → S → Prop} : Throughout step start [] Q ↔ Q [] start := by
  constructor
  · intro holds
    exact holds [] start (List.prefix_refl _) .refl
  · intro initial pre s shorter visited
    obtain rfl := List.prefix_nil.mp shorter
    exact visited.unique .refl ▸ initial

theorem throughout_concat {Q : List E → S → Prop} (path : Reaches step start (log ++ [e]) t) :
    Throughout step start (log ++ [e]) Q ↔ Throughout step start log Q ∧ Q (log ++ [e]) t := by
  constructor
  · intro holds
    exact ⟨fun pre u shorter => holds pre u (shorter.trans (List.prefix_append _ _)),
      holds.last path⟩
  · rintro ⟨earlier, last⟩ pre u shorter visited
    rcases List.prefix_concat_iff.mp shorter with rfl | shorter
    · exact visited.unique path ▸ last
    · exact earlier pre u shorter visited

/-- The exact-condition rule. When each step from a good state leads to a good
state precisely if it meets `P`, a run stays good precisely if all its steps meet `P`. -/
theorem throughout_iff_along {Q : List E → S → Prop} {P : List E → S → E → Prop}
    (initial : Q [] start)
    (exact_step : ∀ {pre s e t}, pre ++ [e] <+: log → Reaches step start pre s → Q pre s →
      step s e = some t → (Q (pre ++ [e]) t ↔ P pre s e))
    (path : Reaches step start log s) :
    Throughout step start log Q ↔ Along step start log P := by
  induction path with
  | refl => exact ⟨fun _ => along_nil P, fun _ => throughout_nil.mpr initial⟩
  | @next log s e t earlier stepped ih =>
    have ih := ih fun shorter => exact_step (shorter.trans (List.prefix_append _ _))
    rw [throughout_concat (earlier.next stepped), along_concat earlier]
    constructor
    · rintro ⟨good, last⟩
      exact ⟨ih.mp good,
        (exact_step (List.prefix_refl _) earlier (good.last earlier) stepped).mp last⟩
    · rintro ⟨met, last⟩
      have good := ih.mpr met
      exact ⟨good, (exact_step (List.prefix_refl _) earlier (good.last earlier) stepped).mpr last⟩

/-- What every step of a kind preserves holds along a run of steps of that kind. -/
theorem Reaches.invariant_along {I : List E → S → Prop} {P : List E → S → E → Prop}
    (initial : I [] start)
    (preserves : ∀ {log s e t}, Reaches step start log s → P log s e → I log s →
      step s e = some t → I (log ++ [e]) t)
    (path : Reaches step start log s) (along : Along step start log P) : I log s := by
  induction path with
  | refl => exact initial
  | next earlier stepped ih =>
    obtain ⟨before, last⟩ := (along_concat earlier).mp along
    exact preserves earlier last (ih before) stepped

theorem Throughout.mono {Q R : List E → S → Prop} (holds : Throughout step start log Q)
    (weaker : ∀ {pre s}, Reaches step start pre s → Q pre s → R pre s) :
    Throughout step start log R :=
  fun pre s shorter visited => weaker visited (holds pre s shorter visited)

theorem Along.mono {P R : List E → S → E → Prop} (holds : Along step start log P)
    (weaker : ∀ {pre s e}, Reaches step start pre s → P pre s e → R pre s e) :
    Along step start log R :=
  fun pre s e shorter visited => weaker visited (holds pre s e shorter visited)

end

/-- A projection under which every event is either invisible or an event of
the smaller machine carries runs to runs of the visible events. -/
theorem Reaches.project {step : S → E → Option S} {small : T → F → Option T}
    (project : S → T) (visible : E → Option F)
    (simulates : ∀ {s e t}, step s e = some t →
      match visible e with
      | none => project t = project s
      | some f => small (project s) f = some (project t))
    (path : Reaches step start log s) :
    Reaches small (project start) (log.filterMap visible) (project s) := by
  induction path with
  | refl => exact .refl
  | @next log s e t earlier stepped ih =>
    have simulated := simulates stepped
    cases shown : visible e with
    | none =>
      simp only [shown] at simulated
      simpa [List.filterMap_append, shown, simulated] using ih
    | some f =>
      simp only [shown] at simulated
      simpa [List.filterMap_append, shown] using ih.next simulated

/-- When every step of the large machine is the image of a step of the small
one, its runs are exactly the images of the small machine's runs. -/
theorem reaches_map {step : S → E → Option S} {small : T → F → Option T}
    (render : T → S) (translate : E → F)
    (simulates : ∀ t e, step (render t) e = (small t (translate e)).map render) :
    Reaches step (render start) log s ↔
      ∃ t, Reaches small start (log.map translate) t ∧ s = render t := by
  constructor
  · intro path
    induction path with
    | refl => exact ⟨start, .refl, rfl⟩
    | @next log s e u earlier stepped ih =>
      obtain ⟨t, small_path, rfl⟩ := ih
      rw [simulates, Option.map_eq_some_iff] at stepped
      obtain ⟨t', small_step, rfl⟩ := stepped
      exact ⟨t', by simpa using small_path.next small_step, rfl⟩
  · rintro ⟨t, path, rfl⟩
    induction log using List.reverseRecOn generalizing t with
    | nil =>
      obtain rfl := path.unique .refl
      exact .refl
    | append_singleton log e ih =>
      simp only [List.map_append, List.map_cons, List.map_nil] at path
      obtain ⟨t', earlier, stepped⟩ := path.split
      apply (ih t' earlier).next
      rw [simulates, stepped, Option.map_some]

section
variable {step : S → E → Option S} {small : T → F → Option T} {render : T → S} {translate : E → F}
  (simulates : ∀ t e, step (render t) e = (small t (translate e)).map render)
include simulates

theorem throughout_map {Q : List E → S → Prop} {R : List F → T → Prop}
    (same : ∀ pre t, pre <+: log → Reaches small start (pre.map translate) t →
      (Q pre (render t) ↔ R (pre.map translate) t)) :
    Throughout step (render start) log Q ↔ Throughout small start (log.map translate) R := by
  constructor
  · intro holds pre t shorter visited
    obtain ⟨pre, source, rfl⟩ := List.prefix_map_iff.mp shorter
    have image := (reaches_map render translate simulates).mpr ⟨t, visited, rfl⟩
    exact (same pre t source visited).mp (holds pre _ source image)
  · intro holds pre s shorter visited
    obtain ⟨t, small_path, rfl⟩ := (reaches_map render translate simulates).mp visited
    exact (same pre t shorter small_path).mpr (holds _ t (shorter.map translate) small_path)

theorem Along.image {P : List E → S → E → Prop} {R : List F → T → F → Prop}
    (implies : ∀ pre t e, pre ++ [e] <+: log → Reaches small start (pre.map translate) t →
      P pre (render t) e → R (pre.map translate) t (translate e))
    (holds : Along step (render start) log P) : Along small start (log.map translate) R := by
  intro pre t f shorter visited
  obtain ⟨whole, source, same_events⟩ := List.prefix_map_iff.mp shorter
  obtain ⟨pre, last, rfl, rfl, mapped⟩ := List.append_eq_map_iff.mp same_events
  obtain ⟨e, rfl, rfl⟩ := List.map_eq_singleton_iff.mp mapped
  have image := (reaches_map render translate simulates).mpr ⟨t, visited, rfl⟩
  exact implies pre t e source visited (holds pre _ e source image)

theorem along_map {P : List E → S → E → Prop} {R : List F → T → F → Prop}
    (same : ∀ pre t e, pre ++ [e] <+: log → Reaches small start (pre.map translate) t →
      (P pre (render t) e ↔ R (pre.map translate) t (translate e))) :
    Along step (render start) log P ↔ Along small start (log.map translate) R := by
  constructor
  · exact Along.image simulates fun pre t e shorter visited => (same pre t e shorter visited).mp
  · intro holds pre s e shorter visited
    obtain ⟨t, small_path, rfl⟩ := (reaches_map render translate simulates).mp visited
    have image := shorter.map translate
    rw [List.map_append, List.map_singleton] at image
    exact (same pre t e shorter small_path).mpr (holds _ t _ image small_path)

end

end Transition
