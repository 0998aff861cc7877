import BigMovies.Feed.Ledger
import BigMovies.Transition.Reordering

/-! The flights of a feed are conserved. Every request that a history issues is
in the air or has landed, and none lands twice; and the order in which flights
land matters for nothing but the order of the answers. -/
namespace Feed
open Transition
universe u v w
variable {Q : Type u} {R : Type v} {A : Type w}

/-- The request that the last event of a history issued: that of the start for
the empty history, and none if the event landed a flight. -/
def issuedLast (P : Protocol Q R A) (q : Q) (log : List (Event Q R A)) : Option (Flight R) :=
  if (log.getLast?.bind Event.landed?).isNone then
    some ⟨log.length, P.dispatch (queryAfter q log) (completions log).length⟩
  else none

/-- The requests that a history issued, oldest first. -/
def issuedBy (P : Protocol Q R A) (q : Q) (log : List (Event Q R A)) : List (Flight R) :=
  log.inits.filterMap (issuedLast P q)

/-- The flights that a history landed, in landing order. -/
def landings (log : List (Event Q R A)) : List (Flight R) := log.filterMap Event.landed?

section
variable {P : Protocol Q R A} {q : Q} {log : List (Event Q R A)}

theorem issuedBy_concat (log : List (Event Q R A)) (e : Event Q R A) :
    issuedBy P q (log ++ [e]) = issuedBy P q log ++ (issuedLast P q (log ++ [e])).toList := by
  have longer : (log ++ [e]).inits = log.inits ++ [log ++ [e]] := by simp [List.inits_append]
  rw [issuedBy, longer, List.filterMap_append]
  cases issued : issuedLast P q (log ++ [e]) <;> simp [issuedBy, issued]

theorem landings_concat (log : List (Event Q R A)) (e : Event Q R A) :
    landings (log ++ [e]) = landings log ++ e.landed?.toList := by
  cases lands : e.landed? <;> simp [landings, lands]

theorem issuedLast_landing (lands : e.landed? = some flight) :
    issuedLast P q (log ++ [e]) = none := by
  simp [issuedLast, lands]

theorem issuedLast_issuing (lands : e.landed? = none) :
    issuedLast P q (log ++ [e]) = some ⟨log.length + 1, P.dispatch (queryAfter q (log ++ [e]))
      (completions (log ++ [e])).length⟩ := by
  simp [issuedLast, lands]

theorem issuedLast_ticket (issued : issuedLast P q log = some flight) :
    flight.ticket = log.length := by
  unfold issuedLast at issued
  split at issued
  · cases issued
    rfl
  · cases issued

/-- Tickets are handed out in order. -/
theorem issuedBy_ordered (log : List (Event Q R A)) :
    (issuedBy P q log).Pairwise (fun first second => first.ticket < second.ticket) ∧
      ∀ flight ∈ issuedBy P q log, flight.ticket ≤ log.length := by
  induction log using List.reverseRecOn with
  | nil => simp [issuedBy, issuedLast]
  | append_singleton log e ih =>
    obtain ⟨ordered, bounded⟩ := ih
    rw [issuedBy_concat]
    have latest : ∀ flight ∈ (issuedLast P q (log ++ [e])).toList,
        flight.ticket = log.length + 1 := by
      intro flight member
      simpa using issuedLast_ticket (Option.mem_toList.mp member)
    constructor
    · refine List.pairwise_append.mpr ⟨ordered, ?_, fun first older second newest => ?_⟩
      · cases issuedLast P q (log ++ [e]) <;> simp
      · have bound := bounded first older
        have ticket := latest second newest
        omega
    · intro flight member
      rw [List.length_append, List.length_singleton]
      rcases List.mem_append.mp member with older | newest
      · exact (bounded flight older).trans (Nat.le_succ _)
      · exact (latest flight newest).le

theorem issuedBy_nodup (log : List (Event Q R A)) : (issuedBy P q log).Nodup := by
  apply (issuedBy_ordered log).1.imp
  rintro first second earlier rfl
  exact Nat.lt_irrefl _ earlier

/-- Every event issues one request or lands one. -/
theorem issuedBy_length (log : List (Event Q R A)) :
    (issuedBy P q log).length + (landings log).length = 1 + log.length := by
  induction log using List.reverseRecOn with
  | nil => rfl
  | append_singleton log e ih =>
    rw [issuedBy_concat, landings_concat]
    simp only [List.length_append, List.length_singleton]
    cases lands : e.landed? with
    | none =>
      simp only [issuedLast_issuing lands, Option.toList_some, Option.toList_none,
        List.length_singleton, List.length_nil]
      omega
    | some flight =>
      simp only [issuedLast_landing lands, Option.toList_some, Option.toList_none,
        List.length_singleton, List.length_nil]
      omega

end

section
variable [DecidableEq R] {P : Protocol Q R A} {q : Q} {log : List (Event Q R A)} {s t : State Q R A}

theorem landed_perm (landed : List (Flight R)) (member : flight ∈ s.inflight) :
    (landed ++ [flight] ++ s.inflight.erase flight).Perm (landed ++ s.inflight) := by
  rw [List.append_assoc, List.singleton_append]
  exact (List.perm_cons_erase member).symm.append_left landed

/-- What a history issued is what it landed and what is still in the air. -/
theorem conserved (path : Reaches (step P) (start P q) log s) :
    (landings log ++ s.inflight).Perm (issuedBy P q log) := by
  induction path with
  | refl => exact List.Perm.refl _
  | @next log s e t earlier stepped ih =>
    have ledger := (Ledger.of_reaches earlier).next stepped
    have count : t.received.length = (completions (log ++ [e])).length := by
      rw [ledger.received, List.length_map]
    have clock := (Ledger.of_reaches earlier).clock
    rw [landings_concat, issuedBy_concat]
    obtain ⟨-, ⟨change, rfl, query, received, inflight⟩ | ⟨rfl, query, received, inflight⟩ |
      ⟨flight, answer, rfl, member, -, -, -, inflight⟩ | ⟨flight, rfl, member, -, -, inflight⟩⟩ :=
      step_cases stepped
    · rw [issuedLast_issuing rfl, inflight, clock, ← ledger.query, ← count, received]
      simpa [Event.landed?] using ih.append_right [_]
    · rw [issuedLast_issuing rfl, inflight, clock, ← ledger.query, ← count, received, query]
      simpa [Event.landed?] using ih.append_right [_]
    · rw [issuedLast_landing rfl, inflight]
      simpa [Event.landed?] using (landed_perm (landings log) member).trans ih
    · rw [issuedLast_landing rfl, inflight]
      simpa [Event.landed?] using (landed_perm (landings log) member).trans ih

theorem conserved_nodup (path : Reaches (step P) (start P q) log s) :
    (landings log ++ s.inflight).Nodup :=
  (conserved path).nodup_iff.mpr (issuedBy_nodup log)

end

/-- The feeds differ in the order of their answers alone. -/
structure Alike (s t : State Q R A) : Prop where
  query : s.query = t.query
  received : s.received.Perm t.received
  inflight : s.inflight = t.inflight
  clock : s.clock = t.clock

/-- Both events land a flight. -/
def BothLand (first second : Event Q R A) : Prop :=
  first.landed?.isSome = true ∧ second.landed?.isSome = true

section
variable [DecidableEq R] {P : Protocol Q R A} {s t : State Q R A}

theorem Alike.follows (same : Alike s t) (stepped : step P s e = some s') :
    ∃ t', step P t e = some t' ∧ Alike s' t' := by
  obtain ⟨query, received, inflight, clock⟩ := s
  obtain ⟨query', received', inflight', clock'⟩ := t
  obtain ⟨rfl, reordered, rfl, rfl⟩ := same
  cases e with
  | reset change =>
    cases stepped
    exact ⟨_, rfl, rfl, .refl _, rfl, rfl⟩
  | fetch =>
    cases stepped
    refine ⟨_, rfl, rfl, reordered, ?_, rfl⟩
    simp only [State.issue, reordered.length_eq]
  | succeed flight answer =>
    simp only [step, Option.ite_none_right_eq_some] at stepped ⊢
    obtain ⟨enabled, stepped⟩ := stepped
    cases stepped
    exact ⟨_, ⟨enabled, rfl⟩, rfl, reordered.append_right _, rfl, rfl⟩
  | fail flight =>
    simp only [step, Option.ite_none_right_eq_some] at stepped ⊢
    obtain ⟨enabled, stepped⟩ := stepped
    cases stepped
    exact ⟨_, ⟨enabled, rfl⟩, rfl, reordered, rfl, rfl⟩

/-- What an event that lands a flight does. -/
theorem step_landing (lands : e.landed? = some flight) :
    step P s e = some t ↔ flight ∈ s.inflight ∧
      (∀ answer, e.completion? = some (flight, answer) → P.fits flight.request answer = true) ∧
      t = ⟨s.query, s.received ++ (e.completion?.map Prod.snd).toList, s.inflight.erase flight,
        s.clock + 1⟩ := by
  cases e with
  | reset | fetch => cases lands
  | succeed landed answer =>
    cases lands
    simp [step, Event.completion?, and_assoc, eq_comm (b := t)]
  | fail landed =>
    cases lands
    simp [step, Event.completion?, eq_comm (b := t)]

theorem mem_erase_swap {first second : Flight R} (inAir : first ∈ s.inflight)
    (later : second ∈ s.inflight.erase first) : first ∈ s.inflight.erase second := by
  by_cases same : first = second
  · rw [same] at later ⊢
    exact later
  · exact (List.mem_erase_of_ne same).mpr inAir

theorem landings_swap (both : BothLand a b) (first : step P s a = some middle)
    (second : step P middle b = some t) :
    ∃ middle' t', step P s b = some middle' ∧ step P middle' a = some t' ∧ Alike t t' := by
  obtain ⟨flight, landsFirst⟩ := Option.isSome_iff_exists.mp both.1
  obtain ⟨flight', landsSecond⟩ := Option.isSome_iff_exists.mp both.2
  obtain ⟨inAir, fits, rfl⟩ := (step_landing landsFirst).mp first
  obtain ⟨later, fits', rfl⟩ := (step_landing landsSecond).mp second
  have inAir' : flight' ∈ s.inflight := List.mem_of_mem_erase later
  refine ⟨_, _, (step_landing landsSecond).mpr ⟨inAir', fits', rfl⟩,
    (step_landing landsFirst).mpr ⟨mem_erase_swap inAir later, fits, rfl⟩, rfl, ?_, ?_, rfl⟩
  · simp only [List.append_assoc]
    exact List.perm_append_comm.append_left s.received
  · exact List.erase_comm flight flight'

theorem landings_commute : Commutes (step P) Alike BothLand where
  refl _ := ⟨rfl, .refl _, rfl, rfl⟩
  trans first second := ⟨first.query.trans second.query, first.received.trans second.received,
    first.inflight.trans second.inflight, first.clock.trans second.clock⟩
  follows := Alike.follows
  swaps := landings_swap

end

end Feed
