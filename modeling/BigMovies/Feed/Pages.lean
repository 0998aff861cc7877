import BigMovies.Feed.Ledger
import Mathlib.Data.List.Nodup

/-! Pagination within one query, against a server whose reply to each request
is fixed. Overlapping requests may repeat and skip pages; requests made one at
a time take the pages in order, whichever of them fail. -/
namespace Feed
open Transition
universe u v w x
variable {Q : Type u} {R : Type v} {A : Type w} {ι : Type x}

/-- Nothing received yet, and only the request for the first page in flight. -/
structure Fresh (P : Protocol Q R A) (s : State Q R A) : Prop where
  received : s.received = []
  inflight : ∃ ticket, s.inflight = [⟨ticket, P.dispatch s.query 0⟩]

theorem fresh_start (P : Protocol Q R A) (q : Q) : Fresh P (start P q) := ⟨rfl, 0, rfl⟩

theorem fresh_reset [DecidableEq R] {P : Protocol Q R A} {s t : State Q R A}
    (idle : s.inflight = []) (stepped : step P s (.reset change) = some t) : Fresh P t := by
  cases stepped
  exact ⟨rfl, s.clock + 1, by simp [State.issue, idle]⟩

/-- The event keeps the query, and an answer to a request of the query is the
server's fixed reply. -/
def Served (P : Protocol Q R A) (reply : R → A) (q : Q) (e : Event Q R A) : Prop :=
  e.isReset = false ∧ ∀ flight answer, e = .succeed flight answer → IssuedFor P q flight →
    answer = reply flight.request

/-- A new request is made only when none is in flight. -/
def OneAtATime (s : State Q R A) (e : Event Q R A) : Prop := e = .fetch → s.inflight = []

section
variable {P : Protocol Q R A} {reply : R → A}

/-- The pages of a query, in order, as the server replies to them. -/
def pages (P : Protocol Q R A) (reply : R → A) (q : Q) (n : Nat) : List A :=
  (List.range n).map fun i => reply (P.dispatch q i)

theorem pages_succ (q : Q) (n : Nat) :
    pages P reply q (n + 1) = pages P reply q n ++ [reply (P.dispatch q n)] := by
  simp [pages, List.range_succ]

end

variable [DecidableEq R] {P : Protocol Q R A} {origin s t : State Q R A} {reply : R → A}
  {log : List (Event Q R A)}

/-- Between resets the query stands, and all requests in flight are its own. -/
theorem served_query (fresh : Fresh P origin) (path : Reaches (step P) origin log s)
    (served : Along (step P) origin log fun _ _ e => Served P reply origin.query e) :
    s.query = origin.query ∧ ∀ flight ∈ s.inflight, IssuedFor P origin.query flight := by
  refine path.invariant_along (I := fun _ s => s.query = origin.query ∧
    ∀ flight ∈ s.inflight, IssuedFor P origin.query flight) ?_ ?_ served
  · obtain ⟨-, ticket, inflight⟩ := fresh
    refine ⟨rfl, fun flight member => ⟨0, ?_⟩⟩
    rw [inflight, List.mem_singleton] at member
    rw [member]
  · rintro log s e t - kept ⟨same, issued⟩ stepped
    obtain ⟨-, ⟨change, rfl, -⟩ | ⟨rfl, query, -, inflight⟩ |
      ⟨flight, answer, rfl, -, -, query, -, inflight⟩ | ⟨flight, rfl, -, query, -, inflight⟩⟩ :=
      step_cases stepped
    · simp [Served, Event.isReset] at kept
    · refine ⟨query.trans same, fun flight member => ?_⟩
      rw [inflight, List.mem_append, List.mem_singleton] at member
      rcases member with member | rfl
      · exact issued flight member
      · exact ⟨s.received.length, by rw [same]⟩
    all_goals
      exact ⟨query.trans same,
        fun other member => issued other (List.mem_of_mem_erase (inflight ▸ member))⟩

/-- A success brings the server's reply to its request. -/
theorem served_answer (fresh : Fresh P origin) (path : Reaches (step P) origin log s)
    (served : Along (step P) origin log fun _ _ e => Served P reply origin.query e)
    (kept : Served P reply origin.query (.succeed flight answer)) (member : flight ∈ s.inflight) :
    answer = reply flight.request :=
  kept.2 flight answer rfl ((served_query fresh path served).2 flight member)

/-- What a feed shows is the server's pages in order throughout a run exactly
when every answer shows what the page due at its arrival would have shown. -/
theorem exact_pages_iff (visible : A → List ι) (fresh : Fresh P origin)
    (path : Reaches (step P) origin log s)
    (served : Along (step P) origin log fun _ _ e => Served P reply origin.query e) :
    Throughout (step P) origin log (fun _ s => s.received.flatMap visible =
        (pages P reply s.query s.received.length).flatMap visible) ↔
      Along (step P) origin log (fun _ s e => ∀ flight answer, e = .succeed flight answer →
        visible (reply flight.request) =
          visible (reply (P.dispatch s.query s.received.length))) := by
  refine throughout_iff_along (by simp [fresh.received, pages]) ?_ path
  intro pre s e t shorter visited shown stepped
  have kept := served pre s e shorter visited
  have before := served.of_prefix ((List.prefix_append _ _).trans shorter)
  obtain ⟨-, ⟨change, rfl, -⟩ | ⟨rfl, query, received, -⟩ |
    ⟨flight, answer, rfl, member, -, query, received, -⟩ |
    ⟨flight, rfl, -, query, received, -⟩⟩ := step_cases stepped
  · simp [Served, Event.isReset] at kept
  · simpa [query, received] using shown
  · obtain rfl := served_answer fresh visited before kept member
    simp only [query, received, List.length_append, List.length_singleton, pages_succ,
      List.flatMap_append, shown, List.append_cancel_left_eq, List.flatMap_singleton,
      Event.succeed.injEq]
    constructor
    · rintro same _ _ ⟨rfl, rfl⟩
      exact same
    · intro same
      exact same flight _ ⟨rfl, rfl⟩
  · simpa [query, received] using shown

/-- Requests made one at a time ask for the page that is due. -/
theorem sequential_inflight (fresh : Fresh P origin) (path : Reaches (step P) origin log s)
    (served : Along (step P) origin log fun _ s e =>
      Served P reply origin.query e ∧ OneAtATime s e) :
    s.inflight = [] ∨ ∃ ticket, s.inflight = [⟨ticket, P.dispatch s.query s.received.length⟩] := by
  refine path.invariant_along (I := fun _ s => s.inflight = [] ∨
    ∃ ticket, s.inflight = [⟨ticket, P.dispatch s.query s.received.length⟩]) ?_ ?_ served
  · obtain ⟨received, ticket, inflight⟩ := fresh
    exact .inr ⟨ticket, by simp [inflight, received]⟩
  · intro log s e t _ kept shape stepped
    have landed : ∀ flight ∈ s.inflight, s.inflight.erase flight = [] := by
      intro flight member
      rcases shape with idle | ⟨ticket, single⟩
      · simp [idle] at member
      · rw [single] at member ⊢
        simp [List.mem_singleton.mp member]
    obtain ⟨-, ⟨change, rfl, -⟩ | ⟨rfl, query, received, inflight⟩ |
      ⟨flight, answer, rfl, member, -, -, -, inflight⟩ | ⟨flight, rfl, member, -, -, inflight⟩⟩ :=
      step_cases stepped
    · simp [Served, Event.isReset] at kept
    · exact .inr ⟨s.clock + 1, by simp [inflight, kept.2 rfl, query, received]⟩
    · exact .inl (inflight.trans (landed flight member))
    · exact .inl (inflight.trans (landed flight member))

theorem sequential_due (fresh : Fresh P origin) (path : Reaches (step P) origin log s)
    (served : Along (step P) origin log fun _ s e =>
      Served P reply origin.query e ∧ OneAtATime s e) (member : flight ∈ s.inflight) :
    flight.request = P.dispatch s.query s.received.length := by
  rcases sequential_inflight fresh path served with idle | ⟨ticket, single⟩
  · simp [idle] at member
  · rw [single] at member
    rw [List.mem_singleton.mp member]

/-- Requests made one at a time receive the pages in order, none twice. -/
theorem sequential_received (fresh : Fresh P origin) (path : Reaches (step P) origin log s)
    (served : Along (step P) origin log fun _ s e =>
      Served P reply origin.query e ∧ OneAtATime s e) :
    s.received = pages P reply s.query s.received.length := by
  induction path with
  | refl => simp [fresh.received, pages]
  | @next log s e t earlier stepped ih =>
    obtain ⟨before, kept⟩ := (along_concat earlier).mp served
    have alone := before.mono fun _ kept => kept.1
    have ih := ih before
    obtain ⟨-, ⟨change, rfl, -⟩ | ⟨rfl, query, received, -⟩ |
      ⟨flight, answer, rfl, member, -, query, received, -⟩ |
      ⟨flight, rfl, -, query, received, -⟩⟩ := step_cases stepped
    · simp [Served, Event.isReset] at kept
    · rw [query, received]
      exact ih
    · obtain rfl := served_answer fresh earlier alone kept.1 member
      have due := sequential_due fresh earlier before member
      rw [query, received, List.length_append, List.length_singleton, pages_succ, ← ih, due]
    · rw [query, received]
      exact ih

/-- Against replies without repeats, nothing is shown twice exactly when every
answer shares nothing with what is shown at its arrival. -/
theorem nodup_iff (ids : A → List ι) (fresh : Fresh P origin)
    (path : Reaches (step P) origin log s)
    (served : Along (step P) origin log fun _ _ e => Served P reply origin.query e)
    (each : ∀ n, (ids (reply (P.dispatch origin.query n))).Nodup) :
    Throughout (step P) origin log (fun _ s => (s.received.flatMap ids).Nodup) ↔
      Along (step P) origin log (fun _ s e => ∀ flight answer, e = .succeed flight answer →
        (s.received.flatMap ids).Disjoint (ids (reply flight.request))) := by
  refine throughout_iff_along (by simp [fresh.received]) ?_ path
  intro pre s e t shorter visited shown stepped
  have kept := served pre s e shorter visited
  have before := served.of_prefix ((List.prefix_append _ _).trans shorter)
  obtain ⟨-, ⟨change, rfl, -⟩ | ⟨rfl, -, received, -⟩ |
    ⟨flight, answer, rfl, member, -, -, received, -⟩ | ⟨flight, rfl, -, -, received, -⟩⟩ :=
    step_cases stepped
  · simp [Served, Event.isReset] at kept
  · simpa [received] using shown
  · obtain rfl := served_answer fresh visited before kept member
    obtain ⟨n, request⟩ := (served_query fresh visited before).2 flight member
    have fresh_ids : (ids (reply flight.request)).Nodup := request ▸ each n
    simp only [received, List.flatMap_append, List.flatMap_singleton, List.nodup_append',
      shown, fresh_ids, true_and, Event.succeed.injEq]
    constructor
    · rintro apart _ _ ⟨rfl, rfl⟩
      exact apart
    · intro apart
      exact apart flight _ ⟨rfl, rfl⟩
  · simpa [received] using shown

end Feed
