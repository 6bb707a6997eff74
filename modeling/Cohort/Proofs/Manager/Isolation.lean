import Cohort.Proofs.Flight.Isolation
import Cohort.Proofs.Manager.FlightMoves

/-!
# Keys of a manager apart

The gets and injections on one key go the same way without all that is done on other keys:
they return the same, and the key holds the same at every moment. So do the calls of any
flight, of which those of a manager are a case.
-/

set_option autoImplicit false

namespace Cohort.Manager

variable {κ ω ρ ε : Type}

/-! ## What a key holds -/

section Lookups

variable [DecidableEq κ] {manager kept full : Manager κ ω ρ ε} {key own : κ}

private theorem lookup_congr (same : kept.table = full.table) :
    kept.lookup key = full.lookup key := by
  unfold lookup
  rw [same]

/-- A resource put under a key, if the manager is open, is what that key holds. -/
theorem lookup_insert {resource : ρ}
    (put : full.table = manager.table.map fun table => table.insert own resource) :
    full.lookup key =
      if own = key then (manager.lookup key).map fun _ => some resource
      else manager.lookup key := by
  unfold lookup
  rw [put]
  cases manager.table with
  | none => simp [Except.map]
  | some table =>
      simp only [Option.map_some, Table.find?_insert]
      split <;> rfl

private theorem known?_congr (same : kept.lookup key = full.lookup key) :
    kept.known? key = full.known? key := by
  unfold known?
  rw [same]

private theorem contains_congr (same : kept.lookup key = full.lookup key) :
    kept.contains key = full.contains key := by
  unfold lookup at same
  unfold contains Table.contains
  cases here : kept.table <;> cases there : full.table <;> simp_all

private theorem fst_install_congr (same : kept.lookup key = full.lookup key)
    (outcome : Except ε ρ) :
    (kept.install key outcome).1 = (full.install key outcome).1 := by
  cases outcome with
  | error cause => rfl
  | ok resource =>
      unfold lookup at same
      cases here : kept.table with
      | none =>
          cases there : full.table with
          | none => rw [install_of_closed here, install_of_closed there]
          | some table => simp [here, there] at same
      | some table =>
          cases there : full.table with
          | none => simp [here, there] at same
          | some table' => rw [install_of_open here, install_of_open there]

end Lookups

/-! ## Moves on one key -/

def Move.caller? : Move κ ω ρ ε → Option Nat
  | .get _ | .inject _ _ | .shut => none
  | .poll caller _ | .create caller _ | .leave caller => some caller

/-- The injections under a key, each with what it came to. -/
def Event.injectionAt? [DecidableEq κ] (key : κ) :
    Event κ ρ ε → Option (ρ × Except (ManagerError ε) (Option ρ))
  | .injected own resource replaced => if own = key then some (resource, replaced) else none
  | .flight _ | .creating _ _ _ | .created _ _ _ _ | .shut _ => none

namespace Dealings

variable [DecidableEq κ] {dealings kept full : Dealings κ ω ρ ε} {key : κ} {mine : Nat → Bool}
  {move : Move κ ω ρ ε} {number : Nat}

/-- The move is done on the key, by one of those whom `mine` names, or on the whole. -/
def concerns (key : κ) (mine : Nat → Bool) : Move κ ω ρ ε → Bool
  | .get _ | .shut => true
  | .poll number _ | .create number _ | .leave number => mine number
  | .inject own _ => decide (own = key)

/-- The run without all that is done on other keys. -/
def only (key : κ) (mine : Nat → Bool) (moves : List (Move κ ω ρ ε)) : List (Move κ ω ρ ε) :=
  moves.filter (concerns key mine)

private theorem only_append_singleton (key : κ) (mine : Nat → Bool) (moves : List (Move κ ω ρ ε))
    (move : Move κ ω ρ ε) :
    only key mine (moves ++ [move]) =
      if concerns key mine move then only key mine moves ++ [move] else only key mine moves := by
  simp only [only, List.filter_append]
  split <;> simp_all

private theorem caller?_flightMoves (dealings : Dealings κ ω ρ ε) (move : Move κ ω ρ ε) :
    ∀ sent ∈ dealings.flightMoves move, sent.caller? = move.caller? := by
  intro sent member
  cases move with
  | get key | leave number =>
      cases List.mem_singleton.mp member
      rfl
  | poll number waker =>
      rcases List.mem_cons.mp member with rfl | member
      · rfl
      · obtain ⟨result, _, rfl⟩ := List.mem_map.mp member
        rfl
  | create number outcome =>
      simp only [flightMoves] at member
      split at member
      · cases List.mem_singleton.mp member
        rfl
      · cases member
  | inject key resource | shut => cases member

private theorem only_flightMoves (dealings : Dealings κ ω ρ ε) (key : κ) (mine : Nat → Bool)
    (move : Move κ ω ρ ε) :
    Flight.Traffic.only mine (dealings.flightMoves move) =
      if concerns key mine move then dealings.flightMoves move else [] := by
  have callers := dealings.caller?_flightMoves move
  have all_or_none : Flight.Traffic.only mine (dealings.flightMoves move) =
      if move.caller?.all mine then dealings.flightMoves move else [] := by
    split
    · next own => exact List.filter_eq_self.mpr fun sent member => by rw [callers sent member, own]
    · next foreign =>
        exact List.filter_eq_nil_iff.mpr fun sent member => by rwa [callers sent member]
  rw [all_or_none]
  cases move with
  | get _ | poll _ _ | create _ _ | leave _ | shut => rfl
  | inject own resource => simp [flightMoves]

/-- What the key is asked for and holds is the same in both runs. -/
structure Apart (key : κ) (mine : Nat → Bool) (kept full : Dealings κ ω ρ ε) : Prop where
  traffic : Flight.Traffic.Apart key mine kept.traffic full.traffic
  lookup : kept.manager.lookup key = full.manager.lookup key
  injections : kept.history.filterMap (Event.injectionAt? key) =
    full.history.filterMap (Event.injectionAt? key)

/-! ### What a move does to the key -/

/-- The key that caller `number` creates a resource for. -/
def creates? (dealings : Dealings κ ω ρ ε) (number : Nat) : Option κ :=
  (dealings.callers[number]?.bind Flight.Caller.lead?).map Prod.fst

/-- What the key holds after the move, by what it has held before. -/
def heldAfter (dealings : Dealings κ ω ρ ε) (key : κ) :
    Move κ ω ρ ε → Except (ManagerError ε) (Option ρ)
  | .inject own resource =>
      if own = key then (dealings.manager.lookup key).map fun _ => some resource
      else dealings.manager.lookup key
  | .create number (.ok resource) =>
      if dealings.creates? number = some key then
        (dealings.manager.lookup key).map fun _ => some resource
      else dealings.manager.lookup key
  | .shut => .error .closed
  | .create _ (.error _) | .get _ | .poll _ _ | .leave _ => dealings.manager.lookup key

/-- The injections under the key that the move makes, each with what it comes to. -/
def injectionsAt (dealings : Dealings κ ω ρ ε) (key : κ) :
    Move κ ω ρ ε → List (ρ × Except (ManagerError ε) (Option ρ))
  | .inject own resource => if own = key then [(resource, dealings.manager.lookup key)] else []
  | .create _ _ | .get _ | .poll _ _ | .leave _ | .shut => []

private theorem lookup_create (dealings : Dealings κ ω ρ ε) (key : κ) (number : Nat)
    (outcome : Except ε ρ) :
    (dealings.step (.create number outcome)).2.manager.lookup key =
      dealings.heldAfter key (.create number outcome) := by
  have deaf (nobody : dealings.creates? number = none) :
      dealings.manager.lookup key = dealings.heldAfter key (.create number outcome) := by
    cases outcome with
    | error cause => rfl
    | ok resource => simp [heldAfter, nobody]
  cases found : dealings.callers[number]? with
  | none =>
      simp only [step, found]
      exact deaf (by simp [creates?, found])
  | some caller =>
      obtain ⟨own, phase⟩ := caller
      cases phase with
      | idle | follows _ _ | returned _ _ | gone =>
          simp only [step, found]
          exact deaf (by simp [creates?, found, Flight.Caller.lead?])
      | leads call =>
          simp only [step, found]
          cases outcome with
          | error cause => rfl
          | ok resource =>
              refine (lookup_insert (dealings.manager.table_install own resource)).trans ?_
              simp [heldAfter, creates?, found, Flight.Caller.lead?]

private theorem step_inject (dealings : Dealings κ ω ρ ε) (key : κ) (resource : ρ) :
    (dealings.step (.inject key resource)).2 =
      dealings.note
        { dealings.manager with table := dealings.manager.table.map (·.insert key resource) }
        (.injected key resource (dealings.manager.lookup key)) := by
  simp only [step, inject, lookup]
  cases opened : dealings.manager.table with
  | none =>
      have same : { dealings.manager with table := none } = dealings.manager := by rw [← opened]
      rw [Option.map_none, same]
  | some table => rfl

private theorem lookup_step (unsettled : dealings.traffic.Unsettled) (key : κ)
    (move : Move κ ω ρ ε) :
    (dealings.step move).2.manager.lookup key = dealings.heldAfter key move := by
  have change := change_step unsettled move
  cases move with
  | get own | shut => rfl
  | poll number waker =>
      refine lookup_congr ?_
      generalize (dealings.step _).2 = next at change
      cases change with
      | quiet _ _ _ | answer _ _ _ _ | begin _ _ _ _ => rfl
  | leave number =>
      refine lookup_congr ?_
      generalize (dealings.step _).2 = next at change
      cases change with
      | quiet _ _ _ => rfl
  | create number outcome => exact lookup_create dealings key number outcome
  | inject own resource =>
      rw [step_inject]
      exact lookup_insert rfl

private theorem Change.injections {next : Dealings κ ω ρ ε} (change : dealings.Change move next)
    (other : ∀ own resource, move ≠ .inject own resource) (key : κ) :
    next.history.filterMap (Event.injectionAt? key) =
      dealings.history.filterMap (Event.injectionAt? key) := by
  have flights : ∀ events : List (Flight.Event κ (Except (ManagerError ε) ρ)),
      (events.map Event.flight : List (Event κ ρ ε)).filterMap (Event.injectionAt? key) = [] := by
    intro events
    rw [List.filterMap_map]
    exact List.filterMap_eq_nil_iff.mpr fun _ _ => rfl
  cases change with
  | quiet _ _ _ => rw [List.filterMap_append, flights, List.append_nil]
  | answer _ _ _ _ | begin _ _ _ _ | finish _ | shut =>
      exact (List.filterMap_append ..).trans (List.append_nil _)
  | inject _ | refuse _ => exact absurd rfl (other _ _)

private theorem injections_step (unsettled : dealings.traffic.Unsettled) (key : κ)
    (move : Move κ ω ρ ε) :
    (dealings.step move).2.history.filterMap (Event.injectionAt? key) =
      dealings.history.filterMap (Event.injectionAt? key) ++ dealings.injectionsAt key move := by
  have change := change_step unsettled move
  cases move with
  | inject own resource =>
      rw [step_inject, note, List.filterMap_append, injectionsAt]
      congr 1
      by_cases same : own = key <;> simp [Event.injectionAt?, same]
  | get _ | poll _ _ | leave _ | create _ _ | shut =>
      exact (change.injections (by simp) key).trans (List.append_nil _).symm

/-! ### Side by side -/

private theorem Apart.callers (apart : Apart key mine kept full)
    (marks : full.traffic.Marks key mine) (own : mine number = true) :
    (kept.callers[number]? = none ∧ full.callers[number]? = none) ∨
      ∃ phase phase', kept.callers[number]? = some ⟨key, phase⟩ ∧
        full.callers[number]? = some ⟨key, phase'⟩ ∧
        phase.looks kept.manager.flight = phase'.looks full.manager.flight := by
  have related : Option.Rel _ kept.callers[number]? full.callers[number]? :=
    apart.traffic.own number own
  have of_key : ∀ caller, full.callers[number]? = some caller → caller.key = key :=
    fun caller found => (marks number caller found).mp own
  generalize kept.callers[number]? = here, full.callers[number]? = there at related of_key
  cases related with
  | none => exact Or.inl ⟨rfl, rfl⟩
  | some twin =>
      have same := of_key _ rfl
      refine Or.inr ?_
      cases twin with
      | idle | returned | gone | leads _ =>
          cases same
          exact ⟨_, _, rfl, rfl, rfl⟩
      | @follows _ one call ticket twin =>
          cases same
          have verdict : (kept.manager.flight.call one).verdict =
              (full.manager.flight.call call).verdict := apart.traffic.verdict twin
          refine ⟨_, _, rfl, rfl, ?_⟩
          simp only [Flight.Phase.looks, verdict]

private theorem Apart.creates?_eq (apart : Apart key mine kept full) (own : mine number = true) :
    kept.creates? number = full.creates? number := by
  have related : Option.Rel _ kept.callers[number]? full.callers[number]? :=
    apart.traffic.own number own
  unfold creates?
  generalize kept.callers[number]? = here, full.callers[number]? = there at related
  cases related with
  | none => rfl
  | some twin => cases twin <;> rfl

/-- A poll by a caller of the key finds the same result, if it finds any. -/
private theorem Apart.answer?_eq (apart : Apart key mine kept full)
    (marks : full.traffic.Marks key mine) (own : mine number = true) :
    kept.answer? number = full.answer? number := by
  have free : (kept.manager.flight.registry.find? key).isNone =
      (full.manager.flight.registry.find? key).isNone := by
    rw [Bool.eq_iff_iff, Option.isNone_iff_eq_none, Option.isNone_iff_eq_none]
    exact apart.traffic.flight.free_iff
  unfold answer?
  rcases apart.callers marks own with ⟨here, there⟩ | ⟨phase, phase', here, there, looks⟩
  · rw [here, there]
  · rw [here, there]
    simp only [looks, free, known?_congr apart.lookup]

/-- A move on the key comes to the same on both flights. -/
private theorem Apart.flightMoves_eq (apart : Apart key mine kept full)
    (marks : full.traffic.Marks key mine) (concern : concerns key mine move = true) :
    kept.flightMoves move = full.flightMoves move := by
  cases move with
  | get _ | leave _ | inject _ _ | shut => rfl
  | poll number waker => simp only [flightMoves, apart.answer?_eq marks concern]
  | create number outcome =>
      rcases apart.callers marks concern with ⟨here, there⟩ | ⟨phase, phase', here, there, _⟩
      · simp only [flightMoves, here, there]
      · simp only [flightMoves, here, there, fst_install_congr apart.lookup]

private theorem Apart.heldAfter_eq (apart : Apart key mine kept full)
    (concern : concerns key mine move = true) :
    kept.heldAfter key move = full.heldAfter key move := by
  cases move with
  | get _ | poll _ _ | leave _ => exact apart.lookup
  | inject own resource => simp only [heldAfter, apart.lookup]
  | shut => rfl
  | create number outcome =>
      cases outcome with
      | error cause => exact apart.lookup
      | ok resource => simp only [heldAfter, apart.lookup, apart.creates?_eq concern]

private theorem heldAfter_of_foreign (marks : full.traffic.Marks key mine)
    (foreign : concerns key mine move = false) :
    full.heldAfter key move = full.manager.lookup key := by
  cases move with
  | get _ | poll _ _ | leave _ => rfl
  | shut => cases foreign
  | inject own resource => exact if_neg (of_decide_eq_false foreign)
  | create number outcome =>
      cases outcome with
      | error cause => rfl
      | ok resource =>
          refine if_neg fun creates => ?_
          obtain ⟨⟨own, call⟩, leads, rfl⟩ := Option.map_eq_some_iff.mp creates
          obtain ⟨⟨key', phase⟩, found, led⟩ := Option.bind_eq_some_iff.mp leads
          have same : key' = own := by
            cases phase <;> cases led
            rfl
          rw [concerns, (marks _ _ found).mpr same] at foreign
          cases foreign

private theorem injectionsAt_of_foreign (foreign : concerns key mine move = false) :
    full.injectionsAt key move = [] := by
  cases move with
  | get _ | poll _ _ | leave _ | create _ _ | shut => rfl
  | inject own resource => exact if_neg (of_decide_eq_false foreign)

private theorem Apart.injectionsAt_eq (apart : Apart key mine kept full) :
    kept.injectionsAt key move = full.injectionsAt key move := by
  cases move with
  | get _ | poll _ _ | leave _ | create _ _ | shut => rfl
  | inject own resource => simp only [injectionsAt, apart.lookup]

/-! ### Whole runs -/

private theorem marks_of_append {before after : List (Move κ ω ρ ε)}
    (marks : (run (before ++ after)).traffic.Marks key mine) :
    (run before).traffic.Marks key mine := by
  obtain ⟨more, sent_eq⟩ := exists_sent_append before after
  rw [(traffic_eq_run _).1, sent_eq] at marks
  rw [(traffic_eq_run _).1]
  exact marks.of_append

/-- The flights go on side by side if one is sent what the other is sent for the key. -/
private theorem apart_traffic {moves fewer : List (Move κ ω ρ ε)}
    (marks : (run moves).traffic.Marks key mine)
    (sent_eq : sent fewer = Flight.Traffic.only mine (sent moves)) :
    Flight.Traffic.Apart key mine (run fewer).traffic (run moves).traffic := by
  rw [(traffic_eq_run _).1] at marks
  rw [(traffic_eq_run _).1, (traffic_eq_run _).1, sent_eq]
  exact Flight.Traffic.apart_run marks

/-- Both runs go on side by side, and so do the runs of their flights. -/
theorem apart_run {moves : List (Move κ ω ρ ε)} (marks : (run moves).traffic.Marks key mine) :
    sent (only key mine moves) = Flight.Traffic.only mine (sent moves) ∧
      Apart key mine (run (only key mine moves)) (run moves) := by
  induction moves using List.reverseRecOn with
  | nil => exact ⟨rfl, Flight.Traffic.apart_new key mine, rfl, rfl⟩
  | append_singleton moves move ih =>
      have marks_before := marks_of_append marks
      obtain ⟨sent_eq, apart⟩ := ih marks_before
      have unsettled := (ordered_run moves).manned.unsettled
      have unsettled_kept := (ordered_run (only key mine moves)).manned.unsettled
      have split_sent : Flight.Traffic.only mine (sent (moves ++ [move])) =
          Flight.Traffic.only mine (sent moves) ++
            Flight.Traffic.only mine ((run moves).flightMoves move) := by
        rw [sent_append_singleton]
        exact List.filter_append ..
      rw [only_append_singleton]
      split
      · next concern =>
          have sent_eq' : sent (only key mine moves ++ [move]) =
              Flight.Traffic.only mine (sent (moves ++ [move])) := by
            rw [split_sent, only_flightMoves, if_pos concern, sent_append_singleton, sent_eq,
              apart.flightMoves_eq marks_before concern]
          refine ⟨sent_eq', apart_traffic marks sent_eq', ?_, ?_⟩
          · rw [run_append_singleton, run_append_singleton, lookup_step unsettled,
              lookup_step unsettled_kept, apart.heldAfter_eq concern]
          · rw [run_append_singleton, run_append_singleton, injections_step unsettled,
              injections_step unsettled_kept, apart.injections, apart.injectionsAt_eq]
      · next foreign =>
          have foreign := eq_false_of_ne_true foreign
          have sent_eq' : sent (only key mine moves) =
              Flight.Traffic.only mine (sent (moves ++ [move])) := by
            rw [split_sent, only_flightMoves, foreign, if_neg Bool.false_ne_true, List.append_nil,
              sent_eq]
          refine ⟨sent_eq', apart_traffic marks sent_eq', ?_, ?_⟩
          · rw [run_append_singleton, lookup_step unsettled,
              heldAfter_of_foreign marks_before foreign, apart.lookup]
          · rw [run_append_singleton, injections_step unsettled, injectionsAt_of_foreign foreign,
              List.append_nil, apart.injections]

/-! ## What a key sees -/

/-- Nobody who deals with the key can tell the run from the one without other keys. -/
structure Isolated (key : κ) (mine : Nat → Bool) (moves : List (Move κ ω ρ ε)) : Prop where
  /-- The callers have come to the same points, with the same results. -/
  callers : ∀ number, mine number = true →
    Option.Rel (Flight.Caller.Twin (Flight.callsFor key (run moves).traffic.history))
      (run (only key mine moves)).callers[number]? (run moves).callers[number]?
  /-- Injections have come to the same. -/
  injections : (run (only key mine moves)).history.filterMap (Event.injectionAt? key) =
    (run moves).history.filterMap (Event.injectionAt? key)
  lookup : (run (only key mine moves)).manager.lookup key = (run moves).manager.lookup key
  held : (run (only key mine moves)).manager.contains key = (run moves).manager.contains key
  wakeUps : Flight.Traffic.wakeUps (sent (only key mine moves)) =
    (Flight.Traffic.wakeUps (sent moves)).filter fun waker => mine waker.1
  waiters : (run (only key mine moves)).manager.flight.waiters key =
    (run moves).manager.flight.waiters key
  inFlight : (run (only key mine moves)).manager.flight.registry.contains key =
    (run moves).manager.flight.registry.contains key

private theorem isolated_of_marks {moves : List (Move κ ω ρ ε)}
    (marks : (run moves).traffic.Marks key mine) : Isolated key mine moves := by
  obtain ⟨sent_eq, apart⟩ := apart_run marks
  constructor
  case callers => exact apart.traffic.own
  case injections => exact apart.injections
  case lookup => exact apart.lookup
  case held => exact contains_congr apart.lookup
  case wakeUps =>
    rw [(traffic_eq_run moves).1] at marks
    rw [sent_eq]
    exact Flight.Traffic.wakeUps_only marks
  case waiters => exact apart.traffic.flight.waiters
  case inFlight => exact apart.traffic.flight.contains_eq

/-- At every moment of a run, of a flight as of a manager, those who ask for a key are where
they would be without all that is done on other keys. -/
theorem isolated_run (key : κ) :
    (∀ before after : List (Flight.Move κ ω ρ), Flight.Traffic.Isolated key
      ((Flight.Traffic.run (before ++ after)).asks key) before) ∧
      ∀ before after : List (Move κ ω ρ ε),
        Isolated key ((run (before ++ after)).traffic.asks key) before := by
  constructor
  · intro before after
    have marks := (Flight.Traffic.run (before ++ after)).marks_asks key
    exact Flight.Traffic.isolated_of_marks marks.of_append
  · intro before after
    have marks := (run (before ++ after)).traffic.marks_asks key
    exact isolated_of_marks (marks_of_append marks)

end Dealings

end Cohort.Manager
