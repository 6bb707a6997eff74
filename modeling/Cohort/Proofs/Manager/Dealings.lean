import Mathlib.Logic.Relation
import Cohort.Manager
import Cohort.Proofs.Flight.Sharing

/-!
# Dealings with a manager

Any number of callers that ask a manager for resources, in any order of polls, drops and
panics, while resources are injected and the manager is shut. A creation is not modelled:
it ends whenever it is said to. To the flight of the manager all this is traffic.
-/

set_option autoImplicit false

namespace Cohort.Manager

inductive Event (κ ρ ε : Type) where
  | flight (event : Flight.Event κ (Except (ManagerError ε) ρ))
  | creating (caller : Nat) (key : κ) (call : Nat)
  | created (caller : Nat) (key : κ) (call : Nat) (outcome : Except ε ρ)
  | injected (key : κ) (resource : ρ) (replaced : Except (ManagerError ε) (Option ρ))
  | shut (held : Option (List ρ))

def Event.flight? {κ ρ ε : Type} :
    Event κ ρ ε → Option (Flight.Event κ (Except (ManagerError ε) ρ))
  | .flight event => some event
  | _ => none

inductive Move (κ ω ρ ε : Type) where
  /-- Somebody asks for a resource. Nothing happens until it is polled. -/
  | get (key : κ)
  /-- Polls a caller that does not create. -/
  | poll (caller : Nat) (waker : ω)
  | create (caller : Nat) (outcome : Except ε ρ)
  /-- A caller is dropped, or its creation panics. -/
  | leave (caller : Nat)
  | inject (key : κ) (resource : ρ)
  | shut

/-- A manager with its callers and all that has happened so far, the earliest first. -/
structure Dealings (κ ω ρ ε : Type) where
  manager : Manager κ ω ρ ε := {}
  callers : List (Flight.Caller κ (Except (ManagerError ε) ρ)) := []
  history : List (Event κ ρ ε) := []

namespace Dealings

variable {κ ω ρ ε : Type}

def advance (dealings : Dealings κ ω ρ ε) (number : Nat) (key : κ)
    (phase : Flight.Phase (Except (ManagerError ε) ρ)) (manager : Manager κ ω ρ ε)
    (events : List (Event κ ρ ε)) : Dealings κ ω ρ ε where
  manager
  callers := dealings.callers.set number ⟨key, phase⟩
  history := dealings.history ++ events

def note (dealings : Dealings κ ω ρ ε) (manager : Manager κ ω ρ ε) (event : Event κ ρ ε) :
    Dealings κ ω ρ ε :=
  { dealings with manager, history := dealings.history ++ [event] }

variable [DecidableEq κ]

/-- A caller asks for the resource under its key, for the first time or anew. -/
def ask (dealings : Dealings κ ω ρ ε) (number : Nat) (key : κ) (waker : ω) :
    List ω × Dealings κ ω ρ ε :=
  match dealings.manager.request key waker with
  | (.answered result woken, manager) =>
      let call := dealings.manager.flight.calls.size
      (woken, dealings.advance number key (.returned result true) manager
        [.flight (.started number key call), .flight (.finished number key call result),
          .flight (.returned number result true)])
  | (.creates call, manager) =>
      ([], dealings.advance number key (.leads call) manager
        [.flight (.started number key call), .creating number key call])
  | (.joins call ticket, manager) =>
      ([], dealings.advance number key (.follows call ticket) manager
        [.flight (.joined number key call)])
  | (.late (.done result), manager) =>
      ([], dealings.advance number key (.returned result false) manager
        [.flight (.returned number result false)])
  | (.late .abandoned, manager) => ([], dealings.advance number key .gone manager [])

/-- Makes a move and hands over the wakers to be called. A move of a caller that it is
not up to changes nothing. -/
def step (dealings : Dealings κ ω ρ ε) : Move κ ω ρ ε → List ω × Dealings κ ω ρ ε
  | .get key => ([], { dealings with callers := dealings.callers ++ [{ key }] })
  | .poll number waker =>
      match dealings.callers[number]? with
      | some ⟨key, .idle⟩ => dealings.ask number key waker
      | some ⟨key, .follows call ticket⟩ =>
          match dealings.manager.poll call ticket waker with
          | (.parked ticket, manager) =>
              ([], dealings.advance number key (.follows call ticket) manager [])
          | (.settled (.done result), manager) =>
              ([], dealings.advance number key (.returned result false) manager
                [.flight (.returned number result false)])
          | (.settled .abandoned, manager) => { dealings with manager }.ask number key waker
      | _ => ([], dealings)
  | .create number outcome =>
      match dealings.callers[number]? with
      | some ⟨key, .leads call⟩ =>
          let (result, manager) := dealings.manager.install key outcome
          let (woken, manager) := manager.finish key call result
          (woken, dealings.advance number key (.returned result true) manager
            [.created number key call outcome, .flight (.finished number key call result),
              .flight (.returned number result true)])
      | _ => ([], dealings)
  | .leave number =>
      match dealings.callers[number]? with
      | some ⟨key, .idle⟩ => ([], dealings.advance number key .gone dealings.manager [])
      | some ⟨key, .follows call ticket⟩ =>
          ([], dealings.advance number key .gone (dealings.manager.leave call ticket) [])
      | some ⟨key, .leads call⟩ =>
          let (woken, manager) := dealings.manager.abandon key call
          (woken, dealings.advance number key .gone manager
            [.flight (.abandoned number key call)])
      | _ => ([], dealings)
  | .inject key resource =>
      match dealings.manager.inject key resource with
      | .ok (replaced, manager) =>
          ([], dealings.note manager (.injected key resource (.ok replaced)))
      | .error error =>
          ([], dealings.note dealings.manager (.injected key resource (.error error)))
  | .shut =>
      let (held, manager) := dealings.manager.shut
      ([], dealings.note manager (.shut held))

def run (moves : List (Move κ ω ρ ε)) : Dealings κ ω ρ ε :=
  moves.foldl (fun dealings move => (dealings.step move).2) {}

theorem run_append_singleton (moves : List (Move κ ω ρ ε)) (move : Move κ ω ρ ε) :
    run (moves ++ [move]) = ((run moves).step move).2 := by
  simp [run]

end Dealings

/-! ## What an operation comes to -/

section Operations

variable {κ ω ρ ε : Type} [DecidableEq κ] {manager : Manager κ ω ρ ε} {key : κ} {call : Nat}

private theorem request_of_registered (registered : manager.flight.registry.find? key = some call)
    (unsettled : (manager.flight.call call).verdict = none) (waker : ω) :
    ∃ ticket flight, manager.request key waker = (.joins call ticket, { manager with flight }) ∧
      manager.flight.Alike flight := by
  obtain ⟨ticket, flight, joins, alike⟩ := Flight.enter_of_registered registered unsettled waker
  refine ⟨ticket, flight, ?_, alike⟩
  simp only [request, joins]

/-- The result is known without a creation. -/
def Answers (manager : Manager κ ω ρ ε) (key : κ) (result : Except (ManagerError ε) ρ) : Prop :=
  manager.lookup key = result.map some

theorem request_of_answers (free : manager.flight.registry.find? key = none)
    {result : Except (ManagerError ε) ρ} (answers : manager.Answers key result) (waker : ω) :
    manager.request key waker =
      (.answered result
          ((manager.flight.lead key).settle key manager.flight.calls.size (.done result)).1,
        { manager with
          flight :=
            ((manager.flight.lead key).settle key manager.flight.calls.size (.done result)).2 }) := by
  have known : ({ manager with flight := manager.flight.lead key } : Manager κ ω ρ ε).lookup key =
      result.map some := answers
  simp only [request, Flight.enter_of_free free]
  rw [known]
  cases result with
  | error error => rfl
  | ok resource => rfl

theorem request_of_missing (free : manager.flight.registry.find? key = none)
    (missing : manager.lookup key = .ok none) (waker : ω) :
    manager.request key waker =
      (.creates manager.flight.calls.size, { manager with flight := manager.flight.lead key }) := by
  have known : ({ manager with flight := manager.flight.lead key } : Manager κ ω ρ ε).lookup key =
      .ok none := missing
  simp only [request, Flight.enter_of_free free]
  rw [known]

theorem request_ne_late (unsettled : ∀ call, manager.flight.registry.find? key = some call →
    (manager.flight.call call).verdict = none) (waker : ω)
    {verdict : Verdict (Except (ManagerError ε) ρ)} {changed : Manager κ ω ρ ε} :
    manager.request key waker ≠ (.late verdict, changed) := by
  intro late
  unfold request at late
  cases entered : manager.flight.enter key waker with
  | mk entry flight =>
      rw [entered] at late
      cases entry with
      | joins call ticket => cases late
      | late one => exact Flight.enter_ne_late unsettled waker entered
      | leads call =>
          dsimp only at late
          split at late <;> cases late

theorem lookup_eq_ok_iff {found : Option ρ} :
    manager.lookup key = .ok found ↔ ∃ table, manager.table = some table ∧ table.find? key = found := by
  unfold lookup
  cases manager.table with
  | none => simp
  | some table => simp

theorem install_error (manager : Manager κ ω ρ ε) (key : κ) (cause : ε) :
    manager.install key (.error cause) = (.error (.create cause), manager) := rfl

theorem install_of_closed (closed : manager.table = none) (key : κ) (resource : ρ) :
    manager.install key (.ok resource) = (.error .closed, manager) := by
  simp [install, inject, closed]

theorem install_of_open {table : Table κ ρ} (opened : manager.table = some table) (key : κ)
    (resource : ρ) :
    manager.install key (.ok resource) =
      (.ok resource, { manager with table := some (table.insert key resource) }) := by
  simp [install, inject, opened]

@[simp]
theorem flight_install (manager : Manager κ ω ρ ε) (key : κ) (outcome : Except ε ρ) :
    (manager.install key outcome).2.flight = manager.flight := by
  cases outcome with
  | error cause => rfl
  | ok resource =>
      cases opened : manager.table with
      | none => rw [install_of_closed opened]
      | some table => rw [install_of_open opened]

theorem table_install (manager : Manager κ ω ρ ε) (key : κ) (resource : ρ) :
    (manager.install key (.ok resource)).2.table =
      manager.table.map (fun table => table.insert key resource) := by
  cases opened : manager.table with
  | none =>
      rw [install_of_closed opened]
      exact opened
  | some table =>
      rw [install_of_open opened]
      rfl

/-- What an installation comes to is what is found afterwards. -/
theorem answers_install (manager : Manager κ ω ρ ε) (key : κ) (resource : ρ) :
    (manager.install key (.ok resource)).2.Answers key (manager.install key (.ok resource)).1 := by
  cases opened : manager.table with
  | none =>
      rw [install_of_closed opened]
      simp only [Answers, lookup, opened]
      rfl
  | some table =>
      rw [install_of_open opened]
      simp only [Answers, lookup, Table.find?_insert_self]
      rfl

theorem install_eq_ok {outcome : Except ε ρ} {resource : ρ}
    (installed : (manager.install key outcome).1 = .ok resource) :
    outcome = .ok resource ∧ ∃ table, manager.table = some table := by
  cases outcome with
  | error cause => cases installed
  | ok made =>
      cases opened : manager.table with
      | none =>
          rw [install_of_closed opened] at installed
          cases installed
      | some table =>
          rw [install_of_open opened] at installed
          cases installed
          exact ⟨rfl, table, rfl⟩

end Operations

/-! ## What a move can change -/

namespace Dealings

variable {κ ω ρ ε : Type} {dealings next : Dealings κ ω ρ ε}

/-- What the flight of the manager sees. -/
def traffic (dealings : Dealings κ ω ρ ε) : Flight.Traffic κ ω (Except (ManagerError ε) ρ) where
  flight := dealings.manager.flight
  callers := dealings.callers
  history := dealings.history.filterMap Event.flight?

theorem traffic_advance (dealings : Dealings κ ω ρ ε) (number : Nat) (key : κ)
    (phase : Flight.Phase (Except (ManagerError ε) ρ)) (manager : Manager κ ω ρ ε)
    (events : List (Event κ ρ ε)) :
    (dealings.advance number key phase manager events).traffic =
      dealings.traffic.advance number key phase manager.flight (events.filterMap Event.flight?) := by
  simp [traffic, advance, Flight.Traffic.advance]

private theorem filterMap_flight?_map (events : List (Flight.Event κ (Except (ManagerError ε) ρ))) :
    (events.map Event.flight).filterMap Event.flight? = events := by
  rw [List.filterMap_map]
  exact List.filterMap_some

theorem traffic_note {manager : Manager κ ω ρ ε} (same : manager.flight = dealings.manager.flight)
    {event : Event κ ρ ε} (apart : event.flight? = none) :
    (dealings.note manager event).traffic = dealings.traffic := by
  simp [traffic, note, same, apart]

variable [DecidableEq κ]

/-- All that one move can do while no registered call is settled. -/
inductive Change (dealings : Dealings κ ω ρ ε) : Move κ ω ρ ε → Dealings κ ω ρ ε → Prop where
  /-- No execution begins or ends well, and the table is left alone. -/
  | quiet {move : Move κ ω ρ ε} {traffic : Flight.Traffic κ ω (Except (ManagerError ε) ρ)}
      {events : List (Flight.Event κ (Except (ManagerError ε) ρ))} :
      dealings.traffic.Change traffic → traffic.history = dealings.traffic.history ++ events →
      (∀ event ∈ events, event.isStarted = false ∧ event.isFinished = false) →
      Change dealings move
        { manager := { dealings.manager with flight := traffic.flight }
          callers := traffic.callers
          history := dealings.history ++ events.map .flight }
  | answer {number key phase waker result} :
      dealings.callers[number]? = some ⟨key, phase⟩ → phase.Seeks dealings.manager.flight →
      dealings.manager.flight.registry.find? key = none → dealings.manager.Answers key result →
      Change dealings (.poll number waker)
        (dealings.advance number key (.returned result true)
          { dealings.manager with
            flight := ((dealings.manager.flight.lead key).settle key
              dealings.manager.flight.calls.size (.done result)).2 }
          [.flight (.started number key dealings.manager.flight.calls.size),
            .flight (.finished number key dealings.manager.flight.calls.size result),
            .flight (.returned number result true)])
  | begin {number key phase waker} :
      dealings.callers[number]? = some ⟨key, phase⟩ → phase.Seeks dealings.manager.flight →
      dealings.manager.flight.registry.find? key = none → dealings.manager.lookup key = .ok none →
      Change dealings (.poll number waker)
        (dealings.advance number key (.leads dealings.manager.flight.calls.size)
          { dealings.manager with flight := dealings.manager.flight.lead key }
          [.flight (.started number key dealings.manager.flight.calls.size),
            .creating number key dealings.manager.flight.calls.size])
  | finish {number key call outcome} :
      dealings.callers[number]? = some ⟨key, .leads call⟩ →
      Change dealings (.create number outcome)
        (dealings.advance number key (.returned (dealings.manager.install key outcome).1 true)
          { (dealings.manager.install key outcome).2 with
            flight := (dealings.manager.flight.settle key call
              (.done (dealings.manager.install key outcome).1)).2 }
          [.created number key call outcome,
            .flight (.finished number key call (dealings.manager.install key outcome).1),
            .flight (.returned number (dealings.manager.install key outcome).1 true)])
  | inject {key resource table} : dealings.manager.table = some table →
      Change dealings (.inject key resource)
        (dealings.note { dealings.manager with table := some (table.insert key resource) }
          (.injected key resource (.ok (table.find? key))))
  | refuse {key resource} : dealings.manager.table = none →
      Change dealings (.inject key resource)
        (dealings.note dealings.manager (.injected key resource (.error .closed)))
  | shut :
      Change dealings .shut
        (dealings.note { dealings.manager with table := none }
          (.shut (dealings.manager.table.map Table.values)))

theorem Change.traffic {move : Move κ ω ρ ε} (change : dealings.Change move next) :
    Relation.ReflTransGen Flight.Traffic.Change dealings.traffic next.traffic := by
  cases change with
  | @quiet move traffic events change history quiet =>
      have same : (dealings.history ++ events.map Event.flight).filterMap Event.flight? =
          traffic.history := by
        rw [List.filterMap_append, filterMap_flight?_map, history]
        rfl
      simp only [Dealings.traffic, same]
      exact .single change
  | @answer number key phase waker result found seeks free answers =>
      have found' : dealings.traffic.callers[number]? = some ⟨key, phase⟩ := found
      have led : dealings.traffic.Change _ := .lead found' seeks free
      have leads := Flight.Traffic.getElem?_advance_self found' key
        (.leads dealings.manager.flight.calls.size) (dealings.manager.flight.lead key)
        [.started number key dealings.manager.flight.calls.size]
      have finished := @Flight.Traffic.Change.finish _ _ _ _ _ number key _ result leads
      rw [Flight.Traffic.advance_advance] at finished
      rw [traffic_advance]
      exact (Relation.ReflTransGen.single led).tail finished
  | begin found seeks free missing =>
      rw [traffic_advance]
      exact .single (.lead found seeks free)
  | finish found =>
      rw [traffic_advance]
      exact .single (.finish found)
  | inject _ | shut =>
      rw [traffic_note]
      · rfl
      · rfl
  | refuse _ => rw [traffic_note rfl rfl]

/-- A move of a caller that its flight sees, and that starts and finishes nothing. -/
private theorem change_quiet {move : Move κ ω ρ ε} {number : Nat} {key : κ}
    {phase : Flight.Phase (Except (ManagerError ε) ρ)}
    {flight : Flight κ ω (Except (ManagerError ε) ρ)}
    {events : List (Flight.Event κ (Except (ManagerError ε) ρ))}
    (change : dealings.traffic.Change (dealings.traffic.advance number key phase flight events))
    (quiet : ∀ event ∈ events, event.isStarted = false ∧ event.isFinished = false) :
    dealings.Change move (dealings.advance number key phase { dealings.manager with flight }
      (events.map .flight)) :=
  .quiet change rfl quiet

private theorem change_stay (dealings : Dealings κ ω ρ ε) (move : Move κ ω ρ ε) :
    dealings.Change move dealings := by
  have stay : dealings.Change move { dealings with history := dealings.history ++ [] } :=
    .quiet .stay (List.append_nil _).symm (List.forall_mem_nil _)
  rwa [List.append_nil] at stay

variable {number : Nat} {key : κ}

private theorem change_ask {phase : Flight.Phase (Except (ManagerError ε) ρ)}
    (unsettled : dealings.traffic.Unsettled) (found : dealings.callers[number]? = some ⟨key, phase⟩)
    (seeks : phase.Seeks dealings.manager.flight) (waker : ω) :
    dealings.Change (.poll number waker) (dealings.ask number key waker).2 := by
  unfold ask
  cases registered : dealings.manager.flight.registry.find? key with
  | some call =>
      obtain ⟨ticket, flight, joins, alike⟩ :=
        request_of_registered registered (unsettled key call registered) waker
      rw [joins]
      exact change_quiet (.join found seeks registered alike)
        (by simp [Flight.Event.isStarted, Flight.Event.isFinished])
  | none =>
      have answer : ∀ result, dealings.manager.Answers key result →
          dealings.Change (.poll number waker) (dealings.ask number key waker).2 := by
        intro result answers
        rw [ask, request_of_answers registered answers]
        exact .answer found seeks registered answers
      cases known : dealings.manager.lookup key with
      | error error => exact answer (.error error) known
      | ok held =>
          cases held with
          | some resource => exact answer (.ok resource) known
          | none =>
              rw [request_of_missing registered known]
              exact .begin found seeks registered known

private theorem change_poll {call : Nat} {ticket : UInt64} (unsettled : dealings.traffic.Unsettled)
    (found : dealings.callers[number]? = some ⟨key, .follows call ticket⟩) (waker : ω) :
    dealings.Change (.poll number waker) (dealings.step (.poll number waker)).2 := by
  cases verdict : (dealings.manager.flight.call call).verdict with
  | none =>
      obtain ⟨flight, parked, alike⟩ := Flight.poll_of_unsettled verdict ticket waker
      simp only [step, found, Manager.poll, parked]
      exact change_quiet (.wait found alike) (List.forall_mem_nil _)
  | some verdict' =>
      simp only [step, found, Manager.poll, Flight.poll_of_settled verdict]
      cases verdict' with
      | done result =>
          exact change_quiet (.share found verdict)
            (by simp [Flight.Event.isStarted, Flight.Event.isFinished])
      | abandoned => exact change_ask unsettled found verdict waker

private theorem change_leave {caller : Flight.Caller κ (Except (ManagerError ε) ρ)}
    (found : dealings.callers[number]? = some caller) :
    dealings.Change (.leave number) (dealings.step (.leave number)).2 := by
  obtain ⟨key, phase⟩ := caller
  cases phase with
  | idle =>
      simp only [step, found]
      exact change_quiet (.depart found (Or.inl rfl) (Flight.alike_refl _)) (List.forall_mem_nil _)
  | leads call =>
      simp only [step, found]
      exact change_quiet (.abandon found)
        (by simp [Flight.Event.isStarted, Flight.Event.isFinished])
  | follows call ticket =>
      simp only [step, found]
      exact change_quiet (.depart found (Or.inr ⟨call, ticket, rfl⟩) (Flight.alike_leave ..))
        (List.forall_mem_nil _)
  | returned _ _ | gone => simpa only [step, found] using dealings.change_stay _

theorem change_step (unsettled : dealings.traffic.Unsettled) (move : Move κ ω ρ ε) :
    dealings.Change move (dealings.step move).2 := by
  cases move with
  | get key =>
      have called : dealings.traffic.Change
          { dealings.traffic with callers := dealings.traffic.callers ++ [{ key }] } := .call
      have arrived : dealings.Change (.get key) _ :=
        .quiet called (List.append_nil _).symm (List.forall_mem_nil _)
      rw [List.map_nil, List.append_nil] at arrived
      exact arrived
  | poll number waker =>
      cases found : dealings.callers[number]? with
      | none => simpa only [step, found] using dealings.change_stay _
      | some caller =>
          obtain ⟨key, phase⟩ := caller
          cases phase with
          | idle =>
              simp only [step, found]
              exact change_ask unsettled found trivial waker
          | follows call ticket => exact change_poll unsettled found waker
          | leads _ | returned _ _ | gone => simpa only [step, found] using dealings.change_stay _
  | create number outcome =>
      cases found : dealings.callers[number]? with
      | none => simpa only [step, found] using dealings.change_stay _
      | some caller =>
          obtain ⟨key, phase⟩ := caller
          cases phase with
          | leads call =>
              have finished : dealings.Change (.create number outcome) _ := .finish found
              rw [← flight_install dealings.manager key outcome] at finished
              simp only [step, found]
              exact finished
          | idle | follows _ _ | returned _ _ | gone =>
              simpa only [step, found] using dealings.change_stay _
  | leave number =>
      cases found : dealings.callers[number]? with
      | none => simpa only [step, found] using dealings.change_stay _
      | some caller => exact change_leave found
  | inject key resource =>
      cases opened : dealings.manager.table with
      | none =>
          simp only [step, inject, opened]
          exact .refuse opened
      | some table =>
          simp only [step, inject, opened]
          exact .inject opened
  | shut => exact .shut

end Dealings

end Cohort.Manager
