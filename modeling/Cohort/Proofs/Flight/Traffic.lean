import Mathlib.Data.List.Induction
import Cohort.Proofs.Flight.Leaders
import Cohort.Proofs.Members

/-!
# Traffic on a flight

Any number of callers at one flight, in any order of polls, drops and panics. The work
of a leader is not modelled: it ends whenever it is said to. Between its start and its
end everything else may happen, so the calls that a work makes itself are covered, and
so is a work that ends within the poll that started it.
-/

set_option autoImplicit false

namespace Cohort.Flight

inductive Phase (ρ : Type) where
  | idle
  /-- Its own work runs, as call `call`. -/
  | leads (call : Nat)
  | follows (call : Nat) (ticket : UInt64)
  | returned (result : ρ) (fresh : Bool)
  /-- It was dropped, or unwound by a panic. -/
  | gone
deriving DecidableEq

structure Caller (κ ρ : Type) where
  key : κ
  phase : Phase ρ := .idle
deriving DecidableEq

/-- What has happened to the callers, who are numbered in the order in which they came. -/
inductive Event (κ ρ : Type) where
  | started (caller : Nat) (key : κ) (call : Nat)
  | joined (caller : Nat) (key : κ) (call : Nat)
  | finished (caller : Nat) (key : κ) (call : Nat) (result : ρ)
  /-- A caller has gone while its work ran. -/
  | abandoned (caller : Nat) (key : κ) (call : Nat)
  | returned (caller : Nat) (result : ρ) (fresh : Bool)
deriving DecidableEq

inductive Move (κ ω ρ : Type) where
  /-- Somebody calls. Nothing happens until it is polled. -/
  | call (key : κ)
  /-- Polls a caller that does not lead. -/
  | poll (caller : Nat) (waker : ω)
  | finish (caller : Nat) (result : ρ)
  /-- A caller is dropped, or its work panics. -/
  | leave (caller : Nat)

/-- A flight with its callers and all that has happened so far, the earliest first. -/
structure Traffic (κ ω ρ : Type) where
  flight : Flight κ ω ρ := {}
  callers : List (Caller κ ρ) := []
  history : List (Event κ ρ) := []

namespace Traffic

variable {κ ω ρ : Type}

def advance (traffic : Traffic κ ω ρ) (number : Nat) (key : κ) (phase : Phase ρ)
    (flight : Flight κ ω ρ) (events : List (Event κ ρ)) : Traffic κ ω ρ where
  flight
  callers := traffic.callers.set number ⟨key, phase⟩
  history := traffic.history ++ events

variable [DecidableEq κ]

/-- A caller looks for a call to join, and leads one if there is none. -/
def enter (traffic : Traffic κ ω ρ) (number : Nat) (key : κ) (waker : ω) : Traffic κ ω ρ :=
  match traffic.flight.enter key waker with
  | (.leads call, flight) =>
      traffic.advance number key (.leads call) flight [.started number key call]
  | (.joins call ticket, flight) =>
      traffic.advance number key (.follows call ticket) flight [.joined number key call]
  | (.late (.done result), flight) =>
      traffic.advance number key (.returned result false) flight [.returned number result false]
  | (.late .abandoned, flight) => traffic.advance number key .gone flight []

/-- Makes a move and hands over the wakers to be called. A move of a caller that it is
not up to changes nothing. -/
def step (traffic : Traffic κ ω ρ) : Move κ ω ρ → List ω × Traffic κ ω ρ
  | .call key => ([], { traffic with callers := traffic.callers ++ [{ key }] })
  | .poll number waker =>
      match traffic.callers[number]? with
      | some ⟨key, .idle⟩ => ([], traffic.enter number key waker)
      | some ⟨key, .follows call ticket⟩ =>
          match traffic.flight.poll call ticket waker with
          | (.parked ticket, flight) =>
              ([], traffic.advance number key (.follows call ticket) flight [])
          | (.settled (.done result), flight) =>
              ([], traffic.advance number key (.returned result false) flight
                [.returned number result false])
          | (.settled .abandoned, flight) =>
              ([], { traffic with flight }.enter number key waker)
      | _ => ([], traffic)
  | .finish number result =>
      match traffic.callers[number]? with
      | some ⟨key, .leads call⟩ =>
          let (woken, flight) := traffic.flight.finish key call result
          (woken, traffic.advance number key (.returned result true) flight
            [.finished number key call result, .returned number result true])
      | _ => ([], traffic)
  | .leave number =>
      match traffic.callers[number]? with
      | some ⟨key, .idle⟩ => ([], traffic.advance number key .gone traffic.flight [])
      | some ⟨key, .follows call ticket⟩ =>
          ([], traffic.advance number key .gone (traffic.flight.leave call ticket) [])
      | some ⟨key, .leads call⟩ =>
          let (woken, flight) := traffic.flight.abandon key call
          (woken, traffic.advance number key .gone flight [.abandoned number key call])
      | _ => ([], traffic)

def run (moves : List (Move κ ω ρ)) : Traffic κ ω ρ :=
  moves.foldl (fun traffic move => (traffic.step move).2) {}

theorem run_append_singleton (moves : List (Move κ ω ρ)) (move : Move κ ω ρ) :
    run (moves ++ [move]) = ((run moves).step move).2 := by
  simp [run]

end Traffic

/-! ## What a move can change -/

/-- A caller that looks for a call next: it was not polled yet, or the call that it
follows was abandoned. -/
def Phase.Seeks {κ ω ρ : Type} (flight : Flight κ ω ρ) : Phase ρ → Prop
  | .idle => True
  | .follows call _ => (flight.call call).verdict = some .abandoned
  | .leads _ | .returned _ _ | .gone => False

namespace Traffic

variable {κ ω ρ : Type} [DecidableEq κ]

/-- All that one move can do while no registered call is settled. -/
inductive Change (traffic : Traffic κ ω ρ) : Traffic κ ω ρ → Prop where
  | stay : Change traffic traffic
  | call {key} : Change traffic { traffic with callers := traffic.callers ++ [{ key }] }
  | lead {number key phase} :
      traffic.callers[number]? = some ⟨key, phase⟩ → phase.Seeks traffic.flight →
      traffic.flight.registry.find? key = none →
      Change traffic (traffic.advance number key (.leads traffic.flight.calls.size)
        (traffic.flight.lead key) [.started number key traffic.flight.calls.size])
  | join {number key phase call ticket flight} :
      traffic.callers[number]? = some ⟨key, phase⟩ → phase.Seeks traffic.flight →
      traffic.flight.registry.find? key = some call → traffic.flight.Alike flight →
      Change traffic
        (traffic.advance number key (.follows call ticket) flight [.joined number key call])
  | wait {number key call ticket flight} :
      traffic.callers[number]? = some ⟨key, .follows call ticket⟩ → traffic.flight.Alike flight →
      Change traffic (traffic.advance number key (.follows call ticket) flight [])
  | share {number key call ticket result} :
      traffic.callers[number]? = some ⟨key, .follows call ticket⟩ →
      (traffic.flight.call call).verdict = some (.done result) →
      Change traffic (traffic.advance number key (.returned result false) traffic.flight
        [.returned number result false])
  | finish {number key call result} :
      traffic.callers[number]? = some ⟨key, .leads call⟩ →
      Change traffic (traffic.advance number key (.returned result true)
        (traffic.flight.settle key call (.done result)).2
        [.finished number key call result, .returned number result true])
  | abandon {number key call} :
      traffic.callers[number]? = some ⟨key, .leads call⟩ →
      Change traffic (traffic.advance number key .gone
        (traffic.flight.settle key call .abandoned).2 [.abandoned number key call])
  | depart {number key phase flight} :
      traffic.callers[number]? = some ⟨key, phase⟩ →
      (phase = .idle ∨ ∃ call ticket, phase = .follows call ticket) →
      traffic.flight.Alike flight → Change traffic (traffic.advance number key .gone flight [])

variable {traffic : Traffic κ ω ρ}

def Unsettled (traffic : Traffic κ ω ρ) : Prop :=
  ∀ key call, traffic.flight.registry.find? key = some call →
    (traffic.flight.call call).verdict = none

private theorem Unsettled.change_enter (unsettled : traffic.Unsettled) {number : Nat} {key : κ}
    {phase : Phase ρ} (found : traffic.callers[number]? = some ⟨key, phase⟩)
    (seeks : phase.Seeks traffic.flight) (waker : ω) :
    traffic.Change (traffic.enter number key waker) := by
  unfold enter
  cases registered : traffic.flight.registry.find? key with
  | none =>
      rw [enter_of_free registered]
      exact .lead found seeks registered
  | some call =>
      obtain ⟨ticket, entered, joins, alike⟩ :=
        enter_of_registered registered (unsettled key call registered) waker
      rw [joins]
      exact .join found seeks registered alike

private theorem Unsettled.change_poll (unsettled : traffic.Unsettled) {number : Nat} {key : κ}
    {call : Nat} {ticket : UInt64}
    (found : traffic.callers[number]? = some ⟨key, .follows call ticket⟩) (waker : ω) :
    traffic.Change (traffic.step (.poll number waker)).2 := by
  cases verdict : (traffic.flight.call call).verdict with
  | none =>
      obtain ⟨polled, parked, alike⟩ := poll_of_unsettled verdict ticket waker
      simp only [step, found, parked]
      exact .wait found alike
  | some verdict' =>
      simp only [step, found, poll_of_settled verdict]
      cases verdict' with
      | done result => exact .share found verdict
      | abandoned => exact unsettled.change_enter found verdict waker

theorem Unsettled.change (unsettled : traffic.Unsettled) (move : Move κ ω ρ) :
    traffic.Change (traffic.step move).2 := by
  cases move with
  | call key => exact .call
  | poll number waker =>
      cases found : traffic.callers[number]? with
      | none => simpa only [step, found] using .stay
      | some caller =>
          obtain ⟨key, phase⟩ := caller
          cases phase with
          | idle =>
              simp only [step, found]
              exact unsettled.change_enter found trivial waker
          | follows call ticket => exact unsettled.change_poll found waker
          | leads _ | returned _ _ | gone => simpa only [step, found] using .stay
  | finish number result =>
      cases found : traffic.callers[number]? with
      | none => simpa only [step, found] using .stay
      | some caller =>
          obtain ⟨key, phase⟩ := caller
          cases phase with
          | leads call =>
              simp only [step, found]
              exact .finish found
          | idle | follows _ _ | returned _ _ | gone => simpa only [step, found] using .stay
  | leave number =>
      cases found : traffic.callers[number]? with
      | none => simpa only [step, found] using .stay
      | some caller =>
          obtain ⟨key, phase⟩ := caller
          cases phase with
          | idle =>
              simp only [step, found]
              exact .depart found (Or.inl rfl) (alike_refl _)
          | leads call =>
              simp only [step, found]
              exact .abandon found
          | follows call ticket =>
              simp only [step, found]
              exact .depart found (Or.inr ⟨call, ticket, rfl⟩) (alike_leave ..)
          | returned _ _ | gone => simpa only [step, found] using .stay

end Traffic

/-! ## Who leads -/

def Caller.lead? {κ ρ : Type} (caller : Caller κ ρ) : Option (κ × Nat) :=
  match caller.phase with
  | .leads call => some (caller.key, call)
  | _ => none

namespace Traffic

variable {κ ω ρ : Type} {traffic other : Traffic κ ω ρ} {number : Nat} {key : κ} {phase : Phase ρ}

def leaders (traffic : Traffic κ ω ρ) : List (κ × Nat) :=
  traffic.callers.filterMap Caller.lead?

@[simp]
theorem leaders_call (traffic : Traffic κ ω ρ) (key : κ) :
    leaders { traffic with callers := traffic.callers ++ [{ key }] } = traffic.leaders := by
  simp [leaders, Caller.lead?]

theorem getElem?_callers_call {caller : Caller κ ρ}
    (found : (traffic.callers ++ [⟨key, .idle⟩])[number]? = some caller) :
    traffic.callers[number]? = some caller ∨
      number = traffic.callers.length ∧ caller = ⟨key, .idle⟩ := by
  rw [List.getElem?_append] at found
  split at found
  · exact Or.inl found
  · obtain ⟨last, rfl⟩ := List.getElem?_eq_some_iff.mp found
    rw [List.length_singleton] at last
    exact Or.inr ⟨by omega, by simp⟩

theorem advance_advance (traffic : Traffic κ ω ρ) (number : Nat) (key : κ) (phase later : Phase ρ)
    (flight changed : Flight κ ω ρ) (events further : List (Event κ ρ)) :
    (traffic.advance number key phase flight events).advance number key later changed further =
      traffic.advance number key later changed (events ++ further) := by
  simp [advance]

theorem getElem?_advance_self {caller : Caller κ ρ}
    (found : traffic.callers[number]? = some caller) (key : κ) (phase : Phase ρ)
    (flight : Flight κ ω ρ) (events : List (Event κ ρ)) :
    (traffic.advance number key phase flight events).callers[number]? = some ⟨key, phase⟩ :=
  List.getElem?_set_self (List.getElem?_eq_some_iff.mp found).1

theorem getElem?_callers_advance {flight : Flight κ ω ρ} {events : List (Event κ ρ)} {one : Nat}
    {caller : Caller κ ρ}
    (found : (traffic.advance number key phase flight events).callers[one]? = some caller) :
    one = number ∧ caller = ⟨key, phase⟩ ∨
      one ≠ number ∧ traffic.callers[one]? = some caller := by
  simp only [advance, List.getElem?_set] at found
  split at found
  · next same =>
      split at found
      · exact Or.inl ⟨same.symm, (Option.some.inj found).symm⟩
      · cases found
  · next different => exact Or.inr ⟨Ne.symm different, found⟩

theorem leaders_perm {caller : Caller κ ρ} (found : traffic.callers[number]? = some caller) :
    ∃ rest, traffic.leaders.Perm (caller.lead?.toList ++ rest) ∧
      ∀ key phase flight events, (traffic.advance number key phase flight events).leaders.Perm
        ((Caller.lead? ⟨key, phase⟩).toList ++ rest) := by
  obtain ⟨rest, split, replaced⟩ := filterMap_set_perm Caller.lead? found
  exact ⟨rest, split, fun key phase _ _ => replaced ⟨key, phase⟩⟩

theorem mem_leaders {call : Nat} (found : traffic.callers[number]? = some ⟨key, .leads call⟩) :
    (key, call) ∈ traffic.leaders :=
  List.mem_filterMap.mpr ⟨_, List.mem_of_getElem? found, rfl⟩

/-- The flight knows of the callers that lead, and of no others. -/
def Manned (traffic : Traffic κ ω ρ) : Prop :=
  traffic.flight.Led traffic.leaders

/-- A caller that leads neither before nor after leaves the leaders as they are. -/
private theorem Manned.advance_follower (manned : traffic.Manned) {caller : Caller κ ρ}
    (found : traffic.callers[number]? = some caller) (before : caller.lead? = none)
    (after : Caller.lead? ⟨key, phase⟩ = none) {flight : Flight κ ω ρ}
    (alike : traffic.flight.Alike flight) (events : List (Event κ ρ)) :
    (traffic.advance number key phase flight events).Manned := by
  obtain ⟨rest, split, replaced⟩ := leaders_perm found
  rw [before] at split
  have led := replaced key phase flight events
  rw [after] at led
  exact ((manned.perm split).alike alike).perm led.symm

theorem lead?_eq_none_of_seeks {flight : Flight κ ω ρ} (seeks : phase.Seeks flight) :
    Caller.lead? ⟨key, phase⟩ = none := by
  cases phase with
  | idle | follows _ _ => rfl
  | leads _ | returned _ _ | gone => exact absurd seeks id

variable [DecidableEq κ]

private theorem Manned.advance_settle (manned : traffic.Manned) {call : Nat}
    (found : traffic.callers[number]? = some ⟨key, .leads call⟩)
    (after : Caller.lead? ⟨key, phase⟩ = none) (verdict : Verdict ρ)
    (events : List (Event κ ρ)) :
    (traffic.advance number key phase (traffic.flight.settle key call verdict).2 events).Manned := by
  obtain ⟨rest, split, replaced⟩ := leaders_perm found
  have led := replaced key phase (traffic.flight.settle key call verdict).2 events
  rw [after] at led
  exact ((manned.perm split).settle verdict).perm led.symm

private theorem Manned.advance_lead (manned : traffic.Manned)
    (found : traffic.callers[number]? = some ⟨key, phase⟩) (seeks : phase.Seeks traffic.flight)
    (free : traffic.flight.registry.find? key = none) (events : List (Event κ ρ)) :
    (traffic.advance number key (.leads traffic.flight.calls.size) (traffic.flight.lead key)
      events).Manned := by
  obtain ⟨rest, split, replaced⟩ := leaders_perm found
  rw [lead?_eq_none_of_seeks seeks] at split
  exact ((manned.perm split).lead free).perm (replaced key (.leads _) _ events).symm

theorem Manned.unsettled (manned : traffic.Manned) : traffic.Unsettled :=
  Led.unsettled manned

theorem Manned.change (manned : traffic.Manned) (change : traffic.Change other) :
    other.Manned := by
  cases change with
  | stay => exact manned
  | call =>
      unfold Manned
      rw [leaders_call]
      exact manned
  | lead found seeks free => exact manned.advance_lead found seeks free _
  | join found seeks _ alike =>
      exact manned.advance_follower found (lead?_eq_none_of_seeks seeks) rfl alike _
  | wait found alike => exact manned.advance_follower found rfl rfl alike _
  | share found _ => exact manned.advance_follower found rfl rfl (alike_refl _) _
  | finish found => exact manned.advance_settle found rfl _ _
  | abandon found => exact manned.advance_settle found rfl _ _
  | depart found kind alike =>
      refine manned.advance_follower found ?_ rfl alike _
      rcases kind with rfl | ⟨call, ticket, rfl⟩ <;> rfl

theorem manned_run (moves : List (Move κ ω ρ)) : (run moves).Manned := by
  induction moves using List.reverseRecOn with
  | nil => exact led_new
  | append_singleton moves move ih =>
      rw [run_append_singleton]
      exact ih.change (ih.unsettled.change move)

end Traffic

end Cohort.Flight
