import Cohort.Proofs.Flight.Traffic

/-!
# Keys in flight

A key is in flight exactly while one caller leads a call for it, and every call ever
started is either led by one caller or settled once. Whatever the order of polls, drops
and panics, a leader that ends frees its own key and no other.
-/

set_option autoImplicit false

namespace Cohort.Flight

namespace Event

variable {κ ρ : Type}

def isStarted : Event κ ρ → Bool
  | .started _ _ _ => true
  | _ => false

def isFinished : Event κ ρ → Bool
  | .finished _ _ _ _ => true
  | _ => false

def isAbandoned : Event κ ρ → Bool
  | .abandoned _ _ _ => true
  | _ => false

def settles (number : Nat) : Event κ ρ → Bool
  | .finished _ _ call _ | .abandoned _ _ call => call == number
  | _ => false

end Event

/-- The caller has returned, panicked or been dropped. -/
def Phase.isOver {ρ : Type} : Phase ρ → Bool
  | .returned _ _ | .gone => true
  | .idle | .leads _ | .follows _ _ => false

def Move.Ends {κ ω ρ : Type} (number : Nat) : Move κ ω ρ → Prop
  | .finish caller _ | .leave caller => caller = number
  | .call _ | .poll _ _ => False

namespace Traffic

variable {κ ω ρ : Type} {traffic other : Traffic κ ω ρ} {number : Nat} {key : κ} {call : Nat}

/-- Caller `number` is alive and runs its work for `key` as call `call`. -/
def Leads (traffic : Traffic κ ω ρ) (number : Nat) (key : κ) (call : Nat) : Prop :=
  traffic.callers[number]? = some ⟨key, .leads call⟩

theorem mem_leaders_iff : (key, call) ∈ traffic.leaders ↔ ∃ number, traffic.Leads number key call := by
  constructor
  · intro member
    obtain ⟨⟨own, phase⟩, found, leads⟩ := List.mem_filterMap.mp member
    obtain ⟨number, position⟩ := List.mem_iff_getElem?.mp found
    cases phase with
    | leads led =>
        obtain ⟨rfl, rfl⟩ := Prod.mk.inj (Option.some.inj leads)
        exact ⟨number, position⟩
    | idle | follows _ _ | returned _ _ | gone => cases leads
  · rintro ⟨number, leads⟩
    exact mem_leaders leads

/-- Nobody begins to lead without the start of a work. -/
theorem leads_of_change [DecidableEq κ] {events : List (Event κ ρ)} (change : traffic.Change other)
    (history : other.history = traffic.history ++ events)
    (quiet : ∀ event ∈ events, event.isStarted = false) (leads : other.Leads number key call) :
    traffic.Leads number key call := by
  cases change with
  | stay => exact leads
  | call =>
      rcases getElem?_callers_call leads with before | ⟨_, same⟩
      · exact before
      · cases same
  | lead _ _ _ =>
      have same := List.append_cancel_left history
      cases quiet _ (same ▸ List.mem_singleton_self _)
  | join _ _ _ _ | wait _ _ | share _ _ | finish _ | abandon _ | depart _ _ _ =>
      rcases getElem?_callers_advance leads with ⟨_, same⟩ | ⟨_, before⟩
      · cases same
      · exact before

/-- Callers that lead stand at different places among the leaders. -/
theorem eq_of_leads {α : Type} {project : κ × Nat → α}
    (distinct : (traffic.leaders.map project).Nodup) {one : Nat} {key' : κ} {call' : Nat}
    (leads : traffic.Leads number key call) (leads' : traffic.Leads one key' call')
    (same : project (key, call) = project (key', call')) : number = one := by
  have apart := List.pairwise_filterMap.mp (List.pairwise_map.mp distinct)
  obtain ⟨inside, found⟩ := List.getElem?_eq_some_iff.mp leads
  obtain ⟨inside', found'⟩ := List.getElem?_eq_some_iff.mp leads'
  have differ := List.pairwise_iff_getElem.mp apart
  rcases Nat.lt_trichotomy number one with before | equal | after
  · exact absurd same (differ number one inside inside' before _ (by rw [found]; rfl) _
      (by rw [found']; rfl))
  · exact equal
  · exact absurd same.symm (differ one number inside' inside after _ (by rw [found']; rfl) _
      (by rw [found]; rfl))

private theorem leaders_eq_nil (ended : ∀ caller ∈ traffic.callers, caller.phase.isOver = true) :
    traffic.leaders = [] := by
  refine List.filterMap_eq_nil_iff.mpr fun caller member => ?_
  obtain ⟨key, phase⟩ := caller
  have ended' := ended _ member
  cases phase with
  | returned _ _ | gone => rfl
  | idle | leads _ | follows _ _ => cases ended'

private theorem Manned.verdict_eq_none_iff (manned : traffic.Manned)
    (inside : call < traffic.flight.calls.size) :
    (traffic.flight.call call).verdict = none ↔ ∃! number, ∃ key, traffic.Leads number key call := by
  constructor
  · intro unsettled
    obtain ⟨⟨key, _⟩, member, rfl⟩ := List.mem_map.mp ((manned.open_iff call).mpr ⟨inside, unsettled⟩)
    obtain ⟨number, leads⟩ := mem_leaders_iff.mp member
    refine ⟨number, ⟨key, leads⟩, ?_⟩
    rintro one ⟨key', leads'⟩
    exact eq_of_leads manned.once leads' leads rfl
  · rintro ⟨number, ⟨key, leads⟩, _⟩
    exact manned.verdict_eq_none (mem_leaders leads)

/-- Each start of a work is matched by a leader or by an end of the work, and each
settled call by one event. -/
structure Tallied (traffic : Traffic κ ω ρ) : Prop where
  started : traffic.history.countP Event.isStarted =
    traffic.leaders.length + traffic.history.countP Event.isFinished +
      traffic.history.countP Event.isAbandoned
  settled : ∀ call, traffic.history.countP (Event.settles call) =
    (traffic.flight.call call).verdict.isSome.toNat

/-- An advance keeps the tally if what it reports accounts for what it changes. -/
private theorem Tallied.advance (tallied : traffic.Tallied) {caller : Caller κ ρ} {phase : Phase ρ}
    {flight : Flight κ ω ρ} {events : List (Event κ ρ)}
    (found : traffic.callers[number]? = some caller)
    (started : events.countP Event.isStarted + caller.lead?.toList.length =
      (Caller.lead? ⟨key, phase⟩).toList.length + events.countP Event.isFinished +
        events.countP Event.isAbandoned)
    (settled : ∀ one, (flight.call one).verdict.isSome.toNat =
      (traffic.flight.call one).verdict.isSome.toNat + events.countP (Event.settles one)) :
    (traffic.advance number key phase flight events).Tallied := by
  obtain ⟨rest, before, after⟩ := leaders_perm found
  have earlier := tallied.started
  rw [before.length_eq, List.length_append] at earlier
  constructor
  · rw [(after key phase flight events).length_eq]
    simp only [Traffic.advance, List.countP_append, List.length_append]
    omega
  · intro one
    simp only [Traffic.advance, List.countP_append]
    rw [settled one, tallied.settled one]

private theorem countP_settles_finish (result : ρ) (one : Nat) :
    [.finished number key call result, .returned number result true].countP (Event.settles one) =
      (call == one).toNat := by
  by_cases same : call = one
  · simp [Event.settles, same]
  · simp [Event.settles, beq_false_of_ne same]

private theorem countP_settles_abandon (one : Nat) :
    [(.abandoned number key call : Event κ ρ)].countP (Event.settles one) =
      (call == one).toNat := by
  by_cases same : call = one
  · simp [Event.settles, same]
  · simp [Event.settles, beq_false_of_ne same]

private theorem Tallied.settled_once (tallied : traffic.Tallied) (manned : traffic.Manned)
    (inside : call < traffic.flight.calls.size) :
    ((traffic.flight.call call).verdict = none ∧
        traffic.history.countP (Event.settles call) = 0 ∧
        ∃! number, ∃ key, traffic.Leads number key call) ∨
      ((traffic.flight.call call).verdict ≠ none ∧
        traffic.history.countP (Event.settles call) = 1 ∧
        ∀ number key, ¬ traffic.Leads number key call) := by
  have count := tallied.settled call
  cases verdict : (traffic.flight.call call).verdict with
  | none =>
      rw [verdict] at count
      exact Or.inl ⟨rfl, count, (manned.verdict_eq_none_iff inside).mp verdict⟩
  | some verdict' =>
      rw [verdict] at count
      refine Or.inr ⟨Option.some_ne_none _, count, fun number key leads => ?_⟩
      have unsettled := manned.verdict_eq_none (mem_leaders leads)
      rw [verdict] at unsettled
      cases unsettled

variable [DecidableEq κ]

private theorem settled_of_leads (manned : traffic.Manned) (leads : traffic.Leads number key call)
    (verdict : Verdict ρ) (one : Nat) :
    ((traffic.flight.settle key call verdict).2.call one).verdict.isSome.toNat =
      (traffic.flight.call one).verdict.isSome.toNat + (call == one).toNat := by
  have leader := mem_leaders leads
  rw [verdict_settle]
  by_cases same : one = call
  · subst same
    simp [manned.lt_size leader, manned.verdict_eq_none leader]
  · simp [same, Ne.symm same]

theorem Tallied.change (tallied : traffic.Tallied) (manned : traffic.Manned)
    (change : traffic.Change other) : other.Tallied := by
  cases change with
  | stay => exact tallied
  | call =>
      refine ⟨?_, tallied.settled⟩
      rw [leaders_call]
      exact tallied.started
  | lead found seeks free =>
      refine tallied.advance found ?_ fun one => ?_
      · rw [lead?_eq_none_of_seeks seeks]
        rfl
      · rw [call_lead]
        rfl
  | join found seeks registered alike =>
      refine tallied.advance found ?_ fun one => ?_
      · rw [lead?_eq_none_of_seeks seeks]
        rfl
      · rw [alike.verdict]
        rfl
  | wait found alike =>
      refine tallied.advance found rfl fun one => ?_
      rw [alike.verdict]
      rfl
  | share found settled => exact tallied.advance found rfl fun one => rfl
  | finish found =>
      refine tallied.advance found rfl fun one => ?_
      rw [settled_of_leads manned found, countP_settles_finish]
  | abandon found =>
      refine tallied.advance found rfl fun one => ?_
      rw [settled_of_leads manned found, countP_settles_abandon]
  | depart found kind alike =>
      refine tallied.advance found ?_ fun one => ?_
      · rcases kind with rfl | ⟨call, ticket, rfl⟩ <;> rfl
      · rw [alike.verdict]
        rfl

private theorem tallied_run (moves : List (Move κ ω ρ)) : (run moves).Tallied := by
  induction moves using List.reverseRecOn with
  | nil => exact ⟨rfl, fun call => by simp [run, Flight.call]⟩
  | append_singleton moves move ih =>
      have manned := manned_run moves
      rw [run_append_singleton]
      exact ih.change manned (manned.unsettled.change move)

/-! ## The books of a run -/

theorem Manned.find?_iff_leads (manned : traffic.Manned) :
    traffic.flight.registry.find? key = some call ↔ ∃! number, traffic.Leads number key call := by
  rw [manned.find?_iff, mem_leaders_iff]
  constructor
  · rintro ⟨number, leads⟩
    exact ⟨number, leads, fun one leads' => eq_of_leads manned.once leads' leads rfl⟩
  · rintro ⟨number, leads, _⟩
    exact ⟨number, leads⟩

/-- A leader that ends settles its own call and frees its own key. -/
private theorem step_ends {move : Move κ ω ρ} (leads : traffic.Leads number key call)
    (ends : move.Ends number) :
    ∃ verdict, (traffic.step move).2.flight = (traffic.flight.settle key call verdict).2 := by
  unfold Leads at leads
  cases move with
  | call _ | poll _ _ => exact absurd ends id
  | finish caller result =>
      cases ends
      exact ⟨.done result, by simp only [step, leads]; rfl⟩
  | leave caller =>
      cases ends
      exact ⟨.abandoned, by simp only [step, leads]; rfl⟩

/-- The keys in flight, the leaders and the history agree. -/
structure Accounted (traffic : Traffic κ ω ρ) : Prop where
  registered : ∀ key call, traffic.flight.registry.find? key = some call ↔
    ∃! number, traffic.Leads number key call
  unsettled : ∀ key call, traffic.flight.registry.find? key = some call →
    (traffic.flight.call call).verdict = none
  /-- A leader that ends finds its own call under its key, not settled yet. It frees that
  key and no other, and settles that call and no other. -/
  ends : ∀ number key call, traffic.Leads number key call → ∀ move, Move.Ends number move →
    traffic.flight.registry.find? key = some call ∧
      (traffic.flight.call call).verdict = none ∧
      (∀ other, (traffic.step move).2.flight.registry.find? other =
        if other = key then none else traffic.flight.registry.find? other) ∧
      ∃ verdict, ∀ one, ((traffic.step move).2.flight.call one).verdict =
        if one = call then some verdict else (traffic.flight.call one).verdict
  /-- A call is led by one caller until it is settled, and is settled once. -/
  settled : ∀ call < traffic.flight.calls.size,
    ((traffic.flight.call call).verdict = none ∧
        traffic.history.countP (Event.settles call) = 0 ∧
        ∃! number, ∃ key, traffic.Leads number key call) ∨
      ((traffic.flight.call call).verdict ≠ none ∧
        traffic.history.countP (Event.settles call) = 1 ∧
        ∀ number key, ¬ traffic.Leads number key call)
  inFlight : traffic.flight.inFlight + traffic.history.countP Event.isFinished +
    traffic.history.countP Event.isAbandoned = traffic.history.countP Event.isStarted
  idle : (∀ caller ∈ traffic.callers, caller.phase.isOver = true) → traffic.flight.inFlight = 0

private theorem Manned.ends (manned : traffic.Manned) (leads : traffic.Leads number key call)
    {move : Move κ ω ρ} (ends : move.Ends number) :
    (∀ other, (traffic.step move).2.flight.registry.find? other =
        if other = key then none else traffic.flight.registry.find? other) ∧
      ∃ verdict, ∀ one, ((traffic.step move).2.flight.call one).verdict =
        if one = call then some verdict else (traffic.flight.call one).verdict := by
  obtain ⟨verdict, after⟩ := step_ends leads ends
  have inside := manned.lt_size (mem_leaders leads)
  rw [after]
  refine ⟨fun other => ?_, verdict, fun one => ?_⟩
  · rw [registry_settle]
    split
    · next same => rw [same, Table.find?_erase_self]
    · next different => exact Table.find?_erase_of_ne _ different
  · simp [verdict_settle, inside]

theorem accounted_run (moves : List (Move κ ω ρ)) : (run moves).Accounted := by
  have manned := manned_run moves
  have tallied := tallied_run moves
  constructor
  case registered => exact fun key call => manned.find?_iff_leads
  case unsettled => exact manned.unsettled
  case ends =>
    intro number key call leads move ends
    have leader := mem_leaders leads
    exact ⟨manned.find?_iff.mpr leader, manned.verdict_eq_none leader, manned.ends leads ends⟩
  case settled => exact fun call inside => tallied.settled_once manned inside
  case inFlight => rw [manned.inFlight_eq, tallied.started]
  case idle =>
    intro ended
    rw [manned.inFlight_eq, leaders_eq_nil ended, List.length_nil]

end Traffic

end Cohort.Flight
