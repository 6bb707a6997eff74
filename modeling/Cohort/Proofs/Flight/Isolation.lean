import Cohort.Proofs.Flight.Sharing
import Cohort.Proofs.Flight.Turns
import Cohort.Proofs.Flight.Wakers

/-!
# Keys apart

Callers of other keys leave no trace with those of one key. A run in which only the
callers of that key move goes the same way for them, move by move, with the same results
and the same wake-ups. Calls are numbered across all keys, so they have other numbers there.
-/

set_option autoImplicit false

namespace Cohort.Flight

variable {κ ω ρ : Type} {key other : κ} {calls : List Nat} {kept full : Flight κ ω ρ}
  {one call : Nat}

/-! ## Flights that agree on a key -/

/-- `calls` are the calls of the second flight for the key, in the order in which they
began. The first flight has these calls and no others. -/
structure Agree [DecidableEq κ] (key : κ) (calls : List Nat) (kept full : Flight κ ω ρ) : Prop where
  size : kept.calls.size = calls.length
  distinct : calls.Nodup
  inside : ∀ call ∈ calls, call < full.calls.size
  call : ∀ one call, calls[one]? = some call → kept.call one = full.call call
  registry : Option.Rel (fun one call => calls[one]? = some call)
    (kept.registry.find? key) (full.registry.find? key)

section Keyed

variable [DecidableEq κ]

private theorem agree_new (key : κ) : Agree key [] ({} : Flight κ ω ρ) {} where
  size := rfl
  distinct := List.nodup_nil
  inside := fun _ member => absurd member List.not_mem_nil
  call := fun _ _ twin => by cases twin
  registry := .none

private theorem Agree.lt_size (agree : Agree key calls kept full) (twin : calls[one]? = some call) :
    one < kept.calls.size ∧ call < full.calls.size := by
  obtain ⟨inside, rfl⟩ := List.getElem?_eq_some_iff.mp twin
  exact ⟨agree.size ▸ inside, agree.inside _ (List.getElem_mem inside)⟩

private theorem Agree.wakersAt (agree : Agree key calls kept full)
    (twin : calls[one]? = some call) :
    kept.wakersAt one = full.wakersAt call := by
  rw [Flight.wakersAt, agree.call one call twin, Flight.wakersAt]

private theorem Agree.setCall (agree : Agree key calls kept full) (twin : calls[one]? = some call)
    (record : Call ω ρ) : Agree key calls (kept.setCall one record) (full.setCall call record) where
  size := by simp [Flight.setCall, agree.size]
  distinct := agree.distinct
  inside := by
    simp only [Flight.setCall, Array.size_setIfInBounds]
    exact agree.inside
  call := by
    intro another call' twin'
    obtain ⟨inside, inside'⟩ := agree.lt_size twin
    rw [call_setCall, call_setCall]
    by_cases same : another = one
    · subst same
      cases twin.symm.trans twin'
      rw [if_pos ⟨rfl, inside⟩, if_pos ⟨rfl, inside'⟩]
    · have different : call' ≠ call := by
        rintro rfl
        have bound := (agree.lt_size twin').1
        rw [agree.size] at bound
        exact same ((List.getElem?_inj bound agree.distinct).mp (twin'.trans twin.symm))
      rw [if_neg fun both => same both.1, if_neg fun both => different both.1]
      exact agree.call another call' twin'
  registry := agree.registry

private theorem Agree.setCall_foreign (agree : Agree key calls kept full) (absent : call ∉ calls)
    (record : Call ω ρ) : Agree key calls kept (full.setCall call record) where
  size := agree.size
  distinct := agree.distinct
  inside := by
    simp only [Flight.setCall, Array.size_setIfInBounds]
    exact agree.inside
  call := by
    intro another call' twin
    have different : call' ≠ call := fun same => absent (same ▸ List.mem_of_getElem? twin)
    rw [call_setCall, if_neg fun both => different both.1]
    exact agree.call another call' twin
  registry := agree.registry

private theorem Agree.parkAt (agree : Agree key calls kept full) (twin : calls[one]? = some call)
    (held : Option UInt64) (waker : ω) :
    Agree key calls (kept.parkAt one held waker) (full.parkAt call held waker) := by
  rw [Flight.parkAt, agree.call one call twin]
  exact agree.setCall twin _

private theorem Agree.leave (agree : Agree key calls kept full) (twin : calls[one]? = some call)
    (ticket : UInt64) : Agree key calls (kept.leave one ticket) (full.leave call ticket) := by
  rw [Flight.leave, agree.call one call twin]
  exact agree.setCall twin _

private theorem Agree.lead (agree : Agree key calls kept full) :
    Agree key (calls ++ [full.calls.size]) (kept.lead key) (full.lead key) where
  size := by rw [size_lead, agree.size, List.length_append, List.length_singleton]
  distinct := by
    refine List.nodup_append.mpr ⟨agree.distinct, List.nodup_singleton _, ?_⟩
    rintro before member _ last rfl
    have inside := agree.inside before member
    rw [List.mem_singleton.mp last] at inside
    exact Nat.lt_irrefl _ inside
  inside := by
    intro call member
    rw [size_lead]
    rcases List.mem_append.mp member with before | last
    · exact Nat.lt_succ_of_lt (agree.inside call before)
    · rw [List.mem_singleton.mp last]
      exact Nat.lt_succ_self _
  call := by
    intro one call twin
    rw [call_lead, call_lead]
    by_cases inside : one < calls.length
    · rw [List.getElem?_append_left inside] at twin
      exact agree.call one call twin
    · have outside := Nat.not_lt.mp inside
      rw [List.getElem?_append_right outside] at twin
      have last := List.mem_singleton.mp (List.mem_of_getElem? twin)
      rw [call_of_size_le (agree.size ▸ outside), call_of_size_le (Nat.le_of_eq last.symm)]
  registry := by
    rw [registry_lead, registry_lead, Table.find?_insert_self, Table.find?_insert_self]
    refine .some ?_
    rw [agree.size, List.getElem?_append_right (Nat.le_refl _), Nat.sub_self]
    rfl

private theorem Agree.lead_foreign (agree : Agree key calls kept full) (different : other ≠ key) :
    Agree key calls kept (full.lead other) where
  size := agree.size
  distinct := agree.distinct
  inside := by
    intro call member
    rw [size_lead]
    exact Nat.lt_succ_of_lt (agree.inside call member)
  call := by
    intro one call twin
    rw [call_lead]
    exact agree.call one call twin
  registry := by
    rw [registry_lead, Table.find?_insert_of_ne _ _ (Ne.symm different)]
    exact agree.registry

private theorem Agree.settle (agree : Agree key calls kept full) (twin : calls[one]? = some call)
    (verdict : Verdict ρ) :
    Agree key calls (kept.settle key one verdict).2 (full.settle key call verdict).2 := by
  have freed : Agree key calls { kept with registry := kept.registry.erase key }
      { full with registry := full.registry.erase key } := by
    refine ⟨agree.size, agree.distinct, agree.inside, agree.call, ?_⟩
    rw [Table.find?_erase_self, Table.find?_erase_self]
    exact .none
  simp only [Flight.settle, agree.call one call twin]
  exact freed.setCall twin _

private theorem Agree.settle_foreign (agree : Agree key calls kept full) (different : other ≠ key)
    (absent : call ∉ calls) (verdict : Verdict ρ) :
    Agree key calls kept (full.settle other call verdict).2 := by
  have freed : Agree key calls kept { full with registry := full.registry.erase other } := by
    refine ⟨agree.size, agree.distinct, agree.inside, agree.call, ?_⟩
    rw [Table.find?_erase_of_ne _ (Ne.symm different)]
    exact agree.registry
  exact freed.setCall_foreign absent _

theorem Agree.free_iff (agree : Agree key calls kept full) :
    kept.registry.find? key = none ↔ full.registry.find? key = none := by
  have registry := agree.registry
  generalize kept.registry.find? key = here, full.registry.find? key = there at registry
  cases registry with
  | some _ => simp
  | none => simp

theorem Agree.contains_eq (agree : Agree key calls kept full) :
    kept.registry.contains key = full.registry.contains key := by
  rw [Table.contains_eq_isSome, Table.contains_eq_isSome, Bool.eq_iff_iff, ← not_iff_not]
  simp only [Option.not_isSome_iff_eq_none]
  exact agree.free_iff

private theorem Agree.registered (agree : Agree key calls kept full)
    (registered : full.registry.find? key = some call) :
    ∃ one, kept.registry.find? key = some one ∧ calls[one]? = some call := by
  have registry := agree.registry
  rw [registered] at registry
  generalize kept.registry.find? key = here at registry
  cases registry with
  | some twin => exact ⟨_, rfl, twin⟩

theorem Agree.waiters (agree : Agree key calls kept full) :
    kept.waiters key = full.waiters key := by
  cases registered : full.registry.find? key with
  | none => rw [waiters_of_free registered, waiters_of_free (agree.free_iff.mpr registered)]
  | some call =>
      obtain ⟨one, registered', twin⟩ := agree.registered registered
      rw [waiters_of_registered registered, waiters_of_registered registered', agree.wakersAt twin]

end Keyed

/-! ## Callers of one key -/

/-- Alike but for the number of the call that they lead or follow. -/
inductive Caller.Twin (calls : List Nat) : Caller κ ρ → Caller κ ρ → Prop where
  | idle {key : κ} : Twin calls ⟨key, .idle⟩ ⟨key, .idle⟩
  | leads {key : κ} {one call : Nat} :
      calls[one]? = some call → Twin calls ⟨key, .leads one⟩ ⟨key, .leads call⟩
  | follows {key : κ} {one call : Nat} {ticket : UInt64} :
      calls[one]? = some call → Twin calls ⟨key, .follows one ticket⟩ ⟨key, .follows call ticket⟩
  | returned {key : κ} {result : ρ} {fresh : Bool} :
      Twin calls ⟨key, .returned result fresh⟩ ⟨key, .returned result fresh⟩
  | gone {key : κ} : Twin calls ⟨key, .gone⟩ ⟨key, .gone⟩

private theorem Caller.Twin.append {here there : Caller κ ρ} (twin : Caller.Twin calls here there)
    (more : List Nat) : Caller.Twin (calls ++ more) here there := by
  have later : ∀ {one call : Nat}, calls[one]? = some call → (calls ++ more)[one]? = some call := by
    intro one call found
    exact (List.getElem?_append_left (List.getElem?_eq_some_iff.mp found).1).trans found
  cases twin with
  | idle => exact .idle
  | leads found => exact .leads (later found)
  | follows found => exact .follows (later found)
  | returned => exact .returned
  | gone => exact .gone

private theorem Caller.Twin.heeds_iff {here there : Caller κ ρ}
    (twin : Caller.Twin calls here there)
    (move : Move κ ω ρ) : here.phase.Heeds move ↔ there.phase.Heeds move := by
  cases twin <;> cases move <;> exact Iff.rfl

/-- The run without the moves of those whom `mine` leaves out. -/
def Traffic.only (mine : Nat → Bool) (moves : List (Move κ ω ρ)) : List (Move κ ω ρ) :=
  moves.filter fun move => move.caller?.all mine

private theorem Traffic.only_append_singleton (mine : Nat → Bool) (moves : List (Move κ ω ρ))
    (move : Move κ ω ρ) :
    Traffic.only mine (moves ++ [move]) =
      if move.caller?.all mine then Traffic.only mine moves ++ [move]
      else Traffic.only mine moves := by
  simp only [Traffic.only, List.filter_append]
  split <;> simp_all

private theorem Traffic.only_signed (mine : Nat → Bool) (moves : List (Move κ ω ρ)) :
    Traffic.only mine (moves.map Move.signed) = (Traffic.only mine moves).map Move.signed := by
  simp only [Traffic.only, List.filter_map, Function.comp_def, caller?_signed]

section Keyed

variable [DecidableEq κ]

def Event.startFor? (key : κ) : Event κ ρ → Option Nat
  | .started _ own call => if own = key then some call else none
  | .joined _ _ _ | .finished _ _ _ _ | .abandoned _ _ _ | .returned _ _ _ => none

/-- The calls that have begun for a key. -/
def callsFor (key : κ) (history : List (Event κ ρ)) : List Nat :=
  history.filterMap (Event.startFor? key)

variable {history events : List (Event κ ρ)}

private theorem mem_callsFor :
    call ∈ callsFor key history ↔ ∃ number, .started number key call ∈ history := by
  simp only [callsFor, List.mem_filterMap]
  constructor
  · rintro ⟨event, member, begun⟩
    cases event with
    | started number own call' =>
        obtain ⟨rfl, rfl⟩ : own = key ∧ call' = call := by simpa [Event.startFor?] using begun
        exact ⟨number, member⟩
    | joined _ _ _ | finished _ _ _ _ | abandoned _ _ _ | returned _ _ _ => cases begun
  · rintro ⟨number, member⟩
    exact ⟨_, member, by simp [Event.startFor?]⟩

private theorem callsFor_start (number : Nat) :
    callsFor key (history ++ [.started number key call]) = callsFor key history ++ [call] := by
  simp [callsFor, Event.startFor?]

private theorem callsFor_quiet (quiet : ∀ event ∈ events, event.startFor? key = none) :
    callsFor key (history ++ events) = callsFor key history := by
  rw [callsFor, List.filterMap_append, List.filterMap_eq_nil_iff.mpr quiet, List.append_nil,
    callsFor]

namespace Traffic

/-- Two runs, the first without the moves of those whom `mine` leaves out. -/
structure Apart (key : κ) (mine : Nat → Bool) (kept full : Traffic κ ω ρ) : Prop where
  flight : Agree key (callsFor key full.history) kept.flight full.flight
  arrived : kept.callers.length = full.callers.length
  own : ∀ number, mine number = true →
    Option.Rel (Caller.Twin (callsFor key full.history)) kept.callers[number]? full.callers[number]?

/-- `mine` tells the callers of a key from all others. -/
def Marks (traffic : Traffic κ ω ρ) (key : κ) (mine : Nat → Bool) : Prop :=
  ∀ number caller, traffic.callers[number]? = some caller →
    (mine number = true ↔ caller.key = key)

variable {mine : Nat → Bool} {kept full next : Traffic κ ω ρ} {number : Nat} {phase : Phase ρ}
  {ticket : UInt64}

private theorem Apart.found (apart : Apart key mine kept full) (own : mine number = true)
    {caller : Caller κ ρ} (found : full.callers[number]? = some caller) :
    ∃ caller', kept.callers[number]? = some caller' ∧
      Caller.Twin (callsFor key full.history) caller' caller := by
  have related := apart.own number own
  rw [found] at related
  generalize kept.callers[number]? = caller' at related
  cases related with
  | some twin => exact ⟨_, rfl, twin⟩

private theorem Apart.idle (apart : Apart key mine kept full) (own : mine number = true)
    (found : full.callers[number]? = some ⟨other, .idle⟩) :
    kept.callers[number]? = some ⟨other, .idle⟩ := by
  obtain ⟨caller, found', twin⟩ := apart.found own found
  cases twin
  exact found'

private theorem Apart.leads (apart : Apart key mine kept full) (own : mine number = true)
    (found : full.callers[number]? = some ⟨other, .leads call⟩) :
    ∃ one, kept.callers[number]? = some ⟨other, .leads one⟩ ∧
      (callsFor key full.history)[one]? = some call := by
  obtain ⟨caller, found', twin⟩ := apart.found own found
  cases twin with
  | leads twin => exact ⟨_, found', twin⟩

private theorem Apart.follows (apart : Apart key mine kept full) (own : mine number = true)
    (found : full.callers[number]? = some ⟨other, .follows call ticket⟩) :
    ∃ one, kept.callers[number]? = some ⟨other, .follows one ticket⟩ ∧
      (callsFor key full.history)[one]? = some call := by
  obtain ⟨caller, found', twin⟩ := apart.found own found
  cases twin with
  | follows twin => exact ⟨_, found', twin⟩

theorem Apart.verdict (apart : Apart key mine kept full)
    (twin : (callsFor key full.history)[one]? = some call) :
    (kept.flight.call one).verdict = (full.flight.call call).verdict :=
  congrArg Call.verdict (apart.flight.call one call twin)

private theorem Apart.seeks (apart : Apart key mine kept full) (own : mine number = true)
    (found : full.callers[number]? = some ⟨other, phase⟩) (seeks : phase.Seeks full.flight) :
    ∃ phase', kept.callers[number]? = some ⟨other, phase'⟩ ∧ phase'.Seeks kept.flight := by
  cases phase with
  | idle => exact ⟨.idle, apart.idle own found, trivial⟩
  | follows call ticket =>
      obtain ⟨one, found', twin⟩ := apart.follows own found
      exact ⟨.follows one ticket, found', (apart.verdict twin).trans seeks⟩
  | leads _ | returned _ _ | gone => exact absurd seeks id

private theorem Apart.advance (apart : Apart key mine kept full) {phase' : Phase ρ}
    {flight flight' : Flight κ ω ρ} {events events' : List (Event κ ρ)} {more : List Nat}
    (grown : callsFor key (full.history ++ events) = callsFor key full.history ++ more)
    (agree : Agree key (callsFor key full.history ++ more) flight' flight)
    (twin : Caller.Twin (callsFor key full.history ++ more) ⟨other, phase'⟩ ⟨other, phase⟩) :
    Apart key mine (kept.advance number other phase' flight' events')
      (full.advance number other phase flight events) where
  flight := by
    simp only [Traffic.advance, grown]
    exact agree
  arrived := by simp only [Traffic.advance, List.length_set, apart.arrived]
  own := by
    intro one own
    simp only [Traffic.advance, List.getElem?_set, apart.arrived, grown]
    split
    · split
      · exact .some twin
      · exact .none
    · have related := apart.own one own
      generalize kept.callers[one]? = here, full.callers[one]? = there at related
      cases related with
      | some twin => exact .some (twin.append more)
      | none => exact .none

private theorem Apart.advance_quiet (apart : Apart key mine kept full) {phase' : Phase ρ}
    {flight flight' : Flight κ ω ρ} {events events' : List (Event κ ρ)}
    (quiet : ∀ event ∈ events, event.startFor? key = none)
    (agree : Agree key (callsFor key full.history) flight' flight)
    (twin : Caller.Twin (callsFor key full.history) ⟨other, phase'⟩ ⟨other, phase⟩) :
    Apart key mine (kept.advance number other phase' flight' events')
      (full.advance number other phase flight events) := by
  rw [← List.append_nil (callsFor key full.history)] at agree twin
  exact apart.advance ((callsFor_quiet quiet).trans (List.append_nil _).symm) agree twin

private theorem Apart.aside (apart : Apart key mine kept full) (foreign : mine number = false)
    {flight : Flight κ ω ρ} {events : List (Event κ ρ)}
    (quiet : ∀ event ∈ events, event.startFor? key = none)
    (agree : Agree key (callsFor key full.history) kept.flight flight) (other : κ)
    (phase : Phase ρ) : Apart key mine kept (full.advance number other phase flight events) where
  flight := by
    simp only [Traffic.advance, callsFor_quiet quiet]
    exact agree
  arrived := by simp only [Traffic.advance, List.length_set, apart.arrived]
  own := by
    intro one own
    have different : number ≠ one := by
      rintro rfl
      rw [foreign] at own
      cases own
    simp only [Traffic.advance, List.getElem?_set_ne different, callsFor_quiet quiet]
    exact apart.own one own

private theorem Apart.arrive (apart : Apart key mine kept full) (other : κ) :
    Apart key mine { kept with callers := kept.callers ++ [{ key := other }] }
      { full with callers := full.callers ++ [{ key := other }] } where
  flight := apart.flight
  arrived := by simp [apart.arrived]
  own := by
    intro number own
    simp only [List.getElem?_append, apart.arrived]
    split
    · exact apart.own number own
    · cases number - full.callers.length with
      | zero => exact .some .idle
      | succ _ => exact .none

/-! ## Move by move -/

variable {move : Move κ ω ρ} {woken : List ω}

/-- A move of a caller of the key does the same on both sides. -/
private theorem Apart.turn_own (apart : Apart key mine kept full) (marks : full.Marks key mine)
    (own : ∀ number, move.caller? = some number → mine number = true)
    (turn : full.Turn move woken next) :
    ∃ next', kept.Turn move woken next' ∧ Apart key mine next' next := by
  have of_key : ∀ {number own phase}, full.callers[number]? = some ⟨own, phase⟩ →
      mine number = true → own = key := fun found own => (marks _ _ found).mp own
  cases turn with
  | @stay _ number by_number deaf =>
      refine ⟨kept, .stay by_number fun caller found heeds => ?_, apart⟩
      have related := apart.own number (own number by_number)
      rw [found] at related
      generalize present : full.callers[number]? = caller' at related
      cases related with
      | some twin => exact deaf _ present ((twin.heeds_iff move).mp heeds)
  | call => exact ⟨_, .call, apart.arrive _⟩
  | @lead number key' phase waker found seeks free =>
      obtain rfl := of_key found (own number rfl)
      obtain ⟨phase', found', seeks'⟩ := apart.seeks (own number rfl) found seeks
      refine ⟨_, .lead found' seeks' (apart.flight.free_iff.mpr free), ?_⟩
      refine apart.advance (callsFor_start number) apart.flight.lead (.leads ?_)
      rw [apart.flight.size, List.getElem?_append_right (Nat.le_refl _), Nat.sub_self]
      rfl
  | @join number key' phase waker call found seeks registered =>
      obtain rfl := of_key found (own number rfl)
      obtain ⟨phase', found', seeks'⟩ := apart.seeks (own number rfl) found seeks
      obtain ⟨one, registered', twin⟩ := apart.flight.registered registered
      refine ⟨_, .join found' seeks' registered', ?_⟩
      rw [apart.flight.call one call twin]
      exact apart.advance_quiet (by simp [Event.startFor?]) (apart.flight.parkAt twin ..)
        (.follows twin)
  | @wait number key' call ticket waker found running =>
      obtain ⟨one, found', twin⟩ := apart.follows (own number rfl) found
      exact ⟨_, .wait found' ((apart.verdict twin).trans running),
        apart.advance_quiet (by simp) (apart.flight.parkAt twin ..) (.follows twin)⟩
  | @share number key' call ticket waker result found done =>
      obtain ⟨one, found', twin⟩ := apart.follows (own number rfl) found
      exact ⟨_, .share found' ((apart.verdict twin).trans done),
        apart.advance_quiet (by simp [Event.startFor?]) apart.flight .returned⟩
  | @finish number key' call result found =>
      obtain rfl := of_key found (own number rfl)
      obtain ⟨one, found', twin⟩ := apart.leads (own number rfl) found
      rw [← apart.flight.wakersAt twin]
      exact ⟨_, .finish found', apart.advance_quiet (by simp [Event.startFor?])
        (apart.flight.settle twin _) .returned⟩
  | @abandon number key' call found =>
      obtain rfl := of_key found (own number rfl)
      obtain ⟨one, found', twin⟩ := apart.leads (own number rfl) found
      rw [← apart.flight.wakersAt twin]
      exact ⟨_, .abandon found', apart.advance_quiet (by simp [Event.startFor?])
        (apart.flight.settle twin _) .gone⟩
  | @forgo number key' found =>
      exact ⟨_, .forgo (apart.idle (own number rfl) found),
        apart.advance_quiet (by simp) apart.flight .gone⟩
  | @depart number key' call ticket found =>
      obtain ⟨one, found', twin⟩ := apart.follows (own number rfl) found
      exact ⟨_, .depart found', apart.advance_quiet (by simp) (apart.flight.leave twin _) .gone⟩

private theorem not_mem_callsFor_of_leads (storied : full.Storied)
    (found : full.callers[number]? = some ⟨other, .leads call⟩) (different : other ≠ key) :
    call ∉ callsFor key full.history := by
  intro member
  obtain ⟨leader, started⟩ := mem_callsFor.mp member
  exact different (storied.recorded.leader _ _ _ _ _ (storied.started_of_leads found) started).2

private theorem not_mem_callsFor_of_follows (storied : full.Storied)
    (found : full.callers[number]? = some ⟨other, .follows call ticket⟩)
    (different : other ≠ key) : call ∉ callsFor key full.history := by
  intro member
  obtain ⟨leader, started⟩ := mem_callsFor.mp member
  exact different (storied.key_of_follows started found)

/-- What a caller of another key does leaves the key alone. -/
private theorem Apart.turn_foreign (apart : Apart key mine kept full) (marks : full.Marks key mine)
    (storied : full.Storied) (manned : full.Manned) (by_number : move.caller? = some number)
    (foreign : mine number = false) (turn : full.Turn move woken next) :
    Apart key mine kept next := by
  have of_other : ∀ {own phase}, full.callers[number]? = some ⟨own, phase⟩ → own ≠ key := by
    intro own phase found same
    rw [(marks _ _ found).mpr same] at foreign
    cases foreign
  have running : ∀ {own registered}, full.flight.registry.find? own = some registered →
      own ≠ key → registered ∉ callsFor key full.history := by
    intro own registered found different
    obtain ⟨leader, leads, _⟩ := manned.find?_iff_leads.mp found
    exact not_mem_callsFor_of_leads storied leads different
  cases turn with
  | stay _ _ => exact apart
  | call => cases by_number
  | @lead _ own _ _ found _ _ =>
      cases by_number
      exact apart.aside foreign (by simp [Event.startFor?, of_other found])
        (apart.flight.lead_foreign (of_other found)) _ _
  | join found _ registered =>
      cases by_number
      exact apart.aside foreign (by simp [Event.startFor?])
        (apart.flight.setCall_foreign (running registered (of_other found)) _) _ _
  | wait found _ =>
      cases by_number
      have absent := not_mem_callsFor_of_follows storied found (of_other found)
      exact apart.aside foreign (by simp) (apart.flight.setCall_foreign absent _) _ _
  | share _ _ =>
      cases by_number
      exact apart.aside foreign (by simp [Event.startFor?]) apart.flight _ _
  | finish found | abandon found =>
      cases by_number
      have absent := not_mem_callsFor_of_leads storied found (of_other found)
      exact apart.aside foreign (by simp [Event.startFor?])
        (apart.flight.settle_foreign (of_other found) absent _) _ _
  | forgo _ =>
      cases by_number
      exact apart.aside foreign (by simp) apart.flight _ _
  | depart found =>
      cases by_number
      have absent := not_mem_callsFor_of_follows storied found (of_other found)
      exact apart.aside foreign (by simp) (apart.flight.setCall_foreign absent _) _ _

/-! ## Who is woken -/

/-- Whoever stands in the line of a call asks for the key of the call. -/
def Attended (traffic : Traffic κ (Nat × ω) ρ) : Prop :=
  ∀ call, ∀ waker ∈ traffic.flight.wakersAt call, ∃ key phase leader,
    traffic.callers[waker.1]? = some ⟨key, phase⟩ ∧ .started leader key call ∈ traffic.history

private theorem Attended.turn {traffic next : Traffic κ (Nat × ω) ρ} {move : Move κ (Nat × ω) ρ}
    {woken : List (Nat × ω)} (attended : traffic.Attended) (storied : traffic.Storied)
    (manned : traffic.Manned) (signs : move.Signs) (turn : traffic.Turn move woken next) :
    next.Attended := by
  intro call waker member
  have goes_on : ∀ {waker : Nat × ω} {key phase leader},
      traffic.callers[waker.1]? = some ⟨key, phase⟩ →
      .started leader key call ∈ traffic.history →
      ∃ key phase leader, next.callers[waker.1]? = some ⟨key, phase⟩ ∧
        .started leader key call ∈ next.history := by
    intro waker key phase leader found started
    obtain ⟨phase', found'⟩ := turn.key_stays found
    exact ⟨key, phase', leader, found', turn.history_prefix.subset started⟩
  have before (stood : waker ∈ traffic.flight.wakersAt call) :
      ∃ key phase leader, next.callers[waker.1]? = some ⟨key, phase⟩ ∧
        .started leader key call ∈ next.history := by
    obtain ⟨key, phase, leader, found, started⟩ := attended call waker stood
    exact goes_on found started
  cases turn with
  | stay _ _ | call | share _ _ | forgo _ => exact before member
  | lead _ _ _ =>
      refine before ?_
      simp only [Traffic.advance, wakersAt, call_lead] at member
      exact member
  | @join number key phase waker' joined found seeks registered =>
      rcases mem_wakersAt_parkAt member with stood | ⟨rfl, rfl⟩
      · exact before stood
      · obtain rfl : waker.1 = number := signs
        obtain ⟨leader, leads, _⟩ := manned.find?_iff_leads.mp registered
        exact goes_on found (storied.started_of_leads leads)
  | @wait number key followed ticket waker' found running =>
      rcases mem_wakersAt_parkAt member with stood | ⟨rfl, rfl⟩
      · exact before stood
      · obtain rfl : waker.1 = number := signs
        have came := storied.joined_of_follows found
        obtain ⟨leader, joined, _⟩ := storied.recorded.joined _ _ _ came
        have started : .started leader key call ∈ traffic.history := joined.mem (by simp)
        exact goes_on found started
  | finish _ | abandon _ =>
      refine before ?_
      simp only [Traffic.advance, wakersAt, line_settle] at member
      split at member
      · cases member
      · exact member
  | depart _ => exact before (mem_wakersAt_leave member)

private theorem attended_run (moves : List (Move κ ω ρ)) :
    (run (moves.map Move.signed)).Attended := by
  induction moves using List.reverseRecOn with
  | nil => exact fun _ _ member => absurd member List.not_mem_nil
  | append_singleton moves move ih =>
      have manned := manned_run (moves.map Move.signed)
      rw [List.map_append, List.map_singleton, run_append_singleton]
      exact ih.turn (storied_run _) manned (signs_signed move) (manned.unsettled.turn move.signed)

/-- A move wakes callers of its own key alone. -/
private theorem Attended.wakes {traffic next : Traffic κ (Nat × ω) ρ} {move : Move κ (Nat × ω) ρ}
    {woken : List (Nat × ω)} (attended : traffic.Attended) (storied : traffic.Storied)
    (marks : traffic.Marks key mine) (turn : traffic.Turn move woken next) :
    ∀ waker ∈ woken, ∃ number, move.caller? = some number ∧ mine waker.1 = mine number := by
  have of_line : ∀ {number own call}, traffic.Leads number own call →
      ∀ waker ∈ traffic.flight.wakersAt call, mine waker.1 = mine number := by
    intro number own call leads waker member
    obtain ⟨key', phase, leader, found, started⟩ := attended call waker member
    have same := (storied.recorded.leader _ _ _ _ _ started (storied.started_of_leads leads)).2
    rw [Bool.eq_iff_iff, marks _ _ found, marks _ _ leads, same]
  cases turn with
  | stay _ _ | call | lead _ _ _ | join _ _ _ | wait _ _ | share _ _ | forgo _ | depart _ =>
      exact fun _ member => absurd member List.not_mem_nil
  | @finish number _ _ _ found | @abandon number _ _ found =>
      exact fun waker member => ⟨number, rfl, of_line found waker member⟩

/-! ## Whole runs -/

theorem Marks.of_append {before after : List (Move κ ω ρ)}
    (marks : (run (before ++ after)).Marks key mine) : (run before).Marks key mine := by
  rintro number ⟨own, phase⟩ found
  have stays : ∃ phase', (run (before ++ after)).callers[number]? = some ⟨own, phase'⟩ :=
    stays_run (fun traffic => ∃ phase', traffic.callers[number]? = some ⟨own, phase'⟩)
      (fun _ _ turn ⟨_, found⟩ => turn.key_stays found) ⟨phase, found⟩
  obtain ⟨phase', later⟩ := stays
  exact marks number ⟨own, phase'⟩ later

theorem apart_new (key : κ) (mine : Nat → Bool) : Apart key mine ({} : Traffic κ ω ρ) {} where
  flight := agree_new key
  arrived := rfl
  own := fun _ _ => .none

/-- The turn that a move takes, in a run or in the one without the other callers. -/
private theorem Apart.step (apart : Apart key mine kept full) (marks : full.Marks key mine)
    (storied : full.Storied) (manned : full.Manned) (manned' : kept.Manned) (move : Move κ ω ρ) :
    if move.caller?.all mine then
      (kept.step move).1 = (full.step move).1 ∧ Apart key mine (kept.step move).2 (full.step move).2
    else Apart key mine kept (full.step move).2 := by
  have turn := manned.unsettled.turn move
  split
  · next own =>
      obtain ⟨next, turn', apart'⟩ := apart.turn_own marks ((Option.all_eq_true _ _).mp own) turn
      rw [manned'.unsettled.step_eq turn']
      exact ⟨rfl, apart'⟩
  · next foreign =>
      cases by_number : move.caller? with
      | none => simp [by_number] at foreign
      | some number =>
          rw [by_number] at foreign
          exact apart.turn_foreign marks storied manned by_number (by simpa using foreign) turn

theorem apart_run {moves : List (Move κ ω ρ)} (marks : (run moves).Marks key mine) :
    Apart key mine (run (only mine moves)) (run moves) := by
  induction moves using List.reverseRecOn with
  | nil => exact apart_new key mine
  | append_singleton moves move ih =>
      have marks_before := marks.of_append
      have stepped := (ih marks_before).step marks_before (storied_run moves) (manned_run moves)
        (manned_run _) move
      rw [only_append_singleton, run_append_singleton]
      split
      · next own =>
          rw [if_pos own] at stepped
          rw [run_append_singleton]
          exact stepped.2
      · next foreign =>
          rw [if_neg foreign] at stepped
          exact stepped

/-- The callers of the key are woken as in the run without the others. -/
theorem wakeUps_only {moves : List (Move κ ω ρ)} (marks : (run moves).Marks key mine) :
    wakeUps (only mine moves) = (wakeUps moves).filter fun waker => mine waker.1 := by
  induction moves using List.reverseRecOn with
  | nil => rfl
  | append_singleton moves move ih =>
      have signed_marks : (run (moves.map Move.signed)).Marks key mine := by
        rw [Marks, callers_signed]
        exact marks.of_append
      have storied := storied_run (moves.map Move.signed)
      have manned := manned_run (moves.map Move.signed)
      have apart := apart_run signed_marks
      rw [only_signed] at apart
      have stepped := apart.step signed_marks storied manned (manned_run _) move.signed
      have turn := manned.unsettled.turn move.signed
      have wakes := (attended_run moves).wakes storied signed_marks turn
      rw [caller?_signed] at stepped wakes
      rw [only_append_singleton, wakeUps_append_singleton, List.filter_append, ← ih marks.of_append]
      split
      · next own =>
          rw [if_pos own] at stepped
          rw [wakeUps_append_singleton, stepped.1]
          congr 1
          refine (List.filter_eq_self.mpr fun waker member => ?_).symm
          obtain ⟨number, by_number, same⟩ := wakes waker member
          rw [same]
          exact (Option.all_eq_true _ _).mp own number by_number
      · next foreign =>
          refine (List.append_right_eq_self.mpr ?_).symm
          refine List.filter_eq_nil_iff.mpr fun waker member own => foreign ?_
          obtain ⟨number, by_number, same⟩ := wakes waker member
          rw [by_number, Option.all_some, ← same]
          exact own

/-! ## What the callers of a key see -/

/-- Whether caller `number` asks for the key. -/
def asks (traffic : Traffic κ ω ρ) (key : κ) (number : Nat) : Bool :=
  traffic.callers[number]?.any fun caller => decide (caller.key = key)

theorem marks_asks (traffic : Traffic κ ω ρ) (key : κ) : traffic.Marks key (traffic.asks key) := by
  intro number caller found
  simp [asks, found]

/-- Nobody who asks for the key can tell the run from the one without the others' moves. -/
structure Isolated (key : κ) (mine : Nat → Bool) (moves : List (Move κ ω ρ)) : Prop where
  /-- They have come to the same points, with the same results. -/
  callers : ∀ number, mine number = true →
    Option.Rel (Caller.Twin (callsFor key (run moves).history))
      (run (only mine moves)).callers[number]? (run moves).callers[number]?
  wakeUps : wakeUps (only mine moves) = (wakeUps moves).filter fun waker => mine waker.1
  waiters : (run (only mine moves)).flight.waiters key = (run moves).flight.waiters key
  inFlight : (run (only mine moves)).flight.registry.contains key =
    (run moves).flight.registry.contains key

theorem isolated_of_marks {moves : List (Move κ ω ρ)} (marks : (run moves).Marks key mine) :
    Isolated key mine moves where
  callers := (apart_run marks).own
  wakeUps := wakeUps_only marks
  waiters := (apart_run marks).flight.waiters
  inFlight := (apart_run marks).flight.contains_eq

end Traffic

end Keyed

end Cohort.Flight
