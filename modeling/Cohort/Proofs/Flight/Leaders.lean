import Mathlib.Data.List.Perm.Basic
import Cohort.Flight
import Cohort.Proofs.Table
import Cohort.Proofs.WaitLine

/-!
# Calls and their leaders

The key of a call is freed without a look at the call that it is registered for. That
it is the right one rests on the leaders alone: each leads a call of its own, under a
key that no other leader has.
-/

set_option autoImplicit false

namespace Cohort.Flight

variable {κ ω ρ : Type} {flight other : Flight κ ω ρ} {number : Nat}

/-! ## Calls by number -/

theorem call_setCall (flight : Flight κ ω ρ) (number one : Nat) (call : Call ω ρ) :
    (flight.setCall number call).call one =
      if one = number ∧ number < flight.calls.size then call else flight.call one := by
  simp only [Flight.call, setCall, Array.getD_eq_getD_getElem?, Array.getElem?_setIfInBounds]
  by_cases same : number = one
  · subst same
    by_cases inside : number < flight.calls.size <;> simp [inside]
  · simp [same, Ne.symm same]

private theorem setCall_call (flight : Flight κ ω ρ) (number : Nat) :
    flight.setCall number (flight.call number) = flight := by
  have same : flight.calls.setIfInBounds number (flight.call number) = flight.calls := by
    refine Array.ext_getElem? fun position => ?_
    rw [Array.getElem?_setIfInBounds]
    by_cases found : number = position
    · subst found
      by_cases inside : number < flight.calls.size <;> simp [inside, Flight.call]
    · simp [found]
  rw [setCall, same]

theorem call_of_size_le (outside : flight.calls.size ≤ number) : flight.call number = {} := by
  simp [Flight.call, Array.getD_eq_getD_getElem?, outside]

theorem lt_size_of_settled {verdict : Verdict ρ}
    (settled : (flight.call number).verdict = some verdict) : number < flight.calls.size := by
  rcases Nat.lt_or_ge number flight.calls.size with inside | outside
  · exact inside
  · rw [call_of_size_le outside] at settled
    cases settled

/-- The two differ at most in the lines of those who wait. -/
structure Alike (flight other : Flight κ ω ρ) : Prop where
  registry : other.registry = flight.registry
  size : other.calls.size = flight.calls.size
  verdict : ∀ number, (other.call number).verdict = (flight.call number).verdict

theorem alike_refl (flight : Flight κ ω ρ) : flight.Alike flight :=
  ⟨rfl, rfl, fun _ => rfl⟩

theorem alike_setCall {call : Call ω ρ} (same : call.verdict = (flight.call number).verdict) :
    flight.Alike (flight.setCall number call) where
  registry := rfl
  size := by simp [setCall]
  verdict := by
    intro one
    rw [call_setCall]
    split
    · next changed => rw [same, changed.1]
    · rfl

theorem alike_leave (flight : Flight κ ω ρ) (number : Nat) (ticket : UInt64) :
    flight.Alike (flight.leave number ticket) :=
  alike_setCall rfl

theorem poll_of_settled {verdict : Verdict ρ}
    (settled : (flight.call number).verdict = some verdict) (ticket : UInt64) (waker : ω) :
    flight.poll number ticket waker = (.settled verdict, flight) := by
  simp [poll, Call.poll, settled, setCall_call]

theorem poll_of_running (unsettled : (flight.call number).verdict = none) (ticket : UInt64)
    (waker : ω) :
    flight.poll number ticket waker =
      (.parked ticket,
        flight.setCall number
          { flight.call number with
            line := ((flight.call number).line.park (some ticket) waker).2 }) := by
  simp [poll, Call.poll, unsettled]

theorem poll_of_unsettled (unsettled : (flight.call number).verdict = none) (ticket : UInt64)
    (waker : ω) :
    ∃ polled, flight.poll number ticket waker = (.parked ticket, polled) ∧
      flight.Alike polled :=
  ⟨_, poll_of_running unsettled ticket waker, alike_setCall rfl⟩

theorem poll_eq_settled {ticket : UInt64} {waker : ω} {verdict : Verdict ρ}
    (polled : flight.poll number ticket waker = (.settled verdict, other)) :
    (flight.call number).verdict = some verdict ∧ other = flight := by
  cases reached : (flight.call number).verdict with
  | none =>
      obtain ⟨_, parked, _⟩ := poll_of_unsettled reached ticket waker
      rw [parked] at polled
      cases polled
  | some verdict' =>
      rw [poll_of_settled reached] at polled
      cases polled
      exact ⟨rfl, rfl⟩

/-! ## Leaders -/

/-- `leaders` are the keys and calls of all who lead at present, in any order. -/
structure Led (flight : Flight κ ω ρ) (leaders : List (κ × Nat)) : Prop where
  entries : leaders.Perm flight.registry.entries
  apart : flight.registry.keys.Nodup
  once : (leaders.map Prod.snd).Nodup
  open_iff : ∀ number, number ∈ leaders.map Prod.snd ↔
    number < flight.calls.size ∧ (flight.call number).verdict = none

variable {leaders rest : List (κ × Nat)} {key : κ}

theorem led_new : ({} : Flight κ ω ρ).Led [] where
  entries := List.Perm.nil
  apart := List.nodup_nil
  once := List.nodup_nil
  open_iff := by simp

theorem Led.perm {others : List (κ × Nat)} (led : flight.Led leaders)
    (same : leaders.Perm others) : flight.Led others where
  entries := same.symm.trans led.entries
  apart := led.apart
  once := (same.map Prod.snd).nodup_iff.mp led.once
  open_iff := fun number => (same.map Prod.snd).mem_iff.symm.trans (led.open_iff number)

theorem Led.alike (led : flight.Led leaders) (alike : flight.Alike other) :
    other.Led leaders where
  entries := alike.registry ▸ led.entries
  apart := alike.registry ▸ led.apart
  once := led.once
  open_iff := by
    intro number
    rw [alike.size, alike.verdict]
    exact led.open_iff number

theorem Led.lt_size (led : flight.Led leaders) (leads : (key, number) ∈ leaders) :
    number < flight.calls.size :=
  ((led.open_iff number).mp (List.mem_map.mpr ⟨_, leads, rfl⟩)).1

theorem Led.verdict_eq_none (led : flight.Led leaders) (leads : (key, number) ∈ leaders) :
    (flight.call number).verdict = none :=
  ((led.open_iff number).mp (List.mem_map.mpr ⟨_, leads, rfl⟩)).2

theorem Led.keys_nodup (led : flight.Led leaders) : (leaders.map Prod.fst).Nodup :=
  (led.entries.map Prod.fst).nodup_iff.mpr led.apart

theorem Led.inFlight_eq (led : flight.Led leaders) : flight.inFlight = leaders.length :=
  led.entries.length_eq.symm

section Keyed

variable [DecidableEq κ]

def lead (flight : Flight κ ω ρ) (key : κ) : Flight κ ω ρ where
  calls := flight.calls.push {}
  registry := flight.registry.insert key flight.calls.size

@[simp]
theorem registry_lead (flight : Flight κ ω ρ) (key : κ) :
    (flight.lead key).registry = flight.registry.insert key flight.calls.size := rfl

@[simp]
theorem size_lead (flight : Flight κ ω ρ) (key : κ) :
    (flight.lead key).calls.size = flight.calls.size + 1 := by
  simp [lead]

/-- A new call looks like one that does not exist yet. -/
@[simp]
theorem call_lead (flight : Flight κ ω ρ) (key : κ) (number : Nat) :
    (flight.lead key).call number = flight.call number := by
  simp only [lead, Flight.call, Array.getD_eq_getD_getElem?, Array.getElem?_push]
  split
  · simp_all
  · rfl

theorem enter_of_free (free : flight.registry.find? key = none) (waker : ω) :
    flight.enter key waker = (.leads flight.calls.size, flight.lead key) := by
  simp [enter, free, lead]

theorem enter_of_registered (registered : flight.registry.find? key = some number)
    (unsettled : (flight.call number).verdict = none) (waker : ω) :
    ∃ ticket entered, flight.enter key waker = (.joins number ticket, entered) ∧
      flight.Alike entered := by
  let line := (flight.call number).line.park none waker
  refine ⟨line.1, flight.setCall number { flight.call number with line := line.2 }, ?_,
    alike_setCall rfl⟩
  simp [enter, registered, Call.poll, unsettled, line]

theorem enter_ne_late (unsettled : ∀ call, flight.registry.find? key = some call →
    (flight.call call).verdict = none) (waker : ω) {verdict : Verdict ρ}
    {changed : Flight κ ω ρ} : flight.enter key waker ≠ (.late verdict, changed) := by
  intro late
  cases registered : flight.registry.find? key with
  | none =>
      rw [enter_of_free registered] at late
      cases late
  | some call =>
      obtain ⟨ticket, entered, joins, _⟩ :=
        enter_of_registered registered (unsettled call registered) waker
      rw [joins] at late
      cases late

@[simp]
theorem registry_settle (flight : Flight κ ω ρ) (key : κ) (number : Nat) (verdict : Verdict ρ) :
    (flight.settle key number verdict).2.registry = flight.registry.erase key := rfl

@[simp]
theorem size_settle (flight : Flight κ ω ρ) (key : κ) (number : Nat) (verdict : Verdict ρ) :
    (flight.settle key number verdict).2.calls.size = flight.calls.size := by
  simp [settle, setCall]

theorem verdict_settle (flight : Flight κ ω ρ) (key : κ) (number one : Nat)
    (verdict : Verdict ρ) :
    ((flight.settle key number verdict).2.call one).verdict =
      if one = number ∧ number < flight.calls.size then some verdict
      else (flight.call one).verdict := by
  have settled := call_setCall { flight with registry := flight.registry.erase key } number one
    ((flight.call number).settle verdict).2
  simp only [settle]
  rw [settled]
  split
  · rfl
  · rfl

theorem Led.find?_iff (led : flight.Led leaders) :
    flight.registry.find? key = some number ↔ (key, number) ∈ leaders := by
  rw [Table.find?_eq_some_iff led.apart, led.entries.mem_iff]

theorem Led.unsettled (led : flight.Led leaders) (key : κ) (call : Nat)
    (registered : flight.registry.find? key = some call) : (flight.call call).verdict = none :=
  led.verdict_eq_none (led.find?_iff.mp registered)

theorem Led.lead (led : flight.Led leaders) (free : flight.registry.find? key = none) :
    (flight.lead key).Led ((key, flight.calls.size) :: leaders) where
  entries := by
    rw [registry_lead, Table.entries_insert_of_find?_eq_none free]
    exact (led.entries.cons _).trans (List.perm_append_singleton _ _).symm
  apart := Table.nodup_keys_insert led.apart key _
  once := by
    refine List.nodup_cons.mpr ⟨fun member => ?_, led.once⟩
    exact Nat.lt_irrefl _ ((led.open_iff _).mp member).1
  open_iff := by
    intro number
    rw [List.map_cons, List.mem_cons, led.open_iff, call_lead, size_lead]
    constructor
    · rintro (rfl | ⟨before, unsettled⟩)
      · exact ⟨Nat.lt_succ_self _, by simp [Flight.call]⟩
      · exact ⟨Nat.lt_succ_of_lt before, unsettled⟩
    · rintro ⟨upTo, unsettled⟩
      rcases Nat.lt_succ_iff_lt_or_eq.mp upTo with before | last
      · exact Or.inr ⟨before, unsettled⟩
      · exact Or.inl last

/-- A leader's call is settled, and with it its key is freed. -/
theorem Led.settle (led : flight.Led ((key, number) :: rest)) (verdict : Verdict ρ) :
    (flight.settle key number verdict).2.Led rest where
  entries := (Table.entries_erase_perm led.apart led.entries.symm).symm
  apart := Table.nodup_keys_erase led.apart key
  once := (List.nodup_cons.mp led.once).2
  open_iff := by
    intro one
    have absent := (List.nodup_cons.mp led.once).1
    have inside := led.lt_size List.mem_cons_self
    rw [size_settle, verdict_settle]
    by_cases same : one = number
    · subst same
      simp [inside, absent]
    · have others := led.open_iff one
      simpa [same] using others

end Keyed

end Cohort.Flight
