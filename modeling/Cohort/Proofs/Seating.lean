import Mathlib.Data.List.Basic
import Cohort.Gate
import Cohort.Manager
import Cohort.Proofs.Flight.Leaders
import Cohort.Proofs.Limit.WakeUps

/-!
# Seats

Whoever waits for somebody else has a seat: a ticket of a line, or a place at a gate. It
sits there from the poll that parked it until it is woken, and its waker sits there for
it. Lines, calls and gates are alike in what can happen to seats: nobody is unseated
without being woken except by a poll or a drop of its own.
-/

set_option autoImplicit false

namespace Cohort

structure Seating (ι ω : Type) where
  sits : ι → ω → Prop
  /-- Somebody has had the seat. -/
  given : ι → Prop
  /-- So few were given a seat that no seat was given twice. -/
  few : Prop
  /-- Nobody sits where there is nothing to wait for any more. -/
  tidy : Prop

namespace Seating

variable {ν ι ω : Type}

/-- What an operation can do to seats: those that it is about are `spared` from what holds
of all others. It calls the wakers `called`, and may seat `waker`. -/
structure Change (before after : Seating ι ω) (waker : ω) (spared : ι → Prop)
    (called : List ω) : Prop where
  fresh : ∀ {seat one}, after.sits seat one → before.sits seat one ∨ one = waker ∧ spared seat
  kept : ∀ {seat one}, before.sits seat one → after.sits seat one ∨ one ∈ called ∨ spared seat
  sat : ∀ {one}, one ∈ called → one = waker ∨ ∃ seat, before.sits seat one
  given : ∀ {seat}, before.given seat → after.given seat
  few : after.few → before.few
  tidy : before.tidy → after.tidy

variable {before after : Seating ι ω} {waker : ω} {spared others : ι → Prop} {called : List ω}

private theorem change_refl (seating : Seating ι ω) (waker : ω) (spared : ι → Prop) :
    seating.Change seating waker spared [] where
  fresh := Or.inl
  kept := Or.inl
  sat := fun member => absurd member List.not_mem_nil
  given := id
  few := id
  tidy := id

theorem change_of_eq (same : after = before) (waker : ω) (spared : ι → Prop) :
    before.Change after waker spared [] :=
  same ▸ change_refl before waker spared

theorem Change.mono (change : before.Change after waker spared called)
    (more : ∀ seat, spared seat → others seat) : before.Change after waker others called where
  fresh := fun sits => (change.fresh sits).imp_right (And.imp_right (more _))
  kept := fun sits => (change.kept sits).imp_right (Or.imp_right (more _))
  sat := change.sat
  given := change.given
  few := change.few
  tidy := change.tidy

/-- The operation came to nothing, but for the wakers that it called. -/
theorem Change.undone (change : before.Change after waker spared called) :
    before.Change before waker spared called where
  fresh := Or.inl
  kept := Or.inl
  sat := change.sat
  given := id
  few := id
  tidy := id

/-- All seats, each with its place. -/
def all (each : ν → Seating ι ω) : Seating (ν × ι) ω where
  sits seat one := (each seat.1).sits seat.2 one
  given seat := (each seat.1).given seat.2
  few := ∀ place, (each place).few
  tidy := ∀ place, (each place).tidy

/-- The seats at one place change, and no others. -/
structure ChangeAt (before after : ν → Seating ι ω) (place : ν) (waker : ω) (spared : ι → Prop)
    (called : List ω) : Prop where
  here : (before place).Change (after place) waker spared called
  elsewhere : ∀ other, other ≠ place → after other = before other

section ChangeAt

variable {earlier later : ν → Seating ι ω} {place : ν}

private theorem changeAt_of_eq (same : later = earlier) (place : ν) (waker : ω)
    (spared : ι → Prop) :
    ChangeAt earlier later place waker spared [] :=
  ⟨change_of_eq (congrFun same place) waker spared, fun other _ => congrFun same other⟩

private theorem ChangeAt.mono (change : ChangeAt earlier later place waker spared called)
    (more : ∀ seat, spared seat → others seat) :
    ChangeAt earlier later place waker others called :=
  ⟨change.here.mono more, change.elsewhere⟩

theorem ChangeAt.all (change : ChangeAt earlier later place waker spared called) :
    (all earlier).Change (all later) waker (fun seat => seat.1 = place ∧ spared seat.2)
      called where
  fresh := by
    intro seat sitter sits
    simp only [Seating.all] at sits ⊢
    by_cases here : seat.1 = place
    · rw [here] at sits ⊢
      exact (change.here.fresh sits).imp_right fun both => ⟨both.1, rfl, both.2⟩
    · rw [change.elsewhere _ here] at sits
      exact Or.inl sits
  kept := by
    intro seat sitter sits
    simp only [Seating.all] at sits ⊢
    by_cases here : seat.1 = place
    · rw [here] at sits ⊢
      exact (change.here.kept sits).imp_right (Or.imp_right fun spares => ⟨rfl, spares⟩)
    · rw [change.elsewhere _ here]
      exact Or.inl sits
  sat := fun member =>
    (change.here.sat member).imp_right fun ⟨seat, sits⟩ => ⟨(place, seat), sits⟩
  given := by
    intro seat given
    simp only [Seating.all] at given ⊢
    by_cases here : seat.1 = place
    · rw [here] at given ⊢
      exact change.here.given given
    · rwa [change.elsewhere _ here]
  few := by
    intro few other
    by_cases here : other = place
    · rw [here]
      exact change.here.few (few place)
    · exact change.elsewhere _ here ▸ few other
  tidy := by
    intro tidy other
    by_cases here : other = place
    · rw [here]
      exact change.here.tidy (tidy place)
    · exact (change.elsewhere _ here).symm ▸ tidy other

end ChangeAt

end Seating

variable {ω : Type}

/-! ## Lines -/

namespace WaitLine

variable {line : WaitLine ω} {waiter : Waiter ω} {waiters : List (Waiter ω)} {ticket : UInt64}
  {held : Option UInt64}

def seating (line : WaitLine ω) : Seating Nat ω where
  sits seat one := ∃ ticket, ⟨ticket, one⟩ ∈ line.waiters ∧ ticket.toNat = seat
  given seat := seat < line.drawn
  few := line.drawn < 2 ^ 64
  tidy := True

private theorem drawn_le_park (line : WaitLine ω) (held : Option UInt64) (waker : ω) :
    line.drawn ≤ (line.park held waker).2.drawn := by
  rw [park_eq]
  cases held with
  | none => exact Nat.le_succ _
  | some ticket => exact Nat.le_refl _

private theorem change_park (line : WaitLine ω) (held : Option UInt64) (waker : ω) :
    line.seating.Change (line.park held waker).2.seating waker
      (fun seat => seat = (line.park held waker).1.toNat) [] where
  fresh := by
    rintro seat one ⟨ticket, member, rfl⟩
    rcases mem_park member with stood | same
    · exact Or.inl ⟨ticket, stood, rfl⟩
    · cases same
      exact Or.inr ⟨rfl, rfl⟩
  kept := by
    rintro seat one ⟨ticket, member, rfl⟩
    by_cases own : ticket = (line.park held waker).1
    · exact Or.inr (Or.inr (congrArg UInt64.toNat own))
    · exact Or.inl ⟨ticket, mem_park_of_ne waker member own, rfl⟩
  sat := fun member => absurd member List.not_mem_nil
  given := fun given => Nat.lt_of_lt_of_le given (line.drawn_le_park held waker)
  few := fun few => Nat.lt_of_le_of_lt (line.drawn_le_park held waker) few
  tidy := id

private theorem sits_park (line : WaitLine ω) (held : Option UInt64) (waker : ω) :
    (line.park held waker).2.seating.sits (line.park held waker).1.toNat waker :=
  ⟨_, line.mem_park_self held waker, rfl⟩

/-- A newcomer gets a seat that nobody has had. -/
theorem given_park (few : line.seating.few) (waker : ω) :
    ¬ line.seating.given (line.park none waker).1.toNat ∧
      (line.park none waker).2.seating.given (line.park none waker).1.toNat := by
  have drawn : (line.draw none).1.toNat = line.drawn := toNat_next few
  rw [park_eq]
  simp only [seating, drawn]
  exact ⟨Nat.lt_irrefl _, Nat.lt_succ_self _⟩

private theorem change_leave (line : WaitLine ω) (ticket : UInt64) (waker : ω) :
    line.seating.Change (line.leave ticket).seating waker (fun seat => seat = ticket.toNat) [] where
  fresh := fun ⟨own, member, same⟩ => Or.inl ⟨own, List.mem_of_mem_filter member, same⟩
  kept := by
    rintro seat one ⟨own, member, rfl⟩
    by_cases same : own = ticket
    · exact Or.inr (Or.inr (congrArg UInt64.toNat same))
    · exact Or.inl ⟨own, List.mem_filter.mpr ⟨member, decide_eq_true same⟩, rfl⟩
  sat := fun member => absurd member List.not_mem_nil
  given := id
  few := id
  tidy := id

private theorem change_shift (line : WaitLine ω) (waker : ω) (spared : Nat → Prop) :
    line.seating.Change line.shift.2.seating waker spared line.shift.1.toList := by
  unfold shift
  cases waiters : line.waiters with
  | nil => exact Seating.change_refl _ _ _
  | cons front behind =>
      refine ⟨?_, ?_, ?_, id, id, id⟩
      · rintro seat one ⟨ticket, member, rfl⟩
        exact Or.inl ⟨ticket, waiters ▸ List.mem_cons_of_mem _ member, rfl⟩
      · rintro seat one ⟨ticket, member, rfl⟩
        rw [waiters] at member
        rcases List.mem_cons.mp member with rfl | member
        · exact Or.inr (Or.inl (List.mem_singleton_self _))
        · exact Or.inl ⟨ticket, member, rfl⟩
      · intro one member
        cases List.mem_singleton.mp member
        exact Or.inr ⟨_, front.ticket, waiters ▸ List.mem_cons_self, rfl⟩

private theorem change_drain (line : WaitLine ω) (waker : ω) (spared : Nat → Prop) :
    line.seating.Change line.drain.2.seating waker spared line.drain.1 where
  fresh := fun ⟨_, member, _⟩ => absurd member List.not_mem_nil
  kept := fun ⟨_, member, _⟩ => Or.inr (Or.inl (List.mem_map_of_mem member))
  sat := by
    intro one member
    obtain ⟨waiter, stood, rfl⟩ := List.mem_map.mp member
    exact Or.inr ⟨_, waiter.ticket, stood, rfl⟩
  given := id
  few := id
  tidy := id

end WaitLine

/-! ## Limits -/

namespace Limit

variable {limit changed : Limit ω} {ticket : UInt64}

def seating (limit : Limit ω) : Seating Nat ω :=
  limit.line.seating

theorem seating_take? (taken : limit.take? = some changed) : changed.seating = limit.seating := by
  unfold take? at taken
  split at taken
  · cases taken
  · cases taken
    rfl

private theorem change_wakeNext (limit : Limit ω) (waker : ω) (spared : Nat → Prop) :
    limit.seating.Change limit.wakeNext.2.seating waker spared limit.wakeNext.1.toList :=
  limit.line.change_shift waker spared

theorem change_putBack {woken : Option ω} (room : limit.putBack = .ok (woken, changed))
    (waker : ω) (spared : Nat → Prop) :
    limit.seating.Change changed.seating waker spared woken.toList := by
  unfold putBack at room
  split at room
  · cases room
  · cases Except.ok.inj room
    exact change_wakeNext { limit with available := limit.available + 1 } waker spared

theorem change_cancel (limit : Limit ω) (ticket : UInt64) (waker : ω) :
    limit.seating.Change (limit.cancel ticket).2.seating waker (fun seat => seat = ticket.toNat)
      (limit.cancel ticket).1.toList := by
  unfold cancel
  split
  · exact limit.line.change_leave ticket waker
  · exact limit.change_wakeNext waker _

/-- The seat of a borrow, before it is polled and after. -/
def seats (held : Option UInt64) : Claim → List Nat
  | .taken => held.toList.map UInt64.toNat
  | .parked ticket => [ticket.toNat]

theorem change_poll (limit : Limit ω) (held : Option UInt64) (waker : ω) :
    limit.seating.Change (limit.poll held waker).2.seating waker
      (· ∈ seats held (limit.poll held waker).1) [] := by
  rcases Nat.eq_zero_or_pos limit.available with spent | stocked
  · rw [poll_of_eq_zero spent]
    exact (limit.line.change_park held waker).mono fun seat => List.mem_singleton.mpr
  · rw [poll_of_pos stocked]
    cases held with
    | none => exact Seating.change_refl _ _ _
    | some ticket =>
        exact (limit.line.change_leave ticket waker).mono fun seat => List.mem_singleton.mpr

private theorem poll_parked {held : Option UInt64} {waker : ω}
    (parked : limit.poll held waker = (.parked ticket, changed)) :
    ticket = (limit.line.park held waker).1 ∧
      changed = { limit with line := (limit.line.park held waker).2 } := by
  rcases Nat.eq_zero_or_pos limit.available with spent | stocked
  · rw [poll_of_eq_zero spent] at parked
    cases parked
    exact ⟨rfl, rfl⟩
  · rw [poll_of_pos stocked] at parked
    cases parked

theorem sits_repoll {waker : ω} {later : UInt64}
    (parked : limit.poll (some ticket) waker = (.parked later, changed)) :
    later = ticket ∧ changed.seating.sits ticket.toNat waker := by
  obtain ⟨rfl, rfl⟩ := poll_parked parked
  have sits := limit.line.sits_park (some ticket) waker
  rw [WaitLine.fst_park_some] at sits ⊢
  exact ⟨rfl, sits⟩

/-- A borrow that is parked for the first time gets a seat that nobody has had. -/
theorem sits_arrive {waker : ω} (parked : limit.poll none waker = (.parked ticket, changed)) :
    changed.seating.sits ticket.toNat waker ∧
      (limit.seating.few → ¬ limit.seating.given ticket.toNat ∧
        changed.seating.given ticket.toNat) := by
  obtain ⟨rfl, rfl⟩ := poll_parked parked
  exact ⟨WaitLine.sits_park .., fun few => WaitLine.given_park few waker⟩

end Limit

/-! ## Calls and flights -/

namespace Call

variable {ρ : Type} {call changed : Call ω ρ} {waker : ω} {called : List ω}

def seating (call : Call ω ρ) : Seating Nat ω :=
  { call.line.seating with tidy := call.verdict ≠ none → call.line.waiters = [] }

private theorem change_line {spared : Nat → Prop}
    (change : call.line.seating.Change changed.line.seating waker spared called)
    (tidy : call.seating.tidy → changed.seating.tidy) :
    call.seating.Change changed.seating waker spared called where
  fresh := change.fresh
  kept := change.kept
  sat := change.sat
  given := change.given
  few := change.few
  tidy := tidy

/-- The seat of a follower once it was polled. -/
def seats : Following ρ → List Nat
  | .settled _ => []
  | .parked ticket => [ticket.toNat]

private theorem change_poll (call : Call ω ρ) (held : Option UInt64) (waker : ω) :
    call.seating.Change (call.poll held waker).2.seating waker (· ∈ seats (call.poll held waker).1)
      [] := by
  unfold poll
  cases reached : call.verdict with
  | some verdict => exact Seating.change_refl _ _ _
  | none =>
      refine change_line ?_ fun _ settled => absurd rfl settled
      exact (call.line.change_park held waker).mono fun seat => List.mem_singleton.mpr

private theorem change_leave (call : Call ω ρ) (ticket : UInt64) (waker : ω) :
    call.seating.Change (call.leave ticket).seating waker (fun seat => seat = ticket.toNat) [] := by
  refine change_line (call.line.change_leave ticket waker) fun tidy settled => ?_
  simp only [leave, WaitLine.leave, tidy settled, List.filter_nil]

private theorem change_settle (call : Call ω ρ) (verdict : Verdict ρ) (waker : ω)
    (spared : Nat → Prop) :
    call.seating.Change (call.settle verdict).2.seating waker spared (call.settle verdict).1 :=
  change_line (call.line.change_drain waker spared) fun _ _ => rfl

private theorem poll_parked {held : Option UInt64} {ticket : UInt64}
    (parked : call.poll held waker = (.parked ticket, changed)) :
    call.verdict = none ∧ ticket = (call.line.park held waker).1 ∧
      changed = { call with line := (call.line.park held waker).2 } := by
  unfold poll at parked
  cases reached : call.verdict with
  | some verdict =>
      rw [reached] at parked
      cases parked
  | none =>
      rw [reached] at parked
      cases parked
      exact ⟨rfl, rfl, rfl⟩

end Call

namespace Flight

open Seating (ChangeAt)

variable {κ ρ : Type} {flight changed : Flight κ ω ρ} {number : Nat} {ticket : UInt64} {waker : ω}

def seatingAt (flight : Flight κ ω ρ) (number : Nat) : Seating Nat ω :=
  (flight.call number).seating

private theorem changeAt_setCall {call : Call ω ρ} {spared : Nat → Prop} {called : List ω}
    (change : (flight.call number).seating.Change call.seating waker spared called) :
    ChangeAt flight.seatingAt (flight.setCall number call).seatingAt number waker spared
      called := by
  refine ⟨?_, fun other different => ?_⟩
  · simp only [seatingAt, call_setCall, true_and]
    split
    · exact change
    · exact change.undone
  · simp only [seatingAt, call_setCall, different, false_and, if_false]

theorem changeAt_poll (flight : Flight κ ω ρ) (number : Nat) (ticket : UInt64) (waker : ω) :
    ChangeAt flight.seatingAt (flight.poll number ticket waker).2.seatingAt number waker
      (· ∈ Call.seats (flight.poll number ticket waker).1) [] :=
  changeAt_setCall ((flight.call number).change_poll (some ticket) waker)

theorem changeAt_leave (flight : Flight κ ω ρ) (number : Nat) (ticket : UInt64) (waker : ω) :
    ChangeAt flight.seatingAt (flight.leave number ticket).seatingAt number waker
      (fun seat => seat = ticket.toNat) [] :=
  changeAt_setCall ((flight.call number).change_leave ticket waker)

theorem lt_size_of_given {seat : Nat} (given : (flight.seatingAt number).given seat) :
    number < flight.calls.size := by
  by_contra outside
  have absent : flight.call number = {} := by
    simp [Flight.call, Array.getD_eq_getD_getElem?, Nat.not_lt.mp outside]
  rw [seatingAt, absent] at given
  exact absurd given (Nat.not_lt_zero _)

theorem sits_poll (inside : number < flight.calls.size) {later : UInt64}
    (parked : flight.poll number ticket waker = (.parked later, changed)) :
    later = ticket ∧ (changed.seatingAt number).sits ticket.toNat waker := by
  unfold poll at parked
  cases polled : (flight.call number).poll (some ticket) waker with
  | mk following call =>
      rw [polled] at parked
      cases parked
      obtain ⟨_, same, rfl⟩ := Call.poll_parked polled
      have held : (((flight.call number).line.park (some ticket) waker).1) = ticket :=
        WaitLine.fst_park_some ..
      refine ⟨same.trans held, ?_⟩
      rw [seatingAt, call_setCall, if_pos ⟨rfl, inside⟩]
      have sits := (flight.call number).line.sits_park (some ticket) waker
      rwa [held] at sits

variable [DecidableEq κ] {key : κ}

private theorem seatingAt_lead (flight : Flight κ ω ρ) (key : κ) :
    (flight.lead key).seatingAt = flight.seatingAt := by
  funext number
  rw [seatingAt, call_lead, seatingAt]

theorem changeAt_settle (flight : Flight κ ω ρ) (key : κ) (number : Nat) (verdict : Verdict ρ)
    (waker : ω) (spared : Nat → Prop) :
    ChangeAt flight.seatingAt (flight.settle key number verdict).2.seatingAt number waker spared
      (flight.settle key number verdict).1 := by
  -- The seats do not depend on which key a call is registered for.
  have freed : ({ flight with registry := flight.registry.erase key } : Flight κ ω ρ).seatingAt =
      flight.seatingAt := rfl
  have settled := (flight.call number).change_settle verdict waker spared
  simp only [settle]
  rw [← freed]
  exact changeAt_setCall settled

/-- A caller that looks for a call changes nothing but for the seat it gets there. -/
theorem changeAt_enter (flight : Flight κ ω ρ) (key : κ) (waker : ω) :
    ∃ number, ChangeAt flight.seatingAt (flight.enter key waker).2.seatingAt number waker
      (fun seat => ∃ ticket, (flight.enter key waker).1 = .joins number ticket ∧
        ticket.toNat = seat) [] := by
  cases registered : flight.registry.find? key with
  | none =>
      rw [enter_of_free registered]
      exact ⟨0, Seating.changeAt_of_eq (flight.seatingAt_lead key) ..⟩
  | some number =>
      have polled := (flight.call number).change_poll none waker
      simp only [enter, registered]
      cases joined : (flight.call number).poll none waker with
      | mk following call =>
          rw [joined] at polled
          cases following with
          | settled verdict => exact ⟨0, Seating.changeAt_of_eq rfl ..⟩
          | parked ticket =>
              refine ⟨number, (changeAt_setCall polled).mono fun seat sits => ?_⟩
              exact ⟨ticket, rfl, (List.mem_singleton.mp sits).symm⟩

/-- Whoever joins a call gets a seat that nobody has had. -/
theorem sits_enter (inside : ∀ number, flight.registry.find? key = some number →
      number < flight.calls.size)
    (joined : flight.enter key waker = (.joins number ticket, changed)) :
    (changed.seatingAt number).sits ticket.toNat waker ∧
      ((flight.seatingAt number).few → ¬ (flight.seatingAt number).given ticket.toNat ∧
        (changed.seatingAt number).given ticket.toNat) := by
  cases registered : flight.registry.find? key with
  | none =>
      rw [enter_of_free registered] at joined
      cases joined
  | some one =>
      simp only [enter, registered] at joined
      cases polled : (flight.call one).poll none waker with
      | mk following call =>
          rw [polled] at joined
          cases following with
          | settled _ => cases joined
          | parked own =>
              cases joined
              obtain ⟨_, rfl, rfl⟩ := Call.poll_parked polled
              rw [seatingAt, call_setCall, if_pos ⟨rfl, inside _ registered⟩]
              exact ⟨WaitLine.sits_park .., fun few => WaitLine.given_park few waker⟩

end Flight

/-- The wakers that a caller calls who has its answer at once. -/
def Request.called {ρ ε : Type} : Request ω ρ ε → List ω
  | .answered _ woken => woken
  | .creates _ | .joins _ _ | .late _ => []

namespace Manager

open Seating (ChangeAt)

variable {κ ρ ε : Type}

variable [DecidableEq κ] {manager changed : Manager κ ω ρ ε} {key : κ} {number : Nat}
  {ticket : UInt64} {waker : ω}

/-- The answer settles a call that nobody can have joined yet. -/
theorem changeAt_finish_lead (manager : Manager κ ω ρ ε) (key : κ)
    (result : Except (ManagerError ε) ρ) (waker : ω) (spared : Nat → Prop) :
    ChangeAt manager.flight.seatingAt
      ({ manager with flight := manager.flight.lead key }.finish key manager.flight.calls.size
        result).2.flight.seatingAt manager.flight.calls.size waker spared
      ({ manager with flight := manager.flight.lead key }.finish key manager.flight.calls.size
        result).1 := by
  have settled := (manager.flight.lead key).changeAt_settle key manager.flight.calls.size
    (.done result) waker spared
  rwa [Flight.seatingAt_lead] at settled

theorem changeAt_request (manager : Manager κ ω ρ ε) (key : κ) (waker : ω) :
    ∃ number, ChangeAt manager.flight.seatingAt
      (manager.request key waker).2.flight.seatingAt number waker
      (fun seat => ∃ ticket, (manager.request key waker).1 = .joins number ticket ∧
        ticket.toNat = seat) (Request.called (manager.request key waker).1) := by
  cases registered : manager.flight.registry.find? key with
  | none =>
      simp only [request, Flight.enter_of_free registered]
      split
      · exact ⟨_, manager.changeAt_finish_lead key _ waker _⟩
      · exact ⟨_, manager.changeAt_finish_lead key _ waker _⟩
      · exact ⟨0, Seating.changeAt_of_eq (manager.flight.seatingAt_lead key) ..⟩
  | some call =>
      obtain ⟨number, entered⟩ := manager.flight.changeAt_enter key waker
      simp only [request]
      cases joined : manager.flight.enter key waker with
      | mk entry flight =>
          rw [joined] at entered
          cases entry with
          | leads call' =>
              simp only [Flight.enter, registered] at joined
              split at joined <;> cases joined
          | joins one ticket =>
              refine ⟨number, entered.mono ?_⟩
              rintro seat ⟨ticket', same, rfl⟩
              cases same
              exact ⟨ticket, rfl, rfl⟩
          | late verdict =>
              refine ⟨number, entered.mono ?_⟩
              rintro seat ⟨ticket', same, rfl⟩
              cases same

theorem enter_of_joins (joined : manager.request key waker = (.joins number ticket, changed)) :
    manager.flight.enter key waker = (.joins number ticket, changed.flight) := by
  unfold request at joined
  split at joined
  · next same =>
      cases joined
      exact same
  · cases joined
  · dsimp only at joined
    split at joined <;> cases joined

end Manager

/-! ## Gates -/

namespace Gate

variable {gate changed : Gate ω} {place : Nat} {waker : ω}

def seating (gate : Gate ω) : Seating Nat ω where
  sits seat one := gate.places[seat]? = some one
  given seat := gate.isOpen = true ∨ seat < gate.places.length
  few := True
  tidy := gate.isOpen = true → gate.places = []

def seats : Passage → List Nat
  | .passed => []
  | .parked place => [place]

private theorem change_repoll (places : List ω) (place : Nat) (waker : ω) :
    (⟨false, places⟩ : Gate ω).seating.Change (⟨false, places.set place waker⟩ : Gate ω).seating
      waker (· ∈ [place]) [] where
  fresh := by
    intro seat one sits
    simp only [seating, List.getElem?_set] at sits ⊢
    split at sits
    · next same =>
        split at sits
        · exact Or.inr ⟨(Option.some.inj sits).symm, List.mem_singleton.mpr same.symm⟩
        · cases sits
    · exact Or.inl sits
  kept := by
    intro seat one sits
    simp only [seating, List.getElem?_set] at sits ⊢
    by_cases same : place = seat
    · exact Or.inr (Or.inr (List.mem_singleton.mpr same.symm))
    · exact Or.inl (by rwa [if_neg same])
  sat := fun member => absurd member List.not_mem_nil
  given := by
    intro seat given
    simpa only [seating, List.length_set] using given
  few := id
  tidy := fun _ opens => by cases opens

private theorem change_arrive (places : List ω) (waker : ω) :
    (⟨false, places⟩ : Gate ω).seating.Change (⟨false, places ++ [waker]⟩ : Gate ω).seating waker
      (· ∈ [places.length]) [] where
  fresh := by
    intro seat one sits
    simp only [seating] at sits ⊢
    rcases Nat.lt_or_ge seat places.length with before | after
    · exact Or.inl (List.getElem?_append_left before ▸ sits)
    · rw [List.getElem?_append_right after] at sits
      have last := (List.getElem?_eq_some_iff.mp sits).1
      have same : seat = places.length := by
        simp only [List.length_singleton] at last
        omega
      subst same
      rw [Nat.sub_self] at sits
      exact Or.inr ⟨(Option.some.inj sits).symm, List.mem_singleton_self _⟩
  kept := by
    intro seat one sits
    have before := (List.getElem?_eq_some_iff.mp sits).1
    exact Or.inl ((List.getElem?_append_left before).trans sits)
  sat := fun member => absurd member List.not_mem_nil
  given := by
    intro seat given
    simp only [seating, List.length_append] at given ⊢
    exact given.imp_right fun before => Nat.lt_of_lt_of_le before (Nat.le_add_right _ _)
  few := id
  tidy := fun _ opens => by cases opens

theorem change_poll (gate : Gate ω) (held : Option Nat) (waker : ω) :
    gate.seating.Change (gate.poll held waker).2.seating waker (· ∈ seats (gate.poll held waker).1)
      [] := by
  obtain ⟨isOpen, places⟩ := gate
  cases isOpen with
  | true => exact Seating.change_refl _ _ _
  | false =>
      cases held with
      | some place => exact change_repoll places place waker
      | none => exact change_arrive places waker

theorem sits_repoll (given : gate.seating.given place) {later : Nat}
    (parked : gate.poll (some place) waker = (.parked later, changed)) :
    later = place ∧ changed.seating.sits place waker := by
  unfold poll at parked
  split at parked
  · cases parked
  · next shut =>
      cases parked
      exact ⟨rfl, List.getElem?_set_self (given.resolve_left shut)⟩

theorem sits_arrive (parked : gate.poll none waker = (.parked place, changed)) :
    changed.seating.sits place waker ∧ ¬ gate.seating.given place ∧
      changed.seating.given place := by
  unfold poll at parked
  split at parked
  · cases parked
  · next shut =>
      cases parked
      refine ⟨by simp [seating], ?_, by simp [seating]⟩
      exact fun given => Nat.lt_irrefl _ (given.resolve_left shut)

theorem change_unlock (gate : Gate ω) (waker : ω) (spared : Nat → Prop) :
    gate.seating.Change gate.unlock.2.seating waker spared gate.unlock.1 where
  fresh := by
    intro seat one sits
    cases sits
  kept := fun sits => Or.inr (Or.inl (List.mem_of_getElem? sits))
  sat := by
    intro one member
    obtain ⟨seat, sits⟩ := List.mem_iff_getElem?.mp member
    exact Or.inr ⟨seat, sits⟩
  given := fun _ => Or.inl rfl
  few := id
  tidy := fun _ _ => rfl

end Gate

end Cohort
