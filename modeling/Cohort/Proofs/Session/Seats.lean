import Cohort.Proofs.Manager.Dealings
import Cohort.Proofs.Seating
import Cohort.Proofs.Session.Shelves

/-!
# Seats in a session

The seats of a session are those at its limits, gates and calls. A task that waits for
somebody else has a seat there. No act unseats anybody but its own task without queueing
the task that is to be woken for it, and no act seats any other waker than that of the
task that is polled.
-/

set_option autoImplicit false

namespace Cohort

/-- Where somebody can have a seat. -/
inductive Place where
  | limit (number : Nat)
  | flight (number call : Nat)
  | manager (number call : Nat)
  | gate (number : Nat)

abbrev Seat := Place × Nat

def Home.place (call : Nat) : Home → Place
  | .flight number _ => .flight number call
  | .manager number => .manager number call

def Stake.seat? : Stake → Option Seat
  | .gate number place => some (.gate number, place)
  | .borrow limit ticket _ => some (.limit limit, ticket.toNat)
  | .follow home _ call ticket => some (home.place call, ticket.toNat)
  | .turn | .guard _ | .lead _ _ _ => none

namespace Shelf

variable {α β : Type} [Inhabited α]

/-- A new object that looks like no object at all does not show. -/
private theorem map_get_put (look : α → β) {item : α} (same : look item = look default)
    (shelf : Shelf α) (name : String) (number : Nat) :
    look ((shelf.put name item).2.get number) = look (shelf.get number) := by
  rw [get_put]
  split
  · next last => rw [same, get_of_size_le (Nat.le_of_eq last.symm)]
  · rfl

private theorem get_obtain (shelf : Shelf α) (name : String) (number : Nat) :
    (shelf.obtain name).2.get number = shelf.get number := by
  unfold obtain
  cases shelf.number? name with
  | none => exact map_get_put id rfl shelf name number
  | some _ => rfl

end Shelf

namespace Bench

def seatingAt (bench : Bench) : Place → Seating Nat Waker
  | .limit number => (bench.limits.get number).seating
  | .flight number call => (bench.flights.get number).seatingAt call
  | .manager number call => (bench.managers.get number).flight.seatingAt call
  | .gate number => (bench.gates.get number).seating

def seating (bench : Bench) : Seating Seat Waker :=
  Seating.all bench.seatingAt

variable {bench changed next : Bench} {waker : Waker} {called : List Waker} {number call : Nat}
  {place : Place} {spared : Nat → Prop} {seats : List Seat}

open Seating (ChangeAt)

/-! ## One object changes -/

private theorem changeAt_setLimit {limit : Limit Waker}
    (change : (bench.limits.get number).seating.Change limit.seating waker spared called) :
    ChangeAt bench.seatingAt (bench.setLimit number limit).seatingAt (.limit number) waker spared
      called where
  here := by
    simp only [seatingAt, setLimit, Shelf.get_set, true_and]
    split
    · exact change
    · exact change.undone
  elsewhere := by
    intro other different
    cases other with
    | limit one =>
        have apart : one ≠ number := fun same => different (same ▸ rfl)
        simp only [seatingAt, setLimit, Shelf.get_set, apart, false_and, if_false]
    | flight _ _ | manager _ _ | gate _ => rfl

private theorem changeAt_setFlight {flight : Flight String Waker Outcome}
    (change : ChangeAt (bench.flights.get number).seatingAt flight.seatingAt call waker spared
      called) :
    ChangeAt bench.seatingAt (bench.setFlight number flight).seatingAt (.flight number call) waker
      spared called where
  here := by
    simp only [seatingAt, setFlight, Shelf.get_set, true_and]
    split
    · exact change.here
    · exact change.here.undone
  elsewhere := by
    intro other different
    cases other with
    | flight one another =>
        simp only [seatingAt, setFlight, Shelf.get_set]
        split
        · next same =>
            have apart : another ≠ call := fun equal => different (by rw [same.1, equal])
            rw [change.elsewhere another apart, same.1]
        · rfl
    | limit _ | manager _ _ | gate _ => rfl

private theorem changeAt_setManager {manager : Manager String Waker Nat String}
    (change : ChangeAt (bench.managers.get number).flight.seatingAt manager.flight.seatingAt call
      waker spared called) :
    ChangeAt bench.seatingAt (bench.setManager number manager).seatingAt (.manager number call)
      waker spared called where
  here := by
    simp only [seatingAt, setManager, Shelf.get_set, true_and]
    split
    · exact change.here
    · exact change.here.undone
  elsewhere := by
    intro other different
    cases other with
    | manager one another =>
        simp only [seatingAt, setManager, Shelf.get_set]
        split
        · next same =>
            have apart : another ≠ call := fun equal => different (by rw [same.1, equal])
            rw [change.elsewhere another apart, same.1]
        · rfl
    | limit _ | flight _ _ | gate _ => rfl

private theorem changeAt_setGate {gate : Gate Waker}
    (change : (bench.gates.get number).seating.Change gate.seating waker spared called) :
    ChangeAt bench.seatingAt { bench with gates := bench.gates.set number gate }.seatingAt
      (.gate number) waker spared called where
  here := by
    simp only [seatingAt, Shelf.get_set, true_and]
    split
    · exact change
    · exact change.undone
  elsewhere := by
    intro other different
    cases other with
    | gate one =>
        have apart : one ≠ number := fun same => different (same ▸ rfl)
        simp only [seatingAt, Shelf.get_set, apart, false_and, if_false]
    | limit _ | flight _ _ | manager _ _ => rfl

/-- The seats do not change with a manager whose flight stays the same. -/
private theorem seatingAt_setManager {manager : Manager String Waker Nat String}
    (same : manager.flight = (bench.managers.get number).flight) :
    (bench.setManager number manager).seatingAt = bench.seatingAt := by
  funext place
  cases place with
  | manager one call =>
      simp only [seatingAt, setManager, Shelf.get_set]
      split
      · next changed => rw [same, changed.1]
      · rfl
  | limit _ | flight _ _ | gate _ => rfl

theorem Beside.seatingAt (beside : bench.Beside next) : next.seatingAt = bench.seatingAt := by
  obtain ⟨_, _, _, rfl⟩ := beside
  rfl

/-! ## The queue -/

private theorem ready_enqueue (bench : Bench) (task : String) :
    (bench.enqueue task).ready =
      if task ∈ bench.ready then bench.ready else bench.ready ++ [task] := by
  by_cases queued : task ∈ bench.ready <;> simp [enqueue, queued]

theorem mem_ready_enqueue {task other : String} :
    other ∈ (bench.enqueue task).ready ↔ other ∈ bench.ready ∨ other = task := by
  rw [ready_enqueue]
  split
  · next queued =>
      constructor
      · exact Or.inl
      · rintro (member | rfl)
        · exact member
        · exact queued
  · simp

theorem nodup_ready_enqueue (once : bench.ready.Nodup) (task : String) :
    (bench.enqueue task).ready.Nodup := by
  rw [ready_enqueue]
  split
  · exact once
  · next absent =>
      refine List.nodup_append.mpr ⟨once, List.nodup_singleton _, ?_⟩
      intro queued member other single same
      rw [List.mem_singleton.mp single] at same
      exact absent (same ▸ member)

theorem mem_ready_wake {task : String} :
    task ∈ (bench.wake waker).ready ↔ task ∈ bench.ready ∨ task = waker.task :=
  @mem_ready_enqueue (bench.emit (.woken waker.label)) waker.task task

private theorem nodup_ready_wake (once : bench.ready.Nodup) : (bench.wake waker).ready.Nodup :=
  @nodup_ready_enqueue (bench.emit (.woken waker.label)) once waker.task

private theorem mem_ready_wakeAll {task : String} :
    task ∈ (bench.wakeAll called).ready ↔ task ∈ bench.ready ∨ task ∈ called.map Waker.task := by
  induction called generalizing bench with
  | nil => simp [wakeAll]
  | cons waker rest ih =>
      have woken : (bench.wakeAll (waker :: rest)).ready =
          ((bench.wake waker).wakeAll rest).ready := rfl
      rw [woken, ih, mem_ready_wake, or_assoc, List.map_cons, List.mem_cons]

private theorem nodup_ready_wakeAll (once : bench.ready.Nodup) :
    (bench.wakeAll called).ready.Nodup := by
  induction called generalizing bench with
  | nil => exact once
  | cons waker rest ih => exact ih (nodup_ready_wake once)

/-- What an act can do to seats and to the queue: it is about `seats`, and queues the tasks
of those that it calls. -/
structure Stirs (bench next : Bench) (waker : Waker) (seats : List Seat) (called : List Waker) :
    Prop where
  change : bench.seating.Change next.seating waker (· ∈ seats) called
  queued : ∀ {task}, task ∈ next.ready ↔ task ∈ bench.ready ∨ task ∈ called.map Waker.task
  once : bench.ready.Nodup → next.ready.Nodup

private theorem stirs_of_eq (seating : next.seatingAt = bench.seatingAt)
    (ready : next.ready = bench.ready)
    (waker : Waker) (seats : List Seat) : bench.Stirs next waker seats [] where
  change := Seating.change_of_eq (congrArg Seating.all seating) waker _
  queued := by simp [ready]
  once := fun once => ready ▸ once

private theorem stirs_wake (bench : Bench) (waker : Waker) (seats : List Seat) :
    bench.Stirs (bench.wake waker) waker seats [waker] where
  change := by
    unfold seating
    rw [(bench.beside_wake waker).seatingAt]
    refine ⟨Or.inl, Or.inl, fun member => Or.inl (List.mem_singleton.mp member), id, id, id⟩
  queued := by simp [mem_ready_wake]
  once := nodup_ready_wake

/-- An operation changes the seats at one place, and whoever it calls is woken. -/
private theorem stirs_of_rouses
    (change : ChangeAt bench.seatingAt changed.seatingAt place waker spared called)
    (ready : changed.ready = bench.ready) (rouses : changed.Rouses called next)
    (about : ∀ seat, spared seat → (place, seat) ∈ seats) :
    bench.Stirs next waker seats called := by
  obtain ⟨resources, events, rfl⟩ := rouses
  have reported : changed.Beside { changed with resources, events } := ⟨_, _, _, rfl⟩
  refine ⟨?_, ?_, fun once => nodup_ready_wakeAll (ready ▸ once)⟩
  · unfold seating
    rw [(reported.trans (beside_wakeAll ..)).seatingAt]
    refine change.all.mono ?_
    rintro ⟨one, seat⟩ ⟨rfl, spares⟩
    exact about seat spares
  · intro task
    rw [mem_ready_wakeAll, ← ready]

/-! ## Every act -/

private theorem stirs_putLimit {capacity : Nat} {limit : Limit Waker}
    (made : Limit.ofCapacity? capacity = some limit) (name : String) (waker : Waker)
    (seats : List Seat) :
    bench.Stirs { bench with limits := (bench.limits.put name limit).2 } waker seats [] := by
  have empty : limit.seating = (default : Limit Waker).seating := by
    unfold Limit.ofCapacity? at made
    split at made
    · cases made
    · cases made
      rfl
  refine stirs_of_eq ?_ ?_ waker seats
  case refine_2 => rfl
  funext place
  cases place with
  | limit number => exact Shelf.map_get_put Limit.seating empty bench.limits name number
  | flight _ _ | manager _ _ | gate _ => rfl

private theorem stirs_putFlight (name : String) (waker : Waker) (seats : List Seat) :
    bench.Stirs { bench with flights := (bench.flights.put name {}).2 } waker seats [] := by
  refine stirs_of_eq ?_ ?_ waker seats
  case refine_2 => rfl
  funext place
  cases place with
  | flight number call =>
      exact Shelf.map_get_put (fun flight => flight.seatingAt call) rfl bench.flights name number
  | limit _ | manager _ _ | gate _ => rfl

private theorem stirs_putManager (name : String) (waker : Waker) (seats : List Seat) :
    bench.Stirs { bench with managers := (bench.managers.put name {}).2 } waker seats [] := by
  refine stirs_of_eq ?_ ?_ waker seats
  case refine_2 => rfl
  funext place
  cases place with
  | manager number call =>
      exact Shelf.map_get_put (fun manager => manager.flight.seatingAt call) rfl bench.managers name
        number
  | limit _ | flight _ _ | gate _ => rfl

private theorem stirs_putGate (name : String) (waker : Waker) (seats : List Seat) :
    bench.Stirs { bench with gates := (bench.gates.obtain name).2 } waker seats [] := by
  refine stirs_of_eq ?_ ?_ waker seats
  case refine_2 => rfl
  funext place
  cases place with
  | gate number => exact congrArg Gate.seating (Shelf.get_obtain bench.gates name number)
  | limit _ | flight _ _ | manager _ _ => rfl

private theorem stirs_tryBorrow (limit : Nat) (waker : Waker) (seats : List Seat) :
    bench.Stirs (bench.tryBorrow limit).2 waker seats [] := by
  unfold tryBorrow
  cases taken : (bench.limits.get limit).take? with
  | none => exact stirs_of_eq rfl rfl waker seats
  | some changed =>
      have same := Seating.change_of_eq (Limit.seating_take? taken) waker (fun _ => False)
      exact stirs_of_rouses (changeAt_setLimit same) rfl (rouses_refl _) (fun _ => False.elim)

private theorem stirs_giveBack (limit : Nat) (waker : Waker) (seats : List Seat) :
    ∃ called, bench.Stirs (bench.giveBack limit).2 waker seats called := by
  unfold giveBack
  cases room : (bench.limits.get limit).putBack with
  | error error => exact ⟨[], stirs_of_eq rfl rfl waker seats⟩
  | ok change =>
      have handed := Limit.change_putBack room waker (fun _ => False)
      exact ⟨_, stirs_of_rouses (changeAt_setLimit handed) rfl (rouses_wakeAll ..)
        (fun _ => False.elim)⟩

/-- The seats of a borrow before its poll are those it uses, and those after it are gained. -/
private theorem mem_seats_claim {held : Option UInt64} {claim : Claim} {limit seat : Nat}
    {guarded : Bool} {used : List Stake}
    (before : ∀ ticket, held = some ticket → .borrow limit ticket guarded ∈ used)
    (member : seat ∈ Limit.seats held claim) :
    (.limit limit, seat) ∈ (used ++ claimStakes limit guarded claim).filterMap Stake.seat? := by
  cases claim with
  | parked ticket =>
      cases List.mem_singleton.mp member
      exact List.mem_filterMap.mpr ⟨_, List.mem_append_right _ (List.mem_singleton_self _), rfl⟩
  | taken =>
      obtain ⟨ticket, held, rfl⟩ := List.mem_map.mp member
      exact List.mem_filterMap.mpr
        ⟨_, List.mem_append_left _ (before ticket (Option.mem_toList.mp held)), rfl⟩

private theorem stirs_pollBorrow {used : List Stake} {limit : Nat} {held : Option UInt64}
    {guarded : Bool} (before : ∀ ticket, held = some ticket → .borrow limit ticket guarded ∈ used)
    (waker : Waker) :
    bench.Stirs (bench.pollBorrow limit held waker).2 waker
      ((used ++ claimStakes limit guarded (bench.pollBorrow limit held waker).1).filterMap
        Stake.seat?) [] :=
  stirs_of_rouses (changeAt_setLimit ((bench.limits.get limit).change_poll held waker)) rfl
    (rouses_refl _) fun _ => mem_seats_claim before

private theorem stirs_pollGate {used : List Stake} {gate : Nat} (place : Option Nat)
    (waker : Waker) :
    bench.Stirs (bench.pollGate gate place waker).2 waker
      ((used ++ passageStakes gate (bench.pollGate gate place waker).1).filterMap Stake.seat?)
      [] := by
  refine stirs_of_rouses (changeAt_setGate ((bench.gates.get gate).change_poll place waker)) rfl
    (rouses_refl _) fun seat member => ?_
  unfold pollGate
  cases polled : (bench.gates.get gate).poll place waker with
  | mk passage changed =>
      rw [polled] at member
      cases passage with
      | passed => exact absurd member List.not_mem_nil
      | parked own =>
          cases List.mem_singleton.mp member
          exact List.mem_filterMap.mpr ⟨_, List.mem_append_right _ (List.mem_singleton_self _), rfl⟩

/-- Whoever joins a call has its seat there among the seats gained. -/
private theorem mem_seats_entrance (home : Home) {used : List Stake} {key : String}
    {entrance : Entrance} {ticket : UInt64} (joined : entrance = .joins call ticket) :
    (home.place call, ticket.toNat) ∈
      (used ++ entrance.stakes home key).filterMap Stake.seat? := by
  subst joined
  exact List.mem_filterMap.mpr ⟨_, List.mem_append_right _ (List.mem_singleton_self _), rfl⟩

private theorem enter_flight_joins {marked : Bool} {key : String} {ticket : UInt64}
    (joined : ((bench.flights.get number).enter key waker).1 = .joins call ticket) :
    (bench.enter (.flight number marked) key waker).1 = .joins call ticket := by
  simp only [enter]
  cases same : (bench.flights.get number).enter key waker with
  | mk entry changed =>
      rw [same] at joined
      cases joined
      rfl

private theorem enter_manager_joins {key : String} {ticket : UInt64}
    (joined : ((bench.managers.get number).request key waker).1 = .joins call ticket) :
    (bench.enter (.manager number) key waker).1 = .joins call ticket := by
  simp only [enter]
  cases same : (bench.managers.get number).request key waker with
  | mk entry changed =>
      rw [same] at joined
      cases joined
      rfl

private theorem stirs_enter {used : List Stake} (bench : Bench) (home : Home) (key : String)
    (waker : Waker) :
    ∃ called, bench.Stirs (bench.enter home key waker).2 waker
      ((used ++ (bench.enter home key waker).1.stakes home key).filterMap Stake.seat?) called := by
  cases home with
  | flight number marked =>
      obtain ⟨call, change⟩ := (bench.flights.get number).changeAt_enter key waker
      refine ⟨_, stirs_of_rouses (changeAt_setFlight change) rfl (enter_flight ..) ?_⟩
      rintro seat ⟨ticket, joined, rfl⟩
      exact mem_seats_entrance (.flight number marked) (enter_flight_joins joined)
  | manager number =>
      obtain ⟨call, change⟩ := (bench.managers.get number).changeAt_request key waker
      refine ⟨_, stirs_of_rouses (changeAt_setManager change) rfl (enter_manager ..) ?_⟩
      rintro seat ⟨ticket, joined, rfl⟩
      exact mem_seats_entrance (.manager number) (enter_manager_joins joined)

private theorem mem_seats_following (home : Home) {used : List Stake} {key : String} {seat : Nat}
    {ρ : Type} {following : Following ρ} {known : Following Settlement}
    (same : ∀ ticket, following = .parked ticket → known = .parked ticket)
    (member : seat ∈ Call.seats following) :
    (home.place call, seat) ∈
      (used ++ followingStakes home key call known).filterMap Stake.seat? := by
  cases following with
  | settled _ => exact absurd member List.not_mem_nil
  | parked ticket =>
      cases List.mem_singleton.mp member
      rw [same ticket rfl]
      exact List.mem_filterMap.mpr ⟨_, List.mem_append_right _ (List.mem_singleton_self _), rfl⟩

private theorem stirs_follow {used : List Stake} (bench : Bench) (home : Home) (key : String)
    (call : Nat) (ticket : UInt64) (waker : Waker) :
    bench.Stirs (bench.follow home call ticket waker).2 waker
      ((used ++ followingStakes home key call (bench.follow home call ticket waker).1).filterMap
        Stake.seat?) [] := by
  cases home with
  | flight number marked =>
      have polled := (bench.flights.get number).changeAt_poll call ticket waker
      refine stirs_of_rouses (changeAt_setFlight polled) rfl
        (follow_flight bench number marked call ticket waker ▸ rouses_refl _) fun seat => ?_
      refine mem_seats_following (.flight number marked) fun later parked => ?_
      simp only [follow]
      cases same : (bench.flights.get number).poll call ticket waker with
      | mk following changed =>
          rw [same] at parked
          cases parked
          rfl
  | manager number =>
      have polled : ChangeAt _
          ((bench.managers.get number).poll call ticket waker).2.flight.seatingAt call waker _ [] :=
        (bench.managers.get number).flight.changeAt_poll call ticket waker
      refine stirs_of_rouses (changeAt_setManager polled) rfl
        (follow_manager bench number call ticket waker ▸ rouses_refl _) fun seat => ?_
      refine mem_seats_following (.manager number) fun later parked => ?_
      simp only [follow, Manager.poll]
      cases same : (bench.managers.get number).flight.poll call ticket waker with
      | mk following changed =>
          rw [same] at parked
          cases parked
          rfl

private theorem mem_seats_used {used gained : List Stake} {stake : Stake} {seat : Seat}
    (member : stake ∈ used) (sat : stake.seat? = some seat) :
    seat ∈ (used ++ gained).filterMap Stake.seat? :=
  List.mem_filterMap.mpr ⟨stake, List.mem_append_left _ member, sat⟩

private theorem stirs_unfollow {used gained : List Stake} (bench : Bench) {home : Home}
    {key : String} {call : Nat} {ticket : UInt64} (member : .follow home key call ticket ∈ used)
    (waker : Waker) :
    bench.Stirs (bench.unfollow home call ticket) waker
      ((used ++ gained).filterMap Stake.seat?) [] := by
  cases home with
  | flight number marked =>
      have left := (bench.flights.get number).changeAt_leave call ticket waker
      refine stirs_of_rouses (changeAt_setFlight left) rfl (rouses_refl _) ?_
      rintro seat rfl
      exact mem_seats_used member rfl
  | manager number =>
      have left : ChangeAt _ ((bench.managers.get number).leave call ticket).flight.seatingAt call
          waker _ [] := (bench.managers.get number).flight.changeAt_leave call ticket waker
      refine stirs_of_rouses (changeAt_setManager left) rfl (rouses_refl _) ?_
      rintro seat rfl
      exact mem_seats_used member rfl

/-- Settling a call is about nobody's seat: all who sit there are called. -/
private theorem stirs_finish (bench : Bench) (home : Home) (key : String) (call : Nat)
    (outcome : Outcome) (waker : Waker) (seats : List Seat) :
    ∃ called, bench.Stirs (bench.finish home key call outcome).2 waker seats called := by
  cases home with
  | flight number marked =>
      have settled := (bench.flights.get number).changeAt_settle key call (.done outcome) waker
        (fun _ => False)
      exact ⟨_, stirs_of_rouses (changeAt_setFlight settled) rfl (finish_flight ..)
        (fun _ => False.elim)⟩
  | manager number =>
      -- The resource is installed first, which is nothing to the flight.
      let installed :=
        (bench.managers.get number).install key (created (bench.resources.size + 1) outcome)
      have same : installed.2.flight = (bench.managers.get number).flight :=
        Manager.flight_install ..
      have settled : ChangeAt (bench.managers.get number).flight.seatingAt
          (installed.2.finish key call installed.1).2.flight.seatingAt call waker (fun _ => False)
          (installed.2.finish key call installed.1).1 := by
        rw [← same]
        exact installed.2.flight.changeAt_settle key call (.done installed.1) waker _
      exact ⟨_, stirs_of_rouses (changeAt_setManager settled) rfl (finish_manager ..)
        (fun _ => False.elim)⟩

private theorem stirs_abandon (bench : Bench) (home : Home) (key : String) (call : Nat)
    (waker : Waker) (seats : List Seat) :
    ∃ called, bench.Stirs (bench.abandon home key call) waker seats called := by
  cases home with
  | flight number marked =>
      have settled := (bench.flights.get number).changeAt_settle key call .abandoned waker
        (fun _ => False)
      exact ⟨_, stirs_of_rouses (changeAt_setFlight settled) rfl (abandon_flight ..)
        (fun _ => False.elim)⟩
  | manager number =>
      have settled : ChangeAt _ ((bench.managers.get number).abandon key call).2.flight.seatingAt
          call waker _ _ :=
        (bench.managers.get number).flight.changeAt_settle key call .abandoned waker
          (fun _ => False)
      exact ⟨_, stirs_of_rouses (changeAt_setManager settled) rfl (abandon_manager ..)
        (fun _ => False.elim)⟩

private theorem stirs_inject (bench : Bench) (manager : Nat) (key : String) (resource : Nat)
    (waker : Waker) (seats : List Seat) :
    bench.Stirs (bench.inject manager key resource).2 waker seats [] := by
  unfold inject
  cases injected : (bench.managers.get manager).inject key resource with
  | error error => exact stirs_of_eq rfl rfl waker seats
  | ok change =>
      refine stirs_of_eq ?_ ?_ waker seats
      case refine_2 => rfl
      refine @seatingAt_setManager (bench.note (.injectingResource key)) manager change.2 ?_
      unfold Manager.inject at injected
      split at injected
      · cases injected
        rfl
      · cases injected

theorem Act.stirs {used gained : List Stake} (act : Act waker used bench gained next) :
    ∃ called, bench.Stirs next waker ((used ++ gained).filterMap Stake.seat?) called := by
  cases act with
  | emit | turn | resources | leaveGate | renameLimit =>
      refine ⟨[], stirs_of_eq ?_ ?_ waker _⟩
      · rfl
      · rfl
  | wake => exact ⟨_, stirs_wake bench waker _⟩
  | putGate name => exact ⟨[], stirs_putGate name waker _⟩
  | unlock gate =>
      have unlocked := (bench.gates.get gate).change_unlock waker (fun _ => False)
      exact ⟨_, stirs_of_rouses (changeAt_setGate unlocked) rfl (rouses_wakeAll ..)
        (fun _ => False.elim)⟩
  | pollGate _ | repollGate => exact ⟨[], stirs_pollGate _ waker⟩
  | putLimit name made => exact ⟨[], stirs_putLimit made name waker _⟩
  | tryBorrow _ | tryGuard _ _ => exact ⟨[], stirs_tryBorrow _ waker _⟩
  | giveBack _ | release => exact stirs_giveBack _ waker _
  | pollBorrow guarded _ =>
      exact ⟨[], stirs_pollBorrow (fun _ held => by cases held) waker⟩
  | repollBorrow limit ticket guarded =>
      refine ⟨[], stirs_pollBorrow (fun _ held => ?_) waker⟩
      cases held
      exact List.mem_singleton_self _
  | cancelBorrow limit ticket guarded =>
      have cancelled := (bench.limits.get limit).change_cancel ticket waker
      refine ⟨_, stirs_of_rouses (changeAt_setLimit cancelled) rfl (rouses_wakeAll ..) ?_⟩
      rintro seat rfl
      exact List.mem_singleton_self _
  | putFlight name => exact ⟨[], stirs_putFlight name waker _⟩
  | putManager name => exact ⟨[], stirs_putManager name waker _⟩
  | inject key resource _ => exact ⟨[], stirs_inject bench _ key resource waker _⟩
  | shut _ =>
      refine ⟨[], stirs_of_eq (seatingAt_setManager ?_) ?_ waker _⟩
      · rfl
      · rfl
  | enter key _ | restart _ => exact stirs_enter bench _ _ waker
  | follow home key call ticket _ => exact ⟨[], stirs_follow bench home key call ticket waker⟩
  | unfollow home key call ticket =>
      exact ⟨[], stirs_unfollow bench (List.mem_singleton_self _) waker⟩
  | finish home key call outcome => exact stirs_finish bench home key call outcome waker _
  | abandon home key call => exact stirs_abandon bench home key call waker _

end Bench

end Cohort
