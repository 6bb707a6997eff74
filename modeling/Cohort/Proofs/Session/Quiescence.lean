import Mathlib.Data.List.Permutation
import Cohort.Proofs.Session.Endings

/-!
# Quiescence

When the queue of tasks is empty, whoever waits is really blocked. Its seat is taken, so
that it was not woken: the limit has no token left, the call that it follows is still led by
a task of the session, and the gate is shut.
-/

set_option autoImplicit false

namespace Cohort

/-- So few have come to wait in each line that no ticket was given out twice. -/
structure Bench.FewTickets (bench : Bench) : Prop where
  limits : ∀ limit ∈ bench.limits.items, limit.line.drawn < 2 ^ 64
  flights : ∀ flight ∈ bench.flights.items, ∀ call ∈ flight.calls, call.line.drawn < 2 ^ 64
  managers : ∀ manager ∈ bench.managers.items, ∀ call ∈ manager.flight.calls,
    call.line.drawn < 2 ^ 64

def Bench.Unsettled (bench : Bench) (call : Nat) : Home → Prop
  | .flight number _ =>
      ∃ unsettled, (bench.flights.get number).calls[call]? = some unsettled ∧
        unsettled.verdict = none
  | .manager number =>
      ∃ unsettled, (bench.managers.get number).flight.calls[call]? = some unsettled ∧
        unsettled.verdict = none

namespace Session

def RunsWork (session : Session) (home : Home) (call : Nat) : Prop :=
  ∃ name task leader key, session.tasks.find? name = some task ∧
    Stake.lead leader key call ∈ task.stakes ∧ leader.place call = home.place call

/-- To poll the task would not get it past what it has here. Guards and calls that it leads do
not keep it. -/
def Blocked (session : Session) : Stake → Prop
  | .turn => False
  | .gate number _ => ∃ gate, session.bench.gates.items[number]? = some gate ∧ gate.isOpen = false
  | .borrow number _ _ =>
      ∃ limit, session.bench.limits.items[number]? = some limit ∧ limit.available = 0
  | .follow home _ call _ => session.bench.Unsettled call home ∧ session.RunsWork home call
  | .guard _ | .lead _ _ _ => True

/-- No task is queued, though there may be names in the queue whose task is gone. -/
def Idle (session : Session) : Prop :=
  ∀ name ∈ session.bench.ready, session.tasks.find? name = none

/-- Every task waits for something, and is blocked wherever it waits. -/
def AtRest (session : Session) : Prop :=
  ∀ name task, session.tasks.find? name = some task →
    ∃ frame, task = .suspended frame ∧ frame.Waits ∧ ∀ stake ∈ frame.stakes, session.Blocked stake

end Session

/-! ## Who sits is not called -/

namespace Shelf

variable {α : Type} [Inhabited α] {shelf : Shelf α} {number : Nat}

private theorem getElem?_items (inside : number < shelf.items.size) :
    shelf.items[number]? = some (shelf.get number) := by
  simp [get, inside]

private theorem get_mem (inside : number < shelf.items.size) : shelf.get number ∈ shelf.items :=
  Array.mem_of_getElem? (getElem?_items inside)

end Shelf

private theorem Flight.getElem?_calls {κ ω ρ : Type} {flight : Flight κ ω ρ} {number : Nat}
    (inside : number < flight.calls.size) :
    flight.calls[number]? = some (flight.call number) := by
  simp [Flight.call, inside]

/-- Somebody leads a call that has no verdict. -/
private theorem Flight.Led.exists_lead {ω ρ : Type} {flight : Flight String ω ρ}
    {here : Home → Bool} {stakes : List Stake} {call : Nat}
    (led : flight.Led ((stakes.filterMap (@Stake.caller? ρ here)).filterMap Flight.Caller.lead?))
    (inside : call < flight.calls.size) (unsettled : (flight.call call).verdict = none) :
    ∃ leader key, here leader = true ∧ .lead leader key call ∈ stakes := by
  obtain ⟨⟨key, _⟩, leads, rfl⟩ := List.mem_map.mp ((led.open_iff call).mpr ⟨inside, unsettled⟩)
  obtain ⟨leader, there, member⟩ := Stake.mem_leaders_iff.mp leads
  exact ⟨leader, key, there, member⟩

private theorem Flight.verdict_eq_none_of_sits {κ ω ρ : Type} {flight : Flight κ ω ρ}
    {number seat : Nat} {waker : ω} (tidy : (flight.seatingAt number).tidy)
    (sits : (flight.seatingAt number).sits seat waker) :
    (flight.call number).verdict = none := by
  obtain ⟨ticket, among, _⟩ := sits
  by_contra settled
  exact List.ne_nil_of_mem among (tidy settled)

namespace Bench

variable {bench : Bench} {stakes : List Stake} {number call : Nat} {key : String}
  {ticket : UInt64} {seat : Seat}

/-- A line of a flight that was never drawn from is no exception. -/
private theorem few_of_calls {κ ρ : Type} {flight : Flight κ Waker ρ}
    (few : ∀ call ∈ flight.calls, call.line.drawn < 2 ^ 64) (call : Nat) :
    (flight.seatingAt call).few := by
  change (flight.call call).line.drawn < 2 ^ 64
  rcases Nat.lt_or_ge call flight.calls.size with inside | outside
  · exact few _ (Array.mem_of_getElem? (Flight.getElem?_calls inside))
  · simp [Flight.call, outside]

private theorem FewTickets.few (few : bench.FewTickets) : bench.seating.few := by
  intro place
  cases place with
  | limit number =>
      change (bench.limits.get number).line.drawn < 2 ^ 64
      rcases Nat.lt_or_ge number bench.limits.items.size with inside | outside
      · exact few.limits _ (Shelf.get_mem inside)
      · rw [Shelf.get_of_size_le outside]
        decide
  | flight number call =>
      refine @few_of_calls _ _ (bench.flights.get number) ?_ call
      rcases Nat.lt_or_ge number bench.flights.items.size with inside | outside
      · exact few.flights _ (Shelf.get_mem inside)
      · rw [Shelf.get_of_size_le outside]
        exact fun _ member => absurd member (Array.not_mem_empty _)
  | manager number call =>
      refine @few_of_calls _ _ (bench.managers.get number).flight ?_ call
      rcases Nat.lt_or_ge number bench.managers.items.size with inside | outside
      · exact few.managers _ (Shelf.get_mem inside)
      · rw [Shelf.get_of_size_le outside]
        exact fun _ member => absurd member (Array.not_mem_empty _)
  | gate number => exact trivial

end Bench

namespace Session

variable {session : Session} {stake : Stake}

private theorem exists_task_of_mem_stakes (apart : session.tasks.keys.Nodup)
    (member : stake ∈ session.stakes) (task : ∀ limit, stake ≠ .guard limit) :
    ∃ name task, session.tasks.find? name = some task ∧ stake ∈ task.stakes := by
  rcases List.mem_append.mp member with among | held
  · obtain ⟨⟨name, task⟩, entry, among⟩ := List.mem_flatMap.mp among
    exact ⟨name, task, (Table.find?_eq_some_iff apart).mpr entry, among⟩
  · obtain ⟨guard, _, same⟩ := List.mem_map.mp held
    exact absurd same.symm (task guard.limit)

theorem mem_stakes {name : String} {task : Task} (found : session.tasks.find? name = some task)
    (member : stake ∈ task.stakes) : stake ∈ session.stakes :=
  List.mem_append_left _
    (List.mem_flatMap.mpr ⟨(name, task), Table.mem_entries_of_find? found, member⟩)

private theorem post_mem_posts {name : String} {task : Task}
    (found : session.tasks.find? name = some task) (member : stake ∈ task.stakes) :
    stake.post (some name) ∈ session.posts :=
  List.mem_append_left _ (List.mem_flatMap.mpr
    ⟨(name, task), Table.mem_entries_of_find? found, List.mem_map_of_mem member⟩)

private theorem runsWork_of_lead (apart : session.tasks.keys.Nodup) {home leader : Home}
    {key : String} {call : Nat} (member : .lead leader key call ∈ session.stakes)
    (same : leader.place call = home.place call) : session.RunsWork home call := by
  obtain ⟨name, task, found, among⟩ := exists_task_of_mem_stakes apart member
    (fun _ same => by cases same)
  exact ⟨name, task, leader, key, found, among, same⟩

section Idle

variable (meets : session.Meets Bench.Minded) (few : session.bench.FewTickets)
  (idle : session.Idle)

include meets few idle

/-- Whoever waits has a seat and sits there. -/
private theorem exists_seat_of_waits (member : stake ∈ session.stakes)
    (waits : stake.waits = true) :
    ∃ seat waker, stake.seat? = some seat ∧ session.bench.seating.sits seat waker ∧
      session.bench.seating.given seat := by
  obtain ⟨name, task, found, among⟩ := exists_task_of_mem_stakes meets.tasks.apart member
    (fun limit same => by cases same ▸ waits)
  have posted := post_mem_posts found among
  have heeded := meets.holds.heeded few.few
  have woken : (stake.post (some name)).task = some name := if_pos waits
  rcases heeded.heard _ posted name woken with queued | ⟨seat, waker, has, sits, _⟩
  · rw [idle name queued] at found
    cases found
  · exact ⟨seat, waker, has, sits, heeded.given _ posted seat has⟩

private theorem sits_of_seat? (member : stake ∈ session.stakes) {seat : Seat}
    (has : stake.seat? = some seat) :
    (∃ waker, session.bench.seating.sits seat waker) ∧ session.bench.seating.given seat := by
  obtain ⟨own, waker, same, sits, given⟩ :=
    exists_seat_of_waits meets few idle member (Stake.waits_of_seat? has)
  cases has.symm.trans same
  exact ⟨⟨waker, sits⟩, given⟩

private theorem blocked_gate {number place : Nat} (member : .gate number place ∈ session.stakes) :
    session.Blocked (.gate number place) := by
  obtain ⟨⟨waker, sits⟩, given⟩ := sits_of_seat? meets few idle member rfl
  refine ⟨_, Shelf.getElem?_items (Bench.lt_of_given_gate given), ?_⟩
  by_contra opens
  have nobody := meets.holds.tidy (.gate number) (Bool.not_eq_false _ ▸ opens)
  have seated : (session.bench.gates.get number).places[place]? = some waker := sits
  rw [nobody] at seated
  cases seated

private theorem blocked_borrow {number : Nat} {ticket : UInt64} {guarded : Bool}
    (member : .borrow number ticket guarded ∈ session.stakes) :
    session.Blocked (.borrow number ticket guarded) := by
  obtain ⟨⟨waker, stands, among, _⟩, given⟩ := sits_of_seat? meets few idle member rfl
  have inside := Bench.lt_of_given_limit given
  have attended := meets.holds.served.limits.fits inside
  rw [map_stake_posts] at attended
  refine ⟨_, Shelf.getElem?_items inside,
    attended.available_eq_zero (few.few (.limit number)) (List.ne_nil_of_mem among) ?_⟩
  -- Whoever else waits there sits there too, so that nobody was woken for a token.
  intro other guarded' waiting
  obtain ⟨stake, besides, picked⟩ := List.mem_filterMap.mp waiting
  cases stake with
  | turn | gate _ _ | follow _ _ _ _ | lead _ _ _ => cases picked
  | guard limit =>
      simp only [Stake.holding?] at picked
      split at picked <;> cases picked
  | borrow limit own guarded'' =>
      simp only [Stake.holding?] at picked
      split at picked
      · next here =>
          cases picked
          subst here
          obtain ⟨⟨_, _, among, same⟩, _⟩ := sits_of_seat? meets few idle besides rfl
          rw [← UInt64.toNat_inj.mp same]
          exact WaitLine.holds_iff.mpr (List.mem_map_of_mem among)
      · cases picked

private theorem blocked_follow {home : Home} {key : String} {call : Nat} {ticket : UInt64}
    (member : .follow home key call ticket ∈ session.stakes) :
    session.Blocked (.follow home key call ticket) := by
  obtain ⟨⟨waker, sits⟩, given⟩ := sits_of_seat? meets few idle member rfl
  cases home with
  | flight number marked =>
      obtain ⟨_, inside⟩ := Bench.lt_of_given_flight given
      have unsettled := Flight.verdict_eq_none_of_sits (meets.holds.tidy (.flight number call)) sits
      refine ⟨⟨_, Flight.getElem?_calls inside, unsettled⟩, ?_⟩
      have led := (Shelf.Serves.fits_all meets.holds.served.flights Flight.attended_new number).led
      rw [map_stake_posts] at led
      obtain ⟨leader, own, there, member⟩ := led.exists_lead inside unsettled
      obtain ⟨_, rfl⟩ := Home.eq_of_isFlight there
      exact runsWork_of_lead meets.tasks.apart member rfl
  | manager number =>
      obtain ⟨_, inside⟩ := Bench.lt_of_given_manager given
      have unsettled :=
        Flight.verdict_eq_none_of_sits (meets.holds.tidy (.manager number call)) sits
      refine ⟨⟨_, Flight.getElem?_calls inside, unsettled⟩, ?_⟩
      have led :=
        (Shelf.Serves.fits_all meets.holds.served.managers Manager.attended_new number).led
      rw [map_stake_posts] at led
      obtain ⟨leader, own, there, member⟩ := led.exists_lead inside unsettled
      obtain rfl := Home.eq_of_isManager there
      exact runsWork_of_lead meets.tasks.apart member rfl

theorem blocked_of_mem (member : stake ∈ session.stakes) : session.Blocked stake := by
  cases stake with
  | turn =>
      obtain ⟨seat, _, nowhere, _⟩ := exists_seat_of_waits meets few idle member rfl
      cases nowhere
  | gate number place => exact blocked_gate meets few idle member
  | borrow number ticket guarded => exact blocked_borrow meets few idle member
  | follow home key call ticket => exact blocked_follow meets few idle member
  | guard _ | lead _ _ _ => exact trivial

private theorem atRest_of_idle : session.AtRest := by
  intro name task found
  have blocked : ∀ stake ∈ task.stakes, session.Blocked stake := fun stake member =>
    blocked_of_mem meets few idle (mem_stakes found member)
  cases task with
  | fresh script => exact (blocked .turn (List.mem_singleton_self _)).elim
  | suspended frame => exact ⟨frame, rfl, meets.tasks.waiting name frame found, blocked⟩

end Idle

theorem idle_of_nil (empty : session.bench.ready = []) : session.Idle := by
  intro name queued
  rw [empty] at queued
  exact absurd queued List.not_mem_nil

theorem run_append_singleton (log : Bool) (before : List Instruction) (last : Instruction) :
    run log (before ++ [last]) = ((run log before).execute last).2.2 := by
  simp [run]

private theorem ready_of_last_run {log : Bool} {instructions : List Instruction}
    (last : instructions.getLast? = some .run) : (run log instructions).bench.ready = [] := by
  obtain ⟨before, rfl⟩ := List.getLast?_eq_some_iff.mp last
  have known := known_run log before
  obtain ⟨polls, ended, _, idle, runs⟩ := runFor_of_measure_le _ known known.measure_le_budget
  rw [run_append_singleton]
  simp only [execute, respond, runs _ (Nat.le_refl _)]
  exact idle

/-- Whenever no task is queued, and so after every run, each task waits and is blocked
wherever it waits. -/
theorem atRest_run (log : Bool) (instructions : List Instruction)
    (few : (run log instructions).bench.FewTickets) :
    ((run log instructions).bench.ready = [] → (run log instructions).AtRest) ∧
      (instructions.getLast? = some .run →
        (run log instructions).bench.ready = [] ∧ (run log instructions).AtRest) := by
  have meets := meets_run Bench.kept_minded log instructions
  refine ⟨fun empty => atRest_of_idle meets few (idle_of_nil empty), fun last => ?_⟩
  have empty := @ready_of_last_run log _ last
  exact ⟨empty, atRest_of_idle meets few (idle_of_nil empty)⟩

/-- The session holds the only token. One task leads a call whose work waits for it, another
one follows the call, a third one waits for the token and at a gate side by side. The limit
has lost its name to another one meanwhile. -/
def crowd : List Instruction :=
  [.act (.newLimit "tokens" 1), .tryGuard "tokens" "kept",
    .spawn "leader" [.call (.flight "calls" true) "key" [.borrow "tokens" none]],
    .spawn "follower" [.call (.flight "calls" true) "key" []],
    .spawn "both" [.together .all [[.borrow "tokens" (some "own")], [.pass "gate"]]],
    .run, .act (.newLimit "tokens" 1), .poll "both" "again", .run]

private theorem fewTickets_crowd : (run false crowd).bench.FewTickets := by
  have limits : (run false crowd).bench.limits.items.all
      (fun limit => decide (limit.line.drawn < 2 ^ 64)) = true := by cbv
  have flights : (run false crowd).bench.flights.items.all (fun flight =>
      flight.calls.all (fun call => decide (call.line.drawn < 2 ^ 64))) = true := by cbv
  have managers : (run false crowd).bench.managers.items.all (fun manager =>
      manager.flight.calls.all (fun call => decide (call.line.drawn < 2 ^ 64))) = true := by cbv
  refine ⟨?_, ?_, ?_⟩
  · simpa only [Array.all_eq_true', decide_eq_true_eq] using limits
  · simpa only [Array.all_eq_true', decide_eq_true_eq] using flights
  · simpa only [Array.all_eq_true', decide_eq_true_eq] using managers

/-- Three tasks are left, and all of them are blocked. -/
theorem crowd_atRest :
    (run false crowd).tasks.keys = ["leader", "follower", "both"] ∧
      (run false crowd).bench.FewTickets ∧ crowd.getLast? = some .run ∧
      (run false crowd).bench.ready = [] ∧ (run false crowd).AtRest := by
  refine ⟨by cbv, fewTickets_crowd, rfl, ?_⟩
  exact (atRest_run false crowd fewTickets_crowd).2 rfl

end Session

end Cohort
