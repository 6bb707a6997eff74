import Cohort.Proofs.Manager.Closing
import Cohort.Proofs.Session.Callers
import Cohort.Proofs.Session.Runs

/-!
# Managers of a session

Whatever a session does to one of its managers are dealings with it. The callers under
way are those that the tasks of the session wait as: they create a resource, or follow
a creation.
-/

set_option autoImplicit false

namespace Cohort

namespace Manager

variable {κ ω ρ ε : Type}

/-- The caller that found the answer to its request, if it is under way. -/
def entrant (key : κ) : Request ω ρ ε → List (Flight.Caller κ (Except (ManagerError ε) ρ))
  | .creates call => [⟨key, .leads call⟩]
  | .joins call ticket => [⟨key, .follows call ticket⟩]
  | .answered _ _ | .late _ => []

variable {manager changed : Manager κ ω ρ ε}
  {callers others : List (Flight.Caller κ (Except (ManagerError ε) ρ))} {key : κ} {call : Nat}
  {ticket : UInt64}

private theorem verdict_of_poll {waker : ω} {verdict : Verdict (Except (ManagerError ε) ρ)}
    (polled : manager.poll call ticket waker = (.settled verdict, changed)) :
    (manager.flight.call call).verdict = some verdict := by
  unfold Manager.poll at polled
  cases same : manager.flight.poll call ticket waker with
  | mk following flight =>
      rw [same] at polled
      cases polled
      exact (Flight.poll_eq_settled same).1

variable [DecidableEq κ]

/-- Dealings come to the manager, and leave these callers under way. -/
def Attended (manager : Manager κ ω ρ ε)
    (callers : List (Flight.Caller κ (Except (ManagerError ε) ρ))) : Prop :=
  ∃ moves : List (Move κ ω ρ ε), (Dealings.run moves).manager = manager ∧
    ((Dealings.run moves).callers.filterMap Flight.Caller.underWay?).Perm callers

theorem attended_new : ({} : Manager κ ω ρ ε).Attended [] :=
  ⟨[], rfl, .nil⟩

private theorem Attended.perm (same : callers.Perm others) (attended : manager.Attended callers) :
    manager.Attended others := by
  obtain ⟨moves, comes, underWay⟩ := attended
  exact ⟨moves, comes, underWay.trans same⟩

theorem Attended.led (attended : manager.Attended callers) :
    manager.flight.Led (callers.filterMap Flight.Caller.lead?) := by
  obtain ⟨moves, rfl, underWay⟩ := attended
  have manned : Flight.Led _ _ := (Dealings.ordered_run moves).manned
  exact manned.perm (.trans (.of_eq (Flight.filterMap_underWay? _).symm) (underWay.filterMap _))

/-- A caller asks and gets as far as the answer to its request. -/
theorem Dealings.ask_eq_advance (dealings : Dealings κ ω ρ ε) (number : Nat) (key : κ)
    (waker : ω) :
    ∃ phase events, (dealings.ask number key waker).2 =
        dealings.advance number key phase (dealings.manager.request key waker).2 events ∧
      (Flight.Caller.underWay? ⟨key, phase⟩).toList =
        entrant key (dealings.manager.request key waker).1 := by
  unfold Dealings.ask
  cases dealings.manager.request key waker with
  | mk request asked =>
      cases request with
      | answered result woken => exact ⟨_, _, rfl, rfl⟩
      | creates call => exact ⟨_, _, rfl, rfl⟩
      | joins call ticket => exact ⟨_, _, rfl, rfl⟩
      | late verdict =>
          cases verdict with
          | done result => exact ⟨_, _, rfl, rfl⟩
          | abandoned => exact ⟨_, _, rfl, rfl⟩

private theorem Attended.advance {caller : Flight.Caller κ (Except (ManagerError ε) ρ)}
    (attended : manager.Attended (caller :: callers)) (move : Nat → Move κ ω ρ ε)
    {present : List (Flight.Caller κ (Except (ManagerError ε) ρ))}
    (steps : ∀ (dealings : Dealings κ ω ρ ε) (number : Nat), dealings.manager = manager →
      dealings.callers[number]? = some caller →
      ∃ phase events, (dealings.step (move number)).2 =
          dealings.advance number caller.key phase changed events ∧
        (Flight.Caller.underWay? ⟨caller.key, phase⟩).toList = present) :
    changed.Attended (present ++ callers) := by
  obtain ⟨moves, comes, underWay⟩ := attended
  obtain ⟨number, one, found, picked, replaced⟩ :=
    exists_of_filterMap_perm Flight.Caller.underWay? underWay
  rw [Flight.eq_of_underWay? picked] at found
  obtain ⟨phase, events, stepped, rfl⟩ := steps _ number comes found
  refine ⟨moves ++ [move number], ?_, ?_⟩
  · rw [Dealings.run_append_singleton, stepped]
    rfl
  · rw [Dealings.run_append_singleton, stepped]
    exact replaced _

private theorem Attended.ask (attended : manager.Attended callers) (key : κ) (waker : ω) :
    (manager.request key waker).2.Attended
      (entrant key (manager.request key waker).1 ++ callers) := by
  obtain ⟨moves, rfl, underWay⟩ := attended
  -- One more caller comes, and is polled at once.
  let number := (Dealings.run moves).callers.length
  have arrived : (Dealings.run (moves ++ [.get key])).callers =
      (Dealings.run moves).callers ++ [⟨key, .idle⟩] := by
    rw [Dealings.run_append_singleton]
    rfl
  have same : (Dealings.run (moves ++ [.get key])).manager = (Dealings.run moves).manager := by
    rw [Dealings.run_append_singleton]
    rfl
  have found : (Dealings.run (moves ++ [.get key])).callers[number]? = some ⟨key, .idle⟩ := by
    rw [arrived]
    exact List.getElem?_concat_length
  obtain ⟨phase, events, asked, present⟩ :=
    (Dealings.run (moves ++ [.get key])).ask_eq_advance number key waker
  rw [same] at asked present
  refine ⟨moves ++ [.get key] ++ [.poll number waker], ?_, ?_⟩
  · rw [Dealings.run_append_singleton]
    simp only [Dealings.step, found]
    rw [asked]
    rfl
  · rw [Dealings.run_append_singleton]
    simp only [Dealings.step, found]
    rw [asked, ← present]
    simp only [Dealings.advance, arrived]
    exact (filterMap_newcomer_perm ..).trans (underWay.append_left _)

/-- A follower of an abandoned creation starts over. -/
private theorem Attended.restart
    (attended : manager.Attended (⟨key, .follows call ticket⟩ :: callers))
    (abandoned : (manager.flight.call call).verdict = some .abandoned) (waker : ω) :
    (manager.request key waker).2.Attended
      (entrant key (manager.request key waker).1 ++ callers) := by
  refine attended.advance (fun number => .poll number waker) fun dealings number same found => ?_
  subst same
  simp only [Dealings.step, found, Manager.poll, Flight.poll_of_settled abandoned]
  exact dealings.ask_eq_advance number key waker

private theorem Attended.wait (attended : manager.Attended (⟨key, .follows call ticket⟩ :: callers))
    {waker : ω} {later : UInt64}
    (parks : manager.poll call ticket waker = (.parked later, changed)) :
    changed.Attended (⟨key, .follows call later⟩ :: callers) := by
  refine attended.advance (fun number => .poll number waker)
    fun dealings number same found => ⟨.follows call later, [], ?_, rfl⟩
  subst same
  simp only [Dealings.step, found, parks]

private theorem Attended.share
    (attended : manager.Attended (⟨key, .follows call ticket⟩ :: callers))
    {waker : ω} {result : Except (ManagerError ε) ρ}
    (settled : manager.poll call ticket waker = (.settled (.done result), changed)) :
    changed.Attended callers := by
  refine attended.advance (fun number => .poll number waker)
    fun dealings number same found => ⟨.returned result false,
      [.flight (.returned number result false)], ?_, rfl⟩
  subst same
  simp only [Dealings.step, found, settled]

private theorem Attended.leave
    (attended : manager.Attended (⟨key, .follows call ticket⟩ :: callers)) :
    (manager.leave call ticket).Attended callers := by
  refine attended.advance .leave fun dealings number same found => ⟨.gone, [], ?_, rfl⟩
  subst same
  simp only [Dealings.step, found]

private theorem Attended.create (attended : manager.Attended (⟨key, .leads call⟩ :: callers))
    (outcome : Except ε ρ) :
    ((manager.install key outcome).2.finish key call
      (manager.install key outcome).1).2.Attended callers := by
  refine attended.advance (fun number => .create number outcome)
    fun dealings number same found => ⟨.returned (manager.install key outcome).1 true,
      [.created number key call outcome,
        .flight (.finished number key call (manager.install key outcome).1),
        .flight (.returned number (manager.install key outcome).1 true)], ?_, rfl⟩
  subst same
  simp only [Dealings.step, found]

private theorem Attended.abandon (attended : manager.Attended (⟨key, .leads call⟩ :: callers)) :
    (manager.abandon key call).2.Attended callers := by
  refine attended.advance .leave fun dealings number same found => ⟨.gone,
    [.flight (.abandoned number key call)], ?_, rfl⟩
  subst same
  simp only [Dealings.step, found]

private theorem Attended.inject (attended : manager.Attended callers) {resource : ρ}
    {replaced : Option ρ} (injected : manager.inject key resource = .ok (replaced, changed)) :
    changed.Attended callers := by
  obtain ⟨moves, rfl, underWay⟩ := attended
  refine ⟨moves ++ [.inject key resource], ?_, ?_⟩
  · rw [Dealings.run_append_singleton]
    simp only [Dealings.step, injected]
    rfl
  · rw [Dealings.run_append_singleton]
    simp only [Dealings.step, injected]
    exact underWay

private theorem Attended.shut (attended : manager.Attended callers) :
    manager.shut.2.Attended callers := by
  obtain ⟨moves, rfl, underWay⟩ := attended
  refine ⟨moves ++ [.shut], ?_, ?_⟩
  · rw [Dealings.run_append_singleton]
    rfl
  · rw [Dealings.run_append_singleton]
    exact underWay

end Manager

/-! ## What a session does to its managers -/

abbrev Stake.managerCaller? (number : Nat) :
    Stake → Option (Flight.Caller String (Except (ManagerError String) Nat)) :=
  Stake.caller? (Home.isManager number)

theorem Home.eq_of_isManager {home : Home} {number : Nat} (there : home.isManager number = true) :
    home = .manager number := by
  cases home with
  | flight _ _ => cases there
  | manager one => exact of_decide_eq_true there ▸ rfl

namespace Bench

/-- Every manager is attended by those who wait there. -/
def ManagersServe (stakes : List Stake) (bench : Bench) : Prop :=
  bench.managers.Serves Manager.Attended Stake.managerCaller? stakes

variable {bench next : Bench} {used gained others : List Stake} {number one : Nat} {key : String}
  {call : Nat} {ticket : UInt64} {waker : Waker}

private theorem isManager_self (number : Nat) : (Home.manager number).isManager number = true :=
  decide_eq_true rfl

private theorem isManager_of_ne (different : one ≠ number) :
    (Home.manager number).isManager one = false :=
  decide_eq_false (Ne.symm different)

private theorem managerCallers_follow (number : Nat) (key : String) (call : Nat) (ticket : UInt64) :
    [Stake.follow (.manager number) key call ticket].filterMap (Stake.managerCaller? number) =
      [⟨key, .follows call ticket⟩] :=
  callers_follow (isManager_self number) key call ticket

private theorem managerCallers_lead (number : Nat) (key : String) (call : Nat) :
    [Stake.lead (.manager number) key call].filterMap (Stake.managerCaller? number) =
      [⟨key, .leads call⟩] :=
  callers_lead (isManager_self number) key call

private theorem managerCallers_enter (bench : Bench) (number : Nat) (key : String) (waker : Waker) :
    ((bench.enter (.manager number) key waker).1.stakes (.manager number) key).filterMap
      (Stake.managerCaller? number) =
        Manager.entrant key ((bench.managers.get number).request key waker).1 := by
  simp only [enter]
  cases (bench.managers.get number).request key waker with
  | mk request changed =>
      cases request with
      | answered result woken => rfl
      | creates call => exact callers_lead (isManager_self number) key call
      | joins call ticket => exact callers_follow (isManager_self number) key call ticket
      | late verdict => cases verdict <;> rfl

/-- Only one manager changes, with those who wait there. -/
private theorem ManagersServe.change (serves : ManagersServe (used ++ others) bench)
    {manager : Manager String Waker Nat String} (inside : number < bench.managers.items.size)
    (beside : (bench.setManager number manager).Beside next)
    (elsewhere : ∀ one, one ≠ number →
      used.filterMap (Stake.managerCaller? one) = [] ∧
        gained.filterMap (Stake.managerCaller? one) = [])
    (attended : ∀ callers, (bench.managers.get number).Attended
        (used.filterMap (Stake.managerCaller? number) ++ callers) →
      manager.Attended (gained.filterMap (Stake.managerCaller? number) ++ callers)) :
    ManagersServe (gained ++ others) next := by
  unfold ManagersServe
  rw [beside.managers]
  exact Shelf.Serves.set serves inside elsewhere attended

private theorem ManagersServe.quiet (serves : ManagersServe (used ++ others) bench)
    (same : next.managers = bench.managers)
    (before : ∀ number, used.filterMap (Stake.managerCaller? number) = [])
    (after : ∀ number, gained.filterMap (Stake.managerCaller? number) = []) :
    ManagersServe (gained ++ others) next := by
  unfold ManagersServe
  rw [same]
  exact Shelf.Serves.quiet serves before after

private theorem ManagersServe.named (serves : ManagersServe ([] ++ others) bench) {name : String}
    {manager : Manager String Waker Nat String} (named : bench.managers.number? name = some number)
    (beside : (bench.setManager number manager).Beside next)
    (attended : ∀ callers, (bench.managers.get number).Attended callers →
      manager.Attended callers) :
    ManagersServe ([] ++ others) next :=
  serves.change (Shelf.Serves.named serves named) beside (fun _ _ => ⟨rfl, rfl⟩) attended

/-- A caller asks a manager, whether it waited there before or not. -/
private theorem ManagersServe.enter (serves : ManagersServe (used ++ others) bench)
    (inside : number < bench.managers.items.size)
    (before : ∀ one, one ≠ number → used.filterMap (Stake.managerCaller? one) = [])
    (attended : ∀ callers, (bench.managers.get number).Attended
        (used.filterMap (Stake.managerCaller? number) ++ callers) →
      ((bench.managers.get number).request key waker).2.Attended
        (Manager.entrant key ((bench.managers.get number).request key waker).1 ++ callers)) :
    ManagersServe
      ((bench.enter (.manager number) key waker).1.stakes (.manager number) key ++ others)
      (bench.enter (.manager number) key waker).2 := by
  refine serves.change inside (bench.enter_manager number key waker).beside ?_ ?_
  · intro one different
    exact ⟨before one different, no_callers_entrance (isManager_of_ne different) _ key⟩
  · rw [managerCallers_enter]
    exact attended

private theorem ManagersServe.restart
    (serves : ManagersServe ([.follow (.manager number) key call ticket] ++ others) bench)
    (abandoned : bench.Abandoned call (.manager number)) :
    ManagersServe
      ((bench.enter (.manager number) key waker).1.stakes (.manager number) key ++ others)
      (bench.enter (.manager number) key waker).2 := by
  have present := managerCallers_follow number key call ticket
  refine serves.enter (Shelf.Serves.inside serves present) ?_ fun callers attended => ?_
  · intro one different
    exact no_callers_entrance (isManager_of_ne different) (.joins call ticket) key
  · rw [present] at attended
    exact attended.restart abandoned waker

private theorem ManagersServe.follow
    (serves : ManagersServe ([.follow (.manager number) key call ticket] ++ others) bench)
    (running : ¬ bench.Abandoned call (.manager number)) :
    ManagersServe (followingStakes (.manager number) key call
        (bench.follow (.manager number) call ticket waker).1 ++ others)
      (bench.follow (.manager number) call ticket waker).2 := by
  have present := managerCallers_follow number key call ticket
  refine serves.change (Shelf.Serves.inside serves present) (beside_of_eq (follow_manager ..))
    ?_ ?_
  · intro one different
    exact ⟨no_callers_entrance (isManager_of_ne different) (.joins call ticket) key,
      no_callers_following (isManager_of_ne different) _ key call⟩
  · intro callers attended
    rw [present] at attended
    simp only [Bench.follow]
    cases polled : (bench.managers.get number).poll call ticket waker with
    | mk following changed =>
        cases following with
        | parked later =>
            simp only [followingStakes, managerCallers_follow]
            exact attended.wait polled
        | settled verdict =>
            cases verdict with
            | done result => exact attended.share polled
            | abandoned => exact absurd (Manager.verdict_of_poll polled) running

private theorem ManagersServe.unfollow
    (serves : ManagersServe ([.follow (.manager number) key call ticket] ++ others) bench) :
    ManagersServe ([] ++ others) (bench.unfollow (.manager number) call ticket) := by
  have present := managerCallers_follow number key call ticket
  refine serves.change (Shelf.Serves.inside serves present) (beside_refl _) ?_ ?_
  · intro one different
    exact ⟨no_callers_entrance (isManager_of_ne different) (.joins call ticket) key, rfl⟩
  · intro callers attended
    rw [present] at attended
    exact attended.leave

/-- A creator is done with its call, one way or the other. -/
private theorem ManagersServe.settle
    (serves : ManagersServe ([.lead (.manager number) key call] ++ others) bench)
    {manager : Manager String Waker Nat String}
    (beside : (bench.setManager number manager).Beside next)
    (attended : ∀ callers,
      (bench.managers.get number).Attended (⟨key, .leads call⟩ :: callers) →
        manager.Attended callers) :
    ManagersServe ([] ++ others) next := by
  have present := managerCallers_lead number key call
  refine serves.change (Shelf.Serves.inside serves present) beside ?_ fun callers before => ?_
  · intro one different
    exact ⟨no_callers_entrance (isManager_of_ne different) (.leads call) key, rfl⟩
  · rw [present] at before
    exact attended callers before

private theorem ManagersServe.inject (serves : ManagersServe ([] ++ others) bench) {name : String}
    (named : bench.managers.number? name = some number) (key : String) (resource : Nat) :
    ManagersServe ([] ++ others) (bench.inject number key resource).2 := by
  unfold Bench.inject
  cases injected : (bench.managers.get number).inject key resource with
  | error error => exact serves
  | ok change =>
      have noted := (beside_note bench (.injectingResource key)).setManager number change.2
      exact serves.named named noted (fun _ attended => attended.inject injected)

theorem ManagersServe.act (serves : ManagersServe (used ++ others) bench)
    (act : Act waker used bench gained next) : ManagersServe (gained ++ others) next := by
  cases act with
  | emit | turn | resources | putGate | leaveGate | putLimit | renameLimit | putFlight =>
      exact serves.quiet rfl (fun _ => rfl) (fun _ => rfl)
  | wake => exact serves.quiet (beside_wake ..).managers (fun _ => rfl) (fun _ => rfl)
  | unlock => exact serves.quiet (beside_wakeAll ..).managers (fun _ => rfl) (fun _ => rfl)
  | pollGate | repollGate =>
      exact serves.quiet rfl (fun _ => rfl) (fun _ => no_callers_passage ..)
  | tryBorrow | tryGuard =>
      exact serves.quiet (others_tryBorrow ..).2.1 (fun _ => rfl) (fun _ => rfl)
  | giveBack | release =>
      exact serves.quiet (others_giveBack ..).2.1 (fun _ => rfl) (fun _ => rfl)
  | pollBorrow | repollBorrow =>
      exact serves.quiet rfl (fun _ => rfl) (fun _ => no_callers_claim ..)
  | cancelBorrow => exact serves.quiet (others_cancelBorrow ..).2.1 (fun _ => rfl) (fun _ => rfl)
  | putManager name => exact Shelf.Serves.put serves Manager.attended_new name
  | inject key resource named => exact serves.inject named key resource
  | shut named => exact serves.named named (beside_refl _) (fun _ attended => attended.shut)
  | @enter _ home key names =>
      cases home with
      | flight _ _ =>
          exact serves.quiet (enter_flight ..).beside.managers (fun _ => rfl)
            (fun _ => no_callers_entrance rfl _ key)
      | manager number =>
          obtain ⟨name, named⟩ := names
          exact serves.enter (Shelf.Serves.named serves named) (fun _ _ => rfl)
            (fun callers attended => attended.ask key waker)
  | @restart _ home key call ticket abandoned =>
      cases home with
      | flight _ _ =>
          exact serves.quiet (enter_flight ..).beside.managers (fun _ => rfl)
            (fun _ => no_callers_entrance rfl _ key)
      | manager number => exact serves.restart abandoned
  | follow home key call ticket running =>
      cases home with
      | flight number marked =>
          have same := (beside_of_eq (follow_flight bench number marked call ticket waker)).managers
          exact serves.quiet same (fun _ => rfl) (fun _ => no_callers_following rfl _ key call)
      | manager number => exact serves.follow running
  | unfollow home key call ticket =>
      cases home with
      | flight _ _ => exact serves.quiet rfl (fun _ => rfl) (fun _ => rfl)
      | manager number => exact serves.unfollow
  | finish home key call outcome =>
      cases home with
      | flight _ _ =>
          exact serves.quiet (finish_flight ..).beside.managers (fun _ => rfl) (fun _ => rfl)
      | manager number =>
          exact serves.settle (finish_manager ..).beside (fun _ attended => attended.create _)
  | abandon home key call =>
      cases home with
      | flight _ _ =>
          exact serves.quiet (abandon_flight ..).beside.managers (fun _ => rfl) (fun _ => rfl)
      | manager number =>
          exact serves.settle (abandon_manager ..).beside (fun _ attended => attended.abandon)

theorem kept_managersServe : KeptForAll ManagersServe where
  new := Shelf.serves_new
  perm := fun same serves => Shelf.Serves.perm Manager.Attended.perm serves same
  book := fun _ _ serves => serves
  act := fun act serves => serves.act act

/-! ## Closing a manager -/

private theorem managers_closeResource (number : Nat) (bench : Bench) :
    (closeResource number bench).2.managers = bench.managers := by
  unfold closeResource
  cases bench.resource? number with
  | none => rfl
  | some resource =>
      dsimp only
      cases resource.behavior with
      | succeeds | fails _ | faults _ => rfl
      | once =>
          dsimp only
          split
          · rfl
          · rfl

private theorem managers_teardown (resources : List Nat) (bench : Bench) :
    (Teardown.run closeResource resources bench).2.managers = bench.managers := by
  induction resources generalizing bench with
  | nil => rfl
  | cons resource rest ih =>
      have kept := managers_closeResource resource bench
      unfold Teardown.run
      split
      · next closing => rwa [closing] at kept
      · next closing =>
          rw [closing] at kept
          exact (ih _).trans kept
      · next closing =>
          rw [closing] at kept
          exact (ih _).trans kept

/-- A session closes its managers this way, and sorts what it tells of that. -/
theorem closeManager_eq (bench : Bench) (number : Nat) {teardown : Teardown Nat String}
    {manager : Manager String Waker Nat String} {next : Bench}
    (closed : (bench.managers.get number).close closeResource
      (bench.setManager number (bench.managers.get number).shut.2) = (teardown, manager, next)) :
    (bench.closeManager number).1 =
        ⟨teardown.visited.mergeSort (fun one other => decide (one ≤ other)),
          teardown.result.map (·.mergeSort (fun one other => decide (one ≤ other)))⟩ ∧
      (bench.closeManager number).2.managers = bench.managers.set number manager := by
  unfold closeManager
  cases opened : (bench.managers.get number).table with
  | none =>
      rw [Manager.close_of_closed opened] at closed
      cases closed
      rw [Manager.shut, opened, Shelf.set_get]
      exact ⟨by simp [Except.map], rfl⟩
  | some table =>
      have kept := managers_teardown table.values
        (bench.setManager number (bench.managers.get number).shut.2)
      simp only [Manager.close, Manager.shut, opened, Option.map_some, Option.getD_some]
        at closed kept ⊢
      obtain ⟨rfl, rfl, rfl⟩ := by simpa only [Prod.mk.injEq] using closed
      generalize Teardown.run closeResource table.values _ = torn at kept ⊢
      obtain ⟨⟨visited, result⟩, last⟩ := torn
      cases result with
      | error fault => exact ⟨rfl, kept⟩
      | ok failures => exact ⟨rfl, kept⟩

end Bench

namespace Session

variable (log : Bool) (instructions : List Instruction) (number : Nat)

/-- Dealings come to every manager of a session, with the callers that its tasks wait as. -/
theorem manager_attended :
    ((run log instructions).bench.managers.get number).Attended
      ((run log instructions).stakes.filterMap (Stake.managerCaller? number)) :=
  (holds_run Bench.kept_managersServe log instructions).fits_all Manager.attended_new number

/-- A resource is being created as long as a task runs its creation. -/
theorem find?_creating_iff (key : String) (call : Nat) :
    ((run log instructions).bench.managers.get number).flight.registry.find? key = some call ↔
      Stake.lead (.manager number) key call ∈ (run log instructions).stakes := by
  rw [(manager_attended log instructions number).led.find?_iff, Stake.mem_leaders_iff]
  constructor
  · rintro ⟨home, there, member⟩
    rwa [Home.eq_of_isManager there] at member
  · intro member
    exact ⟨_, Bench.isManager_self number, member⟩

end Session

end Cohort
