import Cohort.Proofs.Session.Callers
import Cohort.Proofs.Session.Runs

/-!
# Flights of a session

Whatever a session does to one of its flights is traffic there. The callers under way
are those that the tasks of the session wait as: they lead a call and run its work, or
follow one.
-/

set_option autoImplicit false

namespace Cohort

namespace Flight

variable {κ ω ρ : Type}

/-- The caller that found the entry, if it is under way. -/
def entrant (key : κ) : Entry ρ → List (Caller κ ρ)
  | .leads call => [⟨key, .leads call⟩]
  | .joins call ticket => [⟨key, .follows call ticket⟩]
  | .late _ => []

variable [DecidableEq κ] {flight changed : Flight κ ω ρ} {callers others : List (Caller κ ρ)}
  {key : κ} {call : Nat} {ticket : UInt64}

/-- Traffic comes to the flight, and leaves these callers under way. -/
def Attended (flight : Flight κ ω ρ) (callers : List (Caller κ ρ)) : Prop :=
  ∃ moves : List (Move κ ω ρ), (Traffic.run moves).flight = flight ∧
    ((Traffic.run moves).callers.filterMap Caller.underWay?).Perm callers

theorem attended_new : ({} : Flight κ ω ρ).Attended [] :=
  ⟨[], rfl, .nil⟩

private theorem Attended.perm (same : callers.Perm others) (attended : flight.Attended callers) :
    flight.Attended others := by
  obtain ⟨moves, comes, underWay⟩ := attended
  exact ⟨moves, comes, underWay.trans same⟩

theorem Attended.led (attended : flight.Attended callers) :
    flight.Led (callers.filterMap Caller.lead?) := by
  obtain ⟨moves, rfl, underWay⟩ := attended
  have manned : Flight.Led _ _ := Traffic.manned_run moves
  exact manned.perm (.trans (.of_eq (filterMap_underWay? _).symm) (underWay.filterMap _))

/-- A caller looks for a call and gets as far as what it finds. -/
theorem Traffic.enter_eq_advance (traffic : Traffic κ ω ρ) (number : Nat) (key : κ) (waker : ω) :
    ∃ phase events, traffic.enter number key waker =
        traffic.advance number key phase (traffic.flight.enter key waker).2 events ∧
      (Caller.underWay? ⟨key, phase⟩).toList =
        entrant key (traffic.flight.enter key waker).1 := by
  unfold Traffic.enter
  cases traffic.flight.enter key waker with
  | mk entry entered =>
      cases entry with
      | leads call => exact ⟨_, _, rfl, rfl⟩
      | joins call ticket => exact ⟨_, _, rfl, rfl⟩
      | late verdict =>
          cases verdict with
          | done result => exact ⟨_, _, rfl, rfl⟩
          | abandoned => exact ⟨_, _, rfl, rfl⟩

private theorem Attended.advance {caller : Caller κ ρ}
    (attended : flight.Attended (caller :: callers))
    (move : Nat → Move κ ω ρ) {present : List (Caller κ ρ)}
    (steps : ∀ (traffic : Traffic κ ω ρ) (number : Nat), traffic.flight = flight →
      traffic.callers[number]? = some caller →
      ∃ phase events, (traffic.step (move number)).2 =
          traffic.advance number caller.key phase changed events ∧
        (Caller.underWay? ⟨caller.key, phase⟩).toList = present) :
    changed.Attended (present ++ callers) := by
  obtain ⟨moves, comes, underWay⟩ := attended
  obtain ⟨number, one, found, picked, replaced⟩ :=
    exists_of_filterMap_perm Caller.underWay? underWay
  rw [eq_of_underWay? picked] at found
  obtain ⟨phase, events, stepped, rfl⟩ := steps _ number comes found
  refine ⟨moves ++ [move number], ?_, ?_⟩
  · rw [Traffic.run_append_singleton, stepped]
    rfl
  · rw [Traffic.run_append_singleton, stepped]
    exact replaced _

private theorem Attended.enter (attended : flight.Attended callers) (key : κ) (waker : ω) :
    (flight.enter key waker).2.Attended (entrant key (flight.enter key waker).1 ++ callers) := by
  obtain ⟨moves, rfl, underWay⟩ := attended
  -- One more caller comes, and is polled at once.
  let number := (Traffic.run moves).callers.length
  have arrived : (Traffic.run (moves ++ [.call key])).callers =
      (Traffic.run moves).callers ++ [⟨key, .idle⟩] := by
    rw [Traffic.run_append_singleton]
    rfl
  have same : (Traffic.run (moves ++ [.call key])).flight = (Traffic.run moves).flight := by
    rw [Traffic.run_append_singleton]
    rfl
  have found : (Traffic.run (moves ++ [.call key])).callers[number]? = some ⟨key, .idle⟩ := by
    rw [arrived]
    exact List.getElem?_concat_length
  obtain ⟨phase, events, entered, present⟩ :=
    (Traffic.run (moves ++ [.call key])).enter_eq_advance number key waker
  rw [same] at entered present
  refine ⟨moves ++ [.call key] ++ [.poll number waker], ?_, ?_⟩
  · rw [Traffic.run_append_singleton]
    simp only [Traffic.step, found]
    rw [entered]
    rfl
  · rw [Traffic.run_append_singleton]
    simp only [Traffic.step, found]
    rw [entered, ← present]
    simp only [Traffic.advance, arrived]
    exact (filterMap_newcomer_perm ..).trans (underWay.append_left _)

/-- A follower of an abandoned call starts over. -/
private theorem Attended.restart
    (attended : flight.Attended (⟨key, .follows call ticket⟩ :: callers))
    (abandoned : (flight.call call).verdict = some .abandoned) (waker : ω) :
    (flight.enter key waker).2.Attended (entrant key (flight.enter key waker).1 ++ callers) := by
  refine attended.advance (fun number => .poll number waker) fun traffic number same found => ?_
  subst same
  simp only [Traffic.step, found, poll_of_settled abandoned]
  exact traffic.enter_eq_advance number key waker

private theorem Attended.wait (attended : flight.Attended (⟨key, .follows call ticket⟩ :: callers))
    {waker : ω} {later : UInt64}
    (parks : flight.poll call ticket waker = (.parked later, changed)) :
    changed.Attended (⟨key, .follows call later⟩ :: callers) := by
  refine attended.advance (fun number => .poll number waker)
    fun traffic number same found => ⟨.follows call later, [], ?_, rfl⟩
  subst same
  simp only [Traffic.step, found, parks]

private theorem Attended.share (attended : flight.Attended (⟨key, .follows call ticket⟩ :: callers))
    {waker : ω} {result : ρ}
    (settled : flight.poll call ticket waker = (.settled (.done result), changed)) :
    changed.Attended callers := by
  refine attended.advance (fun number => .poll number waker)
    fun traffic number same found => ⟨.returned result false,
      [.returned number result false], ?_, rfl⟩
  subst same
  simp only [Traffic.step, found, settled]

private theorem Attended.leave
    (attended : flight.Attended (⟨key, .follows call ticket⟩ :: callers)) :
    (flight.leave call ticket).Attended callers := by
  refine attended.advance .leave fun traffic number same found => ⟨.gone, [], ?_, rfl⟩
  subst same
  simp only [Traffic.step, found]

private theorem Attended.finish (attended : flight.Attended (⟨key, .leads call⟩ :: callers))
    (result : ρ) :
    (flight.finish key call result).2.Attended callers := by
  refine attended.advance (fun number => .finish number result)
    fun traffic number same found => ⟨.returned result true,
      [.finished number key call result, .returned number result true], ?_, rfl⟩
  subst same
  simp only [Traffic.step, found]

private theorem Attended.abandon (attended : flight.Attended (⟨key, .leads call⟩ :: callers)) :
    (flight.abandon key call).2.Attended callers := by
  refine attended.advance .leave fun traffic number same found => ⟨.gone,
    [.abandoned number key call], ?_, rfl⟩
  subst same
  simp only [Traffic.step, found]

end Flight

/-! ## What a session does to its flights -/

abbrev Stake.flightCaller? (number : Nat) : Stake → Option (Flight.Caller String Outcome) :=
  Stake.caller? (Home.isFlight number)

theorem Home.eq_of_isFlight {home : Home} {number : Nat} (there : home.isFlight number = true) :
    ∃ marked, home = .flight number marked := by
  cases home with
  | manager _ => cases there
  | flight one marked => exact ⟨marked, of_decide_eq_true there ▸ rfl⟩

namespace Bench

/-- Every flight is attended by those who wait there. -/
def FlightsServe (stakes : List Stake) (bench : Bench) : Prop :=
  bench.flights.Serves Flight.Attended Stake.flightCaller? stakes

variable {bench next : Bench} {used gained others : List Stake} {number one : Nat} {marked : Bool}
  {key : String} {call : Nat} {ticket : UInt64} {waker : Waker}

private theorem isFlight_self (number : Nat) (marked : Bool) :
    (Home.flight number marked).isFlight number = true :=
  decide_eq_true rfl

private theorem isFlight_of_ne (different : one ≠ number) (marked : Bool) :
    (Home.flight number marked).isFlight one = false :=
  decide_eq_false (Ne.symm different)

private theorem flightCallers_follow (number : Nat) (marked : Bool) (key : String) (call : Nat)
    (ticket : UInt64) :
    [Stake.follow (.flight number marked) key call ticket].filterMap (Stake.flightCaller? number) =
      [⟨key, .follows call ticket⟩] :=
  callers_follow (isFlight_self number marked) key call ticket

private theorem flightCallers_lead (number : Nat) (marked : Bool) (key : String) (call : Nat) :
    [Stake.lead (.flight number marked) key call].filterMap (Stake.flightCaller? number) =
      [⟨key, .leads call⟩] :=
  callers_lead (isFlight_self number marked) key call

private theorem flightCallers_enter (bench : Bench) (number : Nat) (marked : Bool) (key : String)
    (waker : Waker) :
    ((bench.enter (.flight number marked) key waker).1.stakes (.flight number marked)
      key).filterMap (Stake.flightCaller? number) =
        Flight.entrant key ((bench.flights.get number).enter key waker).1 := by
  simp only [enter]
  cases (bench.flights.get number).enter key waker with
  | mk entry changed =>
      cases entry with
      | leads call => exact flightCallers_lead number marked key call
      | joins call ticket => exact flightCallers_follow number marked key call ticket
      | late verdict => cases verdict <;> rfl

/-- Only one flight changes, with those who wait there. -/
private theorem FlightsServe.change (serves : FlightsServe (used ++ others) bench)
    {flight : Flight String Waker Outcome} (inside : number < bench.flights.items.size)
    (beside : (bench.setFlight number flight).Beside next)
    (elsewhere : ∀ one, one ≠ number →
      used.filterMap (Stake.flightCaller? one) = [] ∧
        gained.filterMap (Stake.flightCaller? one) = [])
    (attended : ∀ callers, (bench.flights.get number).Attended
        (used.filterMap (Stake.flightCaller? number) ++ callers) →
      flight.Attended (gained.filterMap (Stake.flightCaller? number) ++ callers)) :
    FlightsServe (gained ++ others) next := by
  unfold FlightsServe
  rw [beside.flights]
  exact Shelf.Serves.set serves inside elsewhere attended

private theorem FlightsServe.quiet (serves : FlightsServe (used ++ others) bench)
    (same : next.flights = bench.flights)
    (before : ∀ number, used.filterMap (Stake.flightCaller? number) = [])
    (after : ∀ number, gained.filterMap (Stake.flightCaller? number) = []) :
    FlightsServe (gained ++ others) next := by
  unfold FlightsServe
  rw [same]
  exact Shelf.Serves.quiet serves before after

/-- A caller looks for a call at a flight, whether it waited there before or not. -/
private theorem FlightsServe.enter (serves : FlightsServe (used ++ others) bench) {marked : Bool}
    (inside : number < bench.flights.items.size)
    (before : ∀ one, one ≠ number → used.filterMap (Stake.flightCaller? one) = [])
    (attended : ∀ callers, (bench.flights.get number).Attended
        (used.filterMap (Stake.flightCaller? number) ++ callers) →
      ((bench.flights.get number).enter key waker).2.Attended
        (Flight.entrant key ((bench.flights.get number).enter key waker).1 ++ callers)) :
    FlightsServe
      ((bench.enter (.flight number marked) key waker).1.stakes (.flight number marked) key ++
        others)
      (bench.enter (.flight number marked) key waker).2 := by
  refine serves.change inside (bench.enter_flight number marked key waker).beside ?_ ?_
  · intro one different
    exact ⟨before one different, no_callers_entrance (isFlight_of_ne different marked) _ key⟩
  · rw [flightCallers_enter]
    exact attended

private theorem FlightsServe.follow {marked : Bool}
    (serves : FlightsServe ([.follow (.flight number marked) key call ticket] ++ others) bench)
    (running : ¬ bench.Abandoned call (.flight number marked)) :
    FlightsServe (followingStakes (.flight number marked) key call
        (bench.follow (.flight number marked) call ticket waker).1 ++ others)
      (bench.follow (.flight number marked) call ticket waker).2 := by
  have present := flightCallers_follow number marked key call ticket
  refine serves.change (Shelf.Serves.inside serves present) (beside_of_eq (follow_flight ..))
    ?_ ?_
  · intro one different
    exact ⟨no_callers_entrance (isFlight_of_ne different marked) (.joins call ticket) key,
      no_callers_following (isFlight_of_ne different marked) _ key call⟩
  · intro callers attended
    rw [present] at attended
    simp only [Bench.follow]
    cases polled : (bench.flights.get number).poll call ticket waker with
    | mk following changed =>
        cases following with
        | parked later =>
            simp only [followingStakes, flightCallers_follow]
            exact attended.wait polled
        | settled verdict =>
            cases verdict with
            | done outcome => exact attended.share polled
            | abandoned => exact absurd (Flight.poll_eq_settled polled).1 running

private theorem FlightsServe.restart
    (serves : FlightsServe ([.follow (.flight number marked) key call ticket] ++ others) bench)
    (abandoned : bench.Abandoned call (.flight number marked)) :
    FlightsServe
      ((bench.enter (.flight number marked) key waker).1.stakes (.flight number marked) key ++
        others)
      (bench.enter (.flight number marked) key waker).2 := by
  have present := flightCallers_follow number marked key call ticket
  refine serves.enter (Shelf.Serves.inside serves present) ?_ fun callers attended => ?_
  · intro one different
    exact no_callers_entrance (isFlight_of_ne different marked) (.joins call ticket) key
  · rw [present] at attended
    exact attended.restart abandoned waker

private theorem FlightsServe.unfollow
    (serves : FlightsServe ([.follow (.flight number marked) key call ticket] ++ others) bench) :
    FlightsServe ([] ++ others) (bench.unfollow (.flight number marked) call ticket) := by
  have present := flightCallers_follow number marked key call ticket
  refine serves.change (Shelf.Serves.inside serves present) (beside_refl _) ?_ ?_
  · intro one different
    exact ⟨no_callers_entrance (isFlight_of_ne different marked) (.joins call ticket) key, rfl⟩
  · intro callers attended
    rw [present] at attended
    exact attended.leave

/-- A leader is done with its call, one way or the other. -/
private theorem FlightsServe.settle
    (serves : FlightsServe ([.lead (.flight number marked) key call] ++ others) bench)
    {flight : Flight String Waker Outcome}
    (beside : (bench.setFlight number flight).Beside next)
    (attended : ∀ callers, (bench.flights.get number).Attended (⟨key, .leads call⟩ :: callers) →
      flight.Attended callers) :
    FlightsServe ([] ++ others) next := by
  have present := flightCallers_lead number marked key call
  refine serves.change (Shelf.Serves.inside serves present) beside ?_ fun callers before => ?_
  · intro one different
    exact ⟨no_callers_entrance (isFlight_of_ne different marked) (.leads call) key, rfl⟩
  · rw [present] at before
    exact attended callers before

theorem FlightsServe.act (serves : FlightsServe (used ++ others) bench)
    (act : Act waker used bench gained next) : FlightsServe (gained ++ others) next := by
  cases act with
  | emit | turn | resources | putGate | leaveGate | putLimit | renameLimit | putManager | shut =>
      exact serves.quiet rfl (fun _ => rfl) (fun _ => rfl)
  | wake => exact serves.quiet (beside_wake ..).flights (fun _ => rfl) (fun _ => rfl)
  | unlock => exact serves.quiet (beside_wakeAll ..).flights (fun _ => rfl) (fun _ => rfl)
  | pollGate | repollGate =>
      exact serves.quiet rfl (fun _ => rfl) (fun _ => no_callers_passage ..)
  | tryBorrow | tryGuard =>
      exact serves.quiet (others_tryBorrow ..).1 (fun _ => rfl) (fun _ => rfl)
  | giveBack | release =>
      exact serves.quiet (others_giveBack ..).1 (fun _ => rfl) (fun _ => rfl)
  | pollBorrow | repollBorrow =>
      exact serves.quiet rfl (fun _ => rfl) (fun _ => no_callers_claim ..)
  | cancelBorrow => exact serves.quiet (others_cancelBorrow ..).1 (fun _ => rfl) (fun _ => rfl)
  | inject => exact serves.quiet (others_inject ..).2.1 (fun _ => rfl) (fun _ => rfl)
  | putFlight name => exact Shelf.Serves.put serves Flight.attended_new name
  | @enter _ home key names =>
      cases home with
      | manager _ =>
          exact serves.quiet (enter_manager ..).beside.flights (fun _ => rfl)
            (fun _ => no_callers_entrance rfl _ key)
      | flight number marked =>
          obtain ⟨name, named⟩ := names
          exact serves.enter (Shelf.Serves.named serves named) (fun _ _ => rfl)
            (fun callers attended => attended.enter key waker)
  | @restart _ home key call ticket abandoned =>
      cases home with
      | manager _ =>
          exact serves.quiet (enter_manager ..).beside.flights (fun _ => rfl)
            (fun _ => no_callers_entrance rfl _ key)
      | flight number marked => exact serves.restart abandoned
  | follow home key call ticket running =>
      cases home with
      | manager number =>
          have same := (beside_of_eq (follow_manager bench number call ticket waker)).flights
          exact serves.quiet same (fun _ => rfl) (fun _ => no_callers_following rfl _ key call)
      | flight number marked => exact serves.follow running
  | unfollow home key call ticket =>
      cases home with
      | manager _ => exact serves.quiet rfl (fun _ => rfl) (fun _ => rfl)
      | flight number marked => exact serves.unfollow
  | finish home key call outcome =>
      cases home with
      | manager _ =>
          exact serves.quiet (finish_manager ..).beside.flights (fun _ => rfl) (fun _ => rfl)
      | flight number marked =>
          exact serves.settle (finish_flight ..).beside (fun _ attended => attended.finish outcome)
  | abandon home key call =>
      cases home with
      | manager _ =>
          exact serves.quiet (abandon_manager ..).beside.flights (fun _ => rfl) (fun _ => rfl)
      | flight number marked =>
          exact serves.settle (abandon_flight ..).beside (fun _ attended => attended.abandon)

theorem kept_flightsServe : KeptForAll FlightsServe where
  new := Shelf.serves_new
  perm := fun same serves => Shelf.Serves.perm Flight.Attended.perm serves same
  book := fun _ _ serves => serves
  act := fun act serves => serves.act act

end Bench

namespace Session

variable (log : Bool) (instructions : List Instruction) (number : Nat)

/-- Traffic comes to every flight of a session, with the callers that its tasks wait as. -/
theorem flight_attended :
    ((run log instructions).bench.flights.get number).Attended
      ((run log instructions).stakes.filterMap (Stake.flightCaller? number)) :=
  (holds_run Bench.kept_flightsServe log instructions).fits_all Flight.attended_new number

/-- A key is in flight as long as a task runs the work of its call. -/
theorem find?_registry_iff (key : String) (call : Nat) :
    ((run log instructions).bench.flights.get number).registry.find? key = some call ↔
      ∃ marked, Stake.lead (.flight number marked) key call ∈ (run log instructions).stakes := by
  rw [(flight_attended log instructions number).led.find?_iff, Stake.mem_leaders_iff]
  constructor
  · rintro ⟨home, there, member⟩
    obtain ⟨marked, rfl⟩ := Home.eq_of_isFlight there
    exact ⟨marked, member⟩
  · rintro ⟨marked, member⟩
    exact ⟨_, Bench.isFlight_self number marked, member⟩

end Session

end Cohort
