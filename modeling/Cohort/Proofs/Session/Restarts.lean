import Cohort.Proofs.Session.Heed

/-!
# No poll goes on for ever

A caller that found an abandoned call in flight would start over and find it again, without
end and within one poll. Polling is total here and gives up with a fault of its own,
`Fault.endlessRestart`. No session comes to that: whatever is in flight has a leader that is
under way, so a caller that looks for a call leads it or joins it.
-/

set_option autoImplicit false

namespace Cohort

/-- Polling comes to something that the script has asked for. -/
def Poll.Returns : Poll → Prop
  | .faulted fault => fault ≠ .endlessRestart
  | .pending _ | .ready _ => True

def Stage.Returns : Stage → Prop
  | .faulted fault => fault ≠ .endlessRestart
  | .waiting _ | .passed _ | .finished _ => True

def Gathering.Returns : Gathering → Prop
  | .stopped _ (.error fault) _ => fault ≠ .endlessRestart
  | .standing _ | .stopped _ (.ok _) _ => True

private theorem Gathering.Returns.add {gathering : Gathering} (returns : gathering.Returns)
    (branch : Branch) : (gathering.add branch).Returns := by
  cases gathering with
  | standing branches => trivial
  | stopped before cause after => cases cause <;> exact returns

namespace Bench

variable {waker : Waker} {bench next : Bench} {stakes held before left others : List Stake}
  {label : String} {guards : List Guard}

/-! ## Whoever looks for a call -/

theorem Served.enter_ne_endless (served : Served stakes bench) (home : Home) (key : String)
    (waker : Waker) : (bench.enter home key waker).1 ≠ .endless := by
  cases home with
  | flight number marked =>
      have led := (Shelf.Serves.fits_all served.flights Flight.attended_new number).led
      simp only [enter]
      cases entered : (bench.flights.get number).enter key waker with
      | mk entry changed =>
          cases entry with
          | leads _ | joins _ _ => exact Entrance.noConfusion
          | late verdict => exact absurd entered (Flight.enter_ne_late (led.unsettled key) waker)
  | manager number =>
      have led := (Shelf.Serves.fits_all served.managers Manager.attended_new number).led
      simp only [enter]
      cases requested : (bench.managers.get number).request key waker with
      | mk request changed =>
          cases request with
          | answered _ _ | creates _ | joins _ _ => exact Entrance.noConfusion
          | late verdict =>
              exact absurd requested (Manager.request_ne_late (led.unsettled key) waker)

/-! ## What is left of a poll -/

private theorem Served.acts {task other : Option String} (served : Served (before ++ others) bench)
    (acts : Acts waker (posts task before) bench (posts other left) next) :
    Served (left ++ others) next := by
  have posted : Served ((posts task before ++ posts none others).map Post.stake) bench := by
    rwa [List.map_append, map_stake_posts, map_stake_posts]
  have kept := kept_served.kept.acts acts posted
  rwa [List.map_append, map_stake_posts, map_stake_posts] at kept

/-- What takes up no stakes and leaves none. -/
private theorem Served.aside (served : Served stakes bench) (acts : Acts waker [] bench [] next) :
    Served stakes next := by
  have alone : Acts waker (posts none []) bench (posts none []) next := acts
  have both : Served ([] ++ stakes) bench := served
  exact both.acts alone

private theorem Served.emit (served : Served stakes bench) (event : Event) :
    Served stakes (bench.emit event) := by
  have reported : Acts ⟨"", ""⟩ [] bench [] (bench.emit event) := acts_emit bench event
  exact served.aside reported

private theorem returns_afterBorrow {limit : Nat} {guard : Option String} {claim : Claim} :
    (afterBorrow label guards limit guard (claim, bench)).1.Returns := by
  cases claim with
  | parked ticket => trivial
  | taken => cases guard <;> trivial

private theorem returns_afterGate {gate : Nat} {passage : Passage} :
    (afterGate guards gate (passage, bench)).1.Returns := by
  cases passage <;> trivial

private theorem returns_afterWork {home : Home} {key : String} {call : Nat} {poll : Poll}
    (returns : poll.Returns) :
    (afterWork label guards home key call (poll, bench)).1.Returns := by
  cases poll with
  | pending _ | ready _ => trivial
  | faulted fault => exact returns

private theorem Served.returns_makeCall {home : Home} {key : String} {work : List Step}
    {run : Bench → Poll × Bench} (served : Served stakes bench)
    (entered : Served ((bench.enter home key waker).1.stakes home key ++ held)
      (bench.enter home key waker).2)
    (ran : ∀ call changed, Served (.lead home key call :: held) changed →
      (run changed).1.Returns) :
    (bench.makeCall waker label guards home key work run).1.Returns := by
  have found := served.enter_ne_endless home key waker
  unfold makeCall
  cases same : bench.enter home key waker with
  | mk entrance changed =>
      rw [same] at entered found
      cases entrance with
      | joins _ _ | settled _ _ => trivial
      | endless => exact absurd rfl found
      | leads call => exact returns_afterWork (ran call changed entered)

private theorem returns_afterBranches {ending : Ending} {count : Nat} {gathering : Gathering}
    (returns : gathering.Returns) :
    (afterBranches label guards ending count (gathering, bench)).1.Returns := by
  cases gathering with
  | standing branches =>
      simp only [afterBranches]
      split <;> trivial
  | stopped before cause after =>
      cases cause with
      | ok outcome => trivial
      | error fault => exact returns

private theorem returns_afterBranch {ending : Ending} {after : List Branch}
    {next : Bench → Gathering × Bench} {poll : Poll} (returns : poll.Returns)
    (others : (next bench).1.Returns) :
    (afterBranch ending after next (poll, bench)).1.Returns := by
  cases poll with
  | faulted fault => exact returns
  | pending frame => exact others.add _
  | ready outcome =>
      cases ending with
      | first => trivial
      | all => exact others.add _

private theorem fault_of_tryGuard {limit guard : String} {fault : Fault}
    (failed : (bench.tryGuard limit guard).1 = .error fault) : fault = .unknownLimit limit := by
  unfold tryGuard at failed
  split at failed
  · cases failed
    rfl
  · split at failed <;> cases failed

private theorem fault_of_onLimit {name : String} {act : Nat → Reply × Bench} {fault : Fault}
    (failed : (bench.onLimit name act).1 = .error fault) : fault = .unknownLimit name := by
  unfold onLimit at failed
  split at failed
  · cases failed
    rfl
  · cases failed

/-- An action fails for want of a limit, or of a capacity. -/
theorem fault_of_perform {action : Action} {fault : Fault}
    (failed : (bench.perform action).1 = .error fault) :
    fault = .emptyLimit ∨ ∃ name, fault = .unknownLimit name := by
  cases action with
  | newLimit name capacity =>
      simp only [perform] at failed
      split at failed
      · cases failed
        exact Or.inl rfl
      · cases failed
  | cloneLimit name _ | tryBorrow name | capacity name | borrowBlocking name | giveBack name =>
      exact Or.inr ⟨name, fault_of_onLimit failed⟩
  | inject name key source =>
      simp only [perform] at failed
      split at failed <;> cases failed
  | closes resource =>
      simp only [perform] at failed
      split at failed <;> cases failed
  | newFlight | inFlight | waiters | newManager | close | size | isEmpty | isClosed | contains |
      unlock | unknown => cases failed

private theorem perform_ne_endless (bench : Bench) (action : Action) :
    (bench.perform action).1 ≠ .error .endlessRestart := by
  intro failed
  rcases fault_of_perform failed with same | ⟨name, same⟩ <;> cases same

private theorem tryGuard_ne_endless (bench : Bench) (limit guard : String) :
    (bench.tryGuard limit guard).1 ≠ .error .endlessRestart := by
  intro failed
  cases fault_of_tryGuard failed

/-! ## Scripts that start -/

mutual

theorem returns_runSteps (waker : Waker) (label : String) (guards : List Guard) :
    (steps : List Step) → (bench : Bench) → {others : List Stake} →
      Served (guards.map Guard.stake ++ others) bench →
      (runSteps waker label guards steps bench).1.Returns
  | [], _, _, _ => by
      simp only [runSteps]
      trivial
  | step :: rest, bench, _, served => by
      have acts := acts_runStep waker label guards step bench
      have returns := returns_runStep waker label guards step bench served
      simp only [runSteps]
      cases ran : runStep waker label guards step bench with
      | mk stage changed =>
          rw [ran] at acts returns
          cases stage with
          | waiting wait => trivial
          | passed guards =>
              exact returns_runSteps waker label guards rest changed (served.acts acts)
          | finished outcome => trivial
          | faulted fault => exact returns

theorem returns_runStep (waker : Waker) (label : String) (guards : List Guard) :
    (step : Step) → (bench : Bench) → {others : List Stake} →
      Served (guards.map Guard.stake ++ others) bench →
      (runStep waker label guards step bench).1.Returns
  | .finish _, _, _, _ => trivial
  | .fault _, _, _, _ => Fault.noConfusion
  | .pause 0, _, _, _ => trivial
  | .pause (_ + 1), _, _, _ => trivial
  | .pass name, bench, _, _ => by
      simp only [runStep]
      exact returns_afterGate
  | .borrow name guard, bench, _, _ => by
      simp only [runStep]
      cases bench.limits.number? name with
      | none => exact Fault.noConfusion
      | some limit => exact returns_afterBorrow
  | .call site key work, bench, _, served => by
      have homed : Acts waker [] bench [] _ := acts_homeOf bench site
      have made := served.aside homed
      have enters : Act waker [] (bench.homeOf site).2 _ _ := .enter key (names_homeOf bench site)
      simp only [runStep]
      exact made.returns_makeCall (kept_served.act enters made) fun call changed leads =>
        returns_runSteps waker _ [] work _ (leads.emit _)
  | .together ending scripts, bench, _, served => by
      simp only [runStep]
      exact returns_afterBranches (returns_runScripts waker label ending 0 scripts bench served)
  | .tryGuard limit guard, bench, _, _ => by
      have tried := tryGuard_ne_endless bench limit guard
      simp only [runStep]
      cases same : bench.tryGuard limit guard with
      | mk result changed =>
          rw [same] at tried
          cases result with
          | error fault => exact fun endless => tried (congrArg _ endless)
          | ok taken => cases taken <;> trivial
  | .dropGuard guard, bench, _, _ => by
      simp only [runStep]
      trivial
  | .act action, bench, _, _ => by
      have performed := perform_ne_endless bench action
      simp only [runStep]
      cases same : bench.perform action with
      | mk result changed =>
          rw [same] at performed
          cases result with
          | error fault => exact fun endless => performed (congrArg _ endless)
          | ok reply => trivial

theorem returns_runScripts (waker : Waker) (label : String) (ending : Ending) (index : Nat) :
    (scripts : List (List Step)) → (bench : Bench) → {stakes : List Stake} →
      Served stakes bench → (runScripts waker label ending index scripts bench).1.Returns
  | [], _, _, _ => trivial
  | script :: rest, bench, _, served => by
      have started : Served (([] : List Guard).map Guard.stake ++ _) _ :=
        served.emit (.started (label ++ "#" ++ toString index))
      have acts := acts_runSteps waker (label ++ "#" ++ toString index) [] script
        (bench.emit (.started (label ++ "#" ++ toString index)))
      have returns := returns_runSteps waker (label ++ "#" ++ toString index) [] script _ started
      simp only [runScripts]
      exact returns_afterBranch returns
        (returns_runScripts waker label ending (index + 1) rest _ (started.acts acts))

end

private theorem Served.returns_startScript (served : Served stakes bench) (waker : Waker)
    (label : String) (script : List Step) :
    (startScript waker label script bench).1.Returns :=
  returns_runSteps waker label [] script _ (served.emit _)

/-! ## Suspended scripts -/

/-- A follower of an abandoned call starts over once. -/
private theorem Served.returns_restart {home : Home} {key : String} {call : Nat} {ticket : UInt64}
    {work : List Step}
    (served : Served ([.follow home key call ticket] ++ guards.map Guard.stake ++ others) bench)
    (abandoned : bench.Abandoned call home) :
    ((bench.note .startingOver).makeCall waker label guards home key work
      (startScript waker (home.workLabel label) work)).1.Returns := by
  have later : (bench.note .startingOver).Abandoned call home := by
    cases home with
    | flight number marked => exact abandoned
    | manager number => exact abandoned
  have noted := served.emit (.noticed .startingOver)
  rw [List.append_assoc] at noted
  have restarts : Act waker [.follow home key call ticket] (bench.note .startingOver) _ _ :=
    .restart later
  exact noted.returns_makeCall (kept_served.act restarts noted) fun call changed leads =>
    leads.returns_startScript waker _ work

mutual

theorem returns_pollFrame (waker : Waker) : (frame : Frame) → (bench : Bench) →
    {others : List Stake} → Served (frame.stakes ++ others) bench →
      (frame.poll waker bench).1.Returns
  | .mk label guards wait rest, bench, _, served => by
      have acts := acts_pollWait waker label guards wait bench
      have returns := returns_pollWait waker label guards wait bench served
      simp only [Frame.poll]
      cases polled : wait.poll waker label guards bench with
      | mk stage changed =>
          rw [polled] at acts returns
          cases stage with
          | waiting wait => trivial
          | passed guards =>
              exact returns_runSteps waker label guards rest changed (served.acts acts)
          | finished outcome => trivial
          | faulted fault => exact returns

theorem returns_pollWait (waker : Waker) (label : String) (guards : List Guard) :
    (wait : Wait) → (bench : Bench) → {others : List Stake} →
      Served (wait.stakes ++ guards.map Guard.stake ++ others) bench →
      (wait.poll waker label guards bench).1.Returns
  | .pause 0, _, _, _ => trivial
  | .pause (_ + 1), _, _, _ => trivial
  | .gate _ _, _, _, _ => by
      simp only [Wait.poll]
      exact returns_afterGate
  | .borrow _ _ _, _, _, _ => by
      simp only [Wait.poll]
      exact returns_afterBorrow
  | .follow home key call ticket work, bench, _, served => by
      simp only [Wait.poll]
      cases same : bench.follow home call ticket waker with
      | mk following changed =>
          cases following with
          | parked ticket => trivial
          | settled verdict =>
              cases verdict with
              | done settlement => trivial
              | abandoned =>
                  obtain ⟨abandoned, rfl⟩ := abandoned_of_follow same
                  exact served.returns_restart abandoned
  | .lead home key call work, bench, others, served => by
      rw [Wait.stakes, List.append_assoc, List.append_assoc] at served
      simp only [Wait.poll]
      exact returns_afterWork (returns_pollFrame waker work bench served)
  | .together ending branches, bench, others, served => by
      rw [Wait.stakes, List.append_assoc] at served
      simp only [Wait.poll]
      exact returns_afterBranches (returns_pollBranches waker ending branches bench served)

theorem returns_pollBranches (waker : Waker) (ending : Ending) :
    (branches : List Branch) → (bench : Bench) → {others : List Stake} →
      Served (branchesStakes branches ++ others) bench →
      (pollBranches waker ending branches bench).1.Returns
  | [], _, _, _ => trivial
  | .ended outcome :: rest, bench, _, served => by
      simp only [pollBranches]
      exact (returns_pollBranches waker ending rest bench served).add _
  | .running frame :: rest, bench, others, served => by
      rw [branchesStakes, Branch.stakes, List.append_assoc] at served
      have polled := served.acts (acts_pollFrame waker frame bench)
      have behind := kept_served.perm (List.perm_append_comm_assoc ..) polled
      simp only [pollBranches]
      exact returns_afterBranch (returns_pollFrame waker frame bench served)
        (returns_pollBranches waker ending rest _ behind)

end

end Bench

namespace Task

private theorem returns_poll {task : Task} {bench : Bench} {others : List Stake}
    (served : Bench.Served (task.stakes ++ others) bench) (waker : Waker) (name : String) :
    (task.poll waker name bench).1.Returns := by
  cases task with
  | fresh script => exact served.returns_startScript waker name script
  | suspended frame => exact Bench.returns_pollFrame waker frame bench served

end Task

/-- The answer is what the instruction has asked for. -/
def Response.Returns : Response → Prop
  | .polled (.faulted fault) | .faulted fault => fault ≠ .endlessRestart
  | _ => True

namespace Session

variable {session : Session}

/-- All objects are used as they are meant to be, by the tasks and the guards of the session. -/
abbrev Serves (session : Session) : Prop :=
  session.Meets fun here bench => Bench.Served (here.map Post.stake) bench

theorem Serves.pollTask_ne_endless (serves : session.Serves) (name label : String) :
    (session.pollTask name label).1 ≠ some (.faulted .endlessRestart) := by
  cases found : session.tasks.find? name with
  | none =>
      rw [pollTask_of_absent found]
      exact (Option.some_ne_none _).symm
  | some task =>
      have due := serves.due Bench.kept_served.kept found
      rw [List.map_append, Cohort.map_stake_posts] at due
      have returns := task.returns_poll due ⟨name, label⟩ name
      rw [pollTask_of_find? found]
      cases polled : (task.poll ⟨name, label⟩ name (session.benchFor name)).1 with
      | pending _ | ready _ => exact fun same => by cases same
      | faulted fault =>
          rw [polled] at returns
          intro same
          cases same
          exact returns rfl

theorem serves_run (log : Bool) (instructions : List Instruction) :
    (run log instructions).Serves :=
  meets_run Bench.kept_served.kept log instructions

theorem Serves.runFor (serves : session.Serves) (turns : Nat) : (session.runFor turns).2.Serves :=
  Meets.runFor Bench.kept_served.kept turns serves

/-- No instruction is answered with the fault of a caller that would start over without end. -/
theorem respond_returns (log : Bool) (instructions : List Instruction)
    (instruction : Instruction) : ((run log instructions).respond instruction).1.Returns := by
  have serves := serves_run log instructions
  cases instruction with
  | spawn name script =>
      simp only [respond]
      split <;> trivial
  | poll name label =>
      have polls := serves.pollTask_ne_endless name label
      simp only [respond]
      cases same : (run log instructions).pollTask name label with
      | mk answer changed =>
          rw [same] at polls
          cases answer with
          | none => trivial
          | some polled =>
              cases polled with
              | pending | ready _ => trivial
              | faulted fault => exact fun endless => polls (congrArg _ (congrArg _ endless))
  | drop name => trivial
  | run =>
      simp only [respond]
      split <;> trivial
  | tryGuard limit guard =>
      have tried := (run log instructions).bench.tryGuard_ne_endless limit guard
      simp only [respond, Session.tryGuard]
      cases same : (run log instructions).bench.tryGuard limit guard with
      | mk result changed =>
          rw [same] at tried
          cases result with
          | error fault => exact fun endless => tried (congrArg _ endless)
          | ok taken => cases taken <;> trivial
  | dropGuard guard => trivial
  | act action =>
      have performed := (run log instructions).bench.perform_ne_endless action
      simp only [respond]
      cases same : (run log instructions).bench.perform action with
      | mk result changed =>
          rw [same] at performed
          cases result with
          | error fault => exact fun endless => performed (congrArg _ endless)
          | ok reply => trivial

end Session

end Cohort
