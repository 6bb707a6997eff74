import Cohort.Proofs.Session.Acts

/-!
# Scripts act

Whatever a script does when it is polled or dropped is a sequence of acts, which begins
with the stakes that it had and ends with those that it has then. A poll begins with all
waits due and ends with all of them polled: none is left out.
-/

set_option autoImplicit false

namespace Cohort

namespace Bench

variable {waker : Waker} {bench : Bench} {task : Option String}

/-! ## Guards -/

private theorem Acts.holding {before : List Post} {gained : List Stake} {next : Bench}
    (acts : Acts waker before bench (posts (some waker.task) gained) next)
    (task : Option String) (guards : List Guard) :
    Acts waker (before ++ posts task (guards.map Guard.stake)) bench
      (posts (some waker.task) (gained ++ guards.map Guard.stake)) next := by
  rw [posts_append, posts_guards (some waker.task) task]
  exact acts.frame _

private theorem acts_release (task : Option String) (bench : Bench) (guard : Guard) :
    Acts waker (posts task [guard.stake]) bench [] (bench.release guard) :=
  .of_act (.release guard.limit) task

private theorem acts_releaseAll (task : Option String) (guards : List Guard) (bench : Bench) :
    Acts waker (posts task (guards.map Guard.stake)) bench [] (bench.releaseAll guards) := by
  induction guards with
  | nil => exact .refl [] bench
  | cons guard rest ih =>
      have others := (ih.frame (posts task [guard.stake])).of_perm
        (List.perm_append_singleton _ _).symm
      exact others.trans (acts_release task _ guard)

theorem acts_emit (bench : Bench) (event : Event) : Acts waker [] bench [] (bench.emit event) :=
  .of_act (.emit event) none

private theorem acts_cancel (task : Option String) (bench : Bench) (label : String)
    (guards : List Guard) :
    Acts waker (posts task (guards.map Guard.stake)) bench [] (bench.cancel label guards) :=
  (acts_releaseAll task guards bench).trans (acts_emit _ _)

private theorem stakes_concat (guards : List Guard) (guard : Guard) :
    (guard.stake :: guards.map Guard.stake).Perm ((guards ++ [guard]).map Guard.stake) := by
  rw [List.map_append]
  exact (List.perm_append_singleton _ _).symm

theorem acts_dropGuard (task : Option String) (guard : String) (guards : List Guard)
    (bench : Bench) :
    Acts waker (posts task (guards.map Guard.stake)) bench
      (posts task ((bench.dropGuard guard guards).2.1.map Guard.stake))
      (bench.dropGuard guard guards).2.2 := by
  induction guards with
  | nil => exact .refl [] bench
  | cons held rest ih =>
      unfold dropGuard
      by_cases same : held.name = guard
      · rw [if_pos same]
        exact (acts_release task bench held).frame (posts task (rest.map Guard.stake))
      · rw [if_neg same]
        have kept := ih.frame (posts task [held.stake])
        exact (kept.of_perm (List.perm_append_singleton _ _).symm).to_perm
          (List.perm_append_singleton _ _)

/-! ## Actions -/

private theorem acts_obtainFlight (bench : Bench) (name : String) :
    Acts waker [] bench [] { bench with flights := (bench.flights.obtain name).2 } := by
  unfold Shelf.obtain
  cases bench.flights.number? name with
  | none => exact .of_act (.putFlight name) none
  | some number => exact .refl [] bench

private theorem acts_obtainManager (bench : Bench) (name : String) :
    Acts waker [] bench [] { bench with managers := (bench.managers.obtain name).2 } := by
  unfold Shelf.obtain
  cases bench.managers.number? name with
  | none => exact .of_act (.putManager name) none
  | some number => exact .refl [] bench

private theorem number?_obtain {α : Type} [Inhabited α] (shelf : Shelf α) (name : String) :
    (shelf.obtain name).2.number? name = some (shelf.obtain name).1 := by
  unfold Shelf.obtain
  cases named : shelf.number? name with
  | none => simp [Shelf.put, Shelf.number?]
  | some number => exact named

private theorem acts_closeResource (resource : Nat) (bench : Bench) :
    Acts waker [] bench [] (closeResource resource bench).2 := by
  unfold closeResource
  cases bench.resource? resource with
  | none => exact .refl [] bench
  | some held =>
      have closed (resources : Array Resource) :
          Acts waker [] bench [] { bench with resources } := .of_act (.resources resources) none
      dsimp only
      cases held.behavior with
      | succeeds | fails _ | faults _ => exact closed _
      | once =>
          dsimp only
          split
          · exact closed _
          · exact closed _

private theorem acts_teardown (resources : List Nat) (bench : Bench) :
    Acts waker [] bench [] (Teardown.run closeResource resources bench).2 := by
  induction resources generalizing bench with
  | nil => exact .refl [] bench
  | cons resource rest ih =>
      have closed : Acts waker [] bench [] _ := acts_closeResource resource bench
      unfold Teardown.run
      split
      · next closing => rwa [closing] at closed
      · next closing =>
          rw [closing] at closed
          exact closed.trans (ih _)
      · next closing =>
          rw [closing] at closed
          exact closed.trans (ih _)

private theorem acts_closeManager {name : String} {manager : Nat}
    (named : bench.managers.number? name = some manager) :
    Acts waker [] bench [] (bench.closeManager manager).2 := by
  have shut : Acts waker [] bench []
      (bench.setManager manager (bench.managers.get manager).shut.2) := .of_act (.shut named) none
  unfold closeManager
  dsimp only
  split
  · exact .refl [] bench
  · next resources _ =>
      have torn := shut.trans (acts_teardown resources _)
      split
      · exact torn
      · exact torn.trans (acts_emit _ _)

private theorem acts_inject {name : String} {manager : Nat}
    (named : bench.managers.number? name = some manager) (key : String) (resource : Nat) :
    Acts waker [] bench [] (bench.inject manager key resource).2 :=
  .of_act (.inject key resource named) none

private theorem acts_source (bench : Bench) (source : ResourceSource) :
    Acts waker [] bench [] (bench.source source).2 := by
  cases source with
  | existing resource => exact .refl [] bench
  | fresh behavior => exact .of_act (.resources _) none

private theorem managers_source (bench : Bench) (source : ResourceSource) :
    (bench.source source).2.managers = bench.managers := by
  cases source with
  | existing resource => rfl
  | fresh behavior => rfl

private theorem acts_sourceInject {name : String} {manager : Nat}
    (named : bench.managers.number? name = some manager) (key : String) (source : ResourceSource) :
    Acts waker [] bench []
      ((bench.source source).2.inject manager key (bench.source source).1).2 := by
  have kept : (bench.source source).2.managers.number? name = some manager := by
    rw [managers_source]
    exact named
  exact (acts_source bench source).trans (acts_inject kept key _)

private theorem acts_onLimit (name : String) {act : Nat → Reply × Bench}
    (acts : ∀ limit, bench.limits.number? name = some limit →
      Acts waker [] bench [] (act limit).2) :
    Acts waker [] bench [] (bench.onLimit name act).2 := by
  unfold onLimit
  split
  · exact .refl [] bench
  · next limit named => exact acts limit named

theorem acts_perform (bench : Bench) (action : Action) :
    Acts waker [] bench [] (bench.perform action).2 := by
  cases action with
  | newLimit name capacity =>
      simp only [perform]
      split
      · exact .refl [] bench
      · next limit made => exact .of_act (.putLimit name made) none
  | cloneLimit name other =>
      exact acts_onLimit name fun limit named => .of_act (.renameLimit other named) none
  | tryBorrow name => exact acts_onLimit name fun limit named => .of_act (.tryBorrow named) none
  | capacity name => exact acts_onLimit name fun limit _ => .refl [] bench
  | borrowBlocking name =>
      refine acts_onLimit name fun limit named => ?_
      have borrowed : Acts waker [] bench [] (bench.tryBorrow limit).2 :=
        .of_act (.tryBorrow named) none
      split
      · next same => rwa [same] at borrowed
      · next same => rwa [same] at borrowed
  | giveBack name => exact acts_onLimit name fun limit named => .of_act (.giveBack named) none
  | newFlight name => exact .of_act (.putFlight name) none
  | inFlight name => exact acts_obtainFlight bench name
  | waiters name key => exact acts_obtainFlight bench name
  | newManager name => exact .of_act (.putManager name) none
  | inject name key source =>
      have injected : Acts waker [] bench [] _ := (acts_obtainManager bench name).trans
        (acts_sourceInject (number?_obtain bench.managers name) key source)
      simp only [perform]
      split
      · next same => rwa [same] at injected
      · next same => rwa [same] at injected
  | close name =>
      exact (acts_obtainManager bench name).trans
        (acts_closeManager (number?_obtain bench.managers name))
  | size name => exact acts_obtainManager bench name
  | isEmpty name => exact acts_obtainManager bench name
  | isClosed name => exact acts_obtainManager bench name
  | contains name key => exact acts_obtainManager bench name
  | closes resource =>
      simp only [perform]
      split
      · exact .refl [] bench
      · exact .refl [] bench
  | unlock name =>
      have made : Acts waker [] bench [] { bench with gates := (bench.gates.obtain name).2 } :=
        .of_act (.putGate name) none
      exact made.trans (.of_act (.unlock _) none)
  | unknown _ => exact .refl [] bench

/-! ## Dropping -/

mutual

theorem acts_dropFrame (task : Option String) : (frame : Frame) → (bench : Bench) →
    Acts waker (posts task frame.stakes) bench [] (frame.drop bench)
  | .mk label guards wait _, bench => by
      rw [Frame.stakes, posts_append]
      exact ((acts_dropWait task wait bench).frame _).trans
        (acts_cancel task (wait.drop bench) label guards)

theorem acts_dropWait (task : Option String) : (wait : Wait) → (bench : Bench) →
    Acts waker (posts task wait.stakes) bench [] (wait.drop bench)
  | .pause _, _ => .of_act .turn task
  | .gate gate place, _ => .of_act (.leaveGate gate place) task
  | .borrow limit ticket guard, _ => .of_act (.cancelBorrow limit ticket guard.isSome) task
  | .follow home key call ticket _, _ => .of_act (.unfollow home key call ticket) task
  | .lead home key call work, bench => by
      rw [Wait.stakes, posts_append]
      exact ((acts_dropFrame task work bench).frame _).trans
        (.of_act (.abandon home key call) task)
  | .together _ branches, bench => acts_dropBranches task branches bench

theorem acts_dropBranch (task : Option String) : (branch : Branch) → (bench : Bench) →
    Acts waker (posts task branch.stakes) bench [] (branch.drop bench)
  | .running frame, bench => acts_dropFrame task frame bench
  | .ended _, bench => .refl [] bench

theorem acts_dropBranches (task : Option String) : (branches : List Branch) → (bench : Bench) →
    Acts waker (posts task (branchesStakes branches)) bench [] (dropBranches branches bench)
  | [], bench => .refl [] bench
  | branch :: rest, bench => by
      rw [branchesStakes, posts_append]
      exact ((acts_dropBranch task branch bench).frame _).trans
        (acts_dropBranches task rest (branch.drop bench))

end

/-! ## One step, and what becomes of the stakes -/

end Bench

def Poll.stakes : Poll → List Stake
  | .pending frame => frame.stakes
  | .ready _ | .faulted _ => []

/-- The stakes of a script that held `guards` before its step. -/
def Stage.stakes (guards : List Guard) : Stage → List Stake
  | .waiting wait => wait.stakes ++ guards.map Guard.stake
  | .passed guards => guards.map Guard.stake
  | .finished _ | .faulted _ => guards.map Guard.stake

/-- The branches before the one that cut the polling short were polled for `task`, those
behind it were not. -/
def Gathering.posts (task : String) : Gathering → List Post
  | .standing branches => Cohort.posts (some task) (branchesStakes branches)
  | .stopped before _ after =>
      Cohort.posts (some task) (branchesStakes before) ++ Cohort.posts none (branchesStakes after)

@[simp]
theorem Gathering.posts_add (task : String) (branch : Branch) (gathering : Gathering) :
    (gathering.add branch).posts task =
      Cohort.posts (some task) branch.stakes ++ gathering.posts task := by
  cases gathering with
  | standing branches => exact posts_append ..
  | stopped before cause after =>
      simp only [Gathering.add, Gathering.posts, branchesStakes, posts_append, List.append_assoc]

private theorem dropBranches_append (before after : List Branch) (bench : Bench) :
    dropBranches (before ++ after) bench = dropBranches after (dropBranches before bench) := by
  induction before generalizing bench with
  | nil => rfl
  | cons branch rest ih => exact ih _

private theorem branchesStakes_of_ended {branches : List Branch}
    (ended : branches.all (fun branch => branch.outcome?.isSome) = true) :
    branchesStakes branches = [] := by
  induction branches with
  | nil => rfl
  | cons branch rest ih =>
      obtain ⟨first, others⟩ := Bool.and_eq_true_iff.mp ended
      cases branch with
      | running frame => cases first
      | ended outcome => exact ih others

namespace Bench

variable {waker : Waker} {bench : Bench} {before : List Post} {label : String}
  {guards : List Guard}

private theorem acts_afterBorrow {limit : Nat} {guard : Option String} {claim : Claim}
    {polled : Bench} (acts : Acts waker before bench
      (posts (some waker.task) (claimStakes limit guard.isSome claim ++ guards.map Guard.stake))
      polled) :
    Acts waker before bench
      (posts (some waker.task)
        ((afterBorrow label guards limit guard (claim, polled)).1.stakes guards))
      (afterBorrow label guards limit guard (claim, polled)).2 := by
  cases claim with
  | parked ticket => exact acts
  | taken =>
      cases guard with
      | none => exact acts.trans ((acts_emit _ _).frame _)
      | some name =>
          exact (acts.trans ((acts_emit _ _).frame _)).to_perm
            ((stakes_concat guards ⟨name, limit⟩).map _)

private theorem acts_afterGate {gate : Nat} {passage : Passage} {polled : Bench}
    (acts : Acts waker before bench
      (posts (some waker.task) (passageStakes gate passage ++ guards.map Guard.stake)) polled) :
    Acts waker before bench
      (posts (some waker.task) ((afterGate guards gate (passage, polled)).1.stakes guards))
      (afterGate guards gate (passage, polled)).2 := by
  cases passage with
  | passed => exact acts
  | parked place => exact acts

private theorem acts_afterWork {home : Home} {key : String} {call : Nat} {poll : Poll}
    {polled : Bench} (acts : Acts waker before bench
      (posts (some waker.task) (poll.stakes ++ .lead home key call :: guards.map Guard.stake))
      polled) :
    Acts waker before bench
      (posts (some waker.task)
        ((afterWork label guards home key call (poll, polled)).1.stakes guards))
      (afterWork label guards home key call (poll, polled)).2 := by
  cases poll with
  | pending frame =>
      refine acts.to_perm (.of_eq ?_)
      simp [afterWork, Stage.stakes, Wait.stakes, Poll.stakes]
  | ready outcome =>
      have finished : Acts waker _ polled [] _ :=
        .of_act (.finish home key call outcome) (some waker.task)
      exact (acts.trans (finished.frame _)).trans ((acts_emit _ _).frame _)
  | faulted fault =>
      have abandoned : Acts waker _ polled [] _ :=
        .of_act (.abandon home key call) (some waker.task)
      exact acts.trans (abandoned.frame _)

/-- A keyed call was entered, and its work runs if the caller leads it. -/
private theorem acts_makeCall {home : Home} {key : String} {work : List Step}
    {run : Bench → Poll × Bench} (entered : Acts waker before bench
      (posts (some waker.task)
        ((bench.enter home key waker).1.stakes home key ++ guards.map Guard.stake))
      (bench.enter home key waker).2)
    (ran : ∀ bench,
      Acts waker [] bench (posts (some waker.task) (run bench).1.stakes) (run bench).2) :
    Acts waker before bench
      (posts (some waker.task)
        ((bench.makeCall waker label guards home key work run).1.stakes guards))
      (bench.makeCall waker label guards home key work run).2 := by
  unfold makeCall
  cases same : bench.enter home key waker with
  | mk entrance changed =>
      rw [same] at entered
      cases entrance with
      | joins call ticket => exact entered
      | settled settlement led => exact entered.trans ((acts_emit _ _).frame _)
      | endless => exact entered
      | leads call =>
          have worked := entered.trans ((ran changed).frame
            (posts (some waker.task) (.lead home key call :: guards.map Guard.stake)))
          rw [← posts_append] at worked
          exact acts_afterWork worked

private theorem acts_afterBranches {ending : Ending} {count : Nat} {gathering : Gathering}
    {polled : Bench} (acts : Acts waker before bench
      (gathering.posts waker.task ++ posts (some waker.task) (guards.map Guard.stake)) polled) :
    Acts waker before bench
      (posts (some waker.task)
        ((afterBranches label guards ending count (gathering, polled)).1.stakes guards))
      (afterBranches label guards ending count (gathering, polled)).2 := by
  cases gathering with
  | standing branches =>
      rw [Gathering.posts, ← posts_append] at acts
      unfold afterBranches
      dsimp only
      split
      · next ended =>
          have idle : branchesStakes branches = [] := branchesStakes_of_ended ended
          rw [idle] at acts
          exact acts.trans ((acts_emit _ _).frame _)
      · exact acts
  | stopped first cause after =>
      have dropped : Acts waker _ polled [] _ :=
        ((acts_dropBranches (some waker.task) first polled).frame
          (posts none (branchesStakes after))).trans
            (acts_dropBranches none after (dropBranches first polled))
      rw [← dropBranches_append] at dropped
      have left := acts.trans (dropped.frame _)
      cases cause with
      | ok outcome => exact left.trans ((acts_emit _ _).frame _)
      | error fault => exact left

private theorem acts_afterBranch {ending : Ending} {after : List Branch} {behind : List Post}
    {next : Bench → Gathering × Bench} {poll : Poll} {polled : Bench}
    (acts : Acts waker before bench (posts (some waker.task) poll.stakes ++ behind) polled)
    (kept : behind = posts none (branchesStakes after))
    (others : ∀ bench, Acts waker behind bench ((next bench).1.posts waker.task) (next bench).2) :
    Acts waker before bench ((afterBranch ending after next (poll, polled)).1.posts waker.task)
      (afterBranch ending after next (poll, polled)).2 := by
  cases poll with
  | faulted fault =>
      subst kept
      exact acts
  | pending frame =>
      have continued := (others polled).frame (posts (some waker.task) frame.stakes)
      simp only [afterBranch, Gathering.posts_add, Branch.stakes]
      exact acts.trans ((continued.of_perm List.perm_append_comm).to_perm List.perm_append_comm)
  | ready outcome =>
      cases ending with
      | first =>
          subst kept
          exact acts
      | all =>
          simp only [afterBranch, Gathering.posts_add, Branch.stakes]
          exact acts.trans (others polled)

private theorem acts_conclude (bench : Bench) (label : String) (guards : List Guard)
    (outcome : Outcome) :
    Acts waker (posts (some waker.task) (guards.map Guard.stake)) bench []
      (bench.conclude label guards outcome).2 :=
  ((acts_emit bench _).frame _).trans (acts_releaseAll (some waker.task) guards _)

theorem acts_homeOf (bench : Bench) (site : Site) :
    Acts waker [] bench [] (bench.homeOf site).2 := by
  cases site with
  | flight name marked => exact acts_obtainFlight bench name
  | manager name => exact acts_obtainManager bench name

theorem names_homeOf (bench : Bench) (site : Site) :
    (bench.homeOf site).2.Names (bench.homeOf site).1 := by
  cases site with
  | flight name marked => exact ⟨name, number?_obtain bench.flights name⟩
  | manager name => exact ⟨name, number?_obtain bench.managers name⟩

theorem acts_tryGuard (bench : Bench) (limit guard : String) :
    Acts waker [] bench
      (posts (some waker.task)
        ((bench.tryGuard limit guard).1.toOption.join.toList.map Guard.stake))
      (bench.tryGuard limit guard).2 := by
  unfold tryGuard
  cases named : bench.limits.number? limit with
  | none => exact .refl [] bench
  | some number =>
      dsimp only
      split
      · next same =>
          have taken : (bench.tryBorrow number).1 = true := by rw [same]
          have acts : Acts waker [] bench _ _ := .of_act (.tryGuard named taken) none
          rwa [same] at acts
      · next same =>
          have acts : Acts waker [] bench _ _ := .of_act (.tryBorrow named) none
          rwa [same] at acts

/-! ## Scripts that start -/

mutual

theorem acts_runSteps (waker : Waker) (label : String) (guards : List Guard) :
    (steps : List Step) → (bench : Bench) →
      Acts waker (posts (some waker.task) (guards.map Guard.stake)) bench
        (posts (some waker.task) (runSteps waker label guards steps bench).1.stakes)
        (runSteps waker label guards steps bench).2
  | [], bench => by
      simp only [runSteps]
      exact acts_conclude bench label guards (.ok .null)
  | step :: rest, bench => by
      have acts := acts_runStep waker label guards step bench
      simp only [runSteps]
      cases ran : runStep waker label guards step bench with
      | mk stage changed =>
          rw [ran] at acts
          cases stage with
          | waiting wait => exact acts
          | passed guards => exact acts.trans (acts_runSteps waker label guards rest changed)
          | finished outcome => exact acts.trans (acts_conclude changed label guards outcome)
          | faulted fault => exact acts.trans (acts_cancel _ changed label guards)

theorem acts_runStep (waker : Waker) (label : String) (guards : List Guard) :
    (step : Step) → (bench : Bench) →
      Acts waker (posts (some waker.task) (guards.map Guard.stake)) bench
        (posts (some waker.task) ((runStep waker label guards step bench).1.stakes guards))
        (runStep waker label guards step bench).2
  | .finish _, bench => .refl _ bench
  | .fault _, bench => .refl _ bench
  | .pause 0, bench => .refl _ bench
  | .pause (_ + 1), bench => by
      have woken : Acts waker [] bench (posts _ [.turn]) (bench.wake waker) := .of_act .wake none
      exact woken.holding _ guards
  | .pass name, bench => by
      have made : Acts waker [] bench [] { bench with gates := (bench.gates.obtain name).2 } :=
        .of_act (.putGate name) none
      have polled := made.trans (.of_act (.pollGate (number?_obtain bench.gates name)) none)
      simp only [runStep]
      exact acts_afterGate (polled.holding _ guards)
  | .borrow name guard, bench => by
      simp only [runStep]
      cases named : bench.limits.number? name with
      | none => exact .refl _ bench
      | some limit =>
          have polled : Acts waker [] bench (posts _ _) _ :=
            .of_act (.pollBorrow guard.isSome named) none
          exact acts_afterBorrow (polled.holding _ guards)
  | .call site key work, bench => by
      have made : Acts waker [] bench [] _ := acts_homeOf bench site
      have entered : Acts waker [] (bench.homeOf site).2 (posts _ _) _ :=
        .of_act (.enter key (names_homeOf bench site)) none
      simp only [runStep]
      exact (made.frame _).trans
        (acts_makeCall (entered.holding _ guards) fun bench =>
          (acts_emit bench _).trans (acts_runSteps waker _ [] work _))
  | .together ending scripts, bench => by
      have gathered := acts_runScripts waker label ending 0 scripts bench
      simp only [runStep]
      exact acts_afterBranches (gathered.frame _)
  | .tryGuard limit guard, bench => by
      have acts : Acts waker [] bench _ _ := acts_tryGuard bench limit guard
      have tried := acts.holding (some waker.task) guards
      simp only [runStep]
      cases same : bench.tryGuard limit guard with
      | mk result changed =>
          rw [same] at tried
          cases result with
          | error fault => exact tried
          | ok taken =>
              cases taken with
              | none => exact tried.trans ((acts_emit _ _).frame _)
              | some held =>
                  exact (tried.trans ((acts_emit _ _).frame _)).to_perm
                    ((stakes_concat guards held).map _)
  | .dropGuard guard, bench => by
      have dropped : Acts waker _ bench _ _ := acts_dropGuard (some waker.task) guard guards bench
      simp only [runStep]
      exact dropped.trans ((acts_emit _ _).frame _)
  | .act action, bench => by
      have performed : Acts waker [] bench [] _ := acts_perform bench action
      have acted := performed.frame (posts (some waker.task) (guards.map Guard.stake))
      simp only [runStep]
      cases same : bench.perform action with
      | mk result changed =>
          rw [same] at acted
          cases result with
          | error fault => exact acted
          | ok reply => exact acted.trans ((acts_emit _ _).frame _)

theorem acts_runScripts (waker : Waker) (label : String) (ending : Ending) (index : Nat) :
    (scripts : List (List Step)) → (bench : Bench) →
      Acts waker [] bench ((runScripts waker label ending index scripts bench).1.posts waker.task)
        (runScripts waker label ending index scripts bench).2
  | [], bench => .refl [] bench
  | script :: rest, bench => by
      have started : Acts waker [] bench _ _ :=
        (acts_emit bench (.started (label ++ "#" ++ toString index))).trans
          (acts_runSteps waker (label ++ "#" ++ toString index) [] script _)
      have others := acts_runScripts waker label ending (index + 1) rest
      simp only [runScripts]
      exact acts_afterBranch (started.to_perm (.of_eq (List.append_nil _).symm)) rfl others

end

theorem acts_startScript (waker : Waker) (label : String) (script : List Step) (bench : Bench) :
    Acts waker [] bench (posts (some waker.task) (startScript waker label script bench).1.stakes)
      (startScript waker label script bench).2 :=
  (acts_emit bench (.started label)).trans (acts_runSteps waker label [] script _)

/-! ## Suspended scripts -/

/-- Polling a follower leaves the bench alone once the call is abandoned. -/
theorem abandoned_of_follow {home : Home} {call : Nat} {ticket : UInt64} {changed : Bench}
    (followed : bench.follow home call ticket waker = (.settled .abandoned, changed)) :
    bench.Abandoned call home ∧ changed = bench := by
  cases home with
  | flight number marked =>
      simp only [follow] at followed
      cases polled : (bench.flights.get number).poll call ticket waker with
      | mk following flight =>
          rw [polled] at followed
          cases following with
          | parked _ => cases followed
          | settled verdict =>
              cases verdict with
              | done _ => cases followed
              | abandoned =>
                  cases followed
                  obtain ⟨settled, rfl⟩ := Flight.poll_eq_settled polled
                  exact ⟨settled, by rw [setFlight, Shelf.set_get]⟩
  | manager number =>
      simp only [follow, Manager.poll] at followed
      cases polled : (bench.managers.get number).flight.poll call ticket waker with
      | mk following flight =>
          rw [polled] at followed
          cases following with
          | parked _ => cases followed
          | settled verdict =>
              cases verdict with
              | done _ => cases followed
              | abandoned =>
                  cases followed
                  obtain ⟨settled, rfl⟩ := Flight.poll_eq_settled polled
                  exact ⟨settled, by rw [setManager, Shelf.set_get]⟩

private theorem follow_of_abandoned {home : Home} {call : Nat}
    (abandoned : bench.Abandoned call home) (ticket : UInt64) (waker : Waker) :
    (bench.follow home call ticket waker).1 = .settled .abandoned := by
  cases home with
  | flight number marked =>
      have settled : ((bench.flights.get number).call call).verdict = some .abandoned := abandoned
      simp only [follow, Flight.poll_of_settled settled]
  | manager number =>
      have settled : ((bench.managers.get number).flight.call call).verdict = some .abandoned :=
        abandoned
      simp only [follow, Manager.poll, Flight.poll_of_settled settled]

/-- A follower of an abandoned call starts over. -/
private theorem acts_restart {home : Home} {key : String} {call : Nat} {ticket : UInt64}
    {work : List Step} (abandoned : bench.Abandoned call home) :
    Acts waker (posts none (.follow home key call ticket :: guards.map Guard.stake)) bench
      (posts (some waker.task) (((bench.note .startingOver).makeCall waker label guards home key
        work (startScript waker (home.workLabel label) work)).1.stakes guards))
      ((bench.note .startingOver).makeCall waker label guards home key work
        (startScript waker (home.workLabel label) work)).2 := by
  have later : (bench.note .startingOver).Abandoned call home := by
    cases home with
    | flight number marked => exact abandoned
    | manager number => exact abandoned
  have noted : Acts waker [] bench [] (bench.note .startingOver) := acts_emit bench _
  have entered : Acts waker (posts none [.follow home key call ticket]) (bench.note .startingOver)
      (posts _ _) _ := .of_act (.restart later) none
  exact (noted.frame _).trans (acts_makeCall (entered.holding none guards)
    (acts_startScript waker (home.workLabel label) work))

mutual

theorem acts_pollFrame (waker : Waker) : (frame : Frame) → (bench : Bench) →
    Acts waker (posts none frame.stakes) bench
      (posts (some waker.task) (frame.poll waker bench).1.stakes) (frame.poll waker bench).2
  | .mk label guards wait rest, bench => by
      have acts := acts_pollWait waker label guards wait bench
      simp only [Frame.poll]
      cases polled : wait.poll waker label guards bench with
      | mk stage changed =>
          rw [polled] at acts
          cases stage with
          | waiting wait => exact acts
          | passed guards => exact acts.trans (acts_runSteps waker label guards rest changed)
          | finished outcome => exact acts.trans (acts_conclude changed label guards outcome)
          | faulted fault => exact acts.trans (acts_cancel _ changed label guards)

theorem acts_pollWait (waker : Waker) (label : String) (guards : List Guard) :
    (wait : Wait) → (bench : Bench) →
      Acts waker (posts none (wait.stakes ++ guards.map Guard.stake)) bench
        (posts (some waker.task) ((wait.poll waker label guards bench).1.stakes guards))
        (wait.poll waker label guards bench).2
  | .pause 0, bench => by
      have came : Acts waker (posts none [.turn]) bench (posts _ []) bench := .of_act .turn none
      exact came.holding _ guards
  | .pause (_ + 1), bench => by
      have came : Acts waker (posts none [.turn]) bench [] bench := .of_act .turn none
      have woken : Acts waker _ bench (posts _ [.turn]) (bench.wake waker) :=
        came.trans (.of_act .wake none)
      exact woken.holding _ guards
  | .gate gate place, bench => by
      have polled : Acts waker _ bench (posts _ _) _ := .of_act (.repollGate gate place) none
      simp only [Wait.poll]
      exact acts_afterGate (polled.holding _ guards)
  | .borrow limit ticket guard, bench => by
      have polled : Acts waker _ bench (posts _ _) _ :=
        .of_act (.repollBorrow limit ticket guard.isSome) none
      simp only [Wait.poll]
      exact acts_afterBorrow (polled.holding _ guards)
  | .follow home key call ticket work, bench => by
      simp only [Wait.poll]
      cases same : bench.follow home call ticket waker with
      | mk following changed =>
          by_cases abandoned : bench.Abandoned call home
          · have reached := follow_of_abandoned abandoned ticket waker
            rw [same] at reached
            cases reached
            obtain ⟨_, rfl⟩ := abandoned_of_follow same
            exact acts_restart abandoned
          · have acts : Acts waker _ bench (posts _ _) _ :=
              .of_act (.follow home key call ticket abandoned) none
            have followed := acts.holding none guards
            rw [same] at followed
            cases following with
            | parked ticket => exact followed
            | settled verdict =>
                cases verdict with
                | done settlement => exact followed.trans ((acts_emit _ _).frame _)
                | abandoned => exact absurd (abandoned_of_follow same).1 abandoned
  | .lead home key call work, bench => by
      have worked := (acts_pollFrame waker work bench).frame
        (posts none (.lead home key call :: guards.map Guard.stake))
      have held : ∀ stake ∈ Stake.lead home key call :: guards.map Guard.stake,
          stake.waits = false := by
        simp [Stake.waits, Guard.stake]
      rw [posts_of_not_waits none (some waker.task) held, ← posts_append,
        posts_of_not_waits (some waker.task) none held, ← posts_append] at worked
      simp only [Wait.poll]
      exact (acts_afterWork worked).of_perm (.of_eq (by simp [Wait.stakes]))
  | .together ending branches, bench => by
      have gathered := (acts_pollBranches waker ending branches bench).frame
        (posts none (guards.map Guard.stake))
      rw [← posts_append, posts_guards none (some waker.task)] at gathered
      simp only [Wait.poll]
      exact acts_afterBranches gathered

theorem acts_pollBranches (waker : Waker) (ending : Ending) :
    (branches : List Branch) → (bench : Bench) →
      Acts waker (posts none (branchesStakes branches)) bench
        ((pollBranches waker ending branches bench).1.posts waker.task)
        (pollBranches waker ending branches bench).2
  | [], bench => .refl [] bench
  | .ended outcome :: rest, bench => by
      have others := acts_pollBranches waker ending rest bench
      simp only [pollBranches, Gathering.posts_add]
      exact others
  | .running frame :: rest, bench => by
      have polled := (acts_pollFrame waker frame bench).frame (posts none (branchesStakes rest))
      rw [← posts_append] at polled
      simp only [pollBranches]
      exact acts_afterBranch polled rfl (acts_pollBranches waker ending rest)

end

end Bench

end Cohort
