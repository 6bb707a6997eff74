import Cohort.Proofs.Session.Shelves
import Cohort.Session.Tasks

/-!
# What polls use up

A script that is polled gets on, or it waits as before and has woken nobody. What is left
of it then waits for something. The weight of a script counts the steps that it may still
take and the waits at which it may still start over.
-/

set_option autoImplicit false

namespace Cohort

def Frame.Waits (frame : Frame) : Prop :=
  ∃ stake ∈ frame.stakes, stake.waits = true

def Wait.Waits (wait : Wait) : Prop :=
  ∃ stake ∈ wait.stakes, stake.waits = true

namespace Poll

def weight : Poll → Nat
  | .pending frame => frame.weight
  | .ready _ | .faulted _ => 0

def Waits : Poll → Prop
  | .pending frame => frame.Waits
  | .ready _ | .faulted _ => True

/-- What is left of a script is lighter than `bound`, and waits for something. -/
structure Lighter (poll : Poll) (bound : Nat) : Prop where
  weight_lt : poll.weight < bound
  waits : poll.Waits

end Poll

namespace Stage

def weight : Stage → Nat
  | .waiting wait => wait.weight
  | .passed _ | .finished _ | .faulted _ => 0

def Waits : Stage → Prop
  | .waiting wait => wait.Waits
  | .passed _ | .finished _ | .faulted _ => True

structure Lighter (stage : Stage) (bound : Nat) : Prop where
  weight_lt : stage.weight < bound
  waits : stage.Waits

private theorem Lighter.mono {stage : Stage} {bound more : Nat} (lighter : stage.Lighter bound)
    (le : bound ≤ more) : stage.Lighter more :=
  ⟨Nat.lt_of_lt_of_le lighter.weight_lt le, lighter.waits⟩

end Stage

namespace Gathering

def weight : Gathering → Nat
  | .standing branches => branchesWeight branches
  | .stopped _ _ _ => 0

def Waits : Gathering → Prop
  | .standing branches => ∀ frame, .running frame ∈ branches → frame.Waits
  | .stopped _ _ _ => True

private theorem weight_add_le (branch : Branch) (gathering : Gathering) :
    (gathering.add branch).weight ≤ branch.weight + gathering.weight := by
  cases gathering with
  | standing branches => exact Nat.le_refl _
  | stopped _ _ _ => exact Nat.zero_le _

private theorem weight_add_ended (outcome : Outcome) (gathering : Gathering) :
    (gathering.add (.ended outcome)).weight = gathering.weight := by
  cases gathering with
  | standing branches => exact Nat.zero_add _
  | stopped _ _ _ => rfl

private theorem Waits.add {gathering : Gathering} (waits : gathering.Waits) {branch : Branch}
    (own : ∀ frame, branch = .running frame → frame.Waits) : (gathering.add branch).Waits := by
  cases gathering with
  | stopped _ _ _ => exact trivial
  | standing branches =>
      intro frame member
      rcases List.mem_cons.mp member with same | member
      · exact own frame same.symm
      · exact waits frame member

end Gathering

private theorem Wait.Waits.frame {wait : Wait} (waits : wait.Waits) (label : String)
    (guards : List Guard) (rest : List Step) : (Frame.mk label guards wait rest).Waits := by
  obtain ⟨stake, member, waits⟩ := waits
  exact ⟨stake, List.mem_append_left _ member, waits⟩

private theorem Frame.Waits.lead {work : Frame} (waits : work.Waits) (home : Home) (key : String)
    (call : Nat) : (Wait.lead home key call work).Waits := by
  obtain ⟨stake, member, waits⟩ := waits
  exact ⟨stake, List.mem_append_left _ member, waits⟩

private theorem waits_together {ending : Ending} {branches : List Branch} {frame : Frame}
    (member : .running frame ∈ branches) (waits : frame.Waits) :
    (Wait.together ending branches).Waits := by
  obtain ⟨stake, among, waits⟩ := waits
  refine ⟨stake, ?_, waits⟩
  induction branches with
  | nil => exact absurd member List.not_mem_nil
  | cons branch rest ih =>
      rcases List.mem_cons.mp member with rfl | member
      · exact List.mem_append_left _ among
      · exact List.mem_append_right _ (ih member)

/-! ## Weights are positive -/

private theorem Wait.weight_pos (wait : Wait) : 0 < wait.weight := by
  cases wait <;> simp [Wait.weight]

private theorem Frame.weight_pos (frame : Frame) : 0 < frame.weight := by
  obtain ⟨label, guards, wait, rest⟩ := frame
  exact Nat.lt_of_lt_of_le wait.weight_pos (Nat.le_add_right _ _)

private theorem scriptWeight_pos (steps : List Step) : 0 < scriptWeight steps := by
  cases steps with
  | nil => exact Nat.one_pos
  | cons step rest =>
      have tail := scriptWeight_pos rest
      simp only [scriptWeight]
      omega

namespace Bench

variable {bench polled last : Bench} {waker : Waker} {label : String} {guards : List Guard}

/-! ## Scripts that start -/

private theorem lighter_afterGate {gate bound : Nat} (passage : Passage) (enough : 1 < bound) :
    (afterGate guards gate (passage, polled)).1.Lighter bound := by
  cases passage with
  | passed => exact ⟨Nat.lt_of_succ_lt enough, trivial⟩
  | parked place => exact ⟨enough, _, List.mem_singleton_self _, rfl⟩

private theorem lighter_afterBorrow {limit bound : Nat} {guard : Option String} (claim : Claim)
    (enough : 1 < bound) :
    (afterBorrow label guards limit guard (claim, polled)).1.Lighter bound := by
  cases claim with
  | parked ticket => exact ⟨enough, _, List.mem_singleton_self _, rfl⟩
  | taken => cases guard <;> exact ⟨Nat.lt_of_succ_lt enough, trivial⟩

private theorem lighter_afterWork {home : Home} {key : String} {call bound : Nat} {poll : Poll}
    (lighter : poll.Lighter bound) :
    (afterWork label guards home key call (poll, polled)).1.Lighter (bound + 1) := by
  obtain ⟨less, waits⟩ := lighter
  cases poll with
  | pending frame => exact ⟨Nat.succ_lt_succ less, waits.lead home key call⟩
  | ready _ | faulted _ => exact ⟨Nat.succ_pos _, trivial⟩

/-- A keyed call joins another one, or its work starts. -/
private theorem lighter_makeCall {home : Home} {key : String} {work : List Step}
    {run : Bench → Poll × Bench} (lighter : ∀ bench, (run bench).1.Lighter (scriptWeight work)) :
    (bench.makeCall waker label guards home key work run).1.Lighter (scriptWeight work + 3) := by
  unfold makeCall
  split
  · exact ⟨Nat.lt_succ_self _, _, List.mem_singleton_self _, rfl⟩
  · exact ⟨Nat.succ_pos _, trivial⟩
  · exact ⟨Nat.succ_pos _, trivial⟩
  · next call changed entered =>
      exact Stage.Lighter.mono (lighter_afterWork (lighter changed)) (by omega)

private theorem exists_running {branches : List Branch}
    (unended : branches.all (fun branch => branch.outcome?.isSome) = false) :
    ∃ frame, .running frame ∈ branches := by
  obtain ⟨branch, member, open'⟩ := List.all_eq_false.mp unended
  cases branch with
  | running frame => exact ⟨frame, member⟩
  | ended outcome => exact absurd rfl open'

private theorem waits_afterBranches {ending : Ending} {count : Nat} {gathering : Gathering}
    (waits : gathering.Waits) :
    (afterBranches label guards ending count (gathering, polled)).1.Waits := by
  cases gathering with
  | stopped before cause after => cases cause <;> exact trivial
  | standing branches =>
      unfold afterBranches
      dsimp only
      split
      · exact trivial
      · next unended =>
          obtain ⟨frame, member⟩ := exists_running (Bool.not_eq_true _ ▸ unended)
          exact waits_together member (waits frame member)

private theorem weight_afterBranches_le {ending : Ending} {count : Nat} {gathering : Gathering} :
    (afterBranches label guards ending count (gathering, polled)).1.weight ≤
      gathering.weight + 1 := by
  cases gathering with
  | stopped before cause after => cases cause <;> exact Nat.zero_le _
  | standing branches =>
      unfold afterBranches
      dsimp only
      split
      · exact Nat.zero_le _
      · exact Nat.le_refl _

end Bench

open Bench

mutual

theorem lighter_runSteps (waker : Waker) (label : String) (guards : List Guard) :
    (steps : List Step) → (bench : Bench) →
      (runSteps waker label guards steps bench).1.Lighter (scriptWeight steps)
  | [], bench => by
      simp only [runSteps]
      exact ⟨Nat.one_pos, trivial⟩
  | step :: rest, bench => by
      have lighter := lighter_runStep waker label guards step bench
      have positive := scriptWeight_pos rest
      simp only [runSteps, scriptWeight]
      cases ran : runStep waker label guards step bench with
      | mk stage changed =>
          rw [ran] at lighter
          obtain ⟨less, waits⟩ := lighter
          cases stage with
          | waiting wait =>
              exact ⟨Nat.add_lt_add_right less _, Wait.Waits.frame waits label guards rest⟩
          | passed guards =>
              have others := lighter_runSteps waker label guards rest changed
              exact ⟨Nat.lt_of_lt_of_le others.weight_lt (Nat.le_add_left _ _), others.waits⟩
          | finished _ | faulted _ => exact ⟨Nat.add_pos_right _ positive, trivial⟩

theorem lighter_runStep (waker : Waker) (label : String) (guards : List Guard) :
    (step : Step) → (bench : Bench) →
      (runStep waker label guards step bench).1.Lighter step.weight
  | .finish _, _ | .fault _, _ | .pause 0, _ | .dropGuard _, _ => ⟨Nat.succ_pos _, trivial⟩
  | .pause (_ + 1), _ => ⟨Nat.lt_succ_self _, _, List.mem_singleton_self _, rfl⟩
  | .pass name, bench => by
      simp only [runStep]
      exact lighter_afterGate _ Nat.one_lt_two
  | .borrow name guard, bench => by
      simp only [runStep]
      split
      · exact ⟨Nat.two_pos, trivial⟩
      · exact lighter_afterBorrow _ Nat.one_lt_two
  | .call site key work, bench => by
      simp only [runStep]
      exact lighter_makeCall fun bench => lighter_runSteps waker _ [] work _
  | .together ending scripts, bench => by
      have gathered := lighter_runScripts waker label ending 0 scripts bench
      simp only [runStep]
      refine ⟨?_, waits_afterBranches gathered.2⟩
      have bounded := Nat.succ_le_succ gathered.1
      exact Nat.lt_succ_of_le (Nat.le_trans weight_afterBranches_le bounded)
  | .tryGuard limit guard, bench => by
      simp only [runStep]
      split <;> exact ⟨Nat.two_pos, trivial⟩
  | .act action, bench => by
      simp only [runStep]
      split <;> exact ⟨Nat.two_pos, trivial⟩

theorem lighter_runScripts (waker : Waker) (label : String) (ending : Ending) (index : Nat) :
    (scripts : List (List Step)) → (bench : Bench) →
      (runScripts waker label ending index scripts bench).1.weight ≤ scriptsWeight scripts ∧
        (runScripts waker label ending index scripts bench).1.Waits
  | [], bench => ⟨Nat.le_refl _, fun _ member => absurd member List.not_mem_nil⟩
  | script :: rest, bench => by
      have others := lighter_runScripts waker label ending (index + 1) rest
      have started := lighter_runSteps waker (label ++ "#" ++ toString index) [] script
        (bench.emit (.started (label ++ "#" ++ toString index)))
      simp only [runScripts, scriptsWeight]
      cases ran : runSteps waker (label ++ "#" ++ toString index) [] script
          (bench.emit (.started (label ++ "#" ++ toString index))) with
      | mk poll changed =>
          rw [ran] at started
          obtain ⟨less, waits⟩ := started
          have bounded := others changed
          cases poll with
          | faulted _ => exact ⟨Nat.zero_le _, trivial⟩
          | pending frame =>
              have heavier := Gathering.weight_add_le (.running frame)
                (runScripts waker label ending (index + 1) rest changed).1
              simp only [Branch.weight, Poll.weight] at heavier less
              refine ⟨by simp only [afterBranch]; omega, bounded.2.add fun own same => ?_⟩
              cases same
              exact waits
          | ready outcome =>
              cases ending with
              | first => exact ⟨Nat.zero_le _, trivial⟩
              | all =>
                  have heavier := Gathering.weight_add_le (.ended outcome)
                    (runScripts waker label .all (index + 1) rest changed).1
                  simp only [Branch.weight] at heavier
                  refine ⟨?_, bounded.2.add fun own same => by cases same⟩
                  simp only [afterBranch]
                  omega

end

theorem lighter_startScript (waker : Waker) (label : String) (script : List Step) (bench : Bench) :
    (startScript waker label script bench).1.Lighter (scriptWeight script) :=
  lighter_runSteps waker label [] script _

/-! ## Suspended scripts -/

/-- A poll leaves `after` of `before`: less, or as much if it has queued nobody. -/
def Bench.Spends (bench polled : Bench) (before after : Nat) : Prop :=
  after < before ∨ after = before ∧ polled.ready = bench.ready

namespace Bench

variable {bench polled last : Bench} {waker : Waker} {label : String} {guards : List Guard}
  {before after : Nat}

private theorem spends_refl (same : polled.ready = bench.ready) :
    bench.Spends polled before before :=
  Or.inr ⟨rfl, same⟩

private theorem Spends.le (spends : bench.Spends polled before after) : after ≤ before :=
  spends.elim Nat.le_of_lt (fun both => Nat.le_of_eq both.1)

theorem Spends.add_const (spends : bench.Spends polled before after) (more : Nat) :
    bench.Spends polled (before + more) (after + more) :=
  spends.imp (fun less => Nat.add_lt_add_right less more)
    (fun both => ⟨congrArg (· + more) both.1, both.2⟩)

/-- One script is polled after the other. -/
private theorem Spends.add {one other : Nat} (first : bench.Spends polled before after)
    (second : polled.Spends last one other) : bench.Spends last (before + one) (after + other) := by
  rcases first with less | ⟨same, ready⟩
  · exact Or.inl (Nat.add_lt_add_of_lt_of_le less second.le)
  · rcases second with less | ⟨same', ready'⟩
    · exact Or.inl (Nat.add_lt_add_of_le_of_lt (Nat.le_of_eq same) less)
    · exact Or.inr ⟨by rw [same, same'], ready'.trans ready⟩

private theorem spends_afterGate {gate place : Nat} (passage : Passage)
    (ready : polled.ready = bench.ready) :
    bench.Spends (afterGate guards gate (passage, polled)).2 (Wait.gate gate place).weight
      (afterGate guards gate (passage, polled)).1.weight := by
  cases passage with
  | passed => exact Or.inl Nat.one_pos
  | parked place => exact spends_refl ready

private theorem spends_afterBorrow {limit : Nat} {ticket : UInt64} {guard : Option String}
    (claim : Claim) (ready : polled.ready = bench.ready) :
    bench.Spends (afterBorrow label guards limit guard (claim, polled)).2
      (Wait.borrow limit ticket guard).weight
      (afterBorrow label guards limit guard (claim, polled)).1.weight := by
  cases claim with
  | parked ticket => exact spends_refl ready
  | taken => cases guard <;> exact Or.inl Nat.one_pos

private theorem spends_afterWork {home : Home} {key : String} {call : Nat} {poll : Poll}
    {work : Frame} (spends : bench.Spends polled work.weight poll.weight) :
    bench.Spends (afterWork label guards home key call (poll, polled)).2
      (Wait.lead home key call work).weight
      (afterWork label guards home key call (poll, polled)).1.weight := by
  cases poll with
  | pending frame => exact spends.add_const 1
  | ready _ | faulted _ => exact Or.inl (Nat.succ_pos _)

private theorem waits_afterWork {home : Home} {key : String} {call : Nat} {poll : Poll}
    (waits : poll.Waits) : (afterWork label guards home key call (poll, polled)).1.Waits := by
  cases poll with
  | pending frame => exact Frame.Waits.lead waits home key call
  | ready _ | faulted _ => exact trivial

private theorem spends_afterBranches {ending : Ending} {count : Nat} {gathering : Gathering}
    {branches : List Branch}
    (spends : bench.Spends polled (branchesWeight branches) gathering.weight) :
    bench.Spends (afterBranches label guards ending count (gathering, polled)).2
      (Wait.together ending branches).weight
      (afterBranches label guards ending count (gathering, polled)).1.weight := by
  cases gathering with
  | stopped before cause after => cases cause <;> exact Or.inl (Nat.succ_pos _)
  | standing left =>
      unfold afterBranches
      dsimp only
      split
      · exact Or.inl (Nat.succ_pos _)
      · exact spends.add_const 1

private theorem ready_follow (bench : Bench) (home : Home) (call : Nat) (ticket : UInt64)
    (waker : Waker) : (bench.follow home call ticket waker).2.ready = bench.ready := by
  cases home with
  | flight number marked => rw [follow_flight, setFlight]
  | manager number => rw [follow_manager, setManager]

/-- Whoever joins a call wakes nobody. -/
private theorem ready_of_joins {home : Home} {key : String} {call : Nat} {ticket : UInt64}
    (joined : bench.enter home key waker = (.joins call ticket, polled)) :
    polled.ready = bench.ready := by
  cases home with
  | flight number marked =>
      simp only [enter] at joined
      split at joined <;> cases joined
      rfl
  | manager number =>
      simp only [enter] at joined
      split at joined <;> cases joined
      rfl

/-- A follower that starts over follows another call at most. -/
private theorem spends_makeCall {home : Home} {key : String} {call : Nat} {ticket : UInt64}
    {work : List Step} {run : Bench → Poll × Bench}
    (lighter : ∀ bench, (run bench).1.Lighter (scriptWeight work)) :
    bench.Spends (bench.makeCall waker label guards home key work run).2
        (Wait.follow home key call ticket work).weight
        (bench.makeCall waker label guards home key work run).1.weight ∧
      (bench.makeCall waker label guards home key work run).1.Waits := by
  unfold makeCall
  cases entered : bench.enter home key waker with
  | mk entrance changed =>
      cases entrance with
      | joins call ticket =>
          exact ⟨spends_refl (ready_of_joins entered), _, List.mem_singleton_self _, rfl⟩
      | settled _ _ | endless => exact ⟨Or.inl (Nat.succ_pos _), trivial⟩
      | leads call =>
          have worked : Stage.Lighter (afterWork label guards home key call (run changed)).1 _ :=
            lighter_afterWork (lighter changed)
          exact ⟨Or.inl (Nat.lt_succ_of_lt worked.weight_lt), worked.waits⟩

private theorem spends_afterBranch {ending : Ending} {rest : List Branch}
    {next : Bench → Gathering × Bench}
    {poll : Poll} {frame : Frame} (first : bench.Spends polled frame.weight poll.weight)
    (waits : poll.Waits)
    (others : ∀ bench, bench.Spends (next bench).2 (branchesWeight rest) (next bench).1.weight ∧
      (next bench).1.Waits) :
    bench.Spends (afterBranch ending rest next (poll, polled)).2
        (branchesWeight (.running frame :: rest))
        (afterBranch ending rest next (poll, polled)).1.weight ∧
      (afterBranch ending rest next (poll, polled)).1.Waits := by
  have positive : 0 < branchesWeight (.running frame :: rest) :=
    Nat.add_pos_left frame.weight_pos _
  obtain ⟨second, behind⟩ := others polled
  cases poll with
  | faulted _ => exact ⟨Or.inl positive, trivial⟩
  | pending left =>
      have both := first.add second
      simp only [afterBranch]
      cases gathered : (next polled).1 with
      | stopped _ _ _ => exact ⟨Or.inl positive, trivial⟩
      | standing branches =>
          rw [gathered] at both behind
          refine ⟨both, Gathering.Waits.add behind fun own same => ?_⟩
          cases same
          exact waits
  | ready outcome =>
      cases ending with
      | first => exact ⟨Or.inl positive, trivial⟩
      | all =>
          have heavier := Gathering.weight_add_le (.ended outcome) (next polled).1
          have spent := second.le
          simp only [afterBranch, branchesWeight, Branch.weight] at heavier positive ⊢
          exact ⟨Or.inl (by have := frame.weight_pos; omega),
            behind.add fun own same => by cases same⟩

end Bench

mutual

theorem spends_pollFrame (waker : Waker) : (frame : Frame) → (bench : Bench) →
    bench.Spends (frame.poll waker bench).2 frame.weight (frame.poll waker bench).1.weight ∧
      (frame.poll waker bench).1.Waits
  | .mk label guards wait rest, bench => by
      have spends := spends_pollWait waker label guards wait bench
      have positive := wait.weight_pos
      simp only [Frame.poll, Frame.weight]
      cases polled : wait.poll waker label guards bench with
      | mk stage changed =>
          rw [polled] at spends
          cases stage with
          | waiting left =>
              exact ⟨spends.1.add_const _, Wait.Waits.frame spends.2 label guards rest⟩
          | passed guards =>
              have others := lighter_runSteps waker label guards rest changed
              exact ⟨Or.inl (Nat.lt_of_lt_of_le others.weight_lt (Nat.le_add_left _ _)),
                others.waits⟩
          | finished _ | faulted _ => exact ⟨Or.inl (Nat.add_pos_left positive _), trivial⟩

theorem spends_pollWait (waker : Waker) (label : String) (guards : List Guard) :
    (wait : Wait) → (bench : Bench) →
      bench.Spends (wait.poll waker label guards bench).2 wait.weight
          (wait.poll waker label guards bench).1.weight ∧
        (wait.poll waker label guards bench).1.Waits
  | .pause 0, bench => ⟨Or.inl Nat.one_pos, trivial⟩
  | .pause (_ + 1), bench =>
      ⟨Or.inl (Nat.lt_succ_self _), _, List.mem_singleton_self _, rfl⟩
  | .gate gate place, bench => by
      simp only [Wait.poll]
      exact ⟨spends_afterGate _ rfl, (lighter_afterGate _ Nat.one_lt_two).waits⟩
  | .borrow limit ticket guard, bench => by
      simp only [Wait.poll]
      exact ⟨spends_afterBorrow _ rfl, (lighter_afterBorrow _ Nat.one_lt_two).waits⟩
  | .follow home key call ticket work, bench => by
      simp only [Wait.poll]
      have ready := bench.ready_follow home call ticket waker
      cases followed : bench.follow home call ticket waker with
      | mk following changed =>
          rw [followed] at ready
          cases following with
          | parked later => exact ⟨spends_refl ready, _, List.mem_singleton_self _, rfl⟩
          | settled verdict =>
              cases verdict with
              | done settlement => exact ⟨Or.inl (Nat.succ_pos _), trivial⟩
              | abandoned =>
                  have again : (changed.note .startingOver).ready = bench.ready := ready
                  obtain ⟨spends, waits⟩ := spends_makeCall
                    (lighter_startScript waker (home.workLabel label) work)
                  exact ⟨spends.imp_right (And.imp_right fun same => same.trans again), waits⟩
  | .lead home key call work, bench => by
      obtain ⟨spends, waits⟩ := spends_pollFrame waker work bench
      simp only [Wait.poll]
      exact ⟨spends_afterWork spends, waits_afterWork waits⟩
  | .together ending branches, bench => by
      obtain ⟨spends, waits⟩ := spends_pollBranches waker ending branches bench
      simp only [Wait.poll]
      exact ⟨spends_afterBranches spends, waits_afterBranches waits⟩

theorem spends_pollBranches (waker : Waker) (ending : Ending) :
    (branches : List Branch) → (bench : Bench) →
      bench.Spends (pollBranches waker ending branches bench).2 (branchesWeight branches)
          (pollBranches waker ending branches bench).1.weight ∧
        (pollBranches waker ending branches bench).1.Waits
  | [], bench => ⟨spends_refl rfl, fun _ member => absurd member List.not_mem_nil⟩
  | .ended outcome :: rest, bench => by
      obtain ⟨spends, waits⟩ := spends_pollBranches waker ending rest bench
      simp only [pollBranches]
      refine ⟨?_, waits.add fun own same => by cases same⟩
      rw [Gathering.weight_add_ended, branchesWeight, Branch.weight, Nat.zero_add]
      exact spends
  | .running frame :: rest, bench => by
      obtain ⟨spends, waits⟩ := spends_pollFrame waker frame bench
      simp only [pollBranches]
      exact spends_afterBranch spends waits (spends_pollBranches waker ending rest)

end

end Cohort
