import Cohort.Proofs.Limit.WakeUps
import Cohort.Proofs.Members
import Cohort.Proofs.Session.Runs
import Cohort.Proofs.Session.Shelves

/-!
# Limits of a session

Whatever a session does to one of its limits is use of a pool that was full once. Its
tasks wait as the borrows that hold a ticket, and every guard of its own or of a task
is one that holds a token.
-/

set_option autoImplicit false

namespace Cohort

namespace Limit

/-- What somebody has at a limit. -/
inductive Holding where
  | waits (ticket : UInt64) (guarded : Bool)
  | guard

def Holding.wait? : Holding → Option (UInt64 × Bool)
  | .waits ticket guarded => some (ticket, guarded)
  | .guard => none

def Holding.isGuard : Holding → Bool
  | .waits _ _ => false
  | .guard => true

def claimed (guarded : Bool) : Claim → List Holding
  | .parked ticket => [.waits ticket guarded]
  | .taken => if guarded then [.guard] else []

variable {ω : Type}

def Phase.holdings (phase : Phase ω) (guarded : Bool) : List Holding :=
  match phase.ticket? with
  | some ticket => [.waits ticket guarded]
  | none => []

def Borrow.wait? (borrow : Borrow ω) : Option (UInt64 × Bool) :=
  borrow.phase.ticket?.map fun ticket => (ticket, borrow.guarded)

private theorem Phase.filterMap_holdings (phase : Phase ω) (guarded : Bool) :
    (phase.holdings guarded).filterMap Holding.wait? =
      (Borrow.wait? { guarded, phase }).toList := by
  simp only [Phase.holdings, Borrow.wait?]
  cases phase.ticket? <;> rfl

private theorem Phase.countP_holdings (phase : Phase ω) (guarded : Bool) :
    (phase.holdings guarded).countP Holding.isGuard = 0 := by
  simp only [Phase.holdings]
  cases phase.ticket? <;> rfl

private theorem Phase.holdings_of_ticket? {phase : Phase ω} {ticket : UInt64}
    (held : phase.ticket? = some ticket) (guarded : Bool) :
    phase.holdings guarded = [.waits ticket guarded] := by
  simp [Phase.holdings, held]

namespace Usage

/-- Who waits and how many guards there are, according to the record. -/
structure Holds (usage : Usage ω) (holdings : List Holding) : Prop where
  waits : (usage.borrows.filterMap Borrow.wait?).Perm (holdings.filterMap Holding.wait?)
  guards : usage.guards = holdings.countP Holding.isGuard

variable {usage : Usage ω} {holdings others : List Holding} {number : Nat} {borrow : Borrow ω}

private theorem Holds.perm (holds : usage.Holds holdings) (same : holdings.Perm others) :
    usage.Holds others where
  waits := holds.waits.trans (same.filterMap _)
  guards := holds.guards.trans (same.countP_eq _)

/-- Whoever waits is a borrow on the record. -/
private theorem Holds.exists_borrow {ticket : UInt64} {guarded : Bool}
    (holds : usage.Holds (.waits ticket guarded :: others)) :
    ∃ (number : Nat) (phase : Phase ω), usage.borrows[number]? = some { guarded, phase } ∧
      phase.ticket? = some ticket ∧ usage.Holds (phase.holdings guarded ++ others) := by
  obtain ⟨number, ⟨guarded', phase⟩, found, waits, _⟩ :=
    exists_of_filterMap_perm Borrow.wait? holds.waits
  obtain ⟨ticket', held, same⟩ := Option.map_eq_some_iff.mp waits
  cases same
  refine ⟨number, phase, found, held, ?_⟩
  rwa [Phase.holdings_of_ticket? held]

private theorem Holds.handOver (holds : usage.Holds holdings) (change : Option ω × Limit ω) :
    (usage.handOver change).2.Holds holdings := by
  obtain ⟨woken, limit⟩ := change
  cases woken with
  | none => exact ⟨holds.waits, holds.guards⟩
  | some waker =>
      refine ⟨.trans (.of_eq ?_) holds.waits, holds.guards⟩
      simp only [Usage.handOver]
      split
      · rfl
      · rw [List.filterMap_map]
        refine List.filterMap_congr fun borrow _ => ?_
        simp [Borrow.wait?]

private theorem Holds.guardIf (holds : usage.Holds holdings) (guarded : Bool) :
    (usage.guardIf guarded).Holds (claimed guarded .taken ++ holdings) := by
  cases guarded with
  | false => exact holds
  | true =>
      refine ⟨holds.waits, ?_⟩
      rw [List.countP_append, ← holds.guards]
      exact Nat.add_comm _ 1

private theorem Holds.setPhase (found : usage.borrows[number]? = some borrow)
    (holds : usage.Holds (borrow.phase.holdings borrow.guarded ++ others)) (phase : Phase ω) :
    (usage.setPhase number borrow phase).Holds (phase.holdings borrow.guarded ++ others) := by
  obtain ⟨rest, split, replaced⟩ := filterMap_set_perm Borrow.wait? found
  obtain ⟨waits, guards⟩ := holds
  rw [List.filterMap_append, Phase.filterMap_holdings] at waits
  rw [List.countP_append, Phase.countP_holdings] at guards
  refine ⟨?_, ?_⟩
  · rw [List.filterMap_append, Phase.filterMap_holdings]
    exact (replaced _).trans
      (((List.perm_append_left_iff _).mp (split.symm.trans waits)).append_left _)
  · rw [List.countP_append, Phase.countP_holdings]
    exact guards

private theorem Holds.poll (found : usage.borrows[number]? = some borrow)
    (holds : usage.Holds (borrow.phase.holdings borrow.guarded ++ others)) (waker : ω) :
    (usage.poll number borrow waker).limit = (usage.limit.poll borrow.phase.ticket? waker).2 ∧
      (usage.poll number borrow waker).Holds
        (claimed borrow.guarded (usage.limit.poll borrow.phase.ticket? waker).1 ++ others) := by
  unfold Usage.poll
  cases usage.limit.poll borrow.phase.ticket? waker with
  | mk claim limit =>
      cases claim with
      | taken =>
          have served := holds.setPhase found .taken
          refine ⟨limit_guardIf .., Holds.guardIf ?_ borrow.guarded⟩
          exact ⟨served.waits, served.guards⟩
      | parked ticket =>
          have parked := holds.setPhase found
            (.parked ticket waker (borrow.phase.nextEntry usage.entries))
          exact ⟨rfl, parked.waits, parked.guards⟩

private theorem Holds.drop (found : usage.borrows[number]? = some borrow) {ticket : UInt64}
    (held : borrow.phase.ticket? = some ticket)
    (holds : usage.Holds (borrow.phase.holdings borrow.guarded ++ others)) :
    (usage.drop number borrow).2.limit = (usage.limit.cancel ticket).2 ∧
      (usage.drop number borrow).2.Holds others := by
  simp only [Usage.drop, held]
  exact ⟨limit_handOver .., (holds.setPhase found .dropped).handOver _⟩

end Usage

variable {limit changed : Limit ω} {holdings others : List Holding} {ticket : UInt64}
  {guarded : Bool}

/-- Use of a pool that was full once comes to the limit, with these holdings. -/
def Attended (limit : Limit ω) (holdings : List Holding) : Prop :=
  ∃ (capacity : Nat) (full : Limit ω) (uses : List (Use ω)),
    ofCapacity? capacity = some full ∧ (Usage.run full uses).limit = limit ∧
      (Usage.run full uses).Holds holdings

private theorem attended_new {capacity : Nat} (made : ofCapacity? capacity = some limit) :
    limit.Attended [] :=
  ⟨capacity, limit, [], made, rfl, .nil, rfl⟩

private theorem Attended.perm (same : holdings.Perm others) (attended : limit.Attended holdings) :
    limit.Attended others := by
  obtain ⟨capacity, full, uses, made, comes, holds⟩ := attended
  exact ⟨capacity, full, uses, made, comes, holds.perm same⟩

private theorem Attended.step (attended : limit.Attended holdings)
    (steps : ∀ usage : Usage ω, usage.limit = limit → usage.Holds holdings →
      ∃ use, (usage.step use).2.limit = changed ∧ (usage.step use).2.Holds others) :
    changed.Attended others := by
  obtain ⟨capacity, full, uses, made, comes, holds⟩ := attended
  obtain ⟨use, changes, gained⟩ := steps _ comes holds
  refine ⟨capacity, full, uses ++ [use], made, ?_, ?_⟩
  · rwa [Usage.run_append_singleton]
  · rwa [Usage.run_append_singleton]

private theorem Attended.poll (attended : limit.Attended holdings) (guarded : Bool) (waker : ω) :
    (limit.poll none waker).2.Attended
      (claimed guarded (limit.poll none waker).1 ++ holdings) := by
  obtain ⟨capacity, full, uses, made, rfl, holds⟩ := attended
  let number := (Usage.run full uses).borrows.length
  have begun : Usage.run full (uses ++ [.borrow guarded]) =
      { Usage.run full uses with
        borrows := (Usage.run full uses).borrows ++ [{ guarded }] } :=
    Usage.run_append_singleton ..
  have found : (Usage.run full (uses ++ [.borrow guarded])).borrows[number]? =
      some { guarded } := by
    rw [begun]
    exact List.getElem?_concat_length
  have before : (Usage.run full (uses ++ [.borrow guarded])).Holds
      ((.idle : Phase ω).holdings guarded ++ holdings) := by
    rw [begun]
    refine ⟨?_, holds.guards⟩
    rw [List.filterMap_append]
    exact (List.append_nil _).symm ▸ holds.waits
  have polled := before.poll found waker
  refine ⟨capacity, full, uses ++ [.borrow guarded] ++ [.poll number waker], made, ?_⟩
  rw [Usage.run_append_singleton]
  simp only [Usage.step, found]
  rw [begun] at polled ⊢
  exact polled

private theorem Attended.repoll (attended : limit.Attended (.waits ticket guarded :: holdings))
    (waker : ω) :
    (limit.poll (some ticket) waker).2.Attended
      (claimed guarded (limit.poll (some ticket) waker).1 ++ holdings) := by
  refine attended.step fun usage same holds => ?_
  obtain ⟨number, phase, found, held, before⟩ := holds.exists_borrow
  have polled := before.poll found waker
  rw [same, held] at polled
  refine ⟨.poll number waker, ?_⟩
  simp only [Usage.step, found, Phase.isOver_of_ticket? held]
  exact polled

private theorem Attended.cancel (attended : limit.Attended (.waits ticket guarded :: holdings)) :
    (limit.cancel ticket).2.Attended holdings := by
  refine attended.step fun usage same holds => ?_
  obtain ⟨number, phase, found, held, before⟩ := holds.exists_borrow
  have dropped := before.drop found held
  rw [same] at dropped
  refine ⟨.drop number, ?_⟩
  simp only [Usage.step, found, Phase.isOver_of_ticket? held]
  exact dropped

private theorem Attended.take (attended : limit.Attended holdings) (guarded : Bool)
    (taken : limit.take? = some changed) :
    changed.Attended (claimed guarded .taken ++ holdings) := by
  refine attended.step fun usage same holds => ⟨.tryBorrow guarded, ?_⟩
  subst same
  simp only [Usage.step, taken]
  refine ⟨Usage.limit_guardIf .., Usage.Holds.guardIf ?_ guarded⟩
  exact ⟨holds.waits, holds.guards⟩

private theorem Attended.putBack (attended : limit.Attended holdings) {woken : Option ω}
    (room : limit.putBack = .ok (woken, changed)) : changed.Attended holdings := by
  refine attended.step fun usage same holds => ⟨.giveBack, ?_⟩
  subst same
  simp only [Usage.step, Usage.putBack, room]
  exact ⟨Usage.limit_handOver .., holds.handOver _⟩

/-- A guard is dropped, and its token finds its way back if there is room. -/
private theorem Attended.release (attended : limit.Attended (.guard :: holdings)) :
    (match limit.putBack with
      | .error _ => limit
      | .ok (_, changed) => changed).Attended holdings := by
  refine attended.step fun usage same holds => ⟨.release, ?_⟩
  subst same
  obtain ⟨waits, guards⟩ := holds
  -- The guard is gone even if the full pool refuses its token.
  have one : usage.guards = holdings.countP Holding.isGuard + 1 :=
    guards.trans (List.countP_cons_of_pos rfl)
  have without : Usage.Holds { usage with guards := holdings.countP Holding.isGuard } holdings :=
    ⟨waits, rfl⟩
  simp only [Usage.step, one, Usage.putBack]
  cases usage.limit.putBack with
  | error error => exact ⟨rfl, without⟩
  | ok change => exact ⟨Usage.limit_handOver .., without.handOver _⟩

/-- A token that is there while somebody stands in the line is one for which somebody else
was woken. -/
theorem Attended.available_eq_zero (attended : limit.Attended holdings)
    (few : limit.line.drawn < 2 ^ 64) (somebody : limit.line.waiters ≠ [])
    (standing : ∀ ticket guarded, .waits ticket guarded ∈ holdings →
      limit.line.holds ticket = true) : limit.available = 0 := by
  obtain ⟨capacity, full, uses, made, rfl, holds⟩ := attended
  have counts : (Usage.run full uses).limit.line.drawn = (Usage.run full uses).drawn :=
    Usage.counts_run made uses
  have kept : Kept _ _ _ := Usage.sound_run made uses (counts ▸ few)
  have covered := kept.vigilant.covered somebody
  have nobody : (Usage.run full uses).limit.line.wokenCount
      ((Usage.run full uses).phases.filterMap Phase.ticket?) = 0 := by
    refine List.countP_eq_zero.mpr fun ticket waiting => ?_
    rw [Usage.phases, List.filterMap_map] at waiting
    obtain ⟨borrow, member, held⟩ := List.mem_filterMap.mp waiting
    have waits : (ticket, borrow.guarded) ∈ holdings.filterMap Holding.wait? := by
      refine holds.waits.mem_iff.mp (List.mem_filterMap.mpr ⟨borrow, member, ?_⟩)
      rw [Borrow.wait?, show borrow.phase.ticket? = some ticket from held]
      rfl
    obtain ⟨holding, among, same⟩ := List.mem_filterMap.mp waits
    cases holding with
    | guard => cases same
    | waits own guarded =>
        cases same
        simp [standing _ _ among]
  exact Nat.le_zero.mp (nobody ▸ covered)

end Limit

/-! ## What a session does to its limits -/

/-- What is at stake at limit `number`. -/
def Stake.holding? (number : Nat) : Stake → Option Limit.Holding
  | .borrow limit ticket guarded => if limit = number then some (.waits ticket guarded) else none
  | .guard limit => if limit = number then some .guard else none
  | .turn | .gate _ _ | .follow _ _ _ _ | .lead _ _ _ => none

namespace Bench

/-- Every limit is attended by those who wait there or have a token of it on a guard. -/
def LimitsServe (stakes : List Stake) (bench : Bench) : Prop :=
  bench.limits.Serves Limit.Attended Stake.holding? stakes

variable {bench next : Bench} {used gained others : List Stake} {number one limit : Nat}
  {name key : String} {call : Nat} {ticket : UInt64} {guarded : Bool} {waker : Waker}

private theorem holdings_borrow (limit : Nat) (ticket : UInt64) (guarded : Bool) :
    [Stake.borrow limit ticket guarded].filterMap (Stake.holding? limit) =
      [.waits ticket guarded] := by
  simp [Stake.holding?]

private theorem holdings_guard (limit : Nat) :
    [Stake.guard limit].filterMap (Stake.holding? limit) = [.guard] := by
  simp [Stake.holding?]

private theorem holdings_claim (limit : Nat) (guarded : Bool) (claim : Claim) :
    (claimStakes limit guarded claim).filterMap (Stake.holding? limit) =
      Limit.claimed guarded claim := by
  cases claim with
  | parked ticket => exact holdings_borrow limit ticket guarded
  | taken =>
      cases guarded with
      | false => rfl
      | true => exact holdings_guard limit

private theorem no_holdings_claim (different : one ≠ limit) (guarded : Bool) (claim : Claim) :
    (claimStakes limit guarded claim).filterMap (Stake.holding? one) = [] := by
  cases claim <;> cases guarded <;> simp [claimStakes, Stake.holding?, Ne.symm different]

private theorem no_holdings_passage (gate number : Nat) (passage : Passage) :
    (passageStakes gate passage).filterMap (Stake.holding? number) = [] := by
  cases passage <;> rfl

private theorem no_holdings_entrance (home : Home) (key : String) (entrance : Entrance)
    (number : Nat) :
    (entrance.stakes home key).filterMap (Stake.holding? number) = [] := by
  cases entrance <;> rfl

private theorem no_holdings_following (home : Home) (key : String) (call : Nat)
    (following : Following Settlement) (number : Nat) :
    (followingStakes home key call following).filterMap (Stake.holding? number) = [] := by
  cases following with
  | parked _ => rfl
  | settled _ => rfl

/-- Only one limit changes, with what is at stake there. -/
private theorem LimitsServe.change (serves : LimitsServe (used ++ others) bench)
    {changed : Limit Waker}
    (inside : limit < bench.limits.items.size) (beside : (bench.setLimit limit changed).Beside next)
    (elsewhere : ∀ one, one ≠ limit →
      used.filterMap (Stake.holding? one) = [] ∧ gained.filterMap (Stake.holding? one) = [])
    (attended : ∀ holdings, (bench.limits.get limit).Attended
        (used.filterMap (Stake.holding? limit) ++ holdings) →
      changed.Attended (gained.filterMap (Stake.holding? limit) ++ holdings)) :
    LimitsServe (gained ++ others) next := by
  unfold LimitsServe
  rw [beside.limits]
  exact Shelf.Serves.set serves inside elsewhere attended

private theorem LimitsServe.quiet (serves : LimitsServe (used ++ others) bench)
    (same : next.limits = bench.limits)
    (before : ∀ number, used.filterMap (Stake.holding? number) = [])
    (after : ∀ number, gained.filterMap (Stake.holding? number) = []) :
    LimitsServe (gained ++ others) next := by
  unfold LimitsServe
  rw [same]
  exact Shelf.Serves.quiet serves before after

private theorem LimitsServe.tryBorrow (serves : LimitsServe ([] ++ others) bench)
    (named : bench.limits.number? name = some limit) :
    LimitsServe ([] ++ others) (bench.tryBorrow limit).2 := by
  unfold Bench.tryBorrow
  cases taken : (bench.limits.get limit).take? with
  | none => exact serves
  | some changed =>
      exact serves.change (Shelf.Serves.named serves named) (beside_refl _)
        (fun _ _ => ⟨rfl, rfl⟩) (fun _ attended => attended.take false taken)

private theorem LimitsServe.tryGuard (serves : LimitsServe ([] ++ others) bench)
    (named : bench.limits.number? name = some limit) (borrowed : (bench.tryBorrow limit).1 = true) :
    LimitsServe ([.guard limit] ++ others) (bench.tryBorrow limit).2 := by
  unfold Bench.tryBorrow at borrowed ⊢
  cases taken : (bench.limits.get limit).take? with
  | none =>
      rw [taken] at borrowed
      cases borrowed
  | some changed =>
      refine serves.change (Shelf.Serves.named serves named) (beside_refl _) ?_ ?_
      · intro one different
        exact ⟨rfl, no_holdings_claim different true .taken⟩
      · intro holdings attended
        rw [holdings_guard]
        exact attended.take true taken

private theorem LimitsServe.giveBack (serves : LimitsServe ([] ++ others) bench)
    (named : bench.limits.number? name = some limit) :
    LimitsServe ([] ++ others) (bench.giveBack limit).2 := by
  unfold Bench.giveBack
  cases room : (bench.limits.get limit).putBack with
  | error error => exact serves
  | ok change =>
      exact serves.change (Shelf.Serves.named serves named) (beside_wakeAll ..)
        (fun _ _ => ⟨rfl, rfl⟩) (fun _ attended => attended.putBack room)

private theorem LimitsServe.release (serves : LimitsServe ([.guard limit] ++ others) bench) :
    LimitsServe ([] ++ others) (bench.giveBack limit).2 := by
  have present := holdings_guard limit
  have inside := Shelf.Serves.inside serves present
  have elsewhere (one : Nat) (different : one ≠ limit) :
      [Stake.guard limit].filterMap (Stake.holding? one) = [] ∧
        List.filterMap (Stake.holding? one) [] = [] :=
    ⟨no_holdings_claim different true .taken, rfl⟩
  have released (holdings : List Limit.Holding) (attended : (bench.limits.get limit).Attended
      ([Stake.guard limit].filterMap (Stake.holding? limit) ++ holdings)) := by
    rw [present] at attended
    exact attended.release
  unfold Bench.giveBack
  cases putBack : (bench.limits.get limit).putBack with
  | error error =>
      rw [putBack] at released
      have same : bench.setLimit limit (bench.limits.get limit) = bench := by
        rw [setLimit, Shelf.set_get]
      exact serves.change inside (beside_of_eq same.symm) elsewhere released
  | ok change =>
      rw [putBack] at released
      exact serves.change inside (beside_wakeAll ..) elsewhere released

private theorem LimitsServe.pollBorrow (serves : LimitsServe ([] ++ others) bench)
    (named : bench.limits.number? name = some limit) :
    LimitsServe (claimStakes limit guarded (bench.pollBorrow limit none waker).1 ++ others)
      (bench.pollBorrow limit none waker).2 := by
  refine serves.change (Shelf.Serves.named serves named) (beside_refl _) ?_ ?_
  · intro one different
    exact ⟨rfl, no_holdings_claim different guarded _⟩
  · intro holdings attended
    rw [holdings_claim]
    exact attended.poll guarded waker

private theorem LimitsServe.repollBorrow
    (serves : LimitsServe ([.borrow limit ticket guarded] ++ others) bench) :
    LimitsServe (claimStakes limit guarded (bench.pollBorrow limit (some ticket) waker).1 ++ others)
      (bench.pollBorrow limit (some ticket) waker).2 := by
  have present := holdings_borrow limit ticket guarded
  refine serves.change (Shelf.Serves.inside serves present) (beside_refl _) ?_ ?_
  · intro one different
    exact ⟨no_holdings_claim different guarded (.parked ticket),
      no_holdings_claim different guarded _⟩
  · intro holdings attended
    rw [present] at attended
    rw [holdings_claim]
    exact attended.repoll waker

private theorem LimitsServe.cancelBorrow
    (serves : LimitsServe ([.borrow limit ticket guarded] ++ others) bench) :
    LimitsServe ([] ++ others) (bench.cancelBorrow limit ticket) := by
  have present := holdings_borrow limit ticket guarded
  refine serves.change (Shelf.Serves.inside serves present) (beside_wakeAll ..) ?_ ?_
  · intro one different
    exact ⟨no_holdings_claim different guarded (.parked ticket), rfl⟩
  · intro holdings attended
    rw [present] at attended
    exact attended.cancel

theorem LimitsServe.act (serves : LimitsServe (used ++ others) bench)
    (act : Act waker used bench gained next) : LimitsServe (gained ++ others) next := by
  cases act with
  | emit | turn | resources | putGate | leaveGate | putFlight | putManager | shut =>
      exact serves.quiet rfl (fun _ => rfl) (fun _ => rfl)
  | wake => exact serves.quiet (beside_wake ..).limits (fun _ => rfl) (fun _ => rfl)
  | unlock => exact serves.quiet (beside_wakeAll ..).limits (fun _ => rfl) (fun _ => rfl)
  | pollGate | repollGate =>
      exact serves.quiet rfl (fun _ => rfl) (fun _ => no_holdings_passage ..)
  | putLimit name made => exact Shelf.Serves.put serves (Limit.attended_new made) name
  | renameLimit other named => exact Shelf.Serves.rename serves named other
  | tryBorrow named => exact serves.tryBorrow named
  | tryGuard named borrowed => exact serves.tryGuard named borrowed
  | giveBack named => exact serves.giveBack named
  | release => exact serves.release
  | pollBorrow guarded named => exact serves.pollBorrow named
  | repollBorrow => exact serves.repollBorrow
  | cancelBorrow => exact serves.cancelBorrow
  | inject => exact serves.quiet (others_inject ..).1 (fun _ => rfl) (fun _ => rfl)
  | @enter _ home | @restart _ home =>
      cases home with
      | flight _ _ =>
          exact serves.quiet (enter_flight ..).beside.limits (fun _ => rfl)
            (fun _ => no_holdings_entrance ..)
      | manager _ =>
          exact serves.quiet (enter_manager ..).beside.limits (fun _ => rfl)
            (fun _ => no_holdings_entrance ..)
  | follow home key call ticket =>
      cases home with
      | flight number marked =>
          have same := (beside_of_eq (follow_flight bench number marked call ticket waker)).limits
          exact serves.quiet same (fun _ => rfl) (fun _ => no_holdings_following ..)
      | manager number =>
          have same := (beside_of_eq (follow_manager bench number call ticket waker)).limits
          exact serves.quiet same (fun _ => rfl) (fun _ => no_holdings_following ..)
  | unfollow home => cases home <;> exact serves.quiet rfl (fun _ => rfl) (fun _ => rfl)
  | finish home key call outcome =>
      cases home with
      | flight _ _ =>
          exact serves.quiet (finish_flight ..).beside.limits (fun _ => rfl) (fun _ => rfl)
      | manager _ =>
          exact serves.quiet (finish_manager ..).beside.limits (fun _ => rfl) (fun _ => rfl)
  | abandon home key call =>
      cases home with
      | flight _ _ =>
          exact serves.quiet (abandon_flight ..).beside.limits (fun _ => rfl) (fun _ => rfl)
      | manager _ =>
          exact serves.quiet (abandon_manager ..).beside.limits (fun _ => rfl) (fun _ => rfl)

theorem kept_limitsServe : KeptForAll LimitsServe where
  new := Shelf.serves_new
  perm := fun same serves => Shelf.Serves.perm Limit.Attended.perm serves same
  book := fun _ _ serves => serves
  act := fun act serves => serves.act act

end Bench

namespace Session

/-- Use comes to every limit of a session, with what its tasks and the session itself have
at stake there. -/
theorem limit_attended (log : Bool) (instructions : List Instruction) {name : String}
    {number : Nat}
    (named : (run log instructions).bench.limits.number? name = some number) :
    ((run log instructions).bench.limits.get number).Attended
      ((run log instructions).stakes.filterMap (Stake.holding? number)) := by
  have serves := holds_run Bench.kept_limitsServe log instructions
  exact Shelf.Serves.fits serves (Shelf.Serves.named serves named)

end Session

end Cohort
