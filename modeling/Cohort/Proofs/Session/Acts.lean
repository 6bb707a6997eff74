import Cohort.Proofs.Flight.Leaders
import Cohort.Session.Tasks

/-!
# Acts

Scripts touch the objects of a session one operation at a time. A suspended script has
its stakes at them: the places where it waits, the calls that it leads and the guards
that it holds. An act is one operation, with the stakes that it uses up and the stakes
that it leaves.

While a task is polled, some of its waits have been polled already, for its waker, and
others have not. A post is a stake with this difference: it names the task that is to be
woken for it.
-/

set_option autoImplicit false

namespace Cohort

/-- What a script that waits has at the objects of the session. -/
inductive Stake where
  /-- It waits for nothing but that its task is polled. -/
  | turn
  | gate (gate place : Nat)
  | borrow (limit : Nat) (ticket : UInt64) (guarded : Bool)
  | guard (limit : Nat)
  | follow (home : Home) (key : String) (call : Nat) (ticket : UInt64)
  | lead (home : Home) (key : String) (call : Nat)

def Guard.stake (guard : Guard) : Stake :=
  .guard guard.limit

mutual

def Frame.stakes : Frame → List Stake
  | .mk _ guards wait _ => wait.stakes ++ guards.map Guard.stake

def Wait.stakes : Wait → List Stake
  | .pause _ => [.turn]
  | .gate gate place => [.gate gate place]
  | .borrow limit ticket guard => [.borrow limit ticket guard.isSome]
  | .follow home key call ticket _ => [.follow home key call ticket]
  | .lead home key call work => work.stakes ++ [.lead home key call]
  | .together _ branches => branchesStakes branches

def Branch.stakes : Branch → List Stake
  | .running frame => frame.stakes
  | .ended _ => []

def branchesStakes : List Branch → List Stake
  | [] => []
  | branch :: rest => branch.stakes ++ branchesStakes rest

end

/-- Guards are held and calls are led without waiting for anything. -/
def Stake.waits : Stake → Bool
  | .turn | .gate _ _ | .borrow _ _ _ | .follow _ _ _ _ => true
  | .guard _ | .lead _ _ _ => false

/-- A stake and the task to be woken for it. There is none if nothing is waited for, and
none either while the task is being polled and has not got to the stake. -/
structure Post where
  task : Option String
  stake : Stake

def Stake.post (task : Option String) (stake : Stake) : Post :=
  ⟨if stake.waits then task else none, stake⟩

/-- The stakes of a script whose waits were all polled last for `task`, or are all due. -/
def posts (task : Option String) (stakes : List Stake) : List Post :=
  stakes.map (Stake.post task)

section Posts

@[simp]
theorem posts_append (task : Option String) (stakes others : List Stake) :
    posts task (stakes ++ others) = posts task stakes ++ posts task others :=
  List.map_append

@[simp]
theorem map_stake_posts (task : Option String) (stakes : List Stake) :
    (posts task stakes).map Post.stake = stakes := by
  rw [posts, List.map_map]
  exact List.map_id stakes

/-- Nobody is woken for what is merely held. -/
theorem posts_of_not_waits (task other : Option String) {stakes : List Stake}
    (held : ∀ stake ∈ stakes, stake.waits = false) :
    posts task stakes = posts other stakes := by
  refine List.map_congr_left fun stake member => ?_
  simp [Stake.post, held stake member]

theorem posts_guards (task other : Option String) (guards : List Guard) :
    posts task (guards.map Guard.stake) = posts other (guards.map Guard.stake) := by
  refine posts_of_not_waits task other fun stake member => ?_
  obtain ⟨guard, _, rfl⟩ := List.mem_map.mp member
  rfl

end Posts

namespace Shelf

variable {α : Type} [Inhabited α]

theorem get_set (shelf : Shelf α) (number one : Nat) (item : α) :
    (shelf.set number item).get one =
      if one = number ∧ number < shelf.items.size then item else shelf.get one := by
  simp only [get, set, Array.getD_eq_getD_getElem?, Array.getElem?_setIfInBounds]
  by_cases same : number = one
  · subst same
    by_cases inside : number < shelf.items.size <;> simp [inside]
  · simp [same, Ne.symm same]

theorem set_get (shelf : Shelf α) (number : Nat) :
    shelf.set number (shelf.get number) = shelf := by
  have same : shelf.items.setIfInBounds number (shelf.get number) = shelf.items := by
    refine Array.ext_getElem? fun position => ?_
    rw [Array.getElem?_setIfInBounds]
    by_cases found : number = position
    · subst found
      by_cases inside : number < shelf.items.size <;> simp [inside, get]
    · simp [found]
  rw [set, same]

end Shelf

namespace Bench

def passageStakes (gate : Nat) : Passage → List Stake
  | .passed => []
  | .parked place => [.gate gate place]

def claimStakes (limit : Nat) (guarded : Bool) : Claim → List Stake
  | .parked ticket => [.borrow limit ticket guarded]
  | .taken => if guarded then [.guard limit] else []

def Entrance.stakes (home : Home) (key : String) : Entrance → List Stake
  | .leads call => [.lead home key call]
  | .joins call ticket => [.follow home key call ticket]
  | .settled _ _ | .endless => []

def followingStakes (home : Home) (key : String) (call : Nat) :
    Following Settlement → List Stake
  | .parked ticket => [.follow home key call ticket]
  | .settled _ => []

def Names (bench : Bench) : Home → Prop
  | .flight number _ => ∃ name, bench.flights.number? name = some number
  | .manager number => ∃ name, bench.managers.number? name = some number

def Abandoned (bench : Bench) (call : Nat) : Home → Prop
  | .flight number _ => ((bench.flights.get number).call call).verdict = some .abandoned
  | .manager number => ((bench.managers.get number).flight.call call).verdict = some .abandoned

/-- One operation on the bench. `waker` is the waker of the task that is polled, if one is. -/
inductive Act (waker : Waker) : List Stake → Bench → List Stake → Bench → Prop where
  | emit {bench : Bench} (event : Event) : Act waker [] bench [] (bench.emit event)
  | wake {bench : Bench} : Act waker [] bench [.turn] (bench.wake waker)
  | turn {bench : Bench} : Act waker [.turn] bench [] bench
  | resources {bench : Bench} (resources : Array Resource) :
      Act waker [] bench [] { bench with resources }
  | putGate {bench : Bench} (name : String) :
      Act waker [] bench [] { bench with gates := (bench.gates.obtain name).2 }
  | unlock {bench : Bench} (gate : Nat) : Act waker [] bench [] (bench.unlock gate)
  | pollGate {bench : Bench} {name : String} {gate : Nat} :
      bench.gates.number? name = some gate →
      Act waker [] bench (passageStakes gate (bench.pollGate gate none waker).1)
        (bench.pollGate gate none waker).2
  | repollGate {bench : Bench} (gate place : Nat) :
      Act waker [.gate gate place] bench
        (passageStakes gate (bench.pollGate gate (some place) waker).1)
        (bench.pollGate gate (some place) waker).2
  | leaveGate {bench : Bench} (gate place : Nat) : Act waker [.gate gate place] bench [] bench
  | putLimit {bench : Bench} (name : String) {capacity : Nat} {limit : Limit Waker} :
      Limit.ofCapacity? capacity = some limit →
      Act waker [] bench [] { bench with limits := (bench.limits.put name limit).2 }
  | renameLimit {bench : Bench} {name : String} {limit : Nat} (other : String) :
      bench.limits.number? name = some limit →
      Act waker [] bench [] { bench with limits := bench.limits.rename other limit }
  | tryBorrow {bench : Bench} {name : String} {limit : Nat} :
      bench.limits.number? name = some limit →
      Act waker [] bench [] (bench.tryBorrow limit).2
  | tryGuard {bench : Bench} {name : String} {limit : Nat} :
      bench.limits.number? name = some limit → (bench.tryBorrow limit).1 = true →
      Act waker [] bench [.guard limit] (bench.tryBorrow limit).2
  | giveBack {bench : Bench} {name : String} {limit : Nat} :
      bench.limits.number? name = some limit →
      Act waker [] bench [] (bench.giveBack limit).2
  | release {bench : Bench} (limit : Nat) :
      Act waker [.guard limit] bench [] (bench.giveBack limit).2
  | pollBorrow {bench : Bench} {name : String} {limit : Nat} (guarded : Bool) :
      bench.limits.number? name = some limit →
      Act waker [] bench (claimStakes limit guarded (bench.pollBorrow limit none waker).1)
        (bench.pollBorrow limit none waker).2
  | repollBorrow {bench : Bench} (limit : Nat) (ticket : UInt64) (guarded : Bool) :
      Act waker [.borrow limit ticket guarded] bench
        (claimStakes limit guarded (bench.pollBorrow limit (some ticket) waker).1)
        (bench.pollBorrow limit (some ticket) waker).2
  | cancelBorrow {bench : Bench} (limit : Nat) (ticket : UInt64) (guarded : Bool) :
      Act waker [.borrow limit ticket guarded] bench [] (bench.cancelBorrow limit ticket)
  | putFlight {bench : Bench} (name : String) :
      Act waker [] bench [] { bench with flights := (bench.flights.put name {}).2 }
  | putManager {bench : Bench} (name : String) :
      Act waker [] bench [] { bench with managers := (bench.managers.put name {}).2 }
  | inject {bench : Bench} {name : String} {manager : Nat} (key : String) (resource : Nat) :
      bench.managers.number? name = some manager →
      Act waker [] bench [] (bench.inject manager key resource).2
  | shut {bench : Bench} {name : String} {manager : Nat} :
      bench.managers.number? name = some manager →
      Act waker [] bench [] (bench.setManager manager (bench.managers.get manager).shut.2)
  | enter {bench : Bench} {home : Home} (key : String) : bench.Names home →
      Act waker [] bench ((bench.enter home key waker).1.stakes home key)
        (bench.enter home key waker).2
  | restart {bench : Bench} {home : Home} {key : String} {call : Nat} {ticket : UInt64} :
      bench.Abandoned call home →
      Act waker [.follow home key call ticket] bench
        ((bench.enter home key waker).1.stakes home key) (bench.enter home key waker).2
  | follow {bench : Bench} (home : Home) (key : String) (call : Nat) (ticket : UInt64) :
      ¬ bench.Abandoned call home →
      Act waker [.follow home key call ticket] bench
        (followingStakes home key call (bench.follow home call ticket waker).1)
        (bench.follow home call ticket waker).2
  | unfollow {bench : Bench} (home : Home) (key : String) (call : Nat) (ticket : UInt64) :
      Act waker [.follow home key call ticket] bench [] (bench.unfollow home call ticket)
  | finish {bench : Bench} (home : Home) (key : String) (call : Nat) (outcome : Outcome) :
      Act waker [.lead home key call] bench [] (bench.finish home key call outcome).2
  | abandon {bench : Bench} (home : Home) (key : String) (call : Nat) :
      Act waker [.lead home key call] bench [] (bench.abandon home key call)

/-- Acts one after the other. Posts that an act does not use stay as they are, and what it
leaves is posted for the task that is polled. -/
inductive Acts (waker : Waker) : List Post → Bench → List Post → Bench → Prop where
  | done {before left : List Post} {bench : Bench} : before.Perm left →
      Acts waker before bench left bench
  | act {before used others left : List Post} {gained : List Stake} {bench next last : Bench} :
      before.Perm (used ++ others) → Act waker (used.map Post.stake) bench gained next →
      Acts waker (posts (some waker.task) gained ++ others) next left last →
      Acts waker before bench left last

namespace Acts

variable {waker : Waker} {before middle left : List Post} {used gained : List Stake}
  {bench next last : Bench}

theorem refl (before : List Post) (bench : Bench) : Acts waker before bench before bench :=
  .done (.refl _)

theorem of_perm (same : middle.Perm before) (acts : Acts waker before bench left last) :
    Acts waker middle bench left last := by
  cases acts with
  | done perm => exact .done (same.trans perm)
  | act split act rest => exact .act (same.trans split) act rest

theorem to_perm (acts : Acts waker before bench left last) (same : left.Perm middle) :
    Acts waker before bench middle last := by
  induction acts with
  | done perm => exact .done (perm.trans same)
  | act split act _ ih => exact .act split act (ih same)

theorem trans (first : Acts waker before bench middle next)
    (second : Acts waker middle next left last) : Acts waker before bench left last := by
  induction first with
  | done perm => exact second.of_perm perm
  | act split act _ ih => exact .act split act (ih second)

theorem frame (acts : Acts waker before bench left last) (others : List Post) :
    Acts waker (before ++ others) bench (left ++ others) last := by
  induction acts with
  | done perm => exact .done (perm.append_right others)
  | act split act _ ih =>
      refine .act ((split.append_right others).trans (.of_eq (List.append_assoc ..))) act ?_
      rwa [← List.append_assoc]

theorem of_act (act : Act waker used bench gained next) (task : Option String) :
    Acts waker (posts task used) bench (posts (some waker.task) gained) next := by
  refine .act (.of_eq (List.append_nil _).symm) ?_ (.done (.of_eq (List.append_nil _)))
  rwa [map_stake_posts]

end Acts

end Bench

end Cohort
