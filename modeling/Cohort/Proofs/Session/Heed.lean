import Cohort.Proofs.Session.Limits
import Cohort.Proofs.Session.Managers
import Cohort.Proofs.Session.Flights
import Cohort.Proofs.Session.Seats

/-!
# Nobody is forgotten

Whoever waits is heeded: its task is queued already, or somebody sits for it where it
waits. Seats are told apart by their tickets, so this holds as long as tickets have not
wrapped around.
-/

set_option autoImplicit false

namespace Cohort

namespace Bench

variable {bench next : Bench} {waker : Waker} {used gained others : List Stake}

/-! ## What there is -/

def GatesNamed (bench : Bench) : Prop :=
  ∀ name number, bench.gates.number? name = some number → number < bench.gates.items.size

private theorem GatesNamed.set (named : bench.GatesNamed) {number : Nat} {gate : Gate Waker}
    (same : next.gates = bench.gates.set number gate) : next.GatesNamed := by
  intro name one found
  rw [same] at found ⊢
  have inside := named name one found
  simpa [Shelf.set] using inside

private theorem GatesNamed.obtain (named : bench.GatesNamed) (name : String) :
    GatesNamed { bench with gates := (bench.gates.obtain name).2 } := by
  unfold Shelf.obtain
  cases known : bench.gates.number? name with
  | some number => exact named
  | none =>
      intro other number found
      simp only [Shelf.number?, Shelf.put, Table.find?_insert, Array.size_push] at found ⊢
      split at found
      · cases found
        exact Nat.lt_succ_self _
      · exact Nat.lt_succ_of_lt (named other number found)

private theorem GatesNamed.quiet (named : bench.GatesNamed) (same : next.gates = bench.gates) :
    next.GatesNamed := by
  unfold GatesNamed
  rw [same]
  exact named

private theorem GatesNamed.act (named : bench.GatesNamed) (act : Act waker used bench gained next) :
    next.GatesNamed := by
  cases act with
  | emit | turn | resources | leaveGate | putLimit | renameLimit | putFlight | putManager | shut |
      pollBorrow | repollBorrow =>
      exact named.quiet rfl
  | wake => exact named.quiet (beside_wake ..).gates
  | putGate name => exact named.obtain name
  | unlock => exact named.set (beside_wakeAll ..).gates
  | pollGate | repollGate => exact named.set rfl
  | tryBorrow | tryGuard => exact named.quiet (others_tryBorrow ..).2.2
  | giveBack | release => exact named.quiet (others_giveBack ..).2.2
  | cancelBorrow => exact named.quiet (others_cancelBorrow ..).2.2
  | inject => exact named.quiet (others_inject ..).2.2
  | @enter _ home | @restart _ home =>
      cases home with
      | flight _ _ => exact named.quiet (enter_flight ..).beside.gates
      | manager _ => exact named.quiet (enter_manager ..).beside.gates
  | follow home key call ticket =>
      cases home with
      | flight number marked =>
          have same := follow_flight bench number marked call ticket waker
          exact named.quiet (beside_of_eq same).gates
      | manager number =>
          have same := follow_manager bench number call ticket waker
          exact named.quiet (beside_of_eq same).gates
  | unfollow home => cases home <;> exact named.quiet rfl
  | finish home =>
      cases home with
      | flight _ _ => exact named.quiet (finish_flight ..).beside.gates
      | manager _ => exact named.quiet (finish_manager ..).beside.gates
  | abandon home =>
      cases home with
      | flight _ _ => exact named.quiet (abandon_flight ..).beside.gates
      | manager _ => exact named.quiet (abandon_manager ..).beside.gates

/-- All objects are used as they are meant to be. -/
structure Served (stakes : List Stake) (bench : Bench) : Prop where
  limits : LimitsServe stakes bench
  flights : FlightsServe stakes bench
  managers : ManagersServe stakes bench
  gates : bench.GatesNamed

theorem kept_served : KeptForAll Served where
  new := ⟨kept_limitsServe.new, kept_flightsServe.new, kept_managersServe.new,
    fun _ _ found => by cases found⟩
  perm := fun same served => ⟨kept_limitsServe.perm same served.limits,
    kept_flightsServe.perm same served.flights, kept_managersServe.perm same served.managers,
    served.gates⟩
  book := fun _ _ served => ⟨served.limits, served.flights, served.managers, served.gates⟩
  act := fun act served => ⟨served.limits.act act, served.flights.act act, served.managers.act act,
    served.gates.act act⟩

variable {stakes : List Stake} {number call seat : Nat} {key : String}

private theorem Served.lt_of_registered_flight (served : Served stakes bench)
    (registered : (bench.flights.get number).registry.find? key = some call) :
    call < (bench.flights.get number).calls.size := by
  have led := (Shelf.Serves.fits_all served.flights Flight.attended_new number).led
  exact led.lt_size (led.find?_iff.mp registered)

private theorem Served.lt_of_registered_manager (served : Served stakes bench)
    (registered : (bench.managers.get number).flight.registry.find? key = some call) :
    call < (bench.managers.get number).flight.calls.size := by
  have led := (Shelf.Serves.fits_all served.managers Manager.attended_new number).led
  exact led.lt_size (led.find?_iff.mp registered)

/-! ## Seats that were given are at objects that are there -/

theorem lt_of_given_limit (given : (bench.seatingAt (.limit number)).given seat) :
    number < bench.limits.items.size := by
  by_contra outside
  rw [seatingAt, Shelf.get_of_size_le (Nat.not_lt.mp outside)] at given
  exact absurd given (Nat.not_lt_zero _)

theorem lt_of_given_flight (given : (bench.seatingAt (.flight number call)).given seat) :
    number < bench.flights.items.size ∧ call < (bench.flights.get number).calls.size := by
  have inside := Flight.lt_size_of_given given
  refine ⟨?_, inside⟩
  by_contra outside
  rw [Shelf.get_of_size_le (Nat.not_lt.mp outside)] at inside
  exact absurd inside (Nat.not_lt_zero _)

theorem lt_of_given_manager (given : (bench.seatingAt (.manager number call)).given seat) :
    number < bench.managers.items.size ∧
      call < (bench.managers.get number).flight.calls.size := by
  have inside := Flight.lt_size_of_given given
  refine ⟨?_, inside⟩
  by_contra outside
  rw [Shelf.get_of_size_le (Nat.not_lt.mp outside)] at inside
  exact absurd inside (Nat.not_lt_zero _)

theorem lt_of_given_gate (given : (bench.seatingAt (.gate number)).given seat) :
    number < bench.gates.items.size := by
  by_contra outside
  rw [seatingAt, Shelf.get_of_size_le (Nat.not_lt.mp outside)] at given
  rcases given with opens | before
  · cases opens
  · exact absurd before (Nat.not_lt_zero _)

end Bench

/-! ## Who is heard -/

/-- The task to be woken for the post is queued, or a waker of it sits there. -/
def Post.Heard (bench : Bench) (post : Post) : Prop :=
  ∀ task, post.task = some task → task ∈ bench.ready ∨
    ∃ seat waker, post.stake.seat? = some seat ∧ bench.seating.sits seat waker ∧
      waker.task = task

theorem Stake.waits_of_seat? {stake : Stake} {seat : Seat} (has : stake.seat? = some seat) :
    stake.waits = true := by
  cases stake with
  | gate _ _ | borrow _ _ _ | follow _ _ _ _ => rfl
  | turn | guard _ | lead _ _ _ => cases has

namespace Bench

variable {bench next changed : Bench} {waker : Waker} {used gained stakes : List Stake}
  {stake : Stake} {seat : Seat} {number limit gate call : Nat} {name key : String}
  {ticket : UInt64} {guarded : Bool}

/-- What an act leaves for the task that is polled: seats which it had before or nobody has
had, and where its waker sits. -/
structure Seated (bench next : Bench) (waker : Waker) (used gained : List Stake) : Prop where
  once : (gained.filterMap Stake.seat?).Nodup
  own : ∀ seat ∈ gained.filterMap Stake.seat?, seat ∈ used.filterMap Stake.seat? ∨
    ¬ bench.seating.given seat ∧ next.seating.given seat
  heard : ∀ stake ∈ gained, (stake.post (some waker.task)).Heard next

private theorem seated_of_idle (idle : ∀ stake ∈ gained, stake.waits = false) :
    Seated bench next waker used gained := by
  have nowhere : gained.filterMap Stake.seat? = [] := by
    refine List.filterMap_eq_nil_iff.mpr fun stake member => ?_
    cases has : stake.seat? with
    | none => rfl
    | some seat =>
        have waits := Stake.waits_of_seat? has
        rw [idle stake member] at waits
        cases waits
  refine ⟨nowhere ▸ List.nodup_nil, ?_, ?_⟩
  · intro seat member
    rw [nowhere] at member
    exact absurd member List.not_mem_nil
  · intro stake member task woken
    simp [Stake.post, idle stake member] at woken

private theorem seated_nil : Seated bench next waker used [] :=
  seated_of_idle (List.forall_mem_nil _)

private theorem seated_single (has : stake.seat? = some seat) (sits : next.seating.sits seat waker)
    (own : seat ∈ used.filterMap Stake.seat? ∨
      ¬ bench.seating.given seat ∧ next.seating.given seat) :
    Seated bench next waker used [stake] := by
  have one : [stake].filterMap Stake.seat? = [seat] := by simp [has]
  refine ⟨one ▸ List.nodup_singleton seat, ?_, ?_⟩
  · intro other member
    rw [one] at member
    rwa [List.mem_singleton.mp member]
  · intro other member task woken
    cases List.mem_singleton.mp member
    simp only [Stake.post, Stake.waits_of_seat? has, if_true, Option.some.injEq] at woken
    exact Or.inr ⟨seat, waker, has, sits, woken⟩

/-- A seat that was used before is used again. -/
private theorem seated_again (has : stake.seat? = some seat)
    (before : used.filterMap Stake.seat? = [seat])
    (sits : next.seating.sits seat waker) : Seated bench next waker used [stake] :=
  seated_single has sits (Or.inl (before ▸ List.mem_singleton_self _))

private theorem seated_wake : Seated bench (bench.wake waker) waker used [.turn] := by
  refine ⟨List.nodup_nil, fun seat member => absurd member List.not_mem_nil, ?_⟩
  intro stake member task woken
  cases List.mem_singleton.mp member
  cases woken
  exact Or.inl (mem_ready_wake.mpr (Or.inr rfl))

/-! ### Limits and gates -/

private theorem seatingAt_setLimit (inside : limit < bench.limits.items.size)
    (changed : Limit Waker) :
    (bench.setLimit limit changed).seatingAt (.limit limit) = changed.seating := by
  simp only [seatingAt, setLimit, Shelf.get_set, inside, and_self, if_true]

private theorem seated_pollBorrow (served : Served stakes bench) (few : bench.seating.few)
    (named : bench.limits.number? name = some limit) :
    Seated bench (bench.pollBorrow limit none waker).2 waker []
      (claimStakes limit guarded (bench.pollBorrow limit none waker).1) := by
  unfold pollBorrow
  cases polled : (bench.limits.get limit).poll none waker with
  | mk claim changed =>
      cases claim with
      | taken => exact seated_of_idle (by cases guarded <;> simp [claimStakes, Stake.waits])
      | parked ticket =>
          obtain ⟨sits, fresh⟩ := Limit.sits_arrive polled
          obtain ⟨unseen, given⟩ := fresh (few (.limit limit))
          have there := seatingAt_setLimit (Shelf.Serves.named served.limits named) changed
          rw [← there] at sits given
          exact seated_single rfl sits (Or.inr ⟨unseen, given⟩)

private theorem seated_repollBorrow (given : (bench.seatingAt (.limit limit)).given ticket.toNat) :
    Seated bench (bench.pollBorrow limit (some ticket) waker).2 waker
      [.borrow limit ticket guarded]
      (claimStakes limit guarded (bench.pollBorrow limit (some ticket) waker).1) := by
  unfold pollBorrow
  cases polled : (bench.limits.get limit).poll (some ticket) waker with
  | mk claim changed =>
      cases claim with
      | taken => exact seated_of_idle (by cases guarded <;> simp [claimStakes, Stake.waits])
      | parked later =>
          obtain ⟨rfl, sits⟩ := Limit.sits_repoll polled
          rw [← seatingAt_setLimit (lt_of_given_limit given) changed] at sits
          exact seated_again rfl rfl sits

private theorem seatingAt_setGate (inside : gate < bench.gates.items.size) (changed : Gate Waker) :
    { bench with gates := bench.gates.set gate changed }.seatingAt (.gate gate) =
      changed.seating := by
  simp only [seatingAt, Shelf.get_set, inside, and_self, if_true]

private theorem seated_pollGate (served : Served stakes bench)
    (named : bench.gates.number? name = some gate) :
    Seated bench (bench.pollGate gate none waker).2 waker []
      (passageStakes gate (bench.pollGate gate none waker).1) := by
  unfold pollGate
  cases polled : (bench.gates.get gate).poll none waker with
  | mk passage changed =>
      cases passage with
      | passed => exact seated_nil
      | parked place =>
          obtain ⟨sits, unseen, given⟩ := Gate.sits_arrive polled
          rw [← seatingAt_setGate (served.gates name gate named) changed] at sits given
          exact seated_single rfl sits (Or.inr ⟨unseen, given⟩)

private theorem seated_repollGate {place : Nat}
    (given : (bench.seatingAt (.gate gate)).given place) :
    Seated bench (bench.pollGate gate (some place) waker).2 waker [.gate gate place]
      (passageStakes gate (bench.pollGate gate (some place) waker).1) := by
  unfold pollGate
  cases polled : (bench.gates.get gate).poll (some place) waker with
  | mk passage changed =>
      cases passage with
      | passed => exact seated_nil
      | parked later =>
          obtain ⟨rfl, sits⟩ := Gate.sits_repoll given polled
          rw [← seatingAt_setGate (lt_of_given_gate given) changed] at sits
          exact seated_again rfl rfl sits

/-! ### Keyed calls -/

/-- The object of a home is there. -/
def Holds (bench : Bench) : Home → Prop
  | .flight number _ => number < bench.flights.items.size
  | .manager number => number < bench.managers.items.size

private theorem Served.holds_of_names (served : Served stakes bench) {home : Home}
    (names : bench.Names home) : bench.Holds home := by
  cases home with
  | flight number marked =>
      obtain ⟨name, named⟩ := names
      exact Shelf.Serves.named served.flights named
  | manager number =>
      obtain ⟨name, named⟩ := names
      exact Shelf.Serves.named served.managers named

private theorem holds_of_given {home : Home}
    (given : (bench.seatingAt (home.place call)).given number) :
    bench.Holds home := by
  cases home with
  | flight _ _ => exact (lt_of_given_flight given).1
  | manager _ => exact (lt_of_given_manager given).1

private theorem seatingAt_setFlight (inside : number < bench.flights.items.size)
    (flight : Flight String Waker Outcome) (call : Nat) :
    (bench.setFlight number flight).seatingAt (.flight number call) = flight.seatingAt call := by
  simp only [seatingAt, setFlight, Shelf.get_set, inside, and_self, if_true]

private theorem seatingAt_setManager_self (inside : number < bench.managers.items.size)
    (manager : Manager String Waker Nat String) (call : Nat) :
    (bench.setManager number manager).seatingAt (.manager number call) =
      manager.flight.seatingAt call := by
  simp only [seatingAt, setManager, Shelf.get_set, inside, and_self, if_true]

private theorem joins_of_enter_flight {marked : Bool}
    (entered : bench.enter (.flight number marked) key waker = (.joins call ticket, changed)) :
    ∃ flight, (bench.flights.get number).enter key waker = (.joins call ticket, flight) ∧
      changed.seatingAt = (bench.setFlight number flight).seatingAt := by
  have beside := (bench.enter_flight number marked key waker).beside
  rw [entered] at beside
  simp only [enter] at entered
  cases same : (bench.flights.get number).enter key waker with
  | mk entry flight =>
      rw [same] at entered beside
      cases entry with
      | leads _ => cases entered
      | joins one own =>
          cases entered
          exact ⟨flight, rfl, beside.seatingAt⟩
      | late verdict => cases verdict <;> cases entered

private theorem joins_of_enter_manager
    (entered : bench.enter (.manager number) key waker = (.joins call ticket, changed)) :
    ∃ manager, (bench.managers.get number).request key waker = (.joins call ticket, manager) ∧
      changed.seatingAt = (bench.setManager number manager).seatingAt := by
  have beside := (bench.enter_manager number key waker).beside
  rw [entered] at beside
  simp only [enter] at entered
  cases same : (bench.managers.get number).request key waker with
  | mk request manager =>
      rw [same] at entered beside
      cases request with
      | answered _ _ | creates _ => cases entered
      | joins one own =>
          cases entered
          exact ⟨manager, rfl, beside.seatingAt⟩
      | late verdict => cases verdict <;> cases entered

private theorem seated_enter (served : Served stakes bench) (few : bench.seating.few) {home : Home}
    (there : bench.Holds home) (key : String) (used : List Stake) :
    Seated bench (bench.enter home key waker).2 waker used
      ((bench.enter home key waker).1.stakes home key) := by
  cases entered : bench.enter home key waker with
  | mk entrance changed =>
      cases entrance with
      | settled _ _ | endless => exact seated_nil
      | leads _ => exact seated_of_idle (by simp [Entrance.stakes, Stake.waits])
      | joins call ticket =>
          cases home with
          | flight number marked =>
              obtain ⟨flight, joined, same⟩ := joins_of_enter_flight entered
              obtain ⟨sits, fresh⟩ :=
                Flight.sits_enter (fun _ => served.lt_of_registered_flight) joined
              obtain ⟨unseen, given⟩ := fresh (few (.flight number call))
              rw [← seatingAt_setFlight there, ← same] at sits given
              exact seated_single rfl sits (Or.inr ⟨unseen, given⟩)
          | manager number =>
              obtain ⟨manager, joined, same⟩ := joins_of_enter_manager entered
              obtain ⟨sits, fresh⟩ := Flight.sits_enter
                (fun _ => served.lt_of_registered_manager) (Manager.enter_of_joins joined)
              obtain ⟨unseen, given⟩ := fresh (few (.manager number call))
              rw [← seatingAt_setManager_self there, ← same] at sits given
              exact seated_single rfl sits (Or.inr ⟨unseen, given⟩)

private theorem seated_follow {home : Home} {key : String}
    (given : (bench.seatingAt (home.place call)).given ticket.toNat) :
    Seated bench (bench.follow home call ticket waker).2 waker [.follow home key call ticket]
      (followingStakes home key call (bench.follow home call ticket waker).1) := by
  cases home with
  | flight number marked =>
      obtain ⟨there, inside⟩ := lt_of_given_flight given
      simp only [follow]
      cases polled : (bench.flights.get number).poll call ticket waker with
      | mk following flight =>
          cases following with
          | settled verdict => cases verdict <;> exact seated_nil
          | parked later =>
              obtain ⟨rfl, sits⟩ := Flight.sits_poll inside polled
              rw [← seatingAt_setFlight there] at sits
              exact seated_again rfl rfl sits
  | manager number =>
      obtain ⟨there, inside⟩ := lt_of_given_manager given
      simp only [follow, Manager.poll]
      cases polled : (bench.managers.get number).flight.poll call ticket waker with
      | mk following flight =>
          cases following with
          | settled verdict => cases verdict <;> exact seated_nil
          | parked later =>
              obtain ⟨rfl, sits⟩ := Flight.sits_poll inside polled
              have there' := seatingAt_setManager_self there
                { bench.managers.get number with flight := flight } call
              rw [← there'] at sits
              exact seated_again rfl rfl sits

private theorem Act.seated (act : Act waker used bench gained next) (served : Served stakes bench)
    (few : bench.seating.few)
    (given : ∀ stake ∈ used, ∀ seat, stake.seat? = some seat → bench.seating.given seat) :
    Seated bench next waker used gained := by
  cases act with
  | emit | turn | resources | putGate | unlock | leaveGate | putLimit | renameLimit | tryBorrow |
      giveBack | release | cancelBorrow | putFlight | putManager | inject | shut | unfollow |
      finish | abandon =>
      exact seated_nil
  | wake => exact seated_wake
  | tryGuard => exact seated_of_idle (by simp [Stake.waits])
  | pollGate named => exact seated_pollGate served named
  | repollGate gate place => exact seated_repollGate (given _ (List.mem_singleton_self _) _ rfl)
  | pollBorrow guarded named => exact seated_pollBorrow served few named
  | repollBorrow limit ticket guarded =>
      exact seated_repollBorrow (given _ (List.mem_singleton_self _) _ rfl)
  | enter key names => exact seated_enter served few (served.holds_of_names names) key _
  | @restart _ home key call ticket abandoned =>
      have seat := given _ (List.mem_singleton_self _) _ rfl
      exact seated_enter served few (holds_of_given seat) key _
  | follow home key call ticket _ =>
      exact seated_follow (given _ (List.mem_singleton_self _) _ rfl)

/-! ## Everybody is heeded -/

/-- No two who wait have the same seat, and everybody is heard. -/
structure Heeded (here : List Post) (bench : Bench) : Prop where
  apart : (here.filterMap (fun post => post.stake.seat?)).Nodup
  given : ∀ post ∈ here, ∀ seat, post.stake.seat? = some seat → bench.seating.given seat
  heard : ∀ post ∈ here, post.Heard bench

variable {here others : List Post} {posted : List Post}

private theorem heeded_new : Heeded [] {} :=
  ⟨List.nodup_nil, by simp, by simp⟩

private theorem Heeded.perm (heeded : Heeded here bench) (same : here.Perm others) :
    Heeded others bench where
  apart := (same.filterMap _).nodup_iff.mp heeded.apart
  given := fun post member => heeded.given post (same.mem_iff.mpr member)
  heard := fun post member => heeded.heard post (same.mem_iff.mpr member)

/-- Whoever has no part in an act is heard after it: nobody else is unseated without being
queued. -/
private theorem Heeded.others_heard (heeded : Heeded (posted ++ others) bench)
    {called : List Waker} {seats : List Seat} (stirs : bench.Stirs next waker seats called)
    (about : ∀ seat ∈ seats, seat ∈ posted.filterMap (fun post => post.stake.seat?) ∨
      ¬ bench.seating.given seat) :
    ∀ post ∈ others, post.Heard next := by
  intro post member task woken
  have elsewhere := heeded.apart
  rw [List.filterMap_append] at elsewhere
  rcases heeded.heard post (List.mem_append_right _ member) task woken with queued | waits
  · exact Or.inl (stirs.queued.mpr (Or.inl queued))
  · obtain ⟨seat, sitter, has, sits, rfl⟩ := waits
    rcases stirs.change.kept sits with still | called | spared
    · exact Or.inr ⟨seat, sitter, has, still, rfl⟩
    · exact Or.inl (stirs.queued.mpr (Or.inr (List.mem_map_of_mem called)))
    · have among : seat ∈ others.filterMap (fun post => post.stake.seat?) :=
        List.mem_filterMap.mpr ⟨post, member, has⟩
      rcases about seat spared with used | unseen
      · exact absurd rfl ((List.nodup_append.mp elsewhere).2.2 seat used seat among)
      · exact absurd (heeded.given post (List.mem_append_right _ member) seat has) unseen

private theorem filterMap_seat?_posts (task : Option String) (stakes : List Stake) :
    (posts task stakes).filterMap (fun post => post.stake.seat?) =
      stakes.filterMap Stake.seat? := by
  rw [posts, List.filterMap_map]
  rfl

private theorem filterMap_seat?_map (here : List Post) :
    (here.map Post.stake).filterMap Stake.seat? =
      here.filterMap (fun post => post.stake.seat?) := by
  rw [List.filterMap_map]
  rfl

private theorem Heeded.act (heeded : Heeded (posted ++ others) bench)
    (act : Act waker (posted.map Post.stake) bench gained next) (served : Served stakes bench)
    (few : bench.seating.few) : Heeded (posts (some waker.task) gained ++ others) next := by
  obtain ⟨called, stirs⟩ := act.stirs
  have seated := act.seated served few fun stake member seat has => by
    obtain ⟨post, among, rfl⟩ := List.mem_map.mp member
    exact heeded.given post (List.mem_append_left _ among) seat has
  have own := seated.own
  rw [filterMap_seat?_map] at own
  have elsewhere := heeded.apart
  rw [List.filterMap_append] at elsewhere
  refine ⟨?_, ?_, ?_⟩
  · rw [List.filterMap_append, filterMap_seat?_posts]
    refine List.nodup_append.mpr
      ⟨seated.once, (List.nodup_append.mp elsewhere).2.1, ?_⟩
    intro seat gains other among same
    subst same
    rcases own seat gains with before | ⟨unseen, _⟩
    · exact (List.nodup_append.mp elsewhere).2.2 seat before seat among rfl
    · obtain ⟨post, member, has⟩ := List.mem_filterMap.mp among
      exact unseen (heeded.given post (List.mem_append_right _ member) seat has)
  · intro post member seat has
    rcases List.mem_append.mp member with gains | member
    · have among : seat ∈ gained.filterMap Stake.seat? := by
        rw [← filterMap_seat?_posts (some waker.task)]
        exact List.mem_filterMap.mpr ⟨post, gains, has⟩
      rcases own seat among with before | ⟨_, given⟩
      · obtain ⟨old, member, had⟩ := List.mem_filterMap.mp before
        exact stirs.change.given (heeded.given old (List.mem_append_left _ member) seat had)
      · exact given
    · exact stirs.change.given (heeded.given post (List.mem_append_right _ member) seat has)
  · intro post member
    rcases List.mem_append.mp member with gains | member
    · obtain ⟨stake, among, rfl⟩ := List.mem_map.mp gains
      exact seated.heard stake among
    · refine heeded.others_heard stirs (fun seat about => ?_) post member
      rw [List.filterMap_append, filterMap_seat?_map] at about
      rcases List.mem_append.mp about with used | gains
      · exact Or.inl used
      · exact (own seat gains).imp_right And.left

private theorem beside_enqueue (bench : Bench) (task : String) :
    bench.Beside (bench.enqueue task) := by
  unfold enqueue
  split <;> exact ⟨_, _, _, rfl⟩

private theorem seating_enqueue (bench : Bench) (task : String) :
    (bench.enqueue task).seating = bench.seating :=
  congrArg Seating.all (bench.beside_enqueue task).seatingAt

private theorem Heeded.queue (heeded : Heeded here bench) (task : String) :
    Heeded (⟨some task, .turn⟩ :: here) (bench.enqueue task) := by
  refine ⟨heeded.apart, ?_, ?_⟩
  · intro post member seat has
    rw [seating_enqueue]
    rcases List.mem_cons.mp member with rfl | member
    · cases has
    · exact heeded.given post member seat has
  · intro post member other woken
    rw [mem_ready_enqueue, seating_enqueue]
    rcases List.mem_cons.mp member with rfl | member
    · exact Or.inl (Or.inr (Option.some.inj woken).symm)
    · exact (heeded.heard post member other woken).imp_left Or.inl

private theorem Heeded.unqueue (heeded : Heeded here bench) (task : String) :
    Heeded (here.map (Post.excuse task)) { bench with ready := bench.ready.erase task } := by
  have same (post : Post) : (post.excuse task).stake = post.stake := by
    simp only [Post.excuse]
    split <;> rfl
  refine ⟨?_, ?_, ?_⟩
  · rw [List.filterMap_map]
    simpa only [Function.comp_def, same] using heeded.apart
  · intro post member seat has
    obtain ⟨old, among, rfl⟩ := List.mem_map.mp member
    exact heeded.given old among seat (same old ▸ has)
  · intro post member other woken
    obtain ⟨old, among, rfl⟩ := List.mem_map.mp member
    simp only [Post.excuse] at woken
    split at woken
    · cases woken
    · next unexcused =>
        have different : other ≠ task := fun equal => unexcused (equal ▸ woken)
        rw [same]
        exact (heeded.heard old among other woken).imp_left (List.mem_erase_of_ne different).mpr

/-- What a session keeps: its objects serve their users, nobody sits in vain, and everybody is
heeded while tickets are few. -/
structure Minded (here : List Post) (bench : Bench) : Prop where
  served : Served (here.map Post.stake) bench
  tidy : bench.seating.tidy
  heeded : bench.seating.few → Heeded here bench

private theorem tidy_new : ({} : Bench).seating.tidy := by
  intro place
  cases place with
  | limit number => exact trivial
  | flight _ _ | manager _ _ => exact fun settled => absurd rfl settled
  | gate number => exact fun opens => by cases opens

theorem kept_minded : Kept Minded where
  new := ⟨kept_served.new, tidy_new, fun _ => heeded_new⟩
  perm := fun same minded => ⟨kept_served.kept.perm same minded.served, minded.tidy,
    fun few => (minded.heeded few).perm same⟩
  report := fun events minded => ⟨kept_served.kept.report events minded.served, minded.tidy,
    fun few => ⟨(minded.heeded few).apart, (minded.heeded few).given, (minded.heeded few).heard⟩⟩
  queue := by
    intro here bench task minded
    refine ⟨kept_served.kept.queue task minded.served, ?_, fun few => ?_⟩
    · rw [seating_enqueue]
      exact minded.tidy
    · rw [seating_enqueue] at few
      exact (minded.heeded few).queue task
  unqueue := fun task minded => ⟨kept_served.kept.unqueue task minded.served, minded.tidy,
    fun few => (minded.heeded few).unqueue task⟩
  act := by
    intro waker used bench gained next others act minded
    obtain ⟨called, stirs⟩ := act.stirs
    refine ⟨kept_served.kept.act act minded.served, stirs.change.tidy minded.tidy, fun few => ?_⟩
    have before := stirs.change.few few
    exact (minded.heeded before).act act minded.served before

end Bench

end Cohort
