import Cohort.Proofs.Session.Service

/-!
# Customers in any order

The customers are spawned, and then polled in whatever order. They stay customers at every
poll, it comes to an end, and by then nobody is left waiting: no creation waits for itself, so
that no token is out, so that no creation waits for a token, so that nobody waits for a creation.
-/

set_option autoImplicit false

namespace Cohort

/-! ## The start -/

namespace Books

open Customer

variable {capacity : Nat} {customers : List Customer} {bench : Bench}

private theorem arrive (books : Books capacity customers bench) (wish : Wish) :
    Books capacity (⟨wish, .fresh⟩ :: customers) bench := by
  obtain ⟨furnished, limit, manager, served, thrifty, resources⟩ := books
  refine ⟨furnished, limit, manager, ?_, ⟨?_, fun call => ?_⟩, resources⟩
  · exact List.forall_mem_cons.mpr ⟨trivial, served⟩
  · rw [ticketless_cons]
    exact Nat.succ_le_succ thrifty.limit
  · rw [ticketless_cons]
    exact Nat.succ_le_succ (thrifty.calls call)

end Books

namespace Session

/-- A limit and a manager are made, and tasks that ask for keys. -/
def opening (capacity yields : Nat) (wishes : List Wish) : List Instruction :=
  .act (.newLimit "tokens" capacity) :: .act (.newManager "shared") ::
    wishes.map fun wish => .spawn wish.task (wish.script yields)

variable {capacity yields : Nat} {customers : List Customer} {session : Session}

private theorem attends_nil (log : Bool) (positive : 0 < capacity) :
    (run log [.act (.newLimit "tokens" capacity), .act (.newManager "shared")]).Attends capacity
      yields [] := by
  have made : (Limit.ofCapacity? capacity : Option (Limit Waker)) =
      some { capacity, available := capacity } := if_neg (Nat.ne_of_gt positive)
  have there : run log [.act (.newLimit "tokens" capacity), .act (.newManager "shared")] =
      { log
        bench := {
          limits := .only "tokens" { capacity, available := capacity }
          managers := .only "shared" {} } } := by
    simp only [run, List.foldl_cons, List.foldl_nil, execute, respond, Bench.perform, made]
    rfl
  rw [there]
  refine ⟨List.nodup_nil, List.forall_mem_nil _, fun _ _ => rfl, ⟨⟨rfl, rfl, rfl⟩, ⟨rfl, rfl⟩, ?_,
    List.forall_mem_nil _, ⟨Nat.le_refl _, fun _ => ?_⟩, ⟨.nil, rfl⟩⟩, .nil, moderate_nil _⟩
  · exact ⟨Flight.led_new, ⟨_, rfl, .nil⟩, List.nodup_nil⟩
  · simp [Flight.call, Customer.ticketless]

private theorem Attends.spawn {wish : Wish} (attends : session.Attends capacity yields customers)
    (fresh : ∀ customer ∈ customers, customer.stand = .fresh)
    (new : wish.task ∉ customers.map fun customer => customer.wish.task) :
    (session.execute (.spawn wish.task (wish.script yields))).2.2.Attends capacity yields
      (⟨wish, .fresh⟩ :: customers) := by
  have others : ∀ customer ∈ customers, customer.wish.task ≠ wish.task :=
    fun customer member same => new (List.mem_map.mpr ⟨customer, member, same⟩)
  have absent := attends.nobody wish.task others
  have unknown : ¬ session.tasks.contains wish.task = true := by
    simp [Table.contains_eq_isSome, absent]
  have books := (attends.ledger.books.of_quiet (session.bench.quiet_enqueue wish.task)).arrive wish
  simp only [execute, respond, if_neg unknown]
  refine ⟨List.nodup_cons.mpr ⟨new, attends.apart⟩, List.forall_mem_cons.mpr ⟨?_, ?_⟩, ?_,
    books.of_same rfl rfl rfl rfl, ?_, ?_⟩
  · exact Table.find?_insert_self ..
  · intro customer member
    rw [Table.find?_insert_of_ne _ _ (others customer member)]
    exact attends.stands customer member
  · intro name nobody
    obtain ⟨different, nobody⟩ := List.forall_mem_cons.mp nobody
    rw [Table.find?_insert_of_ne _ _ (Ne.symm different)]
    exact attends.nobody name nobody
  · -- What was reported has been handed over, and nobody has reported anything.
    have silent : (⟨wish, .fresh⟩ :: customers).flatMap Customer.reports = [] := by
      refine List.flatMap_eq_nil_iff.mpr (List.forall_mem_cons.mpr ⟨rfl, fun customer member => ?_⟩)
      simp only [Customer.reports, fresh customer member]
    rw [silent]
    exact .nil
  · exact moderate_nil capacity

theorem attends_opening (log : Bool) (positive : 0 < capacity) (wishes : List Wish)
    (apart : (wishes.map Wish.task).Nodup) :
    (run log (opening capacity yields wishes)).Attends capacity yields
      (wishes.map fun wish => { wish }) := by
  induction wishes using List.reverseRecOn with
  | nil => exact attends_nil log positive
  | append_singleton wishes wish ih =>
      rw [List.map_append, List.nodup_append] at apart
      obtain ⟨apart, _, different⟩ := apart
      have one : opening capacity yields (wishes ++ [wish]) =
          opening capacity yields wishes ++ [.spawn wish.task (wish.script yields)] := by
        simp [opening]
      rw [one, run_append_singleton, List.map_append]
      refine ((ih apart).spawn ?_ ?_).perm (List.perm_append_singleton _ _).symm
      · intro customer member
        obtain ⟨_, _, rfl⟩ := List.mem_map.mp member
        rfl
      · intro member
        rw [List.map_map] at member
        exact different _ member _ (List.mem_singleton_self _) rfl

/-! ## Polls -/

/-- Tasks that are queued are polled in this order, each with a waker of this label. -/
inductive Polls : Session → List (String × String) → Session → Prop where
  | done (session : Session) : Polls session [] session
  | poll {session last : Session} {name label : String} {rest : List (String × String)} :
      name ∈ session.bench.ready → (session.pollTask name label).1.isSome = true →
      Polls (session.pollTask name label).2 rest last → Polls session ((name, label) :: rest) last

variable {last : Session} {order : List (String × String)}

theorem Polls.attends (polls : session.Polls order last)
    (attends : session.Attends capacity yields customers) :
    ∃ changed : List Customer, (changed.map Customer.wish).Perm (customers.map Customer.wish) ∧
      last.Attends capacity yields changed := by
  induction polls generalizing customers with
  | done _ => exact ⟨customers, .refl _, attends⟩
  | poll _ polls _ ih =>
      obtain ⟨polled, polls⟩ := Option.isSome_iff_exists.mp polls
      obtain ⟨changed, same, attends⟩ := attends.pollTask (Prod.ext polls rfl)
      obtain ⟨final, same', attends⟩ := ih attends
      exact ⟨final, same'.trans same, attends⟩

theorem Polls.meets {Holds : List Post → Bench → Prop} (kept : Bench.Kept Holds)
    (polls : session.Polls order last) (meets : session.Meets Holds) : last.Meets Holds := by
  induction polls with
  | done _ => exact meets
  | poll _ _ _ ih => exact ih (meets.pollTask kept _ _)

/-- However tasks are polled, it comes to an end. -/
theorem Polls.length_le {names : List String} (polls : session.Polls order last)
    (known : session.Known names) : order.length ≤ session.measure names := by
  induction polls with
  | done _ => exact Nat.zero_le _
  | poll ready polls _ ih =>
      obtain ⟨polled, polls⟩ := Option.isSome_iff_exists.mp polls
      obtain ⟨known, less⟩ := known.measure_pollTask ready (Prod.ext polls rfl)
      exact Nat.lt_of_le_of_lt (ih known) less

end Session

/-! ## Nobody is left waiting -/

private theorem Books.fewTickets {capacity : Nat} {customers : List Customer} {bench : Bench}
    (books : Books capacity customers bench) (few : customers.length < 2 ^ 64) :
    bench.FewTickets where
  limits := by
    intro limit member
    have only : bench.limits.items = #[bench.limits.get 0] :=
      congrArg Shelf.items books.furnished.limits
    rw [only, List.mem_toArray, List.mem_singleton] at member
    rw [member]
    exact Nat.lt_of_le_of_lt (Nat.le_of_add_right_le books.thrifty.limit) few
  flights := by
    intro flight member
    rw [books.furnished.flights] at member
    exact absurd member (Array.not_mem_empty _)
  managers := by
    intro manager member call among
    have only : bench.managers.items = #[bench.managers.get 0] :=
      congrArg Shelf.items books.furnished.managers
    rw [only, List.mem_toArray, List.mem_singleton] at member
    rw [member] at among
    obtain ⟨number, inside, rfl⟩ := Array.mem_iff_getElem.mp among
    have called : (bench.managers.get 0).flight.call number =
        (bench.managers.get 0).flight.calls[number] := by
      simp [Flight.call, inside]
    rw [← called]
    exact Nat.lt_of_le_of_lt (Nat.le_of_add_right_le (books.thrifty.calls number)) few

private theorem Customer.isSome_lead?_of_stands {yields : Nat} {customer : Customer} {task : Task}
    {leader : Home} {key : String} {call : Nat} (stands : customer.Stands yields (some task))
    (leads : .lead leader key call ∈ task.stakes) : customer.stand.lead?.isSome = true := by
  obtain ⟨wish, stand⟩ := customer
  cases stand with
  | starts _ | queues _ _ | makes _ | made _ => rfl
  | fresh =>
      cases stands
      cases List.mem_singleton.mp leads
  | ended _ _ => cases stands
  | asks | got _ _ =>
      obtain ⟨_, _, waits⟩ := stands
      exact waits.elim
  | follows _ _ =>
      obtain ⟨_, same, rfl⟩ := stands
      cases same
      cases List.mem_singleton.mp leads

namespace Session

variable {capacity yields : Nat} {customers : List Customer} {session : Session}
  {wish : Wish} {call : Nat} {ticket : UInt64}

section Idle

variable (attends : session.Attends capacity yields customers)
  (meets : session.Meets Bench.Minded) (few : customers.length < 2 ^ 64) (idle : session.Idle)

include attends meets few idle

private theorem blocked_of_found {name : String} {task : Task}
    (found : session.tasks.find? name = some task) {stake : Stake} (member : stake ∈ task.stakes) :
    session.Blocked stake :=
  blocked_of_mem meets (attends.ledger.books.fewTickets few) idle (mem_stakes found member)

/-- A creation that has its token does not wait for anybody. -/
private theorem not_makes : ⟨wish, .makes call⟩ ∉ customers := by
  intro member
  obtain ⟨wait, found, frame, rfl, more, same⟩ := attends.stands _ member
  cases same
  exact blocked_of_found attends meets few idle found
    (@List.mem_append_left _ .turn _ _ (List.mem_append_left _ (List.mem_append_left _
      (List.mem_singleton_self _))))

/-- Nobody holds a token, so that nobody has to wait for one. -/
private theorem not_queues (positive : 0 < capacity) : ⟨wish, .queues call ticket⟩ ∉ customers := by
  intro member
  obtain ⟨wait, found, frame, rfl, same⟩ := attends.stands _ member
  cases same
  obtain ⟨limit, there, spent⟩ : session.Blocked (.borrow 0 ticket true) :=
    blocked_of_found attends meets few idle found (List.mem_append_left _ (List.mem_append_left _
      (List.mem_append_left _ (List.mem_singleton_self _))))
  have only : session.bench.limits.items = #[session.bench.limits.get 0] :=
    congrArg Shelf.items attends.ledger.books.furnished.limits
  rw [only] at there
  cases there
  replace spent : (session.bench.limits.get 0).available = 0 := spent
  have nobody : Customer.holders customers = 0 := by
    refine List.countP_eq_zero.mpr fun ⟨wish, stand⟩ among => ?_
    cases stand with
    | makes call => exact absurd among (not_makes attends meets few idle)
    | fresh | asks | follows _ _ | starts _ | queues _ _ | made _ | got _ _ | ended _ _ =>
        exact Bool.false_ne_true
  have tokens := attends.ledger.books.limit.tokens
  rw [nobody, spent] at tokens
  exact Nat.lt_irrefl _ (tokens ▸ positive)

/-- Nobody creates anything any more. -/
private theorem lead?_eq_none (positive : 0 < capacity) {customer : Customer}
    (member : customer ∈ customers) : customer.stand.lead? = none := by
  obtain ⟨wish, stand⟩ := customer
  have stands := attends.stands _ member
  cases stand with
  | fresh | asks | follows _ _ | got _ _ | ended _ _ => rfl
  | starts _ | made _ =>
      obtain ⟨_, _, waits⟩ := stands
      exact waits.elim
  | queues call ticket => exact absurd member (not_queues attends meets few idle positive)
  | makes call => exact absurd member (not_makes attends meets few idle)

/-- Nobody runs the work of a call, so that nobody has to wait for its end. -/
private theorem not_follows (positive : 0 < capacity) :
    ⟨wish, .follows call ticket⟩ ∉ customers := by
  intro member
  obtain ⟨wait, found, same⟩ := attends.stands _ member
  cases same
  obtain ⟨_, name, task, leader, key, found, leads, _⟩ :
      session.Blocked (.follow (.manager 0) wish.key call ticket) :=
    blocked_of_found attends meets few idle found
      (List.mem_append_left _ (List.mem_singleton_self _))
  have known : ∃ customer ∈ customers, customer.wish.task = name := by
    by_contra unknown
    rw [attends.nobody name (by simpa using unknown)] at found
    cases found
  obtain ⟨other, among, rfl⟩ := known
  have stands := attends.stands other among
  rw [found] at stands
  have leading := Customer.isSome_lead?_of_stands stands leads
  rw [lead?_eq_none attends meets few idle positive among] at leading
  cases leading

theorem all_ended (positive : 0 < capacity) {customer : Customer} (member : customer ∈ customers) :
    ∃ resource created, customer.stand = .ended resource created := by
  obtain ⟨wish, stand⟩ := customer
  have stands := attends.stands _ member
  cases stand with
  | ended resource created => exact ⟨_, _, rfl⟩
  | fresh =>
      have turn : session.Blocked .turn :=
        blocked_of_found attends meets few idle stands (List.mem_singleton_self _)
      exact turn.elim
  | asks | starts _ | made _ | got _ _ =>
      obtain ⟨_, _, waits⟩ := stands
      exact waits.elim
  | follows call ticket => exact absurd member (not_follows attends meets few idle positive)
  | queues call ticket => exact absurd member (not_queues attends meets few idle positive)
  | makes call => exact absurd member (not_makes attends meets few idle)

end Idle

end Session

end Cohort
