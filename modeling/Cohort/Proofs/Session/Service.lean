import Cohort.Proofs.Session.Ledger

/-!
# Customers as tasks

Polling a task that is a customer takes it from one stand to another, by the steps that the
ledger allows. This is what its script comes to, wherever its creation waits.
-/

set_option autoImplicit false

namespace Cohort

/-! ## Polls of a customer -/

namespace Customer

open Wish

variable {yields capacity : Nat} {wish : Wish} {stand : Stand} {others : List Customer}
  {bench : Bench} {call : Nat} {waker : Waker}

/-- The creation of a customer stands so once it was polled. -/
def Worked (yields : Nat) (customer : Customer) (poll : Poll) : Prop :=
  match customer.stand with
  | .queues _ ticket =>
      poll = .pending (.mk customer.wish.work [] (.borrow 0 ticket (some "token"))
        (.pause yields :: closing))
  | .makes _ =>
      ∃ more, poll = .pending (.mk customer.wish.work [⟨"token", 0⟩] (.pause more) closing)
  | .made _ => poll = .ready (.ok .null)
  | .fresh | .asks | .follows _ _ | .starts _ | .got _ _ | .ended _ _ => False

def Waits (yields : Nat) (customer : Customer) (wait : Wait) : Prop :=
  match customer.stand with
  | .follows call ticket =>
      wait = .follow (.manager 0) customer.wish.key call ticket (creation yields)
  | .queues call _ | .makes call =>
      ∃ frame, wait = .lead (.manager 0) customer.wish.key call frame ∧
        customer.Worked yields (.pending frame)
  | .fresh | .asks | .starts _ | .made _ | .got _ _ | .ended _ _ => False

def Staged (yields : Nat) (customer : Customer) (stage : Stage) : Prop :=
  match customer.stand with
  | .got _ _ => stage = .passed []
  | _ => ∃ wait, stage = .waiting wait ∧ customer.Waits yields wait

def Polled (yields : Nat) (customer : Customer) (poll : Poll) : Prop :=
  match customer.stand with
  | .ended _ _ => poll = .ready (.ok .null)
  | _ => ∃ wait, poll = .pending (.mk customer.wish.task [] wait []) ∧ customer.Waits yields wait

private theorem worked_closing (ledger : Ledger capacity (⟨wish, .makes call⟩ :: others) bench)
    (yields : Nat) (waker : Waker) :
    Ledger capacity (⟨wish, .made call⟩ :: others)
        (runSteps waker wish.work [⟨"token", 0⟩] closing bench).2 ∧
      Worked yields ⟨wish, .made call⟩
        (runSteps waker wish.work [⟨"token", 0⟩] closing bench).1 :=
  ⟨ledger.release, rfl⟩

private theorem worked_making (ledger : Ledger capacity (⟨wish, .makes call⟩ :: others) bench)
    (yields : Nat) (waker : Waker) :
    ∃ stand, stand.lead? = some call ∧
      Ledger capacity (⟨wish, stand⟩ :: others)
        (runSteps waker wish.work [⟨"token", 0⟩] (.pause yields :: closing) bench).2 ∧
      Worked yields ⟨wish, stand⟩
        (runSteps waker wish.work [⟨"token", 0⟩] (.pause yields :: closing) bench).1 := by
  cases yields with
  | zero => exact ⟨_, rfl, worked_closing ledger 0 waker⟩
  | succ more => exact ⟨_, rfl, ledger.of_quiet (bench.quiet_wake waker), more, rfl⟩

private theorem worked_start (ledger : Ledger capacity (⟨wish, .starts call⟩ :: others) bench)
    (yields : Nat) (waker : Waker) :
    ∃ stand, stand.lead? = some call ∧
      Ledger capacity (⟨wish, stand⟩ :: others)
        (runSteps waker wish.work [] (creation yields) bench).2 ∧
      Worked yields ⟨wish, stand⟩ (runSteps waker wish.work [] (creation yields) bench).1 := by
  have named : bench.limits.number? "tokens" = some 0 := by
    rw [ledger.books.furnished.limits, Shelf.number?_only]
  have borrowed := ledger.borrow .first waker
  rw [creation, runSteps, runStep]
  simp only [named]
  cases polled : bench.pollBorrow 0 none waker with
  | mk claim changed =>
      rw [polled] at borrowed
      rcases borrowed with ⟨ticket, rfl, ledger⟩ | ⟨rfl, ledger⟩
      · exact ⟨_, rfl, ledger, rfl⟩
      · exact worked_making ledger yields waker

private theorem worked_repoll {frame : Frame} (leads : stand.lead? = some call)
    (ledger : Ledger capacity (⟨wish, stand⟩ :: others) bench)
    (worked : Worked yields ⟨wish, stand⟩ (.pending frame)) (waker : Waker) :
    ∃ stand, stand.lead? = some call ∧
      Ledger capacity (⟨wish, stand⟩ :: others) (frame.poll waker bench).2 ∧
      Worked yields ⟨wish, stand⟩ (frame.poll waker bench).1 := by
  cases stand with
  | fresh | asks | follows _ _ | starts _ | got _ _ | ended _ _ => exact worked.elim
  | made _ => cases worked
  | queues own ticket =>
      cases worked
      cases leads
      have borrowed := ledger.borrow (.again ticket) waker
      simp only [Frame.poll, Wait.poll]
      cases polled : bench.pollBorrow 0 (some ticket) waker with
      | mk claim changed =>
          rw [polled] at borrowed
          rcases borrowed with ⟨ticket, rfl, ledger⟩ | ⟨rfl, ledger⟩
          · exact ⟨_, rfl, ledger, rfl⟩
          · exact worked_making ledger yields waker
  | makes own =>
      obtain ⟨more, same⟩ := worked
      cases same
      cases leads
      cases more with
      | zero => exact ⟨_, rfl, worked_closing ledger yields waker⟩
      | succ more => exact ⟨_, rfl, ledger.of_quiet (bench.quiet_wake waker), more, rfl⟩

/-- The creation was polled. If it has ended, the customer gets what it made. -/
private theorem staged_work {poll : Poll} (leads : stand.lead? = some call)
    (ledger : Ledger capacity (⟨wish, stand⟩ :: others) bench)
    (worked : Worked yields ⟨wish, stand⟩ poll) :
    ∃ stand, Ledger capacity (⟨wish, stand⟩ :: others)
        (Bench.afterWork wish.task [] (.manager 0) wish.key call (poll, bench)).2 ∧
      Staged yields ⟨wish, stand⟩
        (Bench.afterWork wish.task [] (.manager 0) wish.key call (poll, bench)).1 := by
  cases stand with
  | fresh | asks | follows _ _ | starts _ | got _ _ | ended _ _ => exact worked.elim
  | queues own ticket =>
      cases worked
      cases leads
      exact ⟨_, ledger, _, rfl, _, rfl, rfl⟩
  | makes own =>
      obtain ⟨more, rfl⟩ := worked
      cases leads
      exact ⟨_, ledger, _, rfl, _, rfl, more, rfl⟩
  | made own =>
      cases worked
      cases leads
      obtain ⟨resource, settles, ledger⟩ := ledger.finish
      simp only [Bench.afterWork]
      cases finished : bench.finish (.manager 0) wish.key call (.ok .null) with
      | mk settlement changed =>
          rw [finished] at settles ledger
          cases settles
          exact ⟨_, ledger, rfl⟩

private theorem staged_ask (ledger : Ledger capacity (⟨wish, .asks⟩ :: others) bench) (yields : Nat)
    (waker : Waker) :
    ∃ stand, Ledger capacity (⟨wish, stand⟩ :: others)
        (runStep waker wish.task [] (.call (.manager "shared") wish.key (creation yields))
          bench).2 ∧
      Staged yields ⟨wish, stand⟩
        (runStep waker wish.task [] (.call (.manager "shared") wish.key (creation yields))
          bench).1 := by
  have obtained : bench.homeOf (.manager "shared") = (.manager 0, bench) := by
    have named : bench.managers.number? "shared" = some 0 := by
      rw [ledger.books.furnished.managers, Shelf.number?_only]
    simp only [Bench.homeOf, Shelf.obtain, named]
  have asked := ledger.ask waker
  simp only [runStep, obtained, Bench.makeCall]
  cases entered : bench.enter (.manager 0) wish.key waker with
  | mk entrance changed =>
      rw [entered] at asked
      rcases asked with ⟨one, ticket, rfl, ledger⟩ | ⟨resource, rfl, ledger⟩ | ⟨one, rfl, ledger⟩
      · exact ⟨_, ledger, _, rfl, rfl⟩
      · exact ⟨_, ledger, rfl⟩
      · obtain ⟨stand, leads, ledger, worked⟩ := worked_start ledger yields waker
        exact staged_work leads ledger worked

private theorem staged_repoll {wait : Wait}
    (ledger : Ledger capacity (⟨wish, stand⟩ :: others) bench)
    (waits : Waits yields ⟨wish, stand⟩ wait) (waker : Waker) :
    ∃ stand, Ledger capacity (⟨wish, stand⟩ :: others) (wait.poll waker wish.task [] bench).2 ∧
      Staged yields ⟨wish, stand⟩ (wait.poll waker wish.task [] bench).1 := by
  cases stand with
  | fresh | asks | starts _ | made _ | got _ _ | ended _ _ => exact waits.elim
  | queues own ticket | makes own =>
      obtain ⟨frame, rfl, worked⟩ := waits
      obtain ⟨stand, leads, ledger, worked⟩ := worked_repoll rfl ledger worked waker
      exact staged_work leads ledger worked
  | follows own ticket =>
      cases waits
      have followed := ledger.follow waker
      simp only [Wait.poll]
      cases polled : bench.follow (.manager 0) own ticket waker with
      | mk following changed =>
          rw [polled] at followed
          rcases followed with ⟨rfl, ledger⟩ | ⟨resource, rfl, ledger⟩
          · exact ⟨_, ledger, _, rfl, rfl⟩
          · exact ⟨_, ledger, rfl⟩

/-- What there is of the customer as a task. -/
def Stands (yields : Nat) (customer : Customer) (task : Option Task) : Prop :=
  match customer.stand with
  | .fresh => task = some (.fresh (customer.wish.script yields))
  | .ended _ _ => task = none
  | _ => ∃ wait, task = some (.suspended (.mk customer.wish.task [] wait [])) ∧
      customer.Waits yields wait

private theorem polled_fresh (ledger : Ledger capacity (⟨wish, .fresh⟩ :: others) bench)
    (yields : Nat) (waker : Waker) :
    ∃ stand, Ledger capacity (⟨wish, stand⟩ :: others)
        (startScript waker wish.task (wish.script yields) bench).2 ∧
      Polled yields ⟨wish, stand⟩ (startScript waker wish.task (wish.script yields) bench).1 := by
  obtain ⟨stand, ledger, staged⟩ := staged_ask ledger.start yields waker
  rw [startScript, script, runSteps]
  cases stood : runStep waker wish.task [] (.call (.manager "shared") wish.key (creation yields))
      (bench.emit (.started wish.task)) with
  | mk stage changed =>
      rw [stood] at ledger staged
      cases stand with
      | got resource created =>
          cases staged
          exact ⟨_, ledger.ends, rfl⟩
      | ended _ _ =>
          obtain ⟨wait, _, waits⟩ := staged
          exact waits.elim
      | fresh | asks | follows _ _ | starts _ | queues _ _ | makes _ | made _ =>
          obtain ⟨wait, rfl, waits⟩ := staged
          exact ⟨_, ledger, wait, rfl, waits⟩

private theorem polled_suspended {wait : Wait}
    (ledger : Ledger capacity (⟨wish, stand⟩ :: others) bench)
    (waits : Waits yields ⟨wish, stand⟩ wait) (waker : Waker) :
    ∃ stand, Ledger capacity (⟨wish, stand⟩ :: others)
        ((Frame.mk wish.task [] wait []).poll waker bench).2 ∧
      Polled yields ⟨wish, stand⟩ ((Frame.mk wish.task [] wait []).poll waker bench).1 := by
  obtain ⟨stand, ledger, staged⟩ := staged_repoll ledger waits waker
  rw [Frame.poll]
  cases stood : wait.poll waker wish.task [] bench with
  | mk stage changed =>
      rw [stood] at ledger staged
      cases stand with
      | got resource created =>
          cases staged
          exact ⟨_, ledger.ends, rfl⟩
      | ended _ _ =>
          obtain ⟨wait, _, waits⟩ := staged
          exact waits.elim
      | fresh | asks | follows _ _ | starts _ | queues _ _ | makes _ | made _ =>
          obtain ⟨wait, rfl, waits⟩ := staged
          exact ⟨_, ledger, wait, rfl, waits⟩

private theorem polled_task {task : Task} (ledger : Ledger capacity (⟨wish, stand⟩ :: others) bench)
    (stands : Stands yields ⟨wish, stand⟩ (some task)) (waker : Waker) :
    ∃ stand, Ledger capacity (⟨wish, stand⟩ :: others) (task.poll waker wish.task bench).2 ∧
      Polled yields ⟨wish, stand⟩ (task.poll waker wish.task bench).1 := by
  cases stand with
  | fresh =>
      cases stands
      exact polled_fresh ledger yields waker
  | ended _ _ => cases stands
  | asks | follows _ _ | starts _ | queues _ _ | makes _ | made _ | got _ _ =>
      obtain ⟨wait, same, waits⟩ := stands
      cases same
      exact polled_suspended ledger waits waker

private theorem stands_rejoin {poll : Poll} {tasks : Table String Task}
    (absent : tasks.find? wish.task = none) (polled : Polled yields ⟨wish, stand⟩ poll) :
    Stands yields ⟨wish, stand⟩ ((poll.rejoin wish.task tasks).find? wish.task) := by
  cases stand with
  | ended _ _ =>
      cases polled
      exact absent
  | fresh =>
      obtain ⟨wait, _, waits⟩ := polled
      exact waits.elim
  | asks | follows _ _ | starts _ | queues _ _ | makes _ | made _ | got _ _ =>
      obtain ⟨wait, rfl, waits⟩ := polled
      exact ⟨wait, Table.find?_insert_self .., waits⟩

end Customer

namespace Session

variable {capacity yields : Nat} {customers others : List Customer} {session next : Session}
  {name label : String}

/-- The tasks of the session are the customers that have not ended. -/
structure Attends (capacity yields : Nat) (customers : List Customer) (session : Session) :
    Prop where
  apart : (customers.map fun customer => customer.wish.task).Nodup
  stands : ∀ customer ∈ customers,
    customer.Stands yields (session.tasks.find? customer.wish.task)
  nobody : ∀ name, (∀ customer ∈ customers, customer.wish.task ≠ name) →
    session.tasks.find? name = none
  ledger : Ledger capacity customers session.bench

theorem Attends.perm (attends : session.Attends capacity yields customers)
    (same : customers.Perm others) : session.Attends capacity yields others where
  apart := (same.map _).nodup_iff.mp attends.apart
  stands := fun customer member => attends.stands customer (same.mem_iff.mpr member)
  nobody := fun name absent =>
    attends.nobody name fun customer member => absent customer (same.mem_iff.mp member)
  ledger := attends.ledger.perm same

private theorem find?_rejoin_of_ne {tasks : Table String Task} {poll : Poll} {other : String}
    (different : other ≠ name) : (poll.rejoin name tasks).find? other = tasks.find? other := by
  cases poll with
  | pending frame => exact Table.find?_insert_of_ne _ _ different
  | ready _ | faulted _ => rfl

/-- Whoever is polled is a customer that gets on. -/
theorem Attends.pollTask (attends : session.Attends capacity yields customers) {polled : Polled}
    (polls : session.pollTask name label = (some polled, next)) :
    ∃ changed : List Customer, (changed.map Customer.wish).Perm (customers.map Customer.wish) ∧
      next.Attends capacity yields changed := by
  cases found : session.tasks.find? name with
  | none =>
      rw [pollTask_of_absent found] at polls
      cases polls
  | some task =>
      have known : ∃ customer ∈ customers, customer.wish.task = name := by
        by_contra unknown
        rw [attends.nobody name (by simpa using unknown)] at found
        cases found
      obtain ⟨⟨wish, stand⟩, member, rfl⟩ := known
      obtain ⟨before, after, rfl⟩ := List.append_of_mem member
      have first := attends.perm List.perm_middle
      have queued : Ledger capacity (⟨wish, stand⟩ :: (before ++ after))
          (session.benchFor wish.task) := first.ledger.of_quiet rfl
      have stands := first.stands _ List.mem_cons_self
      rw [found] at stands
      obtain ⟨stand', ledger, polled⟩ :=
        Customer.polled_task queued stands ⟨wish.task, label⟩
      rw [pollTask_of_find? found] at polls
      cases polls
      have absent := Table.find?_erase_self session.tasks wish.task
      refine ⟨⟨wish, stand'⟩ :: (before ++ after), ?_, first.apart, ?_, ?_, ledger⟩
      · simp only [List.map_append, List.map_cons]
        exact List.perm_middle.symm
      · intro customer member
        rcases List.mem_cons.mp member with rfl | member
        · exact Customer.stands_rejoin absent polled
        · have different : customer.wish.task ≠ wish.task := fun same =>
            (List.nodup_cons.mp first.apart).1 (List.mem_map.mpr ⟨customer, member, same⟩)
          have before := first.stands customer (List.mem_cons_of_mem _ member)
          rwa [find?_rejoin_of_ne different, Table.find?_erase_of_ne _ different]
      · intro other absent
        have different : other ≠ wish.task := fun same =>
          absent _ List.mem_cons_self same.symm
        rw [find?_rejoin_of_ne different, Table.find?_erase_of_ne _ different]
        refine first.nobody other (List.forall_mem_cons.mpr ⟨Ne.symm different, ?_⟩)
        exact fun customer member => absent customer (List.mem_cons_of_mem _ member)

end Session

end Cohort
