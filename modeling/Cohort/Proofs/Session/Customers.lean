import Cohort.Proofs.Session.Quiescence

/-!
# Customers of a manager under a limit

Tasks ask one manager for a key each. Whoever finds its key missing creates what belongs
there, and takes a token of a limit for as long as it works. The ledger says how far every
customer has come and what this means for the limit, for the manager and for the reports.
-/

set_option autoImplicit false

namespace Cohort

structure Wish where
  task : String
  key : String
deriving DecidableEq

namespace Wish

def closing : List Step :=
  [.dropGuard "token", .finish (.ok .null)]

/-- A creation takes a token on a guard, waits `yields` times, releases the guard and
succeeds. -/
def creation (yields : Nat) : List Step :=
  .borrow "tokens" (some "token") :: .pause yields :: closing

def script (yields : Nat) (wish : Wish) : List Step :=
  [.call (.manager "shared") wish.key (creation yields)]

def work (wish : Wish) : String :=
  (Home.manager 0).workLabel wish.task

end Wish

/-- How far a customer has come. -/
inductive Stand where
  | fresh
  | asks
  | follows (call : Nat) (ticket : UInt64)
  /-- Its creation has started, and has not asked for a token yet. -/
  | starts (call : Nat)
  | queues (call : Nat) (ticket : UInt64)
  | makes (call : Nat)
  /-- Its creation has released its token and succeeded. -/
  | made (call : Nat)
  | got (resource : Nat) (created : Bool)
  | ended (resource : Nat) (created : Bool)

namespace Stand

def lead? : Stand → Option Nat
  | .starts call | .queues call _ | .makes call | .made call => some call
  | .fresh | .asks | .follows _ _ | .got _ _ | .ended _ _ => none

def made? : Stand → Option Nat
  | .got resource true | .ended resource true => some resource
  | _ => none

def holds : Stand → Bool
  | .makes _ => true
  | _ => false

/-- It may still come to draw a ticket, and has drawn none. -/
def ticketless : Stand → Bool
  | .fresh | .asks | .starts _ => true
  | _ => false

end Stand

/-- Its creation asks for a token with the ticket that it has, if any. -/
inductive Stand.Borrows (call : Nat) : Stand → Option UInt64 → Prop where
  | first : Borrows call (.starts call) none
  | again (ticket : UInt64) : Borrows call (.queues call ticket) (some ticket)

structure Customer where
  wish : Wish
  stand : Stand := .fresh

namespace Customer

def lead? (customer : Customer) : Option (String × Nat) :=
  customer.stand.lead?.map fun call => (customer.wish.key, call)

def made? (customer : Customer) : Option (String × Nat) :=
  customer.stand.made?.map fun resource => (customer.wish.key, resource)

/-- What was reported of a creation that has taken its token, the latest first. -/
def makingReports (wish : Wish) : List Event :=
  [.borrowed wish.work true, .started wish.work, .started wish.task]

def madeReports (wish : Wish) : List Event :=
  .ended wish.work (.ok .null) :: .droppedGuard wish.work true :: makingReports wish

def gotReports (wish : Wish) (resource : Nat) (created : Bool) : List Event :=
  .called wish.task (.resource (.ok resource)) none ::
    if created then madeReports wish else [.started wish.task]

/-- What was reported of a customer and its creation, the latest first. -/
def reports (customer : Customer) : List Event :=
  match customer.stand with
  | .fresh => []
  | .asks | .follows _ _ => [.started customer.wish.task]
  | .starts _ | .queues _ _ => [.started customer.wish.work, .started customer.wish.task]
  | .makes _ => makingReports customer.wish
  | .made _ => madeReports customer.wish
  | .got resource created => gotReports customer.wish resource created
  | .ended resource created =>
      .ended customer.wish.task (.ok .null) :: gotReports customer.wish resource created

def leads (customers : List Customer) : List (String × Nat) :=
  customers.filterMap lead?

def stock (customers : List Customer) : List (String × Nat) :=
  customers.filterMap made?

end Customer

/-! ## Reports -/

/-- Wake-ups and notices are no reports of scripts. -/
def Event.isReport : Event → Bool
  | .woken _ | .noticed _ | .polled _ _ => false
  | _ => true

def Event.takes : Event → Bool
  | .borrowed _ true => true
  | _ => false

def Event.releases : Event → Bool
  | .droppedGuard _ true => true
  | _ => false

/-- At no time more than `capacity` guards were taken and not released. -/
def Moderate (capacity : Nat) (reports : List Event) : Prop :=
  ∀ past, past <:+ reports →
    past.countP Event.takes ≤ past.countP Event.releases + capacity

theorem moderate_nil (capacity : Nat) : Moderate capacity [] := by
  intro past suffix
  rw [List.suffix_nil.mp suffix]
  exact Nat.zero_le _

namespace Moderate

variable {capacity : Nat} {reports : List Event} {event : Event}

private theorem cons (moderate : Moderate capacity reports)
    (bound : (event :: reports).countP Event.takes ≤
      (event :: reports).countP Event.releases + capacity) :
    Moderate capacity (event :: reports) := by
  intro past suffix
  rcases List.suffix_cons_iff.mp suffix with rfl | before
  · exact bound
  · exact moderate past before

theorem cons_of_not_takes (moderate : Moderate capacity reports) (idle : event.takes = false) :
    Moderate capacity (event :: reports) := by
  refine moderate.cons ?_
  have before := moderate reports (List.suffix_refl _)
  rw [List.countP_cons_of_neg (by simp [idle]), List.countP_cons]
  exact Nat.le_trans before (Nat.add_le_add_right (Nat.le_add_right _ _) _)

end Moderate

namespace Bench

def reports (bench : Bench) : List Event :=
  bench.events.filter Event.isReport

/-- The bench without its queue, and without what scripts have not reported. -/
def quiet (bench : Bench) : Bench :=
  { bench with ready := [], events := bench.reports }

variable {bench next : Bench}

private theorem quiet_report (bench : Bench) {event : Event} (silent : event.isReport = false) :
    (bench.emit event).quiet = bench.quiet := by
  simp [quiet, reports, emit, silent]

@[simp]
theorem quiet_note (bench : Bench) (notice : Notice) : (bench.note notice).quiet = bench.quiet :=
  bench.quiet_report rfl

@[simp]
theorem quiet_enqueue (bench : Bench) (task : String) :
    (bench.enqueue task).quiet = bench.quiet := by
  unfold enqueue
  split <;> rfl

@[simp]
theorem quiet_wake (bench : Bench) (waker : Waker) : (bench.wake waker).quiet = bench.quiet := by
  rw [wake, quiet_enqueue]
  exact bench.quiet_report rfl

@[simp]
theorem quiet_wakeAll (bench : Bench) (wakers : List Waker) :
    (bench.wakeAll wakers).quiet = bench.quiet := by
  induction wakers generalizing bench with
  | nil => rfl
  | cons waker rest ih => exact (ih (bench.wake waker)).trans (bench.quiet_wake waker)

theorem reports_emit (bench : Bench) {event : Event} (report : event.isReport = true) :
    (bench.emit event).reports = event :: bench.reports := by
  simp [reports, emit, report]

end Bench

/-! ## A shelf with one object -/

namespace Shelf

variable {α : Type} {name : String} {item : α}

def only (name : String) (item : α) : Shelf α where
  items := #[item]
  names := ⟨[(name, 0)]⟩

@[simp]
theorem get_only [Inhabited α] : (only name item).get 0 = item := rfl

@[simp]
theorem set_only (other : α) : (only name item).set 0 other = only name other := rfl

theorem named_only [Inhabited α] : (only name item).named = [(name, item)] := rfl

@[simp]
theorem number?_only : (only name item).number? name = some 0 := by
  simp [only, number?, Table.find?]

end Shelf

/-! ## The ledger -/

/-- The limit has `capacity` tokens, and those that are not in it are held by creations. -/
structure Limit.Stocked {ω : Type} (limit : Limit ω) (total holders : Nat) : Prop where
  capacity : limit.capacity = total
  tokens : limit.available + holders = total

/-- Whoever leads creates what the table lacks, and the table holds what was created. -/
structure Manager.Stocked {ω : Type} (manager : Manager String ω Nat String)
    (leads stock : List (String × Nat)) : Prop where
  led : manager.flight.Led leads
  held : ∃ table, manager.table = some table ∧ table.entries.Perm stock
  once : ((leads ++ stock).map Prod.fst).Nodup

/-- A customer that follows a call follows that of its key, and gets what was created for its
key. -/
def Customer.Served {ω : Type} (flight : Flight String ω (Except (ManagerError String) Nat))
    (leads stock : List (String × Nat)) (customer : Customer) : Prop :=
  match customer.stand with
  | .follows call _ =>
      (customer.wish.key, call) ∈ leads ∨
        ∃ resource, (flight.call call).verdict = some (.done (.ok resource)) ∧
          (customer.wish.key, resource) ∈ stock
  | .got resource _ | .ended resource _ => (customer.wish.key, resource) ∈ stock
  | .fresh | .asks | .starts _ | .queues _ _ | .makes _ | .made _ => True

/-- Resources are numbered from one, and none was closed. -/
structure Numbered (resources : Array Resource) (stock : List (String × Nat)) : Prop where
  numbers : (stock.map Prod.snd).Perm (List.range' 1 resources.size)
  unclosed : resources = Array.replicate resources.size { behavior := .succeeds }

theorem Numbered.push {resources : Array Resource} {stock : List (String × Nat)}
    (numbered : Numbered resources stock) (key : String) :
    Numbered (resources.push { behavior := .succeeds })
      ((key, resources.size + 1) :: stock) where
  numbers := by
    rw [Array.size_push, List.range'_concat, List.map_cons, Nat.one_mul, Nat.add_comm]
    exact (numbered.numbers.cons _).trans (List.perm_append_singleton _ _).symm
  unclosed := by
    rw [Array.size_push, Array.replicate_succ, ← numbered.unclosed]

/-- The reports are those of the customers, and tell of no more than `capacity` tokens that
were out at a time. -/
structure Reported (capacity : Nat) (customers : List Customer) (reports : List Event) : Prop where
  perm : reports.Perm (customers.flatMap Customer.reports)
  moderate : Moderate capacity reports

namespace Bench

structure Furnished (bench : Bench) : Prop where
  limits : bench.limits = .only "tokens" (bench.limits.get 0)
  managers : bench.managers = .only "shared" (bench.managers.get 0)
  flights : bench.flights = {}

/-- Nobody has drawn two tickets. -/
structure Thrifty (bench : Bench) (ticketless customers : Nat) : Prop where
  limit : (bench.limits.get 0).line.drawn + ticketless ≤ customers
  calls : ∀ call, ((bench.managers.get 0).flight.call call).line.drawn + ticketless ≤ customers

end Bench

namespace Customer

def holders (customers : List Customer) : Nat :=
  customers.countP (fun customer => customer.stand.holds)

def ticketless (customers : List Customer) : Nat :=
  customers.countP (fun customer => customer.stand.ticketless)

theorem holders_cons (customer : Customer) (others : List Customer) :
    holders (customer :: others) = holders others + if customer.stand.holds then 1 else 0 :=
  List.countP_cons

theorem ticketless_cons (customer : Customer) (others : List Customer) :
    ticketless (customer :: others) =
      ticketless others + if customer.stand.ticketless then 1 else 0 :=
  List.countP_cons

end Customer

open Customer in
/-- How far all customers have come, and what this means for the objects on the bench. -/
structure Books (capacity : Nat) (customers : List Customer) (bench : Bench) : Prop where
  furnished : bench.Furnished
  limit : (bench.limits.get 0).Stocked capacity (holders customers)
  manager : (bench.managers.get 0).Stocked (leads customers) (stock customers)
  served : ∀ customer ∈ customers,
    customer.Served (bench.managers.get 0).flight (leads customers) (stock customers)
  thrifty : bench.Thrifty (ticketless customers) customers.length
  resources : Numbered bench.resources (stock customers)

structure Ledger (capacity : Nat) (customers : List Customer) (bench : Bench) : Prop where
  books : Books capacity customers bench
  reported : Reported capacity customers bench.reports

namespace Reported

variable {capacity : Nat} {customer changed : Customer} {others customers : List Customer}
  {reports : List Event} {event : Event}

theorem same (reported : Reported capacity (customer :: others) reports)
    (own : changed.reports = customer.reports) :
    Reported capacity (changed :: others) reports := by
  refine ⟨?_, reported.moderate⟩
  rw [List.flatMap_cons, own]
  exact reported.perm

private theorem perm_cons (reported : Reported capacity (customer :: others) reports)
    (own : changed.reports = event :: customer.reports) :
    (event :: reports).Perm ((changed :: others).flatMap Customer.reports) := by
  rw [List.flatMap_cons, own]
  exact reported.perm.cons event

theorem cons (reported : Reported capacity (customer :: others) reports)
    (own : changed.reports = event :: customer.reports) (idle : event.takes = false) :
    Reported capacity (changed :: others) (event :: reports) :=
  ⟨reported.perm_cons own, reported.moderate.cons_of_not_takes idle⟩

/-- The guards that were taken and not released are those of the holders. -/
private theorem countP_takes (customer : Customer) :
    customer.reports.countP Event.takes =
      customer.reports.countP Event.releases + (if customer.stand.holds then 1 else 0) := by
  obtain ⟨wish, stand⟩ := customer
  cases stand with
  | got resource created | ended resource created => cases created <;> rfl
  | fresh | asks | follows _ _ | starts _ | queues _ _ | makes _ | made _ => rfl

private theorem countP_takes_flatMap (customers : List Customer) :
    (customers.flatMap Customer.reports).countP Event.takes =
      (customers.flatMap Customer.reports).countP Event.releases + Customer.holders customers := by
  induction customers with
  | nil => rfl
  | cons customer rest ih =>
      rw [List.flatMap_cons, List.countP_append, List.countP_append, ih, countP_takes,
        Customer.holders_cons]
      omega

theorem take (reported : Reported capacity (customer :: others) reports)
    (own : changed.reports = event :: customer.reports)
    (enough : Customer.holders (changed :: others) ≤ capacity) :
    Reported capacity (changed :: others) (event :: reports) := by
  have perm := reported.perm_cons own
  refine ⟨perm, reported.moderate.cons ?_⟩
  rw [perm.countP_eq, perm.countP_eq, countP_takes_flatMap]
  exact Nat.add_le_add_left enough _

end Reported

/-! ## Steps -/

namespace Customer

variable {ω : Type} {flight changed : Flight String ω (Except (ManagerError String) Nat)}
  {leads leads' stock stock' : List (String × Nat)} {customer : Customer}

/-- Whoever follows a call that is settled follows it still, and nothing that was created is
lost. -/
theorem Served.mono (served : customer.Served flight leads stock)
    (led : ∀ key call, (key, call) ∈ leads → (key, call) ∈ leads' ∨
      ∃ resource, (changed.call call).verdict = some (.done (.ok resource)) ∧
        (key, resource) ∈ stock')
    (settled : ∀ call verdict, (flight.call call).verdict = some verdict →
      (changed.call call).verdict = some verdict)
    (kept : ∀ entry ∈ stock, entry ∈ stock') : customer.Served changed leads' stock' := by
  obtain ⟨wish, stand⟩ := customer
  cases stand with
  | follows call ticket =>
      rcases served with leads | ⟨resource, verdict, member⟩
      · exact led _ _ leads
      · exact Or.inr ⟨resource, settled _ _ verdict, kept _ member⟩
  | got resource _ | ended resource _ => exact kept _ served
  | fresh | asks | starts _ | queues _ _ | makes _ | made _ => exact trivial

end Customer

namespace Books

open Customer

variable {capacity : Nat} {wish : Wish} {stand stand' : Stand} {others customers : List Customer}
  {bench next : Bench}

theorem perm (books : Books capacity customers bench) {permuted : List Customer}
    (same : customers.Perm permuted) : Books capacity permuted bench := by
  have leads := same.filterMap Customer.lead?
  have stock := same.filterMap Customer.made?
  have holders : holders customers = holders permuted := same.countP_eq _
  have ticketless : ticketless customers = ticketless permuted := same.countP_eq _
  obtain ⟨led, ⟨table, opened, held⟩, once⟩ := books.manager
  refine ⟨books.furnished, ?_, ⟨led.perm leads, ⟨table, opened, held.trans stock⟩, ?_⟩, ?_, ?_, ?_⟩
  · exact holders ▸ books.limit
  · exact ((leads.append stock).map Prod.fst).nodup_iff.mp once
  · intro customer member
    refine (books.served customer (same.mem_iff.mpr member)).mono ?_ (fun _ _ => id) ?_
    · exact fun _ _ member => Or.inl (leads.mem_iff.mp member)
    · exact fun _ member => stock.mem_iff.mp member
  · rw [← same.length_eq]
    exact ticketless ▸ books.thrifty
  · exact ⟨(stock.symm.map Prod.snd).trans books.resources.numbers, books.resources.unclosed⟩

/-- The books do not care for what is queued, nor for what happened. -/
theorem of_same (books : Books capacity customers bench) (limits : next.limits = bench.limits)
    (managers : next.managers = bench.managers) (flights : next.flights = bench.flights)
    (resources : next.resources = bench.resources) : Books capacity customers next := by
  obtain ⟨furnished, limit, manager, served, thrifty, numbered⟩ := books
  refine ⟨⟨?_, ?_, ?_⟩, ?_, ?_, ?_, ⟨?_, ?_⟩, ?_⟩
  · exact limits ▸ furnished.limits
  · exact managers ▸ furnished.managers
  · exact flights ▸ furnished.flights
  · exact limits ▸ limit
  · exact managers ▸ manager
  · exact managers ▸ served
  · exact limits ▸ thrifty.limit
  · exact managers ▸ thrifty.calls
  · exact resources ▸ numbered

theorem of_quiet (books : Books capacity customers bench) (same : next.quiet = bench.quiet) :
    Books capacity customers next :=
  books.of_same (congrArg Bench.limits same :) (congrArg Bench.managers same :)
    (congrArg Bench.flights same :) (congrArg Bench.resources same :)

theorem emit (books : Books capacity customers bench) (event : Event) :
    Books capacity customers (bench.emit event) :=
  books.of_same rfl rfl rfl rfl

/-! ### What one customer changes -/

theorem stay (books : Books capacity (⟨wish, stand⟩ :: others) bench)
    (lead : stand'.lead? = stand.lead?) (made : stand'.made? = stand.made?)
    (holds : stand'.holds = stand.holds) (ticketless : stand'.ticketless = stand.ticketless)
    (served : Customer.Served (bench.managers.get 0).flight (leads (⟨wish, stand⟩ :: others))
      (stock (⟨wish, stand⟩ :: others)) ⟨wish, stand'⟩) :
    Books capacity (⟨wish, stand'⟩ :: others) bench := by
  have leads : leads (⟨wish, stand'⟩ :: others) = leads (⟨wish, stand⟩ :: others) := by
    simp only [Customer.leads, filterMap_cons_eq, Customer.lead?, lead]
  have stock : stock (⟨wish, stand'⟩ :: others) = stock (⟨wish, stand⟩ :: others) := by
    simp only [Customer.stock, filterMap_cons_eq, Customer.made?, made]
  have holders : holders (⟨wish, stand'⟩ :: others) = holders (⟨wish, stand⟩ :: others) := by
    simp only [holders_cons, holds]
  have without :
      Customer.ticketless (⟨wish, stand'⟩ :: others) =
        Customer.ticketless (⟨wish, stand⟩ :: others) := by
    simp only [ticketless_cons, ticketless]
  refine ⟨books.furnished, holders ▸ books.limit, ?_, ?_, ?_, stock ▸ books.resources⟩
  · rw [leads, stock]
    exact books.manager
  · rw [leads, stock]
    intro customer member
    rcases List.mem_cons.mp member with rfl | member
    · exact served
    · exact books.served customer (List.mem_cons_of_mem _ member)
  · rw [without]
    exact books.thrifty

end Books

end Cohort
