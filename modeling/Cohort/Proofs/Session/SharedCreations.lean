import Mathlib.Data.List.Dedup
import Cohort.Proofs.Session.Attendance

/-!
# Creations that share a manager and a limit

Tasks ask a manager for their keys, and each creation holds a token of a limit while it
works. In whatever order the tasks are polled, all of them end well: one creation is made
for each key, as many at a time as there are tokens, and the manager closes what was created.
-/

set_option autoImplicit false

namespace Cohort

/-! ## What it comes to -/

namespace Wish

/-- What was reported of a task that got the resource of its key. -/
def served (instances : String → Nat) (wish : Wish) : List Event :=
  [.ended wish.task (.ok .null), .called wish.task (.resource (.ok (instances wish.key))) none,
    .started wish.task]

def created (wish : Wish) : List Event :=
  [.ended wish.work (.ok .null), .droppedGuard wish.work true, .borrowed wish.work true,
    .started wish.work]

end Wish

/-- The manager can be closed, which closes these resources once each, and none fails. -/
def Bench.Closes (bench : Bench) (resources : List Nat) : Prop :=
  ∃ closed next, bench.perform (.close "shared") = (.ok (.closed ⟨closed, .ok []⟩), next) ∧
    closed.Perm resources ∧
    ∀ resource ∈ resources, next.resource? resource = some { behavior := .succeeds, closes := 1 }

/-- All tasks have ended well. The creators are those that made the resource of their key. -/
structure Fulfilled (capacity : Nat) (wishes creators : List Wish) (instances : String → Nat)
    (session : Session) : Prop where
  tasks : session.tasks.entries = []
  reports : session.bench.reports.Perm
    (wishes.flatMap (Wish.served instances) ++ creators.flatMap Wish.created)
  among : creators ⊆ wishes
  /-- There is one creator for each key. -/
  once : (creators.map Wish.key).Perm (wishes.map Wish.key).dedup
  /-- Two tasks got the same resource exactly if they asked for the same key. -/
  same : ∀ wish ∈ wishes, ∀ other ∈ wishes,
    instances wish.key = instances other.key ↔ wish.key = other.key
  limit : ∃ limit, session.bench.limits.named = [("tokens", limit)] ∧
    limit.capacity = capacity ∧ limit.available = capacity
  manager : ∃ manager, session.bench.managers.named = [("shared", manager)] ∧
    manager.isClosed = false ∧ manager.keys.Perm (wishes.map Wish.key).dedup ∧
    (∀ wish ∈ wishes, manager.lookup wish.key = .ok (some (instances wish.key))) ∧
    manager.flight.inFlight = 0
  closes : session.bench.Closes (creators.map fun wish => instances wish.key)

namespace Bench

variable {bench : Bench}

private theorem resource?_closeResource {number : Nat}
    (there : bench.resource? number = some { behavior := .succeeds }) :
    (closeResource number bench).1 = .closed ∧
      ∀ other, (closeResource number bench).2.resource? other =
        if other = number then some { behavior := .succeeds, closes := 1 }
        else bench.resource? other := by
  cases number with
  | zero => cases there
  | succ position =>
      simp only [closeResource, there]
      refine ⟨trivial, fun other => ?_⟩
      cases other with
      | zero => rfl
      | succ other =>
          have inside : position < bench.resources.size := (Array.getElem?_eq_some_iff.mp there).1
          simp only [resource?, Nat.add_sub_cancel, Array.getElem?_setIfInBounds,
            Nat.add_right_cancel_iff, @eq_comm _ other, if_pos inside]

private theorem resource?_teardown {numbers : List Nat} (apart : numbers.Nodup)
    (there : ∀ number ∈ numbers, bench.resource? number = some { behavior := .succeeds }) :
    (Teardown.run closeResource numbers bench).1 = ⟨numbers, .ok []⟩ ∧
      ∀ other, (Teardown.run closeResource numbers bench).2.resource? other =
        if other ∈ numbers then some { behavior := .succeeds, closes := 1 }
        else bench.resource? other := by
  induction numbers generalizing bench with
  | nil => exact ⟨rfl, fun _ => rfl⟩
  | cons number rest ih =>
      obtain ⟨absent, apart⟩ := List.nodup_cons.mp apart
      obtain ⟨first, there⟩ := List.forall_mem_cons.mp there
      have one := resource?_closeResource first
      cases closed : closeResource number bench with
      | mk closing next =>
          rw [closed] at one
          obtain ⟨rfl, after⟩ := one
          obtain ⟨visited, closes⟩ := @ih next apart fun other member => by
            have different : other ≠ number := fun same => absent (same ▸ member)
            rw [after, if_neg different]
            exact there other member
          simp only [Teardown.run, closed]
          refine ⟨by rw [visited], fun other => ?_⟩
          rw [closes, after]
          by_cases same : other = number <;> simp [same]

private theorem Furnished.closes (furnished : bench.Furnished) {table : Table String Nat}
    {resources : List Nat} (opened : (bench.managers.get 0).table = some table)
    (held : table.values.Perm resources) (apart : resources.Nodup)
    (there : ∀ number ∈ resources, bench.resource? number = some { behavior := .succeeds }) :
    bench.Closes resources := by
  have named : bench.managers.number? "shared" = some 0 := by
    rw [furnished.managers, Shelf.number?_only]
  let shut := bench.setManager 0 { bench.managers.get 0 with table := none }
  obtain ⟨visited, closed⟩ := @resource?_teardown shut table.values (held.nodup_iff.mpr apart)
    fun number member => there number (held.mem_iff.mp member)
  cases torn : Teardown.run closeResource table.values shut with
  | mk teardown next =>
      rw [torn] at visited closed
      cases visited
      refine ⟨table.values.mergeSort (fun one other => decide (one ≤ other)),
        next.note (.managerClosed table.values.length 0), ?_,
        (List.mergeSort_perm _ _).trans held, fun number member => ?_⟩
      · simp only [perform, Shelf.obtain, named, closeManager, Manager.shut, opened,
          Option.map_some]
        rw [show Teardown.run closeResource table.values _ = _ from torn]
        simp only [List.mergeSort_nil, List.length_nil]
      · exact (closed number).trans (if_pos (held.mem_iff.mpr member))

end Bench

private theorem Numbered.resource?_eq {bench : Bench} {stock : List (String × Nat)}
    (numbered : Numbered bench.resources stock) {number : Nat}
    (member : number ∈ stock.map Prod.snd) :
    bench.resource? number = some { behavior := .succeeds } := by
  obtain ⟨positive, inside⟩ := List.mem_range'_1.mp (numbered.numbers.mem_iff.mp member)
  obtain ⟨position, rfl⟩ := Nat.exists_eq_add_of_le' positive
  rw [Bench.resource?, numbered.unclosed, Array.getElem?_replicate, if_pos (by omega)]

namespace Customer

variable {instances : String → Nat} {customer : Customer} {customers : List Customer}

inductive Content (instances : String → Nat) : Customer → Prop where
  | ended (wish : Wish) (created : Bool) :
      Content instances ⟨wish, .ended (instances wish.key) created⟩

def creator? (customer : Customer) : Option Wish :=
  customer.stand.made?.map fun _ => customer.wish

def creators (customers : List Customer) : List Wish :=
  customers.filterMap creator?

private theorem creators_subset : creators customers ⊆ customers.map wish := by
  intro wish member
  obtain ⟨customer, among, creates⟩ := List.mem_filterMap.mp member
  obtain ⟨_, _, rfl⟩ := Option.map_eq_some_iff.mp creates
  exact List.mem_map_of_mem among

private theorem Content.made?_eq (content : customer.Content instances) :
    customer.made? = customer.creator?.map fun wish => (wish.key, instances wish.key) := by
  obtain ⟨wish, created⟩ := content
  cases created <;> rfl

private theorem stock_eq (content : ∀ customer ∈ customers, customer.Content instances) :
    stock customers = (creators customers).map fun wish => (wish.key, instances wish.key) := by
  rw [creators, List.map_filterMap]
  exact List.filterMap_congr fun customer member => (content customer member).made?_eq

private theorem leads_eq_nil (content : ∀ customer ∈ customers, customer.Content instances) :
    leads customers = [] := by
  refine List.filterMap_eq_nil_iff.mpr fun customer member => ?_
  obtain ⟨wish, created⟩ := content customer member
  rfl

private theorem holders_eq_zero (content : ∀ customer ∈ customers, customer.Content instances) :
    holders customers = 0 := by
  refine List.countP_eq_zero.mpr fun customer member => ?_
  obtain ⟨wish, created⟩ := content customer member
  exact Bool.false_ne_true

private theorem reports_perm (content : ∀ customer ∈ customers, customer.Content instances) :
    (customers.flatMap reports).Perm
      ((customers.map wish).flatMap (Wish.served instances) ++
        (creators customers).flatMap Wish.created) := by
  induction customers with
  | nil => exact .nil
  | cons customer rest ih =>
      obtain ⟨first, content⟩ := List.forall_mem_cons.mp content
      have ih := ih content
      obtain ⟨wish, created⟩ := first
      cases created with
      | false => exact ih.append_left (wish.served instances)
      | true =>
          have own : (reports ⟨wish, .ended (instances wish.key) true⟩).Perm
              (wish.served instances ++ wish.created) := by
            refine (List.Perm.cons _ (List.Perm.cons _ ?_))
            exact List.perm_append_singleton (.started wish.task) wish.created
          have sorted := own.append ih
          rw [List.append_assoc] at sorted
          refine (sorted.trans ((List.perm_append_comm_assoc ..).append_left _)).trans ?_
          simp only [List.map_cons, List.flatMap_cons, List.append_assoc]
          exact .refl _

end Customer

namespace Books

open Customer

variable {capacity : Nat} {customers : List Customer} {bench : Bench} {instances : String → Nat}

/-- Whoever has ended has got what the manager holds under its key. -/
private theorem content (books : Books capacity customers bench)
    (ended : ∀ customer ∈ customers, ∃ resource created, customer.stand = .ended resource created) :
    ∃ instances, ∀ customer ∈ customers, customer.Content instances := by
  obtain ⟨table, opened, _⟩ := books.manager.held
  refine ⟨fun key => (table.find? key).getD 0, fun ⟨wish, stand⟩ member => ?_⟩
  obtain ⟨resource, created, rfl⟩ := ended _ member
  have found : table.find? wish.key = some resource :=
    (books.manager.find?_iff opened).mpr (books.served _ member)
  have given : resource = (table.find? wish.key).getD 0 := by rw [found, Option.getD_some]
  rw [given]
  exact .ended wish created

section Content

variable (books : Books capacity customers bench)
  (content : ∀ customer ∈ customers, customer.Content instances)

include content in
private theorem keys_stock :
    (stock customers).map Prod.fst = (creators customers).map Wish.key := by
  rw [stock_eq content, List.map_map]
  rfl

include content in
private theorem numbers_stock :
    (stock customers).map Prod.snd = (creators customers).map fun wish => instances wish.key := by
  rw [stock_eq content, List.map_map]
  rfl

include books content

private theorem mem_stock {wish : Wish} (member : wish ∈ customers.map Customer.wish) :
    (wish.key, instances wish.key) ∈ stock customers := by
  obtain ⟨customer, among, rfl⟩ := List.mem_map.mp member
  have served := books.served customer among
  obtain ⟨wish, created⟩ := content customer among
  exact served

private theorem creators_perm :
    ((creators customers).map Wish.key).Perm
      ((customers.map Customer.wish).map Wish.key).dedup := by
  have apart : ((creators customers).map Wish.key).Nodup := by
    have once := books.manager.once
    rwa [leads_eq_nil content, List.nil_append, keys_stock content] at once
  refine (List.perm_ext_iff_of_nodup apart (List.nodup_dedup _)).mpr fun key => ?_
  rw [List.mem_dedup]
  refine ⟨fun member => List.map_subset Wish.key creators_subset member, fun member => ?_⟩
  obtain ⟨wish, asks, rfl⟩ := List.mem_map.mp member
  rw [← keys_stock content]
  exact List.mem_map_of_mem (mem_stock books content asks)

private theorem nodup_instances :
    ((creators customers).map fun wish => instances wish.key).Nodup := by
  rw [← numbers_stock content]
  exact books.resources.numbers.nodup_iff.mpr List.nodup_range'

private theorem eq_key_of_eq_instance {wish other : Wish}
    (asks : wish ∈ customers.map Customer.wish) (besides : other ∈ customers.map Customer.wish)
    (same : instances wish.key = instances other.key) : wish.key = other.key := by
  have apart : ((stock customers).map Prod.snd).Nodup :=
    numbers_stock content ▸ nodup_instances books content
  exact (Prod.mk.inj (List.inj_on_of_nodup_map apart (mem_stock books content asks)
    (mem_stock books content besides) same)).1

private theorem available_eq : (bench.limits.get 0).available = capacity := by
  have tokens := books.limit.tokens
  rwa [holders_eq_zero content] at tokens

private theorem inFlight_eq_zero : (bench.managers.get 0).flight.inFlight = 0 := by
  rw [books.manager.led.inFlight_eq, leads_eq_nil content, List.length_nil]

private theorem closes :
    bench.Closes ((creators customers).map fun wish => instances wish.key) := by
  obtain ⟨table, opened, held⟩ := books.manager.held
  have numbers := numbers_stock content
  refine books.furnished.closes opened ?_ (nodup_instances books content) ?_
  · exact numbers ▸ held.map Prod.snd
  · exact fun number member => books.resources.resource?_eq (numbers ▸ member)

end Content

end Books

namespace Session

variable {capacity yields : Nat} {customers : List Customer} {session : Session}

private theorem Attends.nobody_left (attends : session.Attends capacity yields customers)
    (ended : ∀ customer ∈ customers, ∃ resource created, customer.stand = .ended resource created) :
    session.tasks.entries = [] := by
  have nobody : ∀ name, session.tasks.find? name = none := by
    intro name
    by_cases known : ∃ customer ∈ customers, customer.wish.task = name
    · obtain ⟨⟨wish, stand⟩, member, rfl⟩ := known
      obtain ⟨_, _, rfl⟩ := ended _ member
      exact attends.stands _ member
    · exact attends.nobody name (by simpa using known)
  refine List.eq_nil_iff_forall_not_mem.mpr fun entry member => ?_
  exact Table.find?_eq_none_iff.mp (nobody entry.1) (List.mem_map_of_mem member)

private theorem Attends.fulfilled (attends : session.Attends capacity yields customers)
    (ended : ∀ customer ∈ customers, ∃ resource created, customer.stand = .ended resource created) :
    ∃ instances, Fulfilled capacity (customers.map Customer.wish) (Customer.creators customers)
      instances session := by
  obtain ⟨books, reported⟩ := attends.ledger
  obtain ⟨instances, content⟩ := books.content ended
  obtain ⟨table, opened, held⟩ := books.manager.held
  have once := books.creators_perm content
  refine ⟨instances, attends.nobody_left ended,
    reported.perm.trans (Customer.reports_perm content), Customer.creators_subset, once, ?_, ?_, ?_,
    books.closes content⟩
  · intro wish asks other besides
    exact ⟨books.eq_key_of_eq_instance content asks besides, congrArg instances⟩
  · exact ⟨session.bench.limits.get 0,
      (congrArg Shelf.named books.furnished.limits).trans Shelf.named_only, books.limit.capacity,
      books.available_eq content⟩
  · refine ⟨session.bench.managers.get 0,
      (congrArg Shelf.named books.furnished.managers).trans Shelf.named_only, ?_, ?_,
      fun wish asks => ?_, books.inFlight_eq_zero content⟩
    · rw [Manager.isClosed, opened, Option.isNone_some]
    · rw [Manager.keys, opened]
      exact (Books.keys_stock content ▸ held.map Prod.fst).trans once
    · exact Manager.lookup_eq_ok_iff.mpr
        ⟨table, opened, (books.manager.find?_iff opened).mpr (books.mem_stock content asks)⟩

private theorem Fulfilled.perm {wishes other creators : List Wish} {instances : String → Nat}
    (fulfilled : Fulfilled capacity wishes creators instances session)
    (perm : wishes.Perm other) : Fulfilled capacity other creators instances session where
  tasks := fulfilled.tasks
  reports := fulfilled.reports.trans ((perm.flatMap_right _).append_right _)
  among := fun _ member => perm.mem_iff.mp (fulfilled.among member)
  once := fulfilled.once.trans (perm.map Wish.key).dedup
  same := fun wish asks other besides =>
    fulfilled.same wish (perm.mem_iff.mpr asks) other (perm.mem_iff.mpr besides)
  limit := fulfilled.limit
  manager := by
    obtain ⟨manager, named, opened, keys, holds, idle⟩ := fulfilled.manager
    exact ⟨manager, named, opened, keys.trans (perm.map Wish.key).dedup,
      fun wish asks => holds wish (perm.mem_iff.mpr asks), idle⟩
  closes := fulfilled.closes

/-- Tasks ask a manager for keys, and each creation takes a token of a limit, waits and gives
it back. In whatever order the queued tasks are polled, this takes a bounded number of polls,
never are more tokens out than there are, and when no task is queued everything has come to
what it should come to. -/
theorem fulfilled_polls (log : Bool) (capacity yields : Nat) (wishes : List Wish)
    (order : List (String × String)) (last : Session) (positive : 0 < capacity)
    (few : wishes.length < 2 ^ 64) (apart : (wishes.map Wish.task).Nodup)
    (polls : (run log (opening capacity yields wishes)).Polls order last) :
    order.length ≤ (run log (opening capacity yields wishes)).budget ∧
      Moderate capacity last.bench.reports ∧
      (last.Idle → ∃ creators instances, Fulfilled capacity wishes creators instances last) := by
  have known := known_run log (opening capacity yields wishes)
  have meets := polls.meets Bench.kept_minded (meets_run Bench.kept_minded log _)
  obtain ⟨customers, same, attends⟩ :=
    polls.attends (attends_opening log positive wishes apart)
  rw [List.map_map] at same
  replace same : (customers.map Customer.wish).Perm wishes := by
    simpa only [Function.comp_def, List.map_id_fun', id_eq] using same
  refine ⟨Nat.le_trans (polls.length_le known) known.measure_le_budget,
    attends.ledger.reported.moderate, fun idle => ?_⟩
  have enough : customers.length < 2 ^ 64 := by
    rw [← List.length_map Customer.wish, same.length_eq]
    exact few
  obtain ⟨instances, fulfilled⟩ := attends.fulfilled fun customer member =>
    all_ended attends meets enough idle positive member
  exact ⟨_, instances, Fulfilled.perm fulfilled same⟩

/-- Two tasks ask for one key and a third one for another, and there is a single token. -/
def trio : List Wish :=
  [⟨"one", "left"⟩, ⟨"two", "left"⟩, ⟨"three", "right"⟩]

/-- The task that came last is polled first and takes the token before the others come. -/
theorem fulfilled_trio : ∃ order last,
    (run false (opening 1 1 trio)).Polls order last ∧ order.length = 7 ∧ last.Idle ∧
      Moderate 1 last.bench.reports ∧
      ∃ creators instances, Fulfilled 1 trio creators instances last := by
  have polls : ∃ last, (run false (opening 1 1 trio)).Polls [("three", "3"), ("one", "1"),
      ("two", "2"), ("three", "3"), ("one", "1"), ("one", "1"), ("two", "2")] last ∧
      last.bench.ready = [] := by
    refine ⟨_, .poll ?_ ?_ (.poll ?_ ?_ (.poll ?_ ?_ (.poll ?_ ?_ (.poll ?_ ?_ (.poll ?_ ?_
      (.poll ?_ ?_ (.done _))))))), ?_⟩
    all_goals cbv
    all_goals repeat constructor
  obtain ⟨last, polls, empty⟩ := polls
  have idle := idle_of_nil empty
  obtain ⟨_, moderate, fulfilled⟩ :=
    fulfilled_polls false 1 1 trio _ last (by decide) (by decide) (by decide) polls
  exact ⟨_, last, polls, rfl, idle, moderate, fulfilled idle⟩

end Session

end Cohort
