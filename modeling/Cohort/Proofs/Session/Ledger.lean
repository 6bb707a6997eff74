import Cohort.Proofs.Session.Customers

/-!
# The ledger of the customers

What the operations of a customer and of its creation mean for the ledger: one step of one
customer at a time, whatever the others are at.
-/

set_option autoImplicit false

namespace Cohort

/-! ## The limit -/

namespace Limit

variable {ω : Type} {limit : Limit ω} {total holders : Nat}

private theorem Stocked.take (stocked : limit.Stocked total holders) (left : 0 < limit.available)
    (line : WaitLine ω) :
    Stocked { limit with available := limit.available - 1, line } total (holders + 1) := by
  refine ⟨stocked.capacity, ?_⟩
  have tokens := stocked.tokens
  dsimp only
  omega

private theorem Stocked.park (stocked : limit.Stocked total holders) (line : WaitLine ω) :
    Stocked { limit with line } total holders :=
  ⟨stocked.capacity, stocked.tokens⟩

private theorem Stocked.giveBack (stocked : limit.Stocked total (holders + 1)) :
    ∃ woken changed, limit.putBack = .ok (woken, changed) ∧ changed.Stocked total holders ∧
      changed.line.drawn = limit.line.drawn := by
  have tokens := stocked.tokens
  have room : limit.available < limit.capacity := by
    rw [stocked.capacity]
    omega
  refine ⟨_, _, putBack_of_lt room, ⟨stocked.capacity, ?_⟩, drawn_wakeNext _⟩
  dsimp only [wakeNext]
  omega

end Limit

/-! ## The manager -/

namespace Flight

variable {κ ω ρ : Type} {flight changed : Flight κ ω ρ} {drawn : Nat}

/-- Verdicts stay as they are, and at most `drawn` tickets are drawn at each call. -/
structure Onward (flight changed : Flight κ ω ρ) (drawn : Nat) : Prop where
  settled : ∀ call verdict, (flight.call call).verdict = some verdict →
    (changed.call call).verdict = some verdict
  drawn : ∀ call, (changed.call call).line.drawn ≤ (flight.call call).line.drawn + drawn

private theorem onward_setCall {number : Nat} {call : Call ω ρ}
    (settled : call.verdict = (flight.call number).verdict)
    (more : call.line.drawn ≤ (flight.call number).line.drawn + drawn) :
    flight.Onward (flight.setCall number call) drawn where
  settled := by
    intro one verdict reached
    rw [(alike_setCall settled).verdict]
    exact reached
  drawn := by
    intro one
    rw [call_setCall]
    split
    · next same =>
        rw [same.1]
        exact more
    · exact Nat.le_add_right _ _

private theorem onward_refl (flight : Flight κ ω ρ) : flight.Onward flight 0 :=
  ⟨fun _ _ => id, fun _ => Nat.le_refl _⟩

private theorem Onward.trans {last : Flight κ ω ρ} (first : flight.Onward changed 0)
    (second : changed.Onward last 0) : flight.Onward last 0 where
  settled := fun call verdict reached =>
    second.settled call verdict (first.settled call verdict reached)
  drawn := fun call => Nat.le_trans (second.drawn call) (first.drawn call)

variable [DecidableEq κ] {key : κ}

private theorem onward_lead (flight : Flight κ ω ρ) (key : κ) :
    flight.Onward (flight.lead key) 0 where
  settled := by
    intro call verdict reached
    rwa [call_lead]
  drawn := by
    intro call
    rw [call_lead]
    exact Nat.le_refl _

private theorem onward_settle {number : Nat} (unsettled : (flight.call number).verdict = none)
    (verdict : Verdict ρ) : flight.Onward (flight.settle key number verdict).2 0 where
  settled := by
    intro one reached same
    rw [verdict_settle, if_neg, same]
    rintro ⟨rfl, _⟩
    rw [unsettled] at same
    cases same
  drawn := by
    intro one
    have settled := call_setCall { flight with registry := flight.registry.erase key } number one
      ((flight.call number).settle verdict).2
    simp only [settle]
    rw [settled]
    split
    · next same =>
        rw [same.1]
        exact Nat.le_refl _
    · exact Nat.le_refl _

private theorem enter_of_unsettled {number : Nat}
    (registered : flight.registry.find? key = some number)
    (unsettled : (flight.call number).verdict = none) (waker : ω) :
    flight.enter key waker =
      (.joins number ((flight.call number).line.park none waker).1,
        flight.setCall number
          { flight.call number with line := ((flight.call number).line.park none waker).2 }) := by
  simp [enter, registered, Call.poll, unsettled]

end Flight

namespace Manager

variable {ω : Type} {manager : Manager String ω Nat String} {leads stock : List (String × Nat)}
  {key : String} {call resource : Nat}

private theorem Stocked.with_flight (stocked : manager.Stocked leads stock)
    {flight : Flight String ω (Except (ManagerError String) Nat)} (led : flight.Led leads) :
    Stocked { manager with flight } leads stock :=
  ⟨led, stocked.held, stocked.once⟩

theorem Stocked.find?_iff (stocked : manager.Stocked leads stock) {table : Table String Nat}
    (opened : manager.table = some table) :
    table.find? key = some resource ↔ (key, resource) ∈ stock := by
  obtain ⟨other, same, held⟩ := stocked.held
  cases opened.symm.trans same
  have once := stocked.once
  rw [List.map_append] at once
  have apart : table.keys.Nodup :=
    (held.map Prod.fst).nodup_iff.mpr (List.nodup_append.mp once).2.1
  rw [Table.find?_eq_some_iff apart, held.mem_iff]

private theorem Stocked.join (stocked : manager.Stocked leads stock)
    (registered : manager.flight.registry.find? key = some call) (waker : ω) :
    ∃ ticket flight, manager.request key waker = (.joins call ticket, { manager with flight }) ∧
      (key, call) ∈ leads ∧ manager.flight.Onward flight 1 ∧
      Stocked { manager with flight } leads stock := by
  have member := stocked.led.find?_iff.mp registered
  have unsettled := stocked.led.verdict_eq_none member
  let line := (manager.flight.call call).line.park none waker
  refine ⟨line.1, manager.flight.setCall call { manager.flight.call call with line := line.2 }, ?_,
    member, Flight.onward_setCall rfl ?_,
    stocked.with_flight (stocked.led.alike (Flight.alike_setCall rfl))⟩
  · simp only [request, Flight.enter_of_unsettled registered unsettled, line]
  · exact Nat.le_of_eq (WaitLine.drawn_park_none ..)

private theorem Stocked.answer (stocked : manager.Stocked leads stock)
    (free : manager.flight.registry.find? key = none) (member : (key, resource) ∈ stock)
    (waker : ω) :
    ∃ woken flight,
      manager.request key waker = (.answered (.ok resource) woken, { manager with flight }) ∧
        manager.flight.Onward flight 0 ∧ Stocked { manager with flight } leads stock := by
  obtain ⟨table, opened, _⟩ := stocked.held
  have answers : manager.Answers key (.ok resource) :=
    lookup_eq_ok_iff.mpr ⟨table, opened, (stocked.find?_iff opened).mpr member⟩
  have led := stocked.led.lead free
  have unsettled := led.verdict_eq_none List.mem_cons_self
  refine ⟨_, _, request_of_answers free answers waker, ?_, stocked.with_flight (led.settle _)⟩
  exact (Flight.onward_lead _ key).trans (Flight.onward_settle unsettled _)

private theorem Stocked.create (stocked : manager.Stocked leads stock)
    (free : manager.flight.registry.find? key = none) (missing : key ∉ stock.map Prod.fst)
    (waker : ω) :
    ∃ call flight, manager.request key waker = (.creates call, { manager with flight }) ∧
      manager.flight.Onward flight 0 ∧
      Stocked { manager with flight } ((key, call) :: leads) stock := by
  obtain ⟨table, opened, held⟩ := stocked.held
  have absent : table.find? key = none := by
    refine Table.find?_eq_none_iff.mpr fun member => missing ?_
    exact (held.map Prod.fst).mem_iff.mp member
  have unknown : key ∉ leads.map Prod.fst := by
    intro member
    obtain ⟨⟨_, call⟩, leads, rfl⟩ := List.mem_map.mp member
    rw [stocked.led.find?_iff.mpr leads] at free
    cases free
  refine ⟨_, _, request_of_missing free (lookup_eq_ok_iff.mpr ⟨table, opened, absent⟩) waker,
    Flight.onward_lead _ key, stocked.led.lead free, ⟨table, opened, held⟩, ?_⟩
  rw [List.cons_append, List.map_cons, List.map_append]
  refine List.nodup_cons.mpr ⟨?_, List.map_append ▸ stocked.once⟩
  exact fun member => (List.mem_append.mp member).elim unknown missing

/-- A creation ends well: what it made is installed, and those who follow it get it. -/
private theorem Stocked.finish (stocked : manager.Stocked ((key, call) :: leads) stock)
    (resource : Nat) :
    ∃ installed woken flight table,
      manager.install key (.ok resource) = (.ok resource, installed) ∧
        installed.finish key call (.ok resource) = (woken, { manager with table, flight }) ∧
        manager.flight.Onward flight 0 ∧
        (flight.call call).verdict = some (.done (.ok resource)) ∧
        Stocked { manager with table, flight } leads ((key, resource) :: stock) := by
  obtain ⟨table, opened, held⟩ := stocked.held
  have unsettled := stocked.led.verdict_eq_none List.mem_cons_self
  have inside := stocked.led.lt_size List.mem_cons_self
  have once := stocked.once
  rw [List.cons_append, List.map_cons, List.map_append, List.nodup_cons, List.mem_append] at once
  have absent : table.find? key = none := by
    refine Table.find?_eq_none_iff.mpr fun member => once.1 (Or.inr ?_)
    exact (held.map Prod.fst).mem_iff.mp member
  refine ⟨_, _, (manager.flight.settle key call (.done (.ok resource))).2,
    some (table.insert key resource), install_of_open opened key resource, rfl,
    Flight.onward_settle unsettled _, ?_, stocked.led.settle _, ⟨_, rfl, ?_⟩, ?_⟩
  · rw [Flight.verdict_settle, if_pos ⟨rfl, inside⟩]
  · rw [Table.entries_insert_of_find?_eq_none absent]
    exact (List.perm_append_singleton _ _).trans (held.cons _)
  · rw [List.map_append, List.map_cons]
    refine List.nodup_middle.mpr (List.nodup_cons.mpr ⟨?_, once.2⟩)
    exact fun member => once.1 (List.mem_append.mp member)

end Manager

/-! ## What an operation means for the books -/

namespace Books

open Customer

variable {capacity : Nat} {wish : Wish} {stand stand' : Stand} {others : List Customer}
  {bench : Bench}

/-- The limit changes, with the one customer that has to do with it. -/
private theorem setLimit (books : Books capacity (⟨wish, stand⟩ :: others) bench)
    {limit : Limit Waker} (lead : stand'.lead? = stand.lead?) (made : stand'.made? = stand.made?)
    (served : ∀ flight leads stock, @Customer.Served Waker flight leads stock ⟨wish, stand'⟩)
    (stocked : limit.Stocked capacity (holders (⟨wish, stand'⟩ :: others)))
    (few : limit.line.drawn + ticketless (⟨wish, stand'⟩ :: others) ≤ others.length + 1)
    (fewer : ticketless (⟨wish, stand'⟩ :: others) ≤ ticketless (⟨wish, stand⟩ :: others)) :
    Books capacity (⟨wish, stand'⟩ :: others) (bench.setLimit 0 limit) := by
  have leads : leads (⟨wish, stand'⟩ :: others) = leads (⟨wish, stand⟩ :: others) := by
    simp only [Customer.leads, filterMap_cons_eq, Customer.lead?, lead]
  have stock : stock (⟨wish, stand'⟩ :: others) = stock (⟨wish, stand⟩ :: others) := by
    simp only [Customer.stock, filterMap_cons_eq, Customer.made?, made]
  have changed : bench.limits.set 0 limit = .only "tokens" limit := by
    rw [books.furnished.limits, Shelf.set_only]
  have limits : (bench.setLimit 0 limit).limits.get 0 = limit := by
    rw [Bench.setLimit, changed, Shelf.get_only]
  refine ⟨⟨limits.symm ▸ changed, books.furnished.managers, books.furnished.flights⟩,
    limits.symm ▸ stocked, ?_, ?_, ⟨limits.symm ▸ few, fun call => ?_⟩, stock ▸ books.resources⟩
  · rw [leads, stock]
    exact books.manager
  · rw [leads, stock]
    intro customer member
    rcases List.mem_cons.mp member with rfl | member
    · exact served ..
    · exact books.served customer (List.mem_cons_of_mem _ member)
  · exact Nat.le_trans (Nat.add_le_add_left fewer _) (books.thrifty.calls call)

/-- The manager changes, and with it perhaps what all are served with. -/
private theorem setManager (books : Books capacity (⟨wish, stand⟩ :: others) bench)
    {manager : Manager String Waker Nat String} {resources : Array Resource} {drawn : Nat}
    (holds : stand'.holds = stand.holds)
    (stocked : manager.Stocked (leads (⟨wish, stand'⟩ :: others))
      (stock (⟨wish, stand'⟩ :: others)))
    (onward : (bench.managers.get 0).flight.Onward manager.flight drawn)
    (own : Customer.Served manager.flight (leads (⟨wish, stand'⟩ :: others))
      (stock (⟨wish, stand'⟩ :: others)) ⟨wish, stand'⟩)
    (led : ∀ key call, (key, call) ∈ leads (⟨wish, stand⟩ :: others) →
      (key, call) ∈ leads (⟨wish, stand'⟩ :: others) ∨
        ∃ resource, (manager.flight.call call).verdict = some (.done (.ok resource)) ∧
          (key, resource) ∈ stock (⟨wish, stand'⟩ :: others))
    (kept : ∀ entry ∈ stock (⟨wish, stand⟩ :: others), entry ∈ stock (⟨wish, stand'⟩ :: others))
    (fewer : ticketless (⟨wish, stand'⟩ :: others) + drawn ≤
      ticketless (⟨wish, stand⟩ :: others))
    (numbered : Numbered resources (stock (⟨wish, stand'⟩ :: others))) :
    Books capacity (⟨wish, stand'⟩ :: others)
      ({ bench with resources }.setManager 0 manager) := by
  have holders : holders (⟨wish, stand'⟩ :: others) = holders (⟨wish, stand⟩ :: others) := by
    simp only [holders_cons, holds]
  have changed : bench.managers.set 0 manager = .only "shared" manager := by
    rw [books.furnished.managers, Shelf.set_only]
  have managers : ({ bench with resources }.setManager 0 manager).managers.get 0 = manager := by
    simp only [Bench.setManager]
    rw [changed, Shelf.get_only]
  refine ⟨⟨books.furnished.limits, managers.symm ▸ changed, books.furnished.flights⟩,
    holders ▸ books.limit, managers.symm ▸ stocked, ?_, ⟨?_, fun call => ?_⟩, numbered⟩
  · rw [managers]
    intro customer member
    rcases List.mem_cons.mp member with rfl | member
    · exact own
    · exact (books.served customer (List.mem_cons_of_mem _ member)).mono led onward.settled kept
  · exact Nat.le_trans (Nat.add_le_add_left (Nat.le_trans (Nat.le_add_right _ _) fewer) _)
      books.thrifty.limit
  · rw [managers]
    have before := books.thrifty.calls call
    have more := onward.drawn call
    simp only [List.length_cons] at before ⊢
    omega

end Books

namespace Bench

variable (bench : Bench) (number : Nat) (key : String) (call : Nat) (waker : Waker)

private theorem quiet_enter :
    (bench.enter (.manager number) key waker).2.quiet =
      (bench.setManager number ((bench.managers.get number).request key waker).2).quiet := by
  simp only [enter]
  cases (bench.managers.get number).request key waker with
  | mk request changed =>
      cases request with
      | answered result woken =>
          simp only [quiet_wakeAll, quiet_note]
      | creates _ | joins _ _ => simp only [quiet_note]
      | late verdict =>
          cases verdict with
          | done result => simp only [quiet_note]
          | abandoned => rfl

end Bench

namespace Stand.Borrows

variable {stand : Stand} {call : Nat} {held : Option UInt64}

private theorem lead?_eq (borrows : stand.Borrows call held) : stand.lead? = some call := by
  cases borrows <;> rfl

private theorem made?_eq (borrows : stand.Borrows call held) : stand.made? = none := by
  cases borrows <;> rfl

private theorem holds_eq (borrows : stand.Borrows call held) : stand.holds = false := by
  cases borrows <;> rfl

private theorem reports_eq (borrows : stand.Borrows call held) (wish : Wish) :
    Customer.reports ⟨wish, stand⟩ = [.started wish.work, .started wish.task] := by
  cases borrows <;> rfl

/-- Only who has no ticket draws one. -/
private theorem drawn_draw (borrows : stand.Borrows call held) {ω : Type} (line : WaitLine ω) :
    (line.draw held).2.drawn = line.drawn + if stand.ticketless then 1 else 0 := by
  cases borrows <;> rfl

end Stand.Borrows

namespace Ledger

open Customer

variable {capacity : Nat} {wish : Wish} {stand stand' : Stand} {others customers : List Customer}
  {bench next : Bench} {call : Nat} {ticket : UInt64} {waker : Waker}

theorem perm (ledger : Ledger capacity customers bench) {permuted : List Customer}
    (same : customers.Perm permuted) : Ledger capacity permuted bench :=
  ⟨ledger.books.perm same, ledger.reported.perm.trans (same.flatMap_right _),
    ledger.reported.moderate⟩

theorem of_quiet (ledger : Ledger capacity customers bench) (same : next.quiet = bench.quiet) :
    Ledger capacity customers next := by
  have reports : next.reports = bench.reports := (congrArg Bench.events same :)
  exact ⟨ledger.books.of_quiet same, reports ▸ ledger.reported⟩

theorem start (ledger : Ledger capacity (⟨wish, .fresh⟩ :: others) bench) :
    Ledger capacity (⟨wish, .asks⟩ :: others) (bench.emit (.started wish.task)) := by
  have books : Books capacity (⟨wish, .asks⟩ :: others) bench :=
    ledger.books.stay rfl rfl rfl rfl trivial
  refine ⟨books.emit _, ?_⟩
  rw [Bench.reports_emit _ rfl]
  exact ledger.reported.cons rfl rfl

theorem ends {resource : Nat} {created : Bool}
    (ledger : Ledger capacity (⟨wish, .got resource created⟩ :: others) bench) :
    Ledger capacity (⟨wish, .ended resource created⟩ :: others)
      (bench.emit (.ended wish.task (.ok .null))) := by
  have books : Books capacity (⟨wish, .ended resource created⟩ :: others) bench := by
    have served := ledger.books.served _ List.mem_cons_self
    refine ledger.books.stay rfl ?_ rfl rfl served
    cases created <;> rfl
  refine ⟨books.emit _, ?_⟩
  rw [Bench.reports_emit _ rfl]
  exact ledger.reported.cons rfl rfl

theorem ask (ledger : Ledger capacity (⟨wish, .asks⟩ :: others) bench) (waker : Waker) :
    (∃ call ticket, (bench.enter (.manager 0) wish.key waker).1 = .joins call ticket ∧
        Ledger capacity (⟨wish, .follows call ticket⟩ :: others)
          (bench.enter (.manager 0) wish.key waker).2) ∨
      (∃ resource, (bench.enter (.manager 0) wish.key waker).1 =
          .settled (.resource (.ok resource)) true ∧
        Ledger capacity (⟨wish, .got resource false⟩ :: others)
          ((bench.enter (.manager 0) wish.key waker).2.emit
            (.called wish.task (.resource (.ok resource)) none))) ∨
      ∃ call, (bench.enter (.manager 0) wish.key waker).1 = .leads call ∧
        Ledger capacity (⟨wish, .starts call⟩ :: others)
          ((bench.enter (.manager 0) wish.key waker).2.emit (.started wish.work)) := by
  have quiet := bench.quiet_enter 0 wish.key waker
  have reports : (bench.enter (.manager 0) wish.key waker).2.reports = bench.reports :=
    (congrArg Bench.events quiet :)
  have stocked : (bench.managers.get 0).Stocked (leads others) (stock others) :=
    ledger.books.manager
  cases registered : (bench.managers.get 0).flight.registry.find? wish.key with
  | some call =>
      obtain ⟨ticket, flight, joins, leads, onward, stocked⟩ := stocked.join registered waker
      rw [joins] at quiet
      refine Or.inl ⟨call, ticket, ?_, ?_, reports ▸ ledger.reported.same rfl⟩
      · simp only [Bench.enter, joins]
      · refine Books.of_quiet ?_ quiet
        exact ledger.books.setManager rfl stocked onward (Or.inl leads) (fun _ _ => Or.inl)
          (fun _ => id) (by simp [ticketless_cons, Stand.ticketless]) ledger.books.resources
  | none =>
      by_cases known : wish.key ∈ (stock others).map Prod.fst
      · obtain ⟨⟨_, resource⟩, member, rfl⟩ := List.mem_map.mp known
        obtain ⟨woken, flight, answers, onward, stocked⟩ := stocked.answer registered member waker
        rw [answers] at quiet
        refine Or.inr (Or.inl ⟨resource, ?_, ?_, ?_⟩)
        · simp only [Bench.enter, answers]
        · refine Books.emit (Books.of_quiet ?_ quiet) _
          exact ledger.books.setManager rfl stocked onward member (fun _ _ => Or.inl)
            (fun _ => id) (by simp [ticketless_cons, Stand.ticketless]) ledger.books.resources
        · rw [Bench.reports_emit _ rfl, reports]
          exact ledger.reported.cons rfl rfl
      · obtain ⟨call, flight, creates, onward, stocked⟩ := stocked.create registered known waker
        rw [creates] at quiet
        refine Or.inr (Or.inr ⟨call, ?_, ?_, ?_⟩)
        · simp only [Bench.enter, creates]
        · refine Books.emit (Books.of_quiet ?_ quiet) _
          exact ledger.books.setManager rfl stocked onward trivial
            (fun _ _ leads => Or.inl (List.mem_cons_of_mem _ leads)) (fun _ => id)
            (Nat.le_refl _) ledger.books.resources
        · rw [Bench.reports_emit _ rfl, reports]
          exact ledger.reported.cons rfl rfl

theorem borrow {held : Option UInt64} (ledger : Ledger capacity (⟨wish, stand⟩ :: others) bench)
    (borrows : stand.Borrows call held) (waker : Waker) :
    (∃ ticket, (bench.pollBorrow 0 held waker).1 = .parked ticket ∧
        Ledger capacity (⟨wish, .queues call ticket⟩ :: others)
          (bench.pollBorrow 0 held waker).2) ∨
      (bench.pollBorrow 0 held waker).1 = .taken ∧
        Ledger capacity (⟨wish, .makes call⟩ :: others)
          ((bench.pollBorrow 0 held waker).2.emit (.borrowed wish.work true)) := by
  have lead := borrows.lead?_eq.symm
  have made := borrows.made?_eq.symm
  have reports := borrows.reports_eq wish
  have fewer : ticketless others ≤ ticketless (⟨wish, stand⟩ :: others) := by
    rw [ticketless_cons]
    exact Nat.le_add_right _ _
  have drawn : ((bench.limits.get 0).line.draw held).2.drawn + ticketless others ≤
      others.length + 1 := by
    have before := ledger.books.thrifty.limit
    rw [ticketless_cons, Nat.add_left_comm, Nat.add_comm, ← borrows.drawn_draw] at before
    exact before
  have stocked : (bench.limits.get 0).Stocked capacity (holders others) := by
    have before := ledger.books.limit
    rwa [holders_cons, borrows.holds_eq] at before
  rcases Nat.eq_zero_or_pos (bench.limits.get 0).available with spent | left
  · have parked := Limit.poll_of_eq_zero spent held waker
    refine Or.inl ⟨((bench.limits.get 0).line.park held waker).1, ?_, ?_, ?_⟩
    · simp only [Bench.pollBorrow, parked]
    · simp only [Bench.pollBorrow, parked]
      refine ledger.books.setLimit lead made (fun _ _ _ => trivial) (stocked.park _) ?_ fewer
      dsimp only
      rw [WaitLine.drawn_park]
      exact drawn
    · exact ledger.reported.same reports.symm
  · have taken := Limit.poll_of_pos left held waker
    have after := stocked.take left ((bench.limits.get 0).lineTaken held)
    have line : ((bench.limits.get 0).lineTaken held).drawn = (bench.limits.get 0).line.drawn := by
      cases held <;> rfl
    have books : Books capacity (⟨wish, .makes call⟩ :: others)
        (bench.pollBorrow 0 held waker).2 := by
      simp only [Bench.pollBorrow, taken]
      refine ledger.books.setLimit lead made (fun _ _ _ => trivial) ?_ ?_ fewer
      · rwa [holders_cons]
      · dsimp only
        rw [line]
        exact Nat.le_trans (Nat.add_le_add_left fewer _) ledger.books.thrifty.limit
    refine Or.inr ⟨?_, books.emit _, ?_⟩
    · simp only [Bench.pollBorrow, taken]
    · rw [Bench.reports_emit _ rfl]
      refine ledger.reported.take (congrArg (_ :: ·) reports.symm) ?_
      rw [holders_cons]
      exact Nat.le_of_add_left_le (Nat.le_of_eq after.tokens)

theorem release (ledger : Ledger capacity (⟨wish, .makes call⟩ :: others) bench) :
    Ledger capacity (⟨wish, .made call⟩ :: others)
      (((bench.release ⟨"token", 0⟩).emit (.droppedGuard wish.work true)).emit
        (.ended wish.work (.ok .null))) := by
  have stocked : (bench.limits.get 0).Stocked capacity (holders others + 1) := by
    have before := ledger.books.limit
    rwa [holders_cons] at before
  obtain ⟨woken, limit, putBack, stocked, drawn⟩ := stocked.giveBack
  have released : (bench.release ⟨"token", 0⟩).quiet = (bench.setLimit 0 limit).quiet := by
    simp only [Bench.release, Bench.giveBack, putBack, Bench.quiet_wakeAll]
  have reports : (bench.release ⟨"token", 0⟩).reports = bench.reports :=
    (congrArg Bench.events released :)
  refine ⟨Books.emit (Books.emit (Books.of_quiet ?_ released) _) _, ?_⟩
  · refine ledger.books.setLimit rfl rfl (fun _ _ _ => trivial) stocked ?_ (Nat.le_refl _)
    rw [drawn]
    exact ledger.books.thrifty.limit
  · rw [Bench.reports_emit _ rfl, Bench.reports_emit _ rfl, reports]
    have dropped : Reported capacity (⟨wish, .makes call⟩ :: others) bench.reports :=
      ledger.reported
    refine ⟨?_, (dropped.moderate.cons_of_not_takes rfl).cons_of_not_takes rfl⟩
    exact (dropped.perm.cons _).cons _

theorem finish (ledger : Ledger capacity (⟨wish, .made call⟩ :: others) bench) :
    ∃ resource, (bench.finish (.manager 0) wish.key call (.ok .null)).1 =
        .resource (.ok resource) ∧
      Ledger capacity (⟨wish, .got resource true⟩ :: others)
        ((bench.finish (.manager 0) wish.key call (.ok .null)).2.emit
          (.called wish.task (.resource (.ok resource)) none)) := by
  have stocked : (bench.managers.get 0).Stocked ((wish.key, call) :: leads others)
      (stock others) := ledger.books.manager
  obtain ⟨installed, woken, flight, table, installs, finishes, onward, settled, stocked⟩ :=
    stocked.finish (bench.resources.size + 1)
  let resources := bench.resources.push { behavior := .succeeds }
  have quiet : (bench.finish (.manager 0) wish.key call (.ok .null)).2.quiet =
      ({ bench with resources }.setManager 0
        { bench.managers.get 0 with table, flight }).quiet := by
    simp only [Bench.finish, Bench.addResource, installs, finishes, Bench.quiet_wakeAll]
    rfl
  have reports : (bench.finish (.manager 0) wish.key call (.ok .null)).2.reports = bench.reports :=
    (congrArg Bench.events quiet :)
  refine ⟨bench.resources.size + 1, ?_, ?_, ?_⟩
  · simp only [Bench.finish, Bench.addResource, installs, finishes]
  · refine Books.emit (Books.of_quiet ?_ quiet) _
    refine ledger.books.setManager rfl stocked onward List.mem_cons_self ?_
      (fun _ => List.mem_cons_of_mem _) (Nat.le_refl _) ?_
    · intro key one leads
      rcases List.mem_cons.mp leads with same | leads
      · cases same
        exact Or.inr ⟨_, settled, List.mem_cons_self⟩
      · exact Or.inl leads
    · exact ledger.books.resources.push wish.key
  · rw [Bench.reports_emit _ rfl, reports]
    exact ledger.reported.cons rfl rfl

/-- Somebody who follows a call is polled: it follows on, or gets what its leader made. -/
theorem follow (ledger : Ledger capacity (⟨wish, .follows call ticket⟩ :: others) bench)
    (waker : Waker) :
    (bench.follow (.manager 0) call ticket waker).1 = .parked ticket ∧
        Ledger capacity (⟨wish, .follows call ticket⟩ :: others)
          (bench.follow (.manager 0) call ticket waker).2 ∨
      ∃ resource, (bench.follow (.manager 0) call ticket waker).1 =
          .settled (.done (.resource (.ok resource))) ∧
        Ledger capacity (⟨wish, .got resource false⟩ :: others)
          ((bench.follow (.manager 0) call ticket waker).2.emit
            (.called wish.task (.resource (.ok resource)) none)) := by
  have stocked : (bench.managers.get 0).Stocked (leads others) (stock others) :=
    ledger.books.manager
  have served := ledger.books.served _ List.mem_cons_self
  have reports : (bench.follow (.manager 0) call ticket waker).2.reports = bench.reports := by
    rw [Bench.follow_manager]
    rfl
  rcases served with leads | ⟨resource, verdict, member⟩
  · have unsettled := stocked.led.verdict_eq_none leads
    have polled := Flight.poll_of_running unsettled ticket waker
    refine Or.inl ⟨?_, ?_, reports ▸ ledger.reported⟩
    · simp only [Bench.follow, Manager.poll, polled]
    · simp only [Bench.follow, Manager.poll, polled]
      refine ledger.books.setManager rfl ?_ (@Flight.onward_setCall _ _ _ _ 0 _ _ rfl ?_)
        (Or.inl leads) (fun _ _ => Or.inl) (fun _ => id) (Nat.le_refl _) ledger.books.resources
      · exact stocked.with_flight (stocked.led.alike (Flight.alike_setCall rfl))
      · exact Nat.le_of_eq (WaitLine.drawn_park_some ..)
  · have polled := Flight.poll_of_settled verdict ticket waker
    refine Or.inr ⟨resource, ?_, ?_, ?_⟩
    · simp only [Bench.follow, Manager.poll, polled]
    · simp only [Bench.follow, Manager.poll, polled]
      refine Books.emit ?_ _
      exact ledger.books.setManager rfl stocked (Flight.onward_refl _) member (fun _ _ => Or.inl)
        (fun _ => id) (Nat.le_refl _) ledger.books.resources
    · rw [Bench.reports_emit _ rfl, reports]
      exact ledger.reported.cons rfl rfl

end Ledger

end Cohort
