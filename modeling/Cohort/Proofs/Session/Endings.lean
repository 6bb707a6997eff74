import Mathlib.Algebra.BigOperators.Group.List.Basic
import Mathlib.Algebra.Ring.Nat
import Cohort.Proofs.Session.Restarts

/-!
# Runs end

A poll of a ready task takes its name from the queue. It may queue others, but then the
task has got on, and that is used up for good. Names come from nowhere: only tasks and
those whose wakers sit somewhere can be queued. So a run empties the queue.
-/

set_option autoImplicit false

namespace Cohort

/-! ## Weights of sessions -/

def tasksWeight (tasks : Table String Task) : Nat :=
  (tasks.entries.map (fun entry => entry.2.weight)).sum

private theorem foldl_weight (tasks : List Task) (weight : Nat) :
    tasks.foldl (fun weight task => weight + task.weight) weight =
      weight + (tasks.map Task.weight).sum := by
  induction tasks generalizing weight with
  | nil => rfl
  | cons task rest ih =>
      rw [List.foldl_cons, ih, List.map_cons, List.sum_cons, Nat.add_assoc]

private theorem tasksWeight_erase {tasks : Table String Task} {name : String} {task : Task}
    (apart : tasks.keys.Nodup) (found : tasks.find? name = some task) :
    tasksWeight tasks = task.weight + tasksWeight (tasks.erase name) := by
  have split := Table.entries_perm_of_find? apart found
  exact (split.map (fun entry => entry.2.weight)).sum_eq

private theorem tasksWeight_insert {tasks : Table String Task} {name : String}
    (absent : tasks.find? name = none) (task : Task) :
    tasksWeight (tasks.insert name task) = tasksWeight tasks + task.weight := by
  rw [tasksWeight, Table.entries_insert_of_find?_eq_none absent, List.map_append, List.sum_append]
  exact congrArg _ (Nat.add_zero _)

/-! ## Whose names can be queued -/

/-- Every task that is queued, or would be if a waker was called, is known. -/
structure Bench.Familiar (names : List String) (bench : Bench) : Prop where
  once : bench.ready.Nodup
  queued : ∀ task ∈ bench.ready, task ∈ names
  sat : ∀ {seat waker}, bench.seating.sits seat waker → waker.task ∈ names

namespace Bench

variable {names : List String} {bench next : Bench} {waker : Waker}

private theorem Stirs.familiar {seats : List Seat} {called : List Waker}
    (stirs : bench.Stirs next waker seats called) (familiar : bench.Familiar names)
    (known : waker.task ∈ names) : next.Familiar names where
  once := stirs.once familiar.once
  queued := by
    intro task member
    rcases stirs.queued.mp member with before | called
    · exact familiar.queued task before
    · obtain ⟨one, among, rfl⟩ := List.mem_map.mp called
      rcases stirs.change.sat among with rfl | ⟨seat, sits⟩
      · exact known
      · exact familiar.sat sits
  sat := by
    intro seat sitter sits
    rcases stirs.change.fresh sits with before | ⟨rfl, _⟩
    · exact familiar.sat before
    · exact known

private theorem Acts.familiar {before left : List Post} (acts : Acts waker before bench left next)
    (familiar : bench.Familiar names) (known : waker.task ∈ names) : next.Familiar names := by
  induction acts with
  | done _ => exact familiar
  | act _ act _ ih =>
      obtain ⟨called, stirs⟩ := act.stirs
      exact ih (stirs.familiar familiar known)

private theorem Familiar.unqueue (familiar : bench.Familiar names) (task : String) :
    Familiar names { bench with ready := bench.ready.erase task } where
  once := familiar.once.erase task
  queued := fun other member => familiar.queued other (List.mem_of_mem_erase member)
  sat := familiar.sat

private theorem Familiar.length_le (familiar : bench.Familiar names) :
    bench.ready.length ≤ names.length :=
  (List.subperm_of_subset familiar.once familiar.queued).length_le

private theorem kept_once : Kept (fun _ bench => bench.ready.Nodup) where
  new := List.nodup_nil
  perm := fun _ once => once
  report := fun _ once => once
  queue := fun task once => nodup_ready_enqueue once task
  unqueue := fun task once => once.erase task
  act := by
    intro waker used bench gained next others act once
    obtain ⟨called, stirs⟩ := act.stirs
    exact stirs.once once

end Bench

namespace Session

variable {names : List String} {session next : Session} {name label : String} {polled : Polled}

private theorem weight_eq (session : Session) : session.weight = tasksWeight session.tasks := by
  rw [weight, foldl_weight, Nat.zero_add, Table.values, List.map_map, tasksWeight]
  rfl

structure Known (names : List String) (session : Session) : Prop where
  orderly : Orderly session.tasks
  tasks : ∀ name ∈ session.tasks.keys, name ∈ names
  bench : session.bench.Familiar names

private theorem tasksWeight_rejoin {tasks : Table String Task} (absent : tasks.find? name = none)
    (poll : Poll) : tasksWeight (poll.rejoin name tasks) = tasksWeight tasks + poll.weight := by
  cases poll with
  | pending frame => exact tasksWeight_insert absent _
  | ready _ | faulted _ => rfl

private theorem mem_keys_rejoin {tasks : Table String Task} (absent : tasks.find? name = none)
    {poll : Poll} {other : String} (member : other ∈ (poll.rejoin name tasks).keys) :
    other ∈ tasks.keys ∨ other = name := by
  cases poll with
  | pending frame =>
      simp only [Poll.rejoin, Table.keys, Table.entries_insert_of_find?_eq_none absent,
        List.map_append] at member
      exact (List.mem_append.mp member).imp_right List.mem_singleton.mp
  | ready _ | faulted _ => exact Or.inl member

private theorem Known.pollTask (known : session.Known names)
    (polls : session.pollTask name label = (some polled, next)) :
    next.Known names ∧ (next.weight < session.weight ∨
      next.weight = session.weight ∧ next.bench.ready = session.bench.ready.erase name) := by
  cases found : session.tasks.find? name with
  | none =>
      rw [pollTask_of_absent found] at polls
      cases polls
  | some task =>
      have acts := task.acts_poll ⟨name, label⟩ name (session.benchFor name)
      obtain ⟨spends, waits⟩ := task.spends_poll ⟨name, label⟩ name (session.benchFor name)
      rw [pollTask_of_find? found] at polls
      cases polls
      have absent := Table.find?_erase_self session.tasks name
      have member : name ∈ names :=
        known.tasks name (List.mem_map_of_mem (Table.mem_entries_of_find? found))
      refine ⟨⟨(known.orderly.erase name).rejoin name waits, fun other left => ?_, ?_⟩, ?_⟩
      · rcases mem_keys_rejoin absent left with before | rfl
        · exact known.tasks other (Table.mem_keys_erase.mp before).1
        · exact member
      · exact acts.familiar (known.bench.unqueue name) member
      · rw [weight_eq, weight_eq, tasksWeight_erase known.orderly.apart found,
          tasksWeight_rejoin absent, Nat.add_comm]
        exact spends.add_const _

/-! ## The measure of a run -/

def measure (names : List String) (session : Session) : Nat :=
  session.weight * (names.length + 1) + session.bench.ready.length

/-- Polling a ready task brings the run closer to its end. -/
theorem Known.measure_pollTask (known : session.Known names) (ready : name ∈ session.bench.ready)
    (polls : session.pollTask name label = (some polled, next)) :
    next.Known names ∧ next.measure names < session.measure names := by
  obtain ⟨known', spends⟩ := known.pollTask polls
  refine ⟨known', ?_⟩
  unfold measure
  rcases spends with less | ⟨same, queue⟩
  · have few := known'.bench.length_le
    have one : (next.weight + 1) * (names.length + 1) ≤ session.weight * (names.length + 1) :=
      Nat.mul_le_mul_right _ less
    rw [Nat.succ_mul] at one
    omega
  · have shorter := List.length_erase_of_mem ready
    have positive := List.length_pos_of_mem ready
    rw [same, queue]
    omega

private theorem Known.skip (known : session.Known names) {rest : List String}
    (first : session.bench.ready = name :: rest) :
    Known names { session with bench := { session.bench with ready := rest } } := by
  have familiar := known.bench.unqueue name
  rw [first, List.erase_cons_head] at familiar
  exact ⟨known.orderly, known.tasks, familiar⟩

private theorem Known.report (known : session.Known names) (events : List Event) :
    Known names { session with bench := { session.bench with events } } :=
  ⟨known.orderly, known.tasks, ⟨known.bench.once, known.bench.queued, known.bench.sat⟩⟩

theorem runFor_of_measure_le (budget : Nat) {session : Session} (known : session.Known names)
    (enough : session.measure names ≤ budget) :
    ∃ polls last, polls ≤ budget ∧ last.bench.ready = [] ∧
      ∀ more, budget ≤ more → session.runFor more = (some polls, last) := by
  induction budget generalizing session with
  | zero =>
      have empty : session.bench.ready = [] :=
        List.length_eq_zero_iff.mp (Nat.eq_zero_of_add_eq_zero_left (Nat.le_zero.mp enough))
      exact ⟨0, session, Nat.le_refl 0, empty, fun more _ => runFor_of_idle empty more⟩
  | succ budget ih =>
      cases queued : session.bench.ready with
      | nil => exact ⟨0, session, Nat.zero_le _, queued, fun more _ => runFor_of_idle queued more⟩
      | cons name rest =>
          cases polls : session.pollTask name name with
          | mk answer changed =>
              cases answer with
              | none =>
                  obtain ⟨absent, _⟩ := pollTask_eq_none polls
                  have shorter : measure names
                      { session with bench := { session.bench with ready := rest } } ≤ budget := by
                    simp only [measure, queued, List.length_cons] at enough ⊢
                    exact Nat.le_of_succ_le_succ enough
                  obtain ⟨count, last, bounded, idle, runs⟩ := ih (known.skip queued) shorter
                  refine ⟨count, last, Nat.le_succ_of_le bounded, idle, fun more le => ?_⟩
                  obtain ⟨less, rfl⟩ :=
                    Nat.exists_eq_add_of_le' (Nat.le_trans (Nat.le_add_left ..) le)
                  rw [runFor_skip queued absent]
                  exact runs less (Nat.le_of_succ_le_succ le)
              | some answer =>
                  have member : name ∈ session.bench.ready := queued ▸ List.mem_cons_self
                  obtain ⟨known', less⟩ := known.measure_pollTask member polls
                  have reported : Known names
                      { changed with bench := changed.bench.emit (.polled name answer) } :=
                    known'.report _
                  obtain ⟨count, last, bounded, idle, runs⟩ :=
                    ih reported (Nat.le_of_lt_succ (Nat.lt_of_lt_of_le less enough))
                  refine ⟨count + 1, last, Nat.succ_le_succ bounded, idle, fun more le => ?_⟩
                  obtain ⟨less, rfl⟩ :=
                    Nat.exists_eq_add_of_le' (Nat.le_trans (Nat.le_add_left ..) le)
                  rw [runFor_poll queued polls, runs less (Nat.le_of_succ_le_succ le)]
                  rfl

/-! ## Every session -/

private theorem mem_of_sits_line {line : WaitLine Waker} {seat : Nat} {waker : Waker}
    (sits : line.seating.sits seat waker) : waker ∈ line.waiters.map Waiter.waker := by
  obtain ⟨ticket, member, _⟩ := sits
  exact List.mem_map_of_mem member

private theorem mem_of_sits_flight {κ ρ : Type} {flight : Flight κ Waker ρ} {call seat : Nat}
    {waker : Waker} (sits : (flight.seatingAt call).sits seat waker) :
    waker ∈ flight.calls.toList.flatMap (fun call => call.line.waiters.map Waiter.waker) := by
  rcases Nat.lt_or_ge call flight.calls.size with inside | outside
  · refine List.mem_flatMap.mpr ⟨flight.call call, ?_, mem_of_sits_line sits⟩
    simp [Flight.call, inside]
  · have absent : flight.call call = {} := by
      simp [Flight.call, Array.getD_eq_getD_getElem?, outside]
    rw [Flight.seatingAt, absent] at sits
    exact absurd (mem_of_sits_line sits) List.not_mem_nil

/-- What is seen of one object is seen on the shelf, if nothing is seen of a new one. -/
private theorem mem_flatMap_items {α β : Type} [Inhabited α] {shelf : Shelf α} {look : α → List β}
    (new : look default = []) {number : Nat} {one : β} (seen : one ∈ look (shelf.get number)) :
    one ∈ shelf.items.toList.flatMap look := by
  rcases Nat.lt_or_ge number shelf.items.size with inside | outside
  · refine List.mem_flatMap.mpr ⟨shelf.get number, ?_, seen⟩
    simp [Shelf.get, inside]
  · rw [Shelf.get_of_size_le outside, new] at seen
    exact absurd seen List.not_mem_nil

private theorem mem_wakers {bench : Bench} {seat : Seat} {waker : Waker}
    (sits : bench.seating.sits seat waker) : waker ∈ bench.wakers := by
  obtain ⟨place, seat⟩ := seat
  simp only [Bench.wakers, List.append_assoc, List.mem_append]
  cases place with
  | limit number => exact Or.inl (mem_flatMap_items rfl (mem_of_sits_line sits))
  | flight number call => exact Or.inr (Or.inl (mem_flatMap_items rfl (mem_of_sits_flight sits)))
  | manager number call =>
      exact Or.inr (Or.inr (Or.inl (mem_flatMap_items rfl (mem_of_sits_flight sits))))
  | gate number =>
      exact Or.inr (Or.inr (Or.inr (mem_flatMap_items rfl (List.mem_of_getElem? sits))))

/-- The names of all who can be queued, as the budget counts them. -/
def nameList (session : Session) : List String :=
  session.tasks.keys ++ session.bench.ready ++ session.bench.wakers.map Waker.task

private theorem length_nameList (session : Session) : session.nameList.length = session.names := by
  simp [nameList, names, Table.size, Table.keys, Nat.add_assoc]

private theorem known_nameList (orderly : Orderly session.tasks)
    (once : session.bench.ready.Nodup) :
    session.Known session.nameList where
  orderly := orderly
  tasks := fun _ member => List.mem_append_left _ (List.mem_append_left _ member)
  bench := {
    once := once
    queued := fun _ member => List.mem_append_left _ (List.mem_append_right _ member)
    sat := fun sits => List.mem_append_right _ (List.mem_map_of_mem (mem_wakers sits)) }

theorem Known.measure_le_budget (known : session.Known session.nameList) :
    session.measure session.nameList ≤ session.budget := by
  have few := known.bench.length_le
  rw [length_nameList] at few
  rw [measure, budget, length_nameList, Nat.succ_mul]
  omega

theorem known_run (log : Bool) (instructions : List Instruction) :
    (run log instructions).Known (run log instructions).nameList := by
  have meets := meets_run Bench.kept_once log instructions
  exact known_nameList meets.tasks meets.holds

/-- A run empties the queue, whatever the session has come to before and whatever its tasks
are at: the budget that it is given is never spent. -/
theorem run_ends (log : Bool) (instructions : List Instruction) :
    ∃ polls last, (run log instructions).respond .run = (.ran polls, last) ∧
      last.bench.ready = [] ∧ polls ≤ (run log instructions).budget ∧
      ∀ budget, (run log instructions).budget ≤ budget →
        (run log instructions).runFor budget = (some polls, last) := by
  have known := known_run log instructions
  obtain ⟨polls, last, bounded, idle, runs⟩ :=
    runFor_of_measure_le _ known known.measure_le_budget
  refine ⟨polls, last, ?_, idle, bounded, runs⟩
  simp only [respond, runs _ (Nat.le_refl _)]

/-- Each poll ends as well, after any number of turns of the queue: whoever looks for a call
finds none that was abandoned, so nobody starts over for ever. -/
theorem polls_end (log : Bool) (instructions : List Instruction) (turns : Nat) :
    (∀ home key waker,
      (((run log instructions).runFor turns).2.bench.enter home key waker).1 ≠ .endless) ∧
    ∀ name label, (((run log instructions).runFor turns).2.pollTask name label).1 ≠
      some (.faulted .endlessRestart) := by
  have serves := (serves_run log instructions).runFor turns
  exact ⟨serves.holds.enter_ne_endless, serves.pollTask_ne_endless⟩

end Session

end Cohort
