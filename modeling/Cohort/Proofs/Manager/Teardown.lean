import Mathlib.Data.List.Perm.Basic
import Cohort.Failure
import Cohort.Proofs.Manager.Closing
import Cohort.Proofs.Table

/-!
# Teardowns

A close reaches every resource once for each key that holds it, whatever has failed before.
How a resource closes may depend on how often it was closed already, so the order in which the
table is gone through decides which of its keys a failure falls to. It decides nothing else:
two orders make the same calls with the same failures, one order a permutation of the other.
-/

set_option autoImplicit false

namespace Cohort

/-- A call to close a resource, and the failure that it came to, if any. -/
structure CloseCall (ρ φ : Type) where
  resource : ρ
  failure : Option φ

namespace CloseCall

variable {ρ φ : Type} [DecidableEq ρ]

/-- How many of the calls were made to close a resource. -/
def count (calls : List (CloseCall ρ φ)) (resource : ρ) : Nat :=
  (calls.map CloseCall.resource).count resource

@[simp]
theorem count_append (calls more : List (CloseCall ρ φ)) (resource : ρ) :
    count (calls ++ more) resource = count calls resource + count more resource := by
  rw [count, List.map_append, List.count_append, count, count]

/-- The call that is made to close a resource, given those made before. How it ends depends on
how often the resource was closed. -/
def next (ends : ρ → Nat → Option φ) (before : List (CloseCall ρ φ)) (resource : ρ) :
    CloseCall ρ φ :=
  ⟨resource, ends resource (count before resource)⟩

/-- Closes a resource, and keeps a record of all such calls. -/
def make (ends : ρ → Nat → Option φ) (resource : ρ) (before : List (CloseCall ρ φ)) :
    Closing φ × List (CloseCall ρ φ) :=
  let call := next ends before resource
  match call.failure with
  | none => (.closed, before ++ [call])
  | some failure => (.failed failure, before ++ [call])

/-- The calls that close resources in turn. -/
def inTurn (ends : ρ → Nat → Option φ) :
    List (CloseCall ρ φ) → List ρ → List (CloseCall ρ φ)
  | _, [] => []
  | before, resource :: rest =>
      let call := next ends before resource
      call :: inTurn ends (before ++ [call]) rest

section Calls

variable {ends : ρ → Nat → Option φ} {before other : List (CloseCall ρ φ)} {resources : List ρ}

@[simp]
theorem map_resource_inTurn :
    (inTurn ends before resources).map CloseCall.resource = resources := by
  induction resources generalizing before with
  | nil => rfl
  | cons resource rest ih => rw [inTurn, List.map_cons, ih, next]

@[simp]
theorem count_inTurn (resource : ρ) :
    count (inTurn ends before resources) resource = resources.count resource := by
  rw [count, map_resource_inTurn]

private theorem inTurn_congr (alike : ∀ resource, count before resource = count other resource) :
    inTurn ends before resources = inTurn ends other resources := by
  induction resources generalizing before other with
  | nil => rfl
  | cons resource rest ih =>
      have same : next ends before resource = next ends other resource := by
        rw [next, next, alike resource]
      rw [inTurn, inTurn, same, ih fun again => ?_]
      rw [count_append, count_append, alike again]

private theorem eq_next_of_inTurn {past rest : List (CloseCall ρ φ)} {call : CloseCall ρ φ}
    (split : inTurn ends before resources = past ++ call :: rest) :
    call = next ends (before ++ past) call.resource := by
  induction resources generalizing before past with
  | nil => exact absurd split.symm (List.append_ne_nil_of_right_ne_nil past (List.cons_ne_nil _ _))
  | cons resource later ih =>
      rw [inTurn] at split
      cases past with
      | nil =>
          obtain ⟨rfl, _⟩ := List.cons.inj split
          rw [List.append_nil]
          rfl
      | cons first past =>
          obtain ⟨rfl, tail⟩ := List.cons.inj split
          have found := ih tail
          rwa [List.append_assoc] at found

/-- Two neighbours can change places: either they are the same resource, or neither call
counts for the other. -/
theorem inTurn_swap (one two : ρ) :
    (inTurn ends before (two :: one :: resources)).Perm
      (inTurn ends before (one :: two :: resources)) := by
  by_cases same : one = two
  · rw [same]
  · have apart : ∀ (first second : ρ), first ≠ second →
        next ends (before ++ [next ends before first]) second = next ends before second := by
      intro first second different
      simp only [next, count_append]
      simp [count, different]
    have alike : inTurn ends (before ++ [next ends before two] ++ [next ends before one])
        resources =
          inTurn ends (before ++ [next ends before one] ++ [next ends before two]) resources := by
      refine inTurn_congr fun resource => ?_
      simp only [count_append]
      omega
    simp only [inTurn]
    rw [apart one two same, apart two one (Ne.symm same), alike]
    exact List.Perm.swap _ _ _

/-- To close the same resources in another order makes the same calls. -/
theorem inTurn_perm {others : List ρ} (same : resources.Perm others) :
    (inTurn ends before resources).Perm (inTurn ends before others) := by
  -- The calls made before differ between the orders, so they are generalized over.
  induction same generalizing before with
  | nil => exact .refl _
  | cons resource _ ih => exact ih.cons _
  | swap one two rest => exact inTurn_swap one two
  | trans _ _ ih₁ ih₂ => exact ih₁.trans ih₂

end Calls

end CloseCall

namespace Teardown

variable {ρ : Type}

/-- What a close gives back: the failures were added to a batch one by one. -/
def outcome (teardown : Teardown ρ Failure) : Except Fault (Except Batch Unit) :=
  teardown.result.map (fun failures => (failures.foldl Batch.add {}).toExcept)

private theorem foldl_add (batch : Batch) (failures : List Failure) :
    failures.foldl Batch.add batch = ⟨batch.failures ++ failures⟩ := by
  induction failures generalizing batch with
  | nil => rw [List.foldl_nil, List.append_nil]
  | cons failure rest ih =>
      rw [List.foldl_cons, ih, Batch.add, List.append_assoc, List.singleton_append]

/-- The batch is empty exactly if no call failed. -/
theorem outcome_ok_iff {visited : List ρ} {own : List (CloseCall ρ Failure)} :
    outcome ⟨visited, .ok (own.filterMap CloseCall.failure)⟩ = .ok (.ok ()) ↔
      ∀ call ∈ own, call.failure = none := by
  rw [← List.filterMap_eq_nil_iff, outcome, Except.map, foldl_add, Batch.toExcept,
    Batch.isEmpty, List.nil_append]
  cases own.filterMap CloseCall.failure with
  | nil => simp
  | cons failure rest => simp

private theorem outcome_error_iff {visited : List ρ} {failures : List Failure} {batch : Batch} :
    outcome ⟨visited, .ok failures⟩ = .ok (.error batch) ↔
      failures ≠ [] ∧ batch = ⟨failures⟩ := by
  rw [outcome, Except.map, foldl_add, Batch.toExcept, Batch.isEmpty,
    List.nil_append]
  cases failures with
  | nil => simp
  | cons failure rest => simp [eq_comm]

private theorem run_make {φ : Type} [DecidableEq ρ] (ends : ρ → Nat → Option φ)
    (before : List (CloseCall ρ φ)) (resources : List ρ) :
    Teardown.run (CloseCall.make ends) resources before =
      (⟨resources, .ok ((CloseCall.inTurn ends before resources).filterMap CloseCall.failure)⟩,
        before ++ CloseCall.inTurn ends before resources) := by
  induction resources generalizing before with
  | nil =>
      rw [CloseCall.inTurn, List.append_nil]
      rfl
  | cons resource rest ih =>
      rw [Teardown.run, CloseCall.make, CloseCall.inTurn]
      cases failed : (CloseCall.next ends before resource).failure with
      | none => simp [ih, failed]
      | some failure => simp [ih, failed, Except.map]

end Teardown

namespace Manager

variable {κ ω ρ ε : Type} [DecidableEq ρ]

abbrev Closed (κ ω ρ ε : Type) :=
  Teardown ρ Failure × Manager κ ω ρ ε × List (CloseCall ρ Failure)

/-- An open manager that held `table` was closed, for which the calls `own` were made, in this
order, after the calls `before`. -/
structure TornDown [DecidableEq κ] (manager : Manager κ ω ρ ε) (table : Table κ ρ) (ends : ρ → Nat → Option Failure)
    (before own : List (CloseCall ρ Failure)) (closed : Closed κ ω ρ ε) : Prop where
  record : closed.2.2 = before ++ own
  visited : closed.1.visited = own.map CloseCall.resource
  /-- A resource is closed once for each key that holds it, hence no other is closed. -/
  often : ∀ resource, CloseCall.count own resource =
    table.keys.countP (fun key => decide (table.find? key = some resource))
  /-- Each call ends as the resource does that was closed so often before. -/
  ends : ∀ past call rest, own = past ++ call :: rest →
    call.failure = ends call.resource (CloseCall.count (before ++ past) call.resource)
  succeeds : closed.1.outcome = .ok (.ok ()) ↔ ∀ call ∈ own, call.failure = none
  /-- The batch is that of the failures of the calls. -/
  fails : (∃ call ∈ own, call.failure ≠ none) →
    closed.1.outcome = .ok (.error ⟨own.filterMap CloseCall.failure⟩)
  /-- The manager is shut, its flight is left alone. -/
  shut : closed.2.1 = { manager with table := none }

/-- Two closes cannot be told apart but by the order of what they did. -/
structure Alike (one other : Closed κ ω ρ ε) : Prop where
  success : one.1.outcome = .ok (.ok ()) ↔ other.1.outcome = .ok (.ok ())
  failures : ∀ batch, one.1.outcome = .ok (.error batch) →
    ∃ again, other.1.outcome = .ok (.error again) ∧ batch.size = again.size ∧
      (batch.failures.map Failure.message).Perm (again.failures.map Failure.message)
  counts : ∀ resource, CloseCall.count one.2.2 resource = CloseCall.count other.2.2 resource

variable {manager : Manager κ ω ρ ε} {table other : Table κ ρ}

private theorem close_make (held : manager.table = some table) (ends : ρ → Nat → Option Failure)
    (before : List (CloseCall ρ Failure)) :
    manager.close (CloseCall.make ends) before =
      (⟨table.values,
          .ok ((CloseCall.inTurn ends before table.values).filterMap CloseCall.failure)⟩,
        { manager with table := none }, before ++ CloseCall.inTurn ends before table.values) := by
  rw [close, shut, held]
  simp only [Option.map_some, Option.getD_some, Teardown.run_make]

private theorem tornDown_close [DecidableEq κ] (held : manager.table = some table)
    (apart : table.keys.Nodup)
    (ends : ρ → Nat → Option Failure) (before : List (CloseCall ρ Failure)) :
    TornDown manager table ends before (CloseCall.inTurn ends before table.values)
      (manager.close (CloseCall.make ends) before) := by
  rw [close_make held]
  constructor
  case record => rfl
  case visited => rw [CloseCall.map_resource_inTurn]
  case often =>
    intro resource
    rw [CloseCall.count_inTurn, Table.count_values apart]
  case ends =>
    intro past call rest split
    exact congrArg CloseCall.failure (CloseCall.eq_next_of_inTurn split)
  case succeeds => exact Teardown.outcome_ok_iff
  case fails =>
    rintro ⟨call, member, failed⟩
    refine Teardown.outcome_error_iff.mpr ⟨fun none => failed ?_, rfl⟩
    exact List.filterMap_eq_nil_iff.mp none call member
  case shut => rfl

private theorem alike_close (held : manager.table = some table)
    (same : table.entries.Perm other.entries) (ends : ρ → Nat → Option Failure)
    (before : List (CloseCall ρ Failure)) :
    Alike (manager.close (CloseCall.make ends) before)
      ({ manager with table := some other }.close (CloseCall.make ends) before) := by
  have values : table.values.Perm other.values := same.map Prod.snd
  have calls : (CloseCall.inTurn ends before table.values).Perm
      (CloseCall.inTurn ends before other.values) := CloseCall.inTurn_perm values
  have failures := calls.filterMap CloseCall.failure
  rw [close_make held, close_make rfl]
  constructor
  case success =>
    rw [Teardown.outcome_ok_iff, Teardown.outcome_ok_iff]
    exact ⟨fun none call member => none call (calls.mem_iff.mpr member),
      fun none call member => none call (calls.mem_iff.mp member)⟩
  case failures =>
    intro batch failed
    obtain ⟨some, rfl⟩ := Teardown.outcome_error_iff.mp failed
    have others : (CloseCall.inTurn ends before other.values).filterMap CloseCall.failure ≠ [] := by
      rintro none
      exact some (failures.trans (none ▸ .refl _)).eq_nil
    exact ⟨_, Teardown.outcome_error_iff.mpr ⟨others, rfl⟩, failures.length_eq,
      failures.map Failure.message⟩
  case counts =>
    intro resource
    simp only [CloseCall.count_append, CloseCall.count_inTurn]
    rw [values.count_eq resource]

/-- A close is complete, and it comes to the same in whatever order the table is gone
through. -/
theorem close_complete [DecidableEq κ] (held : manager.table = some table) (apart : table.keys.Nodup)
    (ends : ρ → Nat → Option Failure) (before : List (CloseCall ρ Failure)) :
    (∃ own, TornDown manager table ends before own
      (manager.close (CloseCall.make ends) before)) ∧
    ∀ other : Table κ ρ, table.entries.Perm other.entries →
      Alike (manager.close (CloseCall.make ends) before)
        ({ manager with table := some other }.close (CloseCall.make ends) before) :=
  ⟨⟨_, tornDown_close held apart ends before⟩,
    fun _ same => alike_close held same ends before⟩

/-- One resource is held under two keys. -/
def sharedTable : Table Nat Bool :=
  ⟨[(1, true), (2, false), (3, true)]⟩

def sharedManager : Manager Nat Unit Bool Nat :=
  { table := some sharedTable }

def closesOnce (_ : Bool) (closes : Nat) : Option Failure :=
  if closes = 0 then none else some (.text "closed again")

theorem sharedManager_complete : sharedTable.keys.Nodup ∧
    (∃ own, TornDown sharedManager sharedTable closesOnce [] own
      (sharedManager.close (CloseCall.make closesOnce) [])) ∧
    ∀ other : Table Nat Bool, sharedTable.entries.Perm other.entries →
      Alike (sharedManager.close (CloseCall.make closesOnce) [])
        ({ sharedManager with table := some other }.close (CloseCall.make closesOnce) []) := by
  have apart : sharedTable.keys.Nodup := by decide
  exact ⟨apart, close_complete rfl apart closesOnce []⟩

-- The second close of the shared resource fails, which does not keep the others from it.
example : (sharedManager.close (CloseCall.make closesOnce) []).2.2.map
    (fun call => (call.resource, call.failure.isSome)) =
      [(true, false), (false, false), (true, true)] := by decide

end Manager

end Cohort
