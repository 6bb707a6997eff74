import Mathlib.Data.List.Induction
import Cohort.Failure

/-!
# Batches within batches

A batch is told by its failures on lines of their own. Failures that are batches again are told
the same way, so the text lists what stands at the ends of the tree, from left to right, and how
it was grouped does not show. Only a batch of none shows: within another it is an empty line.
-/

set_option autoImplicit false

namespace Cohort

namespace Failure

variable {failure : Failure}

def isBatch : Failure → Bool
  | .batch _ => true
  | _ => false

mutual

/-- The failures in it that are no batches, from left to right. -/
def leaves : Failure → List Failure
  | .batch failures => leavesOf failures
  | failure => [failure]

def leavesOf : List Failure → List Failure
  | [] => []
  | failure :: rest => failure.leaves ++ leavesOf rest

end

mutual

/-- The texts of its leaves, with an empty one in the place of each batch of none. -/
def pieces : Failure → List String
  | .batch [] => [""]
  | .batch (failure :: rest) => failure.pieces ++ piecesOf rest
  | failure => [failure.message]

def piecesOf : List Failure → List String
  | [] => []
  | failure :: rest => failure.pieces ++ piecesOf rest

end

mutual

/-- It holds no batch of none, and is none itself. -/
def isFilled : Failure → Bool
  | .batch failures => !failures.isEmpty && areFilled failures
  | _ => true

def areFilled : List Failure → Bool
  | [] => true
  | failure :: rest => failure.isFilled && areFilled rest

end

/-! ## Trees of batches -/

/-- Whatever holds of failures that are no batches, and of a batch if it holds of all its
failures, holds of every failure. -/
@[elab_as_elim]
theorem byBatches {motive : Failure → Prop}
    (leaf : ∀ failure : Failure, failure.isBatch = false → motive failure)
    (batch : ∀ failures, (∀ failure ∈ failures, motive failure) → motive (.batch failures))
    (failure : Failure) : motive failure := by
  match failure with
  | .batch failures => exact batch failures fun failure _ => byBatches leaf batch failure
  | .text _ | .io _ | .dial _ | .limit _ | .manager _ | .load _ => exact leaf _ rfl
termination_by failure

private theorem messages_eq_map (failures : List Failure) :
    messages failures = failures.map message := by
  induction failures with
  | nil => rfl
  | cons failure rest ih => rw [messages, ih, List.map_cons]

private theorem leavesOf_eq_flatMap (failures : List Failure) :
    leavesOf failures = failures.flatMap leaves := by
  induction failures with
  | nil => rfl
  | cons failure rest ih => rw [leavesOf, ih, List.flatMap_cons]

private theorem piecesOf_eq_flatMap (failures : List Failure) :
    piecesOf failures = failures.flatMap pieces := by
  induction failures with
  | nil => rfl
  | cons failure rest ih => rw [piecesOf, ih, List.flatMap_cons]

private theorem areFilled_eq_all (failures : List Failure) :
    areFilled failures = failures.all isFilled := by
  induction failures with
  | nil => rfl
  | cons failure rest ih => rw [areFilled, ih, List.all_cons]

private theorem message_batch (failures : List Failure) :
    (batch failures).message = "\n".intercalate (failures.map message) := by
  rw [message, messages_eq_map]

private theorem leaves_of_not_batch (leaf : failure.isBatch = false) :
    failure.leaves = [failure] := by
  cases failure with
  | batch _ => cases leaf
  | text _ | io _ | dial _ | limit _ | manager _ | load _ => rfl

private theorem pieces_of_not_batch (leaf : failure.isBatch = false) :
    failure.pieces = [failure.message] := by
  cases failure with
  | batch _ => cases leaf
  | text _ | io _ | dial _ | limit _ | manager _ | load _ => rfl

private theorem pieces_batch_of_ne_nil {failures : List Failure} (nonempty : failures ≠ []) :
    (batch failures).pieces = failures.flatMap pieces := by
  cases failures with
  | nil => exact absurd rfl nonempty
  | cons failure rest => rw [pieces, piecesOf_eq_flatMap, List.flatMap_cons]

/-! ## The text of a batch -/

private theorem flatMap_ne_nil {failures : List Failure} (nonempty : failures ≠ [])
    (each : ∀ failure ∈ failures, failure.pieces ≠ []) : failures.flatMap pieces ≠ [] := by
  obtain ⟨failure, rest, rfl⟩ := List.exists_cons_of_ne_nil nonempty
  rw [List.flatMap_cons]
  exact List.append_ne_nil_of_left_ne_nil (each failure List.mem_cons_self) _

private theorem pieces_ne_nil (failure : Failure) : failure.pieces ≠ [] := by
  induction failure using byBatches with
  | leaf failure leaf => simp [pieces_of_not_batch leaf]
  | batch failures ih =>
      by_cases hollow : failures = []
      · simp [hollow, pieces]
      · rw [pieces_batch_of_ne_nil hollow]
        exact flatMap_ne_nil hollow ih

/-- Texts that are joined may be taken apart again before all are joined. -/
theorem intercalate_flatMap_pieces {failures : List Failure}
    (each : ∀ failure ∈ failures, "\n".intercalate failure.pieces = failure.message) :
    "\n".intercalate (failures.flatMap pieces) = "\n".intercalate (failures.map message) := by
  induction failures with
  | nil => rfl
  | cons failure rest ih =>
      obtain ⟨first, others⟩ := List.forall_mem_cons.mp each
      by_cases last : rest = []
      · simp [last, first]
      · have further : rest.flatMap pieces ≠ [] :=
          flatMap_ne_nil last fun failure _ => pieces_ne_nil failure
        rw [List.flatMap_cons, List.map_cons,
          String.intercalate_append_of_ne_nil (pieces_ne_nil failure) further, first, ih others,
          String.intercalate_cons_of_ne_nil (fun none => last (List.map_eq_nil_iff.mp none))]

private theorem intercalate_pieces (failure : Failure) :
    "\n".intercalate failure.pieces = failure.message := by
  induction failure using byBatches with
  | leaf failure leaf => rw [pieces_of_not_batch leaf, String.intercalate_singleton]
  | batch failures ih =>
      by_cases hollow : failures = []
      · simp [hollow, pieces, message_batch]
      · rw [pieces_batch_of_ne_nil hollow, message_batch]
        exact intercalate_flatMap_pieces ih

private theorem flatMap_pieces_of_filled {failures : List Failure}
    (each : ∀ failure ∈ failures, failure.pieces = failure.leaves.map message) :
    failures.flatMap pieces = (failures.flatMap leaves).map message := by
  rw [List.map_flatMap, List.flatMap_def, List.flatMap_def, List.map_congr_left each]

private theorem pieces_of_filled (filled : failure.isFilled = true) :
    failure.pieces = failure.leaves.map message := by
  induction failure using byBatches with
  | leaf failure leaf => rw [pieces_of_not_batch leaf, leaves_of_not_batch leaf]; rfl
  | batch failures ih =>
      rw [isFilled, Bool.and_eq_true, areFilled_eq_all, List.all_eq_true] at filled
      obtain ⟨nonempty, filled⟩ := filled
      have nonempty : failures ≠ [] := by simpa using nonempty
      rw [pieces_batch_of_ne_nil nonempty, leaves, leavesOf_eq_flatMap]
      exact flatMap_pieces_of_filled fun failure member => ih failure member (filled failure member)

end Failure

/-! ## Batches as they are gathered -/

/-- What is put into a batch at one time. -/
inductive Addition where
  | one (failure : Failure)
  | many (failures : List Failure)

def Addition.failures : Addition → List Failure
  | .one failure => [failure]
  | .many failures => failures

namespace Batch

def put (batch : Batch) : Addition → Batch
  | .one failure => batch.add failure
  | .many failures => batch.extend failures

/-- Begins with an empty batch and puts in one addition after the other. -/
def gather (additions : List Addition) : Batch :=
  additions.foldl put {}

private theorem failures_put (batch : Batch) (addition : Addition) :
    (batch.put addition).failures = batch.failures ++ addition.failures := by
  cases addition <;> rfl

private theorem failures_gather (additions : List Addition) :
    (gather additions).failures = additions.flatMap Addition.failures := by
  induction additions using List.reverseRecOn with
  | nil => rfl
  | append_singleton additions addition ih =>
      have last : gather (additions ++ [addition]) = (gather additions).put addition := by
        simp [gather]
      rw [last, failures_put, ih, List.flatMap_append, List.flatMap_singleton]

private theorem message_eq_intercalate (batch : Batch) :
    batch.message = "\n".intercalate (batch.failures.flatMap Failure.pieces) := by
  rw [message, Failure.message_batch]
  exact (Failure.intercalate_flatMap_pieces fun failure _ => failure.intercalate_pieces).symm

private theorem message_of_filled {batch : Batch}
    (filled : batch.failures.all Failure.isFilled = true) :
    batch.message =
      "\n".intercalate ((batch.failures.flatMap Failure.leaves).map Failure.message) := by
  have each := List.all_eq_true.mp filled
  rw [message_eq_intercalate, Failure.flatMap_pieces_of_filled fun failure member =>
    Failure.pieces_of_filled (each failure member)]

private theorem message_extend {batch : Batch} {failures : List Failure}
    (before : batch.failures ≠ []) (after : failures ≠ []) :
    (batch.extend failures).message = batch.message ++ "\n" ++ (Batch.mk failures).message := by
  simp only [message, Failure.message_batch, extend, List.map_append]
  refine String.intercalate_append_of_ne_nil ?_ ?_
  · exact fun none => before (List.map_eq_nil_iff.mp none)
  · exact fun none => after (List.map_eq_nil_iff.mp none)

/-- How the text of a batch comes of `failures`, which are batches themselves or not. -/
structure Flattens (batch : Batch) (failures : List Failure) : Prop where
  /-- It is the texts of all leaves on lines of their own, with an empty one for each batch of
  none among them. -/
  pieces : batch.message = "\n".intercalate (failures.flatMap Failure.pieces)
  leaves : failures.all Failure.isFilled = true →
    batch.message = "\n".intercalate ((failures.flatMap Failure.leaves).map Failure.message)
  /-- It does not matter how leaves of the same texts are grouped. -/
  regroups : ∀ other : Batch, failures.all Failure.isFilled = true →
    other.failures.all Failure.isFilled = true →
    (failures.flatMap Failure.leaves).map Failure.message =
      (other.failures.flatMap Failure.leaves).map Failure.message →
    batch.message = other.message
  joins : ∀ more, failures ≠ [] → more ≠ [] →
    (batch.extend more).message = batch.message ++ "\n" ++ (Batch.mk more).message

/-- A batch reads as if everything in it had been put into it one by one. -/
theorem flattens_gather (additions : List Addition) :
    (gather additions).Flattens (additions.flatMap Addition.failures) := by
  rw [← failures_gather additions]
  constructor
  case pieces => exact message_eq_intercalate _
  case leaves => exact message_of_filled
  case regroups =>
    intro other filled filled' same
    rw [message_of_filled filled, message_of_filled filled', same]
  case joins =>
    intro more before after
    exact message_extend before after

example : (gather [.one (.text "a"), .many [.batch [.text "b", .batch []], .io "c"]]).message =
    "a\nb\n\nc" := by decide

end Batch

end Cohort
