import Cohort.Proofs.Manager.Latecomers

/-!
# Holding

Whoever asks for a key that is held gets a resource that is held under the key while it
waits. It may have to wait though: a creation for the key may be under way that had begun
when the key was missing yet. Then it gets what this creation comes to, be it a failure.
-/

set_option autoImplicit false

namespace Cohort

namespace Flight.Traffic

variable {κ ω ρ : Type} {traffic next : Traffic κ ω ρ} {number : Nat} {key : κ} {result : ρ}
  {fresh : Bool}

/-- A caller that has returned is left alone. -/
private theorem Change.returned [DecidableEq κ] (change : traffic.Change next)
    (found : traffic.callers[number]? = some ⟨key, .returned result fresh⟩) :
    next.callers[number]? = some ⟨key, .returned result fresh⟩ := by
  have apart : ∀ {one : Nat} {other : κ} {before phase : Phase ρ} {flight : Flight κ ω ρ}
      {events : List (Event κ ρ)}, traffic.callers[one]? = some ⟨other, before⟩ →
      before ≠ .returned result fresh →
      (traffic.advance one other phase flight events).callers[number]? =
        some ⟨key, .returned result fresh⟩ := by
    intro one other before phase flight events there unreturned
    have different : one ≠ number := by
      rintro rfl
      cases there.symm.trans found
      exact unreturned rfl
    exact (List.getElem?_set_ne different).trans found
  cases change with
  | stay => exact found
  | call =>
      exact (List.getElem?_append_left (List.getElem?_eq_some_iff.mp found).1).trans found
  | lead there seeks _ | join there seeks _ _ =>
      refine apart there ?_
      rintro rfl
      exact seeks
  | wait there _ | share there _ | finish there | abandon there => exact apart there (by simp)
  | depart there kind _ =>
      refine apart there ?_
      rintro rfl
      simp at kind

end Flight.Traffic

namespace Manager

variable {κ ω ρ ε : Type} [DecidableEq κ] {key : κ}

private theorem closed_of_answers_error {manager : Manager κ ω ρ ε} {error : ManagerError ε}
    (answers : manager.Answers key (.error error)) : manager.table = none := by
  cases opened : manager.table with
  | none => rfl
  | some table =>
      rw [Answers, lookup, opened] at answers
      cases answers

namespace Dealings

variable {dealings next : Dealings κ ω ρ ε} {move : Move κ ω ρ ε}
  {before after : List (Move κ ω ρ ε)} {number : Nat}

/-! ## When a caller returns -/

private theorem Change.returned {result : Except (ManagerError ε) ρ} {fresh : Bool}
    (change : dealings.Change move next)
    (found : dealings.callers[number]? = some ⟨key, .returned result fresh⟩) :
    next.callers[number]? = some ⟨key, .returned result fresh⟩ := by
  have all : ∀ traffic, Relation.ReflTransGen Flight.Traffic.Change dealings.traffic traffic →
      traffic.callers[number]? = some ⟨key, .returned result fresh⟩ := by
    intro traffic changes
    induction changes with
    | refl => exact found
    | tail _ last ih => exact last.returned ih
  exact all next.traffic change.traffic

def Resolved (dealings : Dealings κ ω ρ ε) (number : Nat) : Prop :=
  ∃ key result fresh, dealings.callers[number]? = some ⟨key, .returned result fresh⟩

omit [DecidableEq κ] in
private theorem Unpolled.not_resolved (unpolled : dealings.Unpolled number) :
    ¬ dealings.Resolved number := by
  rintro ⟨key, result, fresh, found⟩
  cases unpolled _ found

theorem returned_run {result : Except (ManagerError ε) ρ} {fresh : Bool}
    (found : (run before).callers[number]? = some ⟨key, .returned result fresh⟩)
    (after : List (Move κ ω ρ ε)) :
    (run (before ++ after)).callers[number]? = some ⟨key, .returned result fresh⟩ :=
  stays_run (fun dealings => dealings.callers[number]? = some ⟨key, .returned result fresh⟩)
    Change.returned found after

private theorem Resolved.append (resolved : (run before).Resolved number)
    (after : List (Move κ ω ρ ε)) :
    (run (before ++ after)).Resolved number := by
  obtain ⟨key, result, fresh, found⟩ := resolved
  exact ⟨key, result, fresh, returned_run found after⟩

private theorem exists_resolution {result : Except (ManagerError ε) ρ} {fresh : Bool}
    (unresolved : ¬ (run before).Resolved number)
    (found : (run (before ++ after)).callers[number]? = some ⟨key, .returned result fresh⟩) :
    ∃ since move rest, after = since ++ move :: rest ∧ ¬ (run (before ++ since)).Resolved number ∧
      (run (before ++ (since ++ [move]))).callers[number]? =
        some ⟨key, .returned result fresh⟩ := by
  induction after using List.reverseRecOn with
  | nil =>
      rw [List.append_nil] at found
      exact absurd ⟨key, result, fresh, found⟩ unresolved
  | append_singleton after move ih =>
      by_cases earlier : (run (before ++ after)).Resolved number
      · obtain ⟨key', result', fresh', found'⟩ := earlier
        have same := returned_run found' [move]
        rw [List.append_assoc, found] at same
        cases same
        obtain ⟨since, move', rest, rfl, unresolved', then_⟩ := ih found'
        exact ⟨since, move', rest ++ [move], by simp, unresolved', then_⟩
      · exact ⟨after, move, [], rfl, earlier, found⟩

/-- What is found is found before the caller returns. -/
theorem answers_unresolved {result : Except (ManagerError ε) ρ} {fresh : Bool}
    (unpolled : (run before).Unpolled number) (present : ¬ (run before).manager.Lacks key)
    (found : (run (before ++ after)).callers[number]? = some ⟨key, .returned result fresh⟩) :
    (∃ since move rest, after = since ++ move :: rest ∧ ¬ (run (before ++ since)).Resolved number ∧
        (run (before ++ since ++ [move])).manager.Answers key result) ∨
      ∃ cause, result = .error (.create cause) ∧ fresh = false ∧
        SharesFailure (run before).history (run (before ++ after)).history number key cause := by
  obtain ⟨moves, last, rest, rfl, unresolved, returned⟩ :=
    exists_resolution unpolled.not_resolved found
  rcases answers_or_fails unpolled present returned with
    ⟨since, move, more, split, answers⟩ | ⟨cause, same, shared, shares⟩
  · refine Or.inl ⟨since, move, more ++ rest, ?_, fun earlier => unresolved ?_, answers⟩
    · rw [← List.singleton_append, ← List.append_assoc, split]
      simp
    · obtain ⟨mid, rfl⟩ : since <+: moves := by
        refine List.prefix_of_prefix_length_le ⟨_, split.symm⟩ ⟨_, rfl⟩ ?_
        have lengths := congrArg List.length split
        simp only [List.length_append, List.length_cons, List.length_nil] at lengths
        omega
      rw [← List.append_assoc]
      exact earlier.append mid
  · have later := shares.append rest
    rw [List.append_assoc, List.append_assoc, List.singleton_append] at later
    exact Or.inr ⟨cause, same, shared, later⟩

/-! ## What is held -/

/-- Whoever is first polled when its key is held gets a resource that is held under the key
at some moment between this poll and its return, unless it has joined a creation that was
under way and fails. -/
theorem given_of_held {waker : ω} {resource : ρ} {result : Except (ManagerError ε) ρ} {fresh : Bool}
    (idle : (run before).callers[number]? = some ⟨key, .idle⟩)
    (held : (run before).manager.lookup key = .ok (some resource))
    (found : (run (before ++ .poll number waker :: after)).callers[number]? =
      some ⟨key, .returned result fresh⟩)
    (opened : (run (before ++ .poll number waker :: after)).manager.isClosed = false) :
    (∃ given since move rest, .poll number waker :: after = since ++ move :: rest ∧
        ¬ (run (before ++ since)).Resolved number ∧ result = .ok given ∧
        (run (before ++ since ++ [move])).manager.lookup key = .ok (some given)) ∨
      ∃ cause, result = .error (.create cause) ∧ fresh = false ∧
        SharesFailure (run before).history (run (before ++ .poll number waker :: after)).history
          number key cause := by
  have unpolled : (run before).Unpolled number := by
    intro caller same
    rw [idle] at same
    cases same
    rfl
  have present : ¬ (run before).manager.Lacks key := by
    intro lacks
    rw [Lacks, held] at lacks
    cases lacks
  rcases answers_unresolved unpolled present found with
    ⟨since, move, rest, split, unresolved, answers⟩ | fails
  · cases result with
    | ok given => exact Or.inl ⟨given, since, move, rest, split, unresolved, rfl, answers⟩
    | error error =>
        -- Only a manager that was shut answers so, and then it would be shut still.
        have shut := closed_run (closed_of_answers_error answers) rest
        rw [List.append_assoc, List.append_assoc, List.singleton_append, ← split] at shut
        rw [isClosed, shut] at opened
        cases opened
  · exact Or.inr fails

/-- A creation is under way when its key is injected and somebody else asks for it. -/
def contestedMoves : List (Move Nat Unit Bool Nat) :=
  [.get 7, .poll 0 (), .inject 7 true, .get 7]

theorem given_contestedMoves :
    (run contestedMoves).callers[1]? = some ⟨7, .idle⟩ ∧
      (run contestedMoves).manager.lookup 7 = .ok (some true) ∧
      (run (contestedMoves ++ .poll 1 () :: [.create 0 (.ok false), .poll 1 ()])).callers[1]? =
        some ⟨7, .returned (.ok false) false⟩ ∧
      ∃ since move rest, .poll 1 () :: [.create 0 (.ok false), .poll 1 ()] = since ++ move :: rest ∧
        ¬ (run (contestedMoves ++ since)).Resolved 1 ∧
        (run (contestedMoves ++ since ++ [move])).manager.lookup 7 = .ok (some false) := by
  have idle : (run contestedMoves).callers[1]? = some ⟨7, .idle⟩ := by decide
  have held : (run contestedMoves).manager.lookup 7 = .ok (some true) := by rfl
  have found : (run (contestedMoves ++ .poll 1 () ::
      [.create 0 (.ok false), .poll 1 ()])).callers[1]? =
        some ⟨7, .returned (.ok false) false⟩ := by decide
  refine ⟨idle, held, found, ?_⟩
  rcases given_of_held idle held found (by rfl) with
    ⟨given, since, move, rest, split, unresolved, same, there⟩ | ⟨cause, same, _⟩
  · cases same
    exact ⟨since, move, rest, split, unresolved, there⟩
  · cases same

/-- The exception is real: not all who find their key held get a resource. -/
theorem contestedMoves_fail : ¬ ∀ (before after : List (Move Nat Unit Bool Nat)) (number key : Nat)
    (resource : Bool) (result : Except (ManagerError Nat) Bool) (fresh : Bool),
    (run before).callers[number]? = some ⟨key, .idle⟩ →
    (run before).manager.lookup key = .ok (some resource) →
    (run (before ++ .poll number () :: after)).callers[number]? =
      some ⟨key, .returned result fresh⟩ →
    (run (before ++ .poll number () :: after)).manager.isClosed = false →
    ∃ given, result = .ok given := by
  intro always
  have found : (run (contestedMoves ++ .poll 1 () ::
      [.create 0 (.error 3), .poll 1 ()])).callers[1]? =
        some ⟨7, .returned (.error (.create 3)) false⟩ := by decide
  obtain ⟨given, same⟩ := always contestedMoves _ 1 7 true _ _ (by decide) (by rfl) found (by rfl)
  cases same

end Dealings

end Manager

end Cohort
