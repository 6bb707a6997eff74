import Cohort.Proofs.Manager.Installations
import Cohort.Proofs.Manager.Latecomers

/-!
# Closing

A manager that was shut stays shut. All that it held has left it before any of it is closed,
so it does not matter how that goes. No creation begins any more, and what a creation under
way still makes goes to nobody. Whoever comes late learns that the manager is closed, with
one exception: it may join a creation that had begun in time, and then shares its failure.
-/

set_option autoImplicit false

namespace Cohort

namespace Manager

section Close

variable {κ ω ρ ε φ σ : Type} {manager : Manager κ ω ρ ε} {key : κ}

/-- Shuts the manager and closes all that it held. -/
def close (close : ρ → σ → Closing φ × σ) (manager : Manager κ ω ρ ε) (state : σ) :
    Teardown ρ φ × Manager κ ω ρ ε × σ :=
  let (held, manager) := manager.shut
  let (teardown, state) := Teardown.run close (held.getD []) state
  (teardown, manager, state)

theorem close_of_closed (closed : manager.table = none) (close : ρ → σ → Closing φ × σ)
    (state : σ) : manager.close close state = (⟨[], .ok []⟩, manager, state) := by
  obtain ⟨table, flight⟩ := manager
  cases closed
  rfl

variable [DecidableEq κ]

private theorem inject_of_closed (closed : manager.table = none) (key : κ) (resource : ρ) :
    manager.inject key resource = .error .closed := by
  rw [inject, closed]

private theorem contains_of_closed (closed : manager.table = none) (key : κ) :
    manager.contains key = false := by
  rw [contains, closed]

private theorem not_lacks_of_closed (closed : manager.table = none) (key : κ) :
    ¬ manager.Lacks key := by
  simp [Lacks, lookup, closed]

private theorem eq_closed_of_answers {result : Except (ManagerError ε) ρ}
    (closed : manager.table = none)
    (answers : manager.Answers key result) : result = .error .closed := by
  rw [Answers, lookup, closed] at answers
  cases result with
  | error error =>
      cases answers
      rfl
  | ok resource => cases answers

end Close

namespace Dealings

variable {κ ω ρ ε : Type} [DecidableEq κ] {before : List (Move κ ω ρ ε)} {number call : Nat}
  {key : κ}

/-! ## A manager stays shut -/

private theorem closed_shut (before : List (Move κ ω ρ ε)) :
    (run (before ++ [.shut])).manager.table = none := by
  rw [run_append_singleton]
  rfl

/-- Nothing is taken out of a manager that is shut already. -/
private theorem not_empties_since (closed : (run before).manager.table = none)
    {after : List (Move κ ω ρ ε)} {later : List (Event κ ρ ε)}
    (grown : (run (before ++ after)).history = (run before).history ++ later) :
    ∀ event ∈ later, event.empties = false := by
  have fit := (recounted_run (before ++ after)).fit
  rw [grown, allFit_append] at fit
  have shut : replay (run before).history = none := (recounted_run before).table.symm.trans closed
  rw [replay] at shut
  rw [shut] at fit
  exact not_empties_of_allFit_none fit.2

/-- A creation that ends well once the manager is shut comes to nothing. -/
theorem finished_closed (closed : (run before).manager.table = none)
    {after : List (Move κ ω ρ ε)} {resource : ρ}
    (absent : .created number key call (.ok resource) ∉ (run before).history)
    (created : .created number key call (.ok resource) ∈ (run (before ++ after)).history) :
    .flight (.finished number key call (.error .closed)) ∈ (run (before ++ after)).history := by
  obtain ⟨since, move, rest, rfl, earlier, then_⟩ := exists_move_since absent created
  obtain ⟨_, finished⟩ := (change_run (before ++ since) move).of_created earlier then_
  rw [install_of_closed (closed_run closed since)] at finished
  have later := mem_history_append finished rest
  simpa using later

/-- Whoever was not polled before the manager was shut learns that it is closed, or shares the
failure of a creation that had begun in time. -/
theorem closed_or_fails (closed : (run before).manager.table = none)
    (unpolled : (run before).Unpolled number) {after : List (Move κ ω ρ ε)}
    {result : Except (ManagerError ε) ρ} {fresh : Bool}
    (found : (run (before ++ after)).callers[number]? = some ⟨key, .returned result fresh⟩) :
    result = .error .closed ∨
      ∃ cause, result = .error (.create cause) ∧ fresh = false ∧
        SharesFailure (run before).history (run (before ++ after)).history number key cause := by
  rcases answers_or_fails unpolled (not_lacks_of_closed closed key) found with
    ⟨since, move, rest, _, answers⟩ | fails
  · rw [List.append_assoc] at answers
    exact Or.inl (eq_closed_of_answers (closed_run closed (since ++ [move])) answers)
  · exact Or.inr fails

/-! ## After the close -/

/-- A manager was shut, which has taken it from `before` to `past`, and moves that were made
since have brought it to `final`. -/
structure Terminal (before past final : Dealings κ ω ρ ε) : Prop where
  /-- The close leaves the manager shut whatever becomes of the resources that it held. -/
  shut : ∀ (φ σ : Type) (close : ρ → σ → Closing φ × σ) (state : σ),
    (before.manager.close close state).2.1 = past.manager
  closed : final.manager.isClosed = true
  size : final.manager.size = 0
  contains : ∀ key, final.manager.contains key = false
  /-- An injection is refused, and all it leaves behind is the record of that. -/
  refuses : ∀ key resource, final.manager.inject key resource = .error .closed ∧
    (final.step (.inject key resource)).2 =
      final.note final.manager (.injected key resource (.error .closed))
  /-- To close the manager again closes nothing, succeeds and leaves it as it is. -/
  again : ∀ (φ σ : Type) (close : ρ → σ → Closing φ × σ) (state : σ),
    final.manager.close close state = (⟨[], .ok []⟩, final.manager, state)
  /-- Nothing is taken out to be closed any more. -/
  spared : ∃ later, final.history = past.history ++ later ∧
    ∀ event ∈ later, event.empties = false
  /-- No creation begins any more, whoever would create. -/
  idle : ∀ number key call, .creating number key call ∈ final.history →
    .creating number key call ∈ past.history
  /-- Whoever was not polled before creates nothing and gets no resource. -/
  late : ∀ number, past.Unpolled number →
    (∀ key call, .creating number key call ∉ final.history) ∧
      ∀ key resource fresh,
        final.callers[number]? ≠ some ⟨key, .returned (.ok resource) fresh⟩
  /-- Who makes a resource after the close, and all who have joined it, get the error. -/
  vain : ∀ number key call resource,
    .created number key call (.ok resource) ∉ past.history →
    .created number key call (.ok resource) ∈ final.history →
    final.callers[number]? = some ⟨key, .returned (.error .closed) true⟩ ∧
      ∀ other, .flight (.joined other key call) ∈ final.history →
        final.Receives other key call (.error .closed)

theorem terminal_run (before after : List (Move κ ω ρ ε)) :
    Terminal (run before) (run (before ++ [.shut])) (run (before ++ [.shut] ++ after)) := by
  have shut := closed_shut before
  have closed := closed_run shut after
  have idle : ∀ number key call,
      .creating number key call ∈ (run (before ++ [.shut] ++ after)).history →
        .creating number key call ∈ (run (before ++ [.shut])).history :=
    fun number key call => mem_history_of_creating (not_lacks_of_closed shut key)
  constructor
  case shut =>
    intro φ σ close state
    rw [run_append_singleton]
    rfl
  case closed => rw [isClosed, closed, Option.isNone_none]
  case size => rw [size, closed]
  case contains => exact contains_of_closed closed
  case refuses =>
    intro key resource
    have refused := inject_of_closed closed key resource
    refine ⟨refused, ?_⟩
    simp only [step, refused]
  case again =>
    intro φ σ close state
    exact close_of_closed closed close state
  case spared =>
    obtain ⟨later, grown⟩ := exists_later (before ++ [.shut]) after
    exact ⟨later, grown, not_empties_since shut grown⟩
  case idle => exact idle
  case late =>
    intro number unpolled
    refine ⟨fun key call creating => ?_, fun key resource fresh found => ?_⟩
    · -- Whoever creates was polled before it began to.
      have started := (booked_run _).started number key call (idle number key call creating)
      have own := Flight.mem_own.mpr ⟨mem_history_traffic.mpr started, rfl⟩
      rw [Flight.Event.caller, unpolled.own_eq_nil] at own
      cases own
    · rcases closed_or_fails shut unpolled found with same | ⟨cause, same, _⟩
      · cases same
      · cases same
  case vain =>
    intro number key call resource absent created
    have finished := finished_closed shut absent created
    refine ⟨?_, fun other joined => receives_of_joined joined finished⟩
    exact (ordered_run _).storied.returned_of_finished (mem_history_traffic.mpr finished)

-- The creator and the caller that has joined it learn that the manager was shut meanwhile.
example : (run [.get 7, .get 7, .poll 0 (), .poll 1 (), .shut, .create 0 (.ok true), .poll 1 ()] :
    Dealings Nat Unit Bool Nat).callers =
      [⟨7, .returned (.error .closed) true⟩, ⟨7, .returned (.error .closed) false⟩] := by decide

/-! ## Who comes late -/

theorem resolved_after_shut {after : List (Move κ ω ρ ε)} {result : Except (ManagerError ε) ρ}
    {fresh : Bool} (unpolled : (run (before ++ [.shut])).Unpolled number)
    (found : (run (before ++ [.shut] ++ after)).callers[number]? =
      some ⟨key, .returned result fresh⟩) :
    result = .error .closed ∨
      ∃ cause, result = .error (.create cause) ∧ fresh = false ∧
        SharesFailure (run (before ++ [.shut])).history (run (before ++ [.shut] ++ after)).history
          number key cause :=
  closed_or_fails (closed_shut before) unpolled found

/-- A creation is under way. -/
def earlyMoves : List (Move Nat Unit Bool Nat) :=
  [.get 7, .poll 0 ()]

/-- Somebody else asks for the key and joins the creation, which then fails. -/
def lateMoves : List (Move Nat Unit Bool Nat) :=
  [.get 7, .poll 1 (), .create 0 (.error 3), .poll 1 ()]

private theorem unpolled_earlyMoves : (run (earlyMoves ++ [.shut])).Unpolled 1 := by
  intro caller found
  have absent : (run (earlyMoves ++ [.shut])).callers[1]? = none := by decide
  rw [absent] at found
  cases found

private theorem callers_lateMoves : (run (earlyMoves ++ [.shut] ++ lateMoves)).callers[1]? =
    some ⟨7, .returned (.error (.create 3)) false⟩ := by decide

theorem lateMoves_resolved : (run (earlyMoves ++ [.shut])).Unpolled 1 ∧
    (run (earlyMoves ++ [.shut] ++ lateMoves)).callers[1]? =
      some ⟨7, .returned (.error (.create 3)) false⟩ ∧
    SharesFailure (run (earlyMoves ++ [.shut])).history
      (run (earlyMoves ++ [.shut] ++ lateMoves)).history 1 7 3 := by
  refine ⟨unpolled_earlyMoves, callers_lateMoves, ?_⟩
  rcases resolved_after_shut unpolled_earlyMoves callers_lateMoves with
    same | ⟨cause, same, _, shares⟩
  · cases same
  · cases same
    exact shares

/-- The exception is real: not all who come late learn that the manager is closed. -/
theorem lateMoves_fail : ¬ ∀ (before after : List (Move Nat Unit Bool Nat)) (number key : Nat)
    (result : Except (ManagerError Nat) Bool) (fresh : Bool),
    (run (before ++ [.shut])).Unpolled number →
    (run (before ++ [.shut] ++ after)).callers[number]? = some ⟨key, .returned result fresh⟩ →
    result = .error .closed := by
  intro always
  cases always earlyMoves lateMoves 1 7 _ _ unpolled_earlyMoves callers_lateMoves

end Dealings

end Manager

end Cohort
