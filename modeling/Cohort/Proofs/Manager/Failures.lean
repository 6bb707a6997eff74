import Cohort.Proofs.Manager.Holding
import Cohort.Proofs.Manager.Installations
import Cohort.Proofs.Manager.Isolation

/-!
# Failures

An execution that comes to nothing, for whatever reason, leaves nothing behind. Its leader has
not touched the table, which is what the others have made of it. Its call is gone from the
registry, all who had joined it share the error if there is one, and whoever asks for the key
next looks it up anew.
-/

set_option autoImplicit false

namespace Cohort

namespace Flight.Traffic

variable {κ ω ρ : Type} {traffic : Traffic κ ω ρ} {number call : Nat} {key : κ}

private theorem Storied.gone_of_abandoned (storied : traffic.Storied)
    (abandoned : .abandoned number key call ∈ traffic.history) :
    traffic.callers[number]? = some ⟨key, .gone⟩ := by
  obtain ⟨own_key, phase, found, life⟩ := storied.life_of_mem number abandoned rfl
  obtain ⟨ending, came, last, _⟩ := life.mem_ending (mem_own.mpr ⟨abandoned, rfl⟩) (by simp)
  cases came with
  | @abandoned one =>
      obtain ⟨rfl, _⟩ : key = own_key ∧ call = one := by simpa using last
      exact found
  | leads | fresh | idle | follows | shared | unpolled | left => simp at last

end Flight.Traffic

namespace Manager

variable {κ ω ρ ε : Type}

def Event.caller? : Event κ ρ ε → Option Nat
  | .flight event => some event.caller
  | .creating caller _ _ | .created caller _ _ _ => some caller
  | .injected _ _ _ | .shut _ => none

/-- The events that another has made happen. -/
def byOthers (number : Nat) (events : List (Event κ ρ ε)) : List (Event κ ρ ε) :=
  events.filter (fun event => decide (event.caller? ≠ some number))

variable [DecidableEq κ]

/-- Events that neither put anything into a table nor empty it leave it alone. -/
private theorem foldl_recount_idle {events : List (Event κ ρ ε)}
    (idle : ∀ event ∈ events, event.puts? = none ∧ event.empties = false)
    (table : Option (Table κ ρ)) : events.foldl Event.recount table = table := by
  induction events generalizing table with
  | nil => rfl
  | cons event rest ih =>
      obtain ⟨⟨puts, empties⟩, idle⟩ := List.forall_mem_cons.mp idle
      have same : event.recount table = table := by simp [Event.recount, puts, empties]
      rw [List.foldl_cons, same, ih idle]

namespace Dealings

variable {dealings next : Dealings κ ω ρ ε} {move : Move κ ω ρ ε}
  {before after moves : List (Move κ ω ρ ε)} {number call : Nat} {key : κ}

/-- The caller has led the call, which came to its end without a resource: the creation has
failed, the manager turned out to be closed, or the caller went away. -/
def LedInVain (history : List (Event κ ρ ε)) (number : Nat) (key : κ) (call : Nat) : Prop :=
  .flight (.started number key call) ∈ history ∧
    ((∃ error, .flight (.finished number key call (.error error)) ∈ history) ∨
      .flight (.abandoned number key call) ∈ history)

/-! ## The table -/

/-- The caller gets no resource for work of its own. -/
def Unrewarded (dealings : Dealings κ ω ρ ε) (number : Nat) : Prop :=
  ∀ key resource, dealings.callers[number]? ≠ some ⟨key, .returned (.ok resource) true⟩

private theorem unrewarded_of_vain (vain : LedInVain (run moves).history number key call) :
    (run moves).Unrewarded number := by
  have storied := (ordered_run moves).storied
  intro other resource found
  rcases vain.2 with ⟨error, finished⟩ | abandoned
  · have there := storied.returned_of_finished (mem_history_traffic.mpr finished)
    cases found.symm.trans there
  · have there := storied.gone_of_abandoned (mem_history_traffic.mpr abandoned)
    cases found.symm.trans there

private theorem Unrewarded.earlier (unrewarded : (run (before ++ after)).Unrewarded number) :
    (run before).Unrewarded number :=
  fun key resource found => unrewarded key resource (returned_run found after)

/-- Only a creation writes into the table, and then its creator gets what it has written. -/
private theorem Change.table_of_unrewarded (change : dealings.Change move next)
    (own : move.caller? = some number) (unrewarded : next.Unrewarded number) :
    next.manager.table = dealings.manager.table := by
  cases change with
  | quiet _ _ _ | answer _ _ _ _ | begin _ _ _ _ | refuse _ => rfl
  | inject _ | shut => cases own
  | @finish one other call outcome found =>
      obtain rfl : one = number := Option.some.inj own
      cases outcome with
      | error cause => rfl
      | ok resource =>
          cases opened : dealings.manager.table with
          | none => simp only [advance, install_of_closed opened, opened]
          | some table =>
              refine absurd ?_ (unrewarded other resource)
              rw [install_of_open opened]
              exact List.getElem?_set_self (List.getElem?_eq_some_iff.mp found).1

/-- Of a caller that gets nothing, a move leaves nothing in the table. -/
private theorem Change.table_byOthers (change : dealings.Change move next)
    (unrewarded : next.Unrewarded number) :
    ∃ events, next.history = dealings.history ++ events ∧
      next.manager.table = (byOthers number events).foldl Event.recount dealings.manager.table := by
  have idle : ∀ events : List (Event κ ρ ε),
      (∀ event ∈ events, event.puts? = none ∧ event.empties = false) →
      dealings.manager.table =
        (byOthers number events).foldl Event.recount dealings.manager.table :=
    fun events quiet => (foldl_recount_idle
      (fun event member => quiet event (List.mem_filter.mp member).1) _).symm
  cases id change with
  | @quiet _ traffic events _ _ _ =>
      refine ⟨events.map .flight, rfl, idle _ fun event member => ?_⟩
      obtain ⟨_, _, rfl⟩ := List.mem_map.mp member
      exact ⟨rfl, rfl⟩
  | answer _ _ _ _ | begin _ _ _ _ =>
      exact ⟨_, rfl, idle _ (by simp [Event.puts?, Event.empties])⟩
  | refuse _ => exact ⟨_, rfl, idle _ (by simp [Event.puts?, Event.empties])⟩
  | inject opened =>
      refine ⟨_, rfl, ?_⟩
      simp [note, byOthers, Event.caller?, Event.recount, Event.empties, Event.puts?, opened]
  | shut =>
      refine ⟨_, rfl, ?_⟩
      cases opened : dealings.manager.table with
      | none => simp [note, byOthers, Event.caller?, Event.recount, Event.empties, Event.puts?]
      | some table => simp [note, byOthers, Event.caller?, Event.recount, Event.empties]
  | @finish one other call outcome found =>
      refine ⟨_, rfl, ?_⟩
      by_cases own : one = number
      · subst own
        rw [change.table_of_unrewarded rfl unrewarded]
        simp [byOthers, Event.caller?, Flight.Event.caller]
      · cases outcome with
        | error cause =>
            simp [advance, byOthers, Event.caller?, Flight.Event.caller, own, Event.recount,
              Event.empties, Event.puts?, install_error]
        | ok resource =>
            simp [advance, byOthers, Event.caller?, Flight.Event.caller, own, Event.recount,
              Event.empties, Event.puts?, table_install]

private theorem table_byOthers_run (unrewarded : (run (before ++ after)).Unrewarded number) :
    ∃ later, (run (before ++ after)).history = (run before).history ++ later ∧
      (run (before ++ after)).manager.table =
        (byOthers number later).foldl Event.recount (run before).manager.table := by
  induction after using List.reverseRecOn with
  | nil =>
      rw [List.append_nil]
      exact ⟨[], (List.append_nil _).symm, rfl⟩
  | append_singleton after move ih =>
      rw [← List.append_assoc] at unrewarded ⊢
      obtain ⟨later, grown, table⟩ := ih unrewarded.earlier
      obtain ⟨events, grown', table'⟩ :=
        (change_run (before ++ after) move).table_byOthers unrewarded
      refine ⟨later ++ events, ?_, ?_⟩
      · rw [grown', grown, List.append_assoc]
      · rw [table', table, byOthers, byOthers, byOthers, List.filter_append, List.foldl_append]

/-! ## The registry -/

private theorem not_registered_of_vain (vain : LedInVain (run moves).history number key call)
    (other : κ) :
    (run moves).manager.flight.registry.find? other ≠ some call := by
  intro registered
  have ordered := ordered_run moves
  obtain ⟨leader, leads, _⟩ := ordered.manned.find?_iff_leads.mp registered
  obtain ⟨started, unfinished, unabandoned⟩ := ordered.storied.running_of_leads leads
  obtain ⟨rfl, rfl⟩ := ordered.storied.recorded.leader _ _ _ _ _ started
    (mem_history_traffic.mpr vain.1)
  rcases vain.2 with ⟨error, finished⟩ | abandoned
  · exact unfinished _ (mem_history_traffic.mpr finished)
  · exact unabandoned (mem_history_traffic.mpr abandoned)

private theorem LedInVain.append (vain : LedInVain (run before).history number key call)
    (after : List (Move κ ω ρ ε)) : LedInVain (run (before ++ after)).history number key call := by
  obtain ⟨started, ended⟩ := vain
  refine ⟨mem_history_append started after, ?_⟩
  rcases ended with ⟨error, finished⟩ | abandoned
  · exact Or.inl ⟨error, mem_history_append finished after⟩
  · exact Or.inr (mem_history_append abandoned after)

/-! ## Whoever asks next -/

private theorem step_poll_of_looking {phase : Flight.Phase (Except (ManagerError ε) ρ)}
    (found : dealings.callers[number]? = some ⟨key, phase⟩)
    (seeks : phase.Seeks dealings.manager.flight) (waker : ω) :
    dealings.step (.poll number waker) = dealings.ask number key waker := by
  cases phase with
  | idle => simp only [step, found]
  | follows call ticket =>
      simp only [step, found, Manager.poll, Flight.poll_of_settled seeks]
  | leads _ | returned _ _ | gone => exact absurd seeks id

/-- When it is polled, the caller looks its key up anew, and creates what is missing itself. -/
structure Retries (dealings : Dealings κ ω ρ ε) (number : Nat) (key : κ) (waker : ω) : Prop where
  creates : dealings.manager.Lacks key →
    ∃ call, (∀ one other, .creating one other call ∉ dealings.history) ∧
      .creating number key call ∈ (dealings.step (.poll number waker)).2.history ∧
      (dealings.step (.poll number waker)).2.callers[number]? = some ⟨key, .leads call⟩
  answers : ∀ result, dealings.manager.Answers key result →
    (dealings.step (.poll number waker)).2.callers[number]? = some ⟨key, .returned result true⟩

private theorem retries_of_free {phase : Flight.Phase (Except (ManagerError ε) ρ)}
    (found : (run moves).callers[number]? = some ⟨key, phase⟩)
    (seeks : phase.Seeks (run moves).manager.flight)
    (free : (run moves).manager.flight.registry.find? key = none) (waker : ω) :
    (run moves).Retries number key waker := by
  have there := (List.getElem?_eq_some_iff.mp found).1
  constructor
  case creates =>
    intro lacks
    refine ⟨(run moves).manager.flight.calls.size, fun one other creating => ?_, ?_, ?_⟩
    · exact Nat.lt_irrefl _ ((booked_run moves).call_lt_size (ordered_run moves) creating)
    · rw [step_poll_of_looking found seeks, ask, request_of_missing free lacks]
      exact List.mem_append_right _ (by simp)
    · rw [step_poll_of_looking found seeks, ask, request_of_missing free lacks]
      exact List.getElem?_set_self there
  case answers =>
    intro result answers
    rw [step_poll_of_looking found seeks, ask, request_of_answers free answers]
    exact List.getElem?_set_self there

/-! ## Nothing is left behind -/

/-- What is left of a call that the caller has led in vain after `before` and `after`. -/
structure Undone (before after : List (Move κ ω ρ ε)) (number : Nat) (key : κ) (call : Nat) :
    Prop where
  /-- At no moment of its life has the caller changed the table. -/
  unwritten : ∀ past move rest, before ++ after = past ++ move :: rest →
    move.caller? = some number →
    (run (past ++ [move])).manager.table = (run past).manager.table
  /-- Since any moment, the table has changed by what others have done. -/
  table : ∃ later, (run (before ++ after)).history = (run before).history ++ later ∧
    (run (before ++ after)).manager.table =
      (byOthers number later).foldl Event.recount (run before).manager.table
  /-- The call is gone from the registry for good. -/
  free : ∀ more other,
    (run (before ++ after ++ more)).manager.flight.registry.find? other ≠ some call
  shared : ∀ error, .flight (.finished number key call (.error error)) ∈
      (run (before ++ after)).history →
    ∀ other, .flight (.joined other key call) ∈ (run (before ++ after)).history →
      (run (before ++ after)).Receives other key call (.error error)
  /-- Whoever asks for the key while no call for it is in flight starts afresh. -/
  again : ∀ more other phase waker,
    (run (before ++ after ++ more)).callers[other]? = some ⟨key, phase⟩ →
    phase.Seeks (run (before ++ after ++ more)).manager.flight →
    (run (before ++ after ++ more)).manager.flight.registry.find? key = none →
    (run (before ++ after ++ more)).Retries other key waker

theorem undone_run (vain : LedInVain (run (before ++ after)).history number key call) :
    Undone before after number key call := by
  have unrewarded := unrewarded_of_vain vain
  constructor
  case unwritten =>
    intro past move rest split own
    rw [split, ← List.singleton_append, ← List.append_assoc] at unrewarded
    exact (change_run past move).table_of_unrewarded own unrewarded.earlier
  case table => exact table_byOthers_run unrewarded
  case free => exact fun more other => not_registered_of_vain (vain.append more) other
  case shared => exact fun error finished other joined => receives_of_joined joined finished
  case again => exact fun more other phase waker found seeks free =>
    retries_of_free found seeks free waker

/-- A creation fails that two share, while another key is injected. -/
def vainMoves : List (Move Nat Unit Bool Nat) :=
  [.poll 0 (), .poll 1 (), .inject 8 true, .create 0 (.error 3), .poll 1 ()]

theorem vainMoves_undone :
    LedInVain (run ([.get 7, .get 7] ++ vainMoves)).history 0 7 0 ∧
      Undone [.get 7, .get 7] vainMoves 0 7 0 := by
  have history : (run ([.get 7, .get 7] ++ vainMoves)).history =
      [.flight (.started 0 7 0), .creating 0 7 0, .flight (.joined 1 7 0),
        .injected 8 true (.ok none), .created 0 7 0 (.error 3),
        .flight (.finished 0 7 0 (.error (.create 3))),
        .flight (.returned 0 (.error (.create 3)) true),
        .flight (.returned 1 (.error (.create 3)) false)] := by rfl
  have vain : LedInVain (run ([.get 7, .get 7] ++ vainMoves)).history 0 7 0 := by
    rw [history]
    exact ⟨by simp, Or.inl ⟨.create 3, by simp⟩⟩
  exact ⟨vain, undone_run vain⟩

end Dealings

end Manager

end Cohort
