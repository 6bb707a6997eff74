import Cohort.Proofs.Flight.History

/-!
# Sharing

Whatever a caller returns is what one work came to. A fresh caller returns the result of
its own work. Any other has joined a fresh caller between the start and the end of that
one's work and returns its result, whatever has happened to the key since.
-/

set_option autoImplicit false

namespace Cohort.Flight

namespace Traffic

variable {κ ω ρ : Type} {traffic next : Traffic κ ω ρ} {flight : Flight κ ω ρ}
  {events : List (Event κ ρ)} {number : Nat} {key : κ} {phase : Phase ρ} {call : Nat}

/-! ## The story of a run -/

/-- What is known of the callers, of the calls, and of the results that were shared. -/
structure Storied (traffic : Traffic κ ω ρ) : Prop where
  lives : ∀ number key phase, traffic.callers[number]? = some ⟨key, phase⟩ →
    Life traffic.flight number key phase (own number traffic.history)
  known : ∀ event ∈ traffic.history, event.caller < traffic.callers.length
  recorded : Recorded traffic.flight traffic.history
  shared : ∀ number key result,
    traffic.callers[number]? = some ⟨key, .returned result false⟩ → ∃ leader call,
      List.Sublist [.started leader key call, .joined number key call,
        .finished leader key call result, .returned number result false] traffic.history

theorem storied_new : ({} : Traffic κ ω ρ).Storied where
  lives := fun _ _ _ found => by cases found
  known := fun _ member => absurd member List.not_mem_nil
  recorded := recorded_new
  shared := fun _ _ _ found => by cases found

theorem Storied.own_eq_nil (storied : traffic.Storied) (nobody : traffic.callers.length ≤ number) :
    own number traffic.history = [] := by
  refine List.filter_eq_nil_iff.mpr fun event member same => ?_
  have inside := storied.known event member
  rw [beq_iff_eq.mp same] at inside
  exact Nat.not_lt_of_le nobody inside

private theorem Storied.arrive (storied : traffic.Storied) (key : κ) :
    Storied { traffic with callers := traffic.callers ++ [{ key }] } where
  lives := by
    intro number key' phase found
    rcases getElem?_callers_call found with before | ⟨rfl, same⟩
    · exact storied.lives number key' phase before
    · cases same
      refine ⟨[], [], fun event member => absurd member List.not_mem_nil, .idle, ?_⟩
      exact storied.own_eq_nil (Nat.le_refl _)
  known := by
    intro event member
    rw [List.length_append]
    exact Nat.lt_add_right 1 (storied.known event member)
  recorded := storied.recorded
  shared := by
    intro number key' result found
    rcases getElem?_callers_call found with before | ⟨_, same⟩
    · exact storied.shared number key' result before
    · cases same

/-- A caller goes on as it may, and the calls are recorded. -/
private theorem Storied.advance (storied : traffic.Storied) {caller : Caller κ ρ}
    (found : traffic.callers[number]? = some caller)
    (by_number : ∀ event ∈ events, event.caller = number) (keeps : traffic.flight.Keeps flight)
    (life : Life flight number key phase (own number traffic.history ++ events))
    (recorded : Recorded flight (traffic.history ++ events))
    (shared : ∀ result, phase = .returned result false → ∃ leader call,
      List.Sublist [.started leader key call, .joined number key call,
        .finished leader key call result, .returned number result false]
        (traffic.history ++ events)) :
    (traffic.advance number key phase flight events).Storied where
  lives := by
    intro one key' phase' found'
    rcases getElem?_callers_advance found' with ⟨rfl, same⟩ | ⟨different, before⟩
    · cases same
      simp only [Traffic.advance]
      rw [own_append_same by_number]
      exact life
    · simp only [Traffic.advance]
      rw [own_append_other different by_number]
      exact (storied.lives one key' phase' before).keep keeps
  known := by
    intro event member
    simp only [Traffic.advance, List.length_set]
    rcases List.mem_append.mp member with before | new
    · exact storied.known event before
    · rw [by_number event new]
      exact (List.getElem?_eq_some_iff.mp found).1
  recorded := recorded
  shared := by
    intro one key' result found'
    rcases getElem?_callers_advance found' with ⟨rfl, same⟩ | ⟨_, before⟩
    · cases same
      exact shared result rfl
    · obtain ⟨leader, call, shared⟩ := storied.shared one key' result before
      exact ⟨leader, call, shared.trans (List.sublist_append_left ..)⟩

theorem Storied.started_of_leads (storied : traffic.Storied)
    (leads : traffic.Leads number key call) : .started number key call ∈ traffic.history := by
  obtain ⟨joins, ending, _, came, split⟩ := storied.lives number key _ leads
  cases ending_leads came
  have last : .started number key call ∈ own number traffic.history := by
    rw [split]
    exact List.mem_append_right _ (List.mem_singleton_self _)
  exact (mem_own.mp last).1

theorem Storied.joined_of_follows (storied : traffic.Storied) {ticket : UInt64}
    (found : traffic.callers[number]? = some ⟨key, .follows call ticket⟩) :
    .joined number key call ∈ traffic.history := by
  obtain ⟨joins, ending, _, came, split⟩ := storied.lives number key _ found
  cases ending_follows came
  have last : .joined number key call ∈ own number traffic.history := by
    rw [split]
    exact List.mem_append_right _ (List.mem_singleton_self _)
  exact (mem_own.mp last).1

/-- Whoever follows a call has its key. -/
theorem Storied.key_of_follows (storied : traffic.Storied) {leader : Nat} {key' : κ}
    {ticket : UInt64} (started : .started leader key call ∈ traffic.history)
    (found : traffic.callers[number]? = some ⟨key', .follows call ticket⟩) : key' = key := by
  obtain ⟨one, joined, _⟩ := storied.recorded.joined _ _ _ (storied.joined_of_follows found)
  have led : .started one key' call ∈ traffic.history := joined.mem (by simp)
  exact (storied.recorded.leader _ _ _ _ _ led started).2

/-! ## Move by move -/

private theorem Storied.wait (storied : traffic.Storied) {ticket : UInt64}
    (found : traffic.callers[number]? = some ⟨key, .follows call ticket⟩)
    (alike : traffic.flight.Alike flight) :
    (traffic.advance number key (.follows call ticket) flight []).Storied := by
  have keeps := keeps_alike alike
  have life : Life flight number key (.follows call ticket) (own number traffic.history ++ []) :=
    (storied.lives number key _ found).further keeps (fun _ came => ending_follows came) .follows
  have recorded : Recorded flight (traffic.history ++ []) :=
    (List.append_nil traffic.history).symm ▸ storied.recorded.alike alike
  exact storied.advance found (by simp) keeps life recorded (by simp)

private theorem Storied.share (storied : traffic.Storied) {ticket : UInt64} {result : ρ}
    (found : traffic.callers[number]? = some ⟨key, .follows call ticket⟩)
    (settled : (traffic.flight.call call).verdict = some (.done result)) :
    (traffic.advance number key (.returned result false) traffic.flight
      [.returned number result false]).Storied := by
  have life : Life traffic.flight number key (.returned result false)
      (own number traffic.history ++ [.returned number result false]) :=
    (storied.lives number key _ found).further (fun _ _ same => same)
      (fun _ came => ending_follows came) .shared
  have recorded : Recorded traffic.flight (traffic.history ++ [.returned number result false]) :=
    storied.recorded.append (by simp [Event.isStarted, Event.isFinished]) (by simp)
  refine storied.advance found (by simp [Event.caller]) (fun _ _ same => same) life recorded ?_
  rintro _ ⟨⟩
  -- The join was recorded with the work it was in time for; only the return is new.
  obtain ⟨leader, _, shared⟩ :=
    storied.recorded.joined number key call (storied.joined_of_follows found)
  exact ⟨leader, call, (shared result settled).append (List.Sublist.refl _)⟩

private theorem Storied.depart (storied : traffic.Storied)
    (found : traffic.callers[number]? = some ⟨key, phase⟩)
    (kind : phase = .idle ∨ ∃ call ticket, phase = .follows call ticket)
    (alike : traffic.flight.Alike flight) :
    (traffic.advance number key .gone flight []).Storied := by
  have keeps := keeps_alike alike
  have before := storied.lives number key phase found
  have life : Life flight number key .gone (own number traffic.history ++ []) := by
    rcases kind with rfl | ⟨call, ticket, rfl⟩
    · exact before.further keeps (fun _ came => ending_idle came) .unpolled
    · exact before.further keeps (fun _ came => ending_follows came) .left
  have recorded : Recorded flight (traffic.history ++ []) :=
    (List.append_nil traffic.history).symm ▸ storied.recorded.alike alike
  exact storied.advance found (by simp) keeps life recorded (by simp)

section Leading

variable [DecidableEq κ]

private theorem Storied.lead (storied : traffic.Storied)
    (found : traffic.callers[number]? = some ⟨key, phase⟩) (seeks : phase.Seeks traffic.flight) :
    (traffic.advance number key (.leads traffic.flight.calls.size) (traffic.flight.lead key)
      [.started number key traffic.flight.calls.size]).Storied := by
  have forsaken := (storied.lives number key phase found).forsaken seeks
  have keeps := keeps_lead traffic.flight key
  exact storied.advance found (by simp [Event.caller]) keeps (forsaken.lead keeps _)
    (storied.recorded.start number key) (by simp)

private theorem Storied.join (storied : traffic.Storied) (manned : traffic.Manned)
    (found : traffic.callers[number]? = some ⟨key, phase⟩) (seeks : phase.Seeks traffic.flight)
    (registered : traffic.flight.registry.find? key = some call)
    (alike : traffic.flight.Alike flight) (ticket : UInt64) :
    (traffic.advance number key (.follows call ticket) flight [.joined number key call]).Storied := by
  have forsaken := (storied.lives number key phase found).forsaken seeks
  have keeps := keeps_alike alike
  -- Whoever is registered leads, so its work has started and the joiner comes in time.
  obtain ⟨leader, leads⟩ := mem_leaders_iff.mp (manned.find?_iff.mp registered)
  have recorded : Recorded traffic.flight (traffic.history ++ [.joined number key call]) := by
    refine storied.recorded.append (by simp [Event.isStarted, Event.isFinished]) ?_
    intro one key' call' member
    cases List.mem_singleton.mp member
    exact ⟨manned.unsettled key call registered, leader, storied.started_of_leads leads⟩
  exact storied.advance found (by simp [Event.caller]) keeps (forsaken.join keeps call ticket)
    (recorded.alike alike) (by simp)

private theorem Storied.finish (storied : traffic.Storied) (manned : traffic.Manned)
    (found : traffic.callers[number]? = some ⟨key, .leads call⟩) (result : ρ) :
    (traffic.advance number key (.returned result true)
      (traffic.flight.settle key call (.done result)).2
      [.finished number key call result, .returned number result true]).Storied := by
  have unsettled := manned.verdict_eq_none (mem_leaders found)
  have keeps := keeps_settle unsettled key (.done result)
  have life : Life (traffic.flight.settle key call (.done result)).2 number key
      (.returned result true) (own number traffic.history ++
        [.finished number key call result, .returned number result true]) :=
    (storied.lives number key _ found).further keeps (fun _ came => ending_leads came) .fresh
  have finished := storied.recorded.finish unsettled (storied.started_of_leads found) result
  have recorded : Recorded (traffic.flight.settle key call (.done result)).2
      (traffic.history ++ [.finished number key call result] ++
        [.returned number result true]) :=
    finished.append (by simp [Event.isStarted, Event.isFinished]) (by simp)
  rw [List.append_assoc] at recorded
  exact storied.advance found (by simp [Event.caller]) keeps life recorded (by simp)

private theorem Storied.abandon (storied : traffic.Storied) (manned : traffic.Manned)
    (found : traffic.callers[number]? = some ⟨key, .leads call⟩) :
    (traffic.advance number key .gone (traffic.flight.settle key call .abandoned).2
      [.abandoned number key call]).Storied := by
  have unsettled := manned.verdict_eq_none (mem_leaders found)
  have keeps := keeps_settle unsettled key .abandoned
  have life : Life (traffic.flight.settle key call .abandoned).2 number key .gone
      (own number traffic.history ++ [.abandoned number key call]) :=
    (storied.lives number key _ found).further keeps (fun _ came => ending_leads came) .abandoned
  have recorded : Recorded (traffic.flight.settle key call .abandoned).2
      (traffic.history ++ [.abandoned number key call]) :=
    (storied.recorded.abandon unsettled key).append
      (by simp [Event.isStarted, Event.isFinished]) (by simp)
  exact storied.advance found (by simp [Event.caller]) keeps life recorded (by simp)

theorem Storied.change (storied : traffic.Storied) (manned : traffic.Manned)
    (change : traffic.Change next) : next.Storied := by
  cases change with
  | stay => exact storied
  | call => exact storied.arrive _
  | lead found seeks _ => exact storied.lead found seeks
  | join found seeks registered alike => exact storied.join manned found seeks registered alike _
  | wait found alike => exact storied.wait found alike
  | share found settled => exact storied.share found settled
  | finish found => exact storied.finish manned found _
  | abandon found => exact storied.abandon manned found
  | depart found kind alike => exact storied.depart found kind alike

end Leading

/-! ## What the callers have seen -/

theorem Storied.life_of_mem (storied : traffic.Storied) (number : Nat) {event : Event κ ρ}
    (member : event ∈ traffic.history) (by_number : event.caller = number) :
    ∃ key phase, traffic.callers[number]? = some ⟨key, phase⟩ ∧
      Life traffic.flight number key phase (own number traffic.history) := by
  subst by_number
  have found := List.getElem?_eq_getElem (storied.known event member)
  exact ⟨_, _, found, storied.lives _ _ _ found⟩

/-- The work of a caller has started and not come to its end. -/
def Running (history : List (Event κ ρ)) (number : Nat) (key : κ) (call : Nat) : Prop :=
  .started number key call ∈ history ∧
    (∀ result, .finished number key call result ∉ history) ∧
    .abandoned number key call ∉ history

theorem Storied.leads_of_running (storied : traffic.Storied)
    (running : Running traffic.history number key call) : traffic.Leads number key call := by
  obtain ⟨started, unfinished, unabandoned⟩ := running
  obtain ⟨key', phase, found, life⟩ := storied.life_of_mem number started rfl
  obtain ⟨ending, came, last, happened⟩ := life.mem_ending (mem_own.mpr ⟨started, rfl⟩) (by simp)
  cases came with
  | leads =>
      cases List.mem_singleton.mp last
      exact found
  | @fresh call' result =>
      obtain ⟨rfl, rfl⟩ : key = key' ∧ call = call' := by simpa using last
      have finished : .finished number key call result ∈ own number traffic.history :=
        happened (List.mem_cons_of_mem _ List.mem_cons_self)
      exact absurd (mem_own.mp finished).1 (unfinished result)
  | @abandoned call' =>
      obtain ⟨rfl, rfl⟩ : key = key' ∧ call = call' := by simpa using last
      have gone : .abandoned number key call ∈ own number traffic.history :=
        happened (List.mem_cons_of_mem _ List.mem_cons_self)
      exact absurd (mem_own.mp gone).1 unabandoned
  | idle | follows | shared | unpolled | left => simp at last

theorem Storied.returned_of_finished (storied : traffic.Storied) {result : ρ}
    (finished : .finished number key call result ∈ traffic.history) :
    traffic.callers[number]? = some ⟨key, .returned result true⟩ := by
  obtain ⟨key', phase, found, life⟩ := storied.life_of_mem number finished rfl
  obtain ⟨ending, came, last, _⟩ := life.mem_ending (mem_own.mpr ⟨finished, rfl⟩) (by simp)
  cases came with
  | @fresh call' result' =>
      obtain ⟨rfl, _, rfl⟩ : key = key' ∧ call = call' ∧ result = result' := by simpa using last
      exact found
  | leads | abandoned | idle | follows | shared | unpolled | left => simp at last

/-- A caller that has returned a shared result has joined one call that was finished. -/
theorem Storied.joined_once (storied : traffic.Storied) {result : ρ}
    (found : traffic.callers[number]? = some ⟨key, .returned result false⟩) :
    ∃ call, ∀ key' one leader key'' result', .joined number key' one ∈ traffic.history →
      .finished leader key'' one result' ∈ traffic.history → one = call := by
  obtain ⟨joins, ending, forsaken, came, split⟩ := storied.lives number key _ found
  cases came with
  | @shared call =>
      refine ⟨call, fun key' one leader key'' result' joined finished => ?_⟩
      have happened := mem_own.mpr ⟨joined, rfl⟩
      rw [Event.caller, split] at happened
      rcases List.mem_append.mp happened with earlier | last
      · obtain ⟨_, same, abandoned⟩ := forsaken _ earlier
        cases same
        have done := storied.recorded.finished leader key'' one result' finished
        rw [abandoned] at done
        cases done
      · have same : key' = key ∧ one = call := by simpa using last
        exact same.2

/-- Whatever a caller returns is the result of a call that it has led or joined. -/
theorem Storied.finished_of_returned (storied : traffic.Storied) {result : ρ} {fresh : Bool}
    (found : traffic.callers[number]? = some ⟨key, .returned result fresh⟩) :
    ∃ leader call, .finished leader key call result ∈ traffic.history ∧
      (.started number key call ∈ traffic.history ∨ .joined number key call ∈ traffic.history) := by
  cases fresh with
  | true =>
      obtain ⟨joins, ending, _, came, split⟩ := storied.lives number key _ found
      cases came with
      | @fresh call =>
          have happened : ∀ event ∈ [.started number key call, .finished number key call result,
              .returned number result true], event ∈ traffic.history := by
            intro event member
            have own : event ∈ own number traffic.history := by
              rw [split]
              exact List.mem_append_right _ member
            exact (mem_own.mp own).1
          exact ⟨number, call, happened _ (by simp), Or.inl (happened _ (by simp))⟩
  | false =>
      obtain ⟨leader, call, shared⟩ := storied.shared number key result found
      exact ⟨leader, call, shared.mem (by simp), Or.inr (shared.mem (by simp))⟩

private theorem Storied.not_started (storied : traffic.Storied) {result : ρ}
    (found : traffic.callers[number]? = some ⟨key, .returned result false⟩) (key' : κ) (one : Nat) :
    .started number key' one ∉ traffic.history := by
  intro started
  have life := storied.lives number key _ found
  obtain ⟨ending, came, last, _⟩ := life.mem_ending (mem_own.mpr ⟨started, rfl⟩) (by simp)
  cases came with
  | shared => simp at last

private theorem Storied.starts_le_one (storied : traffic.Storied) (number : Nat) :
    traffic.history.countP (Event.starts number) ≤ 1 := by
  have own_starts : traffic.history.countP (Event.starts number) =
      (own number traffic.history).countP (Event.starts number) := by
    rw [own, List.countP_filter]
    refine List.countP_congr fun event _ => ?_
    cases event <;> simp [Event.starts, Event.caller]
  rw [own_starts]
  cases found : traffic.callers[number]? with
  | none => simp [storied.own_eq_nil (List.getElem?_eq_none_iff.mp found)]
  | some caller =>
      obtain ⟨key, phase⟩ := caller
      obtain ⟨joins, ending, forsaken, came, split⟩ := storied.lives number _ _ found
      have none_before : joins.countP (Event.starts number) = 0 := by
        refine List.countP_eq_zero.mpr fun event member => ?_
        obtain ⟨call, rfl, _⟩ := forsaken event member
        simp [Event.starts]
      rw [split, List.countP_append, none_before]
      cases came <;> simp [Event.starts]

private theorem Storied.leader_unique (storied : traffic.Storied) {result : ρ}
    (found : traffic.callers[number]? = some ⟨key, .returned result false⟩) :
    ∃! leader, traffic.callers[leader]? = some ⟨key, .returned result true⟩ ∧ ∃ call,
      List.Sublist [.started leader key call, .joined number key call,
        .finished leader key call result, .returned number result false] traffic.history := by
  obtain ⟨leader, call, shared⟩ := storied.shared number key result found
  have started : .started leader key call ∈ traffic.history := shared.mem (by simp)
  have joined : .joined number key call ∈ traffic.history := shared.mem (by simp)
  have finished : .finished leader key call result ∈ traffic.history := shared.mem (by simp)
  refine ⟨leader, ⟨storied.returned_of_finished finished, call, shared⟩, ?_⟩
  rintro one ⟨_, call', shared'⟩
  have started' : .started one key call' ∈ traffic.history := shared'.mem (by simp)
  have joined' : .joined number key call' ∈ traffic.history := shared'.mem (by simp)
  have finished' : .finished one key call' result ∈ traffic.history := shared'.mem (by simp)
  obtain ⟨last, only⟩ := storied.joined_once found
  have same : call = last := only key call leader key result joined finished
  have same' : call' = last := only key call' one key result joined' finished'
  rw [same'] at started'
  rw [same] at started
  exact (storied.recorded.leader one key last leader key started' started).1

/-! ## One execution for all -/

variable [DecidableEq κ]

theorem storied_run (moves : List (Move κ ω ρ)) : (run moves).Storied := by
  induction moves using List.reverseRecOn with
  | nil => exact storied_new
  | append_singleton moves move ih =>
      have manned := manned_run moves
      rw [run_append_singleton]
      exact ih.change manned (manned.unsettled.change move)

structure Shared (traffic : Traffic κ ω ρ) : Prop where
  /-- At most one work runs for a key. -/
  alone : ∀ key one call other call', Running traffic.history one key call →
    Running traffic.history other key call' → one = other ∧ call = call'
  once : ∀ number, traffic.history.countP (Event.starts number) ≤ 1
  /-- A fresh caller has run its own work to its end, after any calls that were abandoned,
  and returns what it came to. -/
  fresh : ∀ number key result, traffic.callers[number]? = some ⟨key, .returned result true⟩ →
    ∃ joins call, (∀ event ∈ joins, ∃ earlier, event = .joined number key earlier) ∧
      own number traffic.history = joins ++
        [.started number key call, .finished number key call result,
          .returned number result true]
  /-- Any other has run no work, and returns what the work of exactly one fresh caller of
  the key came to, which it has joined in between. -/
  shared : ∀ number key result, traffic.callers[number]? = some ⟨key, .returned result false⟩ →
    (∀ key' call, .started number key' call ∉ traffic.history) ∧
      ∃! leader, traffic.callers[leader]? = some ⟨key, .returned result true⟩ ∧ ∃ call,
        List.Sublist [.started leader key call, .joined number key call,
          .finished leader key call result, .returned number result false] traffic.history

theorem shared_run (moves : List (Move κ ω ρ)) : (run moves).Shared := by
  have manned := manned_run moves
  have storied := storied_run moves
  constructor
  case alone =>
    intro key one call other call' running running'
    have leads := storied.leads_of_running running
    have leads' := storied.leads_of_running running'
    obtain rfl := eq_of_leads manned.keys_nodup leads leads' rfl
    cases leads.symm.trans leads'
    exact ⟨rfl, rfl⟩
  case once => exact storied.starts_le_one
  case fresh =>
    intro number key result found
    obtain ⟨joins, ending, forsaken, came, split⟩ := storied.lives number key _ found
    cases came with
    | @fresh call =>
        refine ⟨joins, call, fun event member => ?_, split⟩
        obtain ⟨earlier, same, _⟩ := forsaken event member
        exact ⟨earlier, same⟩
  case shared =>
    intro number key result found
    exact ⟨storied.not_started found, storied.leader_unique found⟩

-- A result is kept for those who have joined while the next work for the key runs already.
example : (run [.call 7, .call 7, .poll 0 (), .poll 1 (), .finish 0 true, .call 7, .poll 2 (),
    .poll 1 ()]).callers =
      [⟨7, .returned true true⟩, ⟨7, .returned true false⟩, ⟨7, .leads 1⟩] := by decide

end Traffic

end Cohort.Flight
