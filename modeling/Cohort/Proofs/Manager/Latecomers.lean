import Cohort.Proofs.Manager.Creations

/-!
# Latecomers

What a caller gets comes of an execution that ended after the caller was first polled. A
key that is not missing, because it is held or the manager is shut, is never missing again,
so no creation for it begins any more. Whoever is first polled then gets what a look-up
would have found at some moment since, unless it joins a creation that was under way
already and fails.
-/

set_option autoImplicit false

namespace Cohort

/-! ## Callers of a flight that were not polled yet -/

namespace Flight.Traffic

variable {κ ω ρ : Type} {traffic next : Traffic κ ω ρ} {past later : List (Event κ ρ)}
  {number call : Nat} {key : κ} {phase : Phase ρ} {result : ρ} {fresh : Bool}

/-- Nothing has happened to a caller that was not polled yet. -/
def Silent (traffic : Traffic κ ω ρ) : Prop :=
  ∀ number key, traffic.callers[number]? = some ⟨key, .idle⟩ → own number traffic.history = []

private theorem Silent.advance (silent : traffic.Silent) {flight : Flight κ ω ρ}
    {events : List (Event κ ρ)}
    (by_number : ∀ event ∈ events, event.caller = number) (polled : phase ≠ .idle) :
    (traffic.advance number key phase flight events).Silent := by
  intro one other found
  rcases getElem?_callers_advance found with ⟨_, same⟩ | ⟨different, before⟩
  · cases same
    exact absurd rfl polled
  · simp only [Traffic.advance]
    rw [own_append_other different by_number]
    exact silent one other before

private theorem Silent.change [DecidableEq κ] (silent : traffic.Silent) (storied : traffic.Storied)
    (change : traffic.Change next) : next.Silent := by
  cases change with
  | stay => exact silent
  | call =>
      intro number key found
      rcases getElem?_callers_call found with before | ⟨rfl, _⟩
      · exact silent number key before
      · exact storied.own_eq_nil (Nat.le_refl _)
  | lead _ _ _ | join _ _ _ _ | wait _ _ | share _ _ | finish _ | abandon _ | depart _ _ _ =>
      exact silent.advance (by simp [Event.caller]) (by simp)

/-- A caller that has returned owes its result to an execution that has ended since the
caller was first polled, be it its own or one that it has joined. -/
theorem Storied.finished_since (storied : traffic.Storied) (tallied : traffic.Tallied)
    (grown : traffic.history = past ++ later) (silent : own number past = [])
    (found : traffic.callers[number]? = some ⟨key, .returned result fresh⟩) :
    ∃ leader call, .finished leader key call result ∉ past ∧
      .finished leader key call result ∈ later ∧
      (fresh = true ∧ leader = number ∨ fresh = false ∧ .joined number key call ∈ later) := by
  have absent : ∀ event ∈ past, event.caller ≠ number := fun event member same =>
    List.not_mem_nil (silent ▸ mem_own.mpr ⟨member, same⟩)
  cases fresh with
  | true =>
      obtain ⟨joins, ending, _, came, split⟩ := storied.lives number key _ found
      cases came with
      | @fresh call =>
          have finished : .finished number key call result ∈ own number traffic.history := by
            rw [split]
            exact List.mem_append_right _ (by simp)
          rw [mem_own, grown, List.mem_append] at finished
          have apart : .finished number key call result ∉ past := fun member =>
            absent _ member rfl
          exact ⟨number, call, apart, finished.1.resolve_left apart, Or.inl ⟨rfl, rfl⟩⟩
  | false =>
      obtain ⟨leader, call, shared⟩ := storied.shared number key result found
      have joined_first : List.Sublist
          [.joined number key call, .finished leader key call result] traffic.history :=
        List.Sublist.trans (by simp) shared
      rw [grown, List.sublist_append_iff] at joined_first
      obtain ⟨before, after, split, in_past, in_later⟩ := joined_first
      -- The join came later, so whatever comes behind it came later too.
      have after_join : [.joined number key call, .finished leader key call result] = after := by
        cases before with
        | nil => exact split
        | cons event rest =>
            obtain ⟨rfl, _⟩ := List.cons.inj split
            exact absurd rfl (absent _ (in_past.mem List.mem_cons_self))
      subst after_join
      have finished : .finished leader key call result ∈ later := in_later.mem (by simp)
      refine ⟨leader, call, fun member => ?_, finished,
        Or.inr ⟨rfl, in_later.mem List.mem_cons_self⟩⟩
      -- A call is settled once, so it was not settled in the past.
      have once := tallied.settled call
      have earlier := List.countP_pos_iff.mpr ⟨_, member, show Event.settles call _ = true by
        simp [Event.settles]⟩
      have again := List.countP_pos_iff.mpr ⟨_, finished, show Event.settles call _ = true by
        simp [Event.settles]⟩
      have most := Bool.toNat_le ((traffic.flight.call call).verdict.isSome)
      rw [grown, List.countP_append] at once
      omega

/-- The work of a caller that leads runs. -/
theorem Storied.running_of_leads (storied : traffic.Storied)
    (leads : traffic.Leads number key call) : Running traffic.history number key call := by
  have only : ∀ event ∈ traffic.history, event.caller = number →
      (∀ one, event ≠ .joined number key one) → event = .started number key call := by
    intro event member by_number no_join
    have life := storied.lives number key _ leads
    obtain ⟨ending, came, last, _⟩ := life.mem_ending (mem_own.mpr ⟨member, by_number⟩) no_join
    rw [ending_leads came] at last
    exact List.mem_singleton.mp last
  refine ⟨storied.started_of_leads leads, fun result finished => ?_, fun abandoned => ?_⟩
  · cases only _ finished rfl (by simp)
  · cases only _ abandoned rfl (by simp)

end Flight.Traffic

/-! ## Callers of a manager that were not polled yet -/

namespace Manager

variable {κ ω ρ ε : Type} [DecidableEq κ] {key : κ}

/-- The manager is open and holds nothing under the key. -/
def Lacks (manager : Manager κ ω ρ ε) (key : κ) : Prop :=
  manager.lookup key = .ok none

namespace Dealings

variable {dealings next : Dealings κ ω ρ ε} {move : Move κ ω ρ ε}
  {before after : List (Move κ ω ρ ε)} {number call : Nat}

/-- The caller has not come yet, or was not polled yet. -/
def Unpolled (dealings : Dealings κ ω ρ ε) (number : Nat) : Prop :=
  ∀ caller, dealings.callers[number]? = some caller → caller.phase = .idle

/-- What no change on a flight breaks holds throughout any dealings of their flight. -/
theorem traffic_run {property : Flight.Traffic κ ω (Except (ManagerError ε) ρ) → Prop}
    (new : property {})
    (change : ∀ traffic next, traffic.Manned → traffic.Storied → property traffic →
      traffic.Change next → property next) (moves : List (Move κ ω ρ ε)) :
    property (run moves).traffic := by
  induction moves using List.reverseRecOn with
  | nil => exact new
  | append_singleton moves move ih =>
      have ordered := ordered_run moves
      have all : ∀ traffic,
          Relation.ReflTransGen Flight.Traffic.Change (run moves).traffic traffic →
            traffic.Manned ∧ traffic.Storied ∧ property traffic := by
        intro traffic changes
        induction changes with
        | refl => exact ⟨ordered.manned, ordered.storied, ih⟩
        | tail _ last ih =>
            obtain ⟨manned, storied, holds⟩ := ih
            exact ⟨manned.change last, storied.change manned last,
              change _ _ manned storied holds last⟩
      exact (all _ (change_run moves move).traffic).2.2

private theorem silent_run (moves : List (Move κ ω ρ ε)) : (run moves).traffic.Silent :=
  traffic_run (fun number key found => by cases found)
    (fun _ _ _ storied silent change => silent.change storied change) moves

private theorem tallied_traffic_run (moves : List (Move κ ω ρ ε)) : (run moves).traffic.Tallied :=
  traffic_run ⟨rfl, fun call => by simp [Flight.call]⟩
    (fun _ _ manned _ tallied change => tallied.change manned change) moves

theorem Unpolled.own_eq_nil (unpolled : (run before).Unpolled number) :
    Flight.own number (run before).traffic.history = [] := by
  cases found : (run before).callers[number]? with
  | none =>
      exact (ordered_run before).storied.own_eq_nil (List.getElem?_eq_none_iff.mp found)
  | some caller =>
      obtain ⟨key, phase⟩ := caller
      cases unpolled _ found
      exact silent_run before number key found

/-! ### What has happened since -/

/-- What no change breaks stays as it is. -/
theorem stays_run (property : Dealings κ ω ρ ε → Prop)
    (stays : ∀ {dealings next : Dealings κ ω ρ ε} {move : Move κ ω ρ ε},
      dealings.Change move next → property dealings → property next)
    (holds : property (run before)) (after : List (Move κ ω ρ ε)) :
    property (run (before ++ after)) := by
  induction after using List.reverseRecOn with
  | nil => rwa [List.append_nil]
  | append_singleton after move ih =>
      rw [← List.append_assoc]
      exact stays (change_run (before ++ after) move) ih

private theorem Change.grown (change : dealings.Change move next) :
    ∃ events, next.history = dealings.history ++ events := by
  cases change with
  | quiet _ _ _ | answer _ _ _ _ | begin _ _ _ _ | finish _ | inject _ | refuse _ | shut =>
      exact ⟨_, rfl⟩

theorem exists_later (before after : List (Move κ ω ρ ε)) :
    ∃ later, (run (before ++ after)).history = (run before).history ++ later := by
  refine stays_run (fun dealings => ∃ later, dealings.history = (run before).history ++ later)
    ?_ ⟨[], (List.append_nil _).symm⟩ after
  rintro dealings next move change ⟨later, grown⟩
  obtain ⟨events, grown'⟩ := change.grown
  exact ⟨later ++ events, by rw [grown', grown, List.append_assoc]⟩

theorem mem_history_append {event : Event κ ρ ε} (happened : event ∈ (run before).history)
    (after : List (Move κ ω ρ ε)) : event ∈ (run (before ++ after)).history := by
  obtain ⟨later, grown⟩ := exists_later before after
  exact grown ▸ List.mem_append_left _ happened

/-! ### Keys that are not missing -/

/-- Nothing leaves a manager but when it is shut. -/
private theorem Change.lacks (change : dealings.Change move next) (lacks : next.manager.Lacks key) :
    dealings.manager.Lacks key := by
  cases change with
  | quiet _ _ _ | answer _ _ _ _ | begin _ _ _ _ | refuse _ => exact lacks
  | @finish number other call outcome _ =>
      cases outcome with
      | error cause => exact lacks
      | ok resource =>
          obtain ⟨table, opened, absent⟩ := lookup_eq_ok_iff.mp lacks
          have inserted := (table_install dealings.manager other resource).symm.trans opened
          obtain ⟨earlier, opened', rfl⟩ := Option.map_eq_some_iff.mp inserted
          exact lookup_eq_ok_iff.mpr ⟨earlier, opened', Table.find?_eq_none_of_insert absent⟩
  | inject opened =>
      obtain ⟨_, opened', absent⟩ := lookup_eq_ok_iff.mp lacks
      cases opened'
      exact lookup_eq_ok_iff.mpr ⟨_, opened, Table.find?_eq_none_of_insert absent⟩
  | shut => cases lacks

private theorem not_lacks_run (present : ¬ (run before).manager.Lacks key)
    (after : List (Move κ ω ρ ε)) : ¬ (run (before ++ after)).manager.Lacks key :=
  stays_run (fun dealings => ¬ dealings.manager.Lacks key)
    (fun change present lacks => present (change.lacks lacks)) present after

private theorem Change.closed (change : dealings.Change move next)
    (closed : dealings.manager.table = none) : next.manager.table = none := by
  cases change with
  | quiet _ _ _ | answer _ _ _ _ | begin _ _ _ _ | refuse _ => exact closed
  | @finish number key call outcome _ =>
      cases outcome with
      | error cause => exact closed
      | ok resource =>
          have installed := table_install dealings.manager key resource
          rw [closed] at installed
          exact installed
  | inject opened =>
      rw [closed] at opened
      cases opened
  | shut => rfl

theorem closed_run (closed : (run before).manager.table = none) (after : List (Move κ ω ρ ε)) :
    (run (before ++ after)).manager.table = none :=
  stays_run (fun dealings => dealings.manager.table = none) Change.closed closed after

/-- No creation begins for a key that is not missing. -/
theorem mem_history_of_creating (present : ¬ (run before).manager.Lacks key)
    (creating : .creating number key call ∈ (run (before ++ after)).history) :
    .creating number key call ∈ (run before).history := by
  by_contra absent
  obtain ⟨since, move, rest, rfl, earlier, then_⟩ := exists_move_since absent creating
  have missing := missing_of_creating (change_run (before ++ since) move) earlier then_
  exact not_lacks_run present since (lookup_eq_ok_iff.mpr missing)

/-! ### How executions end -/

/-- A creation ends while its creator leads, and its call is finished with it. -/
theorem Change.of_created {outcome : Except ε ρ} (change : dealings.Change move next)
    (absent : .created number key call outcome ∉ dealings.history)
    (happened : .created number key call outcome ∈ next.history) :
    dealings.traffic.Leads number key call ∧
      .flight (.finished number key call (dealings.manager.install key outcome).1) ∈
        next.history := by
  cases change with
  | quiet _ _ _ => exact absurd (by simpa using happened) absent
  | answer _ _ _ _ | begin _ _ _ _ => exact absurd (by simpa [advance] using happened) absent
  | @finish one other call' outcome' found =>
      rcases List.mem_append.mp happened with earlier | new
      · exact absurd earlier absent
      · have same : number = one ∧ key = other ∧ call = call' ∧ outcome = outcome' := by
          simpa using new
        obtain ⟨rfl, rfl, rfl, rfl⟩ := same
        exact ⟨found, List.mem_append_right _ (by simp)⟩
  | inject _ | refuse _ | shut => exact absurd (by simpa [note] using happened) absent

private theorem finished_of_created {moves : List (Move κ ω ρ ε)} {outcome : Except ε ρ}
    (created : .created number key call outcome ∈ (run moves).history) :
    ∃ result, .flight (.finished number key call result) ∈ (run moves).history := by
  obtain ⟨earlier, move, rest, rfl, absent, happened⟩ := exists_move_of_mem_history created
  obtain ⟨_, finished⟩ := (change_run earlier move).of_created absent happened
  have later := mem_history_append finished rest
  rw [List.append_assoc] at later
  exact ⟨_, later⟩

private theorem creating_of_leads {moves : List (Move κ ω ρ ε)}
    (leads : (run moves).traffic.Leads number key call) :
    Creating (run moves).history number key call := by
  obtain ⟨_, unfinished, unabandoned⟩ := (ordered_run moves).storied.running_of_leads leads
  refine ⟨(booked_run moves).leads number key call leads, fun outcome created => ?_,
    fun abandoned => unabandoned (mem_history_traffic.mpr abandoned)⟩
  obtain ⟨result, finished⟩ := finished_of_created created
  exact unfinished result (mem_history_traffic.mpr finished)

/-- A creation for a key that is not missing has begun before. -/
theorem creating_before (present : ¬ (run before).manager.Lacks key)
    (leads : (run (before ++ after)).traffic.Leads number key call) :
    Creating (run before).history number key call := by
  obtain ⟨began, unfinished, unabandoned⟩ := creating_of_leads leads
  exact ⟨mem_history_of_creating present began,
    fun outcome created => unfinished outcome (mem_history_append created after),
    fun abandoned => unabandoned (mem_history_append abandoned after)⟩

/-! ### What a latecomer gets -/

/-- The caller has joined a creation that was under way in the past, and that has failed. -/
def SharesFailure (past history : List (Event κ ρ ε)) (number : Nat) (key : κ) (cause : ε) : Prop :=
  ∃ leader call, Creating past leader key call ∧ .flight (.joined number key call) ∈ history ∧
    .created leader key call (.error cause) ∈ history

theorem SharesFailure.append {past : List (Event κ ρ ε)} {cause : ε}
    (shares : SharesFailure past (run before).history number key cause)
    (after : List (Move κ ω ρ ε)) :
    SharesFailure past (run (before ++ after)).history number key cause := by
  obtain ⟨leader, call, creating, joined, created⟩ := shares
  exact ⟨leader, call, creating, mem_history_append joined after, mem_history_append created after⟩

/-- Whoever is first polled when its key is not missing gets what a look-up finds at some
moment since, unless it shares the failure of a creation. -/
theorem answers_or_fails {result : Except (ManagerError ε) ρ} {fresh : Bool}
    (unpolled : (run before).Unpolled number) (present : ¬ (run before).manager.Lacks key)
    (found : (run (before ++ after)).callers[number]? = some ⟨key, .returned result fresh⟩) :
    (∃ since move rest, after = since ++ move :: rest ∧
        (run (before ++ since ++ [move])).manager.Answers key result) ∨
      ∃ cause, result = .error (.create cause) ∧ fresh = false ∧
        SharesFailure (run before).history (run (before ++ after)).history number key cause := by
  have ordered := ordered_run (before ++ after)
  obtain ⟨later, grown⟩ := exists_later before after
  have grown' : (run (before ++ after)).traffic.history =
      (run before).traffic.history ++ later.filterMap Event.flight? := by
    simp only [traffic, grown, List.filterMap_append]
  obtain ⟨leader, call, apart, finished, kind⟩ := ordered.storied.finished_since
    (tallied_traffic_run (before ++ after)) grown' unpolled.own_eq_nil found
  have finished : .finished leader key call result ∈ (run (before ++ after)).traffic.history :=
    grown' ▸ List.mem_append_right _ finished
  obtain ⟨since, move, rest, split, absent, happened⟩ := exists_move_since
    (fun member => apart (mem_history_traffic.mpr member)) (mem_history_traffic.mp finished)
  rcases (change_run (before ++ since) move).of_finished absent happened with
    answers | ⟨cause, rfl, leads, created⟩
  · exact Or.inl ⟨since, move, rest, split, answers⟩
  · refine Or.inr ⟨cause, rfl, ?_⟩
    have creating := creating_before present leads
    have began := (booked_run before).leads_of_creating (ordered_run before) creating
    rcases kind with ⟨_, rfl⟩ | ⟨joiner, joined⟩
    · -- Whoever was not polled yet did not create.
      cases unpolled _ began
    · refine ⟨joiner, leader, call, creating, ?_, ?_⟩
      · exact mem_history_traffic.mp (grown' ▸ List.mem_append_right _ joined)
      · have later := mem_history_append created rest
        simpa [split] using later

/-! ### What a joiner gets -/

/-- The caller shares the result of call `call`, or does so as soon as it is polled again,
unless it was dropped. -/
def Receives (dealings : Dealings κ ω ρ ε) (number : Nat) (key : κ) (call : Nat)
    (result : Except (ManagerError ε) ρ) : Prop :=
  dealings.callers[number]? = some ⟨key, .returned result false⟩ ∨
    dealings.callers[number]? = some ⟨key, .gone⟩ ∨
    ∃ ticket, dealings.callers[number]? = some ⟨key, .follows call ticket⟩ ∧
      ∀ waker, (dealings.step (.poll number waker)).2.callers[number]? =
        some ⟨key, .returned result false⟩

private theorem step_poll_of_done {ticket : UInt64} {result : Except (ManagerError ε) ρ}
    (found : dealings.callers[number]? = some ⟨key, .follows call ticket⟩)
    (done : (dealings.manager.flight.call call).verdict = some (.done result)) (waker : ω) :
    (dealings.step (.poll number waker)).2.callers[number]? =
      some ⟨key, .returned result false⟩ := by
  simp only [step, found, Manager.poll, Flight.poll_of_settled done]
  exact List.getElem?_set_self (List.getElem?_eq_some_iff.mp found).1

theorem receives_of_joined {moves : List (Move κ ω ρ ε)} {leader : Nat}
    {result : Except (ManagerError ε) ρ}
    (joined : .flight (.joined number key call) ∈ (run moves).history)
    (finished : .flight (.finished leader key call result) ∈ (run moves).history) :
    (run moves).Receives number key call result := by
  have storied := (ordered_run moves).storied
  have joined := mem_history_traffic.mpr joined
  have finished := mem_history_traffic.mpr finished
  have done := storied.recorded.finished leader key call result finished
  obtain ⟨own_key, phase, found, life⟩ := storied.life_of_mem number joined rfl
  obtain ⟨joins, ending, forsaken, came, split⟩ := life
  have happened := Flight.mem_own.mpr ⟨joined, rfl⟩
  rw [Flight.Event.caller, split] at happened
  rcases List.mem_append.mp happened with earlier | last
  · obtain ⟨_, same, abandoned⟩ := forsaken _ earlier
    cases same
    rw [abandoned] at done
    cases done
  · cases came with
    | @follows one ticket =>
        obtain ⟨rfl, rfl⟩ : key = own_key ∧ call = one := by simpa using last
        exact Or.inr (Or.inr ⟨ticket, found, step_poll_of_done found done⟩)
    | @shared one own_result =>
        obtain ⟨rfl, rfl⟩ : key = own_key ∧ call = one := by simpa using last
        obtain ⟨leader', call', shared⟩ := storied.shared number key own_result found
        obtain ⟨only, once⟩ := storied.joined_once found
        have finished' : .finished leader' key call' own_result ∈ (run moves).traffic.history :=
          shared.mem (by simp)
        have joined' : .joined number key call' ∈ (run moves).traffic.history :=
          shared.mem (by simp)
        have same : call' = call := (once _ _ _ _ _ joined' finished').trans
          (once _ _ _ _ _ joined finished).symm
        have done' := storied.recorded.finished _ _ _ _ finished'
        rw [same, done] at done'
        cases done'
        exact Or.inl found
    | @left one =>
        obtain ⟨rfl, rfl⟩ : key = own_key ∧ call = one := by simpa using last
        exact Or.inr (Or.inl found)
    | idle | leads | fresh | unpolled | abandoned => simp at last

end Dealings

end Manager

end Cohort
