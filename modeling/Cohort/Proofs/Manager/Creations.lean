import Cohort.Proofs.Manager.Dealings

/-!
# Creations

A manager looks a key up and creates what is missing in two steps, between which anything
may happen. Only the flight keeps two creations for a key apart. As long as nothing is
injected under a key, one creation for it succeeds at most, and whoever asks gets what
that one made.
-/

set_option autoImplicit false

namespace Cohort.Manager

def Event.succeeds {κ ρ ε : Type} [DecidableEq κ] (key : κ) : Event κ ρ ε → Bool
  | .created _ other _ (.ok _) => decide (other = key)
  | _ => false

namespace Dealings

variable {κ ω ρ ε : Type} {dealings next : Dealings κ ω ρ ε} {move : Move κ ω ρ ε}
  {number call : Nat} {key : κ}

theorem mem_history_traffic {event : Flight.Event κ (Except (ManagerError ε) ρ)} :
    event ∈ dealings.traffic.history ↔ .flight event ∈ dealings.history := by
  simp only [traffic, List.mem_filterMap]
  constructor
  · rintro ⟨event', member, same⟩
    cases event' with
    | flight event' =>
        cases same
        exact member
    | creating _ _ _ | created _ _ _ _ | injected _ _ _ | shut _ => cases same
  · intro member
    exact ⟨.flight event, member, rfl⟩

theorem leads_advance {phase : Flight.Phase (Except (ManagerError ε) ρ)}
    {manager : Manager κ ω ρ ε} {events : List (Event κ ρ ε)} {one : Nat} {other : κ}
    (leads : (dealings.advance number key phase manager events).traffic.Leads one other call) :
    one = number ∧ other = key ∧ phase = .leads call ∨
      one ≠ number ∧ dealings.traffic.Leads one other call := by
  rw [traffic_advance] at leads
  rcases Flight.Traffic.getElem?_callers_advance leads with ⟨rfl, same⟩ | ⟨different, before⟩
  · cases same
    exact Or.inl ⟨rfl, rfl, rfl⟩
  · exact Or.inr ⟨different, before⟩

/-- A caller that has returned leads no longer, and nobody else begins to. -/
theorem leads_of_returned {result : Except (ManagerError ε) ρ} {fresh : Bool}
    {manager : Manager κ ω ρ ε} {events : List (Event κ ρ ε)} {one : Nat} {other : κ}
    (leads : (dealings.advance number key (.returned result fresh) manager events).traffic.Leads
      one other call) :
    dealings.traffic.Leads one other call := by
  rcases leads_advance leads with ⟨_, _, same⟩ | ⟨_, before⟩
  · cases same
  · exact before

/-- The callers and their history are in order as the flight of the manager sees them. -/
structure Ordered (dealings : Dealings κ ω ρ ε) : Prop where
  manned : dealings.traffic.Manned
  storied : dealings.traffic.Storied

/-! ## The books of the creations -/

/-- Each creation belongs to a work of the flight, and ends with it. -/
structure Booked (dealings : Dealings κ ω ρ ε) : Prop where
  leads : ∀ number key call, dealings.traffic.Leads number key call →
    .creating number key call ∈ dealings.history
  started : ∀ number key call, .creating number key call ∈ dealings.history →
    .flight (.started number key call) ∈ dealings.history
  created : ∀ number key call result, .creating number key call ∈ dealings.history →
    .flight (.finished number key call result) ∈ dealings.history →
    ∃ outcome, .created number key call outcome ∈ dealings.history

theorem Booked.call_lt_size (booked : dealings.Booked) (ordered : dealings.Ordered)
    (creating : .creating number key call ∈ dealings.history) :
    call < dealings.manager.flight.calls.size :=
  ordered.storied.recorded.inside number key call
    (mem_history_traffic.mpr (booked.started number key call creating))

/-- What is added to the books must be in order by itself. -/
private theorem Booked.extend {events : List (Event κ ρ ε)} (booked : dealings.Booked)
    (grown : next.history = dealings.history ++ events)
    (leads : ∀ number key call, next.traffic.Leads number key call →
      dealings.traffic.Leads number key call ∨ .creating number key call ∈ events)
    (started : ∀ number key call, .creating number key call ∈ events →
      .flight (.started number key call) ∈ events ∧
        ∀ result, .flight (.finished number key call result) ∉ next.history)
    (created : ∀ number key call result, .creating number key call ∈ dealings.history →
      .flight (.finished number key call result) ∈ events →
      ∃ outcome, .created number key call outcome ∈ events) : next.Booked := by
  constructor
  case leads =>
    intro number key call leads'
    rw [grown]
    rcases leads number key call leads' with before | new
    · exact List.mem_append_left _ (booked.leads number key call before)
    · exact List.mem_append_right _ new
  case started =>
    intro number key call creating
    rw [grown] at creating ⊢
    rcases List.mem_append.mp creating with before | new
    · exact List.mem_append_left _ (booked.started number key call before)
    · exact List.mem_append_right _ (started number key call new).1
  case created =>
    intro number key call result creating finished
    rw [grown] at creating
    rcases List.mem_append.mp creating with before | new
    · rw [grown] at finished ⊢
      rcases List.mem_append.mp finished with finished | finished
      · obtain ⟨outcome, earlier⟩ := booked.created number key call result before finished
        exact ⟨outcome, List.mem_append_left _ earlier⟩
      · obtain ⟨outcome, last⟩ := created number key call result before finished
        exact ⟨outcome, List.mem_append_right _ last⟩
    · exact absurd finished ((started number key call new).2 result)

private theorem Booked.note (booked : dealings.Booked) {manager : Manager κ ω ρ ε}
    (same : manager.flight = dealings.manager.flight) {event : Event κ ρ ε}
    (apart : event.flight? = none) (idle : ∀ number key call, event ≠ .creating number key call) :
    (dealings.note manager event).Booked := by
  refine booked.extend rfl (fun one other call leads => ?_) (fun one other call creating => ?_)
    (fun one other call result creating finished => ?_)
  · rw [traffic_note same apart] at leads
    exact Or.inl leads
  · exact absurd (List.mem_singleton.mp creating).symm (idle one other call)
  · rw [← List.mem_singleton.mp finished] at apart
    cases apart

/-- The creation of a caller has started and not come to its end. -/
def Creating (history : List (Event κ ρ ε)) (number : Nat) (key : κ) (call : Nat) : Prop :=
  .creating number key call ∈ history ∧
    (∀ outcome, .created number key call outcome ∉ history) ∧
    .flight (.abandoned number key call) ∉ history

theorem Booked.leads_of_creating (booked : dealings.Booked) (ordered : dealings.Ordered)
    (creating : Creating dealings.history number key call) :
    dealings.traffic.Leads number key call := by
  obtain ⟨began, unfinished, unabandoned⟩ := creating
  refine ordered.storied.leads_of_running ⟨?_, fun result finished => ?_, fun abandoned => ?_⟩
  · exact mem_history_traffic.mpr (booked.started number key call began)
  · obtain ⟨outcome, created⟩ :=
      booked.created number key call result began (mem_history_traffic.mp finished)
    exact unfinished outcome created
  · exact unabandoned (mem_history_traffic.mp abandoned)

variable [DecidableEq κ]

/-! ## The flight of the manager -/

private theorem Ordered.change (ordered : dealings.Ordered) (change : dealings.Change move next) :
    next.Ordered := by
  have both : ∀ traffic, Relation.ReflTransGen Flight.Traffic.Change dealings.traffic traffic →
      traffic.Manned ∧ traffic.Storied := by
    intro traffic changes
    induction changes with
    | refl => exact ⟨ordered.manned, ordered.storied⟩
    | tail _ change ih => exact ⟨ih.1.change change, ih.2.change ih.1 change⟩
  obtain ⟨manned, storied⟩ := both next.traffic change.traffic
  exact ⟨manned, storied⟩

theorem ordered_run (moves : List (Move κ ω ρ ε)) : (run moves).Ordered := by
  induction moves using List.reverseRecOn with
  | nil => exact ⟨Flight.led_new, Flight.Traffic.storied_new⟩
  | append_singleton moves move ih =>
      rw [run_append_singleton]
      exact ih.change (change_step ih.manned.unsettled move)

theorem change_run (moves : List (Move κ ω ρ ε)) (move : Move κ ω ρ ε) :
    (run moves).Change move (run (moves ++ [move])) := by
  rw [run_append_singleton]
  exact change_step (ordered_run moves).manned.unsettled move

/-! ## Who creates -/

private theorem Booked.change (booked : dealings.Booked) (ordered : dealings.Ordered)
    (change : dealings.Change move next) : next.Booked := by
  cases change with
  | quiet change history quiet =>
      refine booked.extend rfl (fun one other call leads => ?_) (by simp)
        (fun one other call result _ finished => ?_)
      · exact Or.inl (Flight.Traffic.leads_of_change change history
          (fun event member => (quiet event member).1) leads)
      · obtain ⟨event, member, same⟩ := List.mem_map.mp finished
        cases same
        cases (quiet _ member).2
  | @answer number key phase waker result found seeks free answers =>
      refine booked.extend rfl (fun one other call leads => ?_) (by simp)
        (fun one other call result' creating finished => ?_)
      · exact Or.inl (leads_of_returned leads)
      · -- The call that answers is new, so no creation runs as it.
        have inside := booked.call_lt_size ordered creating
        have same : one = number ∧ other = key ∧ call = dealings.manager.flight.calls.size ∧
            result' = result := by simpa using finished
        omega
  | @begin number key phase waker found seeks free missing =>
      refine booked.extend rfl (fun one other call leads => ?_)
        (fun one other call creating => ?_) (by simp)
      · rcases leads_advance leads with ⟨rfl, rfl, same⟩ | ⟨_, before⟩
        · cases same
          exact Or.inr (by simp)
        · exact Or.inl before
      · have same : one = number ∧ other = key ∧ call = dealings.manager.flight.calls.size := by
          simpa using creating
        obtain ⟨rfl, rfl, rfl⟩ := same
        refine ⟨by simp, fun result finished => ?_⟩
        have before : .finished one other dealings.manager.flight.calls.size result ∈
            dealings.traffic.history := mem_history_traffic.mpr (by simpa [advance] using finished)
        have settled := ordered.storied.recorded.finished _ _ _ _ before
        exact Nat.lt_irrefl _ (Flight.lt_size_of_settled settled)
  | @finish number key call outcome found =>
      refine booked.extend rfl (fun one other call' leads => ?_) (by simp)
        (fun one other call' result _ finished => ?_)
      · exact Or.inl (leads_of_returned leads)
      · have same : one = number ∧ other = key ∧ call' = call ∧
            result = (dealings.manager.install key outcome).1 := by simpa using finished
        obtain ⟨rfl, rfl, rfl, _⟩ := same
        exact ⟨outcome, List.mem_cons_self⟩
  | inject _ | refuse _ | shut =>
      apply booked.note
      · rfl
      · rfl
      · intro number key call same
        cases same

theorem booked_run (moves : List (Move κ ω ρ ε)) : (run moves).Booked := by
  induction moves using List.reverseRecOn with
  | nil =>
      refine ⟨fun number key call leads => ?_, fun number key call creating => ?_,
        fun number key call result creating => ?_⟩
      · cases leads
      · cases creating
      · cases creating
  | append_singleton moves move ih => exact ih.change (ordered_run moves) (change_run moves move)

/-! ## What is created -/

/-- While nothing is injected under a key, it holds what was created for it, and that is
what callers get. -/
structure Sole (dealings : Dealings κ ω ρ ε) (key : κ) : Prop where
  held : ∀ table, dealings.manager.table = some table → ∀ resource,
    table.find? key = some resource ↔
      ∃ number call, .created number key call (.ok resource) ∈ dealings.history
  pending : ∀ number call, dealings.traffic.Leads number key call → ∀ one call' resource,
    .created one key call' (.ok resource) ∉ dealings.history
  once : dealings.history.countP (Event.succeeds key) ≤ 1
  given : ∀ number call resource,
    .flight (.finished number key call (.ok resource)) ∈ dealings.history →
    ∃ one call', .created one key call' (.ok resource) ∈ dealings.history

/-- No creation for the key succeeds, and the key holds what it held before. -/
private theorem Sole.extend {events : List (Event κ ρ ε)} (sole : dealings.Sole key)
    (grown : next.history = dealings.history ++ events)
    (failed : ∀ event ∈ events, event.succeeds key = false)
    (kept : ∀ table, next.manager.table = some table →
      ∃ before, dealings.manager.table = some before ∧ table.find? key = before.find? key)
    (leads : ∀ number call, next.traffic.Leads number key call →
      dealings.traffic.Leads number key call ∨ dealings.manager.lookup key = .ok none)
    (given : ∀ number call resource,
      .flight (.finished number key call (.ok resource)) ∈ events →
      dealings.manager.lookup key = .ok (some resource)) : next.Sole key := by
  have earlier : ∀ number call resource,
      .created number key call (.ok resource) ∈ next.history ↔
        .created number key call (.ok resource) ∈ dealings.history := by
    intro number call resource
    rw [grown, List.mem_append]
    refine or_iff_left fun new => ?_
    have success := failed _ new
    simp [Event.succeeds] at success
  constructor
  case held =>
    intro table opened resource
    obtain ⟨before, opened', same⟩ := kept table opened
    simp only [earlier]
    rw [same]
    exact sole.held before opened' resource
  case pending =>
    intro number call led one call' resource
    rw [earlier]
    rcases leads number call led with before | missing
    · exact sole.pending number call before one call' resource
    · intro created
      obtain ⟨table, opened, absent⟩ := lookup_eq_ok_iff.mp missing
      have found := (sole.held table opened resource).mpr ⟨one, call', created⟩
      rw [absent] at found
      cases found
  case once =>
    have none_new : events.countP (Event.succeeds key) = 0 :=
      List.countP_eq_zero.mpr fun event member => by simp [failed event member]
    rw [grown, List.countP_append, none_new]
    exact sole.once
  case given =>
    intro number call resource finished
    simp only [earlier]
    rw [grown] at finished
    rcases List.mem_append.mp finished with before | new
    · exact sole.given number call resource before
    · obtain ⟨table, opened, found⟩ := lookup_eq_ok_iff.mp (given number call resource new)
      exact (sole.held table opened resource).mp found

private theorem Sole.finish (sole : dealings.Sole key) (manned : dealings.traffic.Manned)
    (leads : dealings.traffic.Leads number key call) (resource : ρ) {manager : Manager κ ω ρ ε}
    (inserted : manager.table = dealings.manager.table.map (fun table => table.insert key resource))
    {result : Except (ManagerError ε) ρ} (own : ∀ other, result = .ok other → other = resource) :
    (dealings.advance number key (.returned result true) manager
      [.created number key call (.ok resource), .flight (.finished number key call result),
        .flight (.returned number result true)]).Sole key := by
  have none_before := sole.pending number call leads
  constructor
  case held =>
    intro table opened other
    obtain ⟨before, _, rfl⟩ := Option.map_eq_some_iff.mp (inserted.symm.trans opened)
    rw [Table.find?_insert_self]
    constructor
    · intro same
      cases same
      exact ⟨number, call, List.mem_append_right _ List.mem_cons_self⟩
    · rintro ⟨one, call', created⟩
      rcases List.mem_append.mp created with earlier | new
      · exact absurd earlier (none_before one call' other)
      · have same : one = number ∧ call' = call ∧ other = resource := by simpa using new
        rw [same.2.2]
  case pending =>
    intro one call' leads'
    -- Two leaders of one key would be the same, and this one has returned.
    rcases leads_advance leads' with ⟨_, _, same⟩ | ⟨different, before⟩
    · cases same
    · exact absurd (Flight.Traffic.eq_of_leads manned.keys_nodup before leads rfl) different
  case once =>
    have none_succeeded : dealings.history.countP (Event.succeeds key) = 0 := by
      refine List.countP_eq_zero.mpr fun event member success => ?_
      cases event with
      | created one other call' outcome =>
          cases outcome with
          | error cause => cases success
          | ok made =>
              obtain rfl : other = key := by simpa [Event.succeeds] using success
              exact none_before one call' made member
      | flight _ | creating _ _ _ | injected _ _ _ | shut _ => cases success
    simp [Dealings.advance, none_succeeded, Event.succeeds]
  case given =>
    intro one call' other finished
    rcases List.mem_append.mp finished with before | new
    · obtain ⟨maker, made, created⟩ := sole.given one call' other before
      exact absurd created (none_before maker made other)
    · have same : one = number ∧ call' = call ∧ .ok other = result := by simpa using new
      rw [own other same.2.2.symm]
      exact ⟨number, call, List.mem_append_right _ List.mem_cons_self⟩

/-- A creation comes to its end, for the key or for another. -/
private theorem Sole.create {key other : κ} (sole : dealings.Sole key) (ordered : dealings.Ordered)
    (found : dealings.callers[number]? = some ⟨other, .leads call⟩) (outcome : Except ε ρ) :
    (dealings.advance number other (.returned (dealings.manager.install other outcome).1 true)
      { (dealings.manager.install other outcome).2 with
        flight := (dealings.manager.flight.settle other call
          (.done (dealings.manager.install other outcome).1)).2 }
      [.created number other call outcome,
        .flight (.finished number other call (dealings.manager.install other outcome).1),
        .flight (.returned number (dealings.manager.install other outcome).1 true)]).Sole key := by
  cases outcome with
  | error cause =>
      exact sole.extend rfl (by simp [Event.succeeds]) (fun table opened => ⟨table, opened, rfl⟩)
        (fun one call' leads => Or.inl (leads_of_returned leads)) (by simp [install_error])
  | ok made =>
      by_cases same : key = other
      · subst same
        have own : ∀ resource,
            (dealings.manager.install key (.ok made)).1 = .ok resource → resource = made := by
          intro resource installed
          cases (install_eq_ok installed).1
          rfl
        refine sole.finish ordered.manned found made ?_ own
        exact table_install dealings.manager key made
      · refine sole.extend rfl (by simp [Event.succeeds, Ne.symm same]) (fun table opened => ?_)
          (fun one call' leads => Or.inl (leads_of_returned leads)) (by simp [same])
        have inserted := table_install dealings.manager other made
        obtain ⟨before, opened', rfl⟩ := Option.map_eq_some_iff.mp (inserted.symm.trans opened)
        exact ⟨before, opened', Table.find?_insert_of_ne _ _ same⟩

private theorem Sole.change {key : κ} (sole : dealings.Sole key) (ordered : dealings.Ordered)
    (change : dealings.Change move next) (spared : ∀ resource, move ≠ .inject key resource) :
    next.Sole key := by
  have unchanged : ∀ table, dealings.manager.table = some table →
      ∃ before, dealings.manager.table = some before ∧ table.find? key = before.find? key :=
    fun table opened => ⟨table, opened, rfl⟩
  cases change with
  | quiet change history quiet =>
      refine sole.extend rfl (fun event member => ?_) unchanged (fun one call leads => ?_)
        (fun one call resource finished => ?_)
      · obtain ⟨_, _, rfl⟩ := List.mem_map.mp member
        rfl
      · exact Or.inl (Flight.Traffic.leads_of_change change history
          (fun event member => (quiet event member).1) leads)
      · obtain ⟨event, member, same⟩ := List.mem_map.mp finished
        cases same
        cases (quiet _ member).2
  | @answer number other phase waker result found seeks free answers =>
      refine sole.extend rfl (by simp [Event.succeeds]) unchanged (fun one call leads => ?_)
        (fun one call resource finished => ?_)
      · exact Or.inl (leads_of_returned leads)
      · have same : one = number ∧ key = other ∧ call = dealings.manager.flight.calls.size ∧
            .ok resource = result := by simpa using finished
        obtain ⟨_, rfl, _, rfl⟩ := same
        exact answers
  | @begin number other phase waker found seeks free missing =>
      refine sole.extend rfl (by simp [Event.succeeds]) unchanged (fun one call leads => ?_)
        (by simp)
      rcases leads_advance leads with ⟨_, rfl, _⟩ | ⟨_, before⟩
      · exact Or.inr missing
      · exact Or.inl before
  | finish found => exact sole.create ordered found _
  | @inject other resource table opened =>
      have different : key ≠ other := by
        rintro rfl
        exact spared resource rfl
      refine sole.extend rfl (by simp [Event.succeeds]) (fun table' opened' => ?_)
        (fun one call leads => ?_) (by simp)
      · cases opened'
        exact ⟨table, opened, Table.find?_insert_of_ne _ _ different⟩
      · exact Or.inl leads
  | refuse _ =>
      exact sole.extend rfl (by simp [Event.succeeds]) unchanged (fun one call leads => Or.inl leads)
        (by simp)
  | shut =>
      refine sole.extend rfl (by simp [Event.succeeds]) (fun table opened => ?_)
        (fun one call leads => Or.inl leads) (by simp)
      cases opened

private theorem sole_run (moves : List (Move κ ω ρ ε)) (key : κ)
    (spared : ∀ resource, .inject key resource ∉ moves) : (run moves).Sole key := by
  induction moves using List.reverseRecOn with
  | nil =>
      constructor
      case held =>
        intro table opened resource
        cases opened
        simp [run, Table.find?]
      case pending =>
        intro number call leads
        cases leads
      case once => exact Nat.zero_le _
      case given =>
        intro number call resource finished
        cases finished
  | append_singleton moves move ih =>
      have before := ih fun resource member => spared resource (List.mem_append_left _ member)
      refine before.change (ordered_run moves) (change_run moves move) ?_
      rintro resource rfl
      exact spared resource (List.mem_append_right _ (List.mem_singleton_self _))

private theorem Sole.unique {key : κ} (sole : dealings.Sole key) {one other call call' : Nat}
    {resource resource' : ρ} (created : .created one key call (.ok resource) ∈ dealings.history)
    (created' : .created other key call' (.ok resource') ∈ dealings.history) :
    resource = resource' := by
  have few := sole.once
  rw [List.countP_eq_length_filter] at few
  have first : .created one key call (.ok resource) ∈
      dealings.history.filter (Event.succeeds key) :=
    List.mem_filter.mpr ⟨created, by simp [Event.succeeds]⟩
  have second : .created other key call' (.ok resource') ∈
      dealings.history.filter (Event.succeeds key) :=
    List.mem_filter.mpr ⟨created', by simp [Event.succeeds]⟩
  cases successes : dealings.history.filter (Event.succeeds key) with
  | nil =>
      rw [successes] at first
      cases first
  | cons event rest =>
      rw [successes] at few first second
      have alone : rest = [] := List.length_eq_zero_iff.mp (by simpa using few)
      subst alone
      have same := (List.mem_singleton.mp first).trans (List.mem_singleton.mp second).symm
      cases same
      rfl

/-- A creation begins only where the key is looked up in vain. -/
theorem missing_of_creating (change : dealings.Change move next)
    (before : .creating number key call ∉ dealings.history)
    (after : .creating number key call ∈ next.history) :
    ∃ table, dealings.manager.table = some table ∧ table.find? key = none := by
  cases change with
  | quiet _ _ _ => exact absurd (by simpa using after) before
  | answer _ _ _ _ => exact absurd (by simpa [advance] using after) before
  | @begin one other phase waker found seeks free missing =>
      rcases List.mem_append.mp after with earlier | new
      · exact absurd earlier before
      · have same : number = one ∧ key = other ∧ call = dealings.manager.flight.calls.size := by
          simpa using new
        rw [same.2.1]
        exact lookup_eq_ok_iff.mp missing
  | finish _ => exact absurd (by simpa [advance] using after) before
  | inject _ | refuse _ | shut => exact absurd (by simpa [note] using after) before

/-- An execution ends with what a look-up then finds, or with the failure of its creation. -/
theorem Change.of_finished {result : Except (ManagerError ε) ρ}
    (change : dealings.Change move next)
    (absent : .flight (.finished number key call result) ∉ dealings.history)
    (happened : .flight (.finished number key call result) ∈ next.history) :
    next.manager.Answers key result ∨
      ∃ cause, result = .error (.create cause) ∧ dealings.traffic.Leads number key call ∧
        .created number key call (.error cause) ∈ next.history := by
  cases change with
  | quiet _ _ quiet =>
      rcases List.mem_append.mp happened with earlier | new
      · exact absurd earlier absent
      · obtain ⟨event, member, same⟩ := List.mem_map.mp new
        cases same
        cases (quiet _ member).2
  | @answer one other phase waker result' found seeks free answers =>
      rcases List.mem_append.mp happened with earlier | new
      · exact absurd earlier absent
      · have same : number = one ∧ key = other ∧ call = dealings.manager.flight.calls.size ∧
            result = result' := by simpa using new
        obtain ⟨_, rfl, _, rfl⟩ := same
        exact Or.inl answers
  | begin _ _ _ _ => exact absurd (by simpa [advance] using happened) absent
  | @finish one other call' outcome found =>
      rcases List.mem_append.mp happened with earlier | new
      · exact absurd earlier absent
      · have same : number = one ∧ key = other ∧ call = call' ∧
            result = (dealings.manager.install other outcome).1 := by simpa using new
        obtain ⟨rfl, rfl, rfl, rfl⟩ := same
        cases outcome with
        | error cause => exact Or.inr ⟨cause, rfl, found, List.mem_append_right _ (by simp)⟩
        | ok resource => exact Or.inl (answers_install dealings.manager key resource)
  | inject _ | refuse _ | shut => exact absurd (by simpa [note] using happened) absent

/-- An execution ends well only where its resource is held. -/
theorem held_of_finished {resource : ρ} (change : dealings.Change move next)
    (before : .flight (.finished number key call (.ok resource)) ∉ dealings.history)
    (after : .flight (.finished number key call (.ok resource)) ∈ next.history) :
    ∃ table, next.manager.table = some table ∧ table.find? key = some resource := by
  rcases change.of_finished before after with answers | ⟨cause, same, _⟩
  · exact lookup_eq_ok_iff.mp answers
  · cases same

theorem exists_move_since {event : Event κ ρ ε} {before after : List (Move κ ω ρ ε)}
    (absent : event ∉ (run before).history)
    (happened : event ∈ (run (before ++ after)).history) : ∃ since move rest,
      after = since ++ move :: rest ∧ event ∉ (run (before ++ since)).history ∧
        event ∈ (run (before ++ since ++ [move])).history := by
  induction after using List.reverseRecOn with
  | nil => exact absurd (List.append_nil before ▸ happened) absent
  | append_singleton after move ih =>
      by_cases earlier : event ∈ (run (before ++ after)).history
      · obtain ⟨since, move', rest, rfl, fresh, then_⟩ := ih earlier
        exact ⟨since, move', rest ++ [move], by simp, fresh, then_⟩
      · exact ⟨after, move, [], rfl, earlier, List.append_assoc .. ▸ happened⟩

theorem exists_move_of_mem_history {event : Event κ ρ ε} {moves : List (Move κ ω ρ ε)}
    (happened : event ∈ (run moves).history) : ∃ before move after,
      moves = before ++ move :: after ∧ event ∉ (run before).history ∧
        event ∈ (run (before ++ [move])).history := by
  have absent : event ∉ (run ([] : List (Move κ ω ρ ε))).history := List.not_mem_nil
  exact exists_move_since absent happened

/-! ## One creation for all -/

/-- What moves come to at a manager, as far as it creates and gives resources. -/
structure CreatesOnce (moves : List (Move κ ω ρ ε)) : Prop where
  /-- At most one creation runs for a key. -/
  alone : ∀ key one call other call', Creating (run moves).history one key call →
    Creating (run moves).history other key call' → one = other ∧ call = call'
  /-- A further move starts a creation only if the manager is open and the key not held. -/
  missing : ∀ move number key call, .creating number key call ∉ (run moves).history →
    .creating number key call ∈ (run (moves ++ [move])).history →
    ∃ table, (run moves).manager.table = some table ∧ table.find? key = none
  /-- At most one creation succeeds for a key under which nothing is injected. -/
  once : ∀ key, (∀ resource, .inject key resource ∉ moves) →
    (run moves).history.countP (Event.succeeds key) ≤ 1
  /-- All who get a resource under such a key get the same. -/
  same : ∀ key, (∀ resource, .inject key resource ∉ moves) →
    ∀ (one other : Nat) (resource resource' : ρ) (fresh fresh' : Bool),
      (run moves).callers[one]? = some ⟨key, .returned (.ok resource) fresh⟩ →
      (run moves).callers[other]? = some ⟨key, .returned (.ok resource') fresh'⟩ →
      resource = resource'
  /-- A resource that a caller gets was held under its key when the execution that the
  caller has led or joined came to its end. -/
  held : ∀ (number : Nat) (key : κ) (resource : ρ) (fresh : Bool),
    (run moves).callers[number]? = some ⟨key, .returned (.ok resource) fresh⟩ →
    ∃ leader call before move after, moves = before ++ move :: after ∧
      (.flight (.started number key call) ∈ (run moves).history ∨
        .flight (.joined number key call) ∈ (run moves).history) ∧
      .flight (.finished leader key call (.ok resource)) ∉ (run before).history ∧
      .flight (.finished leader key call (.ok resource)) ∈ (run (before ++ [move])).history ∧
      ∃ table, (run (before ++ [move])).manager.table = some table ∧
        table.find? key = some resource

theorem createsOnce_run (moves : List (Move κ ω ρ ε)) : CreatesOnce moves := by
  have ordered := ordered_run moves
  have booked := booked_run moves
  constructor
  case alone =>
    intro key one call other call' creating creating'
    have leads := booked.leads_of_creating ordered creating
    have leads' := booked.leads_of_creating ordered creating'
    obtain rfl := Flight.Traffic.eq_of_leads ordered.manned.keys_nodup leads leads' rfl
    cases leads.symm.trans leads'
    exact ⟨rfl, rfl⟩
  case missing =>
    intro move number key call before after
    exact missing_of_creating (change_run moves move) before after
  case once =>
    intro key spared
    exact (sole_run moves key spared).once
  case same =>
    intro key spared one other resource resource' fresh fresh' found found'
    have sole := sole_run moves key spared
    obtain ⟨leader, call, finished, _⟩ := ordered.storied.finished_of_returned found
    obtain ⟨leader', call', finished', _⟩ := ordered.storied.finished_of_returned found'
    obtain ⟨_, _, created⟩ := sole.given leader call resource (mem_history_traffic.mp finished)
    obtain ⟨_, _, created'⟩ := sole.given leader' call' resource' (mem_history_traffic.mp finished')
    exact sole.unique created created'
  case held =>
    intro number key resource fresh found
    obtain ⟨leader, call, finished, took_part⟩ := ordered.storied.finished_of_returned found
    obtain ⟨before, move, after, split, absent, present⟩ :=
      exists_move_of_mem_history (mem_history_traffic.mp finished)
    refine ⟨leader, call, before, move, after, split, ?_, absent, present,
      held_of_finished (change_run before move) absent present⟩
    rcases took_part with started | joined
    · exact Or.inl (mem_history_traffic.mp started)
    · exact Or.inr (mem_history_traffic.mp joined)

-- Two callers share a creation, and a third finds what it has made.
example : (run [.get 7, .get 7, .poll 0 (), .poll 1 (), .create 0 (.ok true), .poll 1 (), .get 7,
    .poll 2 ()] : Dealings Nat Unit Bool Unit).callers =
      [⟨7, .returned (.ok true) true⟩, ⟨7, .returned (.ok true) false⟩,
        ⟨7, .returned (.ok true) true⟩] := by decide

end Dealings

end Cohort.Manager
