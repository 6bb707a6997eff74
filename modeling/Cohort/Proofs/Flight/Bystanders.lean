import Cohort.Proofs.Flight.Passersby
import Cohort.Proofs.Flight.Sharing

/-!
# A follower that was never there

A caller that never leads leaves no trace with the others. A run from which all that it
does is taken out goes the same way for everybody else, move by move, with the same
results and the same wake-ups; only its own place in a line is missing. This holds until a
call has drawn all tickets that there are: the next to join is given one that may be held.
-/

set_option autoImplicit false

namespace Cohort.Flight

variable {κ ω ρ : Type}

/-- Alike but for the tickets that they hold. -/
inductive Caller.Like : Caller κ ρ → Caller κ ρ → Prop where
  | same {caller : Caller κ ρ} : Like caller caller
  | follows {key call ticket ticket'} :
      Like ⟨key, .follows call ticket⟩ ⟨key, .follows call ticket'⟩

private theorem Caller.Like.exists_ticket {kept : Caller κ ρ} {key : κ} {call : Nat}
    {ticket : UInt64} (like : kept.Like ⟨key, .follows call ticket⟩) :
    ∃ ticket', kept = ⟨key, .follows call ticket'⟩ := by
  cases like with
  | same => exact ⟨ticket, rfl⟩
  | follows => exact ⟨_, rfl⟩

private theorem Caller.Like.heeds_iff {kept full : Caller κ ρ} (like : kept.Like full)
    (move : Move κ ω ρ) : kept.phase.Heeds move ↔ full.phase.Heeds move := by
  cases like with
  | same => exact Iff.rfl
  | follows => cases move <;> exact Iff.rfl

private theorem Caller.Like.seeks {kept full : Caller κ ρ} {keptFlight fullFlight : Flight κ ω ρ}
    (like : kept.Like full)
    (verdict : ∀ call, (keptFlight.call call).verdict = (fullFlight.call call).verdict)
    (seeks : full.phase.Seeks fullFlight) : kept.phase.Seeks keptFlight := by
  cases like with
  | same =>
      obtain ⟨key, phase⟩ := kept
      cases phase with
      | idle => trivial
      | follows call ticket => exact (verdict call).trans seeks
      | leads _ | returned _ _ | gone => exact absurd seeks id
  | @follows key call ticket ticket' => exact (verdict call).trans seeks

/-- The first flight is the second without the places of caller `number`. -/
structure Lacks (number : Nat) (kept full : Flight κ (Nat × ω) ρ) : Prop where
  registry : kept.registry = full.registry
  size : kept.calls.size = full.calls.size
  verdict : ∀ call, (kept.call call).verdict = (full.call call).verdict
  lines : ∀ call, kept.wakersAt call =
    (full.wakersAt call).filter fun waker => decide (waker.1 ≠ number)

variable {number : Nat} {kept full : Flight κ (Nat × ω) ρ}

private theorem Lacks.alike (lacks : Lacks number kept full) {kept' full' : Flight κ (Nat × ω) ρ}
    (here : kept.Alike kept') (there : full.Alike full') (lines : ∀ call, kept'.wakersAt call =
      (full'.wakersAt call).filter fun waker => decide (waker.1 ≠ number)) :
    Lacks number kept' full' where
  registry := by rw [here.registry, lacks.registry, there.registry]
  size := by rw [here.size, lacks.size, there.size]
  verdict := by
    intro call
    rw [here.verdict, lacks.verdict, there.verdict]
  lines := lines

section Keyed

variable [DecidableEq κ]

private theorem Lacks.lead (lacks : Lacks number kept full) (key : κ) :
    Lacks number (kept.lead key) (full.lead key) where
  registry := by rw [registry_lead, registry_lead, lacks.registry, lacks.size]
  size := by rw [size_lead, size_lead, lacks.size]
  verdict := by
    intro call
    rw [call_lead, call_lead, lacks.verdict]
  lines := by
    intro call
    simp only [wakersAt, call_lead]
    exact lacks.lines call

private theorem Lacks.settle (lacks : Lacks number kept full) (key : κ) (call : Nat)
    (verdict : Verdict ρ) :
    Lacks number (kept.settle key call verdict).2 (full.settle key call verdict).2 where
  registry := by rw [registry_settle, registry_settle, lacks.registry]
  size := by rw [size_settle, size_settle, lacks.size]
  verdict := by
    intro one
    rw [verdict_settle, verdict_settle, lacks.size, lacks.verdict]
  lines := by
    intro one
    simp only [wakersAt, line_settle, lacks.size]
    split
    · rfl
    · exact lacks.lines one

end Keyed

/-- A waker of caller `number` that replaces one of its own is none of the others'. -/
theorem filter_map_self {waker : Nat × ω} (by_number : waker.1 = number) (wakers : List (Nat × ω)) :
    ((wakers.map fun one => if one.1 = number then waker else one).filter
      fun one => decide (one.1 ≠ number)) = wakers.filter fun one => decide (one.1 ≠ number) := by
  induction wakers with
  | nil => rfl
  | cons front behind ih =>
      by_cases own : front.1 = number
      · simpa [own, by_number] using ih
      · simpa [own] using ih

namespace Traffic

/-- Two runs, the first without the moves of caller `number`. -/
structure Beside (number : Nat) (kept full : Traffic κ (Nat × ω) ρ) : Prop where
  flight : Lacks number kept.flight full.flight
  arrived : kept.callers.length = full.callers.length
  others : ∀ one, one ≠ number →
    Option.Rel Caller.Like kept.callers[one]? full.callers[one]?
  history : kept.history = full.history.filter fun event => decide (event.caller ≠ number)

variable {number one : Nat} {kept full : Traffic κ (Nat × ω) ρ} {key : κ} {phase phase' : Phase ρ}
  {call : Nat} {ticket : UInt64}

private theorem Beside.found (beside : Beside number kept full) (different : one ≠ number)
    {caller : Caller κ ρ} (found : full.callers[one]? = some caller) :
    ∃ caller', kept.callers[one]? = some caller' ∧ caller'.Like caller := by
  have related := beside.others one different
  rw [found] at related
  generalize kept.callers[one]? = caller' at related
  cases related with
  | some like => exact ⟨_, rfl, like⟩

private theorem Beside.follows (beside : Beside number kept full) (different : one ≠ number)
    (found : full.callers[one]? = some ⟨key, .follows call ticket⟩) :
    ∃ ticket', kept.callers[one]? = some ⟨key, .follows call ticket'⟩ := by
  obtain ⟨caller, found', like⟩ := beside.found different found
  obtain ⟨ticket', rfl⟩ := like.exists_ticket
  exact ⟨ticket', found'⟩

private theorem Beside.same (beside : Beside number kept full) (different : one ≠ number)
    (found : full.callers[one]? = some ⟨key, phase⟩)
    (away : ∀ call ticket, phase ≠ .follows call ticket) :
    kept.callers[one]? = some ⟨key, phase⟩ := by
  obtain ⟨caller, found', like⟩ := beside.found different found
  cases like with
  | same => exact found'
  | follows => exact absurd rfl (away _ _)

private theorem Beside.seeks (beside : Beside number kept full) (different : one ≠ number)
    (found : full.callers[one]? = some ⟨key, phase⟩) (seeks : phase.Seeks full.flight) :
    ∃ phase', kept.callers[one]? = some ⟨key, phase'⟩ ∧ phase'.Seeks kept.flight := by
  obtain ⟨⟨key', phase'⟩, found', like⟩ := beside.found different found
  have seeks' := like.seeks beside.flight.verdict seeks
  cases like with
  | same | follows => exact ⟨_, found', seeks'⟩

private theorem Beside.advance (beside : Beside number kept full) (different : one ≠ number)
    {flight flight' : Flight κ (Nat × ω) ρ} (lacks : Lacks number flight' flight)
    (like : Caller.Like ⟨key, phase'⟩ ⟨key, phase⟩) {events : List (Event κ ρ)}
    (by_one : ∀ event ∈ events, event.caller = one) :
    Beside number (kept.advance one key phase' flight' events)
      (full.advance one key phase flight events) where
  flight := lacks
  arrived := by simp only [Traffic.advance, List.length_set, beside.arrived]
  others := by
    intro other apart
    simp only [Traffic.advance, List.getElem?_set, beside.arrived]
    split
    · split
      · exact .some like
      · exact .none
    · exact beside.others other apart
  history := by
    have all : events.filter (fun event => decide (event.caller ≠ number)) = events := by
      refine List.filter_eq_self.mpr fun event member => decide_eq_true ?_
      rw [by_one event member]
      exact different
    simp only [Traffic.advance, List.filter_append, all, beside.history]

private theorem Beside.aside (beside : Beside number kept full) {flight : Flight κ (Nat × ω) ρ}
    (lacks : Lacks number kept.flight flight) (key : κ) (phase : Phase ρ)
    {events : List (Event κ ρ)} (by_number : ∀ event ∈ events, event.caller = number) :
    Beside number kept (full.advance number key phase flight events) where
  flight := lacks
  arrived := by simp only [Traffic.advance, List.length_set, beside.arrived]
  others := by
    intro other apart
    simp only [Traffic.advance, List.getElem?_set_ne (Ne.symm apart)]
    exact beside.others other apart
  history := by
    have none_of : events.filter (fun event => decide (event.caller ≠ number)) = [] := by
      refine List.filter_eq_nil_iff.mpr fun event member => ?_
      simp [by_number event member]
    simp only [Traffic.advance, List.filter_append, none_of, List.append_nil, beside.history]

private theorem Beside.arrive (beside : Beside number kept full) (key : κ) :
    Beside number { kept with callers := kept.callers ++ [{ key }] }
      { full with callers := full.callers ++ [{ key }] } where
  flight := beside.flight
  arrived := by simp [beside.arrived]
  others := by
    intro other apart
    simp only [List.getElem?_append, beside.arrived]
    split
    · exact beside.others other apart
    · generalize ([{ key }] : List (Caller κ ρ))[other - full.callers.length]? = newcomer
      cases newcomer with
      | none => exact .none
      | some caller => exact .some .same
  history := beside.history

/-! ## Lines on both sides -/

variable {past past' : Nat → Option ω} {waker : Nat × ω} {ticket' : UInt64}

private theorem Beside.lacks_join (beside : Beside number kept full) (lined : kept.Lined past call)
    (lined' : full.Lined past' call) (inside : call < full.flight.calls.size)
    (few : (kept.flight.call call).line.drawn < 2 ^ 64)
    (few' : (full.flight.call call).line.drawn < 2 ^ 64) (other : waker.1 ≠ number) :
    Lacks number (kept.flight.parkAt call none waker) (full.flight.parkAt call none waker) := by
  refine beside.flight.alike (alike_parkAt ..) (alike_parkAt ..) fun one => ?_
  have lines := beside.flight.lines one
  by_cases same : one = call
  · subst same
    rw [lined.wakersAt_join (beside.flight.size ▸ inside) few, lined'.wakersAt_join inside few',
      List.filter_append, lines]
    simp [other]
  · rw [wakersAt_parkAt_of_ne same, wakersAt_parkAt_of_ne same, lines]

private theorem Beside.lacks_wait (beside : Beside number kept full) (lined : kept.Lined past call)
    (lined' : full.Lined past' call) (found : kept.callers[one]? = some ⟨key, .follows call ticket⟩)
    (found' : full.callers[one]? = some ⟨key, .follows call ticket'⟩)
    (running : (full.flight.call call).verdict = none) (own : waker.1 = one) :
    Lacks number (kept.flight.parkAt call (some ticket) waker)
      (full.flight.parkAt call (some ticket') waker) := by
  refine beside.flight.alike (alike_parkAt ..) (alike_parkAt ..) fun other => ?_
  have lines := beside.flight.lines other
  by_cases same : other = call
  · subst same
    have running' := (beside.flight.verdict other).trans running
    rw [lined.wakersAt_wait found running', lined'.wakersAt_wait found' running, lines,
      List.filter_map]
    -- Whoever is called by the new waker was called by the old one.
    refine congrArg _ (List.filter_congr fun before _ => ?_)
    simp only [Function.comp_apply]
    split
    · next by_one => rw [by_one, own]
    · rfl
  · rw [wakersAt_parkAt_of_ne same, wakersAt_parkAt_of_ne same, lines]

private theorem Beside.lacks_leave (beside : Beside number kept full) (lined : kept.Lined past call)
    (lined' : full.Lined past' call) (found : kept.callers[one]? = some ⟨key, .follows call ticket⟩)
    (found' : full.callers[one]? = some ⟨key, .follows call ticket'⟩) :
    Lacks number (kept.flight.leave call ticket) (full.flight.leave call ticket') := by
  refine beside.flight.alike (alike_leave ..) (alike_leave ..) fun other => ?_
  have lines := beside.flight.lines other
  by_cases same : other = call
  · subst same
    rw [lined.wakersAt_leave found, lined'.wakersAt_leave found', lines, List.filter_filter,
      List.filter_filter]
    exact List.filter_congr fun _ _ => Bool.and_comm ..
  · rw [wakersAt_leave_of_ne same, wakersAt_leave_of_ne same, lines]

/-! ## Move by move -/

/-- Everything that is known of the lines of a run. -/
structure Booked (traffic : Traffic κ (Nat × ω) ρ) (past : Nat → Option ω) : Prop where
  manned : traffic.Manned
  lined : ∀ call, traffic.Lined past call
  counted : traffic.Counted

/-- Without the moves of one caller no call draws more tickets. -/
private theorem Beside.drawn_le (beside : Beside number kept full) (booked : kept.Booked past)
    (booked' : full.Booked past') (call : Nat) :
    (kept.flight.call call).line.drawn ≤ (full.flight.call call).line.drawn := by
  rw [booked.counted, booked'.counted, beside.history]
  exact List.filter_sublist.countP_le

section Keyed

variable [DecidableEq κ] {move : Move κ (Nat × ω) ρ} {woken : List (Nat × ω)}
  {next : Traffic κ (Nat × ω) ρ}

/-- A move of somebody else does the same on both sides. -/
private theorem Beside.turn_other (beside : Beside number kept full) (booked : kept.Booked past)
    (booked' : full.Booked past') (signs : move.Signs) (other : move.caller? ≠ some number)
    (few : ∀ call, (next.flight.call call).line.drawn ≤ 2 ^ 64)
    (turn : full.Turn move woken next) :
    ∃ next', kept.Turn move (woken.filter fun waker => decide (waker.1 ≠ number)) next' ∧
      Beside number next' next := by
  have verdict := beside.flight.verdict
  cases turn with
  | @stay _ one own deaf =>
      have different : one ≠ number := fun same => other (same ▸ own)
      refine ⟨kept, .stay own fun caller found heeds => ?_, beside⟩
      have related := beside.others one different
      rw [found] at related
      generalize present : full.callers[one]? = caller' at related
      cases related with
      | some like => exact deaf _ present ((like.heeds_iff move).mp heeds)
  | call => exact ⟨_, .call, beside.arrive _⟩
  | @lead one key phase waker found seeks free =>
      have different : one ≠ number := fun same => other (congrArg some same)
      obtain ⟨phase', found', seeks'⟩ := beside.seeks different found seeks
      refine ⟨_, .lead found' seeks' (beside.flight.registry ▸ free), ?_⟩
      rw [beside.flight.size]
      exact beside.advance different (beside.flight.lead key) .same (by simp [Event.caller])
  | @join one key phase waker call found seeks registered =>
      have different : one ≠ number := fun same => other (congrArg some same)
      obtain ⟨phase', found', seeks'⟩ := beside.seeks different found seeks
      have inside := booked'.manned.lt_size (booked'.manned.find?_iff.mp registered)
      have room := drawn_lt_of_parkAt inside (few call)
      have lacks := beside.lacks_join (booked.lined call) (booked'.lined call) inside
        (Nat.lt_of_le_of_lt (beside.drawn_le booked booked' call) room) room
        (fun same => different (signs.symm.trans same))
      refine ⟨_, .join found' seeks' (beside.flight.registry ▸ registered), ?_⟩
      exact beside.advance different lacks .follows (by simp [Event.caller])
  | @wait one key call ticket waker found running =>
      have different : one ≠ number := fun same => other (congrArg some same)
      obtain ⟨ticket', found'⟩ := beside.follows different found
      have lacks := beside.lacks_wait (booked.lined call) (booked'.lined call) found' found running
        signs
      exact ⟨_, .wait found' ((verdict call).trans running),
        beside.advance different lacks .follows (by simp)⟩
  | @share one key call ticket waker result found done =>
      have different : one ≠ number := fun same => other (congrArg some same)
      obtain ⟨ticket', found'⟩ := beside.follows different found
      exact ⟨_, .share found' ((verdict call).trans done),
        beside.advance different beside.flight .same (by simp [Event.caller])⟩
  | @finish one key call result found =>
      have different : one ≠ number := fun same => other (congrArg some same)
      have found' := beside.same different found (by simp)
      rw [← beside.flight.lines call]
      exact ⟨_, .finish found',
        beside.advance different (beside.flight.settle ..) .same (by simp [Event.caller])⟩
  | @abandon one key call found =>
      have different : one ≠ number := fun same => other (congrArg some same)
      have found' := beside.same different found (by simp)
      rw [← beside.flight.lines call]
      exact ⟨_, .abandon found',
        beside.advance different (beside.flight.settle ..) .same (by simp [Event.caller])⟩
  | @forgo one key found =>
      have different : one ≠ number := fun same => other (congrArg some same)
      exact ⟨_, .forgo (beside.same different found (by simp)),
        beside.advance different beside.flight .same (by simp)⟩
  | @depart one key call ticket found =>
      have different : one ≠ number := fun same => other (congrArg some same)
      obtain ⟨ticket', found'⟩ := beside.follows different found
      have lacks := beside.lacks_leave (booked.lined call) (booked'.lined call) found' found
      exact ⟨_, .depart found', beside.advance different lacks .same (by simp)⟩

/-- What caller `number` does itself, short of leading, nobody else can tell. -/
private theorem Beside.turn_own (beside : Beside number kept full) (booked : full.Booked past)
    (storied : full.Storied) (signs : move.Signs) (own : move.caller? = some number)
    (few : ∀ call, (next.flight.call call).line.drawn ≤ 2 ^ 64)
    (turn : full.Turn move woken next)
    (never : ∀ key call, .started number key call ∉ next.history) :
    woken = [] ∧ Beside number kept next := by
  have never_leads : ∀ {key call}, ¬ full.Leads number key call := fun leads =>
    never _ _ (turn.history_prefix.subset (storied.started_of_leads leads))
  cases turn with
  | stay _ _ => exact ⟨rfl, beside⟩
  | call => cases own
  | lead _ _ _ =>
      cases own
      exact absurd (List.mem_append_right _ (List.mem_singleton_self _)) (never _ _)
  | @join one key phase waker call found seeks registered =>
      cases own
      refine ⟨rfl, beside.aside ?_ _ _ (by simp [Event.caller])⟩
      refine beside.flight.alike (alike_refl _) (alike_parkAt ..) fun other => ?_
      have inside := booked.manned.lt_size (booked.manned.find?_iff.mp registered)
      have by_number : waker.1 = number := signs
      by_cases same : other = call
      · subst same
        have room := drawn_lt_of_parkAt inside (few other)
        rw [(booked.lined other).wakersAt_join inside room, List.filter_append,
          beside.flight.lines]
        simp [by_number]
      · rw [wakersAt_parkAt_of_ne same, beside.flight.lines]
  | @wait one key call ticket waker found running =>
      cases own
      refine ⟨rfl, beside.aside ?_ _ _ (by simp)⟩
      refine beside.flight.alike (alike_refl _) (alike_parkAt ..) fun other => ?_
      have by_number : waker.1 = number := signs
      by_cases same : other = call
      · subst same
        rw [(booked.lined other).wakersAt_wait found running, beside.flight.lines]
        exact (filter_map_self by_number _).symm
      · rw [wakersAt_parkAt_of_ne same, beside.flight.lines]
  | share _ _ =>
      cases own
      exact ⟨rfl, beside.aside beside.flight _ _ (by simp [Event.caller])⟩
  | finish found | abandon found =>
      cases own
      exact absurd found never_leads
  | forgo _ =>
      cases own
      exact ⟨rfl, beside.aside beside.flight _ _ (by simp)⟩
  | @depart one key call ticket found =>
      cases own
      refine ⟨rfl, beside.aside ?_ _ _ (by simp)⟩
      refine beside.flight.alike (alike_refl _) (alike_leave ..) fun other => ?_
      by_cases same : other = call
      · subst same
        rw [(booked.lined other).wakersAt_leave found, List.filter_filter, beside.flight.lines]
        simp
      · rw [wakersAt_leave_of_ne same, beside.flight.lines]

end Keyed

/-! ## Whole runs -/

/-- The run without all that caller `number` does. -/
def without (number : Nat) (moves : List (Move κ ω ρ)) : List (Move κ ω ρ) :=
  moves.filter fun move => decide (move.caller? ≠ some number)

private theorem without_append_singleton (number : Nat) (moves : List (Move κ ω ρ))
    (move : Move κ ω ρ) :
    without number (moves ++ [move]) =
      if move.caller? = some number then without number moves
      else without number moves ++ [move] := by
  simp only [without, List.filter_append]
  split <;> simp_all

private theorem without_append (number : Nat) (moves later : List (Move κ ω ρ)) :
    without number (moves ++ later) = without number moves ++ without number later :=
  List.filter_append ..

private theorem beside_new (number : Nat) : Beside number ({} : Traffic κ (Nat × ω) ρ) {} where
  flight := ⟨rfl, rfl, fun _ => rfl, fun _ => rfl⟩
  arrived := rfl
  others := fun _ _ => .none
  history := rfl

section Keyed

variable [DecidableEq κ] {moves : List (Move κ ω ρ)}

private theorem booked_run (few : ∀ call, (run moves).history.countP (Event.joins call) ≤ 2 ^ 64) :
    (run (moves.map Move.signed)).Booked (latest moves) where
  manned := manned_run _
  lined := fun call => lined_run moves call (few call)
  counted := counted_run _

/-- Both runs go on side by side, and call the same wakers but for those of `number`. -/
theorem beside_run (few : ∀ call, (run moves).history.countP (Event.joins call) ≤ 2 ^ 64)
    (never : ∀ key call, .started number key call ∉ (run moves).history) :
    Beside number (run ((without number moves).map Move.signed)) (run (moves.map Move.signed)) ∧
      wakeUps (without number moves) =
        (wakeUps moves).filter fun waker => decide (waker.1 ≠ number) := by
  induction moves using List.reverseRecOn with
  | nil => exact ⟨beside_new number, rfl⟩
  | append_singleton moves move ih =>
      have few_before := fun call => few_of_append (few call)
      have grown := history_prefix_run moves [move]
      obtain ⟨beside, woken⟩ := ih few_before fun key call member =>
        never key call (grown.subset member)
      have booked := booked_run few_before
      have turn := booked.manned.unsettled.turn move.signed
      have room : ∀ call, (((run (moves.map Move.signed)).step move.signed).2.flight.call
          call).line.drawn ≤ 2 ^ 64 := by
        intro call
        rw [← run_append_singleton, ← List.map_singleton, ← List.map_append, counted_run,
          history_signed]
        exact few call
      rw [without_append_singleton, List.map_append, List.map_singleton, run_append_singleton,
        wakeUps_append_singleton]
      split
      · next own =>
          rw [← caller?_signed] at own
          rw [← history_signed, List.map_append, List.map_singleton, run_append_singleton] at never
          have done :=
            beside.turn_own booked (storied_run _) (signs_signed move) own room turn never
          exact ⟨done.2, by rw [done.1, List.append_nil, woken]⟩
      · next other =>
          rw [← caller?_signed] at other
          -- Deleting events of `number` deletes joins at most, so tickets do not run out.
          have few_kept : ∀ call,
              (run (without number moves)).history.countP (Event.joins call) ≤ 2 ^ 64 := by
            intro call
            rw [← history_signed, beside.history, history_signed]
            exact Nat.le_trans List.filter_sublist.countP_le (few_before call)
          have booked_kept := booked_run few_kept
          obtain ⟨next, turn', beside'⟩ :=
            beside.turn_other booked_kept booked (signs_signed move) other room turn
          have stepped := booked_kept.manned.unsettled.step_eq turn'
          rw [List.map_append, List.map_singleton, run_append_singleton, wakeUps_append_singleton,
            stepped, List.filter_append, woken]
          exact ⟨beside', rfl⟩

/-! ## What the others see -/

/-- Nobody but caller `number` can tell the run from the one without its moves. -/
structure Unnoticed (number : Nat) (moves : List (Move κ ω ρ)) : Prop where
  /-- Everybody else has come to the same point, with the same results. -/
  others : ∀ one, one ≠ number → Option.Rel Caller.Like
    (run (without number moves)).callers[one]? (run moves).callers[one]?
  history : (run (without number moves)).history =
    (run moves).history.filter fun event => decide (event.caller ≠ number)
  wakeUps : wakeUps (without number moves) =
    (wakeUps moves).filter fun waker => decide (waker.1 ≠ number)
  inFlight : (run (without number moves)).flight.inFlight = (run moves).flight.inFlight
  waiting : ∀ key call, (run moves).flight.registry.find? key = some call →
    (run moves).Follows number key call →
      (run moves).flight.waiters key = (run (without number moves)).flight.waiters key + 1
  elsewhere : ∀ key, (∀ call, (run moves).flight.registry.find? key = some call →
    ¬ (run moves).Follows number key call) →
      (run moves).flight.waiters key = (run (without number moves)).flight.waiters key

/-- A caller has one place in a line, or none. -/
private theorem length_of_nodup {wakers : List (Nat × ω)} (distinct : (wakers.map Prod.fst).Nodup) :
    wakers.length = (wakers.filter fun waker => decide (waker.1 ≠ number)).length +
      if number ∈ wakers.map Prod.fst then 1 else 0 := by
  rw [← distinct.count, List.count, List.countP_map, ← List.countP_eq_length_filter,
    List.length_eq_countP_add_countP fun waker => decide (waker.1 ≠ number)]
  congr 1
  exact List.countP_congr fun waker _ => by simp

/-- The number of those who wait for a key differs by the place of caller `number`. -/
private theorem Beside.waiters_eq (beside : Beside number kept full) (booked : full.Booked past)
    (registered : full.flight.registry.find? key = some call) :
    full.flight.waiters key = kept.flight.waiters key +
      if number ∈ (full.flight.wakersAt call).map Prod.fst then 1 else 0 := by
  have registered' := beside.flight.registry ▸ registered
  rw [waiters_of_registered registered, waiters_of_registered registered', beside.flight.lines]
  exact length_of_nodup (booked.lined call).owners_nodup

/-- Whoever never leads in a run goes unnoticed in it, from its beginning to its end, as long as
the tickets of no call have wrapped around: two followers with one ticket share a place. -/
theorem unnoticed_run (number : Nat) (moves : List (Move κ ω ρ))
    (few : ∀ call, (run moves).history.countP (Event.joins call) ≤ 2 ^ 64)
    (never : ∀ key call, .started number key call ∉ (run moves).history) :
    ∀ before, before <+: moves → Unnoticed number before := by
  rintro before ⟨after, rfl⟩
  have few_before := fun call => few_of_append (few call)
  have grown := history_prefix_run before after
  obtain ⟨beside, woken⟩ := beside_run few_before fun key call member =>
    never key call (grown.subset member)
  have booked := booked_run few_before
  have owner_iff : ∀ key call, (run before).flight.registry.find? key = some call →
      (number ∈ ((run (before.map Move.signed)).flight.wakersAt call).map Prod.fst ↔
        (run before).Follows number key call) := by
    intro key call registered
    have registered' := (registry_signed before).symm ▸ registered
    rw [(booked.lined call).mem_owners_iff (booked.manned.unsettled key call registered'),
      ← follows_signed]
    refine ⟨?_, fun follows => ⟨key, follows⟩⟩
    rintro ⟨key', ticket, found⟩
    obtain ⟨leader, leads, _⟩ := booked.manned.find?_iff_leads.mp registered'
    have storied := storied_run (before.map Move.signed)
    obtain rfl := storied.key_of_follows (storied.started_of_leads leads) found
    exact ⟨ticket, found⟩
  constructor
  case others =>
    have others := beside.others
    rw [callers_signed, callers_signed] at others
    exact others
  case history => rw [← history_signed, beside.history, history_signed]
  case wakeUps => exact woken
  case inFlight =>
    have registry := beside.flight.registry
    rw [registry_signed, registry_signed] at registry
    rw [inFlight, registry, inFlight]
  case waiting =>
    intro key call registered follows
    have owner := (owner_iff key call registered).mpr follows
    have waiters := beside.waiters_eq booked ((registry_signed before).symm ▸ registered)
    rwa [if_pos owner, waiters_signed, waiters_signed] at waiters
  case elsewhere =>
    intro key absent
    rw [← waiters_signed, ← waiters_signed (without number before)]
    cases registered : (run (before.map Move.signed)).flight.registry.find? key with
    | none => rw [waiters_of_free registered, waiters_of_free (beside.flight.registry ▸ registered)]
    | some call =>
        have registered' := registry_signed before ▸ registered
        rw [beside.waiters_eq booked registered,
          if_neg fun owner => absent call registered' ((owner_iff key call registered').mp owner)]
        rfl

end Keyed

/-- Caller 2 follows a call that is abandoned and then the one of caller 1, is polled twice
there and dropped before the end, while caller 3 waits behind it. -/
def passingMoves : List (Move Nat Nat Nat) :=
  [.call 7, .call 7, .call 7, .call 7, .poll 0 10, .poll 2 12, .poll 1 11, .leave 0, .poll 1 21,
    .poll 2 22, .poll 3 23, .poll 2 32, .leave 2, .finish 1 5, .poll 3 33]

theorem passingMoves_unnoticed :
    (∀ call, (run passingMoves).history.countP (Event.joins call) ≤ 2 ^ 64) ∧
      (∀ key call, .started 2 key call ∉ (run passingMoves).history) ∧
      wakeUps passingMoves = [(2, 12), (1, 11), (3, 23)] ∧
      ∀ before, before <+: passingMoves → Unnoticed 2 before := by
  have few : ∀ call, (run passingMoves).history.countP (Event.joins call) ≤ 2 ^ 64 := fun call =>
    Nat.le_trans List.countP_le_length (by decide)
  have follows_only : ∀ event ∈ (run passingMoves).history, event.starts 2 = false := by decide
  have never : ∀ key call, .started 2 key call ∉ (run passingMoves).history :=
    fun key call member => Bool.noConfusion (follows_only _ member)
  exact ⟨few, never, by decide, unnoticed_run 2 passingMoves few never⟩

/-! ## Tickets that come round again -/

private theorem map_signed_passersby (key : κ) (waker : Nat → ω) (first count : Nat) :
    (passersby key waker first count : List (Move κ ω ρ)).map Move.signed =
      passersby key (fun one => (one, waker one)) first count := by
  induction count with
  | zero => rfl
  | succ count ih =>
      rw [passersby, List.map_append, ih]
      rfl

private theorem without_passersby (key : κ) (waker : Nat → ω) {first : Nat}
    (before : number < first)
    (count : Nat) : without number (passersby key waker first count : List (Move κ ω ρ)) =
      passersby key waker first count := by
  induction count with
  | zero => rfl
  | succ count ih =>
      have different : first + count ≠ number := by omega
      rw [passersby, without_append, ih]
      simp [without, Move.caller?, different]

/-- While caller 1 follows caller 0, so many others come and go. One more joins them, caller 1
goes away, and caller 0 comes to its end. -/
def crowdedMoves (count : Nat) : List (Move Nat Nat Nat) :=
  [.call 7, .call 7, .poll 0 10, .poll 1 11] ++ passersby 7 id 2 count ++
    [.call 7, .poll (2 + count) 12] ++ [.leave 1] ++ [.finish 0 5]

/-- Those who come to call 0 after `moves`, signed. -/
def crowd (moves : List (Move Nat (Nat × Nat) Nat)) (count : Nat) :
    List (Move Nat (Nat × Nat) Nat) :=
  moves ++ passersby 7 (fun one => (one, one)) 2 count ++
    [.call 7, .poll (2 + count) (2 + count, 12)]

/-- The last to come is given the ticket of caller 1 and stands in its place, which is gone with
caller 1. -/
theorem crowdedMoves_run {count : Nat} (wraps : 1 + count = 2 ^ 64) :
    (∀ key call, .started 1 key call ∉ (run (crowdedMoves count)).history) ∧
      wakeUps (crowdedMoves count) = [] := by
  let opening : List (Move Nat (Nat × Nat) Nat) :=
    [.call 7, .call 7, .poll 0 (0, 10), .poll 1 (1, 11)]
  have registered : (run opening).flight.registry.find? 7 = some 0 := by decide
  have first : (run opening).callers.length = 2 := by decide
  have begun : ((run opening).flight.call 0).line = ⟨1, [⟨0, (1, 11)⟩]⟩ := by decide
  have absent : ∀ drawn < count, .ofNat (((run opening).flight.call 0).line.drawn + drawn) ∉
      ((run opening).flight.call 0).line.tickets := by
    intro drawn before member
    rw [begun] at member
    have same := congrArg UInt64.toNat (List.mem_singleton.mp member)
    rw [UInt64.toNat_ofNat'] at same
    simp at same
    omega
  have joined : crowd opening count = opening ++ passersby 7 (fun one => (one, one)) 2 count ++
      [.call 7, .poll (2 + count) (2 + count, 12)] := rfl
  obtain ⟨callers, line, started, silent⟩ := joined_run registered first _ absent _ joined
  rw [begun, wraps] at line
  have leads := callers 0 ⟨7, .leads 0⟩ (by decide)
  have inside := (manned_run (crowd opening count)).lt_size (mem_leaders leads)
  obtain ⟨departed, silent'⟩ := run_depart (callers 1 ⟨7, .follows 0 0⟩ (by decide))
  have leads' : (run (crowd opening count ++ [.leave 1])).callers[0]? = some ⟨7, .leads 0⟩ := by
    rw [departed, ← leads]
    exact List.getElem?_set_ne (by decide)
  have alone : (run (crowd opening count ++ [.leave 1])).flight.wakersAt 0 = [] := by
    rw [departed, wakersAt]
    simp only [advance]
    rw [line_leave, if_pos ⟨rfl, inside⟩, line]
    rfl
  have full : (crowdedMoves count).map Move.signed =
      crowd opening count ++ [.leave 1] ++ [.finish 0 5] := by
    rw [crowdedMoves, List.map_append, List.map_append, List.map_append, List.map_append,
      map_signed_passersby, joined]
    rfl
  constructor
  · intro key call member
    have early : .started 1 key call ∈ (run opening).history := by
      apply started
      rw [← history_signed, full, run_append_singleton, step_finish_of_leads leads',
        departed] at member
      simpa [advance] using member
    have history : (run opening).history = [.started 0 7 0, .joined 1 7 0] := by decide
    simp [history] at early
  · rw [wakeUps, full, called_finish leads', silent', silent, alone]
    rfl

/-- Without caller 1 the last to come has a place of its own. -/
theorem wakeUps_without_crowdedMoves (count : Nat) :
    wakeUps (without 1 (crowdedMoves count)) = [(2 + count, 12)] := by
  let opening : List (Move Nat (Nat × Nat) Nat) := [.call 7, .call 7, .poll 0 (0, 10)]
  have registered : (run opening).flight.registry.find? 7 = some 0 := by decide
  have first : (run opening).callers.length = 2 := by decide
  have begun : ((run opening).flight.call 0).line = ⟨0, []⟩ := by decide
  have absent : ∀ drawn < count, .ofNat (((run opening).flight.call 0).line.drawn + drawn) ∉
      ((run opening).flight.call 0).line.tickets := by
    intro drawn before member
    rw [begun] at member
    cases member
  have joined : crowd opening count = opening ++ passersby 7 (fun one => (one, one)) 2 count ++
      [.call 7, .poll (2 + count) (2 + count, 12)] := rfl
  obtain ⟨callers, line, _, silent⟩ := joined_run registered first _ absent _ joined
  rw [begun] at line
  have kept : (without 1 (crowdedMoves count)).map Move.signed =
      crowd opening count ++ [.finish 0 5] := by
    have last : 2 + count ≠ 1 := by omega
    rw [crowdedMoves, without_append, without_append, without_append, without_append,
      without_passersby 7 id (by decide), List.map_append, List.map_append, List.map_append,
      List.map_append, map_signed_passersby, joined]
    simp [without, Move.caller?, last, Move.signed, opening]
  rw [wakeUps, kept, called_finish (callers 0 ⟨7, .leads 0⟩ (by decide)), silent, wakersAt, line]
  rfl

/-- Callers 1 and 2 are polled with one waker, which is called for each of them. -/
def sharedMoves : List (Move Nat Nat Nat) :=
  [.call 7, .call 7, .call 7, .poll 0 10, .poll 1 11, .poll 2 11, .finish 0 5]

/-- The bound is needed: once a ticket has come round again, whoever goes takes the place of
somebody else along. Nor can the wake-ups be told by their wakers alone. -/
theorem crowdedMoves_noticed :
    (¬ ∀ (number : Nat) (moves : List (Move Nat Nat Nat)),
      (∀ key call, .started number key call ∉ (run moves).history) →
      ∀ before, before <+: moves → Unnoticed number before) ∧
    ¬ ∀ (number one : Nat) (moves : List (Move Nat Nat Nat)) (waker : Nat),
      (∀ call, (run moves).history.countP (Event.joins call) ≤ 2 ^ 64) →
      (∀ key call, .started number key call ∉ (run moves).history) →
      one ≠ number → latest moves one = some waker →
      (called (without number moves)).count waker = (called moves).count waker := by
  constructor
  · intro always
    have wraps : 1 + (2 ^ 64 - 1) = 2 ^ 64 := by decide
    obtain ⟨never, silent⟩ := crowdedMoves_run wraps
    have woken := (always 1 _ never _ (List.prefix_refl _)).wakeUps
    rw [wakeUps_without_crowdedMoves, silent] at woken
    cases woken
  · intro always
    have few : ∀ call, (run sharedMoves).history.countP (Event.joins call) ≤ 2 ^ 64 := fun call =>
      Nat.le_trans List.countP_le_length (by decide)
    have follows_only : ∀ event ∈ (run sharedMoves).history, event.starts 1 = false := by decide
    have never : ∀ key call, .started 1 key call ∉ (run sharedMoves).history :=
      fun key call member => Bool.noConfusion (follows_only _ member)
    have same := always 1 2 sharedMoves 11 few never (by decide) (by decide)
    revert same
    decide

end Traffic

end Cohort.Flight
