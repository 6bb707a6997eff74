import Cohort.Proofs.Rota
import Cohort.Proofs.Scenario.FlightCrews

/-!
# Rounds of the flight scenario

The callers of a round from their release until all are done. Whoever has something left to do is
ready to be polled: a follower stands in the line of its call or has been woken by its leader. So
a round that has come to rest is over. If work takes time then nobody is done before all have
come, so each key has one execution.
-/

set_option autoImplicit false

namespace Cohort.FlightLoad

variable {load next : FlightLoad} {caller total since work : Nat} {key : Nat → String}
  {ready later : List Nat}

/-! ## One execution for each key -/

/-- No two callers of one key start an execution, as long as those who start one are not done
before all have come. -/
structure Sole (key : Nat → String) (total : Nat) (ready : List Nat) (load : FlightLoad) :
    Prop where
  early : 0 < load.newcomers total → (∀ caller ∈ ready, load.phase caller = .idle) ∧
    ∀ caller result fresh, load.phase caller ≠ .done result fresh
  single : ∀ one other execution execution', (load.phase one).run? = some execution →
    (load.phase other).run? = some execution' → key one = key other → one = other

namespace Sole

private theorem late_of_ready (sole : Sole key total ready load) (member : caller ∈ ready)
    (stands : load.phase caller ≠ .idle) : load.newcomers total = 0 :=
  Nat.eq_zero_of_not_pos fun early => stands ((sole.early early).1 caller member)

/-- Once somebody goes on, all have come, and nobody starts an execution any more. -/
private theorem go_on {phase : FlightCaller} (sole : Sole key total ready load)
    (inside : caller < total) (member : caller ∈ ready) (came : load.phase caller ≠ .idle)
    (phases : next.phase = Function.update load.phase caller phase)
    (onward : phase.newcomers = 0) (same : phase.run? = (load.phase caller).run?) :
    Sole key total later next := by
  have coming := newcomers_update inside phases
  rw [sole.late_of_ready member came, onward] at coming
  have runs : ∀ one, (next.phase one).run? = (load.phase one).run? := by
    intro one
    rw [phases, Function.update_apply]
    split
    · next own => rw [own, same]
    · rfl
  refine ⟨fun early => absurd early (by omega), fun one other execution execution' own own' => ?_⟩
  rw [runs] at own own'
  exact sole.single one other execution execution' own own'

/-- Somebody comes, and does not start what another caller of its key has started. -/
private theorem come {phase : FlightCaller} (sole : Sole key total ready load)
    (inside : caller < total) (idle : load.phase caller = .idle)
    (phases : next.phase = Function.update load.phase caller phase)
    (fewer : ∀ one ∈ later, one ∈ ready ∧ one ≠ caller)
    (undone : ∀ result fresh, phase ≠ .done result fresh)
    (alone : ∀ execution, phase.run? = some execution → ∀ one call execution',
      load.phase one = .working call execution' → key one ≠ key caller) :
    Sole key total later next := by
  have some_come : 0 < load.newcomers total := by
    have own : (load.phase caller).newcomers ≤ load.newcomers total := le_weightOf inside
    rwa [idle] at own
  obtain ⟨idle_all, nobody⟩ := sole.early some_come
  -- Nobody is done yet, so whoever has started an execution still works on it.
  have runs_of : ∀ {one execution}, (load.phase one).run? = some execution →
      ∃ call, load.phase one = .working call execution := by
    intro one execution run
    cases stands : load.phase one with
    | idle | following _ _ => simp [stands, FlightCaller.run?] at run
    | done result fresh => exact absurd stands (nobody one result fresh)
    | working call execution' =>
        simp only [stands, FlightCaller.run?, Option.some.injEq] at run
        exact ⟨call, by rw [run]⟩
  constructor
  case early =>
    refine fun _ => ⟨fun one there => ?_, fun one result fresh => ?_⟩
    · obtain ⟨there, different⟩ := fewer one there
      rw [phases, Function.update_of_ne different]
      exact idle_all one there
    · rw [phases, Function.update_apply]
      split
      · exact undone result fresh
      · exact nobody one result fresh
  case single =>
    intro one other execution execution' own own' same
    rw [phases, Function.update_apply] at own own'
    split at own
    · next here =>
        split at own'
        · next there => rw [here, there]
        · obtain ⟨call, working⟩ := runs_of own'
          exact absurd (here ▸ same.symm) (alone execution own other call execution' working)
    · split at own'
      · next there =>
          obtain ⟨call, working⟩ := runs_of own
          exact absurd (there ▸ same) (alone execution' own' one call execution working)
      · exact sole.single one other execution execution' own own' same

end Sole

/-! ## Rounds -/

/-- Something is left for a caller to do as soon as it is polled. -/
def Stirs (rota : Rota FlightLoad) (caller : Nat) : Prop :=
  match rota.state.phase caller with
  | .idle => True
  | .working _ _ => caller ∉ rota.sleepers
  | .following call _ => (rota.state.flight.call call).verdict ≠ none
  | .done _ _ => False

private theorem stirs_congr {rota polled : Rota FlightLoad}
    (stays : polled.state.phase caller = rota.state.phase caller)
    (asleep : caller ∈ polled.sleepers ↔ caller ∈ rota.sleepers)
    (verdict : ∀ call ticket, rota.state.phase caller = .following call ticket →
      (polled.state.flight.call call).verdict = (rota.state.flight.call call).verdict) :
    Stirs polled caller ↔ Stirs rota caller := by
  unfold Stirs
  rw [stays]
  cases stands : rota.state.phase caller with
  | idle | done _ _ => rfl
  | working _ _ => exact not_congr asleep
  | following call ticket => simp only [verdict call ticket stands]

structure Underway (key : Nat → String) (total since work : Nat) (rota : Rota FlightLoad) :
    Prop where
  crew : Crew key total since rota.state
  napping : rota.Napping (min work longestSleep)
  ready : ∀ caller, caller ∈ rota.ready ↔ caller < total ∧ Stirs rota caller
  asleep : ∀ caller ∈ rota.sleepers, ∃ call execution,
    rota.state.phase caller = .working call execution
  sole : 0 < work → Sole key total rota.ready rota.state

/-- How many polls and ticks a caller has yet to cause, that of its sleep apart. -/
def effort : FlightCaller → Nat
  | .idle => 3
  | .working _ _ | .following _ _ => 1
  | .done _ _ => 0

/-- The most polls and ticks that may be left. -/
def left (total : Nat) (rota : Rota FlightLoad) : Nat :=
  weightOf total effort rota.state.phase + rota.sleepers.length

namespace Underway

variable {rota : Rota FlightLoad}

private theorem not_mem_sleepers (underway : Underway key total since work rota)
    (ready : caller ∈ rota.ready) : caller ∉ rota.sleepers := by
  intro sleeps
  obtain ⟨call, execution, working⟩ := underway.asleep caller sleeps
  have stirs := ((underway.ready caller).mp ready).2
  rw [Stirs, working] at stirs
  exact stirs sleeps

private theorem asleep_of_awake {polled : Rota FlightLoad} {phase : FlightCaller}
    (underway : Underway key total since work rota) (ready : caller ∈ rota.ready)
    (phases : polled.state.phase = Function.update rota.state.phase caller phase)
    (sleepers : polled.sleepers = rota.sleepers) :
    ∀ one ∈ polled.sleepers, ∃ call execution, polled.state.phase one = .working call execution := by
  intro one sleeps
  rw [sleepers] at sleeps
  have different : one ≠ caller := fun same => underway.not_mem_sleepers ready (same ▸ sleeps)
  rw [phases, Function.update_of_ne different]
  exact underway.asleep one sleeps

private theorem left_of_awake {polled : Rota FlightLoad} {phase : FlightCaller}
    (inside : caller < total)
    (phases : polled.state.phase = Function.update rota.state.phase caller phase)
    (sleepers : polled.sleepers = rota.sleepers)
    (lighter : effort phase < effort (rota.state.phase caller)) :
    left total polled < left total rota := by
  have efforts := weightOf_update inside effort rota.state.phase phase
  rw [left, left, phases, sleepers]
  omega

private theorem started (underway : Underway key total since work rota) (takes_time : 0 < work)
    (ready : caller ∈ rota.ready) (idle : rota.state.phase caller = .idle)
    (free : rota.state.flight.registry.find? (key caller) = none) :
    Underway key total since work (rota.poll (behavior work key) caller) ∧
      left total (rota.poll (behavior work key) caller) < left total rota := by
  have inside := ((underway.ready caller).mp ready).1
  have crew := underway.crew
  have poll := Rota.polled_poll underway.napping.ready
    (@behavior_of_free rota.state work caller key idle takes_time free)
  have advanced := rota.state.advanced_started (key caller) caller
  rw [← poll.state] at advanced
  generalize rota.poll (behavior work key) caller = polled at poll advanced
  have phases := advanced.phases (crew.size.symm ▸ inside)
  have sleepers := poll.sleepers_of_asleep
  refine ⟨?_, ?_⟩
  · constructor
    case crew => exact crew.started inside idle free advanced
    case napping => exact poll.napping_of_asleep underway.napping (underway.not_mem_sleepers ready)
    case ready =>
      refine poll.mem_ready_iff_of_nobody underway.ready ?_ fun one different => ?_
      · simp [Stirs, phases, sleepers]
      · refine stirs_congr ?_ ?_ fun call ticket _ => ?_
        · rw [phases, Function.update_of_ne different]
        · simp [sleepers, different]
        · rw [advanced.flight, Flight.call_lead]
    case asleep =>
      intro one sleeps
      rw [sleepers, List.mem_append, List.mem_singleton] at sleeps
      rw [phases, Function.update_apply]
      split
      · exact ⟨_, _, rfl⟩
      · next different => exact underway.asleep one (sleeps.resolve_right different)
    case sole =>
      intro _
      refine (underway.sole takes_time).come inside idle phases
        (fun one there => by simpa using (poll.mem_ready one).mp there) (by simp) ?_
      intro execution _ one call execution' working same
      have leads := crew.led.find?_iff.mpr (crew.mem_leaders working)
      rw [same, free] at leads
      cases leads
  · have efforts := weightOf_update inside effort rota.state.phase
      (.working rota.state.flight.calls.size (rota.state.executions + 1))
    rw [idle] at efforts
    simp only [effort] at efforts
    rw [left, left, phases, sleepers, List.length_append, List.length_singleton]
    omega

/-- Work that takes no time is done with the poll in which it starts. -/
private theorem ran (underway : Underway key total since 0 rota) (ready : caller ∈ rota.ready)
    (idle : rota.state.phase caller = .idle)
    (free : rota.state.flight.registry.find? (key caller) = none) :
    Underway key total since 0 (rota.poll (behavior 0 key) caller) ∧
      left total (rota.poll (behavior 0 key) caller) < left total rota := by
  have inside := ((underway.ready caller).mp ready).1
  -- To the crew these are two steps: the call is led, and then it is settled.
  have begun := rota.state.advanced_started (key caller) caller
  have crew := underway.crew.started inside idle free begun
  have poll := Rota.polled_poll underway.napping.ready
    (@behavior_of_free_at_once rota.state caller key idle free)
  have ended := (rota.state.started (key caller) caller).advanced_finished (key caller) caller
    rota.state.flight.calls.size (rota.state.executions + 1)
  have before := begun.phases (underway.crew.size.symm ▸ inside)
  have working : (rota.state.started (key caller) caller).phase caller =
      .working rota.state.flight.calls.size (rota.state.executions + 1) := by
    rw [before, Function.update_self]
  rw [← poll.state] at ended
  generalize rota.poll (behavior 0 key) caller = polled at poll ended
  have phases : polled.state.phase = Function.update rota.state.phase caller
      (.done (.ok (rota.state.executions + 1)) true) := by
    rw [ended.phases (crew.size.symm ▸ inside), before, Function.update_idem]
  have sleepers := poll.sleepers_of_awake (by simp)
  refine ⟨?_, ?_⟩
  · constructor
    case crew => exact crew.finished working ended
    case napping => exact poll.napping_of_awake underway.napping (by simp)
    case ready =>
      refine poll.mem_ready_iff_of_nobody underway.ready ?_ fun one different => ?_
      · simp [Stirs, phases]
      · refine stirs_congr ?_ (by rw [sleepers]) fun call ticket following => ?_
        · rw [phases, Function.update_of_ne different]
        · have apart : call ≠ rota.state.flight.calls.size :=
            Nat.ne_of_lt (underway.crew.lt_size_of_following following)
          rw [ended.flight, Flight.call_settle_of_ne apart, begun.flight, Flight.call_lead]
    case asleep => exact underway.asleep_of_awake ready phases sleepers
    case sole => exact fun takes_time => absurd takes_time (Nat.lt_irrefl 0)
  · exact left_of_awake inside phases sleepers (by simp [idle, effort])

private theorem joined {call : Nat} (underway : Underway key total since work rota)
    (ready : caller ∈ rota.ready) (idle : rota.state.phase caller = .idle)
    (registered : rota.state.flight.registry.find? (key caller) = some call) :
    Underway key total since work (rota.poll (behavior work key) caller) ∧
      left total (rota.poll (behavior work key) caller) < left total rota := by
  have inside := ((underway.ready caller).mp ready).1
  have crew := underway.crew
  have unsettled := crew.led.unsettled _ _ registered
  have poll := Rota.polled_poll underway.napping.ready
    (@behavior_of_running rota.state work caller call key idle registered unsettled)
  have advanced := rota.state.advanced_joined caller call
  rw [← poll.state] at advanced
  generalize rota.poll (behavior work key) caller = polled at poll advanced
  have phases := advanced.phases (crew.size.symm ▸ inside)
  have alike := Flight.alike_parkAt rota.state.flight call none caller
  rw [← advanced.flight] at alike
  have sleepers := poll.sleepers_of_awake (by simp)
  refine ⟨?_, ?_⟩
  · constructor
    case crew => exact crew.joined inside idle registered advanced
    case napping => exact poll.napping_of_awake underway.napping (by simp)
    case ready =>
      refine poll.mem_ready_iff_of_nobody underway.ready ?_ fun one different => ?_
      · simp [Stirs, phases, alike.verdict, unsettled]
      · refine stirs_congr ?_ (by rw [sleepers]) fun number _ _ => alike.verdict number
        rw [phases, Function.update_of_ne different]
    case asleep => exact underway.asleep_of_awake ready phases sleepers
    case sole =>
      intro takes_time
      refine (underway.sole takes_time).come inside idle phases
        (fun one there => by simpa using (poll.mem_ready one).mp there) (by simp) ?_
      simp [FlightCaller.run?]
  · exact left_of_awake inside phases sleepers (by simp [idle, effort])

/-- Whoever ends an execution wakes all who have joined it. -/
theorem finished {call execution : Nat} (underway : Underway key total since work rota)
    (ready : caller ∈ rota.ready)
    (working : rota.state.phase caller = .working call execution) :
    Underway key total since work (rota.poll (behavior work key) caller) ∧
      left total (rota.poll (behavior work key) caller) < left total rota := by
  have inside := ((underway.ready caller).mp ready).1
  have crew := underway.crew
  have leads := crew.mem_leaders working
  have unsettled := crew.led.verdict_eq_none leads
  have lines := crew.lines call unsettled
  have poll := Rota.polled_poll underway.napping.ready
    (@behavior_of_working rota.state work caller call key execution working)
  have advanced := rota.state.advanced_finished (key caller) caller call execution
  rw [← poll.state] at advanced
  generalize rota.poll (behavior work key) caller = polled at poll advanced
  have phases := advanced.phases (crew.size.symm ▸ inside)
  have sleepers := poll.sleepers_of_awake (by simp)
  refine ⟨?_, ?_⟩
  · constructor
    case crew => exact crew.finished working advanced
    case napping => exact poll.napping_of_awake underway.napping (by simp)
    case ready =>
      refine poll.mem_ready_iff underway.ready ⟨?_, ?_⟩ (fun one woken => ?_) ?_
      · simp [lines, working]
      · simp [Stirs, phases]
      · obtain ⟨ticket, following⟩ := (lines one).mp woken
        exact crew.size ▸ lt_size_of_phase (by simp [following])
      · intro one different
        by_cases woken : one ∈ rota.state.flight.wakersAt call
        · obtain ⟨ticket, following⟩ := (lines one).mp woken
          simp [Stirs, phases, different, following, woken, advanced.flight,
            Flight.verdict_settle, crew.led.lt_size leads]
        · rw [or_iff_left woken]
          refine stirs_congr ?_ (by rw [sleepers]) fun number ticket following => ?_
          · rw [phases, Function.update_of_ne different]
          · have apart : number ≠ call := by
              rintro rfl
              exact woken ((lines one).mpr ⟨ticket, following⟩)
            rw [advanced.flight, Flight.call_settle_of_ne apart]
    case asleep => exact underway.asleep_of_awake ready phases sleepers
    case sole =>
      intro takes_time
      exact (underway.sole takes_time).go_on inside ready (by simp [working]) phases rfl
        (by simp [working, FlightCaller.run?])
  · exact left_of_awake inside phases sleepers (by simp [working, effort])

private theorem shared {call : Nat} {ticket : UInt64}
    (underway : Underway key total since work rota) (ready : caller ∈ rota.ready)
    (following : rota.state.phase caller = .following call ticket) :
    Underway key total since work (rota.poll (behavior work key) caller) ∧
      left total (rota.poll (behavior work key) caller) < left total rota := by
  obtain ⟨inside, stirs⟩ := (underway.ready caller).mp ready
  have crew := underway.crew
  rw [Stirs, following] at stirs
  obtain ⟨execution, settled⟩ : ∃ execution,
      (rota.state.flight.call call).verdict = some (.done (.ok execution)) := by
    cases crew.follows caller call ticket following with
    | running leads _ => exact absurd (crew.led.verdict_eq_none (crew.mem_leaders leads)) stirs
    | settled settled _ => exact ⟨_, settled⟩
  have poll := Rota.polled_poll underway.napping.ready
    (@behavior_of_settled rota.state work caller call key ticket _ following settled)
  have advanced := rota.state.advanced_setCaller caller (.done (.ok execution) false)
  rw [← poll.state] at advanced
  generalize rota.poll (behavior work key) caller = polled at poll advanced
  have phases := advanced.phases (crew.size.symm ▸ inside)
  have sleepers := poll.sleepers_of_awake (by simp)
  refine ⟨?_, ?_⟩
  · constructor
    case crew => exact crew.shared following settled advanced
    case napping => exact poll.napping_of_awake underway.napping (by simp)
    case ready =>
      refine poll.mem_ready_iff_of_nobody underway.ready ?_ fun one different => ?_
      · simp [Stirs, phases]
      · refine stirs_congr ?_ (by rw [sleepers]) fun number _ _ => by rw [advanced.flight]
        rw [phases, Function.update_of_ne different]
    case asleep => exact underway.asleep_of_awake ready phases sleepers
    case sole =>
      intro takes_time
      exact (underway.sole takes_time).go_on inside ready (by simp [following]) phases rfl
        (by simp [following, FlightCaller.run?])
  · exact left_of_awake inside phases sleepers (by simp [following, effort])

private theorem poll (underway : Underway key total since work rota) (ready : caller ∈ rota.ready) :
    Underway key total since work (rota.poll (behavior work key) caller) ∧
      left total (rota.poll (behavior work key) caller) < left total rota := by
  cases stands : rota.state.phase caller with
  | idle =>
      cases registered : rota.state.flight.registry.find? (key caller) with
      | some call => exact underway.joined ready stands registered
      | none =>
          rcases Nat.eq_zero_or_pos work with rfl | takes_time
          · exact underway.ran ready stands registered
          · exact underway.started takes_time ready stands registered
  | working call execution => exact underway.finished ready stands
  | following call ticket => exact underway.shared ready stands
  | done result fresh =>
      have stirs := ((underway.ready caller).mp ready).2
      rw [Stirs, stands] at stirs
      exact stirs.elim

/-- As long as somebody is yet to come the clock stands still. -/
private theorem late_of_idle (underway : Underway key total since work rota)
    (idle : rota.ready = []) :
    rota.state.newcomers total = 0 := by
  refine weightOf_eq_zero fun one inside => ?_
  cases stands : rota.state.phase one with
  | working _ _ | following _ _ | done _ _ => rfl
  | idle =>
      refine absurd ?_ (Rota.not_of_idle underway.ready idle inside)
      simp [Stirs, stands]

private theorem tick (underway : Underway key total since work rota) (idle : rota.ready = [])
    (some : rota.asleep ≠ []) :
    Underway key total since work rota.tick ∧ left total rota.tick < left total rota := by
  obtain ⟨napping, state, ready, sleepers⟩ := underway.napping.tick idle some
  refine ⟨?_, ?_⟩
  · constructor
    case crew => exact state ▸ underway.crew
    case napping => exact napping
    case ready =>
      intro one
      rw [ready]
      refine ⟨fun sleeps => ?_, fun ⟨inside, stirs⟩ => ?_⟩
      · obtain ⟨call, execution, working⟩ := underway.asleep one sleeps
        refine ⟨underway.crew.size ▸ lt_size_of_phase (by simp [working]), ?_⟩
        simp [Stirs, state, working, sleepers]
      · -- Somebody else would have been ready before.
        by_contra awake
        refine Rota.not_of_idle underway.ready idle inside ((stirs_congr ?_ ?_ ?_).mp stirs)
        · rw [state]
        · simp [sleepers, awake]
        · simp [state]
    case asleep => simp [sleepers]
    case sole =>
      intro takes_time
      refine ⟨fun early => ?_, state ▸ (underway.sole takes_time).single⟩
      rw [state, underway.late_of_idle idle] at early
      exact absurd early (Nat.lt_irrefl 0)
  · have present : rota.sleepers ≠ [] := fun none => some (List.map_eq_nil_iff.mp none)
    have many := List.length_pos_iff.mpr present
    rw [left, left, state, sleepers, List.length_nil]
    omega

end Underway

theorem underway_advances (key : Nat → String) (total since work : Nat) :
    Rota.Advances (behavior work key)
      (fun count rota => Underway key total since work rota ∧ left total rota = count) where
  polled := by
    rintro _ rota caller ⟨underway, rfl⟩ ready
    obtain ⟨next, fewer⟩ := underway.poll ready
    exact ⟨_, fewer, next, rfl⟩
  ticked := by
    rintro _ rota ⟨underway, rfl⟩ idle some
    obtain ⟨next, fewer⟩ := underway.tick idle some
    exact ⟨_, fewer, next, rfl⟩

/-! ## From the release to the end -/

/-- The load as its callers find it when they are released. -/
def released (load : FlightLoad) (total : Nat) : FlightLoad :=
  { load with callers := Array.replicate total .idle, log := [] }

private theorem phase_released (load : FlightLoad) (total caller : Nat) :
    (load.released total).phase caller = .idle :=
  getD_replicate total FlightCaller.idle caller

private theorem crew_released (key : Nat → String) (led : load.flight.Led [])
    (few : total < 2 ^ 64) :
    Crew key total load.executions (load.released total) := by
  have idle := load.phase_released total
  have nobody : (load.released total).leaders key total = [] :=
    List.filterMap_eq_nil_iff.mpr fun one _ =>
      congrArg (FlightCaller.lead? (key one)) (idle one)
  have nothing : (load.released total).runs total = [] :=
    List.filterMap_eq_nil_iff.mpr fun one _ => congrArg FlightCaller.run? (idle one)
  -- No call is under way, so one that is not settled does not exist yet.
  have unsettled : ∀ call, (load.flight.call call).verdict = none →
      load.flight.calls.size ≤ call := by
    intro call open_
    refine Nat.le_of_not_lt fun inside => ?_
    have led := (led.open_iff call).mpr ⟨inside, open_⟩
    simp at led
  constructor
  case size => exact Array.size_replicate
  case few => exact few
  case led => exact nobody ▸ led
  case lines =>
    intro call open_ one
    change one ∈ load.flight.wakersAt call ↔ _
    simp [Flight.wakersAt_of_size_le (unsettled call open_), idle]
  case orderly =>
    intro call open_
    change (load.flight.call call).line.Orderly ∧
      (load.flight.call call).line.drawn + _ ≤ total
    rw [Flight.call_of_size_le (unsettled call open_)]
    refine ⟨WaitLine.orderly_empty, ?_⟩
    rw [Nat.zero_add]
    exact weightOf_le (fun phase => by cases phase <;> simp [FlightCaller.newcomers]) _ _
  case follows => simp [idle]
  case returned => simp [idle]
  case runs => simp [nothing]
  case executions =>
    rw [nothing]
    rfl

theorem underway_released (key : Nat → String) (work : Nat) (led : load.flight.Led [])
    (few : total < 2 ^ 64) (now : Nat) :
    Underway key total load.executions work
      { now, state := load.released total, ready := List.range total } := by
  have idle := load.phase_released total
  constructor
  case crew => exact crew_released key led few
  case napping => exact Rota.napping_new _ _ _ List.nodup_range
  case ready => simp [Stirs, idle]
  case asleep => simp [Rota.sleepers]
  case sole => exact fun _ => ⟨fun _ => by simp [idle], by simp [idle, FlightCaller.run?]⟩

theorem left_released (load : FlightLoad) (total now : Nat) :
    left total { now, state := load.released total, ready := List.range total } = total * 3 := by
  have efforts : weightOf total effort (load.released total).phase = total * 3 :=
    weightOf_of_alike fun one _ => congrArg effort (load.phase_released total one)
  exact efforts

/-- A round that has come to rest is over. -/
theorem Underway.over {rota : Rota FlightLoad} (underway : Underway key total since work rota)
    (idle : rota.ready = []) (awake : rota.asleep = []) :
    rota.state.flight.Led [] ∧ ∀ caller < total, ∃ execution fresh,
      rota.state.phase caller = .done (.ok execution) fresh := by
  have crew := underway.crew
  have still : ∀ one < total, ¬ Stirs rota one := fun _ =>
    Rota.not_of_idle underway.ready idle
  have ended : ∀ one call execution, rota.state.phase one ≠ .working call execution := by
    intro one call execution working
    have inside : one < total := crew.size ▸ lt_size_of_phase (by simp [working])
    exact still one inside (by simp [Stirs, working, Rota.sleepers, awake])
  refine ⟨?_, fun one inside => ?_⟩
  · have nobody : rota.state.leaders key total = [] := by
      refine List.filterMap_eq_nil_iff.mpr fun one _ => ?_
      cases stands : rota.state.phase one with
      | working call execution => exact absurd stands (ended one call execution)
      | idle | following _ _ | done _ _ => rfl
    exact nobody ▸ crew.led
  · cases stands : rota.state.phase one with
    | idle => exact (still one inside (by simp [Stirs, stands])).elim
    | working call execution => exact absurd stands (ended one call execution)
    | following call ticket =>
        -- Nobody runs it any more, so it is settled, and the follower has been woken.
        cases crew.follows one call ticket stands with
        | running leads _ => exact absurd leads (ended _ _ _)
        | settled settled _ => exact (still one inside (by simp [Stirs, stands, settled])).elim
    | done result fresh =>
        obtain ⟨execution, rfl, _⟩ := crew.returned one result fresh stands
        exact ⟨execution, fresh, rfl⟩

end Cohort.FlightLoad
