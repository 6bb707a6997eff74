import Cohort.Proofs.Limit.Audit
import Cohort.Proofs.Scenario.LimitContest
import Cohort.Proofs.Scenario.Rounds

/-!
# Reports of the limit scenario

Between the rounds all tokens are back and nobody waits. So no check ever fails, the counts of the
report are those of the configuration alone, whatever order callers are polled in, and never do
more callers hold a token than there are tokens.
-/

set_option autoImplicit false

namespace Cohort

/-- There are tokens, work takes time, the callers of a round can be listed, and those of all
rounds get tickets of their own. -/
structure Config.Contestable (config : Config) : Prop where
  capacity : 1 ≤ config.capacity
  work : 1 ≤ config.work
  few : config.callers ≤ maxCallers
  fits : config.callers * config.rounds < 2 ^ 64

namespace LimitLoad

variable {config : Config} {timetable : Timetable} {course later : Course} {index now : Nat}
  {load : LimitLoad} {report : Report}

/-! ## A round -/

private theorem foldlM_count (report : Report) {callers : List Nat} {phases : Nat → LimitCaller}
    (returned : ∀ caller ∈ callers, phases caller = .done (.ok ())) :
    callers.foldlM (fun report caller => count report (phases caller)) report =
      .ok
        { report with
          calls := report.calls + callers.length
          executions := report.executions + callers.length } := by
  induction callers generalizing report with
  | nil => rfl
  | cons caller rest ih =>
      rw [List.foldlM_cons, returned caller List.mem_cons_self]
      change List.foldlM _ { report with
        calls := report.calls + 1, executions := report.executions + 1 } rest = _
      rw [ih _ fun one member => returned one (List.mem_cons_of_mem _ member), List.length_cons]
      simp only [Nat.add_assoc, Nat.add_comm 1]

/-- What is counted before a round. -/
def tallied (config : Config) (index : Nat) : Report :=
  { scenario := Scenario.limit.name
    calls := config.callers * index
    executions := config.callers * index }

structure Standing (config : Config) (index : Nat) (load : LimitLoad) (report : Report) :
    Prop where
  quiet : Quiet config.capacity load.limit
  free : load.holders = 0
  peak : load.peak = if index = 0 then 0 else min config.callers config.capacity
  drawn : load.limit.line.drawn ≤ config.callers * index
  report : report = tallied config index

/-- The callers of a round at their release. -/
def release (config : Config) (now : Nat) (load : LimitLoad) : Rota LimitLoad :=
  { now, state := load.released config.callers, ready := List.range config.callers }

private theorem Standing.underway (standing : Standing config index load report)
    (contestable : config.Contestable) (more : index < config.rounds) (now : Nat) :
    Underway config.capacity config.callers (config.callers * (index + 1))
      (min config.work longestSleep) (release config now load) := by
  have drawn := standing.drawn
  have most : config.callers * (index + 1) ≤ config.callers * config.rounds :=
    Nat.mul_le_mul_left _ more
  refine underway_released standing.quiet standing.free ?_ ?_
    (Nat.lt_of_le_of_lt most contestable.fits) now
  · rw [standing.peak]
    split
    · exact Nat.zero_le _
    · exact Nat.le_refl _
  · rw [Nat.mul_succ]
    omega

private theorem left_release (config : Config) (now : Nat) (load : LimitLoad) :
    left config.callers (release config now load) = 4 * config.callers := by
  have efforts : weightOf config.callers effort (load.released config.callers).phase =
      config.callers * 3 :=
    weightOf_of_alike fun one _ => congrArg effort (load.phase_released config.callers one)
  change weightOf config.callers effort (load.released config.callers).phase +
    (List.range config.callers).length + 2 * 0 = _
  rw [efforts, List.length_range]
  omega

/-- The callers of a round, run to their ends. -/
def gone (config : Config) (timetable : Timetable) (index now : Nat) (load : LimitLoad) :
    Rota LimitLoad :=
  Rota.play (behavior config.work) (timetable index) now (List.range config.callers)
    (load.released config.callers)

private theorem round_of_returned (few : config.callers ≤ maxCallers)
    (returned : ∀ caller < config.callers,
      (load.gone config timetable index now).state.phase caller = .done (.ok ())) :
    ∃ later log, round config timetable index (load, tallied config index) now =
      .ok (((load.gone config timetable index now).state, tallied config (index + 1)), later,
        log) := by
  have counts : (List.range config.callers).foldlM (fun report caller =>
      count report ((load.gone config timetable index now).state.phase caller))
      (tallied config index) = .ok (tallied config (index + 1)) := by
    rw [foldlM_count _ fun caller member => returned caller (List.mem_range.mp member),
      List.length_range]
    rfl
  refine ⟨(load.gone config timetable index now).now,
    [.roundDone .limit index (load.gone config timetable index now).state.peak], ?_⟩
  rw [round, rollCall_eq few]
  change Except.bind (.ok (List.range config.callers)) _ = _
  simp only [Except.bind, List.length_range]
  change Except.bind (List.foldlM _ _ _) _ = _
  exact congrArg (Except.bind · _) counts

/-- A round leaves the limit as full as it was, with its callers counted. -/
private theorem Standing.round (standing : Standing config index load report)
    (contestable : config.Contestable) (more : index < config.rounds) (timetable : Timetable)
    (now : Nat) :
    ∃ next counts later log,
      LimitLoad.round config timetable index (load, report) now =
        .ok ((next, counts), later, log) ∧
      Standing config (index + 1) next counts := by
  have enough : 4 * config.callers ≤ 4 * (List.range config.callers).length + 1 := by
    rw [List.length_range]
    exact Nat.le_succ _
  obtain ⟨_, ⟨underway, _⟩, idle, awake⟩ :=
    Rota.run_rests (underway_advances contestable.work) enough
      ⟨standing.underway contestable more now, left_release config now load⟩ (timetable index) 0
  obtain ⟨quiet, free, peak, returned⟩ := underway.over contestable.capacity idle awake
  have drawn := Nat.le_of_add_right_le underway.books.drawn
  obtain rfl := standing.report
  obtain ⟨later, log, succeeds⟩ := round_of_returned contestable.few returned
  exact ⟨_, _, later, log, succeeds, quiet, free, peak, drawn, rfl⟩

/-! ## The rounds -/

/-- What the first round starts from. -/
def opening (config : Config) : LimitLoad × Report :=
  ({ limit := { capacity := config.capacity, available := config.capacity } },
    { scenario := Scenario.limit.name })

private theorem standing_opening (config : Config) :
    Standing config 0 (opening config).1 (opening config).2 where
  quiet := ⟨rfl, rfl, rfl⟩
  free := rfl
  peak := rfl
  drawn := Nat.zero_le _
  report := rfl

/-- What is left after so many rounds. -/
def After (config : Config) (timetable : Timetable) (course : Course) (index : Nat)
    (played : LimitLoad × Report) (later : Course) : Prop :=
  playRounds (round config timetable) index 0 (opening config) course = (.ok played, later)

/-- The load when so many polls and ticks of a round have been made. -/
def moment (load : LimitLoad) (config : Config) (timetable : Timetable)
    (index now steps : Nat) : LimitLoad :=
  (Rota.run (behavior config.work) (timetable index) steps 0 (release config now load)).state

/-- Whatever tokens are not there are held. -/
private theorem Standing.moment (standing : Standing config index load report)
    (contestable : config.Contestable) (more : index < config.rounds) (timetable : Timetable)
    (now steps : Nat) :
    (load.moment config timetable index now steps).limit.available +
      (load.moment config timetable index now steps).holders = config.capacity := by
  obtain ⟨_, underway, _⟩ := Rota.run_holds (underway_advances contestable.work)
    ⟨standing.underway contestable more now, left_release config now load⟩ (timetable index) steps 0
  exact underway.books.tokens

private theorem after_rounds (contestable : config.Contestable) (timetable : Timetable)
    (course : Course) (within : index ≤ config.rounds) :
    ∃ played later, After config timetable course index played later ∧
      Standing config index played.1 played.2 ∧
      later.progress = Progress.roundDone^[index] course.progress := by
  have keeps : ∀ number < 0 + index, ∀ (played : LimitLoad × Report) now,
      Standing config number played.1 played.2 →
        ∃ next later log, LimitLoad.round config timetable number played now =
          .ok (next, later, log) ∧ Standing config (number + 1) next.1 next.2 := by
    rintro number inside ⟨load, report⟩ now standing
    obtain ⟨next, counts, later, log, succeeds, stands⟩ :=
      standing.round contestable (by omega) timetable now
    exact ⟨(next, counts), later, log, succeeds, stands⟩
  obtain ⟨played, later, plays, standing, recorded⟩ :=
    playRounds_ok _ keeps (standing_opening config) course
  rw [Nat.zero_add] at standing
  exact ⟨played, later, plays, standing, recorded⟩

/-! ## The report -/

theorem runLimit_eq (contestable : config.Contestable) (timetable : Timetable) (course : Course) :
    ∃ load elapsed finished,
      runLimit config timetable course =
        (.ok { tallied config config.rounds with peak := load.peak, elapsed }, finished) ∧
      Standing config config.rounds load (tallied config config.rounds) ∧
      After config timetable course config.rounds (load, tallied config config.rounds) finished ∧
      finished.progress = Progress.roundDone^[config.rounds] course.progress := by
  obtain ⟨⟨load, report⟩, finished, plays, standing, recorded⟩ :=
    after_rounds contestable timetable course (Nat.le_refl config.rounds)
  obtain rfl : report = tallied config config.rounds := standing.report
  have made : Limit.ofCapacity? config.capacity =
      some ({ capacity := config.capacity, available := config.capacity } : Limit Nat) :=
    if_neg (Nat.one_le_iff_ne_zero.mp contestable.capacity)
  have quiet := standing.quiet
  have checks : load.check config = .ok () := by
    have peak : ¬ config.capacity < load.peak := by
      rw [standing.peak]
      split <;> omega
    have audit := Limit.audit_of_full (quiet.full.trans quiet.bound.symm) quiet.waiters
    rw [check, if_neg peak, if_neg (not_not_intro quiet.full), audit]
  refine ⟨load, .ofMilliseconds (finished.now - course.now), finished, ?_, standing, plays,
    recorded⟩
  rw [After, opening] at plays
  rw [runLimit, made]
  simp only [plays, bind, Except.bind, checks]
  rfl

end LimitLoad

/-- What a report of the limit scenario has to tell, however its callers were polled. -/
structure Config.LimitCounts (config : Config) (report : Report) : Prop where
  scenario : report.scenario = "limit"
  calls : report.calls = config.callers * config.rounds
  /-- No count exceeds that of the calls, which 64 bits can tell. -/
  fits : report.calls < 2 ^ 64
  executions : report.executions = report.calls
  shared : report.shared = 0
  peak : report.peak = min config.callers config.capacity
  dialFailures : report.dialFailures = 0
  closeFailures : report.closeFailures = 0

/-- A run of the limit scenario raises no false alarm and comes to its end, on any schedule. Its
counts are those of the configuration, at no moment do more callers hold a token than there are
tokens, and in the end all tokens are back. -/
theorem runLimit_counts {config : Config} (capacity : 1 ≤ config.capacity)
    (rounds : 1 ≤ config.rounds) (work : 1 ≤ config.work) (few : config.callers ≤ maxCallers)
    (fits : config.callers * config.rounds < 2 ^ 64) (timetable : Timetable) (course : Course) :
    ∃ report finished, runLimit config timetable course = (.ok report, finished) ∧
      config.LimitCounts report ∧
      (∀ index < config.rounds, ∃ played later,
        LimitLoad.After config timetable course index played later ∧
        ∀ steps, (played.1.moment config timetable index later.now steps).holders ≤
          config.capacity) ∧
      ∃ played, LimitLoad.After config timetable course config.rounds played finished ∧
        played.1.limit.available = config.capacity ∧ played.1.holders = 0 := by
  have contestable : config.Contestable := ⟨capacity, work, few, fits⟩
  obtain ⟨load, elapsed, finished, runs, standing, after, _⟩ :=
    LimitLoad.runLimit_eq contestable timetable course
  refine ⟨_, finished, runs, ?_, fun index more => ?_, (load, _), after, standing.quiet.full,
    standing.free⟩
  · constructor
    case scenario | calls | executions | shared | dialFailures | closeFailures => rfl
    case fits => exact fits
    case peak => exact standing.peak.trans (if_neg (Nat.one_le_iff_ne_zero.mp rounds))
  · obtain ⟨played, later, after, standing, _⟩ :=
      LimitLoad.after_rounds contestable timetable course (Nat.le_of_lt more)
    refine ⟨played, later, after, fun steps => ?_⟩
    have tokens := standing.moment contestable more timetable later.now steps
    exact tokens ▸ Nat.le_add_left _ _

theorem runLimit_counts_of_scarce :
    let config : Config := { callers := 5, capacity := 2, rounds := 3 }
    ∃ report finished, runLimit config (fun _ step => step) {} = (.ok report, finished) ∧
      config.LimitCounts report ∧
      (∀ index < config.rounds, ∃ played later,
        LimitLoad.After config (fun _ step => step) {} index played later ∧
        ∀ steps, (played.1.moment config (fun _ step => step) index later.now steps).holders ≤
          config.capacity) ∧
      ∃ played, LimitLoad.After config (fun _ step => step) {} config.rounds played finished ∧
        played.1.limit.available = config.capacity ∧ played.1.holders = 0 :=
  runLimit_counts (by decide) (by decide) (by decide) (by decide) (by decide) _ _

/-! ## Too many callers -/

/-- More callers than a list can have are not even released. -/
theorem runLimit_of_many {config : Config} (capacity : 1 ≤ config.capacity)
    (rounds : 1 ≤ config.rounds) (many : maxCallers < config.callers) (timetable : Timetable)
    (course : Course) :
    runLimit config timetable course = (.error (.fault .callersOverflow), course) := by
  have made : Limit.ofCapacity? config.capacity =
      some ({ capacity := config.capacity, available := config.capacity } : Limit Nat) :=
    if_neg (Nat.one_le_iff_ne_zero.mp capacity)
  have fails : ∀ played now, LimitLoad.round config timetable 0 played now =
      .error (.fault .callersOverflow) := by
    intro played now
    rw [LimitLoad.round, rollCall, if_neg (Nat.not_le_of_lt many)]
    rfl
  obtain ⟨more, same⟩ := Nat.exists_eq_add_of_le' rounds
  rw [runLimit, made]
  simp only
  rw [same, playRounds_error (fails _ _)]
  rfl

/-- That all counts fit into 64 bits is not enough for a run to come to its end. -/
theorem runLimit_not_counted :
    ¬ ∀ (config : Config) (timetable : Timetable) (course : Course),
      1 ≤ config.callers → 1 ≤ config.capacity → 1 ≤ config.rounds → 1 ≤ config.work →
      config.callers * config.rounds < 2 ^ 64 →
      ∃ report finished, runLimit config timetable course = (.ok report, finished) ∧
        config.LimitCounts report := by
  intro counted
  obtain ⟨report, finished, runs, _⟩ :=
    counted { callers := 2 ^ 60, rounds := 1 } (fun _ _ => 0) {} (by decide) (by decide)
      (by decide) (by decide) (by decide)
  rw [runLimit_of_many (by decide) (by decide) (by decide)] at runs
  cases runs

end Cohort
