import Cohort.Scenario.Suite
import Cohort.Proofs.CommandLine.Arguments
import Cohort.Proofs.Scenario.CacheReports
import Cohort.Proofs.Scenario.FlightReports
import Cohort.Proofs.Scenario.LimitReports

/-!
# Runs of suites

No scenario fails under a load that fits into memory, so each of a selection is reported in its
turn, and the rounds recorded are those of all of them. A load that lacks one of its counts is
refused before anything runs.
-/

set_option autoImplicit false

namespace Cohort

/-! ## Recorded rounds -/

private theorem Progress.position_roundDone_iterate (count : Nat) (progress : Progress) :
    (Progress.roundDone^[count] progress).position = progress.position + UInt64.ofNat count := by
  induction count with
  | zero => exact (UInt64.add_zero _).symm
  | succ count ih =>
      rw [Function.iterate_succ_apply', Progress.roundDone, ih, UInt64.ofNat_add, UInt64.add_assoc]
      rfl

/-! ## Checks of the load -/

namespace Config

private theorem validate_eq_ok {config : Config} (callers : 1 ≤ config.callers)
    (keys : 1 ≤ config.keys) (capacity : 1 ≤ config.capacity) (rounds : 1 ≤ config.rounds) :
    config.validate = .ok () := by
  have found : config.counts.find? (fun count => count.2 == 0) = none := by
    rw [List.find?_eq_none]
    intro count counted
    simp only [counts, List.mem_cons, List.not_mem_nil, or_false] at counted
    obtain rfl | rfl | rfl | rfl := counted <;> simpa using Nat.ne_of_gt ‹_›
  rw [validate, found]

/-- The count that is told is zero, and no count that is checked before it is. -/
theorem validate_of_zero {config : Config}
    (lacking : ∃ count ∈ config.counts, count.2 = 0) :
    ∃ before name after, config.counts = before ++ (name, 0) :: after ∧
      (∀ count ∈ before, count.2 ≠ 0) ∧
      config.validate = .error (.invalidConfig (name ++ " must be at least 1")) := by
  cases found : config.counts.find? (fun count => count.2 == 0) with
  | none =>
      obtain ⟨count, counted, zero⟩ := lacking
      exact absurd (beq_iff_eq.mpr zero) (List.find?_eq_none.mp found count counted)
  | some count =>
      obtain ⟨name, number⟩ := count
      obtain ⟨zero, before, after, counts, others⟩ := List.find?_eq_some_iff_append.mp found
      obtain rfl : number = 0 := beq_iff_eq.mp zero
      refine ⟨before, name, after, counts, fun count early => ?_, ?_⟩
      · simpa using others count early
      · rw [validate, found]

/-- A load under which each scenario runs to its end. -/
structure Runnable (config : Config) : Prop where
  callers : 1 ≤ config.callers
  keys : 1 ≤ config.keys
  capacity : 1 ≤ config.capacity
  work : 1 ≤ config.work
  few : config.callers * config.keys ≤ maxCallers
  fits : config.callers * config.keys * config.rounds < 2 ^ 64

namespace Runnable

variable {config : Config}

private theorem callable (runnable : config.Runnable) : config.Callable :=
  ⟨runnable.callers, runnable.keys, runnable.few⟩

private theorem playable (runnable : config.Runnable) : config.Playable :=
  ⟨runnable.callers, runnable.keys, runnable.work, runnable.few⟩

/-- The callers of the limit scenario are those of one key. -/
private theorem contestable (runnable : config.Runnable) : config.Contestable := by
  have each : config.callers ≤ config.callers * config.keys :=
    Nat.le_mul_of_pos_right _ runnable.keys
  refine ⟨runnable.capacity, runnable.work, Nat.le_trans each runnable.few, ?_⟩
  exact Nat.lt_of_le_of_lt (Nat.mul_le_mul_right _ each) runnable.fits

end Runnable

end Config

/-! ## Scenarios in turn -/

section Suites

variable {config : Config}

private theorem Scenario.ne_all_of_mem_expand {scenario selection : Scenario}
    (selected : scenario ∈ selection.expand) : scenario ≠ .all := by
  rintro rfl
  cases selection <;> simp [expand] at selected

private theorem Scenario.run?_ok (runnable : config.Runnable) (timetable : Timetable)
    (course : Course) {scenario : Scenario} (single : scenario ≠ .all) :
    ∃ report finished, scenario.run? config timetable course = some (.ok report, finished) ∧
      report.scenario = scenario.name ∧
      finished.progress = Progress.roundDone^[config.rounds] course.progress := by
  cases scenario with
  | flight =>
      obtain ⟨_, _, _, finished, runs, standing, recorded⟩ :=
        FlightLoad.runFlight_eq runnable.callable timetable course
      exact ⟨_, finished, congrArg some runs, standing.scenario, recorded⟩
  | cache =>
      obtain ⟨_, _, finished, runs, _, recorded⟩ :=
        CacheLoad.runCache_eq runnable.playable timetable course
      exact ⟨_, finished, congrArg some runs, rfl, recorded⟩
  | limit =>
      obtain ⟨_, _, finished, runs, _, _, recorded⟩ :=
        LimitLoad.runLimit_eq runnable.contestable timetable course
      exact ⟨_, finished, congrArg some runs, rfl, recorded⟩
  | all => exact absurd rfl single

private theorem runEach_ok (runnable : config.Runnable) (timetables : Scenario → Timetable)
    {scenarios : List Scenario} (single : ∀ scenario ∈ scenarios, scenario ≠ .all)
    (course : Course) :
    ∃ reports finished, runEach config timetables scenarios course = (.ok reports, finished) ∧
      reports.map Report.scenario = scenarios.map Scenario.name ∧
      finished.progress.position =
        course.progress.position + UInt64.ofNat (scenarios.length * config.rounds) := by
  induction scenarios generalizing course with
  | nil =>
      refine ⟨[], course, rfl, rfl, ?_⟩
      rw [List.length_nil, Nat.zero_mul]
      exact (UInt64.add_zero _).symm
  | cons scenario rest ih =>
      obtain ⟨alone, others⟩ := List.forall_mem_cons.mp single
      obtain ⟨report, played, runs, named, recorded⟩ :=
        scenario.run?_ok runnable (timetables scenario)
          { course with progress := course.progress.setScenario scenario.name } alone
      obtain ⟨reports, finished, goes, names, position⟩ :=
        ih others (played.note (.reported report))
      refine ⟨report :: reports, finished, ?_, ?_, ?_⟩
      · rw [runEach, runs]
        simp only [goes]
        rfl
      · rw [List.map_cons, List.map_cons, named, names]
      · -- Neither the name of a scenario nor what is told of it is a round.
        have first : (played.note (.reported report)).progress.position =
            course.progress.position + UInt64.ofNat config.rounds :=
          (congrArg Progress.position recorded).trans
            (Progress.position_roundDone_iterate config.rounds _)
        rw [position, first, UInt64.add_assoc, ← UInt64.ofNat_add, List.length_cons,
          Nat.succ_mul, Nat.add_comm config.rounds]

/-! ## Accepted and refused -/

namespace Arguments

variable {arguments : Arguments}

private theorem Reasonable.runnable (reasonable : arguments.Reasonable)
    (fits : arguments.callers * arguments.keys * arguments.rounds < 2 ^ 64)
    (work : 1 ≤ arguments.workMs) : arguments.config.Runnable :=
  ⟨reasonable.callers.1, reasonable.keys.1, reasonable.capacity, work, reasonable.few, fits⟩

private theorem Reasonable.validate_config (reasonable : arguments.Reasonable) :
    arguments.config.validate = .ok () :=
  Config.validate_eq_ok reasonable.callers.1 reasonable.keys.1 reasonable.capacity
    reasonable.rounds

/-- There are three scenarios at most. -/
theorem totalRounds_of_lt (word : 3 * arguments.rounds < 2 ^ 64) :
    arguments.totalRounds = .ok (arguments.scenario.expand.length * arguments.rounds) ∧
      arguments.scenario.expand.length * arguments.rounds < 2 ^ 64 := by
  constructor
  · rw [totalRounds_eq (by omega), if_neg]
    exact fun many => absurd many.2 (by omega)
  · refine Nat.lt_of_le_of_lt (Nat.mul_le_mul_right _ ?_) word
    cases arguments.scenario <;> decide

end Arguments

private theorem runScenarios_ok (runnable : config.Runnable) (valid : config.validate = .ok ())
    {selection : Scenario} (small : selection.expand.length * config.rounds < 2 ^ 64)
    (timetables : Scenario → Timetable) (course : Course) :
    ∃ reports finished,
      runScenarios selection config timetables course = (.ok reports, finished) ∧
      reports.map Report.scenario = selection.expand.map Scenario.name ∧
      (finished.progress.position - course.progress.position).toNat =
        selection.expand.length * config.rounds := by
  obtain ⟨reports, finished, runs, names, position⟩ :=
    runEach_ok runnable timetables
      (fun _ selected => Scenario.ne_all_of_mem_expand selected) course
  refine ⟨reports, finished, ?_, names, ?_⟩
  · rw [runScenarios, valid]
    exact runs
  · rw [position, UInt64.add_comm, UInt64.add_sub_cancel]
    exact UInt64.toNat_ofNat_of_lt small

end Suites

/-- Accepted arguments are played to the end, on any schedule: each scenario of the selection is
reported in its turn, and as many rounds are recorded as were announced. A load without callers,
keys, tokens or rounds is refused for the first of these that it lacks. -/
theorem runScenarios_reports_or_refuses (timetables : Scenario → Timetable) (course : Course) :
    (∀ arguments : Arguments, arguments.validate = .ok () →
      arguments.callers * arguments.keys * arguments.rounds < 2 ^ 64 →
      3 * arguments.rounds < 2 ^ 64 → 1 ≤ arguments.workMs →
      arguments.config.validate = .ok () ∧
        ∃ reports finished total,
          runScenarios arguments.scenario arguments.config timetables course =
            (.ok reports, finished) ∧
          reports.map Report.scenario = arguments.scenario.expand.map Scenario.name ∧
          arguments.totalRounds = .ok total ∧
          (finished.progress.position - course.progress.position).toNat = total) ∧
    (∀ (selection : Scenario) (config : Config),
      config.callers = 0 ∨ config.keys = 0 ∨ config.capacity = 0 ∨ config.rounds = 0 →
      ∃ before name after,
        [("callers", config.callers), ("keys", config.keys), ("capacity", config.capacity),
          ("rounds", config.rounds)] = before ++ (name, 0) :: after ∧
        (∀ count ∈ before, count.2 ≠ 0) ∧
        runScenarios selection config timetables course =
          (.error (.error (.invalidConfig (name ++ " must be at least 1"))), course)) := by
  constructor
  · intro arguments accepted fits word work
    have reasonable := Arguments.validate_eq_ok_iff.mp accepted
    have valid := reasonable.validate_config
    obtain ⟨total, small⟩ := Arguments.totalRounds_of_lt word
    obtain ⟨reports, finished, runs, names, recorded⟩ :=
      runScenarios_ok (reasonable.runnable fits work) valid small timetables course
    exact ⟨valid, reports, finished, _, runs, names, total, recorded⟩
  · intro selection config lacking
    have zero : ∃ count ∈ config.counts, count.2 = 0 := by
      simpa [Config.counts] using lacking
    obtain ⟨before, name, after, counts, others, refused⟩ := Config.validate_of_zero zero
    refine ⟨before, name, after, counts, others, ?_⟩
    rw [runScenarios, refused]

theorem runScenarios_reports_or_refuses_of_small :
    let arguments : Arguments := { callers := 2, keys := 2, rounds := 2, flakyDials := true }
    let lacking : Config := { keys := 0, rounds := 0 }
    (arguments.config.validate = .ok () ∧
      ∃ reports finished total,
        runScenarios .all arguments.config (fun _ _ step => step) {} = (.ok reports, finished) ∧
        reports.map Report.scenario = ["flight", "cache", "limit"] ∧
        arguments.totalRounds = .ok total ∧
        (finished.progress.position - 0).toNat = total) ∧
    ∃ before name after,
      [("callers", lacking.callers), ("keys", lacking.keys), ("capacity", lacking.capacity),
        ("rounds", lacking.rounds)] = before ++ (name, 0) :: after ∧
      (∀ count ∈ before, count.2 ≠ 0) ∧
      runScenarios .cache lacking (fun _ _ step => step) {} =
        (.error (.error (.invalidConfig (name ++ " must be at least 1"))), {}) :=
  ⟨(runScenarios_reports_or_refuses _ _).1 _ rfl (by decide) (by decide) (by decide),
    (runScenarios_reports_or_refuses _ _).2 _ _ (by decide)⟩

end Cohort
