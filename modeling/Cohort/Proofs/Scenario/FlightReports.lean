import Cohort.Proofs.Scenario.FlightRounds
import Cohort.Proofs.Scenario.Rounds

/-!
# Reports of the flight scenario

Between the rounds no call is in flight. Whatever order callers are polled in, every result that a
caller comes back with is that of an execution that one caller of its key has run, so no check ever
fails. Each key has at least one execution in each round, and just one if work takes time.
-/

set_option autoImplicit false

namespace Cohort

namespace FlightCaller

/-- The execution that it has come back with, with its key. -/
def seen? (key : String) : FlightCaller → Option (String × Nat)
  | .done (.ok execution) _ => some (key, execution)
  | .idle | .working _ _ | .following _ _ | .done (.error _) _ => none

/-- The execution that it has come back with, if it has run it itself. -/
def fresh? (key : String) : FlightCaller → Option (String × Nat)
  | .done (.ok execution) true => some (key, execution)
  | .idle | .working _ _ | .following _ _ | .done _ _ => none

private theorem fresh?_eq_some {key : String} {phase : FlightCaller} {item : String × Nat}
    (own : phase.fresh? key = some item) : phase = .done (.ok item.2) true ∧ key = item.1 := by
  unfold fresh? at own
  split at own
  · cases own
    exact ⟨rfl, rfl⟩
  all_goals cases own

end FlightCaller

namespace FlightLoad

/-! ## Counts -/

/-- A tally of callers who have come back, with those executions that were reported fresh. -/
def Tally.with (tally : Tally) (count : Nat) (fresh seen : List (String × Nat)) : Tally :=
  { report :=
      { tally.report with
        calls := tally.report.calls + count
        executions := tally.report.executions + fresh.length
        shared := tally.report.shared + (count - fresh.length) }
    fresh := tally.fresh ++ fresh
    seen := tally.seen ++ seen }

/-- Executions that are apart from each other are counted without complaint. -/
private theorem foldlM_count (tally : Tally) {callers : List Nat} {phases : Nat → FlightCaller}
    {key : Nat → String} (returned : ∀ caller ∈ callers, ∃ execution fresh,
      phases caller = .done (.ok execution) fresh)
    (apart : (tally.fresh ++
      callers.filterMap (fun caller => (phases caller).fresh? (key caller))).Nodup) :
    callers.foldlM (fun (tally : Tally) caller => tally.count (key caller) (phases caller)) tally =
      .ok (tally.with callers.length
        (callers.filterMap (fun caller => (phases caller).fresh? (key caller)))
        (callers.filterMap (fun caller => (phases caller).seen? (key caller)))) := by
  induction callers generalizing tally with
  | nil => simp [Tally.with, pure, Except.pure]
  | cons caller rest ih =>
      obtain ⟨execution, fresh, done⟩ := returned caller List.mem_cons_self
      have others := fun one member => returned one (List.mem_cons_of_mem caller member)
      have fewer := List.length_filterMap_le (fun one => (phases one).fresh? (key one)) rest
      have sees : (phases caller).seen? (key caller) = some (key caller, execution) := by
        rw [done]
        rfl
      rw [List.foldlM_cons, List.filterMap_cons_some (f := fun one => (phases one).seen? (key one)) sees]
      -- Only what is reported fresh is held against what has been reported before.
      cases fresh with
      | true =>
          have newly : (phases caller).fresh? (key caller) = some (key caller, execution) := by
            rw [done]
            rfl
          rw [List.filterMap_cons_some (f := fun one => (phases one).fresh? (key one)) newly]
            at apart ⊢
          have new : (key caller, execution) ∉ tally.fresh := fun member =>
            (List.nodup_append.mp apart).2.2 _ member _ List.mem_cons_self rfl
          rw [done, Tally.count, if_neg new]
          refine (ih _ others (by simpa using apart)).trans (congrArg Except.ok ?_)
          simp only [Tally.with, List.length_cons, List.append_assoc, List.singleton_append,
            Nat.add_assoc, Nat.add_comm 1, Nat.add_sub_add_right]
      | false =>
          have shared : (phases caller).fresh? (key caller) = none := by
            rw [done]
            rfl
          rw [List.filterMap_cons_none (f := fun one => (phases one).fresh? (key one)) shared]
            at apart ⊢
          rw [done, Tally.count]
          refine (ih _ others (by exact apart)).trans (congrArg Except.ok ?_)
          simp only [Tally.with, List.length_cons, List.append_assoc, List.singleton_append,
            Nat.add_assoc, Nat.add_comm 1, Nat.sub_add_comm fewer]

private theorem Tally.check_eq_ok {tally : Tally} (run : ∀ seen ∈ tally.seen, seen ∈ tally.fresh) :
    tally.check = .ok tally.report := by
  have none_stray : tally.seen.find? (fun seen => decide (seen ∉ tally.fresh)) = none :=
    List.find?_eq_none.mpr fun seen member => by simpa using run seen member
  rw [check, none_stray]

section Counts

variable {load : FlightLoad} {total since : Nat} {key : Nat → String}

/-- The executions that callers report fresh. -/
def fresh (load : FlightLoad) (key : Nat → String) (total : Nat) : List (String × Nat) :=
  picked total (fun caller => FlightCaller.fresh? (key caller)) load.phase

private theorem map_snd_fresh
    (returned : ∀ caller < total, ∃ execution fresh, load.phase caller = .done (.ok execution) fresh) :
    (load.fresh key total).map Prod.snd = load.runs total := by
  rw [fresh, picked, List.map_filterMap, runs, picked]
  refine List.filterMap_congr fun caller member => ?_
  obtain ⟨execution, fresh, done⟩ := returned caller (List.mem_range.mp member)
  rw [done]
  cases fresh <;> rfl

private theorem Ran.mem_fresh {caller execution : Nat} (ran : Ran key load caller execution)
    (size : load.callers.size = total) : (key caller, execution) ∈ load.fresh key total := by
  obtain ⟨runner, done, same⟩ := ran
  have inside : runner < total := size ▸ lt_size_of_phase (by simp [done])
  exact mem_picked.mpr ⟨runner, inside, by rw [done, same]; rfl⟩

variable {names : List String}

/-- Each key has just one execution if nobody is done before all have come. -/
private theorem Sole.length_fresh_le {ready : List Nat} (sole : Sole key total ready load)
    (serves : Serves key total names) :
    (load.fresh key total).length ≤ names.length := by
  have once : ((load.fresh key total).map Prod.fst).Nodup := by
    rw [fresh, picked, List.map_filterMap]
    refine List.Nodup.filterMap ?_ List.nodup_range
    intro one other name named named'
    obtain ⟨item, own, same⟩ := Option.map_eq_some_iff.mp (Option.mem_def.mp named)
    obtain ⟨item', own', same'⟩ := Option.map_eq_some_iff.mp (Option.mem_def.mp named')
    obtain ⟨done, key_eq⟩ := FlightCaller.fresh?_eq_some own
    obtain ⟨done', key_eq'⟩ := FlightCaller.fresh?_eq_some own'
    exact sole.single one other _ _ (congrArg FlightCaller.run? done)
      (congrArg FlightCaller.run? done') (key_eq.trans ((same.trans same'.symm).trans key_eq'.symm))
  have covered : (load.fresh key total).map Prod.fst ⊆ names := by
    intro name member
    obtain ⟨item, there, rfl⟩ := List.mem_map.mp member
    obtain ⟨caller, inside, own⟩ := mem_picked.mp there
    exact (serves.mem_iff _).mpr ⟨caller, inside, (FlightCaller.fresh?_eq_some own).2⟩
  have fewer := (List.subperm_of_subset once covered).length_le
  rwa [List.length_map] at fewer

variable
  (returned : ∀ caller < total, ∃ execution fresh, load.phase caller = .done (.ok execution) fresh)
  (crew : Crew key total since load) (serves : Serves key total names)

include returned crew

private theorem Crew.mem_fresh_of_seen {seen : String × Nat}
    (member : seen ∈ picked total (fun caller => FlightCaller.seen? (key caller)) load.phase) :
    seen ∈ load.fresh key total := by
  obtain ⟨caller, inside, sees⟩ := mem_picked.mp member
  obtain ⟨execution, fresh, done⟩ := returned caller inside
  obtain ⟨_, ⟨rfl⟩, ran⟩ := crew.returned caller _ fresh done
  rw [done] at sees
  cases sees
  exact ran.mem_fresh crew.size

include serves

/-- Each key has an execution. -/
private theorem Crew.le_length_fresh : names.length ≤ (load.fresh key total).length := by
  have covered : names ⊆ (load.fresh key total).map Prod.fst := by
    intro name member
    obtain ⟨caller, inside, rfl⟩ := (serves.mem_iff name).mp member
    obtain ⟨execution, fresh, done⟩ := returned caller inside
    obtain ⟨_, _, ran⟩ := crew.returned caller _ fresh done
    exact List.mem_map.mpr ⟨_, ran.mem_fresh crew.size, rfl⟩
  have fewer := (List.subperm_of_subset serves.distinct covered).length_le
  rwa [List.length_map] at fewer

end Counts

end FlightLoad

/-! ## Keys -/

namespace Config

/-- The name of a key of the load. -/
def keyOf (key : Nat) : String :=
  "key-" ++ toString key

private theorem keyOf_injective : Function.Injective keyOf := fun _ _ same =>
  toString_injective ((String.append_right_inj _).mp same)

def key (config : Config) (caller : Nat) : String :=
  keyOf (caller % config.keys)

/-- Somebody calls, and the callers of a round can be listed. -/
structure Callable (config : Config) : Prop where
  callers : 1 ≤ config.callers
  keys : 1 ≤ config.keys
  few : config.callers * config.keys ≤ maxCallers

end Config

namespace FlightLoad

variable {config : Config} {timetable : Timetable} {index now : Nat} {load : FlightLoad}
  {report : Report}

/-! ## A round -/

structure Standing (config : Config) (index : Nat) (load : FlightLoad) (report : Report) :
    Prop where
  led : load.flight.Led []
  executions : load.executions = report.executions
  scenario : report.scenario = Scenario.flight.name
  calls : report.calls = config.callers * config.keys * index
  shared : report.executions + report.shared = report.calls
  each : config.keys * index ≤ report.executions
  sole : 1 ≤ config.work → report.executions = config.keys * index
  others : report.peak = 0 ∧ report.dialFailures = 0 ∧ report.closeFailures = 0

private theorem standing_new (config : Config) :
    Standing config 0 {} { scenario := Scenario.flight.name } := by
  constructor
  case led => exact Flight.led_new
  all_goals simp

/-- The callers of a round, run to their ends. -/
def gone (config : Config) (timetable : Timetable) (index now : Nat) (load : FlightLoad) :
    Rota FlightLoad :=
  Rota.play (behavior config.work config.key) (timetable index) now
    (List.range (config.callers * config.keys)) (load.released (config.callers * config.keys))

private theorem gone_over (callable : config.Callable) (led : load.flight.Led [])
    (timetable : Timetable) (index now : Nat) :
    Underway config.key (config.callers * config.keys) load.executions config.work
        (load.gone config timetable index now) ∧
      (load.gone config timetable index now).ready = [] ∧
      (load.gone config timetable index now).asleep = [] := by
  have few : config.callers * config.keys < 2 ^ 64 :=
    Nat.lt_of_le_of_lt callable.few (by decide)
  have enough : config.callers * config.keys * 3 ≤
      4 * (List.range (config.callers * config.keys)).length + 1 := by
    rw [List.length_range]
    omega
  obtain ⟨_, ⟨underway, _⟩, idle, awake⟩ :=
    Rota.run_rests (underway_advances config.key _ load.executions config.work) enough
      ⟨underway_released config.key config.work led few now, left_released load _ now⟩
      (timetable index) 0
  exact ⟨underway, idle, awake⟩

private theorem round_of_counted {tally : Tally} (few : config.callers * config.keys ≤ maxCallers)
    (counts : (List.range (config.callers * config.keys)).foldlM (fun (tally : Tally) caller =>
        tally.count (config.key caller)
          ((load.gone config timetable index now).state.phase caller))
      { report } = .ok tally)
    (checks : tally.check = .ok tally.report) :
    ∃ later log, round config timetable index (load, report) now =
      .ok (((load.gone config timetable index now).state, tally.report), later, log) := by
  refine ⟨(load.gone config timetable index now).now,
    .roundDone .flight index tally.report.executions ::
      (load.gone config timetable index now).state.log, ?_⟩
  rw [round, rollCallPerKey_eq few]
  change Except.bind (.ok (List.range (config.callers * config.keys))) _ = _
  simp only [Except.bind, List.length_range]
  change Except.bind (List.foldlM _ _ _) _ = _
  refine (congrArg (Except.bind · _) counts).trans ?_
  change Except.bind tally.check _ = _
  exact congrArg (Except.bind · _) checks

/-- A round is counted without complaint: each key has been run, at most once for each caller, and
just once if work takes time. -/
theorem round_eq (callable : config.Callable) (led : load.flight.Led []) (report : Report)
    (timetable : Timetable) (index now : Nat) :
    ∃ next later log ran,
      round config timetable index (load, report) now =
        .ok ((next,
          { report with
            calls := report.calls + config.callers * config.keys
            executions := report.executions + ran
            shared := report.shared + (config.callers * config.keys - ran) }), later, log) ∧
      next.flight.Led [] ∧ next.executions = load.executions + ran ∧
      ran ≤ config.callers * config.keys ∧ config.keys ≤ ran ∧
      (1 ≤ config.work → ran = config.keys) := by
  obtain ⟨underway, idle, awake⟩ := gone_over callable led timetable index now
  obtain ⟨led, returned⟩ := underway.over idle awake
  have crew := underway.crew
  have serves : Serves config.key (config.callers * config.keys)
      ((List.range config.keys).map Config.keyOf) :=
    serves_keys Config.keyOf_injective callable.callers callable.keys
  let fresh := (load.gone config timetable index now).state.fresh config.key
    (config.callers * config.keys)
  have runs : fresh.map Prod.snd =
      (load.gone config timetable index now).state.runs (config.callers * config.keys) :=
    map_snd_fresh returned
  -- The executions of a round are numbered one after the other, so none is counted twice.
  have once : fresh.Nodup := by
    have apart := crew.runs.nodup_iff.mpr List.nodup_range'
    rw [← runs] at apart
    exact apart.of_map _
  have counts := foldlM_count { report } (fun caller member =>
    returned caller (List.mem_range.mp member)) ((List.nil_append fresh).symm ▸ once)
  obtain ⟨later, log, succeeds⟩ := round_of_counted callable.few counts
    (Tally.check_eq_ok fun _ member => crew.mem_fresh_of_seen returned member)
  have most := List.length_filterMap_le
    (fun caller => ((load.gone config timetable index now).state.phase caller).fresh?
      (config.key caller)) (List.range (config.callers * config.keys))
  have least := crew.le_length_fresh returned serves
  have executions := crew.executions
  rw [List.length_map, List.length_range] at least
  rw [List.length_range] at most
  rw [← runs, List.length_map] at executions
  simp only [Tally.with, List.length_range] at succeeds
  refine ⟨_, later, log, fresh.length, succeeds, led, executions, most, least, fun work => ?_⟩
  have at_most := (underway.sole work).length_fresh_le serves
  rw [List.length_map, List.length_range] at at_most
  exact Nat.le_antisymm at_most least

/-- A round leaves nothing in flight, with its callers counted. -/
private theorem Standing.round (standing : Standing config index load report)
    (callable : config.Callable) (timetable : Timetable) (now : Nat) :
    ∃ next counts later log,
      FlightLoad.round config timetable index (load, report) now =
        .ok ((next, counts), later, log) ∧
      Standing config (index + 1) next counts := by
  obtain ⟨next, later, log, ran, succeeds, led, executions, most, least, sole⟩ :=
    round_eq callable standing.led report timetable index now
  refine ⟨next, _, later, log, succeeds, ?_⟩
  have before := standing.executions
  have shared := standing.shared
  have each := standing.each
  constructor
  case led => exact led
  case executions =>
    change next.executions = report.executions + ran
    omega
  case scenario => exact standing.scenario
  case calls =>
    change report.calls + config.callers * config.keys = _
    rw [standing.calls, Nat.mul_succ]
  case shared =>
    change report.executions + ran + (report.shared + (config.callers * config.keys - ran)) =
      report.calls + config.callers * config.keys
    omega
  case each =>
    change _ ≤ report.executions + ran
    rw [Nat.mul_succ]
    omega
  case sole =>
    intro work
    change report.executions + ran = _
    rw [standing.sole work, sole work, Nat.mul_succ]
  case others => exact standing.others

/-! ## The report -/

theorem runFlight_eq (callable : config.Callable) (timetable : Timetable) (course : Course) :
    ∃ load report elapsed finished,
      runFlight config timetable course = (.ok { report with elapsed }, finished) ∧
      Standing config config.rounds load report ∧
      finished.progress = Progress.roundDone^[config.rounds] course.progress := by
  have keeps : ∀ number < 0 + config.rounds, ∀ (played : FlightLoad × Report) now,
      Standing config number played.1 played.2 →
        ∃ next later log, FlightLoad.round config timetable number played now =
          .ok (next, later, log) ∧ Standing config (number + 1) next.1 next.2 := by
    rintro number _ ⟨load, report⟩ now standing
    obtain ⟨next, counts, later, log, succeeds, stands⟩ := standing.round callable timetable now
    exact ⟨(next, counts), later, log, succeeds, stands⟩
  have start : Standing config 0
      (({}, { scenario := Scenario.flight.name }) : FlightLoad × Report).1
      (({}, { scenario := Scenario.flight.name }) : FlightLoad × Report).2 := standing_new config
  obtain ⟨⟨load, report⟩, finished, plays, standing, recorded⟩ :=
    playRounds_ok _ keeps start course
  rw [Nat.zero_add] at standing
  have nothing : load.flight.inFlight = 0 := standing.led.inFlight_eq
  have checks : load.check report = .ok () := by
    rw [check, if_neg (not_not_intro standing.executions), if_neg (not_not_intro nothing)]
  refine ⟨load, report, .ofMilliseconds (finished.now - course.now), finished, ?_, standing,
    recorded⟩
  rw [runFlight, plays]
  simp only [bind, Except.bind, checks]
  rfl

end FlightLoad

/-- What a report of the flight scenario has to tell, however its callers were polled. -/
structure Config.FlightCounts (config : Config) (report : Report) : Prop where
  scenario : report.scenario = "flight"
  calls : report.calls = config.callers * config.keys * config.rounds
  /-- No count exceeds that of the calls, which 64 bits can tell. -/
  fits : report.calls < 2 ^ 64
  shared : report.executions + report.shared = report.calls
  least : config.keys * config.rounds ≤ report.executions
  most : report.executions ≤ report.calls
  /-- Work that takes time is shared by all who call for the key at the same instant. -/
  sole : 1 ≤ config.work → report.executions = config.keys * config.rounds
  peak : report.peak = 0
  dialFailures : report.dialFailures = 0
  closeFailures : report.closeFailures = 0

/-- A run of the flight scenario raises no false alarm, on any schedule and whatever its work
takes, and its counts add up. -/
theorem runFlight_counts {config : Config} (callers : 1 ≤ config.callers)
    (keys : 1 ≤ config.keys) (few : config.callers * config.keys ≤ maxCallers)
    (fits : config.callers * config.keys * config.rounds < 2 ^ 64) (timetable : Timetable)
    (course : Course) :
    ∃ report finished, runFlight config timetable course = (.ok report, finished) ∧
      config.FlightCounts report := by
  obtain ⟨load, report, elapsed, finished, runs, standing, _⟩ :=
    FlightLoad.runFlight_eq ⟨callers, keys, few⟩ timetable course
  refine ⟨_, finished, runs, ?_⟩
  constructor
  case scenario => exact standing.scenario
  case calls => exact standing.calls
  case fits => exact standing.calls ▸ fits
  case shared => exact standing.shared
  case least => exact standing.each
  case most => exact standing.shared ▸ Nat.le_add_right _ _
  case sole => exact standing.sole
  case peak => exact standing.others.1
  case dialFailures => exact standing.others.2.1
  case closeFailures => exact standing.others.2.2

theorem runFlight_counts_of_crowd :
    let config : Config := { callers := 3, keys := 2, rounds := 2 }
    ∃ report finished, runFlight config (fun _ step => step) {} = (.ok report, finished) ∧
      config.FlightCounts report :=
  runFlight_counts (by decide) (by decide) (by decide) (by decide) _ _

/-! ## Too many callers -/

/-- More callers than a list can have are not even released. -/
theorem runFlight_of_many {config : Config} (rounds : 1 ≤ config.rounds)
    (many : maxCallers < config.callers * config.keys)
    (fits : config.callers * config.keys < 2 ^ 64) (timetable : Timetable) (course : Course) :
    runFlight config timetable course = (.error (.fault .callersOverflow), course) := by
  have fails : ∀ played now, FlightLoad.round config timetable 0 played now =
      .error (.fault .callersOverflow) := by
    intro played now
    rw [FlightLoad.round, rollCallPerKey_of_many many fits]
    rfl
  obtain ⟨more, same⟩ := Nat.exists_eq_add_of_le' rounds
  rw [runFlight, same, playRounds_error (fails _ _)]
  rfl

/-- That all counts fit into 64 bits is not enough for a run to come to its end. -/
theorem runFlight_not_counted :
    ¬ ∀ (config : Config) (timetable : Timetable) (course : Course),
      1 ≤ config.callers → 1 ≤ config.keys → 1 ≤ config.rounds →
      config.callers * config.keys * config.rounds < 2 ^ 64 →
      ∃ report finished, runFlight config timetable course = (.ok report, finished) ∧
        config.FlightCounts report := by
  intro counted
  obtain ⟨report, finished, runs, _⟩ :=
    counted { callers := 2 ^ 60, keys := 1, rounds := 1 } (fun _ _ => 0) {} (by decide) (by decide)
      (by decide) (by decide)
  rw [runFlight_of_many (by decide) (by decide) (by decide)] at runs
  cases runs

end Cohort
