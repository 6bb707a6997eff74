import Mathlib.Data.Nat.Basic
import Cohort.Proofs.Scenario.CacheTally
import Cohort.Proofs.Scenario.Rounds

/-!
# Reports of the cache scenario

Between the rounds the load stands still: nothing is connected as long as dials are refused, and
from then on every address is, by a dial of its own. So no check ever fails, and the counts of the
report are those of the configuration alone, whatever order callers are polled in.
-/

set_option autoImplicit false

namespace Cohort

/-! ## Addresses -/

namespace Config

/-- The address of a key of the load. -/
def addressOf (key : Nat) : String :=
  "10.0.0." ++ toString key ++ ":5432"

private theorem addressOf_injective : Function.Injective addressOf := fun _ _ same =>
  toString_injective ((String.append_right_inj _).mp ((String.append_left_inj _).mp same))

def address (config : Config) (caller : Nat) : String :=
  addressOf (caller % config.keys)

def addresses (config : Config) : List String :=
  (List.range config.keys).map addressOf

private theorem length_addresses (config : Config) : config.addresses.length = config.keys := by
  simp [addresses]

private theorem serves {config : Config} (called : 0 < config.callers) (keyed : 0 < config.keys) :
    Serves config.address (config.callers * config.keys) config.addresses :=
  serves_keys addressOf_injective called keyed

/-- How many rounds have their dials refused. -/
def refusals (config : Config) : Nat :=
  if config.flakyDials then 1 else 0

/-- How the dials of a round turn out. -/
def planOf (config : Config) (index : Nat) : DialPlan :=
  { refuse := config.flakyDials && index == 0, failCloseEvery := config.failCloseEvery }

private theorem refuse_planOf (config : Config) (index : Nat) :
    (config.planOf index).refuse = decide (index < config.refusals) := by
  unfold planOf refusals
  cases config.flakyDials with
  | false => simp
  | true => rw [Bool.true_and, if_pos rfl, beq_eq_decide, decide_eq_decide, Nat.lt_one_iff]

/-- Somebody calls, dials take time, and the callers of a round can be listed. -/
structure Playable (config : Config) : Prop where
  callers : 1 ≤ config.callers
  keys : 1 ≤ config.keys
  work : 1 ≤ config.work
  few : config.callers * config.keys ≤ maxCallers

/-- What has been dialed before a round: nothing as long as dials are refused, and then each
address once, by the numbers that follow those of the refused dials. -/
def Dialed (config : Config) (index : Nat) (made : List Dial) : Prop :=
  if index ≤ config.refusals then made = []
  else
    (made.map (fun dial => config.address dial.caller)).Perm config.addresses ∧
      (made.map Dial.attempt).Perm
        (List.range' (config.keys * config.refusals + 1) config.keys)

private theorem Dialed.eq_nil {config : Config} {index : Nat} {made : List Dial}
    (dialed : config.Dialed index made) (early : index ≤ config.refusals) : made = [] := by
  rwa [Dialed, if_pos early] at dialed

private theorem Dialed.keys_nodup {config : Config} {index : Nat} {made : List Dial}
    (dialed : config.Dialed index made) : (CacheLoad.shelf config.address made).keys.Nodup := by
  rw [CacheLoad.keys_shelf]
  unfold Dialed at dialed
  split at dialed
  · rw [dialed]
    exact List.nodup_nil
  · exact dialed.1.nodup_iff.mpr (List.nodup_range.map addressOf_injective)

private theorem Dialed.exists_caller {config : Config} {index : Nat} {made : List Dial}
    {dial : Dial}
    (dialed : config.Dialed index made) (playable : config.Playable) (member : dial ∈ made) :
    ∃ caller < config.callers * config.keys,
      config.address caller = config.address dial.caller := by
  unfold Dialed at dialed
  split at dialed
  · rw [dialed] at member
    cases member
  · refine ((serves playable.callers playable.keys).mem_iff _).mp (dialed.1.mem_iff.mp ?_)
    exact List.mem_map_of_mem member

end Config

namespace CacheLoad

variable {config : Config} {timetable : Timetable} {index now : Nat} {load : CacheLoad}
  {tally : Tally} {made : List Dial}

/-! ## A round -/

/-- What is counted before a round. -/
def tallied (config : Config) (index : Nat) : Report :=
  { scenario := Scenario.cache.name
    calls := config.callers * config.keys * index
    dialFailures := config.callers * config.keys * min index config.refusals }

private theorem counted_tallied (config : Config) (index : Nat) :
    counted (config.planOf index) (config.callers * config.keys) (tallied config index) =
      tallied config (index + 1) := by
  rw [counted, Config.refuse_planOf, tallied, tallied]
  by_cases refused : index < config.refusals
  · rw [Nat.min_eq_left (by omega), Nat.min_eq_left (by omega)]
    simp [refused, Nat.mul_succ]
  · rw [Nat.min_eq_right (by omega), Nat.min_eq_right (by omega)]
    simp [refused, Nat.mul_succ]

structure Standing (config : Config) (index : Nat) (made : List Dial) (load : CacheLoad)
    (tally : Tally) : Prop where
  led : load.flight.Led []
  stocked : Stocked { failCloseEvery := config.failCloseEvery } config.address made load
  dialed : config.Dialed index made
  seen : tally.first.entries.Perm (shelf config.address made).entries
  attempts : load.attempts = config.keys * min index (config.refusals + 1)
  report : tally.report = tallied config index

private theorem standing_new (config : Config) :
    Standing config 0 [] {} { report := { scenario := Scenario.cache.name } } where
  led := Flight.led_new
  stocked := ⟨rfl, rfl, rfl⟩
  dialed := by simp [Config.Dialed]
  seen := List.Perm.refl _
  attempts := by simp
  report := by simp [tallied]

/-- The load as its callers find it when they are released. -/
def released (load : CacheLoad) (total : Nat) : CacheLoad :=
  { load with callers := Array.replicate total .idle, log := [] }

/-- The callers of a round, run to their ends. -/
def gone (config : Config) (timetable : Timetable) (index now : Nat) (load : CacheLoad) :
    Rota CacheLoad :=
  Rota.play (behavior config.work (config.planOf index) config.address) (timetable index) now
    (List.range (config.callers * config.keys))
    (load.released (config.callers * config.keys))

private theorem Stocked.released {plan : DialPlan} {address : Nat → String}
    (stocked : Stocked plan address made load) (other : DialPlan)
    (same : plan.failCloseEvery = other.failCloseEvery) (total : Nat) :
    Stocked other address made (load.released total) :=
  have replanned := stocked.replan same
  ⟨replanned.table, replanned.connections, replanned.connected⟩

private theorem returned_of_nothing (playable : config.Playable) (early : index ≤ config.refusals)
    (led : load.flight.Led [])
    (stocked : Stocked { failCloseEvery := config.failCloseEvery } config.address [] load)
    (attempts : load.attempts = config.keys * index) :
    ∃ made, config.Dialed (index + 1) made ∧
      Returned (config.planOf index) config.address (config.callers * config.keys)
        (config.keys * (index + 1)) made (load.gone config timetable index now).state := by
  have few : config.callers * config.keys < 2 ^ 64 :=
    Nat.lt_of_le_of_lt playable.few (by decide)
  have some := Nat.mul_pos playable.callers playable.keys
  have led : (load.released (config.callers * config.keys)).flight.Led [] := led
  obtain ⟨dials, addresses, numbers, returned⟩ := fresh_round few some playable.work
    (Config.serves playable.callers playable.keys) led
    (stocked.released (config.planOf index) rfl _) attempts rfl (timetable index) now
  rw [Config.length_addresses] at numbers returned
  refine ⟨kept (config.planOf index) dials, ?_, returned⟩
  -- Dials that are refused leave nothing behind, and those of the last early round are accepted.
  by_cases refused : index < config.refusals
  · rw [Config.Dialed, if_pos (Nat.succ_le_of_lt refused), kept, if_pos]
    rw [Config.refuse_planOf, decide_eq_true refused]
  · have last : index = config.refusals := by omega
    rw [Config.Dialed, if_neg (by omega), kept, if_neg]
    · exact ⟨addresses, last ▸ numbers⟩
    · simp [Config.refuse_planOf, refused]

private theorem returned_of_all (playable : config.Playable) (late : config.refusals < index)
    (addresses : (made.map (fun dial => config.address dial.caller)).Perm config.addresses)
    (led : load.flight.Led [])
    (stocked : Stocked { failCloseEvery := config.failCloseEvery } config.address made load) :
    Returned (config.planOf index) config.address (config.callers * config.keys) load.attempts
      made (load.gone config timetable index now).state := by
  have accepts : (config.planOf index).refuse = false := by
    rw [Config.refuse_planOf, decide_eq_false (by omega)]
  have serves := Config.serves playable.callers playable.keys
  have connected : ∀ caller < config.callers * config.keys, ∃ position,
      (shelf config.address made).find? (config.address caller) = some position := by
    intro caller inside
    refine Option.ne_none_iff_exists'.mp fun missing => ?_
    rw [Table.find?_eq_none_iff, keys_shelf, addresses.mem_iff, serves.mem_iff] at missing
    exact missing ⟨caller, inside, rfl⟩
  have led : (load.released (config.callers * config.keys)).flight.Led [] := led
  exact held_round accepts connected led (stocked.released (config.planOf index) rfl _) rfl rfl
    (timetable index) now

private theorem round_of_counted {next : Tally} (few : config.callers * config.keys ≤ maxCallers)
    (counts : (List.range (config.callers * config.keys)).foldlM (fun tally caller =>
        tally.count (config.planOf index) (load.gone config timetable index now).state.board
          (config.address caller)
          ((load.gone config timetable index now).state.callers.getD caller .idle))
      { tally with log := [] } = .ok next)
    (empty : (config.planOf index).refuse = true →
      (load.gone config timetable index now).state.board.manager.isEmpty = true) :
    ∃ later log, round config timetable index (load, tally) now =
      .ok (((load.gone config timetable index now).state, next), later, log) := by
  have no_entry : ¬((config.planOf index).refuse &&
      !(load.gone config timetable index now).state.board.manager.isEmpty) = true := by
    intro both
    obtain ⟨refused, entry⟩ := Bool.and_eq_true_iff.mp both
    simp [empty refused] at entry
  refine ⟨(load.gone config timetable index now).now,
    .roundDone .cache index (load.gone config timetable index now).state.board.manager.size ::
      next.log ++ (load.gone config timetable index now).state.log, ?_⟩
  rw [round, rollCallPerKey_eq few]
  change Except.bind (.ok (List.range (config.callers * config.keys))) _ = _
  simp only [Except.bind, List.length_range]
  change Except.bind (List.foldlM _ _ _) _ = _
  refine (congrArg (Except.bind · _) counts).trans ?_
  exact if_neg no_entry

private theorem Standing.returned (playable : config.Playable)
    (standing : Standing config index made load tally) (timetable : Timetable) (now : Nat) :
    ∃ made, config.Dialed (index + 1) made ∧
      Returned (config.planOf index) config.address (config.callers * config.keys)
        (config.keys * min (index + 1) (config.refusals + 1)) made
        (load.gone config timetable index now).state ∧
      Within tally.first (shelf config.address made) := by
  have attempts := standing.attempts
  by_cases early : index ≤ config.refusals
  · obtain rfl := standing.dialed.eq_nil early
    rw [Nat.min_eq_left (by omega)] at attempts ⊢
    obtain ⟨made, dialed, returned⟩ := returned_of_nothing playable early standing.led
      standing.stocked attempts
    exact ⟨made, dialed, returned, .of_nil (List.perm_nil.mp standing.seen)⟩
  · rw [Nat.min_eq_right (by omega)] at attempts ⊢
    have dialed := standing.dialed
    rw [Config.Dialed, if_neg early] at dialed
    refine ⟨made, ?_, ?_, .of_perm standing.seen standing.dialed.keys_nodup⟩
    · rwa [Config.Dialed, if_neg (by omega)]
    · rw [← attempts]
      exact returned_of_all playable (by omega) dialed.1 standing.led standing.stocked

/-- A round leaves the load standing, with its callers counted. -/
private theorem Standing.round (playable : config.Playable)
    (standing : Standing config index made load tally) (timetable : Timetable) (now : Nat) :
    ∃ made next counts later log,
      CacheLoad.round config timetable index (load, tally) now =
        .ok ((next, counts), later, log) ∧
      Standing config (index + 1) made next counts := by
  obtain ⟨made, dialed, returned, within⟩ := standing.returned playable timetable now
  obtain ⟨counts, folds, report, within, _, sees⟩ := foldlM_count_eq { tally with log := [] }
    (fun caller member => returned.returned caller (List.mem_range.mp member)) returned.stocked
    within
  have nothing : (config.planOf index).refuse = true → made = [] := by
    intro refused
    rw [Config.refuse_planOf, decide_eq_true_eq] at refused
    exact dialed.eq_nil refused
  have empty : (config.planOf index).refuse = true →
      (load.gone config timetable index now).state.board.manager.isEmpty = true := by
    intro refused
    rw [Manager.isEmpty, Manager.size, returned.stocked.table, nothing refused]
    rfl
  obtain ⟨later, log, succeeds⟩ := round_of_counted playable.few folds empty
  refine ⟨made, _, counts, later, log, succeeds, ?_⟩
  constructor
  case led => exact returned.led
  case stocked => exact returned.stocked.replan rfl
  case dialed => exact dialed
  case seen =>
    -- All that was seen is held, so only that all addresses were seen is left to show.
    refine within.perm dialed.keys_nodup fun name member => ?_
    rw [keys_shelf] at member
    obtain ⟨dial, dials_member, rfl⟩ := List.mem_map.mp member
    cases refused : (config.planOf index).refuse with
    | true =>
        rw [nothing refused] at dials_member
        cases dials_member
    | false =>
        obtain ⟨caller, inside, same⟩ := dialed.exists_caller playable dials_member
        rw [← same]
        exact Option.isSome_iff_exists.mp (sees refused caller (List.mem_range.mpr inside))
  case attempts => exact returned.attempts
  case report =>
    rw [report, List.length_range, standing.report, counted_tallied]

end CacheLoad

/-! ## The report -/

private theorem Config.countP_breaks_range' (config : Config) (start count : Nat) :
    (List.range' (start + 1) count).countP config.breaks =
      if 0 < config.failCloseEvery then
        (start + count) / config.failCloseEvery - start / config.failCloseEvery
      else 0 := by
  split
  · next some =>
      -- As a sum, for the quotient grows by one exactly at the numbers that are divisible.
      have sum : (List.range' (start + 1) count).countP config.breaks +
          start / config.failCloseEvery = (start + count) / config.failCloseEvery := by
        induction count with
        | zero => simp
        | succ count ih =>
            have last : config.breaks (start + 1 + count) =
                decide (config.failCloseEvery ∣ start + count + 1) := by
              simp [breaks, DialPlan.failsToClose, some, Nat.dvd_iff_mod_eq_zero,
                Nat.add_right_comm]
            rw [List.range'_concat, List.countP_append, List.countP_singleton, Nat.one_mul, last,
              ← Nat.add_assoc, Nat.succ_div, ← ih]
            simp only [decide_eq_true_eq]
            omega
      omega
  · next none =>
      refine List.countP_eq_zero.mpr fun number _ => ?_
      simp [breaks, DialPlan.failsToClose, none]

namespace CacheLoad

variable {config : Config}

/-- All rounds are played, and all that was dialed is closed. -/
theorem runCache_eq (playable : config.Playable) (timetable : Timetable) (course : Course) :
    ∃ made elapsed finished,
      runCache config timetable course =
        (.ok
          { tallied config config.rounds with
            executions := config.keys * min config.rounds (config.refusals + 1)
            shared := config.callers * config.keys * config.rounds -
              config.keys * min config.rounds (config.refusals + 1)
            closeFailures := made.countP (fun dial => config.breaks dial.attempt)
            elapsed },
          finished) ∧
      config.Dialed config.rounds made ∧
      finished.progress = Progress.roundDone^[config.rounds] course.progress := by
  -- Which dials have made the connections depends on the schedule, so it stays open.
  have start : ∃ made, Standing config 0 made
      (({}, { report := { scenario := Scenario.cache.name } }) : CacheLoad × Tally).1
      (({}, { report := { scenario := Scenario.cache.name } }) : CacheLoad × Tally).2 :=
    ⟨[], standing_new config⟩
  have keeps : ∀ index < 0 + config.rounds, ∀ (played : CacheLoad × Tally) now,
      (∃ made, Standing config index made played.1 played.2) →
        ∃ next later log, CacheLoad.round config timetable index played now =
          .ok (next, later, log) ∧ ∃ made, Standing config (index + 1) made next.1 next.2 := by
    rintro index _ ⟨load, tally⟩ now ⟨made, standing⟩
    obtain ⟨made, next, counts, later, log, succeeds, stands⟩ :=
      standing.round playable timetable now
    exact ⟨(next, counts), later, log, succeeds, made, stands⟩
  obtain ⟨⟨load, tally⟩, finished, plays, ⟨made, standing⟩, recorded⟩ :=
    playRounds_ok _ keeps start course
  rw [Nat.zero_add] at standing
  let failures := made.countP (fun dial => config.breaks dial.attempt)
  have closes : load.teardown config tally = .ok failures :=
    teardown_eq standing.stocked standing.seen
  have report : tally.report = tallied config config.rounds := standing.report
  have attempts : load.attempts = config.keys * min config.rounds (config.refusals + 1) :=
    standing.attempts
  refine ⟨made, .ofMilliseconds (finished.now - course.now),
    finished.note (.notice (.managerClosed load.board.manager.size failures)), ?_, standing.dialed,
    recorded⟩
  rw [runCache, plays]
  simp only [bind, Except.bind, closes, report, attempts]
  rfl

end CacheLoad

/-- The dials of the first round, as far as they are refused. -/
def Config.refusedDials (config : Config) : Nat :=
  if config.flakyDials then config.keys else 0

private theorem Config.keys_mul_refusals (config : Config) :
    config.keys * config.refusals = config.refusedDials := by
  unfold refusals refusedDials
  split <;> simp

private theorem Config.Dialed.countP_breaks {config : Config} {made : List Dial}
    (dialed : config.Dialed config.rounds made) (rounds : 1 ≤ config.rounds) :
    made.countP (fun dial => config.breaks dial.attempt) =
      if 0 < config.failCloseEvery ∧ (config.flakyDials = false ∨ 1 < config.rounds) then
        (config.refusedDials + config.keys) / config.failCloseEvery -
          config.refusedDials / config.failCloseEvery
      else 0 := by
  have played : config.refusals < config.rounds ↔
      config.flakyDials = false ∨ 1 < config.rounds := by
    unfold refusals
    cases config.flakyDials with
    | false => simpa using Nat.pos_of_ne_zero (Nat.one_le_iff_ne_zero.mp rounds)
    | true => simp
  unfold Dialed at dialed
  split at dialed
  · next early =>
      rw [dialed, List.countP_nil, if_neg]
      exact fun both => Nat.not_lt_of_le early (played.mpr both.2)
  · next late =>
      have many := dialed.2.countP_eq config.breaks
      rw [List.countP_map, countP_breaks_range', keys_mul_refusals] at many
      simp only [played.mp (Nat.lt_of_not_le late), and_true]
      exact many

/-- What a report of the cache scenario has to tell, however its callers were polled. -/
structure Config.CacheCounts (config : Config) (report : Report) : Prop where
  scenario : report.scenario = "cache"
  calls : report.calls = config.callers * config.keys * config.rounds
  /-- No count exceeds that of the calls, which 64 bits can tell. -/
  fits : report.calls < 2 ^ 64
  dialFailures : report.dialFailures =
    if config.flakyDials = true then config.callers * config.keys else 0
  executions : report.executions =
    if config.flakyDials = false ∨ config.rounds = 1 then config.keys else 2 * config.keys
  shared : report.executions + report.shared = report.calls
  peak : report.peak = 0
  closeFailures : report.closeFailures =
    if 0 < config.failCloseEvery ∧ (config.flakyDials = false ∨ 1 < config.rounds) then
      (config.refusedDials + config.keys) / config.failCloseEvery -
        config.refusedDials / config.failCloseEvery
    else 0

/-- A run of the cache scenario raises no false alarm, on any schedule, and its counts are those
of the configuration. -/
theorem runCache_counts {config : Config} (callers : 1 ≤ config.callers) (keys : 1 ≤ config.keys)
    (rounds : 1 ≤ config.rounds) (work : 1 ≤ config.work)
    (few : config.callers * config.keys ≤ maxCallers)
    (fits : config.callers * config.keys * config.rounds < 2 ^ 64)
    (timetable : Timetable) (course : Course) :
    ∃ report finished, runCache config timetable course = (.ok report, finished) ∧
      config.CacheCounts report := by
  obtain ⟨made, elapsed, finished, runs, dialed, _⟩ :=
    CacheLoad.runCache_eq ⟨callers, keys, work, few⟩ timetable course
  refine ⟨_, finished, runs, ?_⟩
  constructor
  case scenario => rfl
  case calls => rfl
  case fits => exact fits
  case dialFailures =>
    change config.callers * config.keys * min config.rounds config.refusals = _
    unfold Config.refusals
    split
    · rw [Nat.min_eq_right rounds, Nat.mul_one]
    · rw [Nat.min_zero, Nat.mul_zero]
  case executions =>
    change config.keys * min config.rounds (config.refusals + 1) = _
    unfold Config.refusals
    cases config.flakyDials with
    | false => simp [Nat.min_eq_right rounds]
    | true =>
        by_cases once : config.rounds = 1
        · simp [once]
        · have twice : min config.rounds 2 = 2 := Nat.min_eq_right (by omega)
          simp [once, twice, Nat.mul_comm]
  case shared =>
    refine Nat.add_sub_cancel' ?_
    calc config.keys * min config.rounds (config.refusals + 1)
        ≤ config.keys * config.rounds := Nat.mul_le_mul_left _ (Nat.min_le_left _ _)
      _ ≤ config.callers * config.keys * config.rounds :=
        Nat.mul_le_mul_right _ (Nat.le_mul_of_pos_left _ callers)
  case peak => rfl
  case closeFailures => exact dialed.countP_breaks rounds

theorem runCache_counts_of_flaky :
    let config : Config :=
      { callers := 2, keys := 3, rounds := 2, failCloseEvery := 2, flakyDials := true }
    ∃ report finished, runCache config (fun _ step => step) {} = (.ok report, finished) ∧
      config.CacheCounts report :=
  runCache_counts (by decide) (by decide) (by decide) (by decide) (by decide) (by decide) _ _

/-! ## Too many callers -/

/-- More callers than a list can have are not even released. -/
theorem runCache_of_many {config : Config} (rounds : 1 ≤ config.rounds)
    (many : maxCallers < config.callers * config.keys)
    (fits : config.callers * config.keys < 2 ^ 64) (timetable : Timetable) (course : Course) :
    runCache config timetable course = (.error (.fault .callersOverflow), course) := by
  have fails : ∀ played now, CacheLoad.round config timetable 0 played now =
      .error (.fault .callersOverflow) := by
    intro played now
    rw [CacheLoad.round, rollCallPerKey_of_many many fits]
    rfl
  obtain ⟨more, same⟩ := Nat.exists_eq_add_of_le' rounds
  rw [runCache, same, playRounds_error (fails _ _)]
  rfl

/-- That all counts fit into 64 bits is not enough for a run to come to its end. -/
theorem runCache_not_counted :
    ¬ ∀ (config : Config) (timetable : Timetable) (course : Course),
      1 ≤ config.callers → 1 ≤ config.keys → 1 ≤ config.rounds → 1 ≤ config.work →
      config.callers * config.keys * config.rounds < 2 ^ 64 →
      ∃ report finished, runCache config timetable course = (.ok report, finished) ∧
        config.CacheCounts report := by
  intro counted
  obtain ⟨report, finished, runs, _⟩ :=
    counted { callers := 2 ^ 60, keys := 1, rounds := 1 } (fun _ _ => 0) {} (by decide) (by decide)
      (by decide) (by decide) (by decide)
  rw [runCache_of_many (by decide) (by decide) (by decide)] at runs
  cases runs

end Cohort
