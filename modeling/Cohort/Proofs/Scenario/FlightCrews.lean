import Cohort.Proofs.Scenario.FlightTurns

/-!
# Crews of the flight scenario

The callers of a round, as their calls see them. Every call that runs is led by one caller, under
a key that no other leads, and whoever has joined it stands in its line. Every execution is that of
one caller, which either runs it still or has come back with it, and nobody comes back with an
execution that no caller of its key has run.
-/

set_option autoImplicit false

namespace Cohort

namespace FlightCaller

/-- The call that it leads for its key. -/
def lead? (key : String) : FlightCaller → Option (String × Nat)
  | .working call _ => some (key, call)
  | .idle | .following _ _ | .done _ _ => none

/-- The execution that it has started. -/
def run? : FlightCaller → Option Nat
  | .working _ execution => some execution
  | .done (.ok execution) true => some execution
  | .idle | .following _ _ | .done _ _ => none

/-- Counts those who have not been polled yet. -/
def newcomers : FlightCaller → Nat
  | .idle => 1
  | .working _ _ | .following _ _ | .done _ _ => 0

end FlightCaller

namespace FlightLoad

variable {load next : FlightLoad} {caller call one execution total since : Nat}
  {key : Nat → String} {phase : FlightCaller}

/-- The calls that are led, with their keys. -/
def leaders (load : FlightLoad) (key : Nat → String) (total : Nat) : List (String × Nat) :=
  picked total (fun caller => FlightCaller.lead? (key caller)) load.phase

/-- The executions that were started by the callers of this round. -/
def runs (load : FlightLoad) (total : Nat) : List Nat :=
  picked total (fun _ => FlightCaller.run?) load.phase

/-- How many callers have not been polled yet. -/
def newcomers (load : FlightLoad) (total : Nat) : Nat :=
  weightOf total FlightCaller.newcomers load.phase

/-- A caller of the same key has run this execution to its end. -/
def Ran (key : Nat → String) (load : FlightLoad) (caller execution : Nat) : Prop :=
  ∃ one, load.phase one = .done (.ok execution) true ∧ key one = key caller

/-- How it stands with a call that a caller has joined: another caller of the key leads it, or has
run its execution to the end. -/
inductive Shares (key : Nat → String) (load : FlightLoad) (caller call : Nat) : Prop where
  | running {leader execution : Nat} : load.phase leader = .working call execution →
      key leader = key caller → Shares key load caller call
  | settled {execution : Nat} :
      (load.flight.call call).verdict = some (.done (.ok execution)) →
      Ran key load caller execution → Shares key load caller call

private theorem Ran.update (ran : Ran key load one execution)
    (phases : next.phase = Function.update load.phase caller phase)
    (undone : ∀ result fresh, load.phase caller ≠ .done result fresh) :
    Ran key next one execution := by
  obtain ⟨runner, done, same⟩ := ran
  have different : runner ≠ caller := by
    rintro rfl
    exact undone _ _ done
  exact ⟨runner, by rw [phases, Function.update_of_ne different, done], same⟩

private theorem Shares.update (shares : Shares key load one call)
    (phases : next.phase = Function.update load.phase caller phase)
    (undone : ∀ result fresh, load.phase caller ≠ .done result fresh)
    (stays : ∀ execution, load.phase caller ≠ .working call execution)
    (verdicts : ∀ verdict, (load.flight.call call).verdict = some verdict →
      (next.flight.call call).verdict = some verdict) : Shares key next one call := by
  cases shares with
  | @running leader execution leads same =>
      have different : leader ≠ caller := by
        rintro rfl
        exact stays _ leads
      exact .running (by rw [phases, Function.update_of_ne different, leads]) same
  | settled settled ran => exact .settled (verdicts _ settled) (ran.update phases undone)

private theorem following_update (phases : next.phase = Function.update load.phase caller phase)
    (same : ∀ ticket, phase = .following call ticket ↔ load.phase caller = .following call ticket)
    (one : Nat) :
    (∃ ticket, next.phase one = .following call ticket) ↔
      ∃ ticket, load.phase one = .following call ticket := by
  refine exists_congr fun ticket => ?_
  rw [phases, Function.update_apply]
  split
  · next own =>
      rw [own]
      exact same ticket
  · rfl

/-- One caller has come to stand elsewhere, and the flight has changed. -/
structure Advanced (load next : FlightLoad) (caller : Nat) (phase : FlightCaller)
    (flight : Flight String Nat (Except String Nat)) (executions : Nat) : Prop where
  callers : next.callers = load.callers.setIfInBounds caller phase
  flight : next.flight = flight
  executions : next.executions = executions

theorem Advanced.phases {flight : Flight String Nat (Except String Nat)}
    (advanced : load.Advanced next caller phase flight execution)
    (inside : caller < load.callers.size) :
    next.phase = Function.update load.phase caller phase := by
  funext one
  rw [FlightLoad.phase, advanced.callers]
  exact congrFun (phase_setCaller inside phase) one

private theorem Advanced.size {flight : Flight String Nat (Except String Nat)}
    (advanced : load.Advanced next caller phase flight execution) :
    next.callers.size = load.callers.size := by
  rw [advanced.callers, Array.size_setIfInBounds]

theorem advanced_started (load : FlightLoad) (key : String) (caller : Nat) :
    load.Advanced (load.started key caller) caller
      (.working load.flight.calls.size (load.executions + 1)) (load.flight.lead key)
      (load.executions + 1) := ⟨rfl, rfl, rfl⟩

theorem advanced_joined (load : FlightLoad) (caller call : Nat) :
    load.Advanced (load.joined caller call) caller
      (.following call ((load.flight.call call).line.park none caller).1)
      (load.flight.parkAt call none caller) load.executions := ⟨rfl, rfl, rfl⟩

theorem advanced_finished (load : FlightLoad) (key : String) (caller call execution : Nat) :
    load.Advanced (load.finished key caller call execution) caller (.done (.ok execution) true)
      (load.flight.settle key call (.done (.ok execution))).2 load.executions := ⟨rfl, rfl, rfl⟩

theorem advanced_setCaller (load : FlightLoad) (caller : Nat) (phase : FlightCaller) :
    load.Advanced (load.setCaller caller phase) caller phase load.flight load.executions :=
  ⟨rfl, rfl, rfl⟩

section Update

variable (inside : caller < total) (phases : next.phase = Function.update load.phase caller phase)

include inside phases

private theorem leaders_update (key : Nat → String) :
    ∃ rest, (load.leaders key total).Perm
        ((FlightCaller.lead? (key caller) (load.phase caller)).toList ++ rest) ∧
      (next.leaders key total).Perm ((FlightCaller.lead? (key caller) phase).toList ++ rest) := by
  obtain ⟨rest, before, after⟩ := picked_update inside
    (fun caller => FlightCaller.lead? (key caller)) load.phase
  refine ⟨rest, before, ?_⟩
  rw [leaders, phases]
  exact after phase

private theorem runs_update :
    ∃ rest, (load.runs total).Perm ((load.phase caller).run?.toList ++ rest) ∧
      (next.runs total).Perm (phase.run?.toList ++ rest) := by
  obtain ⟨rest, before, after⟩ := picked_update inside (fun _ => FlightCaller.run?) load.phase
  refine ⟨rest, before, ?_⟩
  rw [runs, phases]
  exact after phase

private theorem runs_kept (same : phase.run? = (load.phase caller).run?) :
    (next.runs total).Perm (load.runs total) := by
  obtain ⟨rest, before, after⟩ := runs_update inside phases
  rw [same] at after
  exact after.trans before.symm

theorem newcomers_update :
    next.newcomers total + (load.phase caller).newcomers =
      load.newcomers total + phase.newcomers := by
  rw [newcomers, phases]
  exact weightOf_update inside FlightCaller.newcomers load.phase phase

end Update

structure Crew (key : Nat → String) (total since : Nat) (load : FlightLoad) : Prop where
  size : load.callers.size = total
  few : total < 2 ^ 64
  led : load.flight.Led (load.leaders key total)
  /-- As long as a call is not settled, whoever has joined it stands in its line. -/
  lines : ∀ call, (load.flight.call call).verdict = none → ∀ caller,
    caller ∈ load.flight.wakersAt call ↔ ∃ ticket, load.phase caller = .following call ticket
  orderly : ∀ call, (load.flight.call call).verdict = none →
    (load.flight.call call).line.Orderly ∧
      (load.flight.call call).line.drawn + load.newcomers total ≤ total
  follows : ∀ caller call ticket, load.phase caller = .following call ticket →
    Shares key load caller call
  returned : ∀ caller result fresh, load.phase caller = .done result fresh →
    ∃ execution, result = .ok execution ∧ Ran key load caller execution
  runs : (load.runs total).Perm (List.range' (since + 1) (load.runs total).length)
  executions : load.executions = since + (load.runs total).length

namespace Crew

theorem mem_leaders (crew : Crew key total since load)
    (working : load.phase caller = .working call execution) :
    (key caller, call) ∈ load.leaders key total := by
  have inside : caller < total := crew.size ▸ lt_size_of_phase (by simp [working])
  exact mem_picked.mpr ⟨caller, inside, by rw [working]; rfl⟩

private theorem exists_leader (registered : load.flight.registry.find? (key caller) = some call)
    (crew : Crew key total since load) :
    ∃ leader < total, ∃ execution, load.phase leader = .working call execution ∧
      key leader = key caller := by
  obtain ⟨leader, inside, leads⟩ := mem_picked.mp (crew.led.find?_iff.mp registered)
  cases stands : load.phase leader with
  | idle | following _ _ | done _ _ => simp [stands, FlightCaller.lead?] at leads
  | working number execution =>
      simp only [stands, FlightCaller.lead?, Option.some.injEq, Prod.mk.injEq] at leads
      exact ⟨leader, inside, execution, by rw [stands, leads.2], leads.1⟩

theorem lt_size_of_following {ticket : UInt64} (crew : Crew key total since load)
    (following : load.phase caller = .following call ticket) : call < load.flight.calls.size := by
  cases crew.follows caller call ticket following with
  | running leads _ => exact crew.led.lt_size (crew.mem_leaders leads)
  | settled settled _ => exact Flight.lt_size_of_settled settled

private theorem returned_update (crew : Crew key total since load)
    (phases : next.phase = Function.update load.phase caller phase)
    (undone : ∀ result fresh, load.phase caller ≠ .done result fresh)
    (own : ∀ result fresh, phase = .done result fresh →
      ∃ execution, result = .ok execution ∧ Ran key next caller execution) :
    ∀ one result fresh, next.phase one = .done result fresh →
      ∃ execution, result = .ok execution ∧ Ran key next one execution := by
  intro one result fresh done
  rw [phases, Function.update_apply] at done
  split at done
  · next same => exact same ▸ own result fresh done
  · obtain ⟨execution, ok, ran⟩ := crew.returned one result fresh done
    exact ⟨execution, ok, ran.update phases undone⟩

theorem started (crew : Crew key total since load) (inside : caller < total)
    (idle : load.phase caller = .idle)
    (free : load.flight.registry.find? (key caller) = none)
    (advanced : load.Advanced next caller
      (.working load.flight.calls.size (load.executions + 1)) (load.flight.lead (key caller))
      (load.executions + 1)) : Crew key total since next := by
  have phases := advanced.phases (crew.size.symm ▸ inside)
  have calls : ∀ call, next.flight.call call = load.flight.call call := fun call =>
    advanced.flight ▸ Flight.call_lead load.flight (key caller) call
  have undone : ∀ result fresh, load.phase caller ≠ .done result fresh := by simp [idle]
  have coming := newcomers_update inside phases
  obtain ⟨rest, before, after⟩ := leaders_update inside phases key
  obtain ⟨others, ran, run⟩ := runs_update inside phases
  rw [idle] at before ran coming
  simp only [FlightCaller.newcomers] at coming
  have length : (next.runs total).length = (load.runs total).length + 1 := by
    rw [run.length_eq, ran.length_eq]
    rfl
  have executions : next.executions = since + (load.runs total).length + 1 :=
    advanced.executions.trans (congrArg (· + 1) crew.executions)
  constructor
  case size => exact advanced.size.trans crew.size
  case few => exact crew.few
  case led => exact advanced.flight ▸ ((crew.led.perm before).lead free).perm after.symm
  case lines =>
    intro call unsettled one
    rw [Flight.wakersAt, calls, ← Flight.wakersAt, following_update phases (by simp [idle])]
    exact crew.lines call (calls call ▸ unsettled) one
  case orderly =>
    intro call unsettled
    rw [calls] at unsettled ⊢
    obtain ⟨orderly, drawn⟩ := crew.orderly call unsettled
    exact ⟨orderly, by omega⟩
  case follows =>
    intro one call ticket following
    have different : one ≠ caller := by
      rintro rfl
      simp [phases] at following
    rw [phases, Function.update_of_ne different] at following
    refine (crew.follows one call ticket following).update phases undone (by simp [idle]) ?_
    exact fun verdict settled => (calls call).symm ▸ settled
  case returned => exact crew.returned_update phases undone (by simp)
  case runs =>
    have last : load.executions + 1 = since + 1 + (load.runs total).length := by
      rw [crew.executions, Nat.add_right_comm]
    rw [length, List.range'_concat, Nat.one_mul, ← last]
    refine run.trans (List.Perm.trans ?_ (List.perm_append_singleton _ _).symm)
    exact (ran.symm.trans crew.runs).cons _
  case executions => rw [executions, length, Nat.add_assoc]

theorem joined {ticket : UInt64} (crew : Crew key total since load) (inside : caller < total)
    (idle : load.phase caller = .idle)
    (registered : load.flight.registry.find? (key caller) = some call)
    (advanced : load.Advanced next caller (.following call ticket)
      (load.flight.parkAt call none caller) load.executions) : Crew key total since next := by
  have phases := advanced.phases (crew.size.symm ▸ inside)
  have led := crew.led.find?_iff.mp registered
  have unsettled := crew.led.verdict_eq_none led
  have alike := Flight.alike_parkAt load.flight call none caller
  have undone : ∀ result fresh, load.phase caller ≠ .done result fresh := by simp [idle]
  obtain ⟨orderly, drawn⟩ := crew.orderly call unsettled
  have few := crew.few
  have coming := newcomers_update inside phases
  have runs := runs_kept inside phases (by rw [idle]; rfl)
  obtain ⟨rest, before, after⟩ := leaders_update inside phases key
  rw [idle] at before coming
  simp only [FlightCaller.newcomers] at coming
  rw [← advanced.flight] at alike
  constructor
  case size => exact advanced.size.trans crew.size
  case few => exact few
  case led => exact ((crew.led.alike alike).perm before).perm after.symm
  case lines =>
    intro other unsettled' one
    rw [alike.verdict] at unsettled'
    have lines := crew.lines other unsettled' one
    by_cases same : other = call
    · subst same
      rw [advanced.flight, Flight.wakersAt_parkAt_self (crew.led.lt_size led) orderly (by omega),
        List.mem_append, List.mem_singleton, lines, phases, Function.update_apply]
      split
      · next own => simp [own]
      · next different => simp [different]
    · rw [advanced.flight, Flight.wakersAt_parkAt_of_ne same, lines,
        following_update phases (by simp [idle, Ne.symm same])]
  case orderly =>
    intro other unsettled'
    rw [alike.verdict] at unsettled'
    rw [advanced.flight, Flight.line_parkAt]
    by_cases same : other = call
    · rw [if_pos ⟨same, crew.led.lt_size led⟩, WaitLine.drawn_park_none]
      exact ⟨orderly.park_none (by omega) caller, by omega⟩
    · rw [if_neg fun both => same both.1]
      obtain ⟨orderly, drawn⟩ := crew.orderly other unsettled'
      exact ⟨orderly, by omega⟩
  case follows =>
    intro one other ticket' following
    by_cases own : one = caller
    · subst own
      rw [phases, Function.update_self] at following
      cases following
      obtain ⟨leader, _, execution, leads, same⟩ := crew.exists_leader registered
      have different : leader ≠ one := by
        rintro rfl
        simp [idle] at leads
      exact .running (by rw [phases, Function.update_of_ne different, leads]) same
    · rw [phases, Function.update_of_ne own] at following
      refine (crew.follows one other ticket' following).update phases undone (by simp [idle]) ?_
      exact fun verdict settled => (alike.verdict other).trans settled
  case returned => exact crew.returned_update phases undone (by simp)
  case runs =>
    rw [runs.length_eq]
    exact runs.trans crew.runs
  case executions => rw [advanced.executions, runs.length_eq, crew.executions]

/-- Whoever has joined the call that ends can share its result. -/
theorem finished (crew : Crew key total since load)
    (working : load.phase caller = .working call execution)
    (advanced : load.Advanced next caller (.done (.ok execution) true)
      (load.flight.settle (key caller) call (.done (.ok execution))).2 load.executions) :
    Crew key total since next := by
  have inside : caller < total := crew.size ▸ lt_size_of_phase (by simp [working])
  have phases := advanced.phases (crew.size.symm ▸ inside)
  have leads := crew.mem_leaders working
  have unsettled := crew.led.verdict_eq_none leads
  have undone : ∀ result fresh, load.phase caller ≠ .done result fresh := by simp [working]
  have coming := newcomers_update inside phases
  have runs := runs_kept inside phases (by rw [working]; rfl)
  obtain ⟨rest, before, after⟩ := leaders_update inside phases key
  rw [working] at before coming
  simp only [FlightCaller.newcomers, Nat.add_zero] at coming
  have settled : (next.flight.call call).verdict = some (.done (.ok execution)) := by
    rw [advanced.flight, Flight.verdict_settle, if_pos ⟨rfl, crew.led.lt_size leads⟩]
  have others_open : ∀ other, (next.flight.call other).verdict = none → other ≠ call := by
    rintro other open_ rfl
    rw [settled] at open_
    cases open_
  have calls : ∀ other, other ≠ call → next.flight.call other = load.flight.call other :=
    fun other different => by rw [advanced.flight, Flight.call_settle_of_ne different]
  have done : next.phase caller = .done (.ok execution) true := by
    rw [phases, Function.update_self]
  constructor
  case size => exact advanced.size.trans crew.size
  case few => exact crew.few
  case led => exact advanced.flight ▸ ((crew.led.perm before).settle _).perm after.symm
  case lines =>
    intro other open_ one
    have different := others_open other open_
    rw [calls other different] at open_
    rw [Flight.wakersAt, calls other different, ← Flight.wakersAt, crew.lines other open_ one,
      following_update phases (by simp [working])]
  case orderly =>
    intro other open_
    have different := others_open other open_
    rw [calls other different] at open_ ⊢
    rw [coming]
    exact crew.orderly other open_
  case follows =>
    intro one other ticket following
    have different : one ≠ caller := by
      rintro rfl
      simp [phases] at following
    rw [phases, Function.update_of_ne different] at following
    have shares := crew.follows one other ticket following
    by_cases same : other = call
    · subst same
      cases shares with
      | settled already _ =>
          rw [unsettled] at already
          cases already
      | running leads' same =>
          -- The leader of a call is alone, and so is its key.
          have equal := List.inj_on_of_nodup_map crew.led.once leads (crew.mem_leaders leads') rfl
          exact .settled settled ⟨caller, done, (congrArg Prod.fst equal).trans same⟩
    · refine shares.update phases undone (by simp [working, Ne.symm same]) ?_
      exact fun verdict settled => (calls other same).symm ▸ settled
  case returned =>
    refine crew.returned_update phases undone fun result fresh same => ?_
    cases same
    exact ⟨execution, rfl, caller, done, rfl⟩
  case runs =>
    rw [runs.length_eq]
    exact runs.trans crew.runs
  case executions => rw [advanced.executions, runs.length_eq, crew.executions]

theorem shared {ticket : UInt64} (crew : Crew key total since load)
    (following : load.phase caller = .following call ticket)
    (settled : (load.flight.call call).verdict = some (.done (.ok execution)))
    (advanced : load.Advanced next caller (.done (.ok execution) false) load.flight
      load.executions) : Crew key total since next := by
  have inside : caller < total := crew.size ▸ lt_size_of_phase (by simp [following])
  have phases := advanced.phases (crew.size.symm ▸ inside)
  have undone : ∀ result fresh, load.phase caller ≠ .done result fresh := by simp [following]
  have coming := newcomers_update inside phases
  have runs := runs_kept inside phases (by rw [following]; rfl)
  obtain ⟨rest, before, after⟩ := leaders_update inside phases key
  rw [following] at before coming
  simp only [FlightCaller.newcomers, Nat.add_zero] at coming
  constructor
  case size => exact advanced.size.trans crew.size
  case few => exact crew.few
  case led => exact advanced.flight ▸ (crew.led.perm before).perm after.symm
  case lines =>
    intro other unsettled one
    rw [advanced.flight] at unsettled ⊢
    have different : call ≠ other := by
      rintro rfl
      rw [unsettled] at settled
      cases settled
    rw [crew.lines other unsettled one, following_update phases (by simp [following, different])]
  case orderly =>
    rw [advanced.flight, coming]
    exact crew.orderly
  case follows =>
    intro one other ticket following'
    have different : one ≠ caller := by
      rintro rfl
      simp [phases] at following'
    rw [phases, Function.update_of_ne different] at following'
    refine (crew.follows one other ticket following').update phases undone (by simp [following]) ?_
    exact fun verdict settled => advanced.flight ▸ settled
  case returned =>
    refine crew.returned_update phases undone fun result fresh done => ?_
    cases done
    refine ⟨execution, rfl, ?_⟩
    cases crew.follows caller call ticket following with
    | running leads _ =>
        rw [crew.led.verdict_eq_none (crew.mem_leaders leads)] at settled
        cases settled
    | settled already ran =>
        rw [settled] at already
        cases already
        exact ran.update phases undone
  case runs =>
    rw [runs.length_eq]
    exact runs.trans crew.runs
  case executions => rw [advanced.executions, runs.length_eq, crew.executions]

end Crew

end FlightLoad

end Cohort
