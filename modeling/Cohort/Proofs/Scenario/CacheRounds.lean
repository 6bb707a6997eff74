import Cohort.Proofs.Scenario.CacheGathering
import Cohort.Proofs.Scenario.CacheLanding

/-!
# Rounds of the cache scenario

Once all callers of a round have gathered, time moves on to the moment at which their dials end,
and then everybody returns. If all addresses are connected already, everybody is answered at once.
-/

set_option autoImplicit false

namespace Cohort.CacheLoad

variable {address : Nat → String} {made : List Dial} {load : CacheLoad} {plan : DialPlan}
  {latency : Nat}

/-! ## A round of dials -/

/-- All have returned, and no dial is under way any more. -/
structure Returned (plan : DialPlan) (address : Nat → String) (total attempts : Nat)
    (made : List Dial) (load : CacheLoad) : Prop where
  led : load.flight.Led []
  stocked : Stocked plan address made load
  attempts : load.attempts = attempts
  returned : ∀ caller < total, ∃ result, load.phase caller = .done result ∧
    Resolves plan address load caller result

section Fresh

variable {total since started : Nat} {names : List String} {rota : Rota CacheLoad}
  {dials : List Dial}

private theorem Gathering.addresses_perm
    (gathering : Gathering plan latency address total since started rota dials)
    (gathered : rota.ready = []) (serves : Serves address total names) :
    (dials.map (fun dial => address dial.caller)).Perm names := by
  refine (List.perm_ext_iff_of_nodup gathering.connecting.addresses_nodup serves.distinct).mpr
    fun name => ?_
  rw [serves.mem_iff, List.mem_map]
  constructor
  · rintro ⟨dial, member, rfl⟩
    have dialing := (gathering.connecting.dialing _ _ _).mpr member
    exact ⟨dial.caller, gathering.connecting.lt_of_dialing dialing, rfl⟩
  · rintro ⟨caller, inside, rfl⟩
    exact gathering.exists_dial gathered inside

private theorem Gathering.tick
    (gathering : Gathering plan latency address total since started rota dials)
    (gathered : rota.ready = []) (asleep : rota.asleep ≠ []) :
    Landing plan address total (since + dials.length) rota.tick dials [] := by
  have connecting := gathering.connecting
  have some : dials.map Dial.caller ≠ [] := by
    intro none
    rw [gathering.asleep, none] at asleep
    exact asleep rfl
  rw [Rota.tick_of_due gathering.asleep some, gathered, List.nil_append]
  have apart := connecting.addresses_nodup
  constructor
  case connecting => exact connecting
  case asleep => rfl
  case nodup =>
    rw [show (fun dial => address dial.caller) = address ∘ Dial.caller from rfl,
      ← List.map_map] at apart
    exact apart.of_map address
  case ready =>
    intro caller member
    obtain ⟨dial, dials_member, rfl⟩ := List.mem_map.mp member
    exact Or.inl ⟨_, _, (connecting.dialing _ _ _).mpr dials_member⟩
  case returning =>
    intro caller inside
    cases stands : rota.state.phase caller with
    | idle =>
        have ready := (gathering.ready caller).mpr ⟨inside, stands⟩
        rw [gathered] at ready
        cases ready
    | dialing call attempt =>
        have member := (connecting.dialing caller call attempt).mp stands
        exact .dialing stands (List.mem_map_of_mem (f := Dial.caller) member)
    | following call ticket =>
        obtain ⟨dial, member, rfl, same⟩ := gathering.joined caller call ticket stands
        exact .waiting member stands same
    | done result => exact absurd stands (gathering.undone caller result)
  case stocked =>
    have nothing : kept plan [] = [] := List.sublist_nil.mp (kept_sublist plan [])
    rw [nothing]
    exact gathering.stocked
  case apart => exact apart
  case attempts => exact gathering.attempts

/-- The callers gather, or the dials of all addresses end. At most `left` polls and ticks are
still to come. -/
inductive Underway (plan : DialPlan) (latency : Nat) (address : Nat → String)
    (total since started : Nat) (names : List String) (left : Nat) (rota : Rota CacheLoad) :
    Prop where
  | gathering {dials : List Dial} :
      Gathering plan latency address total since started rota dials →
      left = total + rota.ready.length + 1 →
      Underway plan latency address total since started names left rota
  | landing {pending landed : List Dial} :
      Landing plan address total (since + names.length) rota pending landed →
      ((landed ++ pending).map (fun dial => address dial.caller)).Perm names →
      ((landed ++ pending).map Dial.attempt).Perm (List.range' (since + 1) names.length) →
      left = rota.state.left total →
      Underway plan latency address total since started names left rota

private theorem underway_advances (few : total < 2 ^ 64) (takes_time : 0 < latency)
    (serves : Serves address total names) :
    Rota.Advances (behavior latency plan address)
      (Underway plan latency address total since started names) := by
  constructor
  case polled =>
    intro left rota caller underway ready
    cases underway with
    | gathering gathering same =>
        obtain ⟨dials, next, fewer⟩ := gathering.poll few takes_time ready
        exact ⟨_, by omega, .gathering next rfl⟩
    | landing landing addresses numbers same =>
        obtain ⟨pending, landed, moved, next, fewer⟩ := landing.poll ready
        exact ⟨_, by omega, .landing next ((moved.map _).trans addresses)
          ((moved.map _).trans numbers) rfl⟩
  case ticked =>
    intro left rota underway ready asleep
    cases underway with
    | @gathering dials gathering same =>
        have addresses := gathering.addresses_perm ready serves
        have many : dials.length = names.length := by
          simpa using addresses.length_eq
        have most := left_le rota.tick.state total
        have landing : Landing plan address total (since + names.length) rota.tick dials [] :=
          many ▸ gathering.tick ready asleep
        refine ⟨_, ?_, .landing landing addresses ?_ rfl⟩
        · omega
        · rw [List.nil_append, gathering.numbers, many]
    | landing landing _ _ _ => exact absurd landing.asleep asleep

private theorem gathering_new {now : Nat} (led : load.flight.Led [])
    (stocked : Stocked plan address [] load) (attempts : load.attempts = since)
    (callers : load.callers = Array.replicate total .idle) :
    Gathering plan latency address total since now
      { now, state := load, ready := List.range total } [] := by
  have idle := phase_of_replicate callers
  constructor
  case connecting =>
    refine ⟨by rw [callers, Array.size_replicate], led, fun caller call attempt => ?_,
      fun _ member => absurd member List.not_mem_nil⟩
    simp [idle]
  case now => rfl
  case asleep => rfl
  case nodup => exact List.nodup_range
  case ready => exact fun caller => by simp [idle]
  case joined => exact fun caller call ticket following => by simp [idle] at following
  case undone => exact fun caller result done => by simp [idle] at done
  case orderly => exact fun _ member => absurd member List.not_mem_nil
  case attempts => exact attempts
  case numbers => rfl
  case stocked => exact stocked

/-- In a round that finds nothing connected, each address is dialed once, by consecutive
numbers in some order, and all return with what has become of their own. -/
theorem fresh_round (few : total < 2 ^ 64) (some : 0 < total) (takes_time : 0 < latency)
    (serves : Serves address total names) (led : load.flight.Led [])
    (stocked : Stocked plan address [] load) (attempts : load.attempts = since)
    (callers : load.callers = Array.replicate total .idle) (schedule : Schedule) (now : Nat) :
    ∃ dials, (dials.map (fun dial => address dial.caller)).Perm names ∧
      (dials.map Dial.attempt).Perm (List.range' (since + 1) names.length) ∧
      Returned plan address total (since + names.length) (kept plan dials)
        (Rota.play (behavior latency plan address) schedule now (List.range total) load).state := by
  have gathering := @gathering_new address load plan latency total since now led stocked attempts
    callers
  have enough : total + (List.range total).length + 1 ≤ 4 * (List.range total).length + 1 := by
    rw [List.length_range]
    omega
  obtain ⟨left, underway, ready, asleep⟩ := Rota.run_rests
    (underway_advances few takes_time serves) enough (.gathering gathering rfl) schedule 0
  cases underway with
  | gathering gathering _ =>
      -- Somebody has come, so somebody dials.
      obtain ⟨dial, member, _⟩ := gathering.exists_dial ready some
      have sleeps := gathering.asleep
      rw [asleep] at sleeps
      have none : _ = [] := List.map_eq_nil_iff.mp (List.map_eq_nil_iff.mp sleeps.symm)
      rw [none] at member
      cases member
  | @landing pending landed landing addresses numbers _ =>
      obtain ⟨rfl, returned⟩ := landing.returned ready
      rw [List.append_nil] at addresses numbers
      exact ⟨landed, addresses, numbers, landing.connecting.led, landing.stocked,
        landing.attempts, returned⟩

end Fresh

/-! ## A round of answers -/

/-- All addresses are connected, so whoever is polled returns at once. -/
structure Answering (plan : DialPlan) (address : Nat → String) (total attempts : Nat)
    (made : List Dial) (rota : Rota CacheLoad) : Prop where
  size : rota.state.callers.size = total
  led : rota.state.flight.Led []
  asleep : rota.asleep = []
  nodup : rota.ready.Nodup
  ready : ∀ caller ∈ rota.ready, caller < total ∧ rota.state.phase caller = .idle
  answered : ∀ caller < total, caller ∈ rota.ready ∨
    ∃ result, rota.state.phase caller = .done result ∧
      Resolves plan address rota.state caller result
  stocked : Stocked plan address made rota.state
  attempts : rota.state.attempts = attempts

section Held

variable {total attempts caller : Nat} {rota : Rota CacheLoad}

private theorem Answering.poll (answering : Answering plan address total attempts made rota)
    (accepts : plan.refuse = false) (connected : ∀ caller < total, ∃ position,
      (shelf address made).find? (address caller) = some position)
    (ready : caller ∈ rota.ready) :
    Answering plan address total attempts made (rota.poll (behavior latency plan address) caller) ∧
      (rota.poll (behavior latency plan address) caller).state.left total <
        rota.state.left total := by
  obtain ⟨inside, idle⟩ := answering.ready caller ready
  have in_size : caller < rota.state.callers.size := answering.size.symm ▸ inside
  have free : rota.state.flight.registry.find? (address caller) = none := by
    refine Option.eq_none_iff_forall_ne_some.mpr fun call registered => ?_
    exact List.not_mem_nil (answering.led.find?_iff.mp registered)
  obtain ⟨position, there⟩ := connected caller inside
  have held : rota.state.held (address caller) = .ok (some position) := by
    rw [answering.stocked.held_eq, there]
  obtain ⟨log, behaves⟩ := @request_of_held rota.state latency caller plan (address caller) position
    free held
  rw [← behavior_of_idle idle] at behaves
  have poll := Rota.polled_poll answering.nodup behaves
  let flight := ((rota.state.flight.lead (address caller)).settle (address caller)
    rota.state.flight.calls.size (.done (.ok position))).2
  have advanced : rota.state.Advanced (rota.state.onward caller (.done (.ok position)) flight log)
      caller (.done (.ok position)) flight := ⟨rfl, rfl⟩
  have resolves : Resolves plan address
      (rota.poll (behavior latency plan address) caller).state caller (.ok position) := by
    rw [poll.state, Resolves, if_neg (by simp [accepts])]
    exact ⟨position, rfl, held⟩
  have mem_ready : ∀ one, one ∈ (rota.poll (behavior latency plan address) caller).ready ↔
      one ∈ rota.ready ∧ one ≠ caller := by simpa using poll.mem_ready
  refine ⟨?_, ?_⟩
  · constructor
    case size => rw [poll.state, advanced.size, answering.size]
    case led =>
      rw [poll.state]
      exact (answering.led.lead free).settle _
    case asleep => rw [poll.asleep, answering.asleep, List.append_nil]
    case nodup => exact poll.nodup
    case ready =>
      intro one there
      obtain ⟨before, different⟩ := (mem_ready one).mp there
      rw [poll.state, advanced.phase_of_ne different]
      exact answering.ready one before
    case answered =>
      intro one one_inside
      by_cases own : one = caller
      · subst own
        refine Or.inr ⟨_, ?_, resolves⟩
        rw [poll.state, advanced.phase_self in_size]
      · refine (answering.answered one one_inside).imp
          (fun before => (mem_ready one).mpr ⟨before, own⟩) ?_
        rintro ⟨result, done, resolved⟩
        refine ⟨result, ?_, ?_⟩
        · rw [poll.state, advanced.phase_of_ne own]
          exact done
        · rw [poll.state]
          exact resolved
    case stocked =>
      rw [poll.state]
      exact answering.stocked.onward ..
    case attempts =>
      rw [poll.state]
      exact answering.attempts
  · rw [poll.state]
    exact advanced.left_lt answering.size inside (by simp [idle])

private theorem answering_new {now : Nat} (led : load.flight.Led [])
    (stocked : Stocked plan address made load) (same : load.attempts = attempts)
    (callers : load.callers = Array.replicate total .idle) :
    Answering plan address total attempts made
      { now, state := load, ready := List.range total } := by
  constructor
  case size => rw [callers, Array.size_replicate]
  case led => exact led
  case asleep => rfl
  case nodup => exact List.nodup_range
  case ready =>
    intro caller member
    exact ⟨List.mem_range.mp member, phase_of_replicate callers caller⟩
  case answered => exact fun caller inside => Or.inl (List.mem_range.mpr inside)
  case stocked => exact stocked
  case attempts => exact same

/-- In a round that finds all addresses connected, nobody dials and all return with the
connection of their own. -/
theorem held_round (accepts : plan.refuse = false)
    (connected : ∀ caller < total, ∃ position,
      (shelf address made).find? (address caller) = some position)
    (led : load.flight.Led []) (stocked : Stocked plan address made load)
    (same : load.attempts = attempts)
    (callers : load.callers = Array.replicate total .idle) (schedule : Schedule) (now : Nat) :
    Returned plan address total attempts made
      (Rota.play (behavior latency plan address) schedule now (List.range total) load).state := by
  have advances : Rota.Advances (behavior latency plan address) (fun left rota =>
      Answering plan address total attempts made rota ∧ left = rota.state.left total) := by
    constructor
    case polled =>
      rintro left rota caller ⟨answering, rfl⟩ ready
      obtain ⟨next, fewer⟩ := answering.poll accepts connected ready
      exact ⟨_, fewer, next, rfl⟩
    case ticked =>
      rintro left rota ⟨answering, _⟩ _ asleep
      exact absurd answering.asleep asleep
  have enough : load.left total ≤ 4 * (List.range total).length + 1 := by
    have most := left_le load total
    rw [List.length_range]
    omega
  obtain ⟨left, ⟨answering, _⟩, ready, _⟩ := Rota.run_rests advances enough
    ⟨answering_new led stocked same callers, rfl⟩ schedule 0
  refine ⟨answering.led, answering.stocked, answering.attempts, fun caller inside => ?_⟩
  refine (answering.answered caller inside).resolve_left fun waits => ?_
  rw [ready] at waits
  cases waits

end Held

end Cohort.CacheLoad
