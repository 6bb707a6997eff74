import Mathlib.Data.List.Perm.Subperm
import Cohort.Proofs.Scenario.CacheDials

/-!
# Callers of the cache scenario that gather

Callers come at one instant. If none of their addresses is connected, the first caller of each
dials it and all others join its dial, in whatever order they are polled. Time stands still until
all have come.
-/

set_option autoImplicit false

namespace Cohort.CacheLoad

variable {address : Nat → String} {dial : Dial} {plan : DialPlan} {latency : Nat}

/-- Time stands still while callers come: each dials its address or joins the dial that is
under way for it. The dials will all end at the same time. -/
structure Gathering (plan : DialPlan) (latency : Nat) (address : Nat → String)
    (total since started : Nat) (rota : Rota CacheLoad) (dials : List Dial) : Prop where
  connecting : Connecting address total rota.state dials
  now : rota.now = started
  asleep : rota.asleep = (dials.map Dial.caller).map
    (fun caller => (started + min latency longestSleep, caller))
  nodup : rota.ready.Nodup
  ready : ∀ caller, caller ∈ rota.ready ↔ caller < total ∧ rota.state.phase caller = .idle
  joined : ∀ caller call ticket, rota.state.phase caller = .following call ticket →
    ∃ dial ∈ dials, dial.call = call ∧ address dial.caller = address caller
  undone : ∀ caller result, rota.state.phase caller ≠ .done result
  orderly : ∀ dial ∈ dials, (rota.state.flight.call dial.call).line.Orderly ∧
    (rota.state.flight.call dial.call).line.drawn + rota.ready.length ≤ total
  attempts : rota.state.attempts = since + dials.length
  numbers : dials.map Dial.attempt = List.range' (since + 1) dials.length
  stocked : Stocked plan address [] rota.state

namespace Gathering

variable {total since started caller : Nat} {rota : Rota CacheLoad} {dials : List Dial}

private theorem length_ready_le
    (gathering : Gathering plan latency address total since started rota dials) :
    rota.ready.length ≤ total := by
  have inside : rota.ready ⊆ List.range total := fun caller there =>
    List.mem_range.mpr ((gathering.ready caller).mp there).1
  simpa using (List.subperm_of_subset gathering.nodup inside).length_le

/-- What a caller that comes changes, whether it dials or joins. -/
private theorem polled {turn : Turn} {state : CacheLoad} {phase : CacheCaller}
    {flight : Flight String Nat (Except (ManagerError DialError) Nat)} {polled : Rota CacheLoad}
    (gathering : Gathering plan latency address total since started rota dials)
    (member : caller ∈ rota.ready) (poll : rota.Polled polled caller turn [] state)
    (advanced : rota.state.Advanced state caller phase flight) (stands : phase ≠ .idle) :
    (∀ one, one ∈ polled.ready ↔ one < total ∧ polled.state.phase one = .idle) ∧
      polled.ready.length < rota.ready.length := by
  have inside := ((gathering.ready caller).mp member).1
  have self := advanced.phase_self (gathering.connecting.size.symm ▸ inside)
  have mem_ready : ∀ one, one ∈ polled.ready ↔ one ∈ rota.ready ∧ one ≠ caller := by
    simpa using poll.mem_ready
  constructor
  · intro one
    rw [mem_ready, gathering.ready, poll.state]
    by_cases own : one = caller
    · subst own
      simp [self, stands]
    · rw [advanced.phase_of_ne own]
      simp [own]
  · exact poll.length_ready_le gathering.nodup member

private theorem join {dial : Dial}
    (gathering : Gathering plan latency address total since started rota dials)
    (few : total < 2 ^ 64) (ready : caller ∈ rota.ready) (member : dial ∈ dials)
    (same : address dial.caller = address caller) :
    Gathering plan latency address total since started
        (rota.poll (behavior latency plan address) caller) dials ∧
      (rota.poll (behavior latency plan address) caller).ready.length < rota.ready.length := by
  obtain ⟨inside, idle⟩ := (gathering.ready caller).mp ready
  obtain ⟨orderly, drawn⟩ := gathering.orderly dial member
  have connecting := gathering.connecting
  have room : (rota.state.flight.call dial.call).line.drawn < 2 ^ 64 := by omega
  have registered : rota.state.flight.registry.find? (address caller) = some dial.call := by
    rw [← same]
    exact connecting.led.find?_iff.mpr (Connecting.mem_led member)
  obtain ⟨ticket, log, behaves⟩ := @request_of_running rota.state latency caller dial.call plan
    (address caller) registered (connecting.unsettled member)
  rw [← behavior_of_idle idle] at behaves
  have poll := Rota.polled_poll gathering.nodup behaves
  have advanced : rota.state.Advanced
      (rota.state.onward caller (.following dial.call ticket)
        (rota.state.flight.parkAt dial.call none caller) log)
      caller (.following dial.call ticket) (rota.state.flight.parkAt dial.call none caller) :=
    ⟨rfl, rfl⟩
  have in_size : caller < rota.state.callers.size := connecting.size.symm ▸ inside
  obtain ⟨mem_ready, fewer⟩ := gathering.polled ready poll advanced (by simp)
  refine ⟨?_, fewer⟩
  constructor
  case connecting =>
    rw [poll.state]
    exact connecting.join idle inside member orderly room advanced
  case now => rw [poll.now, gathering.now]
  case asleep => rw [poll.asleep, gathering.asleep, List.append_nil]
  case nodup => exact poll.nodup
  case ready => exact mem_ready
  case joined =>
    rw [poll.state]
    refine advanced.all (fun one phase => ∀ call ticket, phase = .following call ticket →
      ∃ dial ∈ dials, dial.call = call ∧ address dial.caller = address one) in_size
      gathering.joined fun call ticket' following => ?_
    cases following
    exact ⟨dial, member, rfl, same⟩
  case undone =>
    rw [poll.state]
    exact advanced.all (fun _ phase => ∀ result, phase ≠ .done result) in_size gathering.undone
      (by simp)
  case orderly =>
    intro other member'
    rw [poll.state, advanced.flight, Flight.line_parkAt]
    split
    · refine ⟨orderly.park_none room caller, ?_⟩
      rw [WaitLine.drawn_park_none]
      omega
    · obtain ⟨orderly', drawn'⟩ := gathering.orderly other member'
      exact ⟨orderly', by omega⟩
  case attempts =>
    rw [poll.state]
    exact gathering.attempts
  case numbers => exact gathering.numbers
  case stocked =>
    rw [poll.state]
    exact gathering.stocked.onward ..

private theorem lead (gathering : Gathering plan latency address total since started rota dials)
    (takes_time : 0 < latency) (ready : caller ∈ rota.ready)
    (free : rota.state.flight.registry.find? (address caller) = none) :
    Gathering plan latency address total since started
        (rota.poll (behavior latency plan address) caller)
        (dials ++ [⟨caller, rota.state.flight.calls.size, since + dials.length + 1⟩]) ∧
      (rota.poll (behavior latency plan address) caller).ready.length < rota.ready.length := by
  obtain ⟨inside, idle⟩ := (gathering.ready caller).mp ready
  have connecting := gathering.connecting
  have missing : rota.state.held (address caller) = .ok none := gathering.stocked.held_eq _
  obtain ⟨log, behaves⟩ := @request_of_missing rota.state latency caller plan (address caller) free
    missing takes_time
  rw [← behavior_of_idle idle, gathering.attempts] at behaves
  have poll := Rota.polled_poll gathering.nodup behaves
  have advanced : rota.state.Advanced
      { rota.state.onward caller (.dialing rota.state.flight.calls.size (since + dials.length + 1))
          (rota.state.flight.lead (address caller)) log with
        attempts := since + dials.length + 1 }
      caller (.dialing rota.state.flight.calls.size (since + dials.length + 1))
      (rota.state.flight.lead (address caller)) := ⟨rfl, rfl⟩
  have in_size : caller < rota.state.callers.size := connecting.size.symm ▸ inside
  obtain ⟨mem_ready, fewer⟩ := gathering.polled ready poll advanced (by simp)
  refine ⟨?_, fewer⟩
  constructor
  case connecting =>
    rw [poll.state]
    refine connecting.lead idle inside free (fun one call ticket following => ?_) advanced
    obtain ⟨dial, member, rfl, _⟩ := gathering.joined one call ticket following
    exact connecting.lt_size member
  case now => rw [poll.now, gathering.now]
  case asleep =>
    rw [poll.asleep, gathering.asleep, gathering.now]
    simp
  case nodup => exact poll.nodup
  case ready => exact mem_ready
  case joined =>
    rw [poll.state]
    refine advanced.all (fun one phase => ∀ call ticket, phase = .following call ticket →
      ∃ dial ∈ dials ++ [_], dial.call = call ∧ address dial.caller = address one) in_size
      (fun one call ticket following => ?_) (by simp)
    obtain ⟨dial, member, joins⟩ := gathering.joined one call ticket following
    exact ⟨dial, List.mem_append_left _ member, joins⟩
  case undone =>
    rw [poll.state]
    exact advanced.all (fun _ phase => ∀ result, phase ≠ .done result) in_size gathering.undone
      (by simp)
  case orderly =>
    intro dial member
    rw [poll.state, advanced.flight, Flight.call_lead]
    rcases List.mem_append.mp member with before | new
    · obtain ⟨orderly, drawn⟩ := gathering.orderly dial before
      exact ⟨orderly, by omega⟩
    · rw [List.mem_singleton.mp new, Flight.call_of_size_le (Nat.le_refl _)]
      have most := gathering.length_ready_le
      refine ⟨WaitLine.orderly_empty, ?_⟩
      change 0 + _ ≤ total
      omega
  case attempts =>
    rw [poll.state, List.length_append]
    rfl
  case numbers =>
    rw [List.map_append, gathering.numbers, List.length_append]
    simp [List.range'_concat]
    omega
  case stocked =>
    rw [poll.state]
    exact ⟨gathering.stocked.table, gathering.stocked.connections, gathering.stocked.connected⟩

/-- The first caller of an address dials it, every other one joins. -/
theorem poll (gathering : Gathering plan latency address total since started rota dials)
    (few : total < 2 ^ 64) (takes_time : 0 < latency) (ready : caller ∈ rota.ready) :
    ∃ dials, Gathering plan latency address total since started
        (rota.poll (behavior latency plan address) caller) dials ∧
      (rota.poll (behavior latency plan address) caller).ready.length < rota.ready.length := by
  cases registered : rota.state.flight.registry.find? (address caller) with
  | none => exact ⟨_, gathering.lead takes_time ready registered⟩
  | some call =>
      have led := gathering.connecting.led.find?_iff.mp registered
      obtain ⟨dial, member, same⟩ := List.mem_map.mp led
      exact ⟨dials, gathering.join few ready member (congrArg Prod.fst same)⟩

/-- Once nobody comes any more, all addresses are being dialed. -/
theorem exists_dial (gathering : Gathering plan latency address total since started rota dials)
    (gathered : rota.ready = []) (inside : caller < total) :
    ∃ dial ∈ dials, address dial.caller = address caller := by
  cases stands : rota.state.phase caller with
  | idle =>
      have ready := (gathering.ready caller).mpr ⟨inside, stands⟩
      rw [gathered] at ready
      cases ready
  | dialing call attempt =>
      exact ⟨_, (gathering.connecting.dialing caller call attempt).mp stands, rfl⟩
  | following call ticket =>
      obtain ⟨dial, member, _, same⟩ := gathering.joined caller call ticket stands
      exact ⟨dial, member, same⟩
  | done result => exact absurd stands (gathering.undone caller result)

end Gathering

end Cohort.CacheLoad
