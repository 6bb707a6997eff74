import Mathlib.Data.List.Nodup
import Cohort.Proofs.Flight.Followers
import Cohort.Proofs.Rota
import Cohort.Proofs.Scenario.CacheTurns

/-!
# Dials of the cache scenario

What a load holds after some dials, and how the flight of its connections stands: each dial leads
a call of its own, and whoever has joined it stands in the line of that call.
-/

set_option autoImplicit false

namespace Cohort

/-- A dial: who has made it, as which call, and its number among all dials. -/
structure Dial where
  caller : Nat
  call : Nat
  attempt : Nat
deriving DecidableEq

namespace CacheLoad

/-! ## What a load holds -/

/-- The positions of the connections that dials have made, in this order. -/
def shelf (address : Nat → String) (made : List Dial) : Table String Nat :=
  ⟨made.zipIdx.map (fun entry => (address entry.1.caller, entry.2))⟩

variable {address : Nat → String} {made : List Dial} {dial : Dial} {load next : CacheLoad}

theorem keys_shelf (address : Nat → String) (made : List Dial) :
    (shelf address made).keys = made.map (fun dial => address dial.caller) := by
  rw [Table.keys, shelf, List.map_map]
  calc made.zipIdx.map (Prod.fst ∘ fun entry => (address entry.1.caller, entry.2))
      = (made.zipIdx.map Prod.fst).map (fun dial => address dial.caller) := by
        rw [List.map_map]
        rfl
    _ = made.map (fun dial => address dial.caller) := by rw [List.zipIdx_map_fst]

theorem values_shelf (address : Nat → String) (made : List Dial) :
    (shelf address made).values = List.range made.length := by
  rw [Table.values, shelf, List.map_map]
  calc made.zipIdx.map (Prod.snd ∘ fun entry => (address entry.1.caller, entry.2))
      = made.zipIdx.map Prod.snd := rfl
    _ = List.range made.length := by rw [List.zipIdx_map_snd, List.range_eq_range']

private theorem shelf_append_singleton
    (absent : address dial.caller ∉ made.map (fun dial => address dial.caller)) :
    (shelf address made).insert (address dial.caller) made.length =
      shelf address (made ++ [dial]) := by
  have missing : (shelf address made).find? (address dial.caller) = none := by
    rw [Table.find?_eq_none_iff, keys_shelf]
    exact absent
  have entries := Table.entries_insert_of_find?_eq_none missing made.length
  calc (shelf address made).insert (address dial.caller) made.length
      = ⟨(shelf address made).entries ++ [(address dial.caller, made.length)]⟩ := by
        rw [← entries]
    _ = shelf address (made ++ [dial]) := by simp [shelf, List.zipIdx_append]

/-- The load holds what the dials have made, in this order, and nothing else. -/
structure Stocked (plan : DialPlan) (address : Nat → String) (made : List Dial)
    (load : CacheLoad) : Prop where
  table : load.board.manager.table = some (shelf address made)
  connections : load.board.connections.toList =
    made.map (fun dial => connectionOf plan (address dial.caller) dial.attempt)
  connected : load.connected = made.length

variable {plan : DialPlan} {latency : Nat}

theorem Stocked.held_eq (stocked : Stocked plan address made load) (name : String) :
    load.held name = .ok ((shelf address made).find? name) := by
  rw [held, Manager.lookup, stocked.table]

private theorem Stocked.held_iff (stocked : Stocked plan address made load)
    (apart : (made.map (fun dial => address dial.caller)).Nodup) {name : String} {position : Nat} :
    load.held name = .ok (some position) ↔ (name, position) ∈ (shelf address made).entries := by
  rw [← keys_shelf] at apart
  rw [stocked.held_eq, ← Table.find?_eq_some_iff apart]
  constructor
  · intro same
    injection same
  · exact congrArg _

theorem Stocked.size_connections (stocked : Stocked plan address made load) :
    load.board.connections.size = made.length := by
  rw [← Array.length_toList, stocked.connections, List.length_map]

/-- Where the callers stand does not matter for what is held. -/
theorem Stocked.onward (stocked : Stocked plan address made load) (caller : Nat)
    (phase : CacheCaller) (flight : Flight String Nat (Except (ManagerError DialError) Nat))
    (log : List Remark) : Stocked plan address made (load.onward caller phase flight log) :=
  ⟨stocked.table, stocked.connections, stocked.connected⟩

/-- What a caller has to come back with. -/
def Resolves (plan : DialPlan) (address : Nat → String) (load : CacheLoad) (caller : Nat)
    (result : Except (ManagerError DialError) Nat) : Prop :=
  if plan.refuse then result = .error (.create ⟨address caller, "connection refused"⟩)
  else ∃ position, result = .ok position ∧ load.held (address caller) = .ok (some position)

theorem Resolves.append {caller : Nat} {result : Except (ManagerError DialError) Nat}
    {more : List Dial} (resolves : Resolves plan address load caller result)
    (before : Stocked plan address made load)
    (after : Stocked plan address (made ++ more) next)
    (apart : ((made ++ more).map (fun dial => address dial.caller)).Nodup) :
    Resolves plan address next caller result := by
  unfold Resolves at resolves ⊢
  split
  · next refused =>
      rw [if_pos refused] at resolves
      exact resolves
  · next accepted =>
      rw [if_neg accepted] at resolves
      obtain ⟨position, same, there⟩ := resolves
      refine ⟨position, same, ?_⟩
      have apart' : (made.map (fun dial => address dial.caller)).Nodup := by
        rw [List.map_append] at apart
        exact (List.nodup_append.mp apart).1
      rw [before.held_iff apart'] at there
      rw [after.held_iff apart, shelf, List.zipIdx_append, List.map_append]
      exact List.mem_append_left _ there

theorem Resolves.congr {caller other : Nat} {result : Except (ManagerError DialError) Nat}
    (resolves : Resolves plan address load caller result) (same : address caller = address other) :
    Resolves plan address load other result := by
  unfold Resolves at resolves ⊢
  rwa [same] at resolves

/-! ## Where the callers stand -/

theorem phase_of_replicate {total : Nat} (callers : load.callers = Array.replicate total .idle)
    (caller : Nat) : load.phase caller = .idle := by
  rw [phase, callers, getD_replicate]

/-- One caller has come to stand elsewhere, and the flight has changed. -/
structure Advanced (load next : CacheLoad) (caller : Nat) (phase : CacheCaller)
    (flight : Flight String Nat (Except (ManagerError DialError) Nat)) : Prop where
  callers : next.callers = load.callers.setIfInBounds caller phase
  flight : next.flight = flight

namespace Advanced

variable {caller : Nat} {phase : CacheCaller}
  {flight : Flight String Nat (Except (ManagerError DialError) Nat)}

theorem size (advanced : load.Advanced next caller phase flight) :
    next.callers.size = load.callers.size := by
  rw [advanced.callers, Array.size_setIfInBounds]

theorem phase_self (advanced : load.Advanced next caller phase flight)
    (inside : caller < load.callers.size) : next.phase caller = phase := by
  rw [CacheLoad.phase, advanced.callers, getD_setIfInBounds, if_pos ⟨rfl, inside⟩]

theorem phase_of_ne (advanced : load.Advanced next caller phase flight) {one : Nat}
    (different : one ≠ caller) : next.phase one = load.phase one := by
  rw [CacheLoad.phase, advanced.callers, getD_setIfInBounds, if_neg fun both => different both.1,
    CacheLoad.phase]

/-- What is true of where every caller stood, and of where the one has come, stays true. -/
theorem all (advanced : load.Advanced next caller phase flight)
    (property : Nat → CacheCaller → Prop) (inside : caller < load.callers.size)
    (others : ∀ one, property one (load.phase one)) (own : property caller phase) (one : Nat) :
    property one (next.phase one) := by
  by_cases same : one = caller
  · rw [same, advanced.phase_self inside]
    exact own
  · rw [advanced.phase_of_ne same]
    exact others one

end Advanced

/-- How many callers have not returned yet. -/
def left (load : CacheLoad) (total : Nat) : Nat :=
  (List.range total).countP
    (fun caller => match load.phase caller with | .done _ => false | _ => true)

theorem left_le (load : CacheLoad) (total : Nat) : load.left total ≤ total := by
  calc load.left total ≤ (List.range total).length := List.countP_le_length
    _ = total := List.length_range

theorem Advanced.left_lt {total caller : Nat} {result : Except (ManagerError DialError) Nat}
    {flight : Flight String Nat (Except (ManagerError DialError) Nat)}
    (advanced : load.Advanced next caller (.done result) flight)
    (size : load.callers.size = total) (inside : caller < total)
    (undone : ∀ result, load.phase caller ≠ .done result) : next.left total < load.left total := by
  have split := List.perm_cons_erase (List.mem_range.mpr inside)
  have self := advanced.phase_self (size.symm ▸ inside)
  have others : ∀ one ∈ (List.range total).erase caller, next.phase one = load.phase one :=
    fun one member => advanced.phase_of_ne (List.nodup_range.mem_erase_iff.mp member).1
  have same : ((List.range total).erase caller).countP
        (fun caller => match next.phase caller with | .done _ => false | _ => true) =
      ((List.range total).erase caller).countP
        (fun caller => match load.phase caller with | .done _ => false | _ => true) :=
    List.countP_congr fun one member => by rw [others one member]
  rw [left, left, split.countP_eq, split.countP_eq, List.countP_cons, List.countP_cons, same, self]
  cases stands : load.phase caller with
  | done result => exact absurd stands (undone result)
  | idle | dialing _ _ | following _ _ => simp

/-- The flight of a load, as its callers stand: the dials lead, and whoever has joined one
stands in its line. -/
structure Connecting (address : Nat → String) (total : Nat) (load : CacheLoad)
    (dials : List Dial) : Prop where
  size : load.callers.size = total
  led : load.flight.Led (dials.map (fun dial => (address dial.caller, dial.call)))
  dialing : ∀ caller call attempt,
    load.phase caller = .dialing call attempt ↔ ⟨caller, call, attempt⟩ ∈ dials
  lines : ∀ dial ∈ dials, ∀ caller, caller ∈ load.flight.wakersAt dial.call ↔
    ∃ ticket, load.phase caller = .following dial.call ticket

namespace Connecting

variable {total caller : Nat} {dials : List Dial}

private theorem lt_total (connecting : Connecting address total load dials)
    (stands : load.phase caller ≠ .idle) : caller < total :=
  connecting.size ▸ lt_size_of_phase stands

theorem lt_of_dialing {call attempt : Nat} (connecting : Connecting address total load dials)
    (dialing : load.phase caller = .dialing call attempt) : caller < total :=
  connecting.lt_total (by simp [dialing])

theorem lt_of_following {call : Nat} {ticket : UInt64}
    (connecting : Connecting address total load dials)
    (following : load.phase caller = .following call ticket) : caller < total :=
  connecting.lt_total (by simp [following])

theorem mem_led (member : dial ∈ dials) :
    (address dial.caller, dial.call) ∈
      dials.map (fun dial => (address dial.caller, dial.call)) :=
  List.mem_map_of_mem member

theorem lt_size (connecting : Connecting address total load dials) (member : dial ∈ dials) :
    dial.call < load.flight.calls.size :=
  connecting.led.lt_size (mem_led member)

theorem unsettled (connecting : Connecting address total load dials) (member : dial ∈ dials) :
    (load.flight.call dial.call).verdict = none :=
  connecting.led.verdict_eq_none (mem_led member)

private theorem calls_nodup (connecting : Connecting address total load dials) :
    (dials.map Dial.call).Nodup := by
  have once := connecting.led.once
  rwa [List.map_map] at once

theorem addresses_nodup (connecting : Connecting address total load dials) :
    (dials.map (fun dial => address dial.caller)).Nodup := by
  have once := connecting.led.keys_nodup
  rwa [List.map_map] at once

private theorem eq_of_call (connecting : Connecting address total load dials) {other : Dial}
    (member : dial ∈ dials) (member' : other ∈ dials) (same : dial.call = other.call) :
    dial = other :=
  List.inj_on_of_nodup_map connecting.calls_nodup member member' same

theorem perm {others : List Dial} (connecting : Connecting address total load dials)
    (same : dials.Perm others) : Connecting address total load others where
  size := connecting.size
  led := connecting.led.perm (same.map _)
  dialing := fun caller call attempt =>
    (connecting.dialing caller call attempt).trans same.mem_iff
  lines := fun dial member => connecting.lines dial (same.mem_iff.mpr member)

theorem join {ticket : UInt64} (connecting : Connecting address total load dials)
    (idle : load.phase caller = .idle) (inside : caller < total) (member : dial ∈ dials)
    (orderly : (load.flight.call dial.call).line.Orderly)
    (few : (load.flight.call dial.call).line.drawn < 2 ^ 64)
    (advanced : load.Advanced next caller (.following dial.call ticket)
      (load.flight.parkAt dial.call none caller)) :
    Connecting address total next dials := by
  have stands := advanced.phase_self (connecting.size.symm ▸ inside)
  constructor
  case size => rw [advanced.size, connecting.size]
  case led =>
    rw [advanced.flight]
    exact connecting.led.alike (Flight.alike_parkAt ..)
  case dialing =>
    intro one call attempt
    by_cases own : one = caller
    · subst own
      have absent := connecting.dialing one call attempt
      simpa [stands, idle] using absent
    · rw [advanced.phase_of_ne own, connecting.dialing]
  case lines =>
    intro other member' one
    rw [advanced.flight]
    by_cases same : other = dial
    · subst same
      rw [Flight.wakersAt_parkAt_self (connecting.lt_size member) orderly few, List.mem_append,
        List.mem_singleton, connecting.lines other member]
      by_cases own : one = caller
      · subst own
        simp [stands]
      · simp [own, advanced.phase_of_ne own]
    · have different : other.call ≠ dial.call := fun both =>
        same (connecting.eq_of_call member' member both)
      rw [Flight.wakersAt_parkAt_of_ne different, connecting.lines other member']
      by_cases own : one = caller
      · subst own
        simp [stands, idle, Ne.symm different]
      · rw [advanced.phase_of_ne own]

theorem lead {attempt : Nat} (connecting : Connecting address total load dials)
    (idle : load.phase caller = .idle) (inside : caller < total)
    (free : load.flight.registry.find? (address caller) = none)
    (joined : ∀ one call ticket, load.phase one = .following call ticket →
      call < load.flight.calls.size)
    (advanced : load.Advanced next caller (.dialing load.flight.calls.size attempt)
      (load.flight.lead (address caller))) :
    Connecting address total next (dials ++ [⟨caller, load.flight.calls.size, attempt⟩]) := by
  have stands := advanced.phase_self (connecting.size.symm ▸ inside)
  have lines : ∀ call, (load.flight.lead (address caller)).wakersAt call =
      load.flight.wakersAt call := by
    intro call
    rw [Flight.wakersAt, Flight.call_lead, Flight.wakersAt]
  constructor
  case size => rw [advanced.size, connecting.size]
  case led =>
    rw [advanced.flight, List.map_append, List.map_singleton]
    exact (connecting.led.lead free).perm (List.perm_append_singleton _ _).symm
  case dialing =>
    intro one call attempt'
    rw [List.mem_append, List.mem_singleton]
    by_cases own : one = caller
    · subst own
      have absent := connecting.dialing one call attempt'
      simp only [idle, reduceCtorEq, false_iff] at absent
      simp [stands, absent, eq_comm]
    · rw [advanced.phase_of_ne own, connecting.dialing]
      simp [own]
  case lines =>
    intro dial member one
    have joins : (∃ ticket, next.phase one = .following dial.call ticket) ↔
        ∃ ticket, load.phase one = .following dial.call ticket := by
      by_cases own : one = caller
      · subst own
        simp [stands, idle]
      · rw [advanced.phase_of_ne own]
    rw [advanced.flight, lines, joins]
    rcases List.mem_append.mp member with before | new
    · exact connecting.lines dial before one
    · rw [List.mem_singleton.mp new, Flight.wakersAt_of_size_le (Nat.le_refl _)]
      simp only [List.not_mem_nil, false_iff, not_exists]
      intro ticket following
      exact Nat.lt_irrefl _ (joined one _ ticket following)

theorem finish {rest : List Dial} {result : Except (ManagerError DialError) Nat}
    (connecting : Connecting address total load (dial :: rest))
    (advanced : load.Advanced next dial.caller (.done result)
      (load.flight.settle (address dial.caller) dial.call (.done result)).2) :
    Connecting address total next rest := by
  have dialing := (connecting.dialing dial.caller dial.call dial.attempt).mpr List.mem_cons_self
  have inside := connecting.lt_of_dialing dialing
  have stands := advanced.phase_self (connecting.size.symm ▸ inside)
  have others : ∀ other ∈ rest, other.call ≠ dial.call := by
    intro other member same
    have once := connecting.calls_nodup
    rw [List.map_cons, List.nodup_cons] at once
    exact once.1 (same ▸ List.mem_map_of_mem member)
  constructor
  case size => rw [advanced.size, connecting.size]
  case led =>
    rw [advanced.flight]
    exact connecting.led.settle _
  case dialing =>
    intro one call attempt
    by_cases own : one = dial.caller
    · subst own
      simp only [stands, reduceCtorEq, false_iff]
      intro member
      have there := (connecting.dialing _ _ _).mpr (List.mem_cons_of_mem _ member)
      rw [dialing] at there
      cases there
      exact others _ member rfl
    · rw [advanced.phase_of_ne own, connecting.dialing, List.mem_cons]
      refine or_iff_right fun same => own ?_
      rw [← same]
  case lines =>
    intro other member one
    rw [advanced.flight, Flight.wakersAt, Flight.call_settle_of_ne (others other member),
      ← Flight.wakersAt, connecting.lines other (List.mem_cons_of_mem _ member)]
    by_cases own : one = dial.caller
    · subst own
      simp [stands, dialing]
    · rw [advanced.phase_of_ne own]

/-- Whoever shares what a dial has come to leaves the dials alone. -/
theorem share {call : Nat} {ticket : UInt64} {result : Except (ManagerError DialError) Nat}
    (connecting : Connecting address total load dials)
    (following : load.phase caller = .following call ticket)
    (settled : (load.flight.call call).verdict = some (.done result))
    (advanced : load.Advanced next caller (.done result) load.flight) :
    Connecting address total next dials := by
  have inside := connecting.lt_of_following following
  have stands := advanced.phase_self (connecting.size.symm ▸ inside)
  constructor
  case size => rw [advanced.size, connecting.size]
  case led =>
    rw [advanced.flight]
    exact connecting.led
  case dialing =>
    intro one call' attempt
    by_cases own : one = caller
    · subst own
      have absent := connecting.dialing one call' attempt
      simpa [stands, following] using absent
    · rw [advanced.phase_of_ne own, connecting.dialing]
  case lines =>
    intro dial member one
    rw [advanced.flight, connecting.lines dial member]
    by_cases own : one = caller
    · subst own
      have different : call ≠ dial.call := by
        rintro rfl
        rw [connecting.unsettled member] at settled
        cases settled
      simp [stands, following, different]
    · rw [advanced.phase_of_ne own]

end Connecting

/-! ## The end of a dial -/

/-- Of the dials that have ended, those that have made a connection. -/
def kept (plan : DialPlan) (landed : List Dial) : List Dial :=
  if plan.refuse then [] else landed

theorem kept_append (plan : DialPlan) (landed more : List Dial) :
    kept plan (landed ++ more) = kept plan landed ++ kept plan more := by
  unfold kept
  split <;> rfl

theorem kept_sublist (plan : DialPlan) (landed : List Dial) : (kept plan landed).Sublist landed := by
  unfold kept
  split
  · exact List.nil_sublist _
  · exact List.Sublist.refl _

/-- What the end of a dial comes to, be it refused or not. -/
theorem Stocked.complete {landed : List Dial} {caller : Nat} (call attempt : Nat)
    (stocked : Stocked plan address (kept plan landed) load)
    (absent : address caller ∉ landed.map (fun dial => address dial.caller)) :
    ∃ result next, load.complete plan (address caller) caller call attempt =
        (.done, load.flight.wakersAt call, next) ∧
      load.Advanced next caller (.done result)
        (load.flight.settle (address caller) call (.done result)).2 ∧
      Stocked plan address (kept plan (landed ++ [⟨caller, call, attempt⟩])) next ∧
      Resolves plan address next caller result ∧ next.attempts = load.attempts := by
  cases refused : plan.refuse with
  | true =>
      obtain ⟨log, completes⟩ := @complete_of_refused load caller call attempt plan (address caller)
        refused
      refine ⟨_, _, completes, ⟨rfl, rfl⟩, ?_, ?_, rfl⟩
      · rw [kept, if_pos refused] at stocked ⊢
        exact ⟨stocked.table, stocked.connections, stocked.connected⟩
      · rw [Resolves, if_pos refused]
  | false =>
      have accepted : ¬ plan.refuse = true := by simp [refused]
      rw [kept, if_neg accepted] at stocked
      obtain ⟨log, completes⟩ := @complete_of_dialed load caller call attempt plan (address caller)
        _ refused stocked.table
      have grown := @shelf_append_singleton address landed ⟨caller, call, attempt⟩ absent
      refine ⟨_, _, completes, ⟨rfl, rfl⟩, ?_, ?_, rfl⟩
      · rw [kept, if_neg accepted]
        constructor
        case table => exact congrArg some (stocked.size_connections ▸ grown)
        case connections =>
          simp [stocked.connections]
        case connected =>
          rw [List.length_append, ← stocked.connected]
          rfl
      · rw [Resolves, if_neg accepted]
        refine ⟨_, rfl, ?_⟩
        change Except.ok (Table.find? _ _) = _
        rw [Table.find?_insert_self]

end CacheLoad

end Cohort
