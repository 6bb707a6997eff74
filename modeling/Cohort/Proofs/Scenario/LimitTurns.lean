import Cohort.Proofs.Limit.WakeUps
import Cohort.Proofs.Scenario.Lineup
import Cohort.Scenario.LimitLoad

/-!
# Turns of the limit scenario

What one poll of a caller comes to: it takes a token and works, it parks because there is none, or
it has worked and puts its token back, which wakes whoever stands in front of the line. The
counters of the load follow.
-/

set_option autoImplicit false

namespace Cohort

namespace Limit

variable {ω : Type} {limit : Limit ω} {rest : List UInt64} {held : Option UInt64}

private theorem Vigilant.borrow (vigilant : limit.Vigilant (held.toList ++ rest) limit.line.drawn) :
    Vigilant { limit with available := limit.available - 1, line := limit.lineTaken held } rest
      (limit.lineTaken held).drawn := by
  cases held with
  | none => exact vigilant.take
  | some ticket => exact vigilant.serve

/-- Whoever finds no token parks, a newcomer under a new ticket. -/
private theorem Vigilant.park (vigilant : limit.Vigilant (held.toList ++ rest) limit.line.drawn)
    (spent : limit.available = 0) (few : held = none → limit.line.drawn + 1 < 2 ^ 64) (waker : ω) :
    Vigilant { limit with line := (limit.line.park held waker).2 }
      ((limit.line.park held waker).1 :: rest) (limit.line.park held waker).2.drawn := by
  refine ⟨?_, fun _ => spent ▸ Nat.zero_le _⟩
  cases held with
  | none =>
      rw [WaitLine.drawn_park_none]
      exact vigilant.serves.park_none (few rfl) waker
  | some ticket =>
      rw [WaitLine.drawn_park_some, WaitLine.fst_park_some]
      exact vigilant.serves.park_some List.mem_cons_self waker

/-- Whoever does not stand in the line parks at its end. -/
private theorem Vigilant.waiters_park {waiting : List UInt64} {drawn : Nat}
    (vigilant : limit.Vigilant waiting drawn)
    (absent : ∀ ticket, held = some ticket → limit.line.holds ticket = false) (waker : ω) :
    (limit.line.park held waker).2.waiters =
      limit.line.waiters ++ [⟨(limit.line.park held waker).1, waker⟩] := by
  cases held with
  | none => rw [WaitLine.park_none vigilant.serves.holds_next]
  | some ticket => rw [WaitLine.park_of_not_holds (absent ticket rfl)]

private theorem waiters_lineTaken
    (absent : ∀ ticket, held = some ticket → limit.line.holds ticket = false) :
    (limit.lineTaken held).waiters = limit.line.waiters := by
  cases held with
  | none => rfl
  | some ticket =>
      refine List.filter_eq_self.mpr fun waiter member => decide_eq_true fun same => ?_
      refine WaitLine.holds_eq_false_iff.mp (absent ticket rfl) ?_
      rw [← same]
      exact List.mem_map_of_mem member

end Limit

namespace LimitCaller

def ticket? : LimitCaller → Option UInt64
  | .waiting ticket => some ticket
  | .idle | .holding | .done _ => none

/-- How many tokens it holds. -/
def tokens : LimitCaller → Nat
  | .holding => 1
  | .idle | .waiting _ | .done _ => 0

private theorem tokens_le (phase : LimitCaller) : phase.tokens ≤ 1 := by
  cases phase <;> simp [tokens]

/-- Counts those who have not been polled yet. -/
def newcomers : LimitCaller → Nat
  | .idle => 1
  | .waiting _ | .holding | .done _ => 0

/-- It asks for a token next, with the ticket that it has, if any. -/
inductive Asks : LimitCaller → Option UInt64 → Prop where
  | first : Asks .idle none
  | again (ticket : UInt64) : Asks (.waiting ticket) (some ticket)

namespace Asks

variable {phase : LimitCaller} {held : Option UInt64}

private theorem ticket?_eq (asks : phase.Asks held) : phase.ticket? = held := by
  cases asks <;> rfl

private theorem tokens_eq (asks : phase.Asks held) : phase.tokens = 0 := by
  cases asks <;> rfl

theorem newcomers_eq (asks : phase.Asks held) :
    phase.newcomers = if held.isNone then 1 else 0 := by
  cases asks <;> rfl

end Asks

end LimitCaller

namespace LimitLoad

variable {load : LimitLoad} {work caller : Nat} {held : Option UInt64}

/-- Where a caller stands. -/
def phase (load : LimitLoad) (caller : Nat) : LimitCaller :=
  load.callers.getD caller .idle

theorem phase_setCaller (inside : caller < load.callers.size) (phase : LimitCaller) :
    (load.setCaller caller phase).phase = Function.update load.phase caller phase :=
  getD_setIfInBounds_eq_update inside .idle phase

private theorem size_setCaller (load : LimitLoad) (caller : Nat) (phase : LimitCaller) :
    (load.setCaller caller phase).callers.size = load.callers.size :=
  Array.size_setIfInBounds

theorem lt_size_of_phase (stands : load.phase caller ≠ .idle) : caller < load.callers.size :=
  lt_size_of_getD_ne stands

/-- The callers in the line, the one in front first. -/
def wakers (load : LimitLoad) : List Nat :=
  load.limit.line.waiters.map Waiter.waker

private theorem ne_of_standing (load : LimitLoad) {waiter : Waiter Nat}
    (outside : caller ∉ load.wakers)
    (standing : waiter ∈ load.limit.line.waiters) : waiter.waker ≠ caller := by
  rintro rfl
  exact outside (List.mem_map_of_mem standing)

/-! ## Behaviour -/

/-- A caller has taken a token. -/
def served (load : LimitLoad) (caller : Nat) (held : Option UInt64) : LimitLoad :=
  { load with
    limit :=
      { load.limit with
        available := load.limit.available - 1
        line := load.limit.lineTaken held }
    holders := load.holders + 1
    peak := max load.peak (load.holders + 1) }.setCaller caller .holding

/-- A caller has found no token. -/
def queued (load : LimitLoad) (caller : Nat) (held : Option UInt64) : LimitLoad :=
  { load with
    limit := { load.limit with line := (load.limit.line.park held caller).2 } }.setCaller caller
      (.waiting (load.limit.line.park held caller).1)

/-- A caller has put its token back. -/
def relieved (load : LimitLoad) (caller : Nat) : LimitLoad :=
  { load with
    limit := { load.limit with available := load.limit.available + 1 }.wakeNext.2
    holders := load.holders - 1 }.setCaller caller (.done (.ok ()))

private theorem mem_waiters_of_relieved (load : LimitLoad) {waiter : Waiter Nat}
    (member : waiter ∈ (load.relieved caller).limit.line.waiters) :
    waiter ∈ load.limit.line.waiters := by
  cases waiters : load.limit.line.waiters with
  | nil => simp [relieved, setCaller, Limit.wakeNext, WaitLine.shift, waiters] at member
  | cons front behind =>
      simp only [relieved, setCaller, Limit.wakeNext, WaitLine.shift, waiters] at member
      exact List.mem_cons_of_mem _ member

private theorem behavior_of_asks (asks : (load.phase caller).Asks held) :
    behavior work caller load = load.borrow work caller held := by
  have stands : load.callers.getD caller .idle = load.phase caller := rfl
  generalize load.phase caller = phase at asks stands
  cases asks <;> simp only [behavior, stands]

theorem behavior_of_stocked (asks : (load.phase caller).Asks held) (takes_time : 0 < work)
    (stocked : 0 < load.limit.available) :
    behavior work caller load = (.asleep work, [], load.served caller held) := by
  rw [behavior_of_asks asks, borrow, Limit.poll_of_pos stocked]
  exact if_neg (Nat.pos_iff_ne_zero.mp takes_time)

theorem behavior_of_spent (asks : (load.phase caller).Asks held)
    (spent : load.limit.available = 0) :
    behavior work caller load = (.parked, [], load.queued caller held) := by
  rw [behavior_of_asks asks, borrow, Limit.poll_of_eq_zero spent]
  rfl

theorem behavior_of_holding (holding : load.phase caller = .holding)
    (lent : load.limit.available < load.limit.capacity) :
    behavior work caller load = (.done, load.wakers.head?.toList, load.relieved caller) := by
  rw [phase] at holding
  simp only [behavior, holding, complete, Limit.putBack_of_lt lent]
  cases waiters : load.limit.line.waiters <;>
    simp [Limit.wakeNext, WaitLine.shift, wakers, relieved, waiters]

/-! ## Counters -/

/-- The limit and the counters are as the callers stand. Until all have come, `most` tickets are
enough for those drawn so far and those that may still be drawn. -/
structure Books (capacity total most : Nat) (load : LimitLoad) : Prop where
  size : load.callers.size = total
  few : most < 2 ^ 64
  bound : load.limit.capacity = capacity
  tokens : load.limit.available + load.holders = capacity
  holders : load.holders = weightOf total LimitCaller.tokens load.phase
  vigilant : load.limit.Vigilant (picked total (fun _ => LimitCaller.ticket?) load.phase)
    load.limit.line.drawn
  drawn : load.limit.line.drawn + weightOf total LimitCaller.newcomers load.phase ≤ most
  /-- Whoever stands in the line is woken by its own number. -/
  line : ∀ waiter ∈ load.limit.line.waiters, load.phase waiter.waker = .waiting waiter.ticket
  returned : ∀ caller result, load.phase caller = .done result → result = .ok ()
  holders_le : load.holders ≤ load.peak
  peak_le : load.peak ≤ min total capacity

namespace Books

variable {capacity total most : Nat}

private theorem returned_update (books : Books capacity total most load) {phase : LimitCaller}
    (well : ∀ result, phase = .done result → result = .ok ()) :
    ∀ one result, Function.update load.phase caller phase one = .done result → result = .ok () := by
  intro one result done
  rw [Function.update_apply] at done
  split at done
  · exact well result done
  · exact books.returned one result done

/-- A caller that waits and does not stand in the line has left its ticket nowhere in it. -/
private theorem absent (books : Books capacity total most load)
    (asks : (load.phase caller).Asks held) (outside : caller ∉ load.wakers) :
    ∀ ticket, held = some ticket → load.limit.line.holds ticket = false := by
  rintro ticket rfl
  have waits : load.phase caller = .waiting ticket := by
    generalize load.phase caller = phase at asks
    cases asks
    rfl
  refine WaitLine.holds_eq_false_iff.mpr fun standing => outside ?_
  obtain ⟨waiter, member, rfl⟩ := List.mem_map.mp standing
  have stands := books.line waiter member
  have inside : caller < total := books.size ▸ lt_size_of_phase (by simp [waits])
  have inside' : waiter.waker < total := books.size ▸ lt_size_of_phase (by simp [stands])
  have own : (load.phase caller).ticket? = some waiter.ticket := by rw [waits]; rfl
  have own' : (load.phase waiter.waker).ticket? = some waiter.ticket := by rw [stands]; rfl
  -- No ticket belongs to two callers.
  have same : caller = waiter.waker :=
    eq_of_picked books.vigilant.serves.distinct inside inside' own own'
  rw [same]
  exact List.mem_map_of_mem member

theorem wakers_served (books : Books capacity total most load)
    (asks : (load.phase caller).Asks held) (outside : caller ∉ load.wakers) :
    (load.served caller held).wakers = load.wakers :=
  congrArg (List.map Waiter.waker) (Limit.waiters_lineTaken (books.absent asks outside))

theorem wakers_queued (books : Books capacity total most load)
    (asks : (load.phase caller).Asks held) (outside : caller ∉ load.wakers) :
    (load.queued caller held).wakers = load.wakers ++ [caller] := by
  have joined := books.vigilant.waiters_park (books.absent asks outside) caller
  exact (congrArg (List.map Waiter.waker) joined).trans (by simp [wakers])

theorem wakers_relieved (load : LimitLoad) (caller : Nat) :
    (load.relieved caller).wakers = load.wakers.tail := by
  cases waiters : load.limit.line.waiters <;>
    simp [relieved, setCaller, wakers, Limit.wakeNext, WaitLine.shift, waiters]

theorem served (books : Books capacity total most load) (inside : caller < total)
    (asks : (load.phase caller).Asks held) (outside : caller ∉ load.wakers)
    (stocked : 0 < load.limit.available) :
    Books capacity total most (load.served caller held) := by
  have phases : (load.served caller held).phase = Function.update load.phase caller .holding :=
    phase_setCaller (books.size.symm ▸ inside) .holding
  have holding := weightOf_update inside LimitCaller.tokens load.phase .holding
  have coming := weightOf_update inside LimitCaller.newcomers load.phase .holding
  have most_hold := weightOf_le LimitCaller.tokens_le total
    (Function.update load.phase caller .holding)
  obtain ⟨rest, split, replaced⟩ := picked_update inside (fun _ => LimitCaller.ticket?) load.phase
  rw [asks.ticket?_eq] at split
  rw [asks.tokens_eq] at holding
  have tokens := books.tokens
  have holders := books.holders
  have drawn := books.drawn
  constructor
  case size => exact (load.size_setCaller ..).trans books.size
  case few => exact books.few
  case bound => exact books.bound
  case tokens =>
    change load.limit.available - 1 + (load.holders + 1) = capacity
    omega
  case holders =>
    rw [phases]
    change load.holders + 1 = _
    have one : LimitCaller.tokens .holding = 1 := rfl
    omega
  case vigilant =>
    rw [phases]
    exact (books.vigilant.perm split).borrow.perm (replaced .holding).symm
  case drawn =>
    have same : (load.limit.lineTaken held).drawn = load.limit.line.drawn := by cases held <;> rfl
    rw [phases]
    change (load.limit.lineTaken held).drawn + _ ≤ most
    have none : LimitCaller.newcomers .holding = 0 := rfl
    omega
  case line =>
    intro waiter member
    have standing : waiter ∈ load.limit.line.waiters :=
      Limit.waiters_lineTaken (books.absent asks outside) ▸ member
    rw [phases, Function.update_of_ne (load.ne_of_standing outside standing)]
    exact books.line waiter standing
  case returned =>
    rw [phases]
    exact books.returned_update (by simp)
  case holders_le => exact Nat.le_max_right _ _
  case peak_le =>
    have peak_le := books.peak_le
    change max load.peak (load.holders + 1) ≤ _
    have one : LimitCaller.tokens .holding = 1 := rfl
    omega

theorem queued (books : Books capacity total most load) (inside : caller < total)
    (asks : (load.phase caller).Asks held) (outside : caller ∉ load.wakers)
    (spent : load.limit.available = 0) :
    Books capacity total most (load.queued caller held) := by
  have phases : (load.queued caller held).phase =
      Function.update load.phase caller (.waiting (load.limit.line.park held caller).1) :=
    phase_setCaller (books.size.symm ▸ inside) _
  have holding := weightOf_update inside LimitCaller.tokens load.phase
    (.waiting (load.limit.line.park held caller).1)
  have coming := weightOf_update inside LimitCaller.newcomers load.phase
    (.waiting (load.limit.line.park held caller).1)
  obtain ⟨rest, split, replaced⟩ := picked_update inside (fun _ => LimitCaller.ticket?) load.phase
  rw [asks.ticket?_eq] at split
  rw [asks.tokens_eq] at holding
  have tokens := books.tokens
  have holders := books.holders
  have drawn := books.drawn
  have few := books.few
  rw [asks.newcomers_eq] at coming
  simp only [LimitCaller.tokens, LimitCaller.newcomers] at holding coming
  constructor
  case size => exact (load.size_setCaller ..).trans books.size
  case few => exact few
  case bound => exact books.bound
  case tokens => exact tokens
  case holders =>
    rw [phases]
    change load.holders = _
    omega
  case vigilant =>
    rw [phases]
    refine ((books.vigilant.perm split).park spent (fun newcomer => ?_) caller).perm
      (replaced (.waiting (load.limit.line.park held caller).1)).symm
    rw [newcomer] at coming
    simp only [Option.isNone_none, if_true] at coming
    omega
  case drawn =>
    rw [phases]
    change (load.limit.line.park held caller).2.drawn + _ ≤ most
    cases held with
    | none =>
        rw [WaitLine.drawn_park_none]
        simp only [Option.isNone_none, if_true] at coming
        omega
    | some ticket =>
        rw [WaitLine.drawn_park_some]
        omega
  case line =>
    intro waiter member
    have joined := books.vigilant.waiters_park (books.absent asks outside) caller
    rw [phases]
    rcases List.mem_append.mp (joined ▸ member) with standing | last
    · rw [Function.update_of_ne (load.ne_of_standing outside standing)]
      exact books.line waiter standing
    · rw [List.mem_singleton.mp last, Function.update_self]
  case returned =>
    rw [phases]
    exact books.returned_update (by simp)
  case holders_le => exact books.holders_le
  case peak_le => exact books.peak_le

theorem relieved (books : Books capacity total most load) (inside : caller < total)
    (holding : load.phase caller = .holding) : Books capacity total most (load.relieved caller) := by
  have phases : (load.relieved caller).phase =
      Function.update load.phase caller (.done (.ok ())) :=
    phase_setCaller (books.size.symm ▸ inside) _
  have held := weightOf_update inside LimitCaller.tokens load.phase (.done (.ok ()))
  have coming := weightOf_update inside LimitCaller.newcomers load.phase (.done (.ok ()))
  obtain ⟨rest, split, replaced⟩ := picked_update inside (fun _ => LimitCaller.ticket?) load.phase
  rw [holding] at held split coming
  simp only [LimitCaller.tokens, LimitCaller.newcomers] at held coming
  have tokens := books.tokens
  have holders := books.holders
  have drawn := books.drawn
  have waiting := split.trans (replaced (.done (.ok ()))).symm
  constructor
  case size => exact (load.size_setCaller ..).trans books.size
  case few => exact books.few
  case bound => exact books.bound
  case tokens =>
    change load.limit.available + 1 + (load.holders - 1) = capacity
    omega
  case holders =>
    rw [phases]
    change load.holders - 1 = _
    omega
  case vigilant =>
    rw [phases]
    change Limit.Vigilant _ _ (Limit.wakeNext _).2.line.drawn
    rw [Limit.drawn_wakeNext]
    exact (books.vigilant.perm waiting).giveBack
  case drawn =>
    rw [phases]
    change (Limit.wakeNext _).2.line.drawn + _ ≤ most
    rw [Limit.drawn_wakeNext]
    change load.limit.line.drawn + _ ≤ most
    omega
  case line =>
    intro waiter member
    have standing : waiter ∈ load.limit.line.waiters := load.mem_waiters_of_relieved member
    have waits := books.line waiter standing
    have different : waiter.waker ≠ caller := by
      intro same
      rw [same, holding] at waits
      cases waits
    rw [phases, Function.update_of_ne different]
    exact waits
  case returned =>
    rw [phases]
    exact books.returned_update (by simp)
  case holders_le => exact Nat.le_trans (Nat.sub_le _ _) books.holders_le
  case peak_le => exact books.peak_le

end Books

end LimitLoad

end Cohort
