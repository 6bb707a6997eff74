import Cohort.Proofs.Flight.Turns
import Cohort.Proofs.Flight.Wakers

/-!
# Who stands in the line of a call

Those who stand in the line of a call that runs are its followers, in the order in which
they have joined it, each with the waker of its latest poll. This rests on tickets that
were not handed out twice, so it holds while fewer than 2^64 callers have joined the call.
-/

set_option autoImplicit false

namespace Cohort

namespace WaitLine

variable {ω : Type} {line : WaitLine ω} {ticket : UInt64}

/-- Tickets stand in the order in which they were drawn. -/
structure Orderly (line : WaitLine ω) : Prop where
  ascending : line.tickets.Pairwise (fun one other => one.toNat < other.toNat)
  toNat_lt : ∀ ticket ∈ line.tickets, ticket.toNat < line.drawn

theorem orderly_empty : (empty : WaitLine ω).Orderly where
  ascending := List.Pairwise.nil
  toNat_lt := fun _ member => absurd member List.not_mem_nil

theorem Orderly.nodup (orderly : line.Orderly) : line.tickets.Nodup := by
  refine orderly.ascending.imp fun before same => ?_
  rw [same] at before
  exact Nat.lt_irrefl _ before

theorem Orderly.holds_next (orderly : line.Orderly) (few : line.drawn < 2 ^ 64) :
    line.holds line.next = false := by
  refine holds_eq_false_iff.mpr fun member => ?_
  have before := orderly.toNat_lt _ member
  rw [WaitLine.toNat_next few] at before
  exact Nat.lt_irrefl _ before

theorem Orderly.park_none (orderly : line.Orderly) (few : line.drawn < 2 ^ 64) (waker : ω) :
    (line.park none waker).2.Orderly := by
  have tickets_eq := tickets_park_none (orderly.holds_next few) waker
  rw [WaitLine.park_none (orderly.holds_next few)] at tickets_eq ⊢
  constructor
  · rw [tickets_eq, List.pairwise_append]
    refine ⟨orderly.ascending, List.pairwise_singleton _ _, ?_⟩
    intro ticket member last found
    rw [List.mem_singleton.mp found, WaitLine.toNat_next few]
    exact orderly.toNat_lt ticket member
  · rw [tickets_eq]
    intro ticket member
    rcases List.mem_append.mp member with member | found
    · exact Nat.lt_succ_of_lt (orderly.toNat_lt ticket member)
    · rw [List.mem_singleton.mp found, WaitLine.toNat_next few]
      exact Nat.lt_succ_self _

theorem Orderly.park_some (orderly : line.Orderly) (standing : line.holds ticket = true)
    (waker : ω) : (line.park (some ticket) waker).2.Orderly := by
  have same := tickets_park_of_holds standing waker
  constructor
  · rw [same]
    exact orderly.ascending
  · rw [same, drawn_park_some]
    exact orderly.toNat_lt

theorem Orderly.leave (orderly : line.Orderly) (ticket : UInt64) : (line.leave ticket).Orderly := by
  constructor
  · rw [tickets_leave]
    exact orderly.ascending.filter _
  · intro other member
    rw [tickets_leave] at member
    exact orderly.toNat_lt other (List.mem_of_mem_filter member)

/-- Renewing a waker renews it wherever the ticket stands, which is in one place. -/
private theorem rewake_eq_map (waker : ω) {waiters : List (Waiter ω)}
    (distinct : (waiters.map Waiter.ticket).Nodup) :
    rewake ticket waker waiters =
      waiters.map fun waiter =>
        if waiter.ticket = ticket then { waiter with waker } else waiter := by
  induction waiters with
  | nil => rfl
  | cons front behind ih =>
      obtain ⟨apart, distinct⟩ := List.nodup_cons.mp distinct
      simp only [rewake, List.map_cons]
      split
      · next same =>
          congr 1
          refine (List.map_id behind).symm.trans (List.map_congr_left fun waiter member => ?_)
          have different : waiter.ticket ≠ ticket := fun equal =>
            apart (same ▸ equal ▸ List.mem_map_of_mem member)
          rw [if_neg different]
          rfl
      · rw [ih distinct]

theorem Orderly.waiters_park_some (orderly : line.Orderly) (standing : line.holds ticket = true)
    (waker : ω) :
    (line.park (some ticket) waker).2.waiters =
      line.waiters.map
        (fun waiter => if waiter.ticket = ticket then { waiter with waker } else waiter) := by
  simp only [park, draw, standing, if_true]
  exact rewake_eq_map waker orderly.nodup

end WaitLine

namespace Flight

variable {κ ω ρ : Type} {number call : Nat} {key : κ} {ticket : UInt64}

section Wakers

variable {flight : Flight κ ω ρ}

theorem wakersAt_of_size_le (outside : flight.calls.size ≤ call) : flight.wakersAt call = [] := by
  rw [wakersAt, call_of_size_le outside, List.map_nil]

theorem wakersAt_parkAt_self (inside : call < flight.calls.size)
    (orderly : (flight.call call).line.Orderly) (few : (flight.call call).line.drawn < 2 ^ 64)
    (waker : ω) :
    (flight.parkAt call none waker).wakersAt call = flight.wakersAt call ++ [waker] := by
  rw [wakersAt, line_parkAt, if_pos ⟨rfl, inside⟩, WaitLine.park_none (orderly.holds_next few),
    List.map_append, List.map_singleton, wakersAt]

/-- Whoever joins has still found a ticket that was not drawn before. -/
theorem drawn_lt_of_parkAt (inside : call < flight.calls.size) {waker : ω}
    (few : ((flight.parkAt call none waker).call call).line.drawn ≤ 2 ^ 64) :
    (flight.call call).line.drawn < 2 ^ 64 := by
  rw [line_parkAt, if_pos ⟨rfl, inside⟩, WaitLine.drawn_park_none] at few
  exact few

/-- Nobody waits for a call that is settled as soon as it was begun. -/
theorem wakers_settle_lead [DecidableEq κ] (flight : Flight κ ω ρ) (key : κ)
    (verdict : Verdict ρ) : ((flight.lead key).settle key flight.calls.size verdict).1 = [] := by
  simp [settle, Call.settle, WaitLine.drain, call_of_size_le (Nat.le_refl flight.calls.size)]

end Wakers

namespace Event

def joins (call : Nat) : Event κ ρ → Bool
  | .joined _ _ one => one == call
  | _ => false

end Event

namespace Traffic

/-- Caller `number` is alive and waits for call `call` for `key`. -/
def Follows (traffic : Traffic κ ω ρ) (number : Nat) (key : κ) (call : Nat) : Prop :=
  ∃ ticket, traffic.callers[number]? = some ⟨key, .follows call ticket⟩

/-! ## Tickets drawn -/

/-- Each call counts those who have joined it. -/
def Counted (traffic : Traffic κ ω ρ) : Prop :=
  ∀ call, (traffic.flight.call call).line.drawn = traffic.history.countP (Event.joins call)

private theorem Counted.advance {traffic : Traffic κ ω ρ} (counted : traffic.Counted) (number : Nat)
    (key : κ) (phase : Phase ρ) {flight : Flight κ ω ρ} {events : List (Event κ ρ)}
    (drawn : ∀ call, (flight.call call).line.drawn =
      (traffic.flight.call call).line.drawn + events.countP (Event.joins call)) :
    (traffic.advance number key phase flight events).Counted := by
  intro call
  simp only [Traffic.advance, List.countP_append]
  rw [drawn, counted call]

section Keyed

variable [DecidableEq κ]

private theorem Counted.turn {traffic next : Traffic κ ω ρ} {move : Move κ ω ρ} {woken : List ω}
    (counted : traffic.Counted) (manned : traffic.Manned) (turn : traffic.Turn move woken next) :
    next.Counted := by
  cases turn with
  | stay _ _ | call => exact counted
  | lead _ _ _ =>
      refine counted.advance _ _ _ fun call => ?_
      rw [call_lead]
      rfl
  | @join number key phase waker joined _ _ registered =>
      refine counted.advance _ _ _ fun call => ?_
      have inside := manned.lt_size (manned.find?_iff.mp registered)
      rw [line_parkAt]
      by_cases same : call = joined
      · subst same
        simp [inside, Event.joins]
      · simp [same, Ne.symm same, Event.joins]
  | wait _ _ =>
      refine counted.advance _ _ _ fun call => ?_
      rw [line_parkAt]
      split
      · next same => simp [same.1]
      · rfl
  | share _ _ | forgo _ => exact counted.advance _ _ _ fun call => rfl
  | finish _ | abandon _ =>
      refine counted.advance _ _ _ fun call => ?_
      rw [line_settle]
      split
      · next same =>
          rw [same.1]
          rfl
      · rfl
  | depart _ =>
      refine counted.advance _ _ _ fun call => ?_
      rw [line_leave]
      split
      · next same =>
          rw [same.1]
          rfl
      · rfl

theorem counted_run (moves : List (Move κ ω ρ)) : (run moves).Counted := by
  induction moves using List.reverseRecOn with
  | nil => exact fun call => by simp [run, Flight.call]
  | append_singleton moves move ih =>
      have manned := manned_run moves
      rw [run_append_singleton]
      exact ih.turn manned (manned.unsettled.turn move)

end Keyed

end Traffic

/-! ## The latest waker -/

/-- The waker that caller `number` is polled with, if the move polls it. -/
def Move.waker? (number : Nat) : Move κ ω ρ → Option ω
  | .poll caller waker => if caller = number then some waker else none
  | .call _ | .finish _ _ | .leave _ => none

/-- The waker that caller `number` was last polled with. -/
def latest (moves : List (Move κ ω ρ)) (number : Nat) : Option ω :=
  (moves.filterMap (Move.waker? number)).getLast?

private theorem latest_append_singleton (moves : List (Move κ ω ρ)) (move : Move κ ω ρ)
    (number : Nat) :
    latest (moves ++ [move]) number = (move.waker? number).or (latest moves number) := by
  cases polled : move.waker? number <;> simp [latest, polled]

namespace Traffic

/-! ## Lines and followers -/

/-- Whoever stands in the line of call `call` follows the call, and stands there with its latest
waker. While the call runs, whoever follows it stands there. -/
structure Lined (traffic : Traffic κ (Nat × ω) ρ) (latest : Nat → Option ω) (call : Nat) :
    Prop where
  orderly : (traffic.flight.call call).line.Orderly
  owned : ∀ waiter ∈ (traffic.flight.call call).line.waiters, ∃ key,
    traffic.callers[waiter.waker.1]? = some ⟨key, .follows call waiter.ticket⟩
  recent : ∀ waiter ∈ (traffic.flight.call call).line.waiters,
    latest waiter.waker.1 = some waiter.waker.2
  stands : ∀ number key ticket, traffic.callers[number]? = some ⟨key, .follows call ticket⟩ →
    (traffic.flight.call call).verdict = none →
      ∃ waiter ∈ (traffic.flight.call call).line.waiters,
        waiter.ticket = ticket ∧ waiter.waker.1 = number
  tidy : (traffic.flight.call call).verdict ≠ none → (traffic.flight.call call).line.waiters = []

variable {traffic next : Traffic κ (Nat × ω) ρ} {past present : Nat → Option ω} {phase : Phase ρ}
  {flight : Flight κ (Nat × ω) ρ} {waiter : Waiter (Nat × ω)}

/-- A follower is known by its ticket in the line as well as by its waker. -/
private theorem Lined.owner_iff (lined : traffic.Lined past call)
    (found : traffic.callers[number]? = some ⟨key, .follows call ticket⟩)
    (member : waiter ∈ (traffic.flight.call call).line.waiters) :
    waiter.ticket = ticket ↔ waiter.waker.1 = number := by
  constructor
  · intro same
    have running : (traffic.flight.call call).verdict = none := by
      by_contra settled
      rw [lined.tidy settled] at member
      exact List.not_mem_nil member
    obtain ⟨own, standing, held, signed⟩ := lined.stands number key ticket found running
    have unique := List.inj_on_of_nodup_map lined.orderly.nodup standing member
      (held.trans same.symm)
    rw [← unique, signed]
  · rintro rfl
    obtain ⟨_, found'⟩ := lined.owned waiter member
    cases found.symm.trans found'
    rfl

private theorem Lined.lt_size_of_follows (lined : traffic.Lined past call)
    (found : traffic.callers[number]? = some ⟨key, .follows call ticket⟩) :
    call < traffic.flight.calls.size := by
  by_contra outside
  have stands := lined.stands number key ticket found
  rw [call_of_size_le (Nat.not_lt.mp outside)] at stands
  obtain ⟨waiter, member, _⟩ := stands rfl
  exact List.not_mem_nil member

private theorem Lined.holds_of_follows (lined : traffic.Lined past call)
    (found : traffic.callers[number]? = some ⟨key, .follows call ticket⟩)
    (running : (traffic.flight.call call).verdict = none) :
    (traffic.flight.call call).line.holds ticket = true := by
  obtain ⟨own, standing, rfl, _⟩ := lined.stands number key ticket found running
  exact WaitLine.holds_iff.mpr (List.mem_map_of_mem standing)

theorem Lined.owners_nodup (lined : traffic.Lined past call) :
    ((traffic.flight.wakersAt call).map Prod.fst).Nodup := by
  rw [wakersAt, List.map_map, List.Nodup, List.pairwise_map]
  have distinct := List.pairwise_map.mp lined.orderly.nodup
  refine distinct.imp_of_mem fun {one other} member member' different same => different ?_
  obtain ⟨key, found⟩ := lined.owned other member'
  exact (lined.owner_iff found member).mpr same

/-- Those who stand in the line of a call that runs are its followers. -/
theorem Lined.mem_owners_iff (lined : traffic.Lined past call)
    (running : (traffic.flight.call call).verdict = none) :
    number ∈ (traffic.flight.wakersAt call).map Prod.fst ↔
      ∃ key, traffic.Follows number key call := by
  rw [wakersAt, List.map_map, List.mem_map]
  constructor
  · rintro ⟨waiter, standing, rfl⟩
    obtain ⟨key, found⟩ := lined.owned waiter standing
    exact ⟨key, waiter.ticket, found⟩
  · rintro ⟨key, ticket, found⟩
    obtain ⟨waiter, standing, _, same⟩ := lined.stands number key ticket found running
    exact ⟨waiter, standing, same⟩

theorem Lined.mem_wakersAt (lined : traffic.Lined past call)
    (running : (traffic.flight.call call).verdict = none) {waker : ω} :
    (number, waker) ∈ traffic.flight.wakersAt call ↔
      (∃ key, traffic.Follows number key call) ∧ past number = some waker := by
  have recent : ∀ one ∈ traffic.flight.wakersAt call, past one.1 = some one.2 := by
    intro one member
    obtain ⟨waiter, standing, rfl⟩ := List.mem_map.mp member
    exact lined.recent waiter standing
  rw [← lined.mem_owners_iff running, List.mem_map]
  constructor
  · exact fun member => ⟨⟨_, member, rfl⟩, recent _ member⟩
  · rintro ⟨⟨one, member, rfl⟩, last⟩
    rw [recent one member] at last
    cases last
    exact member

/-! ### The wakers in a line -/

theorem Lined.wakersAt_join (lined : traffic.Lined past call)
    (inside : call < traffic.flight.calls.size)
    (few : (traffic.flight.call call).line.drawn < 2 ^ 64) (waker : Nat × ω) :
    (traffic.flight.parkAt call none waker).wakersAt call =
      traffic.flight.wakersAt call ++ [waker] := by
  have newcomer := lined.orderly.holds_next few
  rw [wakersAt, line_parkAt, if_pos ⟨rfl, inside⟩, WaitLine.park_none newcomer]
  simp [wakersAt]

theorem Lined.wakersAt_wait (lined : traffic.Lined past call)
    (found : traffic.callers[number]? = some ⟨key, .follows call ticket⟩)
    (running : (traffic.flight.call call).verdict = none) (waker : Nat × ω) :
    (traffic.flight.parkAt call (some ticket) waker).wakersAt call =
      (traffic.flight.wakersAt call).map fun one => if one.1 = number then waker else one := by
  have standing := lined.holds_of_follows found running
  rw [wakersAt, line_parkAt, if_pos ⟨rfl, lined.lt_size_of_follows found⟩,
    lined.orderly.waiters_park_some standing, wakersAt, List.map_map, List.map_map]
  refine List.map_congr_left fun waiter member => ?_
  have owner := lined.owner_iff found member
  simp only [Function.comp_apply, owner]
  split <;> rfl

theorem Lined.wakersAt_leave (lined : traffic.Lined past call)
    (found : traffic.callers[number]? = some ⟨key, .follows call ticket⟩) :
    (traffic.flight.leave call ticket).wakersAt call =
      (traffic.flight.wakersAt call).filter fun one => decide (one.1 ≠ number) := by
  rw [wakersAt, line_leave, if_pos ⟨rfl, lined.lt_size_of_follows found⟩, wakersAt, List.filter_map]
  refine congrArg _ (List.filter_congr fun waiter member => ?_)
  exact decide_eq_decide.mpr (lined.owner_iff found member).not

private theorem Lined.absent (lined : traffic.Lined past call)
    (found : traffic.callers[number]? = some ⟨key, phase⟩)
    (away : ∀ ticket, phase = .follows call ticket → (traffic.flight.call call).verdict ≠ none) :
    ∀ waiter ∈ (traffic.flight.call call).line.waiters, waiter.waker.1 ≠ number := by
  rintro waiter member rfl
  obtain ⟨_, found'⟩ := lined.owned waiter member
  cases found.symm.trans found'
  rw [lined.tidy (away _ rfl)] at member
  exact List.not_mem_nil member

private theorem lined_new (latest : Nat → Option ω) (call : Nat) :
    ({} : Traffic κ (Nat × ω) ρ).Lined latest call where
  orderly := WaitLine.orderly_empty
  owned := fun _ member => absurd member List.not_mem_nil
  recent := fun _ member => absurd member List.not_mem_nil
  stands := fun _ _ _ found => by cases found
  tidy := fun _ => rfl

/-- Somebody who has no part in the call goes on, and leaves it alone. -/
private theorem Lined.advance (lined : traffic.Lined past call)
    (found : traffic.callers[number]? = some ⟨key, phase⟩)
    (away : ∀ ticket, phase = .follows call ticket → (traffic.flight.call call).verdict ≠ none)
    (same : flight.call call = traffic.flight.call call) {later : Phase ρ}
    (apart : ∀ ticket, later ≠ .follows call ticket)
    (others : ∀ one, one ≠ number → present one = past one) (events : List (Event κ ρ)) :
    (traffic.advance number key later flight events).Lined present call := by
  have absent := lined.absent found away
  constructor
  case orderly =>
    simp only [Traffic.advance, same]
    exact lined.orderly
  case owned =>
    simp only [Traffic.advance, same]
    intro waiter member
    obtain ⟨key', found'⟩ := lined.owned waiter member
    exact ⟨key', (List.getElem?_set_ne (Ne.symm (absent waiter member))).trans found'⟩
  case recent =>
    simp only [Traffic.advance, same]
    intro waiter member
    rw [others _ (absent waiter member)]
    exact lined.recent waiter member
  case stands =>
    intro one key' ticket found'
    rcases getElem?_callers_advance found' with ⟨_, moved⟩ | ⟨_, before⟩
    · cases moved
      exact absurd rfl (apart ticket)
    · simp only [Traffic.advance, same]
      exact lined.stands one key' ticket before
  case tidy =>
    simp only [Traffic.advance, same]
    exact lined.tidy

private theorem lined_of_settle [DecidableEq κ] (inside : call < traffic.flight.calls.size)
    (number : Nat) (key : κ) (phase : Phase ρ) (verdict : Verdict ρ) (events : List (Event κ ρ)) :
    (traffic.advance number key phase (traffic.flight.settle key call verdict).2 events).Lined
      present call := by
  have empty : ((traffic.flight.settle key call verdict).2.call call).line.waiters = [] := by
    rw [line_settle, if_pos ⟨rfl, inside⟩]
  have settled : ((traffic.flight.settle key call verdict).2.call call).verdict = some verdict := by
    rw [verdict_settle, if_pos ⟨rfl, inside⟩]
  constructor
  case orderly => constructor <;> simp [Traffic.advance, WaitLine.tickets, empty]
  case owned | recent => simp [Traffic.advance, empty]
  case stands => simp [Traffic.advance, settled]
  case tidy => exact fun _ => empty

private theorem Lined.join (lined : traffic.Lined past call)
    (found : traffic.callers[number]? = some ⟨key, phase⟩)
    (absent : ∀ waiter ∈ (traffic.flight.call call).line.waiters, waiter.waker.1 ≠ number)
    (inside : call < traffic.flight.calls.size)
    (running : (traffic.flight.call call).verdict = none)
    (few : (traffic.flight.call call).line.drawn < 2 ^ 64)
    (others : ∀ one, one ≠ number → present one = past one) {waker : ω}
    (own : present number = some waker) (events : List (Event κ ρ)) :
    (traffic.advance number key
      (.follows call ((traffic.flight.call call).line.park none (number, waker)).1)
      (traffic.flight.parkAt call none (number, waker)) events).Lined present call := by
  have line_eq : ((traffic.flight.parkAt call none (number, waker)).call call).line =
      ((traffic.flight.call call).line.park none (number, waker)).2 := by
    rw [line_parkAt, if_pos ⟨rfl, inside⟩]
  have parked := WaitLine.park_none (lined.orderly.holds_next few) (number, waker)
  have waiters_eq : ((traffic.flight.parkAt call none (number, waker)).call call).line.waiters =
      (traffic.flight.call call).line.waiters ++
        [⟨(traffic.flight.call call).line.next, (number, waker)⟩] := by
    rw [line_eq, parked]
  have verdict_eq := (traffic.flight.alike_parkAt call none (number, waker)).verdict call
  have moved := getElem?_advance_self found key
    (.follows call ((traffic.flight.call call).line.park none (number, waker)).1)
    (traffic.flight.parkAt call none (number, waker)) events
  constructor
  case orderly =>
    simp only [Traffic.advance, line_eq]
    exact lined.orderly.park_none few _
  case owned =>
    intro waiter member
    simp only [Traffic.advance, waiters_eq] at member
    rcases List.mem_append.mp member with before | last
    · obtain ⟨key', found'⟩ := lined.owned waiter before
      exact ⟨key', (List.getElem?_set_ne (Ne.symm (absent waiter before))).trans found'⟩
    · cases List.mem_singleton.mp last
      rw [parked] at moved
      exact ⟨key, by rw [parked]; exact moved⟩
  case recent =>
    intro waiter member
    simp only [Traffic.advance, waiters_eq] at member
    rcases List.mem_append.mp member with before | last
    · rw [others _ (absent waiter before)]
      exact lined.recent waiter before
    · cases List.mem_singleton.mp last
      exact own
  case stands =>
    intro one key' ticket found' _
    simp only [Traffic.advance, waiters_eq]
    rcases getElem?_callers_advance found' with ⟨rfl, same⟩ | ⟨_, before⟩
    · cases same
      rw [parked]
      exact ⟨_, List.mem_append_right _ (List.mem_singleton_self _), rfl, rfl⟩
    · obtain ⟨own, standing, held⟩ := lined.stands one key' ticket before running
      exact ⟨own, List.mem_append_left _ standing, held⟩
  case tidy =>
    simp only [Traffic.advance, verdict_eq]
    exact fun settled => absurd running settled

/-- A follower that is polled again keeps its place and renews its waker. -/
private theorem Lined.wait (lined : traffic.Lined past call)
    (found : traffic.callers[number]? = some ⟨key, .follows call ticket⟩)
    (inside : call < traffic.flight.calls.size)
    (running : (traffic.flight.call call).verdict = none)
    (others : ∀ one, one ≠ number → present one = past one) {waker : ω}
    (own : present number = some waker) (events : List (Event κ ρ)) :
    (traffic.advance number key (.follows call ticket)
      (traffic.flight.parkAt call (some ticket) (number, waker)) events).Lined present call := by
  have standing := lined.holds_of_follows found running
  have line_eq : ((traffic.flight.parkAt call (some ticket) (number, waker)).call call).line =
      ((traffic.flight.call call).line.park (some ticket) (number, waker)).2 := by
    rw [line_parkAt, if_pos ⟨rfl, inside⟩]
  have waiters_eq := lined.orderly.waiters_park_some standing (number, waker)
  rw [← line_eq] at waiters_eq
  have verdict_eq := (traffic.flight.alike_parkAt call (some ticket) (number, waker)).verdict call
  have unmoved : traffic.callers.set number ⟨key, .follows call ticket⟩ = traffic.callers := by
    obtain ⟨_, same⟩ := List.getElem?_eq_some_iff.mp found
    rw [← same]
    exact List.set_getElem_self _
  constructor
  case orderly =>
    simp only [Traffic.advance, line_eq]
    exact lined.orderly.park_some standing _
  case owned =>
    intro waiter member
    simp only [Traffic.advance, waiters_eq, unmoved] at member ⊢
    obtain ⟨before, stood, rfl⟩ := List.mem_map.mp member
    split
    · next same =>
        rw [same]
        exact ⟨key, found⟩
    · exact lined.owned before stood
  case recent =>
    intro waiter member
    simp only [Traffic.advance, waiters_eq] at member
    obtain ⟨before, stood, rfl⟩ := List.mem_map.mp member
    split
    · exact own
    · next different =>
        rw [others _ fun same => different ((lined.owner_iff found stood).mpr same)]
        exact lined.recent before stood
  case stands =>
    intro one key' ticket' found' _
    simp only [Traffic.advance, waiters_eq, unmoved] at found' ⊢
    obtain ⟨before, member, held, signed⟩ := lined.stands one key' ticket' found' running
    refine ⟨_, List.mem_map_of_mem member, ?_⟩
    split
    · next same => exact ⟨held, ((lined.owner_iff found member).mp same).symm.trans signed⟩
    · exact ⟨held, signed⟩
  case tidy =>
    simp only [Traffic.advance, verdict_eq]
    exact fun settled => absurd running settled

private theorem Lined.depart (lined : traffic.Lined past call)
    (found : traffic.callers[number]? = some ⟨key, .follows call ticket⟩)
    (inside : call < traffic.flight.calls.size)
    (others : ∀ one, one ≠ number → present one = past one) (events : List (Event κ ρ)) :
    (traffic.advance number key .gone (traffic.flight.leave call ticket) events).Lined
      present call := by
  have line_eq : ((traffic.flight.leave call ticket).call call).line =
      (traffic.flight.call call).line.leave ticket := by
    rw [line_leave, if_pos ⟨rfl, inside⟩]
  have verdict_eq := (traffic.flight.alike_leave call ticket).verdict call
  have stays : ∀ waiter, waiter ∈ ((traffic.flight.call call).line.leave ticket).waiters ↔
      waiter ∈ (traffic.flight.call call).line.waiters ∧ waiter.waker.1 ≠ number := by
    intro waiter
    simp only [WaitLine.leave, List.mem_filter, decide_eq_true_eq]
    exact and_congr_right fun member => (lined.owner_iff found member).not
  constructor
  case orderly =>
    simp only [Traffic.advance, line_eq]
    exact lined.orderly.leave ticket
  case owned =>
    intro waiter member
    simp only [Traffic.advance, line_eq, stays] at member ⊢
    obtain ⟨key', found'⟩ := lined.owned waiter member.1
    exact ⟨key', (List.getElem?_set_ne (Ne.symm member.2)).trans found'⟩
  case recent =>
    intro waiter member
    simp only [Traffic.advance, line_eq, stays] at member
    rw [others _ member.2]
    exact lined.recent waiter member.1
  case stands =>
    intro one key' ticket' found' running
    simp only [Traffic.advance, line_eq, verdict_eq] at running ⊢
    rcases getElem?_callers_advance found' with ⟨_, same⟩ | ⟨different, before⟩
    · cases same
    · obtain ⟨own, standing, held, signed⟩ := lined.stands one key' ticket' before running
      exact ⟨own, (stays own).mpr ⟨standing, signed ▸ different⟩, held, signed⟩
  case tidy =>
    simp only [Traffic.advance, line_eq, verdict_eq]
    intro settled
    simp only [WaitLine.leave, lined.tidy settled, List.filter_nil]

/-- What was known of the latest wakers is known still, but for what the move adds. -/
def Updates (move : Move κ (Nat × ω) ρ) (past present : Nat → Option ω) : Prop :=
  ∀ one, present one = ((move.waker? one).map Prod.snd).or (past one)

private theorem Updates.of_ne {move : Move κ (Nat × ω) ρ} {one : Nat}
    (updates : Updates move past present) (other : move.caller? ≠ some one) :
    present one = past one := by
  rw [updates one]
  cases move with
  | call _ | finish _ _ | leave _ => rfl
  | poll caller waker =>
      have different : caller ≠ one := fun same => other (congrArg some same)
      simp [Move.waker?, different]

private theorem Updates.poll {waker : Nat × ω}
    (updates : Updates (.poll number waker : Move κ (Nat × ω) ρ) past present) :
    present number = some waker.2 := by
  rw [updates number]
  simp [Move.waker?]

private theorem Updates.others {move : Move κ (Nat × ω) ρ} (updates : Updates move past present)
    (own : move.caller? = some number) : ∀ one, one ≠ number → present one = past one := by
  intro one different
  refine updates.of_ne fun same => different ?_
  rw [own] at same
  exact (Option.some.inj same).symm

private theorem Lined.stay {move : Move κ (Nat × ω) ρ} (lined : traffic.Lined past call)
    (updates : Updates move past present) (own : move.caller? = some number)
    (deaf : ∀ caller, traffic.callers[number]? = some caller → ¬ caller.phase.Heeds move) :
    traffic.Lined present call where
  orderly := lined.orderly
  owned := lined.owned
  recent := by
    intro waiter member
    obtain ⟨key, found⟩ := lined.owned waiter member
    have same : present waiter.waker.1 = past waiter.waker.1 := by
      cases move with
      | call _ | finish _ _ | leave _ => exact updates _
      | poll caller waker =>
          cases own
          refine updates.of_ne fun same => ?_
          cases same
          exact deaf _ found trivial
    rw [same]
    exact lined.recent waiter member
  stands := lined.stands
  tidy := lined.tidy

private theorem Lined.arrive (lined : traffic.Lined past call) (same : present = past) (key : κ) :
    Lined { traffic with callers := traffic.callers ++ [{ key }] } present call where
  orderly := lined.orderly
  owned := by
    intro waiter member
    obtain ⟨key', found⟩ := lined.owned waiter member
    have inside := (List.getElem?_eq_some_iff.mp found).1
    exact ⟨key', (List.getElem?_append_left inside).trans found⟩
  recent := same ▸ lined.recent
  stands := by
    intro number key' ticket found
    rcases getElem?_callers_call found with before | ⟨_, same⟩
    · exact lined.stands number key' ticket before
    · cases same
  tidy := lined.tidy

private theorem away_of_seeks (seeks : phase.Seeks traffic.flight) (call : Nat) :
    ∀ ticket, phase = .follows call ticket → (traffic.flight.call call).verdict ≠ none := by
  rintro ticket rfl running
  rw [Phase.Seeks, running] at seeks
  cases seeks

private theorem updates_signed (moves : List (Move κ ω ρ)) (move : Move κ ω ρ) :
    Updates move.signed (latest moves) (latest (moves ++ [move])) := by
  intro one
  rw [latest_append_singleton]
  cases move with
  | call _ | finish _ _ | leave _ => rfl
  | poll caller waker =>
      by_cases same : caller = one <;> simp [Move.signed, Move.waker?, same]

section Keyed

variable [DecidableEq κ] {move : Move κ (Nat × ω) ρ} {woken : List (Nat × ω)}

private theorem Lined.turn (lined : traffic.Lined past call) (manned : traffic.Manned)
    (few : (next.flight.call call).line.drawn ≤ 2 ^ 64) (signs : move.Signs)
    (updates : Updates move past present) (turn : traffic.Turn move woken next) :
    next.Lined present call := by
  cases turn with
  | stay own deaf => exact lined.stay updates own deaf
  | call => exact lined.arrive (funext fun one => updates one) _
  | @lead number key phase waker found seeks free =>
      exact lined.advance found (away_of_seeks seeks call) (call_lead ..) (by simp)
        (updates.others rfl) _
  | @join number key phase waker joined found seeks registered =>
      by_cases same : call = joined
      · subst same
        obtain ⟨one, waker⟩ := waker
        obtain rfl : one = number := signs
        have absent := lined.absent found (away_of_seeks seeks call)
        have inside := manned.lt_size (manned.find?_iff.mp registered)
        exact lined.join found absent inside (manned.unsettled _ _ registered)
          (drawn_lt_of_parkAt inside few) (updates.others rfl) updates.poll _
      · refine lined.advance found (away_of_seeks seeks call) (call_parkAt_of_ne same ..) ?_
          (updates.others rfl) _
        exact fun ticket follows => same (Phase.follows.inj follows).1.symm
  | @wait number key followed ticket waker found running =>
      by_cases same : call = followed
      · subst same
        obtain ⟨one, waker⟩ := waker
        obtain rfl : one = number := signs
        exact lined.wait found (lined.lt_size_of_follows found) running (updates.others rfl)
          updates.poll _
      · have elsewhere : ∀ other, (.follows followed ticket : Phase ρ) ≠ .follows call other :=
          fun other follows => same (Phase.follows.inj follows).1.symm
        exact lined.advance found (fun other follows => absurd follows (elsewhere other))
          (call_parkAt_of_ne same ..) elsewhere (updates.others rfl) _
  | @share number key followed ticket waker result found done =>
      refine lined.advance found ?_ rfl (by simp) (updates.others rfl) _
      rintro other ⟨rfl, rfl⟩ running
      rw [running] at done
      cases done
  | forgo found => exact lined.advance found (by simp) rfl (by simp) (updates.others rfl) _
  | @finish number key led result found =>
      by_cases same : call = led
      · subst same
        exact lined_of_settle (manned.lt_size (mem_leaders found)) ..
      · exact lined.advance found (by simp) (call_settle_of_ne same _) (by simp)
          (updates.others rfl) _
  | @abandon number key led found =>
      by_cases same : call = led
      · subst same
        exact lined_of_settle (manned.lt_size (mem_leaders found)) ..
      · exact lined.advance found (by simp) (call_settle_of_ne same _) (by simp)
          (updates.others rfl) _
  | @depart number key followed ticket found =>
      by_cases same : call = followed
      · subst same
        exact lined.depart found (lined.lt_size_of_follows found) (updates.others rfl) _
      · refine lined.advance found ?_ (call_leave_of_ne same _) (by simp) (updates.others rfl) _
        exact fun other follows => absurd (Phase.follows.inj follows).1.symm same

theorem follows_signed (moves : List (Move κ ω ρ)) :
    (run (moves.map Move.signed)).Follows number key call ↔
      (run moves).Follows number key call := by
  simp only [Follows, callers_signed]

theorem few_of_append {before after : List (Move κ ω ρ)}
    (few : (run (before ++ after)).history.countP (Event.joins call) ≤ 2 ^ 64) :
    (run before).history.countP (Event.joins call) ≤ 2 ^ 64 := by
  have grown := (history_prefix_run before after).sublist.countP_le (p := Event.joins call)
  exact Nat.le_trans grown few

theorem lined_run (moves : List (Move κ ω ρ)) (call : Nat)
    (few : (run moves).history.countP (Event.joins call) ≤ 2 ^ 64) :
    (run (moves.map Move.signed)).Lined (latest moves) call := by
  induction moves using List.reverseRecOn with
  | nil => exact lined_new _ call
  | append_singleton moves move ih =>
      have manned := manned_run (moves.map Move.signed)
      have drawn := counted_run ((moves ++ [move]).map Move.signed) call
      rw [history_signed] at drawn
      have room := drawn ▸ few
      rw [List.map_append, List.map_singleton, run_append_singleton] at room ⊢
      exact (ih (few_of_append few)).turn manned room (signs_signed move)
        (updates_signed moves move) (manned.unsettled.turn move.signed)

end Keyed

end Traffic

end Flight

end Cohort
