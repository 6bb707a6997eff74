import Cohort.Proofs.Flight.Followers
import Cohort.Proofs.Flight.Sharing

/-!
# Calls that are abandoned

A leader that goes away leaves its key free and its call without a result. Whoever has
followed the call is woken, starts over when it is polled, and leads a call of its own
unless somebody else has begun one meanwhile: then it follows that one, which still runs.
-/

set_option autoImplicit false

namespace Cohort.Flight

namespace Traffic

variable {κ ω ρ : Type} {traffic next : Traffic κ ω ρ} {number call : Nat} {key : κ}
  {result : ρ} {fresh : Bool}

/-- The caller has returned what the call came to that it has led or joined last. -/
inductive Receives (history : List (Event κ ρ)) (number call : Nat) (result : ρ) : Prop where
  | led {key : κ} :
      [.started number key call, .finished number key call result, .returned number result true] <:+
        own number history →
      Receives history number call result
  | joined {key : κ} :
      [.joined number key call, .returned number result false] <:+ own number history →
      Receives history number call result

private theorem Storied.receives (storied : traffic.Storied)
    (found : traffic.callers[number]? = some ⟨key, .returned result fresh⟩) :
    ∃ source, Receives traffic.history number source result ∧
      (traffic.flight.call source).verdict = some (.done result) := by
  obtain ⟨joins, ending, forsaken, came, split⟩ := storied.lives number key _ found
  cases came with
  | @fresh source =>
      refine ⟨source, .led ⟨joins, split.symm⟩, ?_⟩
      have finished : .finished number key source result ∈ own number traffic.history := by
        rw [split]
        simp
      exact storied.recorded.finished number key source result (mem_own.mp finished).1
  | @shared source =>
      refine ⟨source, .joined ⟨joins, split.symm⟩, ?_⟩
      -- Of the calls that the caller has joined, only the last one has come to a result.
      obtain ⟨leader, shared, recorded⟩ := storied.shared number key result found
      have joined : .joined number key shared ∈ own number traffic.history :=
        mem_own.mpr ⟨recorded.mem (by simp), rfl⟩
      have finished := storied.recorded.finished leader key shared result (recorded.mem (by simp))
      rw [split] at joined
      rcases List.mem_append.mp joined with earlier | last
      · obtain ⟨call, same, abandoned⟩ := forsaken _ earlier
        cases same
        rw [finished] at abandoned
        cases abandoned
      · obtain rfl : shared = source := by simpa using last
        exact finished

section Keyed

variable [DecidableEq κ]

/-! ## A poll as a loop -/

/-- The loop of a poll from where it looks for a call: it starts over `restarts` times
before it comes to the last state. Nothing bounds how often it may. -/
inductive Looks (number : Nat) (key : κ) (waker : ω) :
    Traffic κ ω ρ → Nat → Traffic κ ω ρ → Prop where
  | leads {traffic : Traffic κ ω ρ} {call flight} :
      traffic.flight.enter key waker = (.leads call, flight) →
      Looks number key waker traffic 0
        (traffic.advance number key (.leads call) flight [.started number key call])
  | joins {traffic : Traffic κ ω ρ} {call ticket flight} :
      traffic.flight.enter key waker = (.joins call ticket, flight) →
      Looks number key waker traffic 0
        (traffic.advance number key (.follows call ticket) flight [.joined number key call])
  | shares {traffic : Traffic κ ω ρ} {result flight} :
      traffic.flight.enter key waker = (.late (.done result), flight) →
      Looks number key waker traffic 0
        (traffic.advance number key (.returned result false) flight
          [.returned number result false])
  | again {traffic next : Traffic κ ω ρ} {flight restarts} :
      traffic.flight.enter key waker = (.late .abandoned, flight) →
      Looks number key waker { traffic with flight } restarts next →
      Looks number key waker traffic (restarts + 1) next

/-- One poll of a caller that does not lead, from where its last poll has left it. -/
inductive Polls (traffic : Traffic κ ω ρ) (number : Nat) (waker : ω) :
    Nat → Traffic κ ω ρ → Prop where
  | first {key restarts next} :
      traffic.callers[number]? = some ⟨key, .idle⟩ →
      Looks number key waker traffic restarts next → Polls traffic number waker restarts next
  | waits {key call ticket later flight} :
      traffic.callers[number]? = some ⟨key, .follows call ticket⟩ →
      traffic.flight.poll call ticket waker = (.parked later, flight) →
      Polls traffic number waker 0 (traffic.advance number key (.follows call later) flight [])
  | shares {key call ticket result flight} :
      traffic.callers[number]? = some ⟨key, .follows call ticket⟩ →
      traffic.flight.poll call ticket waker = (.settled (.done result), flight) →
      Polls traffic number waker 0
        (traffic.advance number key (.returned result false) flight
          [.returned number result false])
  | again {key call ticket flight restarts next} :
      traffic.callers[number]? = some ⟨key, .follows call ticket⟩ →
      traffic.flight.poll call ticket waker = (.settled .abandoned, flight) →
      Looks number key waker { traffic with flight } restarts next →
      Polls traffic number waker (restarts + 1) next

variable {waker : ω} {restarts : Nat}

/-- No registered call is settled, so whoever looks for a call finds one or leads. -/
theorem Unsettled.looks (unsettled : traffic.Unsettled) (number : Nat) (key : κ) (waker : ω) :
    Looks number key waker traffic 0 (traffic.enter number key waker) := by
  unfold enter
  cases registered : traffic.flight.registry.find? key with
  | none =>
      rw [enter_of_free registered]
      exact .leads (enter_of_free registered waker)
  | some call =>
      have running := unsettled key call registered
      rw [enter_of_running registered running]
      exact .joins (enter_of_running registered running waker)

private theorem Unsettled.looks_once (unsettled : traffic.Unsettled)
    (looks : Looks number key waker traffic restarts next) :
    restarts = 0 ∧ next = traffic.enter number key waker := by
  cases looks with
  | leads found | joins found =>
      unfold enter
      rw [found]
      exact ⟨rfl, rfl⟩
  | shares late | again late _ => exact absurd late (enter_ne_late (unsettled key) waker)

/-- No poll starts over twice, and it comes to what the move comes to. -/
theorem Unsettled.polls_once (unsettled : traffic.Unsettled)
    (polls : traffic.Polls number waker restarts next) :
    restarts ≤ 1 ∧ next = (traffic.step (.poll number waker)).2 := by
  cases polls with
  | first found looks =>
      obtain ⟨rfl, rfl⟩ := unsettled.looks_once looks
      refine ⟨Nat.zero_le 1, ?_⟩
      simp only [step, found]
  | waits found polled | shares found polled =>
      refine ⟨Nat.zero_le 1, ?_⟩
      simp only [step, found, polled]
  | again found polled looks =>
      obtain ⟨settled, rfl⟩ := poll_eq_settled polled
      obtain ⟨rfl, rfl⟩ := unsettled.looks_once looks
      refine ⟨Nat.le_refl 1, ?_⟩
      simp only [step, found, polled]

private theorem Unsettled.polls_of_abandoned (unsettled : traffic.Unsettled) {ticket : UInt64}
    (found : traffic.callers[number]? = some ⟨key, .follows call ticket⟩)
    (abandoned : (traffic.flight.call call).verdict = some .abandoned) (waker : ω) :
    traffic.Polls number waker 1 (traffic.step (.poll number waker)).2 := by
  rw [step_poll_of_seeks found abandoned]
  exact .again found (poll_of_settled abandoned ticket waker) (unsettled.looks number key waker)

private theorem Unsettled.exists_polls (unsettled : traffic.Unsettled) {caller : Caller κ ρ}
    (found : traffic.callers[number]? = some caller)
    (heeds : caller.phase.Heeds (.poll number waker : Move κ ω ρ)) :
    ∃ restarts, traffic.Polls number waker restarts (traffic.step (.poll number waker)).2 := by
  obtain ⟨key, phase⟩ := caller
  cases phase with
  | idle =>
      rw [step_poll_of_seeks found trivial]
      exact ⟨0, .first found (unsettled.looks number key waker)⟩
  | follows call ticket =>
      cases reached : (traffic.flight.call call).verdict with
      | none =>
          simp only [step, found, poll_eq_parkAt reached]
          exact ⟨0, .waits found (poll_eq_parkAt reached ticket waker)⟩
      | some verdict =>
          cases verdict with
          | done result =>
              simp only [step, found, poll_of_settled reached]
              exact ⟨0, .shares found (poll_of_settled reached ticket waker)⟩
          | abandoned => exact ⟨1, unsettled.polls_of_abandoned found reached waker⟩
  | leads _ | returned _ _ | gone => exact absurd heeds id

/-! ## What an abandoned call leaves behind -/

/-- A caller has looked for a call for its key and begun one or joined one. -/
inductive Begins (before after : Traffic κ ω ρ) (number : Nat) (key : κ) (newer : Nat) : Prop where
  | leads :
      before.flight.registry.find? key = none → after.Leads number key newer →
      after.history = before.history ++ [.started number key newer] →
      Begins before after number key newer
  | joins :
      before.flight.registry.find? key = some newer → after.Follows number key newer →
      after.history = before.history ++ [.joined number key newer] →
      Begins before after number key newer

/-- A poll of caller `number` that finds its call `call` abandoned. -/
structure StartsOver (moves : List (Move κ ω ρ)) (number : Nat) (waker : ω) (key : κ)
    (call : Nat) : Prop where
  once : (run moves).Polls number waker 1 (run (moves ++ [.poll number waker]))
  newer : ∃ newer, call < newer ∧
    Begins (run moves) (run (moves ++ [.poll number waker])) number key newer ∧
    (run (moves ++ [.poll number waker])).flight.registry.find? key = some newer ∧
    ((run (moves ++ [.poll number waker])).flight.call newer).verdict = none
  /-- A call that it leads itself runs until the caller is over, maybe in the same poll. -/
  busy : ∀ newer, (run (moves ++ [.poll number waker])).Leads number key newer →
    ∀ inner : List (Move κ ω ρ),
      (run (moves ++ [.poll number waker] ++ inner)).flight.registry.find? key = some newer ∨
        ∃ caller, (run (moves ++ [.poll number waker] ++ inner)).callers[number]? = some caller ∧
          caller.phase.isOver = true

/-- Caller `leader` has gone while its work ran for `key`, as call `call`. -/
structure HandsOver (moves : List (Move κ ω ρ)) (leader : Nat) (key : κ) (call : Nat) : Prop where
  free : (run (moves ++ [.leave leader])).flight.registry.find? key = none
  abandoned : ((run (moves ++ [.leave leader])).flight.call call).verdict = some .abandoned
  /-- Its followers are woken, each once and by its latest waker, and nobody else is. -/
  woken : ∃ woken, wakeUps (moves ++ [.leave leader]) = wakeUps moves ++ woken ∧
    (woken.map Prod.fst).Nodup ∧ ∀ number waker, (number, waker) ∈ woken ↔
      (run moves).Follows number key call ∧ latest moves number = some waker
  /-- Whatever anybody returns is the result of another call. -/
  barren : ∀ (later : List (Move κ ω ρ)) number key result fresh,
    (run (moves ++ [.leave leader] ++ later)).callers[number]? =
      some ⟨key, .returned result fresh⟩ →
        ∃ source, source ≠ call ∧
          Receives (run (moves ++ [.leave leader] ++ later)).history number source result
  restarts : ∀ number, (run moves).Follows number key call → ∀ later : List (Move κ ω ρ),
    (∀ move ∈ later, move.caller? ≠ some number) → ∀ waker,
      StartsOver (moves ++ [.leave leader] ++ later) number waker key call

/-- A poll of a caller that does not lead ends, and starts over at most once on its way. -/
structure PollsOnce (traffic : Traffic κ ω ρ) (number : Nat) (waker : ω) : Prop where
  ends : ∀ caller, traffic.callers[number]? = some caller →
    caller.phase.Heeds (.poll number waker : Move κ ω ρ) →
      ∃ restarts, traffic.Polls number waker restarts (traffic.step (.poll number waker)).2
  once : ∀ restarts next, traffic.Polls number waker restarts next →
    restarts ≤ 1 ∧ next = (traffic.step (.poll number waker)).2

private theorem Unsettled.begins (unsettled : traffic.Unsettled) {ticket : UInt64}
    (found : traffic.callers[number]? = some ⟨key, .follows call ticket⟩)
    (abandoned : (traffic.flight.call call).verdict = some .abandoned)
    (next_eq : next = (traffic.step (.poll number waker)).2) :
    ∃ newer, Begins traffic next number key newer ∧ next.flight.registry.find? key = some newer ∧
      (traffic.flight.registry.find? key = some newer ∨ newer = traffic.flight.calls.size) := by
  rw [step_poll_of_seeks found abandoned] at next_eq
  subst next_eq
  cases registered : traffic.flight.registry.find? key with
  | none =>
      rw [enter, enter_of_free registered]
      refine ⟨traffic.flight.calls.size, .leads registered ?_ rfl, ?_, Or.inr rfl⟩
      · exact getElem?_advance_self found ..
      · exact Table.find?_insert_self ..
  | some newer =>
      rw [enter, enter_of_running registered (unsettled key newer registered)]
      refine ⟨newer, .joins registered ⟨_, getElem?_advance_self found ..⟩ rfl, ?_, Or.inl rfl⟩
      exact registered

variable {moves : List (Move κ ω ρ)}

private theorem Turn.leads_or_over {move : Move κ ω ρ} {woken : List ω}
    (turn : traffic.Turn move woken next) (own : move.caller? = some number)
    (leads : traffic.Leads number key call) :
    next.Leads number key call ∨
      ∃ caller, next.callers[number]? = some caller ∧ caller.phase.isOver = true := by
  cases turn with
  | stay _ _ => exact Or.inl leads
  | call => cases own
  | lead found seeks _ | join found seeks _ =>
      cases own
      cases leads.symm.trans found
      exact absurd seeks id
  | wait found _ | share found _ | forgo found | depart found =>
      cases own
      cases leads.symm.trans found
  | finish found | abandon found =>
      cases own
      exact Or.inr ⟨_, getElem?_advance_self found .., rfl⟩

private theorem Turn.over {move : Move κ ω ρ} {woken : List ω} (turn : traffic.Turn move woken next)
    (own : move.caller? = some number) {caller : Caller κ ρ}
    (found : traffic.callers[number]? = some caller) (ended : caller.phase.isOver = true) :
    next.callers[number]? = some caller := by
  cases turn with
  | stay _ _ => exact found
  | call => cases own
  | @lead _ _ phase _ found' seeks _ | @join _ _ phase _ _ found' seeks _ =>
      cases own
      cases found.symm.trans found'
      cases phase with
      | idle | leads _ | follows _ _ => cases ended
      | returned _ _ | gone => exact absurd seeks id
  | wait found' _ | share found' _ | forgo found' | depart found' | finish found'
  | abandon found' =>
      cases own
      cases found.symm.trans found'
      cases ended

/-- A leader goes on with its work until it returns or goes. -/
theorem leads_or_over_run (leads : (run moves).Leads number key call)
    (later : List (Move κ ω ρ)) :
    (run (moves ++ later)).Leads number key call ∨
      ∃ caller, (run (moves ++ later)).callers[number]? = some caller ∧
        caller.phase.isOver = true := by
  refine stays_run (fun traffic => traffic.Leads number key call ∨
    ∃ caller, traffic.callers[number]? = some caller ∧ caller.phase.isOver = true) ?_ (Or.inl leads)
  rintro traffic next move woken _ _ turn (leads | ⟨caller, found, ended⟩)
  · by_cases own : move.caller? = some number
    · exact turn.leads_or_over own leads
    · exact Or.inl (turn.getElem?_callers_of_ne own leads)
  · by_cases own : move.caller? = some number
    · exact Or.inr ⟨caller, turn.over own found ended, ended⟩
    · exact Or.inr ⟨caller, turn.getElem?_callers_of_ne own found, ended⟩

private theorem startsOver_of_follows (follows : (run moves).Follows number key call)
    (abandoned : ((run moves).flight.call call).verdict = some .abandoned)
    (younger : ∀ newer, (run moves).flight.registry.find? key = some newer → call < newer)
    (waker : ω) : StartsOver moves number waker key call := by
  obtain ⟨ticket, found⟩ := follows
  have unsettled := (manned_run moves).unsettled
  have manned := manned_run (moves ++ [.poll number waker])
  have next_eq := run_append_singleton moves (.poll number waker)
  constructor
  case once =>
    rw [next_eq]
    exact unsettled.polls_of_abandoned found abandoned waker
  case newer =>
    obtain ⟨newer, begins, registered, origin⟩ := unsettled.begins found abandoned next_eq
    refine ⟨newer, ?_, begins, registered, manned.unsettled key newer registered⟩
    rcases origin with earlier | rfl
    · exact younger newer earlier
    · exact lt_size_of_settled abandoned
  case busy =>
    intro newer leads inner
    rcases leads_or_over_run leads inner with leads | ended
    · exact Or.inl ((manned_run _).find?_iff.mpr (mem_leaders leads))
    · exact Or.inr ended

private theorem Turn.younger {move : Move κ ω ρ} {woken : List ω}
    (turn : traffic.Turn move woken next) (inside : call < traffic.flight.calls.size)
    (younger : ∀ newer, traffic.flight.registry.find? key = some newer → call < newer) :
    ∀ newer, next.flight.registry.find? key = some newer → call < newer := by
  intro newer registered
  cases turn with
  | stay _ _ | call | join _ _ _ | wait _ _ | share _ _ | forgo _ | depart _ =>
      exact younger newer registered
  | @lead number own _ _ _ _ _ =>
      simp only [advance, registry_lead, Table.find?_insert] at registered
      split at registered
      · cases registered
        exact inside
      · exact younger newer registered
  | @finish number own _ _ _ | @abandon number own _ _ =>
      simp only [advance, registry_settle] at registered
      by_cases same : key = own
      · rw [same, Table.find?_erase_self] at registered
        cases registered
      · rw [Table.find?_erase_of_ne _ same] at registered
        exact younger newer registered

/-- Once a call was abandoned and its key is free, whatever is registered is newer. -/
theorem younger_run (abandoned : ((run moves).flight.call call).verdict = some .abandoned)
    (free : (run moves).flight.registry.find? key = none) (later : List (Move κ ω ρ)) :
    ((run (moves ++ later)).flight.call call).verdict = some .abandoned ∧
      ∀ newer, (run (moves ++ later)).flight.registry.find? key = some newer → call < newer := by
  refine stays_run (fun traffic => (traffic.flight.call call).verdict = some .abandoned ∧
    ∀ newer, traffic.flight.registry.find? key = some newer → call < newer) ?_ ⟨abandoned, ?_⟩
  · rintro traffic next move woken _ manned turn ⟨abandoned, younger⟩
    exact ⟨turn.keeps manned call _ abandoned, turn.younger (lt_size_of_settled abandoned) younger⟩
  · intro newer registered
    rw [free] at registered
    cases registered

/-- Whoever goes while its work runs leaves its key free and wakes those who follow it. -/
private theorem handsOver_of_leads {leader : Nat} (leads : (run moves).Leads leader key call)
    (few : (run moves).history.countP (Event.joins call) < 2 ^ 64) :
    HandsOver moves leader key call := by
  have manned := manned_run moves
  have leaves := manned.unsettled.step_eq (.abandon leads)
  have next_eq : run (moves ++ [.leave leader]) = _ :=
    (run_append_singleton moves (.leave leader)).trans (congrArg Prod.snd leaves)
  have free : (run (moves ++ [.leave leader])).flight.registry.find? key = none := by
    rw [next_eq]
    exact Table.find?_erase_self ..
  have abandoned :
      ((run (moves ++ [.leave leader])).flight.call call).verdict = some .abandoned := by
    rw [next_eq]
    simp only [advance]
    rw [verdict_settle, if_pos ⟨rfl, manned.lt_size (mem_leaders leads)⟩]
  have aftermath := younger_run abandoned free
  constructor
  case free => exact free
  case abandoned => exact abandoned
  case woken =>
    have manned' := manned_run (moves.map Move.signed)
    have leads' : (run (moves.map Move.signed)).Leads leader key call := by
      rw [Leads, callers_signed]
      exact leads
    have lined := lined_run moves call (Nat.le_of_lt few)
    have running := manned'.verdict_eq_none (mem_leaders leads')
    have leaves' : (run (moves.map Move.signed)).step (Move.leave leader : Move κ ω ρ).signed = _ :=
      manned'.unsettled.step_eq (.abandon leads')
    refine ⟨_, by rw [wakeUps_append_singleton, leaves'], lined.owners_nodup, ?_⟩
    intro number waker
    rw [lined.mem_wakersAt running]
    simp only [follows_signed]
    refine and_congr_left fun _ => ⟨?_, fun follows => ⟨key, follows⟩⟩
    rintro ⟨key', ticket, found⟩
    have storied := storied_run moves
    obtain rfl := storied.key_of_follows (storied.started_of_leads leads) found
    exact ⟨ticket, found⟩
  case barren =>
    intro later number key' result fresh found
    obtain ⟨source, receives, done⟩ := (storied_run _).receives found
    refine ⟨source, ?_, receives⟩
    rintro rfl
    rw [(aftermath later).1] at done
    cases done
  case restarts =>
    rintro number ⟨ticket, found⟩ later others waker
    have different : leader ≠ number := by
      rintro rfl
      cases leads.symm.trans found
    have parted : (run (moves ++ [.leave leader])).callers[number]? =
        some ⟨key, .follows call ticket⟩ := by
      rw [next_eq]
      exact (List.getElem?_set_ne different).trans found
    have still : (run (moves ++ [.leave leader] ++ later)).callers[number]? =
        some ⟨key, .follows call ticket⟩ :=
      stays_run (fun traffic => traffic.callers[number]? = some ⟨key, .follows call ticket⟩)
        (fun member _ turn found => turn.getElem?_callers_of_ne (others _ member) found) parted
    exact startsOver_of_follows ⟨ticket, still⟩ (aftermath later).1 (aftermath later).2 waker

/-- A poll starts over at most once, and a leader that goes before its work has ended hands
its key over. -/
theorem handsOver_run (moves : List (Move κ ω ρ)) :
    (∀ number waker, (run moves).PollsOnce number waker) ∧
      ∀ leader key call, (run moves).Leads leader key call →
        (run moves).history.countP (Event.joins call) < 2 ^ 64 →
          HandsOver moves leader key call := by
  have unsettled := (manned_run moves).unsettled
  constructor
  · intro number waker
    exact ⟨fun caller found heeds => unsettled.exists_polls found heeds,
      fun restarts next polls => unsettled.polls_once polls⟩
  · exact fun leader key call leads few => handsOver_of_leads leads few

end Keyed

/-- Two callers follow a third, one of them polled twice, while a fourth has a key of its own. -/
def desertedMoves : List (Move Nat Nat Nat) :=
  [.call 7, .call 7, .call 7, .call 8, .poll 0 10, .poll 1 11, .poll 2 12, .poll 3 13, .poll 1 14]

theorem desertedMoves_handOver :
    (run desertedMoves).Leads 0 7 0 ∧
      (run desertedMoves).history.countP (Event.joins 0) < 2 ^ 64 ∧
      wakeUps (desertedMoves ++ [.leave 0]) = [(1, 14), (2, 12)] ∧
      HandsOver desertedMoves 0 7 0 :=
  ⟨rfl, by decide, by decide, (handsOver_run desertedMoves).2 0 7 0 rfl (by decide)⟩

end Traffic

end Cohort.Flight
