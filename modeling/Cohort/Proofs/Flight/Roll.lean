import Mathlib.Data.List.Forall2
import Cohort.Proofs.Flight.Followers
import Cohort.Proofs.Flight.Vigil

/-!
# The roll of a call

Until a call is settled its line is the roll of those who wait: one place for each follower
that was polled and not dropped, in the order in which they have joined, with the waker of
its latest poll. Settling calls all of them, and leaves a call that nobody changes any more.

The order of the line is that of the tickets, and a ticket tells when its holder has
joined. This rests on tickets that were not handed out twice, so it holds while fewer than
2^64 were drawn.
-/

set_option autoImplicit false

namespace Cohort.Call.Vigil

variable {ω ρ : Type} {vigil next : Vigil ω ρ} {act : Act ω ρ} {acts : List (Act ω ρ)}
  {number : Nat} {ticket : UInt64}

/-! ## When a follower has joined -/

/-- The poll that is act number `moment` has left follower `number` waiting. -/
def PendsAt (acts : List (Act ω ρ)) (number moment : Nat) : Prop :=
  ∃ waker ticket, acts[moment]? = some (.poll number waker) ∧
    (run (acts.take moment)).answer? number waker = some (.parked ticket)

/-- Act number `moment` is the first poll that has left follower `number` waiting. -/
structure JoinsAt (acts : List (Act ω ρ)) (number moment : Nat) : Prop where
  pends : PendsAt acts number moment
  first : ∀ earlier < moment, ¬ PendsAt acts number earlier

variable {moment other : Nat} {later : List (Act ω ρ)}

private theorem PendsAt.lt_length (pends : PendsAt acts number moment) : moment < acts.length := by
  obtain ⟨waker, ticket, polled, _⟩ := pends
  exact (List.getElem?_eq_some_iff.mp polled).1

private theorem pendsAt_append_iff (inside : moment < acts.length) :
    PendsAt (acts ++ later) number moment ↔ PendsAt acts number moment := by
  unfold PendsAt
  rw [List.getElem?_append_left inside, List.take_append_of_le_length (Nat.le_of_lt inside)]

private theorem JoinsAt.append (joins : JoinsAt acts number moment) (later : List (Act ω ρ)) :
    JoinsAt (acts ++ later) number moment := by
  have inside := joins.pends.lt_length
  constructor
  · exact (pendsAt_append_iff inside).mpr joins.pends
  · intro earlier before pends
    exact joins.first earlier before ((pendsAt_append_iff (Nat.lt_trans before inside)).mp pends)

private theorem JoinsAt.polled (joins : JoinsAt acts number moment) :
    ∃ waker, Act.poll number waker ∈ acts := by
  obtain ⟨waker, _, polled, _⟩ := joins.pends
  exact ⟨waker, List.mem_of_getElem? polled⟩

/-- What the acts tell of the followers while the call is not settled. -/
structure Enrolled (acts : List (Act ω ρ)) : Prop where
  unpolled : ∀ number, (run acts).followers number = .alive none →
    ∀ waker, Act.poll number waker ∉ acts
  /-- A ticket tells when its holder has joined. -/
  joined : ∀ number ticket, (run acts).followers number = .alive (some ticket) →
    ∃ moment, JoinsAt acts number moment ∧
      (run (acts.take moment)).call.line.drawn = ticket.toNat

private theorem joinsAt_length (found : (run acts).followers number = .alive none)
    (running : (run acts).call.verdict = none) (unpolled : ∀ waker, Act.poll number waker ∉ acts)
    (waker : ω) : JoinsAt (acts ++ [.poll number waker]) number acts.length := by
  constructor
  · refine ⟨waker, ((run acts).call.line.park none waker).1, by simp, ?_⟩
    rw [List.take_left' rfl]
    simp only [answer?, found, poll_of_running running]
  · intro earlier inside pends
    obtain ⟨waker', _, polled, _⟩ := (pendsAt_append_iff inside).mp pends
    exact unpolled waker' (List.mem_of_getElem? polled)

/-- Whoever has no ticket while the call runs was not polled just now either. -/
private theorem Turn.unpolled (turn : vigil.Turn act next) (running : vigil.call.verdict = none)
    (found : next.followers number = .alive none) :
    vigil.followers number = .alive none ∧ ∀ waker, act ≠ .poll number waker := by
  cases turn with
  | stay own gone =>
      refine ⟨found, ?_⟩
      rintro waker rfl
      cases own
      rw [gone] at found
      cases found
  | join | wait =>
      rcases alive_advance_iff.mp found with ⟨_, parked⟩ | ⟨different, before⟩
      · cases parked
      · refine ⟨before, ?_⟩
        rintro waker ⟨⟩
        exact different rfl
  | forgo | depart =>
      rcases alive_advance_iff.mp found with ⟨_, gone⟩ | ⟨_, before⟩
      · cases gone
      · exact ⟨before, by simp⟩
  | learn _ ended =>
      rw [running] at ended
      cases ended
  | settle => exact ⟨found, by simp⟩

/-- A ticket is drawn by the poll that parks a follower first. -/
private theorem Turn.ticket_before (turn : vigil.Turn act next)
    (found : next.followers number = .alive (some ticket)) :
    vigil.followers number = .alive (some ticket) ∨
      vigil.followers number = .alive none ∧ ticket = vigil.call.line.next ∧
        ∃ waker, act = .poll number waker := by
  cases turn with
  | stay _ _ | settle => exact Or.inl found
  | @join one waker idle _ =>
      rcases alive_advance_iff.mp found with ⟨rfl, parked⟩ | ⟨_, before⟩
      · cases parked
        exact Or.inr ⟨idle, by rw [WaitLine.park_eq]; rfl, waker, rfl⟩
      · exact Or.inl before
  | wait waits _ =>
      rcases alive_advance_iff.mp found with ⟨rfl, parked⟩ | ⟨_, before⟩
      · cases parked
        exact Or.inl waits
      · exact Or.inl before
  | learn | forgo | depart =>
      rcases alive_advance_iff.mp found with ⟨_, gone⟩ | ⟨_, before⟩
      · cases gone
      · exact Or.inl before

private theorem Enrolled.append (enrolled : Enrolled acts)
    (running : (run acts).call.verdict = none)
    (few : (run acts).call.line.drawn < 2 ^ 64) (act : Act ω ρ) : Enrolled (acts ++ [act]) := by
  have turn := turn_step (run acts) act
  constructor
  case unpolled =>
    intro number found waker member
    rw [run_append_singleton] at found
    obtain ⟨before, idle⟩ := turn.unpolled running found
    rcases List.mem_append.mp member with earlier | last
    · exact enrolled.unpolled number before waker earlier
    · exact idle waker (List.mem_singleton.mp last).symm
  case joined =>
    intro number ticket found
    rw [run_append_singleton] at found
    rcases turn.ticket_before found with before | ⟨before, rfl, waker, rfl⟩
    · obtain ⟨moment, joins, drawn⟩ := enrolled.joined number ticket before
      refine ⟨moment, joins.append _, ?_⟩
      rw [List.take_append_of_le_length (Nat.le_of_lt joins.pends.lt_length), drawn]
    · refine ⟨acts.length, joinsAt_length before running (enrolled.unpolled number before) waker, ?_⟩
      rw [List.take_left' rfl, WaitLine.toNat_next few]

private theorem enrolled_run (unsettled : Open acts) (few : (run acts).call.line.drawn < 2 ^ 64) :
    Enrolled acts := by
  induction acts using List.reverseRecOn with
  | nil => exact ⟨fun _ _ _ => List.not_mem_nil, fun _ _ found => by cases found⟩
  | append_singleton acts act ih =>
      have few := Nat.lt_of_le_of_lt (drawn_run_append_le acts [act]) few
      have unsettled := unsettled.of_append
      exact (ih unsettled few).append (running_of_open unsettled).1 few act

/-! ## The line of a call that runs -/

/-- The waker that follower `number` was last polled with. -/
def latest (acts : List (Act ω ρ)) (number : Nat) : Option ω :=
  (acts.filterMap (Act.waker? number)).getLast?

private theorem latest_append_singleton (acts : List (Act ω ρ)) (act : Act ω ρ) (number : Nat) :
    latest (acts ++ [act]) number = (act.waker? number).or (latest acts number) := by
  cases polled : act.waker? number <;> simp [latest, polled]

/-- Each place belongs to the one follower that holds its ticket, and has the latest waker of that
follower. -/
structure Placed (vigil : Vigil ω ρ) (latest : Nat → Option ω) : Prop where
  orderly : vigil.call.line.Orderly
  owned : ∀ waiter ∈ vigil.call.line.waiters, ∃ number,
    vigil.followers number = .alive (some waiter.ticket) ∧ latest number = some waiter.waker
  stands : ∀ number ticket, vigil.followers number = .alive (some ticket) →
    ticket ∈ vigil.call.line.tickets
  unique : ∀ one other ticket, vigil.followers one = .alive (some ticket) →
    vigil.followers other = .alive (some ticket) → one = other

variable {past present : Nat → Option ω} {waker : ω}

/-- A follower without a place does something that leaves it without one. -/
private theorem Placed.aside (placed : vigil.Placed past) {follower : Follower}
    (before : ∀ ticket, vigil.followers number ≠ .alive (some ticket))
    (after : ∀ ticket, follower ≠ .alive (some ticket))
    (others : ∀ one, one ≠ number → present one = past one) :
    (vigil.advance number follower vigil.call).Placed present := by
  have same : ∀ one ticket, (vigil.advance number follower vigil.call).followers one =
      .alive (some ticket) ↔ vigil.followers one = .alive (some ticket) := by
    intro one ticket
    rw [alive_advance_iff]
    constructor
    · rintro (⟨_, held⟩ | ⟨_, held⟩)
      · exact absurd held (after ticket)
      · exact held
    · exact fun held => Or.inr ⟨fun same => before ticket (same ▸ held), held⟩
  constructor
  case orderly => exact placed.orderly
  case owned =>
    intro waiter member
    obtain ⟨one, found, recent⟩ := placed.owned waiter member
    have different : one ≠ number := by
      rintro rfl
      exact before _ found
    exact ⟨one, (same one _).mpr found, (others one different).trans recent⟩
  case stands => exact fun one ticket found => placed.stands one ticket ((same one ticket).mp found)
  case unique =>
    intro one other ticket found found'
    exact placed.unique one other ticket ((same one _).mp found) ((same other _).mp found')

private theorem Placed.join (placed : vigil.Placed past)
    (found : vigil.followers number = .alive none) (few : vigil.call.line.drawn < 2 ^ 64)
    (others : ∀ one, one ≠ number → present one = past one)
    (own : present number = some waker) :
    (vigil.advance number (.alive (some (vigil.call.line.park none waker).1))
      { vigil.call with line := (vigil.call.line.park none waker).2 }).Placed present := by
  have absent := placed.orderly.holds_next few
  have fresh := WaitLine.holds_eq_false_iff.mp absent
  have parked := WaitLine.park_none absent waker
  have before {one : Nat} {ticket : UInt64}
      (held : vigil.followers one = .alive (some ticket)) : one ≠ number := by
    rintro rfl
    rw [found] at held
    cases held
  constructor
  case orderly => exact placed.orderly.park_none few waker
  case owned =>
    intro waiter member
    simp only [advance, parked] at member
    rcases List.mem_append.mp member with standing | last
    · obtain ⟨one, held, recent⟩ := placed.owned waiter standing
      exact ⟨one, alive_advance_iff.mpr (Or.inr ⟨before held, held⟩),
        (others one (before held)).trans recent⟩
    · cases List.mem_singleton.mp last
      exact ⟨number, alive_advance_iff.mpr (Or.inl ⟨rfl, by rw [parked]⟩), own⟩
  case stands =>
    intro one ticket held
    rw [parked] at held
    simp only [advance, WaitLine.tickets_park_none absent]
    rcases alive_advance_iff.mp held with ⟨_, drawn⟩ | ⟨_, held⟩
    · cases drawn
      exact List.mem_append_right _ (List.mem_singleton_self _)
    · exact List.mem_append_left _ (placed.stands one ticket held)
  case unique =>
    intro one other ticket held held'
    rw [parked] at held held'
    -- The ticket of the newcomer stands nowhere yet, so nobody else holds it.
    rcases alive_advance_iff.mp held with ⟨rfl, drawn⟩ | ⟨_, earlier⟩ <;>
      rcases alive_advance_iff.mp held' with ⟨rfl, drawn'⟩ | ⟨_, earlier'⟩
    · rfl
    · cases drawn
      exact absurd (placed.stands other _ earlier') fresh
    · cases drawn'
      exact absurd (placed.stands one _ earlier) fresh
    · exact placed.unique one other ticket earlier earlier'

/-- Polling a follower again leaves all places as they are and renews its waker. -/
private theorem Placed.wait (placed : vigil.Placed past)
    (found : vigil.followers number = .alive (some ticket))
    (others : ∀ one, one ≠ number → present one = past one)
    (own : present number = some waker) :
    (vigil.advance number (.alive (some ticket))
      { vigil.call with line := (vigil.call.line.park (some ticket) waker).2 }).Placed
        present := by
  have standing := WaitLine.holds_iff.mpr (placed.stands number ticket found)
  have waiters_eq := placed.orderly.waiters_park_some standing waker
  have unmoved : ∀ one, (vigil.advance number (.alive (some ticket))
      { vigil.call with line := (vigil.call.line.park (some ticket) waker).2 }).followers one =
        vigil.followers one := by
    intro one
    rw [followers_advance]
    split
    · next same => rw [same, found]
    · rfl
  constructor
  case orderly => exact placed.orderly.park_some standing waker
  case owned =>
    intro waiter member
    simp only [advance, waiters_eq] at member
    obtain ⟨before, stood, rfl⟩ := List.mem_map.mp member
    obtain ⟨one, held, recent⟩ := placed.owned before stood
    simp only [unmoved]
    -- The renewed place is the follower's own; any other belongs to somebody who was not polled.
    split
    · next same => exact ⟨number, by rw [found, same], own⟩
    · next different =>
        refine ⟨one, held, (others one ?_).trans recent⟩
        rintro rfl
        rw [found] at held
        cases held
        exact different rfl
  case stands =>
    intro one ticket' held
    rw [unmoved] at held
    simp only [advance, WaitLine.tickets_park_of_holds standing]
    exact placed.stands one ticket' held
  case unique =>
    intro one other ticket' held held'
    rw [unmoved] at held held'
    exact placed.unique one other ticket' held held'

private theorem Placed.depart (placed : vigil.Placed past)
    (found : vigil.followers number = .alive (some ticket))
    (others : ∀ one, one ≠ number → present one = past one) :
    (vigil.advance number .dropped (vigil.call.leave ticket)).Placed present := by
  have stay {one : Nat} {ticket' : UInt64}
      (held : (vigil.advance number .dropped (vigil.call.leave ticket)).followers one =
        .alive (some ticket')) :
      one ≠ number ∧ vigil.followers one = .alive (some ticket') := by
    rcases alive_advance_iff.mp held with ⟨_, gone⟩ | stays
    · cases gone
    · exact stays
  constructor
  case orderly => exact placed.orderly.leave ticket
  case owned =>
    intro waiter member
    obtain ⟨standing, different⟩ := List.mem_filter.mp member
    obtain ⟨one, held, recent⟩ := placed.owned waiter standing
    have apart : one ≠ number := by
      rintro rfl
      rw [found] at held
      cases held
      simp at different
    exact ⟨one, alive_advance_iff.mpr (Or.inr ⟨apart, held⟩), (others one apart).trans recent⟩
  case stands =>
    intro one ticket' held
    obtain ⟨apart, before⟩ := stay held
    have different : ticket' ≠ ticket := by
      rintro rfl
      exact apart (placed.unique one number ticket' before found)
    simp only [advance, leave, WaitLine.tickets_leave, List.mem_filter, decide_eq_true_eq]
    exact ⟨placed.stands one ticket' before, different⟩
  case unique =>
    intro one other ticket' held held'
    exact placed.unique one other ticket' (stay held).2 (stay held').2

/-- What was known of the latest wakers is known still, but for what the act adds. -/
def Updates (act : Act ω ρ) (past present : Nat → Option ω) : Prop :=
  ∀ one, present one = (act.waker? one).or (past one)

private theorem Updates.others {act : Act ω ρ} (updates : Updates act past present)
    (own : act.follower? = some number) : ∀ one, one ≠ number → present one = past one := by
  intro one different
  rw [updates one]
  cases act with
  | poll follower waker =>
      cases own
      simp [Act.waker?, Ne.symm different]
  | drop | settle => rfl

private theorem Updates.poll (updates : Updates (.poll number waker : Act ω ρ) past present) :
    present number = some waker := by
  rw [updates number]
  simp [Act.waker?]

private theorem Placed.turn (placed : vigil.Placed past) (turn : vigil.Turn act next)
    (running : vigil.call.verdict = none) (few : vigil.call.line.drawn < 2 ^ 64)
    (other : ∀ verdict, act ≠ .settle verdict) (updates : Updates act past present) :
    next.Placed present := by
  cases turn with
  | @stay _ number own found =>
      have same : vigil.advance number .dropped vigil.call = vigil := by
        simp [advance, ← found]
      exact same ▸ placed.aside (by simp [found]) (by simp) (updates.others own)
  | join found => exact placed.join found few (updates.others rfl) updates.poll
  | wait found => exact placed.wait found (updates.others rfl) updates.poll
  | learn _ ended =>
      rw [running] at ended
      cases ended
  | forgo found => exact placed.aside (by simp [found]) (by simp) (updates.others rfl)
  | depart found => exact placed.depart found (updates.others rfl)
  | @settle verdict => exact absurd rfl (other verdict)

private theorem placed_run (unsettled : Open acts) (few : (run acts).call.line.drawn < 2 ^ 64) :
    (run acts).Placed (latest acts) := by
  induction acts using List.reverseRecOn with
  | nil =>
      constructor
      case orderly => exact WaitLine.orderly_empty
      case owned => exact fun _ member => absurd member List.not_mem_nil
      case stands => exact fun _ _ found => by cases found
      case unique => exact fun _ _ _ found => by cases found
  | append_singleton acts act ih =>
      have few := Nat.lt_of_le_of_lt (drawn_run_append_le acts [act]) few
      have other := unsettled.ne_settle
      have unsettled := unsettled.of_append
      rw [run_append_singleton]
      exact (ih unsettled few).turn (turn_step _ act) (running_of_open unsettled).1 few other
        (latest_append_singleton acts act)

/-! ## The roll of those who wait -/

/-- Both were left waiting, and the first earlier. -/
def JoinsBefore (acts : List (Act ω ρ)) (one other : Nat) : Prop :=
  ∃ since later, JoinsAt acts one since ∧ JoinsAt acts other later ∧ since < later

/-- The places in the line of the call belong, one each, to the followers that were polled and
not dropped, in the order of their first polls that have left them waiting. -/
structure Roll (acts : List (Act ω ρ)) (order : List Nat) : Prop where
  distinct : order.Nodup
  among : ∀ number, number ∈ order ↔
    Act.drop number ∉ acts ∧ ∃ waker, Act.poll number waker ∈ acts
  sorted : order.Pairwise (JoinsBefore acts)
  /-- A place has the ticket of its follower and the waker of its latest poll. -/
  places : List.Forall₂ (fun number waiter =>
    (run acts).followers number = .alive (some waiter.ticket) ∧
      latest acts number = some waiter.waker) order (run acts).call.line.waiters
  tickets : (run acts).call.line.tickets.Nodup

private theorem JoinsBefore.ne {one : Nat} (before : JoinsBefore acts one other) : one ≠ other := by
  rintro rfl
  obtain ⟨since, later, joins, joins', earlier⟩ := before
  exact joins'.first since earlier joins.pends

/-- Tickets are drawn in the order in which their holders join. -/
private theorem Enrolled.joinsBefore (enrolled : Enrolled acts) {one : Nat} {ticket' : UInt64}
    (found : (run acts).followers one = .alive (some ticket))
    (found' : (run acts).followers other = .alive (some ticket'))
    (before : ticket.toNat < ticket'.toNat) : JoinsBefore acts one other := by
  obtain ⟨since, joins, drawn⟩ := enrolled.joined one ticket found
  obtain ⟨later, joins', drawn'⟩ := enrolled.joined other ticket' found'
  refine ⟨since, later, joins, joins', Nat.lt_of_not_le fun sooner => ?_⟩
  have fewer := drawn_run_take_mono acts sooner
  omega

private theorem Enrolled.waits_iff (enrolled : Enrolled acts) :
    (∃ ticket, (run acts).followers number = .alive (some ticket)) ↔
      Act.drop number ∉ acts ∧ ∃ waker, Act.poll number waker ∈ acts := by
  rw [← dropped_run_iff]
  constructor
  · rintro ⟨ticket, found⟩
    obtain ⟨moment, joins, _⟩ := enrolled.joined number ticket found
    exact ⟨by simp [found], joins.polled⟩
  · rintro ⟨alive, waker, polled⟩
    cases found : (run acts).followers number with
    | dropped => exact absurd found alive
    | alive held =>
        cases held with
        | none => exact absurd polled (enrolled.unpolled number found waker)
        | some ticket => exact ⟨ticket, rfl⟩

private theorem exists_roll (unsettled : Open acts) (few : (run acts).call.line.drawn < 2 ^ 64) :
    ∃ order, Roll acts order := by
  have enrolled := enrolled_run unsettled few
  have placed := placed_run unsettled few
  have owned : ∀ waiter, ∃ number, waiter ∈ (run acts).call.line.waiters →
      (run acts).followers number = .alive (some waiter.ticket) ∧
        latest acts number = some waiter.waker := by
    intro waiter
    by_cases member : waiter ∈ (run acts).call.line.waiters
    · obtain ⟨number, place⟩ := placed.owned waiter member
      exact ⟨number, fun _ => place⟩
    · exact ⟨0, fun standing => absurd standing member⟩
  -- The order is read off the line: each place by the follower that holds its ticket.
  choose owner place using owned
  have ascending := placed.orderly.ascending
  rw [WaitLine.tickets, List.pairwise_map] at ascending
  have sorted : ((run acts).call.line.waiters.map owner).Pairwise (JoinsBefore acts) := by
    refine List.pairwise_map.mpr (ascending.imp_of_mem fun {front behind} ahead after before => ?_)
    exact enrolled.joinsBefore (place front ahead).1 (place behind after).1 before
  refine ⟨(run acts).call.line.waiters.map owner, ?_⟩
  constructor
  case distinct => exact sorted.imp fun before => before.ne
  case among =>
    intro number
    rw [← enrolled.waits_iff, List.mem_map]
    constructor
    · rintro ⟨waiter, member, rfl⟩
      exact ⟨waiter.ticket, (place waiter member).1⟩
    · rintro ⟨ticket, found⟩
      obtain ⟨waiter, member, rfl⟩ := List.mem_map.mp (placed.stands number ticket found)
      exact ⟨waiter, member, placed.unique _ _ _ (place waiter member).1 found⟩
  case sorted => exact sorted
  case places =>
    rw [List.forall₂_map_left_iff, List.forall₂_same]
    exact place
  case tickets => exact placed.orderly.nodup

/-! ## After the call is settled -/

/-- The call has ended with `verdict`, and nobody stands in its line. -/
structure Ended (vigil : Vigil ω ρ) (verdict : Verdict ρ) : Prop where
  verdict_eq : vigil.call.verdict = some verdict
  empty : vigil.call.line.waiters = []

private theorem ended_settle (vigil : Vigil ω ρ) (verdict : Verdict ρ) :
    (vigil.step (.settle verdict)).Ended verdict :=
  ⟨rfl, rfl⟩

/-- Polls and drops leave a call that has ended as it is, and call nobody. -/
private theorem Ended.turn {verdict : Verdict ρ} (ended : vigil.Ended verdict)
    (turn : vigil.Turn act next) (other : ∀ verdict, act ≠ .settle verdict) :
    next.call = vigil.call ∧ next.called = vigil.called := by
  cases turn with
  | stay | learn | forgo => exact ⟨rfl, rfl⟩
  | join _ running | wait _ running =>
      rw [ended.verdict_eq] at running
      cases running
  | depart => exact ⟨leave_of_empty ended.empty _, rfl⟩
  | @settle verdict => exact absurd rfl (other verdict)

private theorem run_after_settle (before : List (Act ω ρ)) (verdict : Verdict ρ)
    {after : List (Act ω ρ)} (unsettled : Open after) :
    (run (before ++ .settle verdict :: after)).call =
        (run (before ++ [.settle verdict])).call ∧
      (run (before ++ .settle verdict :: after)).called =
        (run (before ++ [.settle verdict])).called := by
  induction after using List.reverseRecOn with
  | nil => exact ⟨rfl, rfl⟩
  | append_singleton after act ih =>
      obtain ⟨call_eq, called_eq⟩ := ih unsettled.of_append
      have ended := ended_settle (run before) verdict
      rw [← run_append_singleton] at ended
      have still : (run (before ++ .settle verdict :: after)).Ended verdict :=
        ⟨call_eq ▸ ended.verdict_eq, call_eq ▸ ended.empty⟩
      have same := still.turn (turn_step _ act) unsettled.ne_settle
      rw [← List.cons_append, ← List.append_assoc, run_append_singleton, same.1, same.2]
      exact ⟨call_eq, called_eq⟩

private theorem ended_run (before : List (Act ω ρ)) (verdict : Verdict ρ) {after : List (Act ω ρ)}
    (unsettled : Open after) : (run (before ++ .settle verdict :: after)).Ended verdict := by
  have same := (run_after_settle before verdict unsettled).1
  rw [run_append_singleton] at same
  exact ⟨same ▸ (ended_settle _ verdict).verdict_eq, same ▸ (ended_settle _ verdict).empty⟩

private theorem answer?_of_running (running : vigil.call.verdict = none)
    (alive : vigil.followers number ≠ .dropped) (waker : ω) :
    ∃ ticket, vigil.answer? number waker = some (.parked ticket) := by
  cases found : vigil.followers number with
  | dropped => exact absurd found alive
  | alive held =>
      refine ⟨(vigil.call.line.park held waker).1, ?_⟩
      simp only [answer?, found, poll_of_running running]

private theorem answer?_of_ended {verdict : Verdict ρ} (ended : vigil.call.verdict = some verdict)
    (alive : vigil.followers number ≠ .dropped) (waker : ω) :
    vigil.answer? number waker = some (.settled verdict) := by
  cases found : vigil.followers number with
  | dropped => exact absurd found alive
  | alive held => simp only [answer?, found, poll_of_ended ended]

/-! ## The whole of a vigil -/

/-- The line of the call is that of its followers, and settling makes an end of it. -/
structure Kept (acts : List (Act ω ρ)) : Prop where
  /-- While the call is not settled its line is the roll of those who wait, and nobody is
  called. -/
  waiting : Open acts → (∃ order, Roll acts order) ∧ (run acts).called = []
  /-- Until then whoever is polled is left waiting. -/
  pending : Open acts → ∀ number waker, Act.drop number ∉ acts →
    ∃ ticket, (run acts).answer? number waker = some (.parked ticket)
  /-- Those who stand in the line when it is settled are called, each once, in the order of the
  roll. Nobody is called later. -/
  woken : ∀ before verdict after, acts = before ++ .settle verdict :: after →
    (∃ order, Roll before order) ∧
      (run acts).called = (run before).call.line.waiters.map Waiter.waker
  /-- From then on the line stays empty, and polls and drops leave no trace in the call. -/
  closed : ∀ before verdict after, acts = before ++ .settle verdict :: after →
    (run acts).call.line.waiters = [] ∧ (run acts).call = (run (before ++ [.settle verdict])).call
  /-- Whoever is polled from then on is told how the call has ended. -/
  told : ∀ before verdict after, acts = before ++ .settle verdict :: after →
    ∀ number waker, Act.drop number ∉ acts →
      (run acts).answer? number waker = some (.settled verdict)

private theorem open_of_countP (none_settles : acts.countP Act.isSettle = 0) : Open acts := by
  intro verdict member
  exact List.countP_eq_zero.mp none_settles _ member rfl

/-- If a call is settled at most once, it is open before and after. -/
private theorem open_of_split {before after : List (Act ω ρ)} {verdict : Verdict ρ}
    (once : (before ++ .settle verdict :: after).countP Act.isSettle ≤ 1) :
    Open before ∧ Open after := by
  have settles : Act.isSettle (.settle verdict : Act ω ρ) = true := rfl
  rw [List.countP_append, List.countP_cons, if_pos settles] at once
  exact ⟨open_of_countP (by omega), open_of_countP (by omega)⟩

/-- Whatever happens to a call and its followers, its line is kept, provided that fewer than 2^64
tickets are drawn. -/
theorem kept_run (acts : List (Act ω ρ)) (once : acts.countP Act.isSettle ≤ 1)
    (few : (run acts).call.line.drawn < 2 ^ 64) : Kept acts := by
  constructor
  case waiting =>
    exact fun unsettled => ⟨exists_roll unsettled few, (running_of_open unsettled).2⟩
  case pending =>
    intro unsettled number waker alive
    exact answer?_of_running (running_of_open unsettled).1
      (fun gone => alive (dropped_run_iff.mp gone)) waker
  case woken =>
    rintro before verdict after rfl
    obtain ⟨open_before, open_after⟩ := open_of_split once
    have few := Nat.lt_of_le_of_lt (drawn_run_append_le before _) few
    refine ⟨exists_roll open_before few, ?_⟩
    rw [(run_after_settle before verdict open_after).2, run_append_singleton, step,
      (running_of_open open_before).2]
    rfl
  case closed =>
    rintro before verdict after rfl
    have open_after := (open_of_split once).2
    exact ⟨(ended_run before verdict open_after).empty,
      (run_after_settle before verdict open_after).1⟩
  case told =>
    rintro before verdict after rfl number waker alive
    exact answer?_of_ended (ended_run before verdict (open_of_split once).2).verdict_eq
      (fun gone => alive (dropped_run_iff.mp gone)) waker

/-- Followers 0 to 3 line up, one is polled again and one is dropped. Once the call is settled
another is dropped without having been told, a newcomer is polled, and one is polled twice. -/
def livelyActs : List (Act Nat Nat) :=
  [.poll 2 7, .poll 0 8, .poll 1 9, .poll 2 17, .drop 0, .poll 3 6, .settle (.done 5), .poll 3 1,
    .drop 1, .poll 4 2, .poll 3 3]

theorem livelyActs_kept :
    livelyActs.countP Act.isSettle ≤ 1 ∧ (run livelyActs).call.line.drawn < 2 ^ 64 ∧
      (run (livelyActs.take 6)).call.line.waiters = [⟨0, 17⟩, ⟨2, 9⟩, ⟨3, 6⟩] ∧
      (run livelyActs).called = [17, 9, 6] ∧ Kept livelyActs := by
  have once : livelyActs.countP Act.isSettle ≤ 1 := by decide
  have few : (run livelyActs).call.line.drawn < 2 ^ 64 := by decide
  exact ⟨once, few, by decide, by decide, kept_run livelyActs once few⟩

end Cohort.Call.Vigil
