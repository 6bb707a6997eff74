import Mathlib.Data.List.Forall2
import Cohort.Proofs.Limit.Cancellation

/-!
# Whose place is whose

The line of a limit holds one place for each borrow that waits, in the order in which they have
joined it, with the waker of the latest poll. Whoever is called was in front, and is called once
for each time that it joins. A borrow keeps its ticket when it is called, so the ticket alone does
not tell whether it stands in the line; but no ticket ever passes to another borrow.
-/

set_option autoImplicit false

namespace Cohort.Limit.Usage

variable {ω : Type} {limit : Limit ω} {usage next : Usage ω} {use : Use ω} {called : Option ω}
  {number other : Nat} {waker : ω} {waiter : Waiter ω} {ticket : UInt64} {entry : Nat}
  {uses : List (Use ω)}

/-! ## What a use does -/

/-- The use is not made of a borrow that could still be served. -/
def spares (usage : Usage ω) (use : Use ω) : Bool :=
  use.number?.all fun number => usage.borrows[number]?.all fun borrow => borrow.phase.isOver

/-- All that one use can do to the phases of the borrows and to the line, and whose waker it
hands over. -/
inductive Does (usage next : Usage ω) : Use ω → Option ω → Prop where
  | rests {use : Use ω} : usage.spares use = true → next.phases = usage.phases →
      Does usage next use none
  | begins {guarded : Bool} : next.phases = usage.phases ++ [.idle] →
      Does usage next (.borrow guarded) none
  | parks {number : Nat} {waker : ω} {borrow : Borrow ω} {entry : Nat} :
      usage.borrows[number]? = some borrow → borrow.phase.isOver = false →
      usage.limit.available = 0 →
      next.phases = usage.phases.set number
        (.parked (usage.limit.line.park borrow.phase.ticket? waker).1 waker entry) →
      Does usage next (.poll number waker) none
  | takes {number : Nat} {waker : ω} {borrow : Borrow ω} :
      usage.borrows[number]? = some borrow → 0 < usage.limit.available →
      next.phases = usage.phases.set number .taken → Does usage next (.poll number waker) none
  | leaves {number : Nat} {borrow : Borrow ω} : usage.borrows[number]? = some borrow →
      next.phases = usage.phases.set number .dropped → Does usage next (.drop number) none
  /-- A borrow is dropped that was called before, and the call goes on to whoever is in front. -/
  | passes {number : Nat} {borrow : Borrow ω} {ticket : UInt64} :
      usage.borrows[number]? = some borrow → borrow.phase.ticket? = some ticket →
      usage.limit.line.holds ticket = false →
      next.phases = Phase.wakeFront usage.limit.line (usage.phases.set number .dropped) →
      next.limit.line.waiters = usage.limit.line.waiters.tail →
      Does usage next (.drop number) (usage.limit.line.waiters.head?.map Waiter.waker)
  /-- A token is given back, by hand or by a guard. -/
  | gives {use : Use ω} : use.number? = none →
      next.phases = Phase.wakeFront usage.limit.line usage.phases →
      next.limit.line.waiters = usage.limit.line.waiters.tail →
      Does usage next use (usage.limit.line.waiters.head?.map Waiter.waker)

private theorem fst_handOver_wakeNext (usage : Usage ω) (changed : Limit ω)
    (same : changed.line = usage.limit.line) :
    (usage.handOver changed.wakeNext).1 = usage.limit.line.waiters.head?.map Waiter.waker := by
  cases waiters : usage.limit.line.waiters with
  | nil => rw [handOver_of_nil same waiters]; rfl
  | cons front behind => rw [handOver_of_cons same waiters]; rfl

private theorem does_poll {borrow : Borrow ω} (found : usage.borrows[number]? = some borrow)
    (waiting : borrow.phase.isOver = false) (waker : ω) :
    Does usage (usage.poll number borrow waker) (.poll number waker) none := by
  rcases Nat.eq_zero_or_pos usage.limit.available with spent | stocked
  · simp only [poll, poll_of_eq_zero spent]
    exact .parks found waiting spent (phases_setPhase ..)
  · simp only [poll, poll_of_pos stocked]
    refine .takes found stocked ?_
    rw [phases_guardIf, phases_setPhase]
    rfl

private theorem does_drop {borrow : Borrow ω} (found : usage.borrows[number]? = some borrow) :
    Does usage (usage.drop number borrow).2 (.drop number) (usage.drop number borrow).1 := by
  unfold Usage.drop
  cases held : borrow.phase.ticket? with
  | none => exact .leaves found (phases_setPhase ..)
  | some ticket =>
      cases standing : usage.limit.line.holds ticket with
      | true =>
          simp only [cancel_of_holds standing]
          exact .leaves found (phases_setPhase ..)
      | false =>
          let dropped := usage.setPhase number borrow .dropped
          obtain ⟨limit_eq, phases_eq, _⟩ := dropped.handOver_wakeNext usage.limit rfl
          simp only [cancel_of_not_holds standing]
          rw [fst_handOver_wakeNext dropped usage.limit rfl]
          refine .passes found held standing ?_ ?_
          · rw [phases_eq, phases_setPhase]
            rfl
          · rw [limit_eq, waiters_wakeNext]

private theorem does_putBack (foreign : use.number? = none) (same : next.limit = usage.limit)
    (alike : next.phases = usage.phases) :
    Does usage next.putBack.2 use next.putBack.1 := by
  rcases Nat.lt_or_ge next.limit.available next.limit.capacity with room | full
  · let stocked : Limit ω := { next.limit with available := next.limit.available + 1 }
    obtain ⟨limit_eq, phases_eq, _⟩ := next.handOver_wakeNext stocked rfl
    have called := fst_handOver_wakeNext next stocked rfl
    rw [same] at called phases_eq
    rw [alike] at phases_eq
    simp only [putBack, putBack_of_lt room]
    rw [called]
    exact .gives foreign phases_eq (by rw [limit_eq, waiters_wakeNext, ← same])
  · rw [putBack_of_full full]
    exact .rests (by simp [spares, foreign]) alike

private theorem does_step (usage : Usage ω) (use : Use ω) :
    Does usage (usage.step use).2 use (usage.step use).1 := by
  cases use with
  | borrow guarded => exact .begins (by simp [step, phases])
  | poll number waker =>
      cases found : usage.borrows[number]? with
      | none =>
          simp only [step, found]
          exact .rests (by simp [spares, Use.number?, found]) rfl
      | some borrow =>
          cases ended : borrow.phase.isOver with
          | true =>
              simp only [step, found, ended]
              exact .rests (by simp [spares, Use.number?, found, ended]) rfl
          | false =>
              simp only [step, found, ended]
              exact does_poll found ended waker
  | drop number =>
      cases found : usage.borrows[number]? with
      | none =>
          simp only [step, found]
          exact .rests (by simp [spares, Use.number?, found]) rfl
      | some borrow =>
          cases ended : borrow.phase.isOver with
          | true =>
              simp only [step, found, ended]
              exact .rests (by simp [spares, Use.number?, found, ended]) rfl
          | false =>
              simp only [step, found, ended]
              exact does_drop found
  | tryBorrow guarded =>
      rcases Nat.eq_zero_or_pos usage.limit.available with spent | stocked
      · simp only [step, take?_of_eq_zero spent]
        exact .rests rfl rfl
      · simp only [step, take?_of_pos stocked]
        exact .rests rfl (phases_guardIf ..)
  | giveBack => exact does_putBack rfl rfl rfl
  | release =>
      cases held : usage.guards with
      | zero =>
          simp only [step, held]
          exact .rests rfl rfl
      | succ guards =>
          simp only [step, held]
          exact does_putBack rfl rfl rfl

/-! ## Who is called -/

/-- The ticket that a borrow holds, whether it stands in the line or was called. -/
def ticketOf? (usage : Usage ω) (number : Nat) : Option UInt64 :=
  usage.phases[number]?.bind Phase.ticket?

/-- The use takes borrow `number` out of the front of the line, and hands over the waker that
was left there. -/
def Calls (usage : Usage ω) (use : Use ω) (number : Nat) : Prop :=
  ∃ front behind, usage.limit.line.waiters = front :: behind ∧
    (usage.step use).1 = some front.waker ∧ (usage.step use).2.limit.line.waiters = behind ∧
    usage.ticketOf? number = some front.ticket

private theorem not_calls_of_silent (silent : (usage.step use).1 = none) :
    ¬ usage.Calls use number := by
  rintro ⟨_, _, _, called, _⟩
  rw [silent] at called
  cases called

/-- A waker is handed over only for whoever stands in front, which leaves the line. -/
private theorem step_called (called : (usage.step use).1 = some waker) :
    ∃ front behind, usage.limit.line.waiters = front :: behind ∧ front.waker = waker ∧
      (usage.step use).2.limit.line.waiters = behind := by
  have does := usage.does_step use
  generalize (usage.step use).1 = result at does called
  generalize (usage.step use).2 = next at does ⊢
  cases does with
  | rests | begins | parks | takes | leaves => cases called
  | passes _ _ _ _ rest | gives _ _ rest =>
      cases waiters : usage.limit.line.waiters with
      | nil =>
          rw [waiters] at called
          cases called
      | cons front behind =>
          rw [waiters] at called rest
          exact ⟨front, behind, rfl, Option.some.inj called, rest⟩

/-- Dropping a borrow calls others, never itself. -/
private theorem number?_ne_of_calls (calls : usage.Calls use number) :
    use.number? ≠ some number := by
  obtain ⟨front, behind, waiters, called, _, held⟩ := calls
  intro own
  have does := usage.does_step use
  rw [called] at does
  generalize handed : some front.waker = result at does
  cases does with
  | rests | begins | parks | takes | leaves => cases handed
  | gives foreign =>
      rw [foreign] at own
      cases own
  | @passes _ borrow ticket found held' gone =>
      cases own
      have same : ticket = front.ticket := by simpa [ticketOf?, phases, found, held'] using held
      have stands : usage.limit.line.holds ticket = true :=
        WaitLine.holds_iff.mpr (by simp [WaitLine.tickets, waiters, same])
      rw [gone] at stands
      cases stands

private theorem getElem?_wakeFront (line : WaitLine ω) (phases : List (Phase ω)) (number : Nat) :
    (Phase.wakeFront line phases)[number]? = phases[number]?.map fun phase =>
      match line.waiters with
      | [] => phase
      | front :: _ => phase.wake front.ticket := by
  unfold Phase.wakeFront
  cases line.waiters with
  | nil => simp
  | cons front behind => rw [List.getElem?_map]

private theorem wake_eq_parked_iff {front : UInt64} {phase : Phase ω} :
    phase.wake front = .parked ticket waker entry ↔
      phase = .parked ticket waker entry ∧ ticket ≠ front := by
  cases phase with
  | parked ticket' waker' entry' =>
      by_cases foremost : ticket' = front
      · simp only [Phase.wake, if_pos foremost, Phase.parked.injEq, reduceCtorEq, false_iff]
        rintro ⟨⟨rfl, _, _⟩, different⟩
        exact different foremost
      · simp only [Phase.wake, if_neg foremost, Phase.parked.injEq, iff_self_and]
        rintro ⟨rfl, _, _⟩
        exact foremost
  | idle | woken _ | taken | dropped => simp [Phase.wake]

/-- A wake-up that goes out to the front of the line leaves everybody else there. -/
private theorem parks_wakeFront_iff {former : List (Phase ω)}
    (same : former[number]? = usage.phases[number]?)
    (phases : next.phases = Phase.wakeFront usage.limit.line former)
    (rest : next.limit.line.waiters = usage.limit.line.waiters.tail) :
    next.Parks number waiter entry ↔ usage.Parks number waiter entry ∧
      ¬ ∃ front behind, usage.limit.line.waiters = front :: behind ∧
        usage.limit.line.waiters.head?.map Waiter.waker = some front.waker ∧
        next.limit.line.waiters = behind ∧ usage.ticketOf? number = some front.ticket := by
  unfold Parks ticketOf?
  rw [phases, getElem?_wakeFront, same, rest]
  cases waiters : usage.limit.line.waiters with
  | nil => simp
  | cons front behind =>
      simp only [Option.map_eq_some_iff, wake_eq_parked_iff]
      constructor
      · rintro ⟨phase, found, rfl, different⟩
        refine ⟨found, ?_⟩
        rintro ⟨front', behind', split, _, _, held⟩
        cases split
        rw [found] at held
        exact different (Option.some.inj held)
      · rintro ⟨found, spared⟩
        refine ⟨_, found, rfl, fun foremost => spared ⟨front, behind, rfl, ⟨front, rfl, rfl⟩, rfl, ?_⟩⟩
        rw [found, ← foremost]
        rfl

/-- What is not done to a borrow itself leaves it in its place, unless it is called. -/
private theorem parks_step_iff (foreign : use.number? ≠ some number) :
    (usage.step use).2.Parks number waiter entry ↔
      usage.Parks number waiter entry ∧ ¬ usage.Calls use number := by
  have does := usage.does_step use
  have silent := @not_calls_of_silent _ usage use number
  unfold Calls at silent ⊢
  generalize (usage.step use).1 = result at does silent ⊢
  generalize (usage.step use).2 = next at does silent ⊢
  have apart {number' : Nat} {phase : Phase ω} (different : some number' ≠ some number)
      (set : next.phases = usage.phases.set number' phase) :
      next.Parks number waiter entry ↔ usage.Parks number waiter entry := by
    unfold Parks
    rw [set, List.getElem?_set_ne fun same => different (congrArg some same)]
  cases does with
  | rests _ same =>
      unfold Parks
      rw [same, and_iff_left (silent rfl)]
  | begins grown =>
      unfold Parks
      rw [grown, and_iff_left (silent rfl), List.getElem?_append]
      split
      · rfl
      · next beyond =>
          rw [List.getElem?_eq_none (Nat.le_of_not_lt beyond)]
          simp [List.getElem?_singleton]
  | parks _ _ _ set | takes _ _ set | leaves _ set =>
      rw [and_iff_left (silent rfl)]
      exact apart foreign set
  | passes _ _ _ phases rest =>
      refine parks_wakeFront_iff ?_ phases rest
      exact List.getElem?_set_ne fun same => foreign (congrArg some same)
  | gives _ phases rest => exact parks_wakeFront_iff rfl phases rest

/-! ## Who waits -/

/-- The latest poll of borrow `number` came with `waker` and did not complete it, and since then
it was neither dropped nor called. -/
inductive Waits (limit : Limit ω) (number : Nat) : List (Use ω) → ω → Prop where
  | polled {uses : List (Use ω)} {waker : ω} {borrow : Borrow ω} :
      (run limit uses).borrows[number]? = some borrow → borrow.phase.isOver = false →
      ((run limit uses).limit.poll borrow.phase.ticket? waker).1 ≠ .taken →
      Waits limit number (uses ++ [.poll number waker]) waker
  | stays {uses : List (Use ω)} {use : Use ω} {waker : ω} : Waits limit number uses waker →
      use.number? ≠ some number → ¬ (run limit uses).Calls use number →
      Waits limit number (uses ++ [use]) waker

private theorem stays_of_waits (waits : Waits limit number (uses ++ [use]) waker)
    (foreign : use.number? ≠ some number) :
    Waits limit number uses waker ∧ ¬ (run limit uses).Calls use number := by
  generalize all : uses ++ [use] = whole at waits
  cases waits with
  | polled =>
      obtain ⟨_, rfl⟩ := List.append_singleton_inj.mp all
      exact absurd rfl foreign
  | stays before _ spared =>
      obtain ⟨rfl, rfl⟩ := List.append_singleton_inj.mp all
      exact ⟨before, spared⟩

private theorem polled_of_waits (waits : Waits limit number (uses ++ [use]) waker)
    (own : use.number? = some number) :
    use = .poll number waker ∧ ∃ borrow, (run limit uses).borrows[number]? = some borrow ∧
      borrow.phase.isOver = false ∧
      ((run limit uses).limit.poll borrow.phase.ticket? waker).1 ≠ .taken := by
  generalize all : uses ++ [use] = whole at waits
  cases waits with
  | polled found waiting missed =>
      obtain ⟨rfl, rfl⟩ := List.append_singleton_inj.mp all
      exact ⟨rfl, _, found, waiting, missed⟩
  | stays _ foreign =>
      obtain ⟨_, rfl⟩ := List.append_singleton_inj.mp all
      exact absurd own foreign

private theorem parks_of_missed {borrow : Borrow ω} (found : usage.borrows[number]? = some borrow)
    (waiting : borrow.phase.isOver = false)
    (missed : (usage.limit.poll borrow.phase.ticket? waker).1 ≠ .taken) :
    ∃ ticket entry, (usage.step (.poll number waker)).2.Parks number ⟨ticket, waker⟩ entry := by
  have spent : usage.limit.available = 0 := by
    refine Nat.eq_zero_of_not_pos fun stocked => missed ?_
    exact (poll_eq_taken_iff _ _).mpr stocked
  have does := usage.does_step (.poll number waker)
  generalize (usage.step (.poll number waker)).1 = result at does
  generalize (usage.step (.poll number waker)).2 = next at does ⊢
  cases does with
  | rests idle => simp [spares, Use.number?, found, waiting] at idle
  | parks _ _ _ set => exact ⟨_, _, set ▸ getElem?_phases_set found _⟩
  | takes _ stocked => exact absurd stocked (Nat.not_lt_of_le (Nat.le_of_eq spent))
  | gives foreign => cases foreign

/-- Whoever is parked after a use of its own was polled, and found no token. -/
theorem missed_of_parks (own : use.number? = some number)
    (parks : (usage.step use).2.Parks number waiter entry) :
    use = .poll number waiter.waker ∧ ∃ borrow, usage.borrows[number]? = some borrow ∧
      borrow.phase.isOver = false ∧
      (usage.limit.poll borrow.phase.ticket? waiter.waker).1 ≠ .taken := by
  have does := usage.does_step use
  generalize (usage.step use).1 = result at does
  generalize (usage.step use).2 = next at does parks
  unfold Parks at parks
  cases does with
  | rests idle same =>
      rw [same, phases, List.getElem?_map] at parks
      obtain ⟨borrow, found, phase⟩ := Option.map_eq_some_iff.mp parks
      simp [spares, own, found, phase, Phase.isOver] at idle
  | begins => cases own
  | @parks _ _ borrow _ found waiting spent set =>
      cases own
      rw [set, getElem?_phases_set found] at parks
      obtain ⟨_, rfl, _⟩ := Phase.parked.inj (Option.some.inj parks)
      refine ⟨rfl, borrow, found, waiting, ?_⟩
      rw [poll_of_eq_zero spent]
      simp
  | takes found _ set | leaves found set =>
      cases own
      rw [set, getElem?_phases_set found] at parks
      cases parks
  | passes found _ _ phases =>
      cases own
      rw [phases, getElem?_wakeFront, getElem?_phases_set found] at parks
      cases waiters : usage.limit.line.waiters <;> simp [waiters, Phase.wake] at parks
  | gives foreign =>
      rw [foreign] at own
      cases own

/-- Of whom the record says that it is parked, with a waker, it is true. -/
theorem waits_iff :
    Waits limit number uses waker ↔
      ∃ ticket entry, (run limit uses).Parks number ⟨ticket, waker⟩ entry := by
  induction uses using List.reverseRecOn with
  | nil =>
      constructor
      · intro waits
        generalize none : [] = whole at waits
        cases waits <;> simp at none
      · rintro ⟨ticket, entry, parks⟩
        simp [run, Parks, phases] at parks
  | append_singleton uses use ih =>
      rw [run_append_singleton]
      by_cases own : use.number? = some number
      · constructor
        · intro waits
          obtain ⟨rfl, borrow, found, waiting, missed⟩ := polled_of_waits waits own
          exact parks_of_missed found waiting missed
        · rintro ⟨ticket, entry, parks⟩
          obtain ⟨rfl, borrow, found, waiting, missed⟩ := missed_of_parks own parks
          exact .polled found waiting missed
      · constructor
        · intro waits
          obtain ⟨before, spared⟩ := stays_of_waits waits own
          obtain ⟨ticket, entry, parks⟩ := ih.mp before
          exact ⟨ticket, entry, (parks_step_iff own).mpr ⟨parks, spared⟩⟩
        · rintro ⟨ticket, entry, parks⟩
          obtain ⟨before, spared⟩ := (parks_step_iff own).mp parks
          exact .stays (ih.mpr ⟨ticket, entry, before⟩) own spared

/-! ## Whose ticket it is -/

private theorem ticketOf?_of_parks (parks : usage.Parks number waiter entry) :
    usage.ticketOf? number = some waiter.ticket := by
  rw [ticketOf?, parks]
  rfl

private theorem ticketOf?_of_found {borrow : Borrow ω}
    (found : usage.borrows[number]? = some borrow) :
    usage.ticketOf? number = borrow.phase.ticket? := by
  rw [ticketOf?, phases, List.getElem?_map, found]
  rfl

private theorem bind_ticket?_wakeFront (line : WaitLine ω) (phases : List (Phase ω))
    (number : Nat) :
    (Phase.wakeFront line phases)[number]?.bind Phase.ticket? =
      phases[number]?.bind Phase.ticket? := by
  rw [getElem?_wakeFront]
  cases phases[number]? with
  | none => rfl
  | some phase => cases line.waiters <;> simp

private theorem bind_ticket?_set {phase : Phase ω} {former : List (Phase ω)}
    (ticketless : phase.ticket? = none)
    (held : (former.set other phase)[number]?.bind Phase.ticket? = some ticket) :
    former[number]?.bind Phase.ticket? = some ticket := by
  by_cases same : other = number
  · subst same
    obtain ⟨entered, found, held⟩ := Option.bind_eq_some_iff.mp held
    obtain ⟨inside, selected⟩ := List.getElem?_eq_some_iff.mp found
    rw [List.getElem_set_self] at selected
    rw [← selected, ticketless] at held
    cases held
  · rwa [List.getElem?_set_ne same] at held

/-- Whoever holds a ticket after a use has held it before, or it is a new one. -/
private theorem Sound.held_before_step (sound : usage.Sound)
    (held : (usage.step use).2.ticketOf? number = some ticket) :
    usage.drawn ≤ ticket.toNat ∨ usage.ticketOf? number = some ticket := by
  have serves := sound.vigilant.serves
  have does := usage.does_step use
  generalize (usage.step use).1 = result at does
  generalize (usage.step use).2 = next at does held
  unfold ticketOf? at held ⊢
  cases does with
  | rests _ same => exact Or.inr (same ▸ held)
  | begins grown =>
      rw [grown, List.getElem?_append] at held
      split at held
      · exact Or.inr held
      · cases absent : [(Phase.idle : Phase ω)][number - usage.phases.length]? with
        | none => simp [absent] at held
        | some phase =>
            obtain rfl := List.mem_singleton.mp (List.mem_of_getElem? absent)
            simp [absent, Phase.ticket?] at held
  | @parks one _ borrow _ found _ _ set =>
      rw [set] at held
      by_cases same : one = number
      · subst same
        rw [getElem?_phases_set found] at held
        have there : usage.phases[one]? = some borrow.phase := by simp [phases, found]
        rw [there]
        cases former : borrow.phase.ticket? with
        | none =>
            rw [former, WaitLine.park_none serves.holds_next] at held
            cases held
            exact Or.inl (Nat.le_of_eq serves.toNat_next.symm)
        | some _ =>
            rw [former] at held
            simp only [WaitLine.fst_park_some] at held
            cases held
            exact Or.inr former
      · rw [List.getElem?_set_ne same] at held
        exact Or.inr held
  | takes _ _ set | leaves _ set => exact Or.inr (bind_ticket?_set rfl (set ▸ held))
  | passes _ _ _ phases =>
      rw [phases, bind_ticket?_wakeFront] at held
      exact Or.inr (bind_ticket?_set rfl held)
  | gives _ phases =>
      rw [phases, bind_ticket?_wakeFront] at held
      exact Or.inr held

/-- No ticket passes from one borrow to another. -/
theorem held_before {capacity : Nat} (made : ofCapacity? capacity = some limit)
    (few : (run limit uses).drawn < 2 ^ 64) {moment : Nat}
    (issued : ticket.toNat < (run limit (uses.take moment)).drawn)
    (held : (run limit uses).ticketOf? number = some ticket) :
    (run limit (uses.take moment)).ticketOf? number = some ticket := by
  induction uses using List.reverseRecOn with
  | nil => rwa [List.take_nil]
  | append_singleton uses use ih =>
      rcases Nat.lt_or_ge uses.length moment with last | inside
      · rwa [List.take_of_length_le (by rw [List.length_append]; exact last)]
      · rw [List.take_append_of_le_length inside] at issued ⊢
        have before := Nat.lt_of_le_of_lt (drawn_run_append_le limit uses use) few
        rw [run_append_singleton] at held
        rcases (sound_run made uses before).held_before_step held with new | held
        · have later : (run limit (uses.take moment)).drawn ≤ (run limit uses).drawn :=
            drawn_take_le uses moment
          omega
        · exact ih before issued held

private theorem Sound.eq_of_ticketOf? (sound : usage.Sound)
    (held : usage.ticketOf? number = some ticket)
    (held' : usage.ticketOf? other = some ticket) : other = number := by
  obtain ⟨phase, found, held⟩ := Option.bind_eq_some_iff.mp held
  obtain ⟨phase', found', held'⟩ := Option.bind_eq_some_iff.mp held'
  exact sound.eq_of_ticket? found found' held held'

private theorem Sound.toNat_lt_of_ticketOf? (sound : usage.Sound)
    (held : usage.ticketOf? number = some ticket) : ticket.toNat < usage.drawn := by
  obtain ⟨phase, found, held⟩ := Option.bind_eq_some_iff.mp held
  have member := List.mem_filterMap.mpr ⟨phase, List.mem_of_getElem? found, held⟩
  exact sound.vigilant.serves.toNat_lt ticket member

private theorem Sound.exists_ticketOf? (sound : usage.Sound)
    (standing : ticket ∈ usage.limit.line.tickets) :
    ∃ number, usage.ticketOf? number = some ticket := by
  obtain ⟨phase, member, held⟩ := List.mem_filterMap.mp (sound.vigilant.serves.waits _ standing)
  obtain ⟨number, found⟩ := List.mem_iff_getElem?.mp member
  exact ⟨number, Option.bind_eq_some_iff.mpr ⟨phase, found, held⟩⟩

/-- Whoever holds the ticket of a place is parked there. -/
private theorem Ordered.parks_of_ticketOf? (ordered : usage.Ordered) (sound : usage.Sound)
    (member : waiter ∈ usage.limit.line.waiters)
    (held : usage.ticketOf? number = some waiter.ticket) :
    ∃ entry, usage.Parks number waiter entry := by
  obtain ⟨phase, found, held⟩ := Option.bind_eq_some_iff.mp held
  have tells := sound.tells phase (List.mem_of_getElem? found) _ held
  rw [WaitLine.holds_iff.mpr (List.mem_map_of_mem member)] at tells
  cases phase with
  | parked ticket waker entry =>
      cases held
      have listed := ordered.listed number ⟨waiter.ticket, waker⟩ entry found
      -- Nobody stands in the line twice.
      have same := List.inj_on_of_nodup_map sound.vigilant.serves.once listed member rfl
      exact ⟨entry, same ▸ found⟩
  | idle | woken _ | taken | dropped => cases tells

/-! ## The line and the borrows -/

/-- Borrow `number` is called by the use that follows the first `moment` uses. -/
def CalledAt (limit : Limit ω) (uses : List (Use ω)) (number moment : Nat) : Prop :=
  ∃ use, uses[moment]? = some use ∧ (run limit (uses.take moment)).Calls use number

/-- Both have a place, which the first has had for longer. -/
def JoinedBefore (limit : Limit ω) (uses : List (Use ω)) (one other : Nat) : Prop :=
  ∃ since later, ParkedSince limit uses one since ∧ ParkedSince limit uses other later ∧
    since < later

private theorem joinedBefore_of_entry_lt {capacity : Nat} (made : ofCapacity? capacity = some limit)
    (few : (run limit uses).drawn < 2 ^ 64) {waiter' : Waiter ω} {entry' : Nat}
    (parks : (run limit uses).Parks number waiter entry)
    (parks' : (run limit uses).Parks other waiter' entry') (before : entry < entry') :
    JoinedBefore limit uses number other := by
  obtain ⟨since, parkedSince, counted⟩ := exists_parkedSince made uses few parks
  obtain ⟨later, parkedSince', counted'⟩ := exists_parkedSince made uses few parks'
  refine ⟨since, later, parkedSince, parkedSince', Nat.lt_of_not_le fun sooner => ?_⟩
  have fewer := entries_take_mono made uses few sooner
  omega

/-- Whoever was called has no place any more. -/
private theorem Sound.stands_of_calls (sound : usage.Sound) (ordered : usage.Ordered)
    (calls : usage.Calls use number) :
    (∃ entry waiter, usage.Parks number waiter entry ∧
        (usage.step use).1 = some waiter.waker) ∧
      (usage.step use).2.stands number = false := by
  obtain ⟨front, behind, waiters, called, _, held⟩ := id calls
  have member : front ∈ usage.limit.line.waiters := waiters ▸ List.mem_cons_self
  obtain ⟨entry, parks⟩ := ordered.parks_of_ticketOf? sound member held
  refine ⟨⟨entry, front, parks, called⟩, Bool.eq_false_iff.mpr fun standing => ?_⟩
  obtain ⟨waiter, entry', parks'⟩ := stands_iff.mp standing
  exact ((parks_step_iff (number?_ne_of_calls calls)).mp parks').2 calls

private theorem Sound.exists_calls (sound : usage.Sound)
    (called : (usage.step use).1 = some waker) :
    ∃ number, ∀ other, usage.Calls use other ↔ other = number := by
  obtain ⟨front, behind, waiters, rfl, rest⟩ := step_called called
  have standing : front.ticket ∈ usage.limit.line.tickets := by simp [WaitLine.tickets, waiters]
  obtain ⟨number, held⟩ := sound.exists_ticketOf? standing
  refine ⟨number, fun other => ⟨?_, ?_⟩⟩
  · rintro ⟨front', _, waiters', _, _, held'⟩
    obtain ⟨rfl, _⟩ := List.cons.inj (waiters.symm.trans waiters')
    exact sound.eq_of_ticketOf? held held'
  · rintro rfl
    exact ⟨front, behind, waiters, called, rest, held⟩

/-- A call ends the stay of a borrow in the line, so no later call belongs to the same stay. -/
private theorem le_of_calledAt {capacity : Nat} (made : ofCapacity? capacity = some limit)
    (few : (run limit uses).drawn < 2 ^ 64) {since first second : Nat}
    (called : CalledAt limit uses number first)
    (stay : ParkedSince limit (uses.take first) number since)
    (stay' : ParkedSince limit (uses.take second) number since) : second ≤ first := by
  refine Nat.le_of_not_lt fun before => ?_
  obtain ⟨use, there, calls⟩ := called
  obtain ⟨inside, rfl⟩ := List.getElem?_eq_some_iff.mp there
  have few_then := Nat.lt_of_le_of_lt (drawn_take_le uses first) few
  have gone := ((sound_run made _ few_then).stands_of_calls (ordered_run made _ few_then) calls).2
  have within : since ≤ first + 1 := by
    have first_stay := stay.within
    rw [List.length_take] at first_stay
    omega
  have still := stay'.parked (first + 1) within (by rw [List.length_take]; omega)
  rw [List.take_take, Nat.min_eq_left before, List.take_add_one, there, Option.toList_some,
    run_append_singleton, gone] at still
  cases still

/-- The line is what the borrows make of it: after these uses, and with the next. -/
structure Faithful (limit : Limit ω) (uses : List (Use ω)) : Prop where
  distinct : (run limit uses).limit.line.tickets.Nodup
  /-- The places belong, one each, to the borrows that wait, in the order in which these have
  joined the line. A place has the ticket of its borrow and the waker of the latest poll. -/
  places : ∃ order : List Nat, order.Nodup ∧
    (∀ number, number ∈ order ↔ ∃ waker, Waits limit number uses waker) ∧
    List.Forall₂ (fun number waiter => (run limit uses).ticketOf? number = some waiter.ticket ∧
      Waits limit number uses waiter.waker) order (run limit uses).limit.line.waiters ∧
    order.Pairwise (JoinedBefore limit uses)
  /-- When a borrow is over no place is left under any ticket that it has ever held. -/
  gone : ∀ number moment ticket borrow,
    (run limit (uses.take moment)).ticketOf? number = some ticket →
    (run limit uses).borrows[number]? = some borrow → borrow.phase.isOver = true →
    (run limit uses).limit.line.holds ticket = false
  /-- A use that hands over a waker calls one borrow, which has waited with that waker and does
  not wait any more. -/
  called : ∀ use waker, ((run limit uses).step use).1 = some waker → ∃ number,
    (∀ other, (run limit uses).Calls use other ↔ other = number) ∧
    Waits limit number uses waker ∧ ∀ waker', ¬ Waits limit number (uses ++ [use]) waker'
  /-- Nobody is called twice for having joined the line once. -/
  once : ∀ number since first second, CalledAt limit uses number first →
    CalledAt limit uses number second → ParkedSince limit (uses.take first) number since →
    ParkedSince limit (uses.take second) number since → first = second

/-- The places in their order, by the borrows to which they belong. -/
theorem Ordered.exists_order (ordered : usage.Ordered) (sound : usage.Sound) :
    ∃ order : List Nat, order.Nodup ∧ (∀ number, number ∈ order ↔ usage.stands number = true) ∧
      List.Forall₂ (fun number waiter => ∃ entry, usage.Parks number waiter entry) order
        usage.limit.line.waiters ∧
      order.Pairwise fun one other => ∃ waiter entry waiter' entry',
        usage.Parks one waiter entry ∧ usage.Parks other waiter' entry' ∧ entry < entry' := by
  have owned : ∀ waiter, ∃ number, waiter ∈ usage.limit.line.waiters →
      ∃ entry, usage.Parks number waiter entry := by
    intro waiter
    by_cases member : waiter ∈ usage.limit.line.waiters
    · obtain ⟨number, held⟩ := sound.exists_ticketOf? (List.mem_map_of_mem member)
      exact ⟨number, fun _ => ordered.parks_of_ticketOf? sound member held⟩
    · exact ⟨0, fun standing => absurd standing member⟩
  choose owner parks using owned
  have ranked := ordered.ranked
  rw [WaitLine.tickets, List.pairwise_map] at ranked
  have sorted : (usage.limit.line.waiters.map owner).Pairwise fun one other =>
      ∃ waiter entry waiter' entry', usage.Parks one waiter entry ∧
        usage.Parks other waiter' entry' ∧ entry < entry' := by
    refine List.pairwise_map.mpr (ranked.imp_of_mem fun {front behind} ahead after before => ?_)
    obtain ⟨entry, parked⟩ := parks front ahead
    obtain ⟨entry', parked'⟩ := parks behind after
    exact ⟨front, entry, behind, entry', parked, parked',
      before _ _ _ _ _ _ parked parked' rfl rfl⟩
  refine ⟨usage.limit.line.waiters.map owner, ?_, fun number => ⟨?_, ?_⟩, ?_, sorted⟩
  · refine sorted.imp ?_
    rintro one _ ⟨waiter, entry, waiter', entry', parked, parked', before⟩ rfl
    obtain ⟨_, _, same⟩ := Phase.parked.inj (Option.some.inj (parked.symm.trans parked'))
    exact absurd same (Nat.ne_of_lt before)
  · intro member
    obtain ⟨waiter, standing, rfl⟩ := List.mem_map.mp member
    obtain ⟨entry, parked⟩ := parks waiter standing
    exact parked.stands
  · intro standing
    obtain ⟨waiter, entry, parked⟩ := stands_iff.mp standing
    have member := ordered.listed number waiter entry parked
    obtain ⟨entry', parked'⟩ := parks waiter member
    refine List.mem_map.mpr ⟨waiter, member, ?_⟩
    exact sound.eq_of_ticketOf? (ticketOf?_of_parks parked) (ticketOf?_of_parks parked')
  · rw [List.forall₂_map_left_iff, List.forall₂_same]
    exact parks

/-- No place is left under a ticket whose borrow is over, however long ago it was called. -/
theorem not_holds_of_isOver {capacity : Nat} (made : ofCapacity? capacity = some limit)
    (few : (run limit uses).drawn < 2 ^ 64) {moment : Nat} {borrow : Borrow ω}
    (held : (run limit (uses.take moment)).ticketOf? number = some ticket)
    (found : (run limit uses).borrows[number]? = some borrow)
    (finished : borrow.phase.isOver = true) :
    (run limit uses).limit.line.holds ticket = false := by
  have sound := sound_run made uses few
  have sound_then : (run limit (uses.take moment)).Sound :=
    sound_run made _ (Nat.lt_of_le_of_lt (drawn_take_le uses moment) few)
  refine Bool.eq_false_iff.mpr fun standing => ?_
  obtain ⟨other, still⟩ := sound.exists_ticketOf? (WaitLine.holds_iff.mp standing)
  have before := held_before made few (sound_then.toNat_lt_of_ticketOf? held) still
  obtain rfl := sound_then.eq_of_ticketOf? held before
  rw [ticketOf?_of_found found] at still
  rw [Phase.isOver_of_ticket? still] at finished
  cases finished

/-- Whoever is called has waited with the waker that is handed over, and does not wait any more. -/
theorem waited_of_calls {capacity : Nat} (made : ofCapacity? capacity = some limit)
    (few : (run limit uses).drawn < 2 ^ 64) (calls : (run limit uses).Calls use number) :
    (∃ waker, ((run limit uses).step use).1 = some waker ∧ Waits limit number uses waker) ∧
      ∀ waker, ¬ Waits limit number (uses ++ [use]) waker := by
  obtain ⟨⟨entry, waiter, parks, handed⟩, gone⟩ :=
    (sound_run made uses few).stands_of_calls (ordered_run made uses few) calls
  refine ⟨⟨waiter.waker, handed, waits_iff.mpr ⟨_, _, parks⟩⟩, fun waker waits => ?_⟩
  obtain ⟨ticket, entry', still⟩ := waits_iff.mp waits
  rw [run_append_singleton] at still
  rw [still.stands] at gone
  cases gone

/-- Whatever is done with a limit, its line is that of its borrows. -/
theorem faithful_run {capacity : Nat} (made : ofCapacity? capacity = some limit)
    (uses : List (Use ω)) (few : (run limit uses).drawn < 2 ^ 64) : Faithful limit uses := by
  have sound := sound_run made uses few
  have ordered := ordered_run made uses few
  constructor
  case distinct => exact sound.vigilant.serves.once
  case places =>
    obtain ⟨order, distinct, among, places, sorted⟩ := ordered.exists_order sound
    refine ⟨order, distinct, fun number => ?_, ?_, ?_⟩
    · rw [among, stands_iff]
      constructor
      · rintro ⟨waiter, entry, parks⟩
        exact ⟨waiter.waker, waits_iff.mpr ⟨_, _, parks⟩⟩
      · rintro ⟨waker, waits⟩
        obtain ⟨ticket, entry, parks⟩ := waits_iff.mp waits
        exact ⟨_, entry, parks⟩
    · refine places.imp fun number waiter place => ?_
      obtain ⟨entry, parks⟩ := place
      exact ⟨ticketOf?_of_parks parks, waits_iff.mpr ⟨_, _, parks⟩⟩
    · refine sorted.imp fun {one other} before => ?_
      obtain ⟨_, _, _, _, parks, parks', before⟩ := before
      exact joinedBefore_of_entry_lt made few parks parks' before
  case gone =>
    intro number moment ticket borrow held found finished
    exact not_holds_of_isOver made few held found finished
  case called =>
    intro use waker called
    obtain ⟨number, only⟩ := sound.exists_calls called
    obtain ⟨⟨waker', handed, waited⟩, gone⟩ := waited_of_calls made few ((only number).mpr rfl)
    obtain rfl := Option.some.inj (called.symm.trans handed)
    exact ⟨number, only, waited, gone⟩
  case once =>
    intro number since first second calls calls' stay stay'
    exact Nat.le_antisymm (le_of_calledAt made few calls' stay' stay)
      (le_of_calledAt made few calls stay stay')

/-- Borrows 0 to 3 line up. The first is called, comes too late and lines up again; then one of
the others is dropped, and one is polled again. -/
def crossedUses : List (Use Nat) :=
  [.tryBorrow false, .borrow false, .borrow true, .borrow false, .borrow false, .poll 0 7,
    .poll 1 8, .poll 2 9, .poll 3 6, .giveBack, .tryBorrow false, .poll 0 17, .drop 2, .poll 1 18]

theorem crossedUses_faithful :
    ofCapacity? 1 = some ({ capacity := 1, available := 1 } : Limit Nat) ∧
      (run { capacity := 1, available := 1 } crossedUses).drawn < 2 ^ 64 ∧
      (run { capacity := 1, available := 1 } crossedUses).limit.line.waiters =
        [⟨1, 18⟩, ⟨3, 6⟩, ⟨0, 17⟩] ∧
      Faithful { capacity := 1, available := 1 } crossedUses := by
  have made : ofCapacity? 1 = some ({ capacity := 1, available := 1 } : Limit Nat) := rfl
  have few : (run { capacity := 1, available := 1 } crossedUses).drawn < 2 ^ 64 := by decide
  exact ⟨made, few, by decide, faithful_run made crossedUses few⟩

end Cohort.Limit.Usage
