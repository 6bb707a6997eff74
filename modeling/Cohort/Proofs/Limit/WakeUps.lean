import Mathlib.Data.List.Induction
import Mathlib.Data.List.Perm.Basic
import Cohort.Proofs.Limit.Usage
import Cohort.Proofs.WaitLine

/-!
# No wake-up is lost

As long as anybody stands in the line of a limit there are at least as many woken
borrowers under way as there are tokens to take. Tokens are not reserved for them, so
they may come too late; but nobody stands in the line next to a token that no woken
borrower will look at.
-/

set_option autoImplicit false

namespace Cohort.Limit

variable {ω : Type} {limit : Limit ω} {waiting rest : List UInt64} {ticket : UInt64} {drawn : Nat}

/-! ## What an operation comes to -/

theorem take?_of_pos (stocked : 0 < limit.available) :
    limit.take? = some { limit with available := limit.available - 1 } := by
  obtain ⟨capacity, available, line⟩ := limit
  cases available with
  | zero => exact absurd stocked (Nat.lt_irrefl 0)
  | succ available => rfl

theorem take?_of_eq_zero (spent : limit.available = 0) : limit.take? = none := by
  simp [take?, spent]

/-- The line after a token was taken by a borrow that held `held`. -/
def lineTaken (limit : Limit ω) : Option UInt64 → WaitLine ω
  | none => limit.line
  | some ticket => limit.line.leave ticket

theorem poll_of_pos (stocked : 0 < limit.available) (held : Option UInt64) (waker : ω) :
    limit.poll held waker =
      (.taken, { limit with available := limit.available - 1, line := limit.lineTaken held }) := by
  cases held <;> simp [poll, take?_of_pos stocked, lineTaken]

theorem poll_of_eq_zero (spent : limit.available = 0) (held : Option UInt64) (waker : ω) :
    limit.poll held waker =
      (.parked (limit.line.park held waker).1,
        { limit with line := (limit.line.park held waker).2 }) := by
  simp [poll, take?_of_eq_zero spent]

theorem cancel_of_holds (standing : limit.line.holds ticket = true) :
    limit.cancel ticket = (none, { limit with line := limit.line.leave ticket }) := by
  simp [cancel, standing]

theorem cancel_of_not_holds (woken : limit.line.holds ticket = false) :
    limit.cancel ticket = limit.wakeNext := by
  simp [cancel, woken]

theorem putBack_of_lt (room : limit.available < limit.capacity) :
    limit.putBack = .ok { limit with available := limit.available + 1 }.wakeNext := by
  simp [putBack, Nat.not_le.mpr room]

theorem putBack_of_le (full : limit.capacity ≤ limit.available) :
    limit.putBack = .error .poolFull := by
  simp [putBack, full]

/-! ### Tickets drawn -/

theorem drawn_wakeNext (limit : Limit ω) : limit.wakeNext.2.line.drawn = limit.line.drawn :=
  WaitLine.drawn_shift limit.line

private theorem drawn_cancel (limit : Limit ω) (ticket : UInt64) :
    (limit.cancel ticket).2.line.drawn = limit.line.drawn := by
  unfold cancel
  split
  · rfl
  · exact drawn_wakeNext limit

private theorem drawn_putBack {changed : Limit ω} {woken : Option ω}
    (room : limit.putBack = .ok (woken, changed)) : changed.line.drawn = limit.line.drawn := by
  unfold putBack at room
  split at room
  · cases room
  · cases Except.ok.inj room
    exact drawn_wakeNext { limit with available := limit.available + 1 }

/-! ## Tokens and the woken -/

/-- Whoever waits does so under one of the tickets `waiting`, and if anybody is parked
the woken are not fewer than the tokens. -/
structure Vigilant (limit : Limit ω) (waiting : List UInt64) (drawn : Nat) : Prop where
  serves : limit.line.Serves waiting drawn
  covered : limit.line.waiters ≠ [] → limit.available ≤ limit.line.wokenCount waiting

theorem Vigilant.perm {others : List UInt64} (vigilant : limit.Vigilant waiting drawn)
    (same : waiting.Perm others) : limit.Vigilant others drawn where
  serves := vigilant.serves.perm same
  covered := fun parked => WaitLine.wokenCount_perm same ▸ vigilant.covered parked

theorem Vigilant.take (vigilant : limit.Vigilant waiting drawn) :
    Vigilant { limit with available := limit.available - 1 } waiting drawn where
  serves := vigilant.serves
  covered := fun parked => Nat.le_trans (Nat.sub_le _ _) (vigilant.covered parked)

/-- Taking the front one out of the line makes up for one token too many. -/
private theorem vigilant_wakeNext (serves : limit.line.Serves waiting drawn)
    (short : limit.line.waiters ≠ [] → limit.available ≤ limit.line.wokenCount waiting + 1) :
    limit.wakeNext.2.Vigilant waiting drawn := by
  refine ⟨serves.shift, fun parked => ?_⟩
  cases waiters : limit.line.waiters with
  | nil => simp [wakeNext, WaitLine.shift, waiters] at parked
  | cons front behind =>
      -- The front one is among the woken from now on, which makes up for the excess.
      have counted := serves.wokenCount_shift waiters
      have bounded := short (by simp [waiters])
      simp only [wakeNext]
      omega

private theorem waiters_ne_nil_of_leave {line : WaitLine ω}
    (parked : (line.leave ticket).waiters ≠ []) :
    line.waiters ≠ [] := by
  intro nobody
  simp [WaitLine.leave, nobody] at parked

private theorem wokenCount_leave {line : WaitLine ω}
    (serves : line.Serves (ticket :: rest) drawn) :
    (line.leave ticket).wokenCount rest = line.wokenCount rest :=
  WaitLine.wokenCount_congr fun _ member => WaitLine.holds_leave_of_ne (serves.ne_of_mem member)

/-- Somebody who waits takes a token. If it was woken it is one less, and so are the tokens. -/
theorem Vigilant.serve (vigilant : limit.Vigilant (ticket :: rest) drawn) :
    Vigilant { limit with available := limit.available - 1, line := limit.line.leave ticket }
      rest drawn := by
  refine ⟨vigilant.serves.leave, fun parked => ?_⟩
  have covered := vigilant.covered (waiters_ne_nil_of_leave parked)
  simp only [wokenCount_leave vigilant.serves]
  cases standing : limit.line.holds ticket with
  | true =>
      rw [WaitLine.wokenCount_cons_of_holds standing] at covered
      omega
  | false =>
      rw [WaitLine.wokenCount_cons_of_not_holds standing] at covered
      omega

private theorem Vigilant.leave (vigilant : limit.Vigilant (ticket :: rest) drawn)
    (standing : limit.line.holds ticket = true) :
    Vigilant { limit with line := limit.line.leave ticket } rest drawn := by
  refine ⟨vigilant.serves.leave, fun parked => ?_⟩
  have covered := vigilant.covered (waiters_ne_nil_of_leave parked)
  rw [WaitLine.wokenCount_cons_of_holds standing] at covered
  simpa only [wokenCount_leave vigilant.serves] using covered

/-- Somebody who was woken goes away. Its wake-up goes to the next in line. -/
private theorem Vigilant.wakeNext (vigilant : limit.Vigilant (ticket :: rest) drawn)
    (woken : limit.line.holds ticket = false) : limit.wakeNext.2.Vigilant rest drawn := by
  refine vigilant_wakeNext (vigilant.serves.forget woken) fun parked => ?_
  have covered := vigilant.covered parked
  rwa [WaitLine.wokenCount_cons_of_not_holds woken] at covered

theorem Vigilant.giveBack (vigilant : limit.Vigilant waiting drawn) :
    { limit with available := limit.available + 1 }.wakeNext.2.Vigilant waiting drawn :=
  vigilant_wakeNext vigilant.serves fun parked => Nat.succ_le_succ (vigilant.covered parked)

/-! ## The record -/

/-- What the record says of a borrow that waits is what the line says of its ticket. -/
def Phase.Tells (phase : Phase ω) (line : WaitLine ω) : Prop :=
  ∀ ticket, phase.ticket? = some ticket → line.holds ticket = phase.isParked

private theorem Phase.tells_of_ticket?_eq_none {phase : Phase ω} {line : WaitLine ω}
    (ticketless : phase.ticket? = none) : phase.Tells line := by
  intro ticket found
  simp [ticketless] at found

/-- A limit and what the record says of the borrows, whatever their order. -/
structure Kept (limit : Limit ω) (phases : List (Phase ω)) (drawn : Nat) : Prop where
  vigilant : limit.Vigilant (phases.filterMap Phase.ticket?) drawn
  tells : ∀ phase ∈ phases, phase.Tells limit.line

variable {phase : Phase ω} {phases others : List (Phase ω)}

private theorem Kept.perm (kept : limit.Kept phases drawn) (same : phases.Perm others) :
    limit.Kept others drawn where
  vigilant := kept.vigilant.perm (same.filterMap _)
  tells := fun phase member => kept.tells phase (same.mem_iff.mpr member)

private theorem Kept.countP_isWoken (kept : limit.Kept phases drawn) :
    phases.countP Phase.isWoken = limit.line.wokenCount (phases.filterMap Phase.ticket?) := by
  rw [WaitLine.wokenCount, List.countP_filterMap]
  refine List.countP_congr fun phase member => ?_
  have tells := kept.tells phase member
  cases phase with
  | parked ticket waker entry => simp [Phase.ticket?, Phase.isWoken, tells ticket rfl, Phase.isParked]
  | woken ticket => simp [Phase.ticket?, Phase.isWoken, tells ticket rfl, Phase.isParked]
  | idle => simp [Phase.ticket?, Phase.isWoken]
  | taken => simp [Phase.ticket?, Phase.isWoken]
  | dropped => simp [Phase.ticket?, Phase.isWoken]

private theorem Kept.waiters_ne_nil (kept : limit.Kept phases drawn) (member : phase ∈ phases)
    (parked : phase.isParked = true) : limit.line.waiters ≠ [] := by
  cases phase with
  | parked ticket waker entry =>
      have standing := kept.tells _ member ticket rfl
      intro nobody
      simp [WaitLine.holds, nobody, Phase.isParked] at standing
  | idle | woken _ | taken | dropped => simp [Phase.isParked] at parked

/-! ## One borrow among others -/

private theorem filterMap_ticket?_cons (phase : Phase ω) (others : List (Phase ω)) :
    (phase :: others).filterMap Phase.ticket? =
      phase.ticket?.toList ++ others.filterMap Phase.ticket? := by
  cases held : phase.ticket? <;> simp [held]

private theorem tells_others {line one : WaitLine ω}
    (tells : ∀ phase ∈ others, phase.Tells line)
    (same : ∀ ticket ∈ others.filterMap Phase.ticket?, one.holds ticket = line.holds ticket) :
    ∀ phase ∈ others, phase.Tells one := by
  intro phase member ticket held
  rw [same ticket (List.mem_filterMap.mpr ⟨phase, member, held⟩)]
  exact tells phase member ticket held

private theorem kept_cons_iff (ticketless : phase.ticket? = none) :
    limit.Kept (phase :: others) drawn ↔ limit.Kept others drawn := by
  constructor
  · intro ⟨vigilant, tells⟩
    rw [filterMap_ticket?_cons, ticketless] at vigilant
    exact ⟨vigilant, (List.forall_mem_cons.mp tells).2⟩
  · intro ⟨vigilant, tells⟩
    refine ⟨?_, List.forall_mem_cons.mpr ⟨Phase.tells_of_ticket?_eq_none ticketless, tells⟩⟩
    rw [filterMap_ticket?_cons, ticketless]
    exact vigilant

private theorem Kept.take (kept : limit.Kept phases drawn) :
    Kept { limit with available := limit.available - 1 } phases drawn :=
  ⟨kept.vigilant.take, kept.tells⟩

private theorem Kept.serve (kept : limit.Kept (phase :: others) drawn) :
    Kept { limit with available := limit.available - 1, line := limit.lineTaken phase.ticket? }
      others drawn := by
  obtain ⟨vigilant, tells⟩ := kept
  obtain ⟨_, tells⟩ := List.forall_mem_cons.mp tells
  rw [filterMap_ticket?_cons] at vigilant
  cases held : phase.ticket? with
  | none =>
      rw [held] at vigilant
      exact ⟨vigilant.take, tells⟩
  | some ticket =>
      rw [held] at vigilant
      exact ⟨vigilant.serve, tells_others tells fun other member =>
        WaitLine.holds_leave_of_ne (vigilant.serves.ne_of_mem member)⟩

private theorem Kept.park (kept : limit.Kept (phase :: others) drawn) (spent : limit.available = 0)
    (waker : ω) (entry : Nat) (few : (if phase.ticket?.isSome then drawn else drawn + 1) < 2 ^ 64) :
    Kept { limit with line := (limit.line.park phase.ticket? waker).2 }
      (.parked (limit.line.park phase.ticket? waker).1 waker entry :: others)
      (if phase.ticket?.isSome then drawn else drawn + 1) := by
  obtain ⟨vigilant, tells⟩ := kept
  obtain ⟨_, tells⟩ := List.forall_mem_cons.mp tells
  rw [filterMap_ticket?_cons] at vigilant
  -- No token is left, so it does not matter how many are woken.
  have covered (count : Nat) : limit.available ≤ count := spent ▸ Nat.zero_le count
  cases held : phase.ticket? with
  | none =>
      rw [held] at vigilant few
      have parked := vigilant.serves.park_none few waker
      refine ⟨⟨parked, fun _ => covered _⟩, List.forall_mem_cons.mpr ⟨?_, ?_⟩⟩
      · rintro ticket ⟨rfl⟩
        exact WaitLine.holds_iff.mpr ((vigilant.serves.mem_tickets_park_none ..).mpr (Or.inr rfl))
      · refine tells_others tells fun other member => WaitLine.holds_eq_of_mem_iff ?_
        rw [vigilant.serves.mem_tickets_park_none]
        exact or_iff_left (parked.ne_of_mem member)
  | some ticket =>
      rw [held] at vigilant
      have parked := vigilant.serves.park_some List.mem_cons_self waker
      simp only [WaitLine.fst_park_some]
      refine ⟨⟨parked, fun _ => covered _⟩, List.forall_mem_cons.mpr ⟨?_, ?_⟩⟩
      · rintro ticket ⟨rfl⟩
        exact WaitLine.holds_iff.mpr ((WaitLine.mem_tickets_park_some ..).mpr (Or.inr rfl))
      · refine tells_others tells fun other member => WaitLine.holds_eq_of_mem_iff ?_
        rw [WaitLine.mem_tickets_park_some]
        exact or_iff_left (parked.ne_of_mem member)

private theorem Kept.leave (kept : limit.Kept (phase :: others) drawn) {ticket : UInt64}
    (held : phase.ticket? = some ticket) (standing : limit.line.holds ticket = true) :
    Kept { limit with line := limit.line.leave ticket } others drawn := by
  obtain ⟨vigilant, tells⟩ := kept
  obtain ⟨_, tells⟩ := List.forall_mem_cons.mp tells
  rw [filterMap_ticket?_cons, held] at vigilant
  exact ⟨vigilant.leave standing, tells_others tells fun other member =>
    WaitLine.holds_leave_of_ne (vigilant.serves.ne_of_mem member)⟩

/-! ## Waking -/

/-- What the record says once whoever stood in front of `line` was woken. -/
def Phase.wakeFront (line : WaitLine ω) (phases : List (Phase ω)) : List (Phase ω) :=
  match line.waiters with
  | [] => phases
  | front :: _ => phases.map (Phase.wake front.ticket)

@[simp]
theorem Phase.ticket?_wake (front : UInt64) (phase : Phase ω) :
    (phase.wake front).ticket? = phase.ticket? := by
  cases phase with
  | parked ticket waker entry =>
      simp only [Phase.wake]
      split <;> rfl
  | idle | woken _ | taken | dropped => rfl

private theorem Phase.filterMap_ticket?_wakeFront (line : WaitLine ω) (phases : List (Phase ω)) :
    (Phase.wakeFront line phases).filterMap Phase.ticket? = phases.filterMap Phase.ticket? := by
  unfold Phase.wakeFront
  split
  · rfl
  · simp [List.filterMap_map]

private theorem Phase.tells_wake {line : WaitLine ω} {front : Waiter ω} {behind : List (Waiter ω)}
    (serves : line.Serves waiting drawn) (waiters : line.waiters = front :: behind)
    (tells : phase.Tells line) : (phase.wake front.ticket).Tells line.shift.2 := by
  intro ticket held
  rw [Phase.ticket?_wake] at held
  rw [serves.holds_shift waiters]
  cases phase with
  | parked own waker entry =>
      have same : own = ticket := by simpa [Phase.ticket?] using held
      subst same
      by_cases foremost : own = front.ticket
      · simp [Phase.wake, foremost, Phase.isParked]
      · simpa [Phase.wake, foremost] using tells own rfl
  | woken own =>
      have same : own = ticket := by simpa [Phase.ticket?] using held
      subst same
      have told := tells own rfl
      split
      · rfl
      · exact told
  | idle | taken | dropped => simp [Phase.ticket?] at held

/-- The record follows whatever the wake-up is for, given that the tokens are covered again. -/
private theorem kept_wakeNext
    (serves : limit.line.Serves (phases.filterMap Phase.ticket?) drawn)
    (tells : ∀ phase ∈ phases, phase.Tells limit.line)
    (vigilant : limit.wakeNext.2.Vigilant (phases.filterMap Phase.ticket?) drawn) :
    limit.wakeNext.2.Kept (Phase.wakeFront limit.line phases) drawn := by
  refine ⟨(Phase.filterMap_ticket?_wakeFront limit.line phases).symm ▸ vigilant, ?_⟩
  unfold Phase.wakeFront
  cases waiters : limit.line.waiters with
  | nil =>
      have same : limit.wakeNext.2.line = limit.line := by
        simp [wakeNext, WaitLine.shift, waiters]
      rw [same]
      exact tells
  | cons front behind =>
      intro woken member
      obtain ⟨phase, found, rfl⟩ := List.mem_map.mp member
      exact Phase.tells_wake serves waiters (tells phase found)

private theorem Kept.giveBack (kept : limit.Kept phases drawn) :
    { limit with available := limit.available + 1 }.wakeNext.2.Kept
      (Phase.wakeFront limit.line phases) drawn := by
  have serves : WaitLine.Serves { limit with available := limit.available + 1 }.line
      (phases.filterMap Phase.ticket?) drawn := kept.vigilant.serves
  exact kept_wakeNext serves kept.tells kept.vigilant.giveBack

/-- A borrow that was woken is dropped: the next in line is woken for it. -/
private theorem Kept.wakeNext (kept : limit.Kept (phase :: others) drawn) {ticket : UInt64}
    (held : phase.ticket? = some ticket) (woken : limit.line.holds ticket = false)
    (dropped : phases.Perm (.dropped :: others)) :
    limit.wakeNext.2.Kept (Phase.wakeFront limit.line phases) drawn := by
  obtain ⟨vigilant, tells⟩ := (kept : limit.Kept (phase :: others) drawn)
  rw [filterMap_ticket?_cons, held] at vigilant
  -- The dropped one stands in no line and waits no longer: only the others count.
  have same : (others.filterMap Phase.ticket?).Perm (phases.filterMap Phase.ticket?) :=
    (dropped.filterMap Phase.ticket?).symm
  refine kept_wakeNext ((vigilant.serves.forget woken).perm same) ?_
    ((vigilant.wakeNext woken).perm same)
  intro one member
  rcases List.mem_cons.mp (dropped.mem_iff.mp member) with rfl | member
  · exact Phase.tells_of_ticket?_eq_none rfl
  · exact tells one (List.mem_cons_of_mem _ member)

namespace Usage

variable {usage : Usage ω}

/-- The limit and the record agree, and the woken cover the tokens. -/
def Sound (usage : Usage ω) : Prop :=
  usage.limit.Kept usage.phases usage.drawn

private theorem perm_others {number : Nat} {borrow : Borrow ω}
    (found : usage.borrows[number]? = some borrow) :
    usage.phases.Perm (borrow.phase :: usage.phases.eraseIdx number) ∧
      ∀ phase, (usage.phases.set number phase).Perm (phase :: usage.phases.eraseIdx number) := by
  obtain ⟨inside, rfl⟩ := List.getElem?_eq_some_iff.mp found
  have bound : number < usage.phases.length := by simpa [phases] using inside
  have selected : usage.phases[number] = usage.borrows[number].phase := by simp [phases]
  refine ⟨?_, fun phase => List.set_perm_cons_eraseIdx bound phase⟩
  rw [← selected]
  exact (List.getElem_cons_eraseIdx_perm bound).symm

theorem handOver_wakeNext (usage : Usage ω) (changed : Limit ω)
    (same : changed.line = usage.limit.line) :
    (usage.handOver changed.wakeNext).2.limit = changed.wakeNext.2 ∧
      (usage.handOver changed.wakeNext).2.phases =
        Phase.wakeFront usage.limit.line usage.phases ∧
      (usage.handOver changed.wakeNext).2.drawn = usage.drawn := by
  cases waiters : usage.limit.line.waiters with
  | nil => simp [handOver, wakeNext, WaitLine.shift, same, waiters, phases, Phase.wakeFront]
  | cons front behind =>
      simp [handOver, wakeNext, WaitLine.shift, same, waiters, phases, Phase.wakeFront,
        Function.comp_def]

private theorem Sound.poll (sound : usage.Sound) {number : Nat} {borrow : Borrow ω}
    (found : usage.borrows[number]? = some borrow) (waker : ω)
    (few : (usage.poll number borrow waker).drawn < 2 ^ 64) :
    (usage.poll number borrow waker).Sound := by
  obtain ⟨split, replaced⟩ := perm_others found
  have kept : usage.limit.Kept (borrow.phase :: usage.phases.eraseIdx number) usage.drawn :=
    Kept.perm sound split
  rcases Nat.eq_zero_or_pos usage.limit.available with spent | stocked
  · simp only [Usage.poll, poll_of_eq_zero spent] at few ⊢
    unfold Sound
    rw [phases_setPhase]
    exact (kept.park spent waker _ few).perm (replaced _).symm
  · simp only [Usage.poll, poll_of_pos stocked]
    unfold Sound
    rw [limit_guardIf, phases_guardIf, drawn_guardIf, phases_setPhase]
    exact ((kept_cons_iff rfl).mpr kept.serve).perm (replaced _).symm

private theorem Sound.drop (sound : usage.Sound) {number : Nat} {borrow : Borrow ω}
    (found : usage.borrows[number]? = some borrow) : (usage.drop number borrow).2.Sound := by
  obtain ⟨split, replaced⟩ := perm_others found
  have kept : usage.limit.Kept (borrow.phase :: usage.phases.eraseIdx number) usage.drawn :=
    Kept.perm sound split
  unfold Usage.drop
  cases held : borrow.phase.ticket? with
  | none =>
      have others := (kept_cons_iff held).mp kept
      unfold Sound
      rw [phases_setPhase]
      exact ((kept_cons_iff rfl).mpr others).perm (replaced .dropped).symm
  | some ticket =>
      cases standing : usage.limit.line.holds ticket with
      | true =>
          simp only [cancel_of_holds standing, handOver]
          unfold Sound
          exact ((kept_cons_iff rfl).mpr (kept.leave held standing)).perm
            (phases_setPhase usage number borrow .dropped ▸ (replaced .dropped).symm)
      | false =>
          have after := phases_setPhase usage number borrow .dropped
          obtain ⟨limit_eq, phases_eq, drawn_eq⟩ :=
            (usage.setPhase number borrow .dropped).handOver_wakeNext usage.limit rfl
          simp only [cancel_of_not_holds standing]
          unfold Sound
          rw [limit_eq, phases_eq, drawn_eq]
          exact kept.wakeNext held standing (after ▸ replaced .dropped)

private theorem Sound.putBack (sound : usage.Sound) : usage.putBack.2.Sound := by
  unfold Usage.putBack
  rcases Nat.lt_or_ge usage.limit.available usage.limit.capacity with room | full
  · obtain ⟨limit_eq, phases_eq, drawn_eq⟩ := usage.handOver_wakeNext
      { usage.limit with available := usage.limit.available + 1 } rfl
    simp only [putBack_of_lt room]
    unfold Sound
    rw [limit_eq, phases_eq, drawn_eq]
    exact Kept.giveBack sound
  · simpa only [putBack_of_le full] using sound

private theorem Sound.step (sound : usage.Sound) (use : Use ω)
    (few : (usage.step use).2.drawn < 2 ^ 64) : (usage.step use).2.Sound := by
  cases use with
  | borrow guarded =>
      have others : usage.limit.Kept (.idle :: usage.phases) usage.drawn :=
        (kept_cons_iff rfl).mpr sound
      refine others.perm ?_
      simpa [Usage.step, phases] using (List.perm_append_singleton Phase.idle usage.phases).symm
  | poll number waker =>
      cases found : usage.borrows[number]? with
      | none => simpa [Usage.step, found] using sound
      | some borrow =>
          cases ended : borrow.phase.isOver with
          | true => simpa [Usage.step, found, ended] using sound
          | false =>
              simp only [Usage.step, found, ended] at few ⊢
              exact sound.poll found waker few
  | drop number =>
      cases found : usage.borrows[number]? with
      | none => simpa [Usage.step, found] using sound
      | some borrow =>
          cases ended : borrow.phase.isOver with
          | true => simpa [Usage.step, found, ended] using sound
          | false =>
              simp only [Usage.step, found, ended]
              exact sound.drop found
  | tryBorrow guarded =>
      rcases Nat.eq_zero_or_pos usage.limit.available with spent | stocked
      · simpa [Usage.step, take?_of_eq_zero spent] using sound
      · simp only [Usage.step, take?_of_pos stocked]
        unfold Sound
        rw [limit_guardIf, phases_guardIf, drawn_guardIf]
        exact Kept.take sound
  | giveBack => exact sound.putBack
  | release =>
      cases held : usage.guards with
      | zero => simpa [Usage.step, held] using sound
      | succ guards =>
          have others : Sound { usage with guards } := sound
          simpa [Usage.step, held] using others.putBack

theorem drawn_le_poll (usage : Usage ω) (number : Nat) (borrow : Borrow ω) (waker : ω) :
    usage.drawn ≤ (usage.poll number borrow waker).drawn := by
  unfold poll
  split
  · simp
  · rw [drawn_setPhase]
    dsimp only
    split <;> omega

private theorem drawn_drop (usage : Usage ω) (number : Nat) (borrow : Borrow ω) :
    (usage.drop number borrow).2.drawn = usage.drawn := by
  unfold drop
  cases borrow.phase.ticket? <;> simp

theorem drawn_le_step (usage : Usage ω) (use : Use ω) :
    usage.drawn ≤ (usage.step use).2.drawn := by
  cases use with
  | borrow guarded => exact Nat.le_refl _
  | poll number waker =>
      simp only [step]
      split
      · exact Nat.le_refl _
      · split
        · exact Nat.le_refl _
        · exact drawn_le_poll ..
  | drop number =>
      simp only [step]
      split
      · exact Nat.le_refl _
      · split
        · exact Nat.le_refl _
        · exact Nat.le_of_eq (drawn_drop ..).symm
  | tryBorrow guarded =>
      simp only [step]
      split
      · exact Nat.le_refl _
      · simp
  | giveBack => simp [step]
  | release => cases held : usage.guards <;> simp [step, held]

/-- The record counts the tickets as the line does. -/
def Counts (usage : Usage ω) : Prop :=
  usage.limit.line.drawn = usage.drawn

private theorem Counts.poll (counts : usage.Counts) (number : Nat) (borrow : Borrow ω) (waker : ω) :
    (usage.poll number borrow waker).Counts := by
  unfold Counts at counts ⊢
  rcases Nat.eq_zero_or_pos usage.limit.available with spent | stocked
  · simp only [Usage.poll, poll_of_eq_zero spent]
    cases borrow.phase.ticket? <;> simp [setPhase, counts]
  · simp only [Usage.poll, poll_of_pos stocked, limit_guardIf, drawn_guardIf, drawn_setPhase]
    cases borrow.phase.ticket? <;> exact counts

private theorem Counts.drop (counts : usage.Counts) (number : Nat) (borrow : Borrow ω) :
    (usage.drop number borrow).2.Counts := by
  unfold Counts at counts ⊢
  unfold Usage.drop
  cases borrow.phase.ticket? with
  | none => exact counts
  | some ticket =>
      dsimp only
      rw [limit_handOver, drawn_handOver, drawn_cancel]
      exact counts

private theorem Counts.putBack (counts : usage.Counts) : usage.putBack.2.Counts := by
  unfold Counts at counts ⊢
  unfold Usage.putBack
  split
  · exact counts
  · next room =>
      rw [limit_handOver, drawn_handOver, Limit.drawn_putBack room]
      exact counts

private theorem Counts.step (counts : usage.Counts) (use : Use ω) : (usage.step use).2.Counts := by
  cases use with
  | borrow guarded => exact counts
  | poll number waker =>
      simp only [Usage.step]
      split
      · exact counts
      · split
        · exact counts
        · exact counts.poll ..
  | drop number =>
      simp only [Usage.step]
      split
      · exact counts
      · split
        · exact counts
        · exact counts.drop ..
  | tryBorrow guarded =>
      unfold Counts at counts ⊢
      rcases Nat.eq_zero_or_pos usage.limit.available with spent | stocked
      · simpa [Usage.step, take?_of_eq_zero spent] using counts
      · simpa [Usage.step, take?_of_pos stocked] using counts
  | giveBack => exact counts.putBack
  | release =>
      cases held : usage.guards with
      | zero => simpa [Usage.step, held] using counts
      | succ guards =>
          have others : Counts { usage with guards } := counts
          simpa [Usage.step, held] using others.putBack

theorem counts_run {capacity : Nat} (made : ofCapacity? capacity = some limit)
    (uses : List (Use ω)) : (run limit uses).Counts := by
  induction uses using List.reverseRecOn with
  | nil =>
      unfold ofCapacity? at made
      split at made
      · cases made
      · cases made
        rfl
  | append_singleton uses use ih =>
      rw [run_append_singleton]
      exact ih.step use

private theorem sound_of_made {capacity : Nat} (made : ofCapacity? capacity = some limit) :
    Sound { limit } := by
  unfold ofCapacity? at made
  split at made
  · cases made
  · cases made
    refine ⟨⟨WaitLine.serves_empty, fun parked => absurd rfl parked⟩, ?_⟩
    simp [phases]

theorem sound_run {capacity : Nat} (made : ofCapacity? capacity = some limit)
    (uses : List (Use ω)) (few : (run limit uses).drawn < 2 ^ 64) : (run limit uses).Sound := by
  induction uses using List.reverseRecOn with
  | nil => exact sound_of_made made
  | append_singleton uses use ih =>
      rw [run_append_singleton] at few ⊢
      exact (ih (Nat.lt_of_le_of_lt (drawn_le_step _ use) few)).step use few

end Usage

/-- While anybody is parked the woken are not fewer than the tokens, so if nobody is
woken whoever is parked waits for a token that is really missing. -/
theorem available_le_wokenCount {capacity : Nat} (made : ofCapacity? capacity = some limit)
    (uses : List (Use ω)) (few : (Usage.run limit uses).drawn < 2 ^ 64) :
    ((Usage.run limit uses).limit.line.waiters ≠ [] →
        (Usage.run limit uses).limit.available ≤ (Usage.run limit uses).wokenCount) ∧
      ((Usage.run limit uses).wokenCount = 0 →
        ∀ borrow ∈ (Usage.run limit uses).borrows, borrow.phase.isParked = true →
          (Usage.run limit uses).limit.available = 0) := by
  have kept : Kept _ _ _ := Usage.sound_run made uses few
  have covered : (Usage.run limit uses).limit.line.waiters ≠ [] →
      (Usage.run limit uses).limit.available ≤ (Usage.run limit uses).wokenCount := by
    intro parked
    rw [Usage.wokenCount, kept.countP_isWoken]
    exact kept.vigilant.covered parked
  refine ⟨covered, fun nobody borrow member parked => ?_⟩
  have standing := kept.waiters_ne_nil (List.mem_map_of_mem member) parked
  exact Nat.le_zero.mp (nobody ▸ covered standing)

/-- Two borrows wait for the one token. It is given back, so the first of them is woken;
a third borrow takes the token first, the first one parks again behind the second, and
then the token comes back once more. -/
def contendedUses : List (Use Nat) :=
  [.tryBorrow false, .borrow false, .borrow true, .borrow false, .poll 0 7, .poll 1 8, .giveBack,
    .poll 2 9, .poll 0 7, .giveBack]

theorem contendedUses_covered :
    (Usage.run { capacity := 1, available := 1 } contendedUses).limit.line.waiters ≠ [] ∧
      (Usage.run { capacity := 1, available := 1 } contendedUses).limit.available = 1 ∧
      1 ≤ (Usage.run { capacity := 1, available := 1 } contendedUses).wokenCount := by
  have parked : (Usage.run { capacity := 1, available := 1 } contendedUses).limit.line.waiters ≠ [] :=
    by decide
  have made : ofCapacity? 1 = some ({ capacity := 1, available := 1 } : Limit Nat) := rfl
  exact ⟨parked, rfl, (available_le_wokenCount made contendedUses (by decide)).1 parked⟩

end Cohort.Limit
