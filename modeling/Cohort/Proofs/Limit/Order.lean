import Mathlib.Data.List.Pairwise
import Mathlib.Data.Nat.Find
import Cohort.Proofs.Limit.Tokens

/-!
# Whom a returned token wakes

A token that is given back wakes whoever stands in front of the line. That is the borrow
which has stood there longest without a break. It need not be the one that came first: a
borrow that is woken and finds its token gone lines up again, behind those who came later.
-/

set_option autoImplicit false

namespace Cohort.Limit.Usage

variable {ω : Type} {limit : Limit ω} {usage next : Usage ω} {number other : Nat}
  {waiter : Waiter ω} {ticket : UInt64} {entry : Nat}

/-- A borrow stands in the line as `waiter`, according to the record. -/
def Parks (usage : Usage ω) (number : Nat) (waiter : Waiter ω) (entry : Nat) : Prop :=
  usage.phases[number]? = some (.parked waiter.ticket waiter.waker entry)

def stands (usage : Usage ω) (number : Nat) : Bool :=
  usage.phases[number]?.any Phase.isParked

theorem stands_iff :
    usage.stands number = true ↔ ∃ waiter entry, usage.Parks number waiter entry := by
  unfold stands Parks
  constructor
  · intro standing
    obtain ⟨phase, found, parked⟩ := Option.any_eq_true _ _ |>.mp standing
    cases phase with
    | parked ticket waker entry => exact ⟨⟨ticket, waker⟩, entry, found⟩
    | idle | woken _ | taken | dropped => cases parked
  · rintro ⟨waiter, entry, found⟩
    rw [found]
    rfl

theorem Parks.stands (parks : usage.Parks number waiter entry) : usage.stands number = true :=
  stands_iff.mpr ⟨waiter, entry, parks⟩

/-! ## What a use does to the line -/

/-- Nobody joins the line, and whoever still stands there stands there as before. -/
structure Thins (usage next : Usage ω) : Prop where
  entries : next.entries = usage.entries
  tickets : next.limit.line.tickets.Sublist usage.limit.line.tickets
  stays : ∀ number waiter entry, next.Parks number waiter entry →
    usage.Parks number waiter entry ∧
      (waiter ∈ usage.limit.line.waiters → waiter ∈ next.limit.line.waiters)

/-- All that one use can do to the line and to those who stand in it. -/
inductive Regroups (usage next : Usage ω) : Prop where
  | thins : Thins usage next → Regroups usage next
  /-- Somebody who stands in the line is polled again and keeps its place. -/
  | renews {number : Nat} {ticket : UInt64} {former waker : ω} {entry : Nat} :
      next.entries = usage.entries →
      usage.Parks number ⟨ticket, former⟩ entry →
      next.phases = usage.phases.set number (.parked ticket waker entry) →
      next.limit.line.waiters = WaitLine.rewake ticket waker usage.limit.line.waiters →
      Regroups usage next
  /-- Somebody who does not stand in the line goes to its end. -/
  | joins {number : Nat} {ticket : UInt64} {waker : ω} :
      next.entries = usage.entries + 1 →
      usage.stands number = false →
      ticket ∉ usage.limit.line.tickets →
      next.phases = usage.phases.set number (.parked ticket waker usage.entries) →
      next.limit.line.waiters = usage.limit.line.waiters ++ [⟨ticket, waker⟩] →
      Regroups usage next

theorem Sound.eq_of_ticket? (sound : usage.Sound) {phase phase' : Phase ω}
    (found : usage.phases[number]? = some phase) (found' : usage.phases[other]? = some phase')
    (held : phase.ticket? = some ticket) (held' : phase'.ticket? = some ticket) :
    other = number := by
  have distinct := List.pairwise_iff_getElem.mp
    (List.pairwise_filterMap.mp sound.vigilant.serves.distinct)
  obtain ⟨inside, rfl⟩ := List.getElem?_eq_some_iff.mp found
  obtain ⟨inside', rfl⟩ := List.getElem?_eq_some_iff.mp found'
  rcases Nat.lt_trichotomy other number with before | same | after
  · exact absurd rfl (distinct _ _ inside' inside before _ held' _ held)
  · exact same
  · exact absurd rfl (distinct _ _ inside inside' after _ held _ held')

private theorem Thins.trans {later : Usage ω} (thins : Thins usage next)
    (after : Thins next later) :
    Thins usage later where
  entries := after.entries.trans thins.entries
  tickets := after.tickets.trans thins.tickets
  stays := by
    intro number waiter entry parks
    obtain ⟨parked, kept⟩ := after.stays number waiter entry parks
    obtain ⟨before, first⟩ := thins.stays number waiter entry parked
    exact ⟨before, fun member => kept (first member)⟩

private theorem thins_of_same (entries : next.entries = usage.entries)
    (line : next.limit.line = usage.limit.line)
    (parks : ∀ number waiter entry, next.Parks number waiter entry →
      usage.Parks number waiter entry) : Thins usage next where
  entries := entries
  tickets := line ▸ List.Sublist.refl _
  stays := fun number waiter entry parked => ⟨parks number waiter entry parked, line ▸ id⟩

/-- If one borrow enters a phase, whoever is parked then was parked before or is that one. -/
private theorem parks_set {phase : Phase ω} (phases : next.phases = usage.phases.set number phase)
    (parks : next.Parks other waiter entry) :
    (other = number ∧ phase = .parked waiter.ticket waiter.waker entry) ∨
      (other ≠ number ∧ usage.Parks other waiter entry) := by
  unfold Parks at parks ⊢
  rw [phases] at parks
  by_cases same : number = other
  · subst same
    obtain ⟨inside, selected⟩ := List.getElem?_eq_some_iff.mp parks
    rw [List.getElem_set_self] at selected
    exact Or.inl ⟨rfl, selected⟩
  · rw [List.getElem?_set_ne same] at parks
    exact Or.inr ⟨Ne.symm same, parks⟩

private theorem parks_of_set_aside {phase : Phase ω} (aside : phase.isParked = false)
    (phases : next.phases = usage.phases.set number phase) (parks : next.Parks other waiter entry) :
    other ≠ number ∧ usage.Parks other waiter entry := by
  rcases parks_set phases parks with ⟨_, rfl⟩ | before
  · cases aside
  · exact before

private theorem parks_of_set_parked {waker : ω} {entry' : Nat}
    (phases : next.phases = usage.phases.set number (.parked ticket waker entry))
    (parks : next.Parks other waiter entry') :
    (other = number ∧ waiter = ⟨ticket, waker⟩ ∧ entry' = entry) ∨
      (other ≠ number ∧ usage.Parks other waiter entry') := by
  refine (parks_set phases parks).imp_left fun ⟨here, same⟩ => ?_
  cases waiter
  cases same
  exact ⟨here, rfl, rfl⟩

private theorem Sound.thins_leave (sound : usage.Sound) {borrow : Borrow ω} {phase : Phase ω}
    (found : usage.borrows[number]? = some borrow) (held : borrow.phase.ticket? = some ticket)
    (aside : phase.isParked = false) (entries : next.entries = usage.entries)
    (phases : next.phases = usage.phases.set number phase)
    (line : next.limit.line = usage.limit.line.leave ticket) : Thins usage next := by
  have found' : usage.phases[number]? = some borrow.phase := by simp [Usage.phases, found]
  refine ⟨entries, ?_, fun other waiter entry parks => ?_⟩
  · rw [line, WaitLine.tickets_leave]
    exact List.filter_sublist
  · obtain ⟨different, parked⟩ := parks_of_set_aside aside phases parks
    refine ⟨parked, fun member => ?_⟩
    rw [line]
    refine List.mem_filter.mpr ⟨member, decide_eq_true fun same => different ?_⟩
    exact sound.eq_of_ticket? found' parked held (congrArg some same)

private theorem thins_wakeFront (entries : next.entries = usage.entries)
    (phases : next.phases = Phase.wakeFront usage.limit.line usage.phases)
    (line : next.limit.line = usage.limit.line.shift.2) : Thins usage next := by
  unfold Phase.wakeFront at phases
  cases waiters : usage.limit.line.waiters with
  | nil =>
      rw [waiters] at phases
      refine thins_of_same entries (by simp [line, WaitLine.shift, waiters]) ?_
      intro number waiter entry parks
      rwa [Parks, phases] at parks
  | cons front behind =>
      rw [waiters] at phases
      refine ⟨entries, ?_, fun number waiter entry parks => ?_⟩
      · rw [line, WaitLine.tickets_shift]
        exact List.tail_sublist _
      · unfold Parks at parks
        rw [phases, List.getElem?_map] at parks
        obtain ⟨phase, found, woken⟩ := Option.map_eq_some_iff.mp parks
        cases phase with
        | parked ticket waker entry' =>
            simp only [Phase.wake] at woken
            split at woken
            · cases woken
            · next different =>
                cases woken
                refine ⟨found, fun member => ?_⟩
                rw [line, WaitLine.shift, waiters]
                rcases List.mem_cons.mp (waiters ▸ member) with foremost | member
                · exact absurd (congrArg Waiter.ticket foremost) different
                · exact member
        | idle | woken _ | taken | dropped => cases woken

@[simp]
theorem entries_guardIf (usage : Usage ω) (guarded : Bool) :
    (usage.guardIf guarded).entries = usage.entries := by
  cases guarded <;> rfl

@[simp]
theorem entries_handOver (usage : Usage ω) (change : Option ω × Limit ω) :
    (usage.handOver change).2.entries = usage.entries := by
  obtain ⟨woken, limit⟩ := change
  cases woken <;> rfl

private theorem Sound.regroups_poll (sound : usage.Sound) {borrow : Borrow ω}
    (found : usage.borrows[number]? = some borrow) (waiting : borrow.phase.isOver = false)
    (waker : ω) : Regroups usage (usage.poll number borrow waker) := by
  have found' : usage.phases[number]? = some borrow.phase := by simp [Usage.phases, found]
  rcases Nat.eq_zero_or_pos usage.limit.available with spent | stocked
  · have serves := sound.vigilant.serves
    have tells := sound.tells _ (List.mem_of_getElem? found')
    simp only [Usage.poll, poll_of_eq_zero spent]
    cases phase_eq : borrow.phase with
    | idle =>
        have afar : usage.stands number = false := by
          simp [stands, found', phase_eq, Phase.isParked]
        simp only [Phase.ticket?, WaitLine.park_none serves.holds_next]
        exact .joins rfl afar (WaitLine.holds_eq_false_iff.mp serves.holds_next)
          (phases_setPhase ..) rfl
    | woken ticket =>
        have afar : usage.stands number = false := by
          simp [stands, found', phase_eq, Phase.isParked]
        have absent : usage.limit.line.holds ticket = false := by
          simpa [phase_eq, Phase.isParked] using tells ticket (by rw [phase_eq]; rfl)
        simp only [Phase.ticket?, WaitLine.park_of_not_holds absent]
        exact .joins rfl afar (WaitLine.holds_eq_false_iff.mp absent) (phases_setPhase ..) rfl
    | parked ticket former entry =>
        have standing : usage.limit.line.holds ticket = true := by
          simpa [phase_eq, Phase.isParked] using tells ticket (by rw [phase_eq]; rfl)
        simp only [Phase.ticket?, WaitLine.park_of_holds standing]
        exact .renews rfl (phase_eq ▸ found') (phases_setPhase ..) rfl
    | taken | dropped => simp [phase_eq, Phase.isOver] at waiting
  · simp only [Usage.poll, poll_of_pos stocked]
    have taken (changed : Usage ω) (same : changed.phases = usage.phases) :
        ((changed.setPhase number borrow .taken).guardIf borrow.guarded).phases =
          usage.phases.set number .taken := by
      rw [phases_guardIf, phases_setPhase, same]
    refine .thins ?_
    cases held : borrow.phase.ticket? with
    | none =>
        refine thins_of_same (entries_guardIf ..) (by rw [limit_guardIf]; rfl) ?_
        exact fun other waiter entry parks => (parks_of_set_aside rfl (taken _ (by rfl)) parks).2
    | some ticket =>
        exact sound.thins_leave found held rfl (entries_guardIf ..) (taken _ rfl)
          (by rw [limit_guardIf]; rfl)

private theorem thins_handOver (usage : Usage ω) (changed : Limit ω)
    (same : changed.line = usage.limit.line) :
    Thins usage (usage.handOver changed.wakeNext).2 := by
  obtain ⟨limit_eq, phases_eq, _⟩ := usage.handOver_wakeNext changed same
  refine thins_wakeFront (entries_handOver ..) phases_eq ?_
  rw [limit_eq, wakeNext, same]

private theorem Sound.thins_drop (sound : usage.Sound) {borrow : Borrow ω}
    (found : usage.borrows[number]? = some borrow) :
    Thins usage (usage.drop number borrow).2 := by
  have gone : Thins usage (usage.setPhase number borrow .dropped) :=
    thins_of_same rfl rfl fun other waiter entry parks =>
      (parks_of_set_aside rfl (phases_setPhase ..) parks).2
  unfold Usage.drop
  cases held : borrow.phase.ticket? with
  | none => exact gone
  | some ticket =>
      cases standing : usage.limit.line.holds ticket with
      | true =>
          simp only [cancel_of_holds standing, handOver]
          exact sound.thins_leave found held rfl rfl (phases_setPhase ..) rfl
      | false =>
          simp only [cancel_of_not_holds standing]
          exact gone.trans (thins_handOver _ _ rfl)

private theorem thins_putBack (usage : Usage ω) : Thins usage usage.putBack.2 := by
  rcases Nat.lt_or_ge usage.limit.available usage.limit.capacity with room | full
  · simp only [putBack, putBack_of_lt room]
    exact thins_handOver _ _ rfl
  · rw [putBack_of_full full]
    exact thins_of_same rfl rfl fun _ _ _ parks => parks

private theorem Sound.regroups_step (sound : usage.Sound) (use : Use ω) :
    Regroups usage (usage.step use).2 := by
  have alone : Thins usage usage := thins_of_same rfl rfl fun _ _ _ parks => parks
  cases use with
  | borrow guarded =>
      refine .thins (thins_of_same rfl rfl fun number waiter entry parks => ?_)
      unfold Parks at parks ⊢
      simp only [Usage.step, Usage.phases, List.map_append, List.getElem?_append] at parks
      split at parks
      · exact parks
      · simp [List.getElem?_singleton] at parks
  | poll number waker =>
      cases found : usage.borrows[number]? with
      | none => simpa [Usage.step, found] using .thins alone
      | some borrow =>
          cases ended : borrow.phase.isOver with
          | true => simpa [Usage.step, found, ended] using .thins alone
          | false =>
              simp only [Usage.step, found, ended]
              exact sound.regroups_poll found ended waker
  | drop number =>
      refine .thins ?_
      cases found : usage.borrows[number]? with
      | none => simpa [Usage.step, found] using alone
      | some borrow =>
          cases ended : borrow.phase.isOver with
          | true => simpa [Usage.step, found, ended] using alone
          | false =>
              simp only [Usage.step, found, ended]
              exact sound.thins_drop found
  | tryBorrow guarded =>
      refine .thins ?_
      rcases Nat.eq_zero_or_pos usage.limit.available with spent | stocked
      · simpa [Usage.step, take?_of_eq_zero spent] using alone
      · simp only [Usage.step, take?_of_pos stocked]
        refine thins_of_same (entries_guardIf ..) (by rw [limit_guardIf]) ?_
        intro number waiter entry parks
        rwa [Parks, phases_guardIf] at parks
  | giveBack => exact .thins (thins_putBack usage)
  | release =>
      refine .thins ?_
      cases held : usage.guards with
      | zero => simpa [Usage.step, held] using alone
      | succ guards =>
          have others := thins_putBack { usage with guards }
          simp only [Usage.step, held]
          exact ⟨others.entries, others.tickets, others.stays⟩

/-! ## The order of the line -/

/-- The line tells of everybody who is parked, in the order in which they joined it. -/
structure Ordered (usage : Usage ω) : Prop where
  listed : ∀ number waiter entry, usage.Parks number waiter entry →
    waiter ∈ usage.limit.line.waiters
  recent : ∀ number waiter entry, usage.Parks number waiter entry → entry < usage.entries
  ranked : usage.limit.line.tickets.Pairwise fun front behind =>
    ∀ number waiter entry number' waiter' entry', usage.Parks number waiter entry →
      usage.Parks number' waiter' entry' → waiter.ticket = front → waiter'.ticket = behind →
        entry < entry'

private theorem ordered_of_made {capacity : Nat} (made : ofCapacity? capacity = some limit) :
    Ordered { limit } := by
  unfold ofCapacity? at made
  split at made
  · cases made
  · cases made
    exact ⟨by simp [Parks, phases], by simp [Parks, phases], List.Pairwise.nil⟩

private theorem Ordered.thins (ordered : usage.Ordered) (thins : Thins usage next) :
    next.Ordered where
  listed := by
    intro number waiter entry parks
    obtain ⟨before, kept⟩ := thins.stays number waiter entry parks
    exact kept (ordered.listed number waiter entry before)
  recent := by
    intro number waiter entry parks
    rw [thins.entries]
    exact ordered.recent number waiter entry (thins.stays number waiter entry parks).1
  ranked := by
    refine (ordered.ranked.sublist thins.tickets).imp fun {front behind} before => ?_
    intro number waiter entry number' waiter' entry' parks parks'
    exact before _ _ _ _ _ _ (thins.stays _ _ _ parks).1 (thins.stays _ _ _ parks').1

private theorem Sound.ticket_ne (sound : usage.Sound) {waiter' : Waiter ω} {entry' : Nat}
    (parks : usage.Parks number waiter entry) (parks' : usage.Parks other waiter' entry')
    (different : other ≠ number) : waiter'.ticket ≠ waiter.ticket :=
  fun same => different (sound.eq_of_ticket? parks parks' rfl (congrArg some same))

private theorem Ordered.renews (ordered : usage.Ordered) (sound : usage.Sound) {former waker : ω}
    (entries : next.entries = usage.entries) (polled : usage.Parks number ⟨ticket, former⟩ entry)
    (phases : next.phases = usage.phases.set number (.parked ticket waker entry))
    (waiters : next.limit.line.waiters = WaitLine.rewake ticket waker usage.limit.line.waiters) :
    next.Ordered := by
  have before : ∀ other waiter entry', next.Parks other waiter entry' →
      ∃ former, usage.Parks other former entry' ∧ former.ticket = waiter.ticket := by
    intro other waiter entry' parks
    rcases parks_of_set_parked phases parks with ⟨rfl, rfl, rfl⟩ | ⟨_, parked⟩
    · exact ⟨_, polled, rfl⟩
    · exact ⟨_, parked, rfl⟩
  constructor
  case listed =>
    intro other waiter entry' parks
    rw [waiters]
    rcases parks_of_set_parked phases parks with ⟨_, rfl, _⟩ | ⟨different, parked⟩
    · exact WaitLine.mem_rewake_self waker (List.mem_map_of_mem (ordered.listed _ _ _ polled))
    · exact WaitLine.mem_rewake_of_ne waker (ordered.listed _ _ _ parked)
        (sound.ticket_ne polled parked different)
  case recent =>
    intro other waiter entry' parks
    obtain ⟨former, parked, _⟩ := before other waiter entry' parks
    exact entries ▸ ordered.recent other former entry' parked
  case ranked =>
    have tickets : next.limit.line.tickets = usage.limit.line.tickets := by
      rw [WaitLine.tickets, waiters, WaitLine.map_ticket_rewake, WaitLine.tickets]
    rw [tickets]
    refine ordered.ranked.imp fun {front behind} ranked => ?_
    intro one waiter entry other waiter' entry' parks parks' same same'
    obtain ⟨former, parked, kept⟩ := before _ _ _ parks
    obtain ⟨former', parked', kept'⟩ := before _ _ _ parks'
    exact ranked _ _ _ _ _ _ parked parked' (kept.trans same) (kept'.trans same')

private theorem Ordered.joins (ordered : usage.Ordered) {waker : ω}
    (entries : next.entries = usage.entries + 1) (absent : ticket ∉ usage.limit.line.tickets)
    (phases : next.phases = usage.phases.set number (.parked ticket waker usage.entries))
    (waiters : next.limit.line.waiters = usage.limit.line.waiters ++ [⟨ticket, waker⟩]) :
    next.Ordered := by
  constructor
  case listed =>
    intro other waiter entry parks
    rw [waiters]
    rcases parks_of_set_parked phases parks with ⟨_, rfl, _⟩ | ⟨_, parked⟩
    · exact List.mem_append_right _ (List.mem_singleton_self _)
    · exact List.mem_append_left _ (ordered.listed _ _ _ parked)
  case recent =>
    intro other waiter entry parks
    rw [entries]
    rcases parks_of_set_parked phases parks with ⟨_, _, rfl⟩ | ⟨_, parked⟩
    · exact Nat.lt_succ_self _
    · exact Nat.lt_succ_of_lt (ordered.recent _ _ _ parked)
  case ranked =>
    have earlier : ∀ other waiter entry, next.Parks other waiter entry →
        waiter.ticket ∈ usage.limit.line.tickets → usage.Parks other waiter entry := by
      intro other waiter entry parks standing
      rcases parks_of_set_parked phases parks with ⟨_, rfl, _⟩ | ⟨_, parked⟩
      · exact absurd standing absent
      · exact parked
    have latest : ∀ other waiter entry, next.Parks other waiter entry →
        waiter.ticket = ticket → entry = usage.entries := by
      intro other waiter entry parks same
      rcases parks_of_set_parked phases parks with ⟨_, _, rfl⟩ | ⟨_, parked⟩
      · rfl
      · exact absurd (same ▸ List.mem_map_of_mem (ordered.listed _ _ _ parked)) absent
    have tickets : next.limit.line.tickets = usage.limit.line.tickets ++ [ticket] := by
      rw [WaitLine.tickets, waiters, List.map_append, WaitLine.tickets]
      rfl
    rw [tickets]
    refine List.pairwise_append.mpr ⟨?_, List.pairwise_singleton _ _, ?_⟩
    · refine ordered.ranked.imp_of_mem fun {front behind} ahead after ranked => ?_
      intro one waiter entry other waiter' entry' parks parks' same same'
      exact ranked _ _ _ _ _ _ (earlier _ _ _ parks (same ▸ ahead))
        (earlier _ _ _ parks' (same' ▸ after)) same same'
    · intro front ahead behind last _ _ entry _ _ entry' parks parks' same same'
      rw [latest _ _ _ parks' (same'.trans (List.mem_singleton.mp last))]
      exact ordered.recent _ _ _ (earlier _ _ _ parks (same ▸ ahead))

private theorem Ordered.step (ordered : usage.Ordered) (sound : usage.Sound) (use : Use ω) :
    (usage.step use).2.Ordered := by
  have regroups := sound.regroups_step use
  generalize (usage.step use).2 = next at regroups ⊢
  cases regroups with
  | thins thins => exact ordered.thins thins
  | renews entries polled phases waiters => exact ordered.renews sound entries polled phases waiters
  | joins entries _ absent phases waiters => exact ordered.joins entries absent phases waiters

theorem ordered_run {capacity : Nat} (made : ofCapacity? capacity = some limit)
    (uses : List (Use ω)) (few : (run limit uses).drawn < 2 ^ 64) : (run limit uses).Ordered := by
  induction uses using List.reverseRecOn with
  | nil => exact ordered_of_made made
  | append_singleton uses use ih =>
      rw [run_append_singleton] at few ⊢
      have before := Nat.lt_of_le_of_lt (drawn_le_step _ use) few
      exact (ih before).step (sound_run made uses before) use

/-! ## How long a borrow has been parked -/

/-- The borrow was parked for the first time when `moment` of the uses were carried out: the
last of them was its first poll that left it waiting. -/
structure Arrives (limit : Limit ω) (uses : List (Use ω)) (number moment : Nat) : Prop where
  within : moment ≤ uses.length
  parked : (run limit (uses.take moment)).stands number = true
  first : ∀ earlier < moment, (run limit (uses.take earlier)).stands number = false

/-- The borrow has been parked ever since `moment` of the uses were carried out, and was not
just before. -/
structure ParkedSince (limit : Limit ω) (uses : List (Use ω)) (number moment : Nat) : Prop where
  within : moment ≤ uses.length
  parked : ∀ instant, moment ≤ instant → instant ≤ uses.length →
    (run limit (uses.take instant)).stands number = true
  joined : ∀ earlier, earlier + 1 = moment →
    (run limit (uses.take earlier)).stands number = false

private theorem ParkedSince.append_singleton {uses : List (Use ω)} {moment : Nat} {use : Use ω}
    (since : ParkedSince limit uses number moment)
    (still : (run limit (uses ++ [use])).stands number = true) :
    ParkedSince limit (uses ++ [use]) number moment where
  within := by
    rw [List.length_append]
    exact Nat.le_add_right_of_le since.within
  parked := by
    intro instant after before
    rcases Nat.lt_or_ge uses.length instant with last | inside
    · rwa [List.take_of_length_le (by rw [List.length_append]; exact last)]
    · rw [List.take_append_of_le_length inside]
      exact since.parked instant after inside
  joined := by
    intro earlier next
    rw [List.take_append_of_le_length (by have := since.within; omega)]
    exact since.joined earlier next

private theorem Regroups.entries_le (regroups : Regroups usage next) :
    usage.entries ≤ next.entries ∧ next.entries ≤ usage.entries + 1 := by
  cases regroups with
  | thins thins => rw [thins.entries]; exact ⟨Nat.le_refl _, Nat.le_succ _⟩
  | renews entries => rw [entries]; exact ⟨Nat.le_refl _, Nat.le_succ _⟩
  | joins entries => rw [entries]; exact ⟨Nat.le_succ _, Nat.le_refl _⟩

/-- Whoever is parked after a use was parked before under the same entry, or has just joined. -/
private theorem Regroups.parks (regroups : Regroups usage next)
    (parks : next.Parks number waiter entry) :
    (∃ former, usage.Parks number former entry) ∨
      (usage.stands number = false ∧ entry = usage.entries ∧ next.entries = usage.entries + 1) := by
  cases regroups with
  | thins thins => exact Or.inl ⟨waiter, (thins.stays _ _ _ parks).1⟩
  | renews _ polled phases _ =>
      rcases parks_of_set_parked phases parks with ⟨rfl, _, rfl⟩ | ⟨_, parked⟩
      · exact Or.inl ⟨_, polled⟩
      · exact Or.inl ⟨_, parked⟩
  | joins entries afar _ phases _ =>
      rcases parks_of_set_parked phases parks with ⟨rfl, _, rfl⟩ | ⟨_, parked⟩
      · exact Or.inr ⟨afar, rfl, entries⟩
      · exact Or.inl ⟨_, parked⟩

theorem drawn_take_le (uses : List (Use ω)) (moment : Nat) :
    (run limit (uses.take moment)).drawn ≤ (run limit uses).drawn := by
  induction uses using List.reverseRecOn with
  | nil => simp
  | append_singleton uses use ih =>
      rcases Nat.lt_or_ge uses.length moment with last | inside
      · rw [List.take_of_length_le (by rw [List.length_append]; exact last)]
      · rw [List.take_append_of_le_length inside, run_append_singleton]
        exact Nat.le_trans ih (drawn_le_step _ use)

private theorem entries_take_le {capacity : Nat} (made : ofCapacity? capacity = some limit)
    (uses : List (Use ω)) (few : (run limit uses).drawn < 2 ^ 64) (moment : Nat) :
    (run limit (uses.take moment)).entries ≤ (run limit uses).entries := by
  induction uses using List.reverseRecOn with
  | nil => simp
  | append_singleton uses use ih =>
      rcases Nat.lt_or_ge uses.length moment with last | inside
      · rw [List.take_of_length_le (by rw [List.length_append]; exact last)]
      · rw [List.take_append_of_le_length inside]
        rw [run_append_singleton] at few ⊢
        have before := Nat.lt_of_le_of_lt (drawn_le_step _ use) few
        have grows := ((sound_run made uses before).regroups_step use).entries_le.1
        exact Nat.le_trans (ih before) grows

theorem entries_take_mono {capacity : Nat} (made : ofCapacity? capacity = some limit)
    (uses : List (Use ω)) (few : (run limit uses).drawn < 2 ^ 64) {earlier later : Nat}
    (before : earlier ≤ later) :
    (run limit (uses.take earlier)).entries ≤ (run limit (uses.take later)).entries := by
  have within := Nat.lt_of_le_of_lt (drawn_take_le uses later) few
  have grows := entries_take_le made (uses.take later) within earlier
  rwa [List.take_take, Nat.min_eq_left before] at grows

/-- Whoever is parked has been since it joined the line, which its entry tells. -/
theorem exists_parkedSince {capacity : Nat} (made : ofCapacity? capacity = some limit)
    (uses : List (Use ω)) (few : (run limit uses).drawn < 2 ^ 64)
    (parks : (run limit uses).Parks number waiter entry) :
    ∃ since, ParkedSince limit uses number since ∧
      (run limit (uses.take since)).entries = entry + 1 := by
  induction uses using List.reverseRecOn generalizing waiter with
  | nil => exact absurd parks (by simp [run, Parks, phases])
  | append_singleton uses use ih =>
      have still := parks.stands
      have whole : (uses ++ [use]).take (uses.length + 1) = uses ++ [use] :=
        List.take_of_length_le (Nat.le_of_eq List.length_append)
      rw [run_append_singleton] at few parks
      have before := Nat.lt_of_le_of_lt (drawn_le_step _ use) few
      rcases ((sound_run made uses before).regroups_step use).parks parks with
        ⟨former, parked⟩ | ⟨afar, new, grown⟩
      · obtain ⟨since, parkedSince, counted⟩ := ih before parked
        refine ⟨since, parkedSince.append_singleton still, ?_⟩
        rwa [List.take_append_of_le_length parkedSince.within]
      · refine ⟨uses.length + 1, ⟨by simp, ?_, ?_⟩, ?_⟩
        · intro instant after _
          rwa [List.take_of_length_le (by rw [List.length_append]; exact after)]
        · intro earlier last
          cases last
          rwa [List.take_append_of_le_length (Nat.le_refl _), List.take_length]
        · rw [whole, run_append_singleton, grown, new]

private theorem ParkedSince.le {uses : List (Use ω)} {since moment : Nat}
    (parkedSince : ParkedSince limit uses number since)
    (other : ParkedSince limit uses number moment) : since ≤ moment := by
  refine Nat.le_of_not_lt fun before => ?_
  obtain ⟨earlier, rfl⟩ := Nat.exists_eq_succ_of_ne_zero (Nat.ne_zero_of_lt before)
  have within := parkedSince.within
  have parked := other.parked earlier (by omega) (by omega)
  rw [parkedSince.joined earlier rfl] at parked
  cases parked

private theorem exists_arrives {uses : List (Use ω)} {moment : Nat} (within : moment ≤ uses.length)
    (parked : (run limit (uses.take moment)).stands number = true) :
    ∃ first ≤ moment, Arrives limit uses number first := by
  have ever : ∃ moment, (run limit (uses.take moment)).stands number = true := ⟨moment, parked⟩
  have least := Nat.find_min' ever parked
  refine ⟨Nat.find ever, least, Nat.le_trans least within, Nat.find_spec ever, ?_⟩
  intro earlier before
  exact Bool.eq_false_iff.mpr (Nat.find_min ever before)

/-! ## Who is woken -/

private theorem putBack_of_waiters {front : Waiter ω} {behind : List (Waiter ω)}
    (waiters : usage.limit.line.waiters = front :: behind)
    (room : usage.limit.available < usage.limit.capacity) :
    usage.putBack.1 = some front.waker ∧
      usage.putBack.2.borrows = usage.borrows.map fun borrow =>
        { borrow with phase := borrow.phase.wake front.ticket } := by
  simp [putBack, putBack_of_lt room, wakeNext, WaitLine.shift, waiters, handOver]

private theorem lt_of_isOk (granted : limit.putBack.isOk = true) :
    limit.available < limit.capacity := by
  rcases Nat.lt_or_ge limit.available limit.capacity with room | full
  · exact room
  · rw [putBack_of_le full] at granted
    cases granted

/-- A token that is given back, by hand or by a guard, wakes whoever stands in front. -/
private theorem step_of_gives {use : Use ω} {guarded : Bool} {front : Waiter ω}
    {behind : List (Waiter ω)}
    (gives : usage.errand? use = some (.give guarded)) (granted : usage.grants use = true)
    (waiters : usage.limit.line.waiters = front :: behind) :
    (usage.step use).1 = some front.waker ∧
      (usage.step use).2.borrows = usage.borrows.map fun borrow =>
        { borrow with phase := borrow.phase.wake front.ticket } := by
  cases use with
  | giveBack => exact putBack_of_waiters waiters (lt_of_isOk granted)
  | release =>
      cases held : usage.guards with
      | zero => simp [errand?, held] at gives
      | succ guards =>
          have woken := @putBack_of_waiters _ { usage with guards } _ _ waiters (lt_of_isOk granted)
          simpa [step, held] using woken
  | borrow _ | drop _ | tryBorrow _ => cases gives
  | poll number waker =>
      cases found : usage.borrows[number]? with
      | none => simp [errand?, found] at gives
      | some borrow => simp [errand?, found] at gives

/-- Whoever stands in front joined the line before everybody else who stands there. -/
private theorem Ordered.front (ordered : usage.Ordered) (sound : usage.Sound) {front : Waiter ω}
    {behind : List (Waiter ω)} (waiters : usage.limit.line.waiters = front :: behind) :
    ∃ number entry, usage.Parks number front entry ∧
      ∀ other waiter entry', usage.Parks other waiter entry' → other ≠ number →
        entry < entry' := by
  have tickets : usage.limit.line.tickets = front.ticket :: behind.map Waiter.ticket := by
    rw [WaitLine.tickets, waiters, List.map_cons]
  have standing : front.ticket ∈ usage.limit.line.tickets := tickets ▸ List.mem_cons_self
  obtain ⟨phase, member, held⟩ := List.mem_filterMap.mp (sound.vigilant.serves.waits _ standing)
  have parked : phase.isParked = true := by
    rw [← sound.tells phase member _ held]
    exact WaitLine.holds_iff.mpr standing
  obtain ⟨number, found⟩ := List.mem_iff_getElem?.mp member
  have stands : usage.stands number = true := by rwa [stands, found]
  obtain ⟨waiter, entry, parks⟩ := stands_iff.mp stands
  have same : waiter.ticket = front.ticket := by
    cases Option.some.inj (found.symm.trans parks)
    exact Option.some.inj held
  -- Tickets are distinct, so the record names the very waiter that stands in front.
  have foremost : waiter = front := by
    rcases List.mem_cons.mp (waiters ▸ ordered.listed _ _ _ parks) with foremost | member
    · exact foremost
    · have absent := (List.nodup_cons.mp (tickets ▸ sound.vigilant.serves.once)).1
      exact absurd (same ▸ List.mem_map_of_mem member) absent
  subst foremost
  refine ⟨number, entry, parks, fun other waiter' entry' parks' different => ?_⟩
  rcases List.mem_cons.mp (waiters ▸ ordered.listed _ _ _ parks') with rfl | member
  · exact absurd rfl (sound.ticket_ne parks parks' different)
  · have ranked := ordered.ranked
    rw [tickets] at ranked
    exact (List.pairwise_cons.mp ranked).1 _ (List.mem_map_of_mem member) _ _ _ _ _ _ parks parks'
      rfl rfl

private theorem Sound.map_wake_eq_set (sound : usage.Sound) {borrow : Borrow ω}
    (found : usage.borrows[number]? = some borrow)
    (parked : borrow.phase = .parked waiter.ticket waiter.waker entry) :
    (usage.borrows.map fun borrow => { borrow with phase := borrow.phase.wake waiter.ticket }) =
      usage.borrows.set number { borrow with phase := .woken waiter.ticket } := by
  have parks : usage.Parks number waiter entry := by simp [Parks, phases, found, parked]
  refine List.ext_getElem? fun other => ?_
  rw [List.getElem?_map]
  by_cases same : number = other
  · subst same
    obtain ⟨inside, _⟩ := List.getElem?_eq_some_iff.mp found
    simp [found, parked, Phase.wake, List.getElem?_set_self inside]
  · rw [List.getElem?_set_ne same]
    cases found' : usage.borrows[other]? with
    | none => rfl
    | some borrow' =>
        obtain ⟨guarded, phase⟩ := borrow'
        cases phase with
        | parked ticket waker entry' =>
            have parks' : usage.Parks other ⟨ticket, waker⟩ entry' := by
              simp [Parks, phases, found']
            have different := sound.ticket_ne parks parks' (Ne.symm same)
            simp [Phase.wake, different]
        | idle | woken _ | taken | dropped => rfl

/-- What a returned token comes to for those who are parked: borrow `number` is woken, which
has been parked since `since`. -/
structure Relieves (limit : Limit ω) (uses : List (Use ω)) (use : Use ω) (number since : Nat) :
    Prop where
  /-- The waker of its latest poll is called, and nobody else is woken. -/
  woken : ∃ borrow ticket waker entry, (run limit uses).borrows[number]? = some borrow ∧
    borrow.phase = .parked ticket waker entry ∧
    ((run limit uses).step use).1 = some waker ∧
    ((run limit uses).step use).2.borrows =
      (run limit uses).borrows.set number { borrow with phase := .woken ticket }
  parked : ParkedSince limit uses number since
  /-- Everybody else who is parked lined up later. -/
  longest : ∀ other, other ≠ number → (run limit uses).stands other = true →
    ∃ later, since < later ∧ ParkedSince limit uses other later
  /-- Whoever has been parked without a break since it came has also come later. -/
  earliest : ∀ other later, other ≠ number → Arrives limit uses other later →
    ParkedSince limit uses other later → ∃ earlier < later, Arrives limit uses number earlier

theorem relieves_run {capacity : Nat} (made : ofCapacity? capacity = some limit)
    (uses : List (Use ω)) (few : (run limit uses).drawn < 2 ^ 64) {use : Use ω} {guarded : Bool}
    (gives : (run limit uses).errand? use = some (.give guarded))
    (granted : (run limit uses).grants use = true)
    (parked : ∃ number, (run limit uses).stands number = true) :
    ∃ number since, Relieves limit uses use number since := by
  have sound := sound_run made uses few
  have ordered := ordered_run made uses few
  obtain ⟨one, standing⟩ := parked
  obtain ⟨waiter, _, parks⟩ := stands_iff.mp standing
  cases waiters : (run limit uses).limit.line.waiters with
  | nil =>
      have member := ordered.listed _ _ _ parks
      rw [waiters] at member
      exact absurd member List.not_mem_nil
  | cons front behind =>
      obtain ⟨number, entry, leads, first⟩ := ordered.front sound waiters
      obtain ⟨called, woken⟩ := step_of_gives gives granted waiters
      obtain ⟨since, parkedSince, counted⟩ := exists_parkedSince made uses few leads
      have longest : ∀ other, other ≠ number → (run limit uses).stands other = true →
          ∃ later, since < later ∧ ParkedSince limit uses other later := by
        intro other different standing
        obtain ⟨waiter', entry', parks'⟩ := stands_iff.mp standing
        obtain ⟨later, parkedSince', counted'⟩ := exists_parkedSince made uses few parks'
        refine ⟨later, Nat.lt_of_not_le fun before => ?_, parkedSince'⟩
        have lower := first other waiter' entry' parks' different
        have fewer := entries_take_mono made uses few before
        omega
      refine ⟨number, since, ?_, parkedSince, longest, ?_⟩
      · unfold Parks at leads
        rw [phases, List.getElem?_map] at leads
        obtain ⟨borrow, found, phase⟩ := Option.map_eq_some_iff.mp leads
        rw [sound.map_wake_eq_set found phase] at woken
        exact ⟨borrow, _, _, _, found, phase, called, woken⟩
      · intro other later different arrives parkedSince'
        have standing := parkedSince'.parked uses.length parkedSince'.within (Nat.le_refl _)
        rw [List.take_length] at standing
        obtain ⟨moment, after, parkedSince''⟩ := longest other different standing
        obtain ⟨earliest, before, came⟩ := exists_arrives parkedSince.within
          (parkedSince.parked since (Nat.le_refl _) parkedSince.within)
        have same := parkedSince''.le parkedSince'
        exact ⟨earliest, by omega, came⟩

/-- Borrow 0 waits for the one token, and then borrow 1 does. The token is given back, so
borrow 0 is woken; it is polled when somebody else has taken the token, and waits again. -/
def bargedUses : List (Use Nat) :=
  [.tryBorrow false, .borrow false, .borrow false, .poll 0 7, .poll 1 8, .giveBack,
    .tryBorrow false, .poll 0 7]

theorem bargedUses_relieved :
    ofCapacity? 1 = some ({ capacity := 1, available := 1 } : Limit Nat) ∧
      (run { capacity := 1, available := 1 } bargedUses).errand? .giveBack = some (.give false) ∧
      (run { capacity := 1, available := 1 } bargedUses).grants .giveBack = true ∧
      ∃ number since,
        Relieves { capacity := 1, available := 1 } bargedUses .giveBack number since := by
  have made : ofCapacity? 1 = some ({ capacity := 1, available := 1 } : Limit Nat) := rfl
  have gives : (run { capacity := 1, available := 1 } bargedUses).errand? .giveBack =
      some (.give false) := rfl
  exact ⟨made, gives, by decide,
    relieves_run made bargedUses (by decide) gives (by decide) ⟨0, by decide⟩⟩

/-- Both borrows are parked, and borrow 0 was so first; but borrow 1 is woken. -/
theorem bargedUses_passed_over :
    ofCapacity? 1 = some ({ capacity := 1, available := 1 } : Limit Nat) ∧
      (run { capacity := 1, available := 1 } bargedUses).grants .giveBack = true ∧
      (run { capacity := 1, available := 1 } bargedUses).stands 0 = true ∧
      (run { capacity := 1, available := 1 } bargedUses).stands 1 = true ∧
      Arrives { capacity := 1, available := 1 } bargedUses 0 4 ∧
      Arrives { capacity := 1, available := 1 } bargedUses 1 5 ∧
      ((run { capacity := 1, available := 1 } bargedUses).step .giveBack).1 = some 8 ∧
      ((run { capacity := 1, available := 1 } bargedUses).step .giveBack).2.stands 0 = true ∧
      ((run { capacity := 1, available := 1 } bargedUses).step .giveBack).2.stands 1 = false :=
  ⟨rfl, by decide, by decide, by decide, ⟨by decide, by decide, by decide⟩,
    ⟨by decide, by decide, by decide⟩, by decide, by decide, by decide⟩

end Cohort.Limit.Usage
