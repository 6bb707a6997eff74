import Mathlib.Data.List.Infix
import Mathlib.Data.List.Nodup
import Cohort.Proofs.Limit.Order

/-!
# A borrow that was never there

A borrow that is parked, polled again and dropped before it is woken leaves no trace with the
others. A run from which all that it does is taken out goes the same way for everybody else,
use by use, with the same answers and the same wake-ups. Only its own place in the line is
missing, and whoever has drawn a ticket after it has drawn an earlier one instead.
-/

set_option autoImplicit false

namespace Cohort

namespace WaitLine

variable {ω : Type} {kept full : List (Waiter ω)} {own : Option UInt64} {ticket one other : UInt64}
  {waker : ω}

/-! ## Tickets with and without one more drawn -/

/-- The ticket that takes the place of `ticket` if `own` is drawn besides: whoever draws later
gets the next one. -/
def shifted (own : Option UInt64) (ticket : UInt64) : UInt64 :=
  match own with
  | none => ticket
  | some own => if ticket < own then ticket else ticket + 1

private theorem toNat_shifted_some {own : UInt64} (few : ticket.toNat + 1 < 2 ^ 64) :
    (shifted (some own) ticket).toNat =
      if ticket.toNat < own.toNat then ticket.toNat else ticket.toNat + 1 := by
  have next : (ticket + 1).toNat = ticket.toNat + 1 := by
    rw [UInt64.toNat_add, UInt64.toNat_one]
    exact Nat.mod_eq_of_lt few
  simp only [shifted, UInt64.lt_iff_toNat_lt]
  split
  · rfl
  · exact next

private theorem shifted_inj (few : one.toNat + 1 < 2 ^ 64) (few' : other.toNat + 1 < 2 ^ 64) :
    shifted own one = shifted own other ↔ one = other := by
  refine ⟨fun same => ?_, congrArg _⟩
  cases own with
  | none => exact same
  | some own =>
      have numbers := congrArg UInt64.toNat same
      rw [toNat_shifted_some few, toNat_shifted_some few'] at numbers
      refine UInt64.toNat_inj.mp ?_
      split at numbers <;> split at numbers <;> omega

private theorem own_ne_shifted (few : ticket.toNat + 1 < 2 ^ 64) :
    own ≠ some (shifted own ticket) := by
  rintro same
  cases own with
  | none => cases same
  | some own =>
      have numbers := congrArg UInt64.toNat (Option.some.inj same)
      rw [toNat_shifted_some few] at numbers
      split at numbers <;> omega

/-- Whoever has drawn before keeps its ticket. -/
private theorem shifted_of_lt {own : UInt64} (before : ticket.toNat < own.toNat) :
    shifted (some own) ticket = ticket :=
  if_pos (UInt64.lt_iff_toNat_lt.mpr before)

/-! ## Lines with and without one more place -/

def shiftedWaiter (own : Option UInt64) (waiter : Waiter ω) : Waiter ω :=
  { waiter with ticket := shifted own waiter.ticket }

/-- The first are the second without the place of ticket `own`, had it never been drawn. -/
def Omits (own : Option UInt64) (kept full : List (Waiter ω)) : Prop :=
  kept.map (shiftedWaiter own) = full.filter fun waiter => decide (own ≠ some waiter.ticket)

private theorem Omits.append (omits : Omits own kept full) (few : ticket.toNat + 1 < 2 ^ 64)
    (waker : ω) :
    Omits own (kept ++ [⟨ticket, waker⟩]) (full ++ [⟨shifted own ticket, waker⟩]) := by
  unfold Omits at omits ⊢
  rw [List.map_append, List.filter_append, omits]
  simp [shiftedWaiter, own_ne_shifted few]

private theorem Omits.cons {front : Waiter ω} {behind : List (Waiter ω)}
    (omits : Omits own kept (front :: behind)) (foreign : own ≠ some front.ticket) :
    ∃ front' behind', kept = front' :: behind' ∧ shiftedWaiter own front' = front ∧
      Omits own behind' behind := by
  rw [Omits, List.filter_cons, if_pos (decide_eq_true foreign)] at omits
  exact List.map_eq_cons_iff.mp omits

private theorem map_shifted_rewake (few : ticket.toNat + 1 < 2 ^ 64)
    (fewer : ∀ waiter ∈ kept, waiter.ticket.toNat + 1 < 2 ^ 64) :
    (rewake ticket waker kept).map (shiftedWaiter own) =
      rewake (shifted own ticket) waker (kept.map (shiftedWaiter own)) := by
  induction kept with
  | nil => rfl
  | cons front behind ih =>
      obtain ⟨first, rest⟩ := List.forall_mem_cons.mp fewer
      simp only [rewake, List.map_cons, shiftedWaiter, shifted_inj first few]
      split
      · rfl
      · rw [List.map_cons, ih rest]
        rfl

private theorem filter_rewake {among : UInt64 → Bool} (stays : among ticket = true)
    (waiters : List (Waiter ω)) :
    (rewake ticket waker waiters).filter (fun waiter => among waiter.ticket) =
      rewake ticket waker (waiters.filter fun waiter => among waiter.ticket) := by
  induction waiters with
  | nil => rfl
  | cons front behind ih =>
      by_cases foremost : front.ticket = ticket
      · simp [rewake, foremost, stays]
      · cases present : among front.ticket <;> simp [rewake, foremost, present, ih]

private theorem filter_rewake_of_not {among : UInt64 → Bool} (goes : among ticket = false)
    (waiters : List (Waiter ω)) :
    (rewake ticket waker waiters).filter (fun waiter => among waiter.ticket) =
      waiters.filter fun waiter => among waiter.ticket := by
  induction waiters with
  | nil => rfl
  | cons front behind ih =>
      by_cases foremost : front.ticket = ticket
      · simp [rewake, foremost, goes]
      · cases present : among front.ticket <;> simp [rewake, foremost, present, ih]

private theorem Omits.rewake (omits : Omits own kept full) (few : ticket.toNat + 1 < 2 ^ 64)
    (fewer : ∀ waiter ∈ kept, waiter.ticket.toNat + 1 < 2 ^ 64) (waker : ω) :
    Omits own (rewake ticket waker kept) (rewake (shifted own ticket) waker full) := by
  have stays : decide (own ≠ some (shifted own ticket)) = true :=
    decide_eq_true (own_ne_shifted few)
  unfold Omits at omits ⊢
  rw [map_shifted_rewake few fewer, omits]
  exact (@filter_rewake _ _ _ (fun one => decide (own ≠ some one)) stays full).symm

private theorem Omits.leave (omits : Omits own kept full) (few : ticket.toNat + 1 < 2 ^ 64)
    (fewer : ∀ waiter ∈ kept, waiter.ticket.toNat + 1 < 2 ^ 64) :
    Omits own (kept.filter fun waiter => decide (waiter.ticket ≠ ticket))
      (full.filter fun waiter => decide (waiter.ticket ≠ shifted own ticket)) := by
  unfold Omits at omits ⊢
  have same : (kept.filter fun waiter => decide (waiter.ticket ≠ ticket)) =
      kept.filter ((fun waiter : Waiter ω => decide (waiter.ticket ≠ shifted own ticket)) ∘
        shiftedWaiter own) := by
    refine List.filter_congr fun waiter member => ?_
    simp only [Function.comp_apply, shiftedWaiter, ne_eq, shifted_inj (fewer waiter member) few]
  rw [same, ← List.filter_map, omits, List.filter_filter, List.filter_filter]
  exact List.filter_congr fun _ _ => Bool.and_comm ..

/-- Whoever has just drawn `own` goes to the end of the line. -/
private theorem omits_own_append {own : UInt64} (omits : Omits none kept full)
    (before : ∀ waiter ∈ kept, waiter.ticket.toNat < own.toNat) (waker : ω) :
    Omits (some own) kept (full ++ [⟨own, waker⟩]) := by
  have plain : kept.map (shiftedWaiter none) = kept := List.map_id kept
  have same : kept.map (shiftedWaiter (some own)) = kept := by
    refine (List.map_congr_left fun waiter member => ?_).trans (List.map_id kept)
    simp only [shiftedWaiter, shifted_of_lt (before waiter member), id]
  have whole : full = kept := by simpa [Omits, plain] using omits.symm
  unfold Omits
  rw [same, whole, List.filter_append]
  have others : (kept.filter fun waiter => decide (some own ≠ some waiter.ticket)) = kept := by
    refine List.filter_eq_self.mpr fun waiter member => decide_eq_true fun same => ?_
    have earlier := before waiter member
    rw [Option.some.inj same] at earlier
    exact Nat.lt_irrefl _ earlier
  rw [others]
  simp

private theorem omits_own_rewake {own : UInt64} (omits : Omits (some own) kept full) (waker : ω) :
    Omits (some own) kept (WaitLine.rewake own waker full) := by
  have goes : decide (some own ≠ some own) = false := decide_eq_false fun apart => apart rfl
  unfold Omits at omits ⊢
  rw [omits]
  exact (@filter_rewake_of_not _ _ _ (fun one => decide (some own ≠ some one)) goes full).symm

private theorem omits_own_leave {own : UInt64} (omits : Omits (some own) kept full) :
    Omits (some own) kept (full.filter fun waiter => decide (waiter.ticket ≠ own)) := by
  unfold Omits at omits ⊢
  rw [omits, List.filter_filter]
  refine List.filter_congr fun waiter _ => ?_
  by_cases same : waiter.ticket = own
  · simp [same]
  · simp [same, Ne.symm same]

end WaitLine

namespace Limit

open WaitLine

variable {ω : Type}

/-! ## Two runs side by side -/

/-- Alike but for their tickets and for the number under which they joined the line. -/
inductive Phase.Like (own : Option UInt64) : Phase ω → Phase ω → Prop where
  | idle : Like own .idle .idle
  | parked {ticket waker entry entry'} :
      Like own (.parked ticket waker entry) (.parked (shifted own ticket) waker entry')
  | woken {ticket} : Like own (.woken ticket) (.woken (shifted own ticket))
  | taken : Like own .taken .taken
  | dropped : Like own .dropped .dropped

structure Borrow.Like (own : Option UInt64) (kept full : Borrow ω) : Prop where
  guarded : kept.guarded = full.guarded
  phase : kept.phase.Like own full.phase

private theorem Phase.Like.isOver {own : Option UInt64} {kept full : Phase ω}
    (like : kept.Like own full) :
    kept.isOver = full.isOver := by
  cases like <;> rfl

private theorem Phase.Like.ticket? {own : Option UInt64} {kept full : Phase ω}
    (like : kept.Like own full) :
    full.ticket? = kept.ticket?.map (shifted own) := by
  cases like <;> rfl

private theorem Phase.Like.wake {own : Option UInt64} {kept full : Phase ω} {front : UInt64}
    (like : kept.Like own full) (few : front.toNat + 1 < 2 ^ 64)
    (fewer : ∀ ticket, kept.ticket? = some ticket → ticket.toNat + 1 < 2 ^ 64) :
    (kept.wake front).Like own (full.wake (shifted own front)) := by
  cases like with
  | @parked ticket waker entry entry' =>
      simp only [Phase.wake, shifted_inj (fewer ticket rfl) few]
      split
      · exact .woken
      · exact .parked
  | idle => exact .idle
  | woken => exact .woken
  | taken => exact .taken
  | dropped => exact .dropped

/-- Whoever has drawn later has the same phase under a later ticket. -/
private theorem Phase.Like.redraw {own : UInt64} {kept full : Phase ω} (like : kept.Like none full)
    (before : ∀ ticket, kept.ticket? = some ticket → ticket.toNat < own.toNat) :
    kept.Like (some own) full := by
  cases like with
  | @parked ticket waker entry entry' =>
      have parked := @Phase.Like.parked ω (some own) ticket waker entry entry'
      rwa [shifted_of_lt (before ticket rfl)] at parked
  | @woken ticket =>
      have woken := @Phase.Like.woken ω (some own) ticket
      rwa [shifted_of_lt (before ticket rfl)] at woken
  | idle => exact .idle
  | taken => exact .taken
  | dropped => exact .dropped

/-- The borrow that a use is made of. -/
def Use.number? : Use ω → Option Nat
  | .poll number _ | .drop number => some number
  | .borrow _ | .tryBorrow _ | .giveBack | .release => none

/-- The borrow has a token or was woken for one. -/
def Phase.isServed : Phase ω → Bool
  | .woken _ | .taken => true
  | .idle | .parked _ _ _ | .dropped => false

/-- `own` is the ticket that a borrow has drawn, if it is still to be seen from its phase. -/
def Draws (own : Option UInt64) : Option (Phase ω) → Prop
  | none => own = none
  | some phase => phase = .dropped ∨ own = phase.ticket?

private theorem Draws.wake {own : Option UInt64} {phase : Option (Phase ω)} {front : UInt64}
    (draws : Draws own phase) : Draws own (phase.map (Phase.wake front)) := by
  cases phase with
  | none => exact draws
  | some phase =>
      rcases draws with rfl | same
      · exact Or.inl rfl
      · exact Or.inr (same.trans (Phase.ticket?_wake ..).symm)

namespace Usage

variable {usage kept full : Usage ω} {own : Option UInt64} {number one : Nat} {ticket : UInt64}

/-- Two usages, the first without what borrow `number` does, which has drawn `own`. -/
structure Beside (number : Nat) (own : Option UInt64) (kept full : Usage ω) : Prop where
  capacity : kept.limit.capacity = full.limit.capacity
  available : kept.limit.available = full.limit.available
  omits : Omits own kept.limit.line.waiters full.limit.line.waiters
  guards : kept.guards = full.guards
  begun : kept.borrows.length = full.borrows.length
  others : ∀ one, one ≠ number →
    Option.Rel (Borrow.Like own) kept.borrows[one]? full.borrows[one]?
  drawn : full.drawn = kept.drawn + own.isSome.toNat
  earlier : ∀ ticket, own = some ticket → ticket.toNat < full.drawn
  draws : Draws own full.phases[number]?

/-- Every ticket that is held is one of those that were handed out. -/
structure Issued (usage : Usage ω) : Prop where
  held : ∀ borrow ∈ usage.borrows, ∀ ticket, borrow.phase.ticket? = some ticket →
    ticket.toNat < usage.drawn
  standing : ∀ waiter ∈ usage.limit.line.waiters, waiter.ticket.toNat < usage.drawn

private theorem Sound.issued (sound : usage.Sound) : usage.Issued where
  held := by
    intro borrow member ticket held
    have among : borrow.phase ∈ usage.phases := List.mem_map_of_mem member
    exact sound.vigilant.serves.toNat_lt ticket (List.mem_filterMap.mpr ⟨_, among, held⟩)
  standing := by
    intro waiter member
    have stands : waiter.ticket ∈ usage.limit.line.tickets := List.mem_map_of_mem member
    exact sound.vigilant.serves.toNat_lt _ (sound.vigilant.serves.waits _ stands)

private theorem Beside.few (beside : Beside number own kept full) (few : full.drawn < 2 ^ 64)
    (issued : ticket.toNat < kept.drawn) : ticket.toNat + 1 < 2 ^ 64 := by
  have drawn := beside.drawn
  omega

private theorem Beside.fewer (beside : Beside number own kept full) (few : full.drawn < 2 ^ 64)
    (issued : kept.Issued) :
    ∀ waiter ∈ kept.limit.line.waiters, waiter.ticket.toNat + 1 < 2 ^ 64 :=
  fun waiter member => beside.few few (issued.standing waiter member)

private theorem Beside.found (beside : Beside number own kept full) (different : one ≠ number)
    {borrow : Borrow ω} (found : full.borrows[one]? = some borrow) :
    ∃ borrow', kept.borrows[one]? = some borrow' ∧ borrow'.Like own borrow := by
  have related := beside.others one different
  rw [found] at related
  generalize kept.borrows[one]? = borrow' at related
  cases related with
  | some like => exact ⟨_, rfl, like⟩

private theorem Beside.absent (beside : Beside number own kept full)
    (absent : full.borrows[one]? = none) : kept.borrows[one]? = none := by
  rw [List.getElem?_eq_none_iff] at absent ⊢
  exact beside.begun ▸ absent

/-- The next to draw gets the ticket after the one that it gets in the run without `own`. -/
private theorem Beside.shifted_next (beside : Beside number own kept full) (sound : kept.Sound)
    (sound' : full.Sound) : shifted own kept.limit.line.next = full.limit.line.next := by
  have next := sound.vigilant.serves.toNat_next
  have next' := sound'.vigilant.serves.toNat_next
  have few := sound'.vigilant.serves.few
  have drawn := beside.drawn
  refine UInt64.toNat_inj.mp ?_
  cases own with
  | none =>
      rw [shifted, next, next', drawn]
      rfl
  | some own =>
      have earlier := beside.earlier own rfl
      rw [Option.isSome_some, Bool.toNat_true] at drawn
      rw [toNat_shifted_some (by omega), next, next', if_neg (by omega), drawn]

/-! ### Changes on both sides -/

/-- Somebody else changes alike on both sides. -/
private theorem Beside.set (beside : Beside number own kept full) {kept' full' : Usage ω}
    (different : one ≠ number) {borrow' borrow : Borrow ω}
    (borrows' : kept'.borrows = kept.borrows.set one borrow')
    (borrows : full'.borrows = full.borrows.set one borrow) (like : borrow'.Like own borrow)
    (capacity : kept'.limit.capacity = full'.limit.capacity)
    (available : kept'.limit.available = full'.limit.available)
    (omits : Omits own kept'.limit.line.waiters full'.limit.line.waiters)
    (guards : kept'.guards = full'.guards)
    (drawn : full'.drawn = kept'.drawn + own.isSome.toNat) (grown : full.drawn ≤ full'.drawn) :
    Beside number own kept' full' where
  capacity := capacity
  available := available
  omits := omits
  guards := guards
  begun := by rw [borrows', borrows, List.length_set, List.length_set, beside.begun]
  others := by
    intro other apart
    rw [borrows', borrows, List.getElem?_set, List.getElem?_set, beside.begun]
    split
    · split
      · exact .some like
      · exact .none
    · exact beside.others other apart
  drawn := drawn
  earlier := fun ticket drew => Nat.lt_of_lt_of_le (beside.earlier ticket drew) grown
  draws := by
    have same : full'.phases[number]? = full.phases[number]? := by
      simp only [phases, borrows, List.getElem?_map, List.getElem?_set_ne different]
    exact same ▸ beside.draws

theorem handOver_of_nil {changed : Limit ω} (same : changed.line = usage.limit.line)
    (nobody : usage.limit.line.waiters = []) :
    usage.handOver changed.wakeNext = (none, { usage with limit := changed.wakeNext.2 }) := by
  simp [handOver, wakeNext, WaitLine.shift, same, nobody]

theorem handOver_of_cons {changed : Limit ω} {front : Waiter ω} {behind : List (Waiter ω)}
    (same : changed.line = usage.limit.line)
    (waiters : usage.limit.line.waiters = front :: behind) :
    usage.handOver changed.wakeNext = (some front.waker,
      { usage with
        limit := changed.wakeNext.2
        borrows := usage.borrows.map fun borrow =>
          { borrow with phase := borrow.phase.wake front.ticket } }) := by
  simp [handOver, wakeNext, WaitLine.shift, same, waiters]

theorem waiters_wakeNext (limit : Limit ω) :
    limit.wakeNext.2.line.waiters = limit.line.waiters.tail := by
  cases waiters : limit.line.waiters <;> simp [wakeNext, WaitLine.shift, waiters]

private theorem Beside.others_wake (beside : Beside number own kept full)
    (few : full.drawn < 2 ^ 64)
    (issued : kept.Issued) {front : UInt64} (first : front.toNat + 1 < 2 ^ 64)
    (different : one ≠ number) :
    Option.Rel (Borrow.Like own)
      (kept.borrows[one]?.map fun borrow => { borrow with phase := borrow.phase.wake front })
      (full.borrows[one]?.map fun borrow =>
        { borrow with phase := borrow.phase.wake (shifted own front) }) := by
  have related := beside.others one different
  have held : ∀ borrow, kept.borrows[one]? = some borrow → ∀ ticket,
      borrow.phase.ticket? = some ticket → ticket.toNat < kept.drawn :=
    fun borrow found => issued.held borrow (List.mem_of_getElem? found)
  generalize kept.borrows[one]? = found' at related held ⊢
  generalize full.borrows[one]? = found at related ⊢
  cases related with
  | none => exact .none
  | some like =>
      refine .some ⟨like.guarded, ?_⟩
      exact like.phase.wake first fun ticket drew => beside.few few (held _ rfl ticket drew)

/-- If borrow `number` does not stand in front the same wake-up goes out on both sides. -/
private theorem Beside.handOver (beside : Beside number own kept full) (few : full.drawn < 2 ^ 64)
    (issued : kept.Issued) (foreign : ∀ front behind, full.limit.line.waiters = front :: behind →
      own ≠ some front.ticket)
    {changed' changed : Limit ω} (same' : changed'.line = kept.limit.line)
    (same : changed.line = full.limit.line) (capacity : changed'.capacity = changed.capacity)
    (available : changed'.available = changed.available) :
    (kept.handOver changed'.wakeNext).1 = (full.handOver changed.wakeNext).1 ∧
      Beside number own (kept.handOver changed'.wakeNext).2 (full.handOver changed.wakeNext).2 := by
  have omits := beside.omits
  cases waiters : full.limit.line.waiters with
  | nil =>
      have nobody : kept.limit.line.waiters = [] := by simpa [Omits, waiters] using omits
      rw [handOver_of_nil same' nobody, handOver_of_nil same waiters]
      refine ⟨rfl, { beside with capacity, available, omits := ?_ }⟩
      simp [waiters_wakeNext, same', same, nobody, waiters, Omits]
  | cons front behind =>
      rw [waiters] at omits
      obtain ⟨front', behind', waiters', rfl, omits'⟩ := omits.cons (foreign front behind waiters)
      have first := beside.fewer few issued front' (waiters' ▸ List.mem_cons_self)
      rw [handOver_of_cons same' waiters', handOver_of_cons same waiters]
      refine ⟨rfl, ?_⟩
      constructor
      case capacity => exact capacity
      case available => exact available
      case omits =>
        rw [waiters_wakeNext, waiters_wakeNext, same', same, waiters', waiters]
        exact omits'
      case guards => exact beside.guards
      case begun =>
        dsimp only
        rw [List.length_map, List.length_map, beside.begun]
      case others =>
        intro other apart
        dsimp only
        rw [List.getElem?_map, List.getElem?_map]
        exact beside.others_wake few issued first apart
      case drawn => exact beside.drawn
      case earlier => exact beside.earlier
      case draws =>
        have draws := @Draws.wake _ _ _ (shiftedWaiter own front').ticket beside.draws
        simpa [phases, List.getElem?_map, Option.map_map, Function.comp_def] using draws

/-! ### What somebody else does -/

private theorem Beside.park (beside : Beside number own kept full) (sound : kept.Sound)
    (sound' : full.Sound) (different : one ≠ number) (waker : ω) {borrow' borrow : Borrow ω}
    (found' : kept.borrows[one]? = some borrow') (found : full.borrows[one]? = some borrow)
    (like : borrow'.Like own borrow) (waiting : borrow.phase.isOver = false)
    (spent : full.limit.available = 0) (few : (full.poll one borrow waker).drawn < 2 ^ 64) :
    Beside number own (kept.poll one borrow' waker) (full.poll one borrow waker) := by
  have before := Nat.lt_of_le_of_lt (drawn_le_poll ..) few
  have fewer := beside.fewer before sound.issued
  have held := sound.issued.held borrow' (List.mem_of_getElem? found')
  have tells' := sound.tells borrow'.phase (List.mem_map_of_mem (List.mem_of_getElem? found'))
  have tells := sound'.tells borrow.phase (List.mem_map_of_mem (List.mem_of_getElem? found))
  have drawn := beside.drawn
  obtain ⟨guarded', phase'⟩ := borrow'
  obtain ⟨guarded, phase⟩ := borrow
  obtain ⟨same, alike⟩ := like
  have spent' : kept.limit.available = 0 := beside.available.trans spent
  simp only [Usage.poll, poll_of_eq_zero spent', poll_of_eq_zero spent] at few ⊢
  cases alike with
  | idle =>
      have drew : kept.limit.line.next.toNat + 1 < 2 ^ 64 := by
        have most : full.drawn + 1 < 2 ^ 64 := few
        rw [sound.vigilant.serves.toNat_next]
        omega
      simp only [Phase.ticket?, WaitLine.park_none sound.vigilant.serves.holds_next,
        WaitLine.park_none sound'.vigilant.serves.holds_next, ← beside.shifted_next sound sound']
      refine beside.set different rfl rfl ⟨same, .parked⟩ beside.capacity beside.available
        (beside.omits.append drew waker) beside.guards ?_ (Nat.le_succ _)
      show full.drawn + 1 = kept.drawn + 1 + _
      omega
  | @woken ticket =>
      have drew := beside.few before (held ticket rfl)
      have gone' : kept.limit.line.holds ticket = false := tells' ticket rfl
      have gone : full.limit.line.holds (shifted own ticket) = false := tells _ rfl
      simp only [Phase.ticket?, WaitLine.park_of_not_holds gone', WaitLine.park_of_not_holds gone]
      exact beside.set different rfl rfl ⟨same, .parked⟩ beside.capacity beside.available
        (beside.omits.append drew waker) beside.guards drawn (Nat.le_refl _)
  | @parked ticket _ _ _ =>
      have drew := beside.few before (held ticket rfl)
      have stands' : kept.limit.line.holds ticket = true := tells' ticket rfl
      have stands : full.limit.line.holds (shifted own ticket) = true := tells _ rfl
      simp only [Phase.ticket?, WaitLine.park_of_holds stands', WaitLine.park_of_holds stands]
      exact beside.set different rfl rfl ⟨same, .parked⟩ beside.capacity beside.available
        (beside.omits.rewake drew fewer waker) beside.guards drawn (Nat.le_refl _)
  | taken | dropped => cases waiting

private theorem Beside.omits_lineTaken (beside : Beside number own kept full)
    (few : full.drawn < 2 ^ 64)
    (issued : kept.Issued) {phase' phase : Phase ω} (alike : phase'.Like own phase)
    (held : ∀ ticket, phase'.ticket? = some ticket → ticket.toNat < kept.drawn) :
    Omits own (kept.limit.lineTaken phase'.ticket?).waiters
      (full.limit.lineTaken phase.ticket?).waiters := by
  rw [alike.ticket?]
  cases drew : phase'.ticket? with
  | none => exact beside.omits
  | some ticket =>
      exact beside.omits.leave (beside.few few (held ticket drew)) (beside.fewer few issued)

private theorem Beside.guardIf (beside : Beside number own kept full) (guarded : Bool) :
    Beside number own (kept.guardIf guarded) (full.guardIf guarded) := by
  cases guarded with
  | false => exact beside
  | true => exact { beside with guards := congrArg (· + 1) beside.guards }

private theorem Beside.serve (beside : Beside number own kept full) (few : full.drawn < 2 ^ 64)
    (issued : kept.Issued) (different : one ≠ number) (waker : ω) {borrow' borrow : Borrow ω}
    (found' : kept.borrows[one]? = some borrow') (like : borrow'.Like own borrow)
    (stocked : 0 < full.limit.available) :
    Beside number own (kept.poll one borrow' waker) (full.poll one borrow waker) := by
  have stocked' : 0 < kept.limit.available := beside.available ▸ stocked
  have held := issued.held borrow' (List.mem_of_getElem? found')
  have omits := beside.omits_lineTaken few issued like.phase held
  simp only [Usage.poll, poll_of_pos stocked', poll_of_pos stocked, like.guarded]
  refine Beside.guardIf ?_ borrow.guarded
  exact beside.set different rfl rfl ⟨like.guarded, .taken⟩ beside.capacity
    (congrArg (· - 1) beside.available) omits beside.guards beside.drawn (Nat.le_refl _)

private theorem Beside.poll (beside : Beside number own kept full) (sound : kept.Sound)
    (sound' : full.Sound) (different : one ≠ number) (waker : ω) {borrow' borrow : Borrow ω}
    (found' : kept.borrows[one]? = some borrow') (found : full.borrows[one]? = some borrow)
    (like : borrow'.Like own borrow) (waiting : borrow.phase.isOver = false)
    (few : (full.poll one borrow waker).drawn < 2 ^ 64) :
    Beside number own (kept.poll one borrow' waker) (full.poll one borrow waker) := by
  rcases Nat.eq_zero_or_pos full.limit.available with spent | stocked
  · exact beside.park sound sound' different waker found' found like waiting spent few
  · have before := Nat.lt_of_le_of_lt (drawn_le_poll ..) few
    exact beside.serve before sound.issued different waker found' like stocked

/-- Whoever holds ticket `own` in the line is borrow `number`. -/
private theorem Beside.mine (beside : Beside number own kept full) (sound : kept.Sound)
    (sound' : full.Sound) (few : full.drawn < 2 ^ 64) (drew : own = some ticket)
    (standing : ticket ∈ full.limit.line.tickets) :
    ∃ waker entry, full.phases[number]? = some (.parked ticket waker entry) := by
  obtain ⟨phase, member, held⟩ := List.mem_filterMap.mp (sound'.vigilant.serves.waits _ standing)
  have tells := sound'.tells phase member ticket held
  rw [WaitLine.holds_iff.mpr standing] at tells
  obtain ⟨one, found⟩ := List.mem_iff_getElem?.mp member
  obtain rfl : one = number := by
    by_contra different
    rw [phases, List.getElem?_map] at found
    obtain ⟨borrow, there, rfl⟩ := Option.map_eq_some_iff.mp found
    obtain ⟨borrow', there', like⟩ := beside.found different there
    rw [like.phase.ticket?] at held
    obtain ⟨ticket', held', rfl⟩ := Option.map_eq_some_iff.mp held
    have issued := sound.issued.held borrow' (List.mem_of_getElem? there') ticket' held'
    exact own_ne_shifted (beside.few few issued) drew
  cases phase with
  | parked ticket' waker entry =>
      cases held
      exact ⟨waker, entry, found⟩
  | idle | woken _ | taken | dropped => cases tells

/-- Whoever stands in front is woken, so it is not borrow `number` if that is spared. -/
private theorem foreign_of_spared {changed : Limit ω} (same : changed.line = usage.limit.line)
    (mine : ∀ ticket, own = some ticket → ticket ∈ usage.limit.line.tickets →
      ∃ waker entry, usage.phases[number]? = some (.parked ticket waker entry))
    (spared : ∀ ticket,
      (usage.handOver changed.wakeNext).2.phases[number]? ≠ some (.woken ticket)) :
    ∀ front behind, usage.limit.line.waiters = front :: behind → own ≠ some front.ticket := by
  intro front behind waiters drew
  have standing : front.ticket ∈ usage.limit.line.tickets := by simp [WaitLine.tickets, waiters]
  obtain ⟨waker, entry, parked⟩ := mine front.ticket drew standing
  refine spared front.ticket ?_
  obtain ⟨_, phases_eq, _⟩ := usage.handOver_wakeNext changed same
  rw [phases_eq, Phase.wakeFront, waiters, List.getElem?_map, parked]
  simp [Phase.wake]

private theorem Issued.drop (issued : usage.Issued) (borrow : Borrow ω) :
    (usage.setPhase one borrow .dropped).Issued where
  held := by
    intro other member ticket held
    rcases List.mem_or_eq_of_mem_set member with before | rfl
    · exact issued.held other before ticket held
    · cases held
  standing := issued.standing

private theorem Beside.drop (beside : Beside number own kept full) (sound : kept.Sound)
    (sound' : full.Sound) (few : full.drawn < 2 ^ 64) (different : one ≠ number)
    {borrow' borrow : Borrow ω} (found' : kept.borrows[one]? = some borrow')
    (found : full.borrows[one]? = some borrow) (like : borrow'.Like own borrow)
    (spared : ∀ ticket, (full.drop one borrow).2.phases[number]? ≠ some (.woken ticket)) :
    (kept.drop one borrow').1 = (full.drop one borrow).1 ∧
      Beside number own (kept.drop one borrow').2 (full.drop one borrow).2 := by
  have held := sound.issued.held borrow' (List.mem_of_getElem? found')
  have tells' := sound.tells borrow'.phase (List.mem_map_of_mem (List.mem_of_getElem? found'))
  have tells := sound'.tells borrow.phase (List.mem_map_of_mem (List.mem_of_getElem? found))
  have gone : Beside number own (kept.setPhase one borrow' .dropped)
      (full.setPhase one borrow .dropped) :=
    beside.set different rfl rfl ⟨like.guarded, .dropped⟩ beside.capacity beside.available
      beside.omits beside.guards beside.drawn (Nat.le_refl _)
  obtain ⟨guarded', phase'⟩ := borrow'
  obtain ⟨guarded, phase⟩ := borrow
  obtain ⟨same, alike⟩ := like
  unfold Usage.drop at spared ⊢
  cases alike with
  | idle | taken | dropped => exact ⟨rfl, gone⟩
  | @parked ticket _ _ _ =>
      have stands' : kept.limit.line.holds ticket = true := tells' ticket rfl
      have stands : full.limit.line.holds (shifted own ticket) = true := tells _ rfl
      simp only [Phase.ticket?, cancel_of_holds stands', cancel_of_holds stands]
      have drew := beside.few few (held ticket rfl)
      have omits := beside.omits.leave drew (beside.fewer few sound.issued)
      exact ⟨rfl, { gone with omits }⟩
  | @woken ticket =>
      have apart' : kept.limit.line.holds ticket = false := tells' ticket rfl
      have apart : full.limit.line.holds (shifted own ticket) = false := tells _ rfl
      simp only [Phase.ticket?, cancel_of_not_holds apart] at spared
      simp only [Phase.ticket?, cancel_of_not_holds apart', cancel_of_not_holds apart]
      have mine : ∀ ticket', own = some ticket' → ticket' ∈ full.limit.line.tickets →
          ∃ waker entry, (full.setPhase one ⟨guarded, .woken (shifted own ticket)⟩
            .dropped).phases[number]? = some (.parked ticket' waker entry) := by
        intro ticket' drew standing
        rw [phases_setPhase, List.getElem?_set_ne different]
        exact beside.mine sound sound' few drew standing
      exact gone.handOver few (sound.issued.drop _) (foreign_of_spared rfl mine spared) rfl rfl
        beside.capacity beside.available

private theorem Beside.putBack (beside : Beside number own kept full) (sound : kept.Sound)
    (sound' : full.Sound) (few : full.drawn < 2 ^ 64)
    (spared : ∀ ticket, full.putBack.2.phases[number]? ≠ some (.woken ticket)) :
    kept.limit.putBack.isOk = full.limit.putBack.isOk ∧ kept.putBack.1 = full.putBack.1 ∧
      Beside number own kept.putBack.2 full.putBack.2 := by
  unfold Usage.putBack at spared ⊢
  have capacity := beside.capacity
  have available := beside.available
  rcases Nat.lt_or_ge full.limit.available full.limit.capacity with room | full_
  · have room' : kept.limit.available < kept.limit.capacity := by omega
    simp only [putBack_of_lt room] at spared
    simp only [putBack_of_lt room', putBack_of_lt room]
    have mine := fun ticket drew standing =>
      @Beside.mine _ _ _ own number ticket beside sound sound' few drew standing
    refine ⟨rfl, beside.handOver few sound.issued ?_ rfl rfl capacity ?_⟩
    · exact foreign_of_spared (by rfl) mine spared
    · exact congrArg (· + 1) available
  · have full' : kept.limit.capacity ≤ kept.limit.available := by omega
    simp only [putBack_of_le full', putBack_of_le full_]
    exact ⟨trivial, trivial, beside⟩

private theorem Beside.borrow (beside : Beside number own kept full) (guarded : Bool) :
    Beside number own (kept.step (.borrow guarded)).2 (full.step (.borrow guarded)).2 where
  capacity := beside.capacity
  available := beside.available
  omits := beside.omits
  guards := beside.guards
  begun := by simp [Usage.step, beside.begun]
  others := by
    intro other apart
    simp only [Usage.step, List.getElem?_append, beside.begun]
    split
    · exact beside.others other apart
    · cases other - full.borrows.length with
      | zero => exact .some ⟨rfl, .idle⟩
      | succ _ => exact .none
  drawn := beside.drawn
  earlier := beside.earlier
  draws := by
    have draws := beside.draws
    simp only [Usage.step, phases, List.map_append, List.getElem?_append]
    split
    · exact draws
    · next beyond =>
        have absent : full.phases[number]? = none :=
          List.getElem?_eq_none_iff.mpr (Nat.le_of_not_lt beyond)
        rw [absent] at draws
        rw [List.length_map]
        cases number - full.borrows.length with
        | zero => exact Or.inr draws
        | succ _ => exact draws

/-- What somebody else does comes to the same on both sides. -/
private theorem Beside.step_other (beside : Beside number own kept full) (sound : kept.Sound)
    (sound' : full.Sound) {use : Use ω} (other : use.number? ≠ some number)
    (few : (full.step use).2.drawn < 2 ^ 64)
    (spared : ∀ ticket, (full.step use).2.phases[number]? ≠ some (.woken ticket)) :
    kept.entryOf? use = full.entryOf? use ∧ (kept.step use).1 = (full.step use).1 ∧
      Beside number own (kept.step use).2 (full.step use).2 := by
  have before := Nat.lt_of_le_of_lt (drawn_le_step full use) few
  cases use with
  | borrow guarded => exact ⟨rfl, rfl, beside.borrow guarded⟩
  | poll one waker =>
      have different : one ≠ number := fun same => other (congrArg some same)
      cases found : full.borrows[one]? with
      | none => simpa [step, entryOf?, errand?, found, beside.absent found] using beside
      | some borrow =>
          obtain ⟨borrow', found', like⟩ := beside.found different found
          have ended' := like.phase.isOver
          cases ended : borrow.phase.isOver with
          | true =>
              rw [ended] at ended'
              simpa [step, entryOf?, errand?, found, found', ended, ended'] using beside
          | false =>
              rw [ended] at ended'
              simp only [step, found, ended] at few
              have polled := beside.poll sound sound' different waker found' found like ended few
              simpa [step, entryOf?, errand?, grants, found, found', ended, ended', like.guarded,
                poll_eq_taken_iff, beside.available] using polled
  | drop one =>
      have different : one ≠ number := fun same => other (congrArg some same)
      cases found : full.borrows[one]? with
      | none => simpa [step, entryOf?, errand?, found, beside.absent found] using beside
      | some borrow =>
          obtain ⟨borrow', found', like⟩ := beside.found different found
          have ended' := like.phase.isOver
          cases ended : borrow.phase.isOver with
          | true =>
              rw [ended] at ended'
              simpa [step, entryOf?, errand?, found, found', ended, ended'] using beside
          | false =>
              rw [ended] at ended'
              simp only [step, found, ended] at spared
              have dropped := beside.drop sound sound' before different found' found like spared
              simpa [step, entryOf?, errand?, found, found', ended, ended'] using dropped
  | tryBorrow guarded =>
      rcases Nat.eq_zero_or_pos full.limit.available with spent | stocked
      · have spent' : kept.limit.available = 0 := beside.available.trans spent
        simpa [step, entryOf?, errand?, grants, take?_of_eq_zero spent, take?_of_eq_zero spent']
          using beside
      · have stocked' : 0 < kept.limit.available := beside.available ▸ stocked
        simp only [step, entryOf?, errand?, grants, take?_of_pos stocked, take?_of_pos stocked']
        refine ⟨rfl, trivial, Beside.guardIf ?_ guarded⟩
        exact { beside with available := congrArg (· - 1) beside.available }
  | giveBack =>
      obtain ⟨granted, woken, after⟩ := beside.putBack sound sound' before spared
      simp only [step, entryOf?, errand?, grants, granted]
      exact ⟨trivial, woken, after⟩
  | release =>
      have guards := beside.guards
      cases held : full.guards with
      | zero =>
          rw [held] at guards
          simpa [step, entryOf?, errand?, held, guards] using beside
      | succ rest =>
          rw [held] at guards
          simp only [step, held] at spared
          have fewer : Beside number own { kept with guards := rest } { full with guards := rest } :=
            { beside with guards := rfl }
          obtain ⟨granted, woken, after⟩ := fewer.putBack sound sound' before spared
          simp only [step, entryOf?, errand?, grants, held, guards, granted]
          exact ⟨trivial, woken, after⟩

/-! ### What the borrow does itself -/

private theorem Beside.aside (beside : Beside number own kept full) {full' : Usage ω}
    {borrow : Borrow ω}
    {own' : Option UInt64} (borrows : full'.borrows = full.borrows.set number borrow)
    (capacity : full'.limit.capacity = full.limit.capacity)
    (available : full'.limit.available = full.limit.available)
    (guards : full'.guards = full.guards)
    (omits : Omits own' kept.limit.line.waiters full'.limit.line.waiters)
    (others : ∀ one, one ≠ number →
      Option.Rel (Borrow.Like own') kept.borrows[one]? full.borrows[one]?)
    (drawn : full'.drawn = kept.drawn + own'.isSome.toNat)
    (earlier : ∀ ticket, own' = some ticket → ticket.toNat < full'.drawn)
    (draws : Draws own' full'.phases[number]?) : Beside number own' kept full' where
  capacity := beside.capacity.trans capacity.symm
  available := beside.available.trans available.symm
  omits := omits
  guards := beside.guards.trans guards.symm
  begun := by rw [borrows, List.length_set, beside.begun]
  others := by
    intro one apart
    rw [borrows, List.getElem?_set_ne (Ne.symm apart)]
    exact others one apart
  drawn := drawn
  earlier := earlier
  draws := draws

/-- Until borrow `number` has drawn its ticket the others cannot be told apart, so it does not
matter to them which one it draws next. -/
private theorem Beside.others_redraw (beside : Beside number none kept full) (issued : kept.Issued)
    {own : UInt64} (next : own.toNat = kept.drawn) :
    ∀ one, one ≠ number →
      Option.Rel (Borrow.Like (some own)) kept.borrows[one]? full.borrows[one]? := by
  intro one different
  have related := beside.others one different
  have held : ∀ borrow, kept.borrows[one]? = some borrow → ∀ ticket,
      borrow.phase.ticket? = some ticket → ticket.toNat < kept.drawn :=
    fun borrow found => issued.held borrow (List.mem_of_getElem? found)
  generalize kept.borrows[one]? = found' at related held ⊢
  generalize full.borrows[one]? = found at related ⊢
  cases related with
  | none => exact .none
  | some like =>
      exact .some ⟨like.guarded, like.phase.redraw fun ticket drew => next ▸ held _ rfl ticket drew⟩

theorem getElem?_phases_set {borrow : Borrow ω} (found : usage.borrows[number]? = some borrow)
    (phase : Phase ω) : (usage.phases.set number phase)[number]? = some phase := by
  refine List.getElem?_set_self ?_
  rw [phases, List.length_map]
  exact (List.getElem?_eq_some_iff.mp found).1

private theorem Beside.park_own (beside : Beside number own kept full) (sound : kept.Sound)
    (sound' : full.Sound) (waker : ω) {borrow : Borrow ω}
    (found : full.borrows[number]? = some borrow) (waiting : borrow.phase.isOver = false)
    (before : borrow.phase.isServed = false) (spent : full.limit.available = 0) :
    ∃ own', Beside number own' kept (full.poll number borrow waker) := by
  have tells := sound'.tells borrow.phase (List.mem_map_of_mem (List.mem_of_getElem? found))
  have draws := beside.draws
  have drawn := beside.drawn
  have there : full.phases[number]? = some borrow.phase := by simp [phases, found]
  rw [there] at draws
  simp only [Usage.poll, poll_of_eq_zero spent]
  obtain ⟨guarded, phase⟩ := borrow
  cases phase with
  | idle =>
      obtain rfl : own = none := draws.resolve_left (by simp)
      have next : full.limit.line.next.toNat = kept.drawn :=
        sound'.vigilant.serves.toNat_next.trans drawn
      have before : ∀ waiter ∈ kept.limit.line.waiters,
          waiter.ticket.toNat < full.limit.line.next.toNat :=
        fun waiter member => next ▸ sound.issued.standing waiter member
      have omits := omits_own_append beside.omits before waker
      simp only [Phase.ticket?, WaitLine.park_none sound'.vigilant.serves.holds_next]
      refine ⟨some full.limit.line.next, beside.aside rfl rfl rfl rfl omits
        (beside.others_redraw sound.issued next) ?_ ?_ ?_⟩
      · exact congrArg (· + 1) drawn
      · intro ticket same
        cases same
        exact Nat.lt_of_le_of_lt (Nat.le_of_eq (next.trans drawn.symm)) (Nat.lt_succ_self _)
      · rw [phases_setPhase]
        exact (getElem?_phases_set found _) ▸ Or.inr rfl
  | parked ticket former entry =>
      obtain rfl : own = some ticket := draws.resolve_left (by simp)
      have stands : full.limit.line.holds ticket = true := tells ticket rfl
      simp only [Phase.ticket?, WaitLine.park_of_holds stands]
      refine ⟨some ticket, beside.aside rfl rfl rfl rfl (omits_own_rewake beside.omits waker)
        beside.others drawn beside.earlier ?_⟩
      rw [phases_setPhase]
      exact (getElem?_phases_set found _) ▸ Or.inr rfl
  | woken _ => cases before
  | taken | dropped => cases waiting

private theorem Beside.drop_own (beside : Beside number own kept full) (sound' : full.Sound)
    {borrow : Borrow ω} (found : full.borrows[number]? = some borrow)
    (before : borrow.phase.isServed = false) :
    (full.drop number borrow).1 = none ∧ ∃ own', Beside number own' kept (full.drop number borrow).2 := by
  have tells := sound'.tells borrow.phase (List.mem_map_of_mem (List.mem_of_getElem? found))
  have draws := beside.draws
  have there : full.phases[number]? = some borrow.phase := by simp [phases, found]
  rw [there] at draws
  have dropped : Draws own (full.phases.set number .dropped)[number]? :=
    (getElem?_phases_set found _) ▸ Or.inl rfl
  unfold Usage.drop
  obtain ⟨guarded, phase⟩ := borrow
  cases phase with
  | idle | dropped =>
      exact ⟨rfl, own, beside.aside rfl rfl rfl rfl beside.omits beside.others beside.drawn
        beside.earlier (phases_setPhase .. ▸ dropped)⟩
  | parked ticket _ _ =>
      obtain rfl : own = some ticket := draws.resolve_left (by simp)
      have stands : full.limit.line.holds ticket = true := tells ticket rfl
      simp only [Phase.ticket?, cancel_of_holds stands]
      exact ⟨rfl, some ticket, beside.aside rfl rfl rfl rfl (omits_own_leave beside.omits)
        beside.others beside.drawn beside.earlier (phases_setPhase .. ▸ dropped)⟩
  | woken _ | taken => cases before

/-- What borrow `number` does itself, short of being served, nobody else can tell. -/
private theorem Beside.step_own (beside : Beside number own kept full) (sound : kept.Sound)
    (sound' : full.Sound) {use : Use ω} (itself : use.number? = some number)
    (before : ∀ phase, full.phases[number]? = some phase → phase.isServed = false)
    (after : ∀ phase, (full.step use).2.phases[number]? = some phase → phase.isServed = false) :
    (full.step use).1 = none ∧ ∃ own', Beside number own' kept (full.step use).2 := by
  have unserved : ∀ borrow, full.borrows[number]? = some borrow →
      borrow.phase.isServed = false := by
    intro borrow found
    exact before borrow.phase (by simp [phases, found])
  have stay : ∃ own', Beside number own' kept full := ⟨own, beside⟩
  cases use with
  | borrow _ | tryBorrow _ | giveBack | release => cases itself
  | poll one waker =>
      obtain rfl : one = number := Option.some.inj itself
      cases found : full.borrows[one]? with
      | none => simpa [step, found] using stay
      | some borrow =>
          cases ended : borrow.phase.isOver with
          | true => simpa [step, found, ended] using stay
          | false =>
              simp only [step, found, ended] at after ⊢
              rcases Nat.eq_zero_or_pos full.limit.available with spent | stocked
              · exact ⟨rfl, beside.park_own sound sound' waker found ended (unserved _ found) spent⟩
              · -- The poll would have got it a token.
                have taken : (full.poll one borrow waker).phases[one]? = some .taken := by
                  simp only [Usage.poll, poll_of_pos stocked, phases_guardIf, phases_setPhase]
                  exact getElem?_phases_set found _
                cases after _ taken
  | drop one =>
      obtain rfl : one = number := Option.some.inj itself
      cases found : full.borrows[one]? with
      | none => simpa [step, found] using stay
      | some borrow =>
          cases ended : borrow.phase.isOver with
          | true => simpa [step, found, ended] using stay
          | false =>
              simp only [step, found, ended]
              exact beside.drop_own sound' found (unserved _ found)

/-! ## Whole runs -/

/-- The uses without all that is done to borrow `number`. That it was begun does no harm. -/
def without (number : Nat) (uses : List (Use ω)) : List (Use ω) :=
  uses.filter fun use => decide (use.number? ≠ some number)

private theorem without_append_singleton (number : Nat) (uses : List (Use ω)) (use : Use ω) :
    without number (uses ++ [use]) =
      if use.number? = some number then without number uses else without number uses ++ [use] := by
  simp only [without, List.filter_append]
  split <;> simp_all

/-- Borrow `number` is never found with a token, nor woken for one. -/
def Unserved (limit : Limit ω) (number : Nat) (uses : List (Use ω)) : Prop :=
  ∀ before, before <+: uses → ∀ phase, (run limit before).phases[number]? = some phase →
    phase.isServed = false

variable {limit : Limit ω} {uses before : List (Use ω)} {use : Use ω} {capacity : Nat}

private theorem Unserved.of_prefix (unserved : Unserved limit number uses)
    (initial : before <+: uses) :
    Unserved limit number before :=
  fun earlier first => unserved earlier (first.trans initial)

private theorem Unserved.spared (unserved : Unserved limit number (uses ++ [use]))
    (ticket : UInt64) :
    ((run limit uses).step use).2.phases[number]? ≠ some (.woken ticket) := by
  intro woken
  rw [← run_append_singleton] at woken
  cases unserved _ (List.prefix_refl _) _ woken

theorem drawn_run_append_le (limit : Limit ω) (uses : List (Use ω)) (use : Use ω) :
    (run limit uses).drawn ≤ (run limit (uses ++ [use])).drawn := by
  rw [run_append_singleton]
  exact drawn_le_step _ use

private theorem Beside.drawn_le (beside : Beside number own kept full) : kept.drawn ≤ full.drawn :=
  beside.drawn ▸ Nat.le_add_right _ _

private theorem beside_of_made (made : ofCapacity? capacity = some limit) (number : Nat) :
    Beside number none { limit } { limit } := by
  unfold ofCapacity? at made
  split at made
  · cases made
  · cases made
    exact ⟨rfl, rfl, rfl, rfl, rfl, fun _ _ => .none, rfl, (by simp), rfl⟩

/-- Both runs go on side by side. -/
theorem beside_run (made : ofCapacity? capacity = some limit)
    (few : (run limit uses).drawn < 2 ^ 64) (unserved : Unserved limit number uses) :
    ∃ own, Beside number own (run limit (without number uses)) (run limit uses) := by
  induction uses using List.reverseRecOn with
  | nil => exact ⟨none, beside_of_made made number⟩
  | append_singleton uses use ih =>
      have few_before := Nat.lt_of_le_of_lt (drawn_run_append_le limit uses use) few
      obtain ⟨own, beside⟩ := ih few_before (unserved.of_prefix (List.prefix_append _ _))
      have sound' := sound_run made uses few_before
      have sound := sound_run made (without number uses)
        (Nat.lt_of_le_of_lt beside.drawn_le few_before)
      rw [without_append_singleton]
      split
      · next itself =>
          have now := unserved _ (List.prefix_append uses [use])
          have after := unserved _ (List.prefix_refl (uses ++ [use]))
          rw [run_append_singleton] at after ⊢
          exact (beside.step_own sound sound' itself now after).2
      · next other =>
          have spared := unserved.spared
          rw [run_append_singleton] at few
          rw [run_append_singleton, run_append_singleton]
          exact ⟨own, (beside.step_other sound sound' other few spared).2.2⟩

/-- Nobody but borrow `number`, which has drawn ticket `own` if any, can tell the run from the
one in which it does nothing. -/
structure Untraced (limit : Limit ω) (number : Nat) (own : Option UInt64) (uses : List (Use ω)) :
    Prop where
  /-- All that others do comes to the same, and calls the same waker. -/
  answers : ∀ earlier use later, uses = earlier ++ use :: later → use.number? ≠ some number →
    (run limit (without number earlier)).entryOf? use = (run limit earlier).entryOf? use ∧
      ((run limit (without number earlier)).step use).1 = ((run limit earlier).step use).1
  /-- All other borrows are at the same point; those that wait do so under other tickets. -/
  others : ∀ one, one ≠ number → Option.Rel (Borrow.Like own)
    (run limit (without number uses)).borrows[one]? (run limit uses).borrows[one]?
  available : (run limit (without number uses)).limit.available = (run limit uses).limit.available
  guards : (run limit (without number uses)).guards = (run limit uses).guards
  /-- The lines are the same but for these tickets, and for the place of ticket `own`, -/
  line : Omits own (run limit (without number uses)).limit.line.waiters
    (run limit uses).limit.line.waiters
  /-- which is the place of borrow `number`. -/
  place : ∀ waiter ∈ (run limit uses).limit.line.waiters, own = some waiter.ticket →
    ∃ entry, (run limit uses).Parks number waiter entry
  /-- No two tickets become the same. -/
  renamed : (((run limit (without number uses)).phases.filterMap Phase.ticket?).map
    (shifted own)).Nodup

private theorem Beside.place (beside : Beside number own kept full) (sound : kept.Sound)
    (sound' : full.Sound) (ordered : full.Ordered) (few : full.drawn < 2 ^ 64)
    {waiter : Waiter ω} (member : waiter ∈ full.limit.line.waiters)
    (drew : own = some waiter.ticket) : ∃ entry, full.Parks number waiter entry := by
  have standing : waiter.ticket ∈ full.limit.line.tickets := List.mem_map_of_mem member
  obtain ⟨waker, entry, parked⟩ := beside.mine sound sound' few drew standing
  have listed := ordered.listed number ⟨waiter.ticket, waker⟩ entry parked
  -- Nobody stands in the line twice.
  have same := List.inj_on_of_nodup_map sound'.vigilant.serves.once listed member rfl
  exact ⟨entry, same ▸ parked⟩

/-- A borrow that is never served goes unnoticed in a run, from its beginning to its end, as
long as tickets have not wrapped around: it may be polled and dropped at any moment. -/
theorem untraced_run (made : ofCapacity? capacity = some limit) (number : Nat)
    (uses : List (Use ω)) (few : (run limit uses).drawn < 2 ^ 64)
    (unserved : Unserved limit number uses) :
    ∀ before, before <+: uses → ∃ own, Untraced limit number own before := by
  intro before initial
  have few_of : ∀ {earlier}, earlier <+: uses → (run limit earlier).drawn < 2 ^ 64 := by
    intro earlier first
    rw [List.prefix_iff_eq_take.mp first]
    exact Nat.lt_of_le_of_lt (drawn_take_le uses _) few
  have both : ∀ {earlier}, earlier <+: uses → ∃ own,
      Beside number own (run limit (without number earlier)) (run limit earlier) ∧
        (run limit (without number earlier)).Sound ∧ (run limit earlier).Sound := by
    intro earlier first
    obtain ⟨own, beside⟩ := beside_run made (few_of first) (unserved.of_prefix first)
    exact ⟨own, beside,
      sound_run made _ (Nat.lt_of_le_of_lt beside.drawn_le (few_of first)),
      sound_run made _ (few_of first)⟩
  obtain ⟨own, beside, sound, sound'⟩ := both initial
  refine ⟨own, ?_⟩
  constructor
  case answers =>
    intro earlier use later split other
    have first : earlier ++ [use] <+: uses :=
      List.IsPrefix.trans ⟨later, by simp [split]⟩ initial
    obtain ⟨_, beside, sound, sound'⟩ := both ((List.prefix_append _ _).trans first)
    have few_after := few_of first
    rw [run_append_singleton] at few_after
    obtain ⟨entry, woken, _⟩ :=
      beside.step_other sound sound' other few_after (unserved.of_prefix first).spared
    exact ⟨entry, woken⟩
  case others => exact beside.others
  case available => exact beside.available
  case guards => exact beside.guards
  case line => exact beside.omits
  case place =>
    have ordered := ordered_run made before (few_of initial)
    exact fun waiter member drew =>
      beside.place sound sound' ordered (few_of initial) member drew
  case renamed =>
    have serves := sound.vigilant.serves
    have few_ticket : ∀ ticket ∈ (run limit (without number before)).phases.filterMap Phase.ticket?,
        ticket.toNat + 1 < 2 ^ 64 :=
      fun ticket member => beside.few (few_of initial) (serves.toNat_lt ticket member)
    exact serves.distinct.map_on fun one first other second =>
      (shifted_inj (few_ticket one first) (few_ticket other second)).mp

/-- Borrow 1 lines up between two others and comes to stand in front, is polled again there and
dropped. Meanwhile borrow 0 is woken for a token that somebody else takes, and lines up again. -/
def briefUses : List (Use Nat) :=
  [.tryBorrow false, .borrow false, .borrow false, .borrow false, .poll 0 7, .poll 1 8, .poll 2 9,
    .giveBack, .tryBorrow false, .poll 0 17, .poll 1 18, .drop 1, .giveBack]

theorem briefUses_untraced :
    ofCapacity? 1 = some ({ capacity := 1, available := 1 } : Limit Nat) ∧
      (run { capacity := 1, available := 1 } briefUses).drawn < 2 ^ 64 ∧
      Unserved { capacity := 1, available := 1 } 1 briefUses ∧
      ∀ before, before <+: briefUses →
        ∃ own, Untraced { capacity := 1, available := 1 } 1 own before := by
  have made : ofCapacity? 1 = some ({ capacity := 1, available := 1 } : Limit Nat) := rfl
  have few : (run { capacity := 1, available := 1 } briefUses).drawn < 2 ^ 64 := by decide
  have at_each : ∀ before ∈ briefUses.inits,
      (run { capacity := 1, available := 1 } before).phases[1]?.any Phase.isServed = false := by
    decide
  have unserved : Unserved { capacity := 1, available := 1 } 1 briefUses := by
    intro before initial phase found
    have spared := at_each before ((List.mem_inits ..).mpr initial)
    rwa [found] at spared
  exact ⟨made, few, unserved, untraced_run made 1 briefUses few unserved⟩

end Usage

end Limit

end Cohort
