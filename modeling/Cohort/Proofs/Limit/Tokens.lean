import Cohort.Proofs.Limit.WakeUps

/-!
# Every token is accounted for

A limit is a counting semaphore. Whether a token is taken or given back depends on the
number of tokens alone, never on who stands in the line, and the tokens in use are those
taken less those given back. As long as nobody gives back what was not borrowed, each of
them is held by a borrow or by a guard.
-/

set_option autoImplicit false

namespace Cohort.Limit

variable {ω : Type} {limit : Limit ω}

/-! ## What the counter alone decides -/

inductive Errand where
  /-- Asks for a token, which a guard is to hold if it is guarded. -/
  | take (guarded : Bool)
  /-- Gives a token back, by way of a guard if it is guarded. -/
  | give (guarded : Bool)
deriving DecidableEq

/-- What an errand comes to at a semaphore of which nothing is known but its counter:
whether it is granted, and how many tokens are available then. -/
def Errand.meet (capacity available : Nat) : Errand → Bool × Nat
  | .take _ => if available = 0 then (false, available) else (true, available - 1)
  | .give _ => if available = capacity then (false, available) else (true, available + 1)

theorem poll_eq_taken_iff (ticket : Option UInt64) (waker : ω) :
    (limit.poll ticket waker).1 = .taken ↔ 0 < limit.available := by
  rcases Nat.eq_zero_or_pos limit.available with spent | stocked
  · simp [poll_of_eq_zero spent, spent]
  · simp [poll_of_pos stocked, stocked]

private theorem putBack_eq_error_iff :
    limit.putBack = .error .poolFull ↔ limit.capacity ≤ limit.available := by
  rcases Nat.lt_or_ge limit.available limit.capacity with room | full
  · simp [putBack_of_lt room, room]
  · simp [putBack_of_le full, full]

@[simp]
theorem available_wakeNext (limit : Limit ω) : limit.wakeNext.2.available = limit.available := rfl

@[simp]
theorem capacity_wakeNext (limit : Limit ω) : limit.wakeNext.2.capacity = limit.capacity := rfl

private theorem available_cancel (limit : Limit ω) (ticket : UInt64) :
    (limit.cancel ticket).2.available = limit.available := by
  unfold cancel
  split
  · rfl
  · exact available_wakeNext limit

private theorem capacity_cancel (limit : Limit ω) (ticket : UInt64) :
    (limit.cancel ticket).2.capacity = limit.capacity := by
  unfold cancel
  split
  · rfl
  · exact capacity_wakeNext limit

/-- An errand that was granted or not. -/
structure Entry where
  errand : Errand
  granted : Bool
deriving DecidableEq

def Entry.takes : Entry → Bool
  | ⟨.take _, granted⟩ => granted
  | ⟨.give _, _⟩ => false

def Entry.gives : Entry → Bool
  | ⟨.take _, _⟩ => false
  | ⟨.give _, granted⟩ => granted

namespace Usage

variable {usage next : Usage ω}

/-- What a use is about. To begin a borrow or to drop it is no errand, and neither is what
is done to a borrow that is over. -/
def errand? (usage : Usage ω) : Use ω → Option Errand
  | .borrow _ | .drop _ => none
  | .poll number _ =>
      match usage.borrows[number]? with
      | none => none
      | some borrow => if borrow.phase.isOver then none else some (.take borrow.guarded)
  | .tryBorrow guarded => some (.take guarded)
  | .giveBack => some (.give false)
  | .release =>
      match usage.guards with
      | 0 => none
      | _ + 1 => some (.give true)

/-- Whether the limit grants what the use is about. -/
def grants (usage : Usage ω) : Use ω → Bool
  | .borrow _ | .drop _ => false
  | .poll number waker =>
      match usage.borrows[number]? with
      | none => false
      | some borrow => decide ((usage.limit.poll borrow.phase.ticket? waker).1 = .taken)
  | .tryBorrow _ => usage.limit.take?.isSome
  | .giveBack | .release => usage.limit.putBack.isOk

def entryOf? (usage : Usage ω) (use : Use ω) : Option Entry :=
  (usage.errand? use).map (⟨·, usage.grants use⟩)

/-- The errands of the uses to come, in their order. -/
def journal (usage : Usage ω) : List (Use ω) → List Entry
  | [] => []
  | use :: rest => (usage.entryOf? use).toList ++ (usage.step use).2.journal rest

private theorem journal_append_singleton (uses : List (Use ω)) (use : Use ω) :
    journal { limit } (uses ++ [use]) =
      journal { limit } uses ++ ((run limit uses).entryOf? use).toList := by
  suffices from_any : ∀ usage : Usage ω, usage.journal (uses ++ [use]) = usage.journal uses ++
      ((uses.foldl (fun usage use => (usage.step use).2) usage).entryOf? use).toList from
    from_any { limit }
  induction uses with
  | nil =>
      intro usage
      simp [journal]
  | cons first rest ih =>
      intro usage
      simp only [List.cons_append, journal, List.foldl_cons, ih, List.append_assoc]

/-! ## What a use does with the tokens -/

/-- All that one use can do with the tokens. -/
inductive Moves (usage next : Usage ω) : Option Entry → Prop where
  | idle : next.limit.available = usage.limit.available → next.guards = usage.guards →
      Moves usage next none
  | take {guarded} : next.limit.available + 1 = usage.limit.available →
      next.guards = usage.guards + guarded.toNat → Moves usage next (some ⟨.take guarded, true⟩)
  | miss {guarded} : usage.limit.available = 0 → next.limit.available = 0 →
      next.guards = usage.guards → Moves usage next (some ⟨.take guarded, false⟩)
  | give {guarded} : usage.limit.available < usage.limit.capacity →
      next.limit.available = usage.limit.available + 1 →
      next.guards + guarded.toNat = usage.guards → Moves usage next (some ⟨.give guarded, true⟩)
  | refuse {guarded} : usage.limit.capacity ≤ usage.limit.available → next.limit = usage.limit →
      next.guards + guarded.toNat = usage.guards → Moves usage next (some ⟨.give guarded, false⟩)

private theorem guards_guardIf (usage : Usage ω) (guarded : Bool) :
    (usage.guardIf guarded).guards = usage.guards + guarded.toNat := by
  cases guarded <;> rfl

private theorem guards_handOver (usage : Usage ω) (change : Option ω × Limit ω) :
    (usage.handOver change).2.guards = usage.guards := by
  obtain ⟨woken, limit⟩ := change
  cases woken <;> rfl

private theorem putBack_of_room (room : usage.limit.available < usage.limit.capacity) :
    usage.putBack.2.limit.available = usage.limit.available + 1 ∧
      usage.putBack.2.guards = usage.guards := by
  simp [putBack, putBack_of_lt room, guards_handOver]

theorem putBack_of_full (full : usage.limit.capacity ≤ usage.limit.available) :
    usage.putBack = (none, usage) := by
  simp [putBack, putBack_of_le full]

private theorem moves_putBack {guarded : Bool} (held : next.limit = usage.limit)
    (less : next.guards + guarded.toNat = usage.guards) :
    Moves usage next.putBack.2 (some ⟨.give guarded, usage.limit.putBack.isOk⟩) := by
  rcases Nat.lt_or_ge usage.limit.available usage.limit.capacity with room | full
  · obtain ⟨available, guards⟩ := putBack_of_room (held ▸ room)
    rw [putBack_of_lt room]
    exact .give room (held ▸ available) (guards ▸ less)
  · rw [Limit.putBack_of_le full, putBack_of_full (held ▸ full)]
    exact .refuse full held less

private theorem moves_poll {number : Nat} {borrow : Borrow ω} (waker : ω) :
    Moves usage (usage.poll number borrow waker)
      (some ⟨.take borrow.guarded,
        decide ((usage.limit.poll borrow.phase.ticket? waker).1 = .taken)⟩) := by
  rcases Nat.eq_zero_or_pos usage.limit.available with spent | stocked
  · simp only [poll, poll_of_eq_zero spent]
    exact .miss spent spent rfl
  · simp only [poll, poll_of_pos stocked]
    refine .take ?_ (guards_guardIf _ _)
    rw [limit_guardIf]
    exact Nat.sub_add_cancel stocked

private theorem moves_drop (number : Nat) (borrow : Borrow ω) :
    Moves usage (usage.drop number borrow).2 none := by
  unfold drop
  cases borrow.phase.ticket? with
  | none => exact .idle rfl rfl
  | some ticket =>
      refine .idle ?_ (guards_handOver _ _)
      dsimp only
      rw [limit_handOver]
      exact available_cancel usage.limit ticket

private theorem moves_step (usage : Usage ω) (use : Use ω) :
    Moves usage (usage.step use).2 (usage.entryOf? use) := by
  cases use with
  | borrow guarded => exact .idle rfl rfl
  | poll number waker =>
      cases found : usage.borrows[number]? with
      | none => simpa [step, entryOf?, errand?, found] using .idle rfl rfl
      | some borrow =>
          cases ended : borrow.phase.isOver with
          | true => simpa [step, entryOf?, errand?, found, ended] using .idle rfl rfl
          | false =>
              simp only [step, entryOf?, errand?, grants, found, ended]
              exact moves_poll waker
  | drop number =>
      cases found : usage.borrows[number]? with
      | none => simpa [step, entryOf?, errand?, found] using .idle rfl rfl
      | some borrow =>
          cases ended : borrow.phase.isOver with
          | true => simpa [step, entryOf?, errand?, found, ended] using .idle rfl rfl
          | false =>
              simp only [step, found, ended]
              exact moves_drop number borrow
  | tryBorrow guarded =>
      rcases Nat.eq_zero_or_pos usage.limit.available with spent | stocked
      · simp only [step, entryOf?, errand?, grants, take?_of_eq_zero spent]
        exact .miss spent spent rfl
      · simp only [step, entryOf?, errand?, grants, take?_of_pos stocked]
        refine .take ?_ (guards_guardIf _ _)
        rw [limit_guardIf]
        exact Nat.sub_add_cancel stocked
  | giveBack => exact moves_putBack rfl rfl
  | release =>
      cases held : usage.guards with
      | zero => simpa [step, entryOf?, errand?, held] using .idle rfl rfl
      | succ guards =>
          simp only [step, entryOf?, errand?, grants, held]
          exact moves_putBack rfl held.symm

private theorem capacity_poll (usage : Usage ω) (number : Nat) (borrow : Borrow ω) (waker : ω) :
    (usage.poll number borrow waker).limit.capacity = usage.limit.capacity := by
  rcases Nat.eq_zero_or_pos usage.limit.available with spent | stocked
  · simp only [poll, poll_of_eq_zero spent]
    rfl
  · simp only [poll, poll_of_pos stocked, limit_guardIf]
    rfl

private theorem capacity_drop (usage : Usage ω) (number : Nat) (borrow : Borrow ω) :
    (usage.drop number borrow).2.limit.capacity = usage.limit.capacity := by
  unfold drop
  cases borrow.phase.ticket? with
  | none => rfl
  | some ticket =>
      dsimp only
      rw [limit_handOver]
      exact capacity_cancel usage.limit ticket

private theorem capacity_putBack (usage : Usage ω) :
    usage.putBack.2.limit.capacity = usage.limit.capacity := by
  rcases Nat.lt_or_ge usage.limit.available usage.limit.capacity with room | full
  · simp [putBack, putBack_of_lt room]
  · rw [putBack_of_full full]

private theorem capacity_step (usage : Usage ω) (use : Use ω) :
    (usage.step use).2.limit.capacity = usage.limit.capacity := by
  cases use with
  | borrow guarded => rfl
  | poll number waker =>
      simp only [step]
      split
      · rfl
      · split
        · rfl
        · exact capacity_poll ..
  | drop number =>
      simp only [step]
      split
      · rfl
      · split
        · rfl
        · exact capacity_drop ..
  | tryBorrow guarded =>
      rcases Nat.eq_zero_or_pos usage.limit.available with spent | stocked
      · simp only [step, take?_of_eq_zero spent]
      · simp only [step, take?_of_pos stocked, limit_guardIf]
  | giveBack => exact capacity_putBack usage
  | release =>
      cases held : usage.guards with
      | zero => simp only [step, held]
      | succ guards =>
          simp only [step, held]
          exact capacity_putBack { usage with guards }

/-- As many tokens are in use as were taken and not given back. -/
structure Balanced (usage : Usage ω) (journal : List Entry) : Prop where
  available_le : usage.limit.available ≤ usage.limit.capacity
  counted : usage.limit.inUse + journal.countP Entry.gives = journal.countP Entry.takes

private theorem Balanced.step {journal : List Entry} (balanced : usage.Balanced journal)
    (use : Use ω) :
    (usage.step use).2.Balanced (journal ++ (usage.entryOf? use).toList) := by
  obtain ⟨bounded, counted⟩ := balanced
  have capacity := capacity_step usage use
  have moved := moves_step usage use
  generalize (usage.step use).2 = next at capacity moved ⊢
  generalize usage.entryOf? use = entry at moved ⊢
  unfold inUse at counted
  cases moved with
  | idle available _ =>
      refine ⟨by omega, ?_⟩
      simp only [inUse, Option.toList_none, List.append_nil]
      omega
  | take available _ | miss _ available _ | give _ available _ =>
      refine ⟨by omega, ?_⟩
      simp only [inUse, Option.toList_some, List.countP_append, List.countP_singleton, Entry.takes,
        Entry.gives, Bool.false_eq_true, if_true, if_false]
      omega
  | refuse _ same _ =>
      refine ⟨same ▸ bounded, ?_⟩
      simpa [inUse, same, Entry.takes, Entry.gives] using counted

private theorem balanced_run {capacity : Nat} (made : ofCapacity? capacity = some limit)
    (uses : List (Use ω)) :
    (run limit uses).limit.capacity = capacity ∧
      (run limit uses).Balanced (journal { limit } uses) := by
  induction uses using List.reverseRecOn with
  | nil =>
      unfold ofCapacity? at made
      split at made
      · cases made
      · cases made
        exact ⟨rfl, Nat.le_refl _, by simp [run, journal, inUse]⟩
  | append_singleton uses use ih =>
      obtain ⟨same, balanced⟩ := ih
      rw [run_append_singleton, journal_append_singleton]
      exact ⟨(capacity_step _ use).trans same, balanced.step use⟩

/-! ## Who holds the tokens -/

/-- How many tokens were taken without a guard. -/
def rawTaken (journal : List Entry) : Nat :=
  journal.count ⟨.take false, true⟩

/-- How many tokens were given back without a guard. -/
def rawGiven (journal : List Entry) : Nat :=
  journal.count ⟨.give false, true⟩

private theorem rawTaken_take (journal : List Entry) (guarded : Bool) :
    rawTaken (journal ++ [⟨.take guarded, true⟩]) = rawTaken journal + (!guarded).toNat := by
  cases guarded <;> simp [rawTaken]

private theorem rawGiven_give (journal : List Entry) (guarded : Bool) :
    rawGiven (journal ++ [⟨.give guarded, true⟩]) = rawGiven journal + (!guarded).toNat := by
  cases guarded <;> simp [rawGiven]

private theorem rawTaken_of_not_takes (journal : List Entry) {entry : Entry}
    (other : entry.takes = false) :
    rawTaken (journal ++ [entry]) = rawTaken journal := by
  rw [rawTaken, List.count_append, List.count_singleton, if_neg, Nat.add_zero, rawTaken]
  rintro same
  rw [beq_iff_eq.mp same] at other
  cases other

private theorem rawGiven_of_not_gives (journal : List Entry) {entry : Entry}
    (other : entry.gives = false) :
    rawGiven (journal ++ [entry]) = rawGiven journal := by
  rw [rawGiven, List.count_append, List.count_singleton, if_neg, Nat.add_zero, rawGiven]
  rintro same
  rw [beq_iff_eq.mp same] at other
  cases other

/-- Whenever a token is given back without a guard, one is out without a guard. -/
def Honest (limit : Limit ω) (uses : List (Use ω)) : Prop :=
  ∀ before after, uses = before ++ .giveBack :: after →
    rawGiven (journal { limit } before) < rawTaken (journal { limit } before)

/-- Each token in use is out without a guard or held by one, and none was refused. -/
structure Attributed (usage : Usage ω) (journal : List Entry) : Prop where
  held : usage.limit.inUse + rawGiven journal = rawTaken journal + usage.guards
  owed : rawGiven journal ≤ rawTaken journal
  welcome : ∀ guarded, ⟨.give guarded, false⟩ ∉ journal

private theorem eq_giveBack_of_errand? {use : Use ω}
    (gives : usage.errand? use = some (.give false)) :
    use = .giveBack := by
  cases use with
  | giveBack => rfl
  | borrow _ | drop _ | tryBorrow _ => cases gives
  | poll number waker =>
      cases found : usage.borrows[number]? with
      | none => simp [errand?, found] at gives
      | some borrow => simp [errand?, found] at gives
  | release => cases held : usage.guards <;> simp [errand?, held] at gives

/-- Whatever is given back, by hand or by a guard, is in use. -/
private theorem Attributed.step {journal : List Entry} (attributed : usage.Attributed journal)
    (bounded : usage.limit.available ≤ usage.limit.capacity) (use : Use ω)
    (honest : use = .giveBack → rawGiven journal < rawTaken journal) :
    (usage.step use).2.Attributed (journal ++ (usage.entryOf? use).toList) := by
  obtain ⟨held, owed, welcome⟩ := attributed
  have capacity := capacity_step usage use
  have moved := moves_step usage use
  have given : ∀ granted, usage.entryOf? use = some ⟨.give false, granted⟩ →
      rawGiven journal < rawTaken journal := by
    intro granted same
    obtain ⟨errand, gives, found⟩ := Option.map_eq_some_iff.mp same
    cases found
    exact honest (eq_giveBack_of_errand? gives)
  generalize (usage.step use).2 = next at capacity moved ⊢
  generalize usage.entryOf? use = entry at moved given ⊢
  unfold inUse at held
  cases moved with
  | idle available guards =>
      rw [Option.toList_none, List.append_nil]
      refine ⟨?_, owed, welcome⟩
      unfold inUse
      omega
  | @take guarded available guards =>
      have single : (!guarded).toNat + guarded.toNat = 1 := by cases guarded <;> rfl
      rw [Option.toList_some]
      refine ⟨?_, ?_, by simpa using welcome⟩
      · rw [rawTaken_take, rawGiven_of_not_gives journal rfl, inUse]
        omega
      · rw [rawTaken_take, rawGiven_of_not_gives journal rfl]
        exact Nat.le_add_right_of_le owed
  | miss spent available guards =>
      rw [Option.toList_some]
      refine ⟨?_, ?_, by simpa using welcome⟩
      · rw [rawTaken_of_not_takes journal rfl, rawGiven_of_not_gives journal rfl, inUse]
        omega
      · rwa [rawTaken_of_not_takes journal rfl, rawGiven_of_not_gives journal rfl]
  | @give guarded room available guards =>
      have single : (!guarded).toNat + guarded.toNat = 1 := by cases guarded <;> rfl
      rw [Option.toList_some]
      refine ⟨?_, ?_, by simpa using welcome⟩
      · rw [rawTaken_of_not_takes journal rfl, rawGiven_give, inUse]
        omega
      · rw [rawTaken_of_not_takes journal rfl, rawGiven_give]
        cases guarded with
        | false => exact given true rfl
        | true => exact owed
  | @refuse guarded full same guards =>
      -- Nothing is in use if the pool is full, but there is a token to be given back.
      cases guarded with
      | false =>
          have outstanding := given false rfl
          omega
      | true =>
          rw [Bool.toNat_true] at guards
          omega

private theorem attributed_run {capacity : Nat} (made : ofCapacity? capacity = some limit)
    {uses : List (Use ω)} (honest : Honest limit uses) :
    (run limit uses).Attributed (journal { limit } uses) := by
  induction uses using List.reverseRecOn with
  | nil =>
      unfold ofCapacity? at made
      split at made
      · cases made
      · cases made
        exact ⟨by simp [run, journal, inUse, rawTaken, rawGiven], Nat.le_refl _, by simp [journal]⟩
  | append_singleton uses use ih =>
      have before : Honest limit uses := fun past later split =>
        honest past (later ++ [use]) (by simp [split])
      rw [run_append_singleton, journal_append_singleton]
      refine (ih before).step (balanced_run made uses).2.available_le use ?_
      rintro rfl
      exact honest uses [] rfl

/-! ## The semaphore -/

private theorem meet_of_errand? (bounded : usage.limit.available ≤ usage.limit.capacity)
    {use : Use ω} {errand : Errand} (about : usage.errand? use = some errand) :
    (usage.grants use, (usage.step use).2.limit.available) =
      errand.meet usage.limit.capacity usage.limit.available := by
  have moved := moves_step usage use
  simp only [entryOf?, about, Option.map_some] at moved
  generalize (usage.step use).2 = next at moved ⊢
  generalize usage.grants use = granted at moved ⊢
  cases moved with
  | take available _ =>
      have stocked : usage.limit.available ≠ 0 := by omega
      have less : next.limit.available = usage.limit.available - 1 := by omega
      simp [Errand.meet, stocked, less]
  | miss spent available _ => simp [Errand.meet, spent, available]
  | give room available _ => simp [Errand.meet, Nat.ne_of_lt room, available]
  | refuse full same _ => simp [Errand.meet, Nat.le_antisymm bounded full, same]

/-- What a limit and its uses come to, as far as its tokens are concerned. -/
structure Metered (capacity : Nat) (limit : Limit ω) (uses : List (Use ω)) : Prop where
  bounded : (run limit uses).limit.capacity = capacity ∧
    (run limit uses).limit.available ≤ capacity
  /-- The tokens in use are those taken less those given back. -/
  balanced : capacity - (run limit uses).limit.available +
    (journal { limit } uses).countP Entry.gives = (journal { limit } uses).countP Entry.takes
  /-- Whatever is asked of a limit next, the counter alone decides what comes of it. -/
  decided : ∀ use errand, (run limit uses).errand? use = some errand →
    ((run limit uses).grants use, ((run limit uses).step use).2.limit.available) =
      errand.meet capacity (run limit uses).limit.available
  polled : ∀ ticket waker, ((run limit uses).limit.poll ticket waker).1 = .taken ↔
    0 < (run limit uses).limit.available
  /-- To begin a borrow, to drop it or to use it when it is over leaves the counter alone. -/
  aside : ∀ use, (run limit uses).errand? use = none →
    ((run limit uses).step use).2.limit.available = (run limit uses).limit.available
  dropped : ∀ number, ((run limit uses).step (.drop number)).2.limit.available =
    (run limit uses).limit.available
  refused : (run limit uses).limit.putBack = .error .poolFull ↔
    (run limit uses).limit.available = capacity
  /-- What a full pool refuses changes nothing there, and nobody is woken. -/
  unmoved : (run limit uses).limit.available = capacity →
    (run limit uses).step .giveBack = (none, run limit uses) ∧
      ((run limit uses).step .release).1 = none ∧
      ((run limit uses).step .release).2.limit = (run limit uses).limit
  /-- Unless somebody gives back what was not borrowed, nothing is ever refused, and each
  token in use has its holder. -/
  honest : Honest limit uses →
    (∀ guarded, ⟨.give guarded, false⟩ ∉ journal { limit } uses) ∧
      rawGiven (journal { limit } uses) ≤ rawTaken (journal { limit } uses) ∧
      (run limit uses).limit.inUse =
        rawTaken (journal { limit } uses) - rawGiven (journal { limit } uses) +
          (run limit uses).guards ∧
      rawTaken (journal { limit } uses) - rawGiven (journal { limit } uses) +
        (run limit uses).guards ≤ capacity

private theorem step_release_of_full (full : usage.limit.capacity ≤ usage.limit.available) :
    (usage.step .release).1 = none ∧ (usage.step .release).2.limit = usage.limit := by
  cases held : usage.guards with
  | zero => simp [step, held]
  | succ guards =>
      have same : putBack { usage with guards } = (none, { usage with guards }) :=
        putBack_of_full full
      simp [step, held, same]

theorem metered_run {capacity : Nat} (made : ofCapacity? capacity = some limit)
    (uses : List (Use ω)) : Metered capacity limit uses := by
  obtain ⟨same, balanced⟩ := balanced_run made uses
  have bounded := balanced.available_le
  have counted := balanced.counted
  unfold inUse at counted
  rw [same] at bounded counted
  have aside : ∀ use, (run limit uses).errand? use = none →
      ((run limit uses).step use).2.limit.available = (run limit uses).limit.available := by
    intro use none_asked
    have moved := moves_step (run limit uses) use
    simp only [entryOf?, none_asked, Option.map_none] at moved
    cases moved with
    | idle available _ => exact available
  constructor
  case bounded => exact ⟨same, bounded⟩
  case balanced => exact counted
  case decided =>
    intro use errand about
    rw [meet_of_errand? balanced.available_le about, same]
  case polled => exact fun ticket waker => poll_eq_taken_iff ticket waker
  case aside => exact aside
  case dropped => exact fun number => aside (.drop number) rfl
  case refused =>
    rw [putBack_eq_error_iff, same]
    exact ⟨fun full => Nat.le_antisymm bounded full, fun full => Nat.le_of_eq full.symm⟩
  case unmoved =>
    intro full
    have full : (run limit uses).limit.capacity ≤ (run limit uses).limit.available :=
      Nat.le_of_eq (same.trans full.symm)
    exact ⟨putBack_of_full full, step_release_of_full full⟩
  case honest =>
    intro honest
    obtain ⟨held, owed, welcome⟩ := attributed_run made honest
    unfold inUse at held ⊢
    rw [same] at held ⊢
    exact ⟨welcome, owed, by omega, by omega⟩

-- A token that was given back by hand for its guard cannot be given back by the guard.
example : journal { limit := { capacity := 1, available := 1 } }
    [(.tryBorrow true : Use Nat), .giveBack, .release] =
      [⟨.take true, true⟩, ⟨.give false, true⟩, ⟨.give true, false⟩] := by decide

/-- A guarded borrow waits for the one token, another borrow waits behind it and goes away,
then the token is given back and the guarded one takes it. -/
def handedUses : List (Use Nat) :=
  [.tryBorrow false, .borrow true, .borrow false, .poll 0 7, .poll 1 8, .drop 1, .giveBack,
    .poll 0 9]

theorem handedUses_metered :
    ofCapacity? 1 = some ({ capacity := 1, available := 1 } : Limit Nat) ∧
      Honest { capacity := 1, available := 1 } handedUses ∧
      (run { capacity := 1, available := 1 } handedUses).limit.inUse = 1 ∧
      (run { capacity := 1, available := 1 } handedUses).guards = 1 ∧
      ∀ guarded, ⟨.give guarded, false⟩ ∉
        journal { limit := { capacity := 1, available := 1 } } handedUses := by
  have made : ofCapacity? 1 = some ({ capacity := 1, available := 1 } : Limit Nat) := rfl
  have honest : Honest { capacity := 1, available := 1 } handedUses := by
    intro before after split
    obtain ⟨rfl, rfl⟩ : before = [.tryBorrow false, .borrow true, .borrow false, .poll 0 7,
        .poll 1 8, .drop 1] ∧ after = [.poll 0 9] := by
      simpa [handedUses, List.cons_eq_append_iff] using split
    decide
  obtain ⟨welcome, _⟩ := (metered_run made handedUses).honest honest
  exact ⟨made, honest, by decide, by decide, welcome⟩

end Usage

end Cohort.Limit
