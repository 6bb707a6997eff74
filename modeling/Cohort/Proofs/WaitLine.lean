import Mathlib.Data.List.Basic
import Mathlib.Algebra.Group.Nat.Defs
import Cohort.WaitLine

/-!
# Those who wait in a line

Whoever waits keeps the ticket of its first place until it is served or goes away.
It is parked while the ticket stands in the line. Once it was taken out and woken
the ticket stands nowhere, until it parks again. Tickets alone therefore tell the
woken from the parked, provided that no ticket was handed out twice.
-/

set_option autoImplicit false

namespace Cohort.WaitLine

variable {ω : Type} {line : WaitLine ω} {waiter : Waiter ω} {waiters : List (Waiter ω)}
  {waiting rest : List UInt64} {ticket other : UInt64} {held : Option UInt64} {drawn : Nat}

/-- `waiting` are the tickets of all who wait, the woken included, and `drawn` tickets
were handed out. Nothing is said about the order of `waiting`. -/
structure Serves (line : WaitLine ω) (waiting : List UInt64) (drawn : Nat) : Prop where
  drawn_eq : line.drawn = drawn
  few : drawn < 2 ^ 64
  distinct : waiting.Nodup
  toNat_lt : ∀ ticket ∈ waiting, ticket.toNat < drawn
  once : line.tickets.Nodup
  waits : ∀ ticket ∈ line.tickets, ticket ∈ waiting

/-- How many of those who wait were taken out of the line. -/
def wokenCount (line : WaitLine ω) (waiting : List UInt64) : Nat :=
  waiting.countP (fun ticket => !line.holds ticket)

theorem serves_empty : (empty : WaitLine ω).Serves [] 0 where
  drawn_eq := rfl
  few := by decide
  distinct := List.nodup_nil
  toNat_lt := by simp
  once := List.nodup_nil
  waits := by simp [tickets, empty]

theorem Serves.perm {others : List UInt64} (serves : line.Serves waiting drawn)
    (same : waiting.Perm others) : line.Serves others drawn where
  drawn_eq := serves.drawn_eq
  few := serves.few
  distinct := same.nodup_iff.mp serves.distinct
  toNat_lt := fun ticket member => serves.toNat_lt ticket (same.mem_iff.mpr member)
  once := serves.once
  waits := fun ticket member => same.mem_iff.mp (serves.waits ticket member)

theorem Serves.ne_of_mem (serves : line.Serves (ticket :: rest) drawn) (member : other ∈ rest) :
    other ≠ ticket := by
  intro same
  subst same
  exact (List.nodup_cons.mp serves.distinct).1 member

theorem holds_eq_of_mem_iff {one : WaitLine ω}
    (same : other ∈ one.tickets ↔ other ∈ line.tickets) : one.holds other = line.holds other := by
  rw [Bool.eq_iff_iff, holds_iff, holds_iff]
  exact same

theorem holds_eq_false_iff : line.holds ticket = false ↔ ticket ∉ line.tickets := by
  rw [← holds_iff, Bool.not_eq_true]

/-! ## Parking -/

theorem toNat_next (few : line.drawn < 2 ^ 64) : line.next.toNat = line.drawn := by
  rw [next, UInt64.toNat_ofNat', Nat.mod_eq_of_lt few]

theorem Serves.toNat_next (serves : line.Serves waiting drawn) : line.next.toNat = drawn := by
  rw [WaitLine.toNat_next (serves.drawn_eq ▸ serves.few), serves.drawn_eq]

/-- The next ticket stands nowhere while tickets have not wrapped around. -/
theorem Serves.next_not_mem (serves : line.Serves waiting drawn) : line.next ∉ waiting := by
  intro member
  have before := serves.toNat_lt _ member
  rw [serves.toNat_next] at before
  exact Nat.lt_irrefl _ before

theorem Serves.holds_next (serves : line.Serves waiting drawn) : line.holds line.next = false :=
  holds_eq_false_iff.mpr fun member => serves.next_not_mem (serves.waits _ member)

theorem park_eq (line : WaitLine ω) (held : Option UInt64) (waker : ω) :
    line.park held waker =
      ((line.draw held).1,
        { drawn := (line.draw held).2.drawn
          waiters :=
            if line.holds (line.draw held).1 then rewake (line.draw held).1 waker line.waiters
            else line.waiters ++ [⟨(line.draw held).1, waker⟩] }) := by
  have same : (line.draw held).2.waiters = line.waiters := by cases held <;> rfl
  have holds (ticket : UInt64) : (line.draw held).2.holds ticket = line.holds ticket := by
    simp only [WaitLine.holds, same]
  simp only [park, holds]
  split <;> simp [same]

theorem mem_rewake (ticket : UInt64) (waker : ω) (member : waiter ∈ rewake ticket waker waiters) :
    waiter ∈ waiters ∨ waiter = ⟨ticket, waker⟩ := by
  induction waiters with
  | nil => exact absurd member List.not_mem_nil
  | cons front behind ih =>
      simp only [rewake] at member
      split at member
      · next same =>
          rcases List.mem_cons.mp member with rfl | member
          · exact Or.inr (by rw [same])
          · exact Or.inl (List.mem_cons_of_mem _ member)
      · rcases List.mem_cons.mp member with rfl | member
        · exact Or.inl List.mem_cons_self
        · exact (ih member).imp_left (List.mem_cons_of_mem _)

theorem mem_park {waker : ω} (member : waiter ∈ (line.park held waker).2.waiters) :
    waiter ∈ line.waiters ∨ waiter = ⟨(line.park held waker).1, waker⟩ := by
  rw [park_eq] at member ⊢
  dsimp only at member
  split at member
  · exact mem_rewake _ _ member
  · exact (List.mem_append.mp member).imp_right List.mem_singleton.mp

/-- Parking brings no waker into the line but the one parked with. -/
theorem mem_wakers_park {waker waker' : ω}
    (member : waker' ∈ (line.park held waker).2.waiters.map Waiter.waker) :
    waker' ∈ line.waiters.map Waiter.waker ∨ waker' = waker := by
  obtain ⟨waiter, standing, rfl⟩ := List.mem_map.mp member
  rcases mem_park standing with before | rfl
  · exact Or.inl (List.mem_map_of_mem before)
  · exact Or.inr rfl

theorem mem_rewake_of_ne (waker : ω) (member : waiter ∈ waiters)
    (different : waiter.ticket ≠ ticket) : waiter ∈ rewake ticket waker waiters := by
  induction waiters with
  | nil => exact absurd member List.not_mem_nil
  | cons front behind ih =>
      simp only [rewake]
      rcases List.mem_cons.mp member with rfl | member
      · rw [if_neg different]
        exact List.mem_cons_self
      · split
        · exact List.mem_cons_of_mem _ member
        · exact List.mem_cons_of_mem _ (ih member)

theorem mem_rewake_self (waker : ω) (standing : ticket ∈ waiters.map Waiter.ticket) :
    ⟨ticket, waker⟩ ∈ rewake ticket waker waiters := by
  induction waiters with
  | nil => exact absurd standing List.not_mem_nil
  | cons front behind ih =>
      simp only [rewake]
      split
      · next same =>
          rw [← same]
          exact List.mem_cons_self
      · next different =>
          refine List.mem_cons_of_mem _ (ih ?_)
          exact (List.mem_cons.mp standing).resolve_left (Ne.symm different)

theorem mem_park_of_ne (waker : ω) (member : waiter ∈ line.waiters)
    (different : waiter.ticket ≠ (line.park held waker).1) :
    waiter ∈ (line.park held waker).2.waiters := by
  rw [park_eq] at different ⊢
  dsimp only
  split
  · exact mem_rewake_of_ne waker member different
  · exact List.mem_append_left _ member

/-- Whoever parks stands in the line, under its ticket and with its waker. -/
theorem mem_park_self (line : WaitLine ω) (held : Option UInt64) (waker : ω) :
    ⟨(line.park held waker).1, waker⟩ ∈ (line.park held waker).2.waiters := by
  rw [park_eq]
  dsimp only
  split
  · next standing => exact mem_rewake_self waker (holds_iff.mp standing)
  · exact List.mem_append_right _ (List.mem_singleton_self _)

theorem drawn_park (line : WaitLine ω) (held : Option UInt64) (waker : ω) :
    (line.park held waker).2.drawn = (line.draw held).2.drawn := by
  rw [park_eq]

theorem park_none (absent : line.holds line.next = false) (waker : ω) :
    line.park none waker =
      (line.next,
        { drawn := line.drawn + 1, waiters := line.waiters ++ [⟨line.next, waker⟩] }) := by
  have unheld : WaitLine.holds { line with drawn := line.drawn + 1 } line.next = false := absent
  simp [park, draw, unheld]

theorem tickets_park_none (absent : line.holds line.next = false) (waker : ω) :
    (line.park none waker).2.tickets = line.tickets ++ [line.next] := by
  rw [park_none absent]
  simp [tickets]

theorem park_of_holds (standing : line.holds ticket = true) (waker : ω) :
    line.park (some ticket) waker =
      (ticket, { line with waiters := rewake ticket waker line.waiters }) := by
  simp [park, draw, standing]

theorem park_of_not_holds (absent : line.holds ticket = false) (waker : ω) :
    line.park (some ticket) waker =
      (ticket, { line with waiters := line.waiters ++ [⟨ticket, waker⟩] }) := by
  simp [park, draw, absent]

@[simp]
theorem fst_park_some (line : WaitLine ω) (ticket : UInt64) (waker : ω) :
    (line.park (some ticket) waker).1 = ticket := by
  cases standing : line.holds ticket <;> simp [park, draw, standing]

@[simp]
theorem drawn_park_some (line : WaitLine ω) (ticket : UInt64) (waker : ω) :
    (line.park (some ticket) waker).2.drawn = line.drawn :=
  line.drawn_park (some ticket) waker

@[simp]
theorem drawn_park_none (line : WaitLine ω) (waker : ω) :
    (line.park none waker).2.drawn = line.drawn + 1 :=
  line.drawn_park none waker

theorem mem_tickets_park_some (line : WaitLine ω) (ticket other : UInt64) (waker : ω) :
    other ∈ (line.park (some ticket) waker).2.tickets ↔ other ∈ line.tickets ∨ other = ticket := by
  cases standing : line.holds ticket with
  | true =>
      rw [tickets_park_of_holds standing]
      constructor
      · exact Or.inl
      · rintro (member | rfl)
        · exact member
        · exact holds_iff.mp standing
  | false => simp [tickets_park_of_not_holds standing]

theorem Serves.mem_tickets_park_none (serves : line.Serves waiting drawn) (other : UInt64)
    (waker : ω) :
    other ∈ (line.park none waker).2.tickets ↔
      other ∈ line.tickets ∨ other = (line.park none waker).1 := by
  rw [WaitLine.park_none serves.holds_next]
  simp [tickets]

/-- A newcomer comes to stand behind all others, under a ticket of its own. -/
theorem Serves.park_none (serves : line.Serves waiting drawn) (few : drawn + 1 < 2 ^ 64)
    (waker : ω) :
    (line.park none waker).2.Serves ((line.park none waker).1 :: waiting) (drawn + 1) := by
  have tickets_eq := tickets_park_none serves.holds_next waker
  rw [WaitLine.park_none serves.holds_next] at tickets_eq ⊢
  constructor
  · exact congrArg (· + 1) serves.drawn_eq
  · exact few
  · exact List.nodup_cons.mpr ⟨serves.next_not_mem, serves.distinct⟩
  · intro ticket member
    rcases List.mem_cons.mp member with rfl | member
    · rw [serves.toNat_next]
      exact Nat.lt_succ_self drawn
    · exact Nat.lt_succ_of_lt (serves.toNat_lt ticket member)
  · rw [tickets_eq]
    refine List.nodup_append.mpr ⟨serves.once, by simp, ?_⟩
    intro ticket member single found same
    rw [List.mem_singleton.mp found] at same
    exact serves.next_not_mem (serves.waits _ (same ▸ member))
  · rw [tickets_eq]
    intro ticket member
    rcases List.mem_append.mp member with member | found
    · exact List.mem_cons_of_mem _ (serves.waits ticket member)
    · rw [List.mem_singleton.mp found]
      exact List.mem_cons_self

/-- Whoever has a ticket parks under it, whether it was woken or not. -/
theorem Serves.park_some (serves : line.Serves waiting drawn) (waits : ticket ∈ waiting)
    (waker : ω) : (line.park (some ticket) waker).2.Serves waiting drawn where
  drawn_eq := by rw [drawn_park_some, serves.drawn_eq]
  few := serves.few
  distinct := serves.distinct
  toNat_lt := serves.toNat_lt
  once := by
    cases standing : line.holds ticket with
    | true => exact (tickets_park_of_holds standing waker).symm ▸ serves.once
    | false =>
        rw [tickets_park_of_not_holds standing]
        refine List.nodup_append.mpr ⟨serves.once, by simp, ?_⟩
        intro found member single last same
        rw [List.mem_singleton.mp last] at same
        exact holds_eq_false_iff.mp standing (same ▸ member)
  waits := by
    intro found member
    rcases (mem_tickets_park_some line ticket found waker).mp member with member | rfl
    · exact serves.waits found member
    · exact waits

/-! ## Leaving and being woken -/

theorem holds_leave_of_ne (different : other ≠ ticket) :
    (line.leave ticket).holds other = line.holds other :=
  holds_eq_of_mem_iff (by simp [different])

theorem Serves.leave (serves : line.Serves (ticket :: rest) drawn) :
    (line.leave ticket).Serves rest drawn where
  drawn_eq := serves.drawn_eq
  few := serves.few
  distinct := (List.nodup_cons.mp serves.distinct).2
  toNat_lt := fun other member => serves.toNat_lt other (List.mem_cons_of_mem _ member)
  once := by
    rw [tickets_leave]
    exact serves.once.filter _
  waits := by
    intro other member
    obtain ⟨stands, different⟩ := List.mem_filter.mp (tickets_leave line ticket ▸ member)
    rcases List.mem_cons.mp (serves.waits other stands) with rfl | found
    · simp at different
    · exact found

/-- Somebody who was woken goes away without being seen by the line. -/
theorem Serves.forget (serves : line.Serves (ticket :: rest) drawn)
    (woken : line.holds ticket = false) : line.Serves rest drawn where
  drawn_eq := serves.drawn_eq
  few := serves.few
  distinct := (List.nodup_cons.mp serves.distinct).2
  toNat_lt := fun other member => serves.toNat_lt other (List.mem_cons_of_mem _ member)
  once := serves.once
  waits := by
    intro other stands
    rcases List.mem_cons.mp (serves.waits other stands) with rfl | found
    · exact absurd stands (holds_eq_false_iff.mp woken)
    · exact found

@[simp]
theorem drawn_shift (line : WaitLine ω) : line.shift.2.drawn = line.drawn := by
  cases waiters : line.waiters <;> simp [WaitLine.shift, waiters]

theorem Serves.shift (serves : line.Serves waiting drawn) :
    line.shift.2.Serves waiting drawn where
  drawn_eq := by rw [drawn_shift, serves.drawn_eq]
  few := serves.few
  distinct := serves.distinct
  toNat_lt := serves.toNat_lt
  once := by
    rw [tickets_shift]
    exact serves.once.tail
  waits := by
    intro ticket member
    rw [tickets_shift] at member
    exact serves.waits ticket (List.mem_of_mem_tail member)

/-- Of two who stand in a line under different tickets only the front one is taken out. -/
theorem Serves.holds_shift {front : Waiter ω} {behind : List (Waiter ω)}
    (serves : line.Serves waiting drawn) (waiters : line.waiters = front :: behind) :
    line.shift.2.holds other = if other = front.ticket then false else line.holds other := by
  have tickets_eq : line.tickets = front.ticket :: line.shift.2.tickets := by
    simp [tickets, WaitLine.shift, waiters]
  by_cases foremost : other = front.ticket
  · rw [if_pos foremost, holds_eq_false_iff, foremost]
    exact (List.nodup_cons.mp (tickets_eq ▸ serves.once)).1
  · rw [if_neg foremost]
    refine holds_eq_of_mem_iff ?_
    rw [tickets_eq, List.mem_cons]
    exact ⟨Or.inr, fun found => found.resolve_left foremost⟩

/-! ## Counting the woken -/

theorem wokenCount_congr {one : WaitLine ω}
    (same : ∀ ticket ∈ waiting, one.holds ticket = line.holds ticket) :
    one.wokenCount waiting = line.wokenCount waiting := by
  refine List.countP_congr fun ticket member => ?_
  rw [same ticket member]

theorem wokenCount_perm {others : List UInt64} (same : waiting.Perm others) :
    line.wokenCount waiting = line.wokenCount others :=
  same.countP_eq _

theorem wokenCount_cons_of_holds (standing : line.holds ticket = true) :
    line.wokenCount (ticket :: rest) = line.wokenCount rest := by
  simp [wokenCount, standing]

theorem wokenCount_cons_of_not_holds (woken : line.holds ticket = false) :
    line.wokenCount (ticket :: rest) = line.wokenCount rest + 1 := by
  simp [wokenCount, woken]

/-- Taking out the front one adds exactly one to the woken. -/
theorem Serves.wokenCount_shift {front : Waiter ω} {behind : List (Waiter ω)}
    (serves : line.Serves waiting drawn) (waiters : line.waiters = front :: behind) :
    line.shift.2.wokenCount waiting = line.wokenCount waiting + 1 := by
  have stands : front.ticket ∈ line.tickets := by simp [tickets, waiters]
  have split := List.perm_cons_erase (serves.waits _ stands)
  have others : ∀ ticket ∈ waiting.erase front.ticket,
      line.shift.2.holds ticket = line.holds ticket := by
    intro ticket member
    rw [serves.holds_shift waiters, if_neg ((serves.perm split).ne_of_mem member)]
  have gone : line.shift.2.holds front.ticket = false := by
    rw [serves.holds_shift waiters, if_pos rfl]
  rw [wokenCount_perm split, wokenCount_perm split, wokenCount_cons_of_not_holds gone,
    wokenCount_cons_of_holds (holds_iff.mpr stands), wokenCount_congr others]

end Cohort.WaitLine
