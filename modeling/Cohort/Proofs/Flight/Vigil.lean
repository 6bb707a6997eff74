import Mathlib.Logic.Function.Basic
import Mathlib.Data.List.Induction
import Cohort.Flight
import Cohort.Proofs.WaitLine

/-!
# Vigils

What can happen to one call, whoever leads it: its followers are polled and dropped in any
order, and at some moment it may be settled. The record beside the call is bookkeeping
only: a follower knows of itself no more than its ticket.
-/

set_option autoImplicit false

namespace Cohort.Call

/-- A follower of a call. -/
inductive Follower where
  /-- It has no ticket before its first poll, nor after it was told how the call ended. -/
  | alive (ticket : Option UInt64)
  | dropped
deriving DecidableEq

/-- What can happen to a call. Its followers are numbered. -/
inductive Act (ω ρ : Type) where
  | poll (follower : Nat) (waker : ω)
  | drop (follower : Nat)
  | settle (verdict : Verdict ρ)
deriving DecidableEq

namespace Act

variable {ω ρ : Type}

def follower? : Act ω ρ → Option Nat
  | .poll follower _ | .drop follower => some follower
  | .settle _ => none

def isSettle : Act ω ρ → Bool
  | .settle _ => true
  | .poll _ _ | .drop _ => false

/-- The waker that follower `number` is polled with, if the act polls it. -/
def waker? (number : Nat) : Act ω ρ → Option ω
  | .poll follower waker => if follower = number then some waker else none
  | .drop _ | .settle _ => none

end Act

/-- A call with its followers and the wakers called so far. A follower that was never polled
has left no trace, so it does not matter when it came. -/
structure Vigil (ω ρ : Type) where
  call : Call ω ρ := {}
  followers : Nat → Follower := fun _ => .alive none
  called : List ω := []

section

variable {ω ρ : Type} {call : Call ω ρ}

theorem poll_of_running (running : call.verdict = none) (held : Option UInt64) (waker : ω) :
    call.poll held waker =
      (.parked (call.line.park held waker).1,
        { call with line := (call.line.park held waker).2 }) := by
  simp [poll, running]

theorem poll_of_ended {verdict : Verdict ρ} (ended : call.verdict = some verdict)
    (held : Option UInt64) (waker : ω) : call.poll held waker = (.settled verdict, call) := by
  simp [poll, ended]

theorem leave_of_empty (empty : call.line.waiters = []) (ticket : UInt64) :
    call.leave ticket = call := by
  simp only [leave, WaitLine.leave, empty, List.filter_nil]
  rw [← empty]

end

namespace Vigil

variable {ω ρ : Type}

def advance (vigil : Vigil ω ρ) (number : Nat) (follower : Follower) (call : Call ω ρ) :
    Vigil ω ρ :=
  { vigil with call, followers := Function.update vigil.followers number follower }

/-- What follower `number` is told if it is polled, provided that it was not dropped. -/
def answer? (vigil : Vigil ω ρ) (number : Nat) (waker : ω) : Option (Following ρ) :=
  match vigil.followers number with
  | .alive held => some (vigil.call.poll held waker).1
  | .dropped => none

/-- Nothing can be done with a follower that was dropped. -/
def step (vigil : Vigil ω ρ) : Act ω ρ → Vigil ω ρ
  | .poll number waker =>
      match vigil.followers number with
      | .alive held =>
          match vigil.call.poll held waker with
          | (.parked ticket, call) => vigil.advance number (.alive (some ticket)) call
          | (.settled _, call) => vigil.advance number (.alive none) call
      | .dropped => vigil
  | .drop number =>
      match vigil.followers number with
      | .alive (some ticket) => vigil.advance number .dropped (vigil.call.leave ticket)
      | .alive none => vigil.advance number .dropped vigil.call
      | .dropped => vigil
  | .settle verdict =>
      let (woken, call) := vigil.call.settle verdict
      { vigil with call, called := vigil.called ++ woken }

def run (acts : List (Act ω ρ)) : Vigil ω ρ :=
  acts.foldl step {}

theorem run_append_singleton (acts : List (Act ω ρ)) (act : Act ω ρ) :
    run (acts ++ [act]) = (run acts).step act := by
  simp [run]

theorem step_poll_of_running {vigil : Vigil ω ρ} {number : Nat} {held : Option UInt64}
    (found : vigil.followers number = .alive held) (running : vigil.call.verdict = none)
    (waker : ω) :
    vigil.step (.poll number waker) =
      vigil.advance number (.alive (some (vigil.call.line.park held waker).1))
        { vigil.call with line := (vigil.call.line.park held waker).2 } := by
  simp only [step, found, poll_of_running running]

theorem step_poll_of_ended {vigil : Vigil ω ρ} {number : Nat} {held : Option UInt64}
    {verdict : Verdict ρ} (found : vigil.followers number = .alive held)
    (ended : vigil.call.verdict = some verdict) (waker : ω) :
    vigil.step (.poll number waker) = vigil.advance number (.alive none) vigil.call := by
  simp only [step, found, poll_of_ended ended]

theorem step_drop_of_parked {vigil : Vigil ω ρ} {number : Nat} {ticket : UInt64}
    (found : vigil.followers number = .alive (some ticket)) :
    vigil.step (.drop number) = vigil.advance number .dropped (vigil.call.leave ticket) := by
  simp only [step, found]

/-! ## What an act does -/

/-- All that one act can do. -/
inductive Turn (vigil : Vigil ω ρ) : Act ω ρ → Vigil ω ρ → Prop where
  | stay {act number} :
      act.follower? = some number → vigil.followers number = .dropped → Turn vigil act vigil
  | join {number waker} :
      vigil.followers number = .alive none → vigil.call.verdict = none →
      Turn vigil (.poll number waker)
        (vigil.advance number (.alive (some (vigil.call.line.park none waker).1))
          { vigil.call with line := (vigil.call.line.park none waker).2 })
  | wait {number ticket waker} :
      vigil.followers number = .alive (some ticket) → vigil.call.verdict = none →
      Turn vigil (.poll number waker)
        (vigil.advance number (.alive (some ticket))
          { vigil.call with line := (vigil.call.line.park (some ticket) waker).2 })
  | learn {number held waker verdict} :
      vigil.followers number = .alive held → vigil.call.verdict = some verdict →
      Turn vigil (.poll number waker) (vigil.advance number (.alive none) vigil.call)
  | forgo {number} :
      vigil.followers number = .alive none →
      Turn vigil (.drop number) (vigil.advance number .dropped vigil.call)
  | depart {number ticket} :
      vigil.followers number = .alive (some ticket) →
      Turn vigil (.drop number) (vigil.advance number .dropped (vigil.call.leave ticket))
  | settle {verdict} :
      Turn vigil (.settle verdict)
        { vigil with
          call := (vigil.call.settle verdict).2
          called := vigil.called ++ vigil.call.line.waiters.map Waiter.waker }

variable {vigil next : Vigil ω ρ} {act : Act ω ρ} {acts : List (Act ω ρ)} {number : Nat}
  {ticket : UInt64}

theorem turn_step (vigil : Vigil ω ρ) (act : Act ω ρ) : vigil.Turn act (vigil.step act) := by
  cases act with
  | poll number waker =>
      cases found : vigil.followers number with
      | dropped =>
          simp only [step, found]
          exact .stay rfl found
      | alive held =>
          cases verdict : vigil.call.verdict with
          | some verdict' =>
              rw [step_poll_of_ended found verdict]
              exact .learn found verdict
          | none =>
              rw [step_poll_of_running found verdict]
              cases held with
              | none => exact .join found verdict
              | some ticket =>
                  rw [WaitLine.fst_park_some]
                  exact .wait found verdict
  | drop number =>
      cases found : vigil.followers number with
      | dropped =>
          simp only [step, found]
          exact .stay rfl found
      | alive held =>
          cases held with
          | none =>
              simp only [step, found]
              exact .forgo found
          | some ticket =>
              rw [step_drop_of_parked found]
              exact .depart found
  | settle verdict => exact .settle

theorem followers_advance (vigil : Vigil ω ρ) (number one : Nat) (follower : Follower)
    (call : Call ω ρ) :
    (vigil.advance number follower call).followers one =
      if one = number then follower else vigil.followers one := by
  simp only [advance, Function.update_apply]

/-- A follower is alive if it was before or has just gone on so. -/
theorem alive_advance_iff {one : Nat} {follower : Follower} {call : Call ω ρ}
    {held : Option UInt64} :
    (vigil.advance number follower call).followers one = .alive held ↔
      one = number ∧ follower = .alive held ∨ one ≠ number ∧ vigil.followers one = .alive held := by
  rw [followers_advance]
  split
  · next same => simp [same]
  · next different => simp [different]

/-- The number of tickets drawn never goes down. -/
private theorem Turn.drawn_le (turn : vigil.Turn act next) :
    vigil.call.line.drawn ≤ next.call.line.drawn := by
  cases turn with
  | stay | learn | forgo | depart | settle => exact Nat.le_refl _
  | join => simp only [advance, WaitLine.drawn_park_none, Nat.le_succ]
  | wait => simp only [advance, WaitLine.drawn_park_some, Nat.le_refl]

theorem drawn_run_append_le (acts later : List (Act ω ρ)) :
    (run acts).call.line.drawn ≤ (run (acts ++ later)).call.line.drawn := by
  induction later using List.reverseRecOn with
  | nil => simp
  | append_singleton later act ih =>
      rw [← List.append_assoc, run_append_singleton]
      exact Nat.le_trans ih (turn_step _ act).drawn_le

theorem drawn_run_take_mono (acts : List (Act ω ρ)) {moment later : Nat} (before : moment ≤ later) :
    (run (acts.take moment)).call.line.drawn ≤ (run (acts.take later)).call.line.drawn := by
  obtain ⟨further, rfl⟩ := Nat.exists_eq_add_of_le before
  rw [List.take_add]
  exact drawn_run_append_le _ _

/-! ## Those who were dropped -/

private theorem Turn.dropped_iff (turn : vigil.Turn act next) :
    next.followers number = .dropped ↔ vigil.followers number = .dropped ∨ act = .drop number := by
  cases turn with
  | @stay _ one own found =>
      refine ⟨Or.inl, ?_⟩
      rintro (before | rfl)
      · exact before
      · cases own
        exact found
  | join found | wait found | learn found =>
      rw [followers_advance]
      split
      · next same => simp [same, found]
      · simp
  | @forgo one found | @depart one _ found =>
      rw [followers_advance]
      split
      · next same => simp [same]
      · next different => simp [Ne.symm different]
  | settle => simp

theorem dropped_run_iff : (run acts).followers number = .dropped ↔ Act.drop number ∈ acts := by
  induction acts using List.reverseRecOn with
  | nil => simp [run]
  | append_singleton acts act ih =>
      rw [run_append_singleton, (turn_step _ act).dropped_iff, ih, List.mem_append,
        List.mem_singleton, eq_comm (a := act)]

/-! ## Before and after the call is settled -/

/-- The call was not settled. -/
def Open (acts : List (Act ω ρ)) : Prop :=
  ∀ verdict, Act.settle verdict ∉ acts

theorem Open.of_append {later : List (Act ω ρ)} (unsettled : Open (acts ++ later)) : Open acts :=
  fun verdict member => unsettled verdict (List.mem_append_left _ member)

theorem Open.ne_settle (unsettled : Open (acts ++ [act])) : ∀ verdict, act ≠ .settle verdict := by
  rintro verdict rfl
  exact unsettled verdict (List.mem_append_right _ (List.mem_singleton_self _))

private theorem Turn.runs_on (turn : vigil.Turn act next)
    (other : ∀ verdict, act ≠ .settle verdict) :
    next.call.verdict = vigil.call.verdict ∧ next.called = vigil.called := by
  cases turn with
  | stay | join | wait | learn | forgo | depart => exact ⟨rfl, rfl⟩
  | @settle verdict => exact absurd rfl (other verdict)

/-- Only settling ends a call, and calls anybody. -/
theorem running_of_open (unsettled : Open acts) :
    (run acts).call.verdict = none ∧ (run acts).called = [] := by
  induction acts using List.reverseRecOn with
  | nil => exact ⟨rfl, rfl⟩
  | append_singleton acts act ih =>
      obtain ⟨running, silent⟩ := ih unsettled.of_append
      obtain ⟨verdict_eq, called_eq⟩ := (turn_step (run acts) act).runs_on unsettled.ne_settle
      rw [run_append_singleton, verdict_eq, called_eq]
      exact ⟨running, silent⟩

theorem open_of_running (running : (run acts).call.verdict = none) : Open acts := by
  induction acts using List.reverseRecOn with
  | nil => exact fun _ => List.not_mem_nil
  | append_singleton acts act ih =>
      rw [run_append_singleton] at running
      intro verdict member
      cases act with
      | settle verdict' => cases running
      | poll _ _ | drop _ =>
          rw [((turn_step (run acts) _).runs_on (by simp)).1] at running
          exact ih running verdict (by simpa using member)

end Vigil

end Cohort.Call
