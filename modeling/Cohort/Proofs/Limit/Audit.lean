import Cohort.Proofs.Limit.WakeUps
import Cohort.Scenario.LimitLoad

/-!
# Audits of a limit

An audit takes all tokens of a limit and puts them back. Without anybody in the line it leaves
the limit as it was. Of a limit that has lent a token it finds out at once, by a token that it puts
back and does not take again.
-/

set_option autoImplicit false

namespace Cohort.Limit

variable {ω : Type} {limit : Limit ω} {count : Nat}

private theorem takeTimes_of_le (enough : count ≤ limit.available) :
    limit.takeTimes count = (true, { limit with available := limit.available - count }) := by
  induction count generalizing limit with
  | zero => rfl
  | succ count ih =>
      have rest : count ≤ limit.available - 1 := by omega
      rw [takeTimes, take?_of_pos (by omega)]
      simp only
      rw [ih rest, Nat.sub_sub, Nat.add_comm 1]

private theorem wakeNext_of_waiters_eq_nil (nobody : limit.line.waiters = []) :
    limit.wakeNext = (none, limit) := by
  rw [wakeNext, WaitLine.shift, nobody]

private theorem putBackTimes_of_le (nobody : limit.line.waiters = [])
    (lent : limit.available + count ≤ limit.capacity) :
    limit.putBackTimes count = (.ok (), { limit with available := limit.available + count }) := by
  induction count generalizing limit with
  | zero => rfl
  | succ count ih =>
      let stocked : Limit ω := { limit with available := limit.available + 1 }
      have room : stocked.available + count ≤ stocked.capacity := by
        change limit.available + 1 + count ≤ limit.capacity
        omega
      have rest : stocked.putBackTimes count =
          (.ok (), { stocked with available := stocked.available + count }) := ih nobody room
      have woken : stocked.wakeNext = (none, stocked) := wakeNext_of_waiters_eq_nil nobody
      rw [putBackTimes, putBack_of_lt (by omega), woken]
      simp only
      rw [rest]
      change (_, { limit with available := limit.available + 1 + count }) = _
      rw [Nat.add_assoc, Nat.add_comm 1]

/-- A limit that has all its tokens passes, and is left as it was. -/
theorem audit_of_full (full : limit.available = limit.capacity)
    (nobody : limit.line.waiters = []) : limit.audit = (.ok (), limit) := by
  let spent : Limit ω := { limit with available := limit.available - limit.capacity }
  have none_left : spent.available = 0 := by
    change limit.available - limit.capacity = 0
    omega
  have refused : limit.putBack = .error .poolFull := putBack_of_le (Nat.le_of_eq full.symm)
  have taken : limit.takeTimes limit.capacity = (true, spent) :=
    takeTimes_of_le (Nat.le_of_eq full.symm)
  have exhausted : spent.take? = none := take?_of_eq_zero none_left
  have returned : spent.putBackTimes limit.capacity = (.ok (), limit) := by
    have filled : spent.available + limit.capacity = spent.capacity := by
      rw [none_left, Nat.zero_add]
    have room : spent.available + limit.capacity ≤ spent.capacity := Nat.le_of_eq filled
    have restored : spent.putBackTimes limit.capacity =
        (.ok (), { spent with available := spent.available + limit.capacity }) :=
      putBackTimes_of_le nobody room
    have whole : spent.available + limit.capacity = limit.available := by omega
    rw [restored, whole]
  rw [audit, refused]
  simp only
  rw [taken]
  simp only
  rw [exhausted]
  simp only
  rw [returned]

/-- A limit that has lent a token takes one back, which nobody has borrowed from it. -/
theorem audit_of_lent (lent : limit.available < limit.capacity)
    (nobody : limit.line.waiters = []) :
    limit.audit = (violated .limit "over-release on an idle limit was accepted",
      { limit with available := limit.available + 1 }) := by
  let stocked : Limit ω := { limit with available := limit.available + 1 }
  have woken : stocked.wakeNext = (none, stocked) := wakeNext_of_waiters_eq_nil nobody
  have accepted : limit.putBack = .ok (none, stocked) := by rw [putBack_of_lt lent, woken]
  rw [audit, accepted]

/-- An audit tells whether all tokens are there. If they are it changes nothing at all, and if not
it leaves behind one token more and reports just that. -/
theorem audit_decides (bounded : limit.available ≤ limit.capacity)
    (nobody : limit.line.waiters = []) :
    (limit.audit.1 = .ok () ↔ limit.available = limit.capacity) ∧
      (limit.audit.1 = .ok () →
        limit.audit.2 = limit ∧ limit.audit.2.available = limit.capacity) ∧
      ∀ halt, limit.audit.1 = .error halt →
        limit.audit.2 = { limit with available := limit.available + 1 } ∧
          halt = .error (.violated "limit" "over-release on an idle limit was accepted") := by
  rcases Nat.eq_or_lt_of_le bounded with full | lent
  · rw [audit_of_full full nobody]
    exact ⟨iff_of_true rfl full, fun _ => ⟨rfl, full⟩, fun _ halted => by cases halted⟩
  · rw [audit_of_lent lent nobody]
    refine ⟨iff_of_false (by simp [violated]) (Nat.ne_of_lt lent), fun passed => ?_, ?_⟩
    · cases passed
    · rintro _ ⟨⟩
      exact ⟨rfl, rfl⟩

/-- Of three tokens one is lent, and then it is back. -/
theorem audit_decides_of_three :
    ({ capacity := 3, available := 2 } : Limit Nat).line.waiters = [] ∧
      ({ capacity := 3, available := 2 } : Limit Nat).audit.1 ≠ .ok () ∧
      ({ capacity := 3, available := 2 } : Limit Nat).audit.2.available = 3 ∧
      ({ capacity := 3, available := 3 } : Limit Nat).audit.1 = .ok () ∧
      ({ capacity := 3, available := 3 } : Limit Nat).audit.2.available = 3 := by
  obtain ⟨lacks, _, failed⟩ :=
    @audit_decides Nat { capacity := 3, available := 2 } (by decide) rfl
  obtain ⟨whole, passed, _⟩ :=
    @audit_decides Nat { capacity := 3, available := 3 } (by decide) rfl
  have refused : ({ capacity := 3, available := 2 } : Limit Nat).audit.1 ≠ .ok () :=
    fun accepted => absurd (lacks.mp accepted) (by decide)
  have stocked : ({ capacity := 3, available := 2 } : Limit Nat).audit.2.available = 3 := by
    cases outcome : ({ capacity := 3, available := 2 } : Limit Nat).audit.1 with
    | ok => exact absurd outcome refused
    | error halt => rw [(failed halt outcome).1]
  exact ⟨rfl, refused, stocked, whole.mpr rfl, (passed (whole.mpr rfl)).2⟩

end Cohort.Limit
