import Mathlib.Data.List.Nodup
import Mathlib.Data.List.Perm.Subperm
import Cohort.Rota

/-!
# Runs of a rota

Whatever schedule a rota follows, it comes to rest once it has done all that its callers have
left to do. What holds then is what every poll and every tick preserves.
-/

set_option autoImplicit false

namespace Cohort.Rota

variable {σ : Type} {rota : Rota σ} {caller : Nat}

/-! ## Polls -/

theorem mem_ready_enqueue {one : Nat} :
    one ∈ (rota.enqueue caller).ready ↔ one ∈ rota.ready ∨ one = caller := by
  unfold enqueue
  split
  · next queued =>
      refine ⟨Or.inl, fun either => ?_⟩
      rcases either with there | rfl
      · exact there
      · exact queued
  · simp

theorem nodup_ready_enqueue (once : rota.ready.Nodup) : (rota.enqueue caller).ready.Nodup := by
  unfold enqueue
  split
  · exact once
  · next absent =>
      refine List.nodup_append.mpr ⟨once, List.nodup_singleton _, fun one there other found => ?_⟩
      rw [List.mem_singleton.mp found]
      rintro rfl
      exact absent there

/-- Callers that are woken are ready, and nothing else changes. -/
structure Woken (rota next : Rota σ) (callers : List Nat) : Prop where
  now : next.now = rota.now
  state : next.state = rota.state
  asleep : next.asleep = rota.asleep
  mem_ready : ∀ one, one ∈ next.ready ↔ one ∈ rota.ready ∨ one ∈ callers
  nodup : rota.ready.Nodup → next.ready.Nodup

theorem woken_enqueue (rota : Rota σ) (callers : List Nat) :
    rota.Woken (callers.foldl enqueue rota) callers := by
  induction callers generalizing rota with
  | nil => exact ⟨rfl, rfl, rfl, by simp, id⟩
  | cons caller rest ih =>
      have same : (rota.enqueue caller).now = rota.now ∧ (rota.enqueue caller).state = rota.state ∧
          (rota.enqueue caller).asleep = rota.asleep := by
        unfold enqueue
        split <;> exact ⟨rfl, rfl, rfl⟩
      obtain ⟨now, state, asleep, mem_ready, nodup⟩ := ih (rota.enqueue caller)
      refine ⟨now.trans same.1, state.trans same.2.1, asleep.trans same.2.2, fun one => ?_,
        fun once => nodup (nodup_ready_enqueue once)⟩
      rw [List.foldl_cons, mem_ready, mem_ready_enqueue, List.mem_cons, or_assoc]

/-- What a poll does to the rota itself. -/
structure Polled (rota next : Rota σ) (caller : Nat) (turn : Turn) (woken : List Nat) (state : σ) :
    Prop where
  now : next.now = rota.now
  state : next.state = state
  asleep : next.asleep = rota.asleep ++
    match turn with
    | .done | .parked => []
    | .asleep milliseconds => [(rota.now + min milliseconds longestSleep, caller)]
  mem_ready : ∀ one, one ∈ next.ready ↔ one ∈ rota.ready ∧ one ≠ caller ∨ one ∈ woken
  nodup : next.ready.Nodup

theorem polled_poll {behavior : Behavior σ} {turn : Turn} {woken : List Nat} {state : σ}
    (once : rota.ready.Nodup) (behaves : behavior caller rota.state = (turn, woken, state)) :
    rota.Polled (rota.poll behavior caller) caller turn woken state := by
  have enqueued := woken_enqueue { rota with state, ready := rota.ready.erase caller } woken
  have polled : rota.Polled
      (woken.foldl enqueue { rota with state, ready := rota.ready.erase caller }) caller .done
      woken state := by
    refine ⟨enqueued.now, enqueued.state, by rw [enqueued.asleep, List.append_nil], fun one => ?_,
      enqueued.nodup (once.erase caller)⟩
    rw [enqueued.mem_ready, once.mem_erase_iff, and_comm]
  rw [poll, behaves]
  cases turn with
  | done => exact polled
  | parked => exact ⟨polled.now, polled.state, polled.asleep, polled.mem_ready, polled.nodup⟩
  | asleep milliseconds =>
      refine ⟨polled.now, polled.state, ?_, polled.mem_ready, polled.nodup⟩
      simp only [enqueued.asleep, enqueued.now]

/-- Whoever is polled makes place for those that it wakes. -/
theorem Polled.length_ready_le {next : Rota σ} {turn : Turn} {woken : List Nat} {state : σ}
    (polled : rota.Polled next caller turn woken state) (once : rota.ready.Nodup)
    (member : caller ∈ rota.ready) : next.ready.length + 1 ≤ rota.ready.length + woken.length := by
  have fewer : next.ready ⊆ rota.ready.erase caller ++ woken := fun one there =>
    List.mem_append.mpr (((polled.mem_ready one).mp there).imp_left fun both =>
      once.mem_erase_iff.mpr both.symm)
  have lengths := (List.subperm_of_subset polled.nodup fewer).length_le
  rw [List.length_append, List.length_erase_of_mem member] at lengths
  have some := List.length_pos_of_mem member
  omega

/-- If those who have something left to do were ready, they still are, provided that whoever was
polled has nothing left and the others have what they had, but for the woken. -/
theorem Polled.mem_ready_iff {next : Rota σ} {turn : Turn} {woken : List Nat} {state : σ}
    {total : Nat} {stirs stirs' : Nat → Prop} (polled : rota.Polled next caller turn woken state)
    (ready : ∀ one, one ∈ rota.ready ↔ one < total ∧ stirs one)
    (still : caller ∉ woken ∧ ¬ stirs' caller) (inside : ∀ one ∈ woken, one < total)
    (others : ∀ one, one ≠ caller → (stirs' one ↔ stirs one ∨ one ∈ woken)) (one : Nat) :
    one ∈ next.ready ↔ one < total ∧ stirs' one := by
  rw [polled.mem_ready, ready]
  by_cases own : one = caller
  · subst own
    simp [still.1, still.2]
  · have bound := inside one
    rw [others one own]
    constructor
    · rintro (⟨⟨less, stirring⟩, _⟩ | there)
      · exact ⟨less, .inl stirring⟩
      · exact ⟨bound there, .inr there⟩
    · rintro ⟨less, stirring | there⟩
      · exact .inl ⟨⟨less, stirring⟩, own⟩
      · exact .inr there

theorem Polled.mem_ready_iff_of_nobody {next : Rota σ} {turn : Turn} {state : σ} {total : Nat}
    {stirs stirs' : Nat → Prop} (polled : rota.Polled next caller turn [] state)
    (ready : ∀ one, one ∈ rota.ready ↔ one < total ∧ stirs one) (still : ¬ stirs' caller)
    (others : ∀ one, one ≠ caller → (stirs' one ↔ stirs one)) (one : Nat) :
    one ∈ next.ready ↔ one < total ∧ stirs' one := by
  refine polled.mem_ready_iff ready ⟨List.not_mem_nil, still⟩ (by simp) ?_ one
  intro one different
  rw [others one different, or_iff_left List.not_mem_nil]

/-! ## Ticks -/

/-- Callers that are to wake up at the same time do. -/
theorem tick_of_due {due : Nat} {sleepers : List Nat}
    (asleep : rota.asleep = sleepers.map (fun sleeper => (due, sleeper)))
    (some : sleepers ≠ []) :
    rota.tick = { rota with now := due, ready := rota.ready ++ sleepers, asleep := [] } := by
  have first : (rota.asleep.map Prod.fst).min? = Option.some due := by
    rw [asleep, List.map_map]
    refine List.min?_eq_some_iff.mpr ⟨?_, ?_⟩
    · obtain ⟨sleeper, member⟩ := List.exists_mem_of_ne_nil sleepers some
      exact List.mem_map.mpr ⟨sleeper, member, rfl⟩
    · intro time member
      obtain ⟨_, _, rfl⟩ := List.mem_map.mp member
      exact Nat.le_refl _
  have apart : rota.asleep.partition (fun sleeper => decide (sleeper.1 ≤ due)) =
      (rota.asleep, []) := by
    rw [List.partition_eq_filter_filter, asleep]
    simp [List.filter_map, Function.comp_def]
  rw [tick, first]
  simp only [apart]
  rw [asleep, List.map_map]
  simp [Function.comp_def]

theorem not_of_idle {total : Nat} {stirs : Nat → Prop}
    (ready : ∀ caller, caller ∈ rota.ready ↔ caller < total ∧ stirs caller)
    (idle : rota.ready = []) (inside : caller < total) : ¬ stirs caller := by
  intro stirring
  have there := (ready caller).mpr ⟨inside, stirring⟩
  rw [idle] at there
  cases there

/-! ## Naps -/

/-- The callers that sleep, the one that fell asleep first in front. -/
def sleepers (rota : Rota σ) : List Nat :=
  rota.asleep.map Prod.snd

/-- Nobody is about twice, and whoever sleeps wakes up `nap` milliseconds from now. -/
structure Napping (rota : Rota σ) (nap : Nat) : Prop where
  ready : rota.ready.Nodup
  once : rota.sleepers.Nodup
  due : ∀ sleeper ∈ rota.asleep, sleeper.1 = rota.now + nap

theorem napping_new (now nap : Nat) (state : σ) {callers : List Nat} (once : callers.Nodup) :
    Napping { now, state, ready := callers } nap where
  ready := once
  once := List.nodup_nil
  due := fun _ member => absurd member List.not_mem_nil

section Naps

variable {next : Rota σ} {turn : Turn} {woken : List Nat} {state : σ} {nap : Nat}

theorem Polled.sleepers_of_awake (polled : rota.Polled next caller turn woken state)
    (awake : ∀ milliseconds, turn ≠ .asleep milliseconds) : next.sleepers = rota.sleepers := by
  cases turn with
  | asleep milliseconds => exact absurd rfl (awake milliseconds)
  | done | parked => rw [sleepers, polled.asleep, List.append_nil, sleepers]

theorem Polled.sleepers_of_asleep {milliseconds : Nat}
    (polled : rota.Polled next caller (.asleep milliseconds) woken state) :
    next.sleepers = rota.sleepers ++ [caller] := by
  rw [sleepers, polled.asleep, List.map_append, sleepers]
  rfl

theorem Polled.napping_of_awake (polled : rota.Polled next caller turn woken state)
    (napping : rota.Napping nap) (awake : ∀ milliseconds, turn ≠ .asleep milliseconds) :
    next.Napping nap := by
  have same : next.asleep = rota.asleep := by
    cases turn with
    | asleep milliseconds => exact absurd rfl (awake milliseconds)
    | done | parked => rw [polled.asleep, List.append_nil]
  refine ⟨polled.nodup, ?_, ?_⟩
  · rw [polled.sleepers_of_awake awake]
    exact napping.once
  · rw [same, polled.now]
    exact napping.due

theorem Polled.napping_of_asleep {milliseconds : Nat}
    (polled : rota.Polled next caller (.asleep milliseconds) woken state)
    (napping : rota.Napping (min milliseconds longestSleep)) (awake : caller ∉ rota.sleepers) :
    next.Napping (min milliseconds longestSleep) := by
  refine ⟨polled.nodup, ?_, ?_⟩
  · rw [polled.sleepers_of_asleep]
    refine List.nodup_append.mpr ⟨napping.once, List.nodup_singleton _, ?_⟩
    rintro one there other last rfl
    exact awake (List.mem_singleton.mp last ▸ there)
  · rw [polled.asleep, polled.now]
    intro sleeper member
    rcases List.mem_append.mp member with before | last
    · exact napping.due sleeper before
    · rw [List.mem_singleton.mp last]

/-- All who sleep wake up together, and then nobody sleeps any more. -/
theorem Napping.tick (napping : rota.Napping nap) (idle : rota.ready = [])
    (some : rota.asleep ≠ []) :
    rota.tick.Napping nap ∧ rota.tick.state = rota.state ∧ rota.tick.ready = rota.sleepers ∧
      rota.tick.sleepers = [] := by
  have together : rota.asleep =
      rota.sleepers.map (fun sleeper => (rota.now + nap, sleeper)) := by
    rw [sleepers, List.map_map]
    refine (List.map_id _).symm.trans (List.map_congr_left fun sleeper member => ?_)
    exact Prod.ext (napping.due sleeper member) rfl
  have present : rota.sleepers ≠ [] := fun none => some (List.map_eq_nil_iff.mp none)
  rw [tick_of_due together present, idle, List.nil_append]
  exact ⟨⟨napping.once, List.nodup_nil, fun _ member => absurd member List.not_mem_nil⟩, rfl, rfl,
    rfl⟩

end Naps

/-! ## Runs -/

variable {behavior : Behavior σ} {invariant : Nat → Rota σ → Prop}

/-- Callers have at most `left` polls and ticks left to make, of which each takes one away. -/
structure Advances (behavior : Behavior σ) (invariant : Nat → Rota σ → Prop) : Prop where
  polled : ∀ left rota caller, invariant left rota → caller ∈ rota.ready →
    ∃ fewer < left, invariant fewer (rota.poll behavior caller)
  ticked : ∀ left rota, invariant left rota → rota.ready = [] → rota.asleep ≠ [] →
    ∃ fewer < left, invariant fewer rota.tick

/-- Of the callers that are ready the schedule picks one. -/
theorem chosen_mem_ready {first : Nat} {rest : List Nat} (ready : rota.ready = first :: rest)
    (pick : Nat) : ((first :: rest)[pick % (rest.length + 1)]?).getD first ∈ rota.ready := by
  have inside : pick % (rest.length + 1) < (first :: rest).length :=
    Nat.mod_lt _ (Nat.succ_pos _)
  rw [ready, List.getElem?_eq_getElem inside, Option.getD_some]
  exact List.getElem_mem inside

/-- What every poll and tick preserves holds after any number of them, on any schedule. -/
theorem run_holds (advances : Advances behavior invariant) {left : Nat}
    (holds : invariant left rota) (schedule : Schedule) (budget step : Nat) :
    ∃ fewer, invariant fewer (run behavior schedule budget step rota) := by
  induction budget generalizing rota left step with
  | zero => exact ⟨left, holds⟩
  | succ budget ih =>
      rw [run]
      cases ready : rota.ready with
      | nil =>
          by_cases sleeping : rota.asleep = []
          · rw [if_pos (List.isEmpty_iff.mpr sleeping)]
            exact ⟨left, holds⟩
          · obtain ⟨_, _, then_⟩ := advances.ticked left rota holds ready sleeping
            rw [if_neg fun idle => sleeping (List.isEmpty_iff.mp idle)]
            exact ih then_ step
      | cons first rest =>
          obtain ⟨_, _, then_⟩ :=
            advances.polled left rota _ holds (chosen_mem_ready ready (schedule step))
          exact ih then_ (step + 1)

/-- A run whose budget suffices comes to rest, on any schedule. -/
theorem run_rests (advances : Advances behavior invariant) {budget left : Nat}
    (enough : left ≤ budget) (holds : invariant left rota) (schedule : Schedule) (step : Nat) :
    ∃ fewer, invariant fewer (run behavior schedule budget step rota) ∧
      (run behavior schedule budget step rota).ready = [] ∧
      (run behavior schedule budget step rota).asleep = [] := by
  -- On the budget: what is left falls with every poll and tick, so it never exceeds the budget.
  induction budget generalizing rota left step with
  | zero =>
      rw [run]
      refine ⟨left, holds, ?_, ?_⟩
      · refine List.eq_nil_iff_forall_not_mem.mpr fun caller ready => ?_
        obtain ⟨fewer, less, _⟩ := advances.polled left rota caller holds ready
        omega
      · by_contra sleeping
        by_cases ready : rota.ready = []
        · obtain ⟨fewer, less, _⟩ := advances.ticked left rota holds ready sleeping
          omega
        · obtain ⟨caller, member⟩ := List.exists_mem_of_ne_nil _ ready
          obtain ⟨fewer, less, _⟩ := advances.polled left rota caller holds member
          omega
  | succ budget ih =>
      rw [run]
      cases ready : rota.ready with
      | nil =>
          by_cases sleeping : rota.asleep = []
          · have idle : rota.asleep.isEmpty = true := List.isEmpty_iff.mpr sleeping
            rw [if_pos idle]
            exact ⟨left, holds, ready, sleeping⟩
          · obtain ⟨fewer, less, then_⟩ := advances.ticked left rota holds ready sleeping
            rw [if_neg fun idle => sleeping (List.isEmpty_iff.mp idle)]
            exact ih (by omega) then_ step
      | cons first rest =>
          obtain ⟨fewer, less, then_⟩ :=
            advances.polled left rota _ holds (chosen_mem_ready ready (schedule step))
          exact ih (by omega) then_ (step + 1)

end Cohort.Rota
