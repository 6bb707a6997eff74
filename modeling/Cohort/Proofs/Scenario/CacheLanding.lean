import Mathlib.Data.List.Nodup
import Cohort.Proofs.Scenario.CacheDials

/-!
# Callers of the cache scenario that return

Dials that are due at the same time end in any order, and each hands what it has come to to all
who have joined it.
-/

set_option autoImplicit false

namespace Cohort.CacheLoad

variable {address : Nat → String} {dial : Dial} {load next : CacheLoad} {plan : DialPlan}
  {latency : Nat}

/-- Where a caller stands while the dials end. -/
inductive Returning (plan : DialPlan) (address : Nat → String) (rota : Rota CacheLoad)
    (pending : List Dial) (caller : Nat) : Prop where
  | dialing {call attempt : Nat} : rota.state.phase caller = .dialing call attempt →
      caller ∈ rota.ready → Returning plan address rota pending caller
  | waiting {dial : Dial} {ticket : UInt64} : dial ∈ pending →
      rota.state.phase caller = .following dial.call ticket →
      address dial.caller = address caller → Returning plan address rota pending caller
  | sharing {call : Nat} {ticket : UInt64} {result : Except (ManagerError DialError) Nat} :
      rota.state.phase caller = .following call ticket → caller ∈ rota.ready →
      (rota.state.flight.call call).verdict = some (.done result) →
      Resolves plan address rota.state caller result → Returning plan address rota pending caller
  | done {result : Except (ManagerError DialError) Nat} :
      rota.state.phase caller = .done result → Resolves plan address rota.state caller result →
      Returning plan address rota pending caller

/-- The dial of the caller has ended, or the one that it has joined has. -/
def Due (load : CacheLoad) (caller : Nat) : Prop :=
  (∃ call attempt, load.phase caller = .dialing call attempt) ∨
    ∃ call ticket result, load.phase caller = .following call ticket ∧
      (load.flight.call call).verdict = some (.done result)

/-- What has been settled, and what a caller has to come back with, stays. -/
structure Persists (plan : DialPlan) (address : Nat → String) (load next : CacheLoad) : Prop where
  verdicts : ∀ call verdict, (load.flight.call call).verdict = some verdict →
    (next.flight.call call).verdict = some verdict
  results : ∀ caller result, Resolves plan address load caller result →
    Resolves plan address next caller result

private theorem Due.persist {caller : Nat} (due : Due load caller)
    (persists : Persists plan address load next)
    (stays : next.phase caller = load.phase caller) : Due next caller := by
  rw [Due, stays]
  refine due.imp_right ?_
  rintro ⟨call, ticket, result, following, settled⟩
  exact ⟨call, ticket, result, following, persists.verdicts call _ settled⟩

/-- A caller that is not polled itself stands where it stood, unless it waits. -/
private theorem Returning.persist {rota polled : Rota CacheLoad} {pending pending' : List Dial}
    {caller : Nat} (returning : Returning plan address rota pending caller)
    (persists : Persists plan address rota.state polled.state)
    (stays : polled.state.phase caller = rota.state.phase caller)
    (ready : caller ∈ rota.ready → caller ∈ polled.ready)
    (waits : ∀ dial ∈ pending, ∀ ticket, rota.state.phase caller = .following dial.call ticket →
      address dial.caller = address caller → Returning plan address polled pending' caller) :
    Returning plan address polled pending' caller := by
  cases returning with
  | dialing stands there => exact .dialing (stays.trans stands) (ready there)
  | @waiting dial ticket member stands same => exact waits dial member ticket stands same
  | sharing stands there settled resolves =>
      exact .sharing (stays.trans stands) (ready there) (persists.verdicts _ _ settled)
        (persists.results _ _ resolves)
  | done stands resolves => exact .done (stays.trans stands) (persists.results _ _ resolves)

/-- The dials end one after the other: some have `landed`, the others are `pending`. -/
structure Landing (plan : DialPlan) (address : Nat → String) (total attempts : Nat)
    (rota : Rota CacheLoad) (pending landed : List Dial) : Prop where
  connecting : Connecting address total rota.state pending
  asleep : rota.asleep = []
  nodup : rota.ready.Nodup
  ready : ∀ caller ∈ rota.ready, Due rota.state caller
  returning : ∀ caller < total, Returning plan address rota pending caller
  stocked : Stocked plan address (kept plan landed) rota.state
  apart : ((landed ++ pending).map (fun dial => address dial.caller)).Nodup
  attempts : rota.state.attempts = attempts

namespace Landing

variable {total attempts caller : Nat} {rota : Rota CacheLoad} {pending landed : List Dial}

private theorem land {call attempt : Nat}
    (landing : Landing plan address total attempts rota pending landed)
    (dialing : rota.state.phase caller = .dialing call attempt) :
    ∃ pending' landed', (landed' ++ pending').Perm (landed ++ pending) ∧
      Landing plan address total attempts (rota.poll (behavior latency plan address) caller)
        pending' landed' ∧
      (rota.poll (behavior latency plan address) caller).state.left total <
        rota.state.left total := by
  have inside := landing.connecting.lt_of_dialing dialing
  have in_size : caller < rota.state.callers.size := landing.connecting.size.symm ▸ inside
  let dial : Dial := ⟨caller, call, attempt⟩
  have member : dial ∈ pending := (landing.connecting.dialing caller call attempt).mp dialing
  have split := List.perm_cons_erase member
  have connecting := landing.connecting.perm split
  -- What has landed changes places with what has not.
  have moved : (landed ++ [dial] ++ pending.erase dial).Perm (landed ++ pending) := by
    rw [List.append_assoc]
    exact split.symm.append_left landed
  have apart := (moved.map (fun dial => address dial.caller)).nodup_iff.mpr landing.apart
  have landed_apart : ((landed ++ [dial]).map (fun dial => address dial.caller)).Nodup := by
    rw [List.map_append] at apart
    exact (List.nodup_append.mp apart).1
  have absent : address caller ∉ landed.map (fun dial => address dial.caller) := by
    intro there
    rw [List.map_append, List.nodup_append] at landed_apart
    exact landed_apart.2.2 _ there _ (List.mem_singleton_self _) rfl
  obtain ⟨result, next, completes, advanced, stocked, resolves, same_attempts⟩ :=
    landing.stocked.complete call attempt absent
  rw [← @behavior_of_dialing rota.state latency caller call attempt plan address dialing]
    at completes
  have poll := Rota.polled_poll landing.nodup completes
  -- The call of this dial was not settled before, so nothing that was settled changes.
  have ended : (next.flight.call call).verdict = some (.done result) := by
    rw [advanced.flight, Flight.verdict_settle,
      if_pos ⟨rfl, landing.connecting.lt_size member⟩]
  have persists : Persists plan address rota.state next := by
    constructor
    case verdicts =>
      intro one verdict settled
      rw [advanced.flight, Flight.verdict_settle, if_neg, settled]
      rintro ⟨rfl, _⟩
      rw [landing.connecting.unsettled member] at settled
      cases settled
    case results =>
      intro one result resolved
      rw [kept_append] at stocked
      refine resolved.append landing.stocked stocked ?_
      rw [← kept_append]
      exact ((kept_sublist plan _).map _).nodup landed_apart
  refine ⟨pending.erase dial, landed ++ [dial], moved, ?_, ?_⟩
  · constructor
    case connecting =>
      rw [poll.state]
      exact connecting.finish advanced
    case asleep => rw [poll.asleep, landing.asleep, List.append_nil]
    case nodup => exact poll.nodup
    case ready =>
      intro one there
      rw [poll.state]
      rcases (poll.mem_ready one).mp there with ⟨before, different⟩ | woken
      · exact (landing.ready one before).persist persists (advanced.phase_of_ne different)
      · obtain ⟨ticket, following⟩ := (landing.connecting.lines dial member one).mp woken
        have different : one ≠ caller := by
          rintro rfl
          rw [dialing] at following
          cases following
        rw [Due, advanced.phase_of_ne different]
        exact Or.inr ⟨call, ticket, result, following, ended⟩
    case returning =>
      intro one one_inside
      by_cases own : one = caller
      · subst own
        refine @Returning.done _ _ _ _ one result ?_ ?_
        · rw [poll.state]
          exact advanced.phase_self in_size
        · rw [poll.state]
          exact resolves
      · have stays := advanced.phase_of_ne own
        rw [← poll.state] at stays ended persists resolves
        refine (landing.returning one one_inside).persist persists stays
          (fun there => (poll.mem_ready one).mpr (Or.inl ⟨there, own⟩)) ?_
        -- Those who wait for this dial share it from now on, all others wait on.
        intro other member' ticket stands same
        by_cases first : other = dial
        · subst first
          have woken := (landing.connecting.lines dial member one).mpr ⟨ticket, stands⟩
          exact .sharing (stays.trans stands) ((poll.mem_ready one).mpr (Or.inr woken)) ended
            (resolves.congr same)
        · exact .waiting ((List.mem_erase_of_ne first).mpr member') (stays.trans stands) same
    case stocked =>
      rw [poll.state]
      exact stocked
    case apart => exact apart
    case attempts => rw [poll.state, same_attempts, landing.attempts]
  · rw [poll.state]
    exact advanced.left_lt landing.connecting.size inside (by simp [dialing])

/-- What a caller finds settled is what it has to come back with. -/
private theorem resolves {call : Nat} {ticket : UInt64}
    {result : Except (ManagerError DialError) Nat}
    (landing : Landing plan address total attempts rota pending landed)
    (following : rota.state.phase caller = .following call ticket)
    (settled : (rota.state.flight.call call).verdict = some (.done result)) :
    Resolves plan address rota.state caller result := by
  cases landing.returning caller (landing.connecting.lt_of_following following) with
  | dialing stands _ | done stands _ =>
      rw [following] at stands
      cases stands
  | waiting member stands same =>
      rw [following] at stands
      cases stands
      rw [landing.connecting.unsettled member] at settled
      cases settled
  | sharing stands _ settled' resolved =>
      rw [following] at stands
      cases stands
      rw [settled] at settled'
      cases settled'
      exact resolved

private theorem share {call : Nat} {ticket : UInt64} {result : Except (ManagerError DialError) Nat}
    (landing : Landing plan address total attempts rota pending landed)
    (ready : caller ∈ rota.ready)
    (following : rota.state.phase caller = .following call ticket)
    (settled : (rota.state.flight.call call).verdict = some (.done result)) :
    Landing plan address total attempts (rota.poll (behavior latency plan address) caller)
        pending landed ∧
      (rota.poll (behavior latency plan address) caller).state.left total <
        rota.state.left total := by
  have inside := landing.connecting.lt_of_following following
  have in_size : caller < rota.state.callers.size := landing.connecting.size.symm ▸ inside
  have behaves := @behavior_of_settled rota.state latency caller call plan address ticket result
    following settled
  have poll := Rota.polled_poll landing.nodup behaves
  have advanced : rota.state.Advanced
      (rota.state.onward caller (.done result) rota.state.flight rota.state.log)
      caller (.done result) rota.state.flight := ⟨rfl, rfl⟩
  have resolves := landing.resolves following settled
  have persists : Persists plan address rota.state
      (rota.poll (behavior latency plan address) caller).state := by
    rw [poll.state]
    exact ⟨fun _ _ => id, fun _ _ => id⟩
  refine ⟨?_, ?_⟩
  · constructor
    case connecting =>
      rw [poll.state]
      exact landing.connecting.share following settled advanced
    case asleep => rw [poll.asleep, landing.asleep, List.append_nil]
    case nodup => exact poll.nodup
    case ready =>
      intro one there
      obtain ⟨before, different⟩ : one ∈ rota.ready ∧ one ≠ caller := by
        simpa using (poll.mem_ready one).mp there
      have stays := advanced.phase_of_ne different
      rw [← poll.state] at stays
      exact (landing.ready one before).persist persists stays
    case returning =>
      intro one one_inside
      by_cases own : one = caller
      · subst own
        refine @Returning.done _ _ _ _ one result ?_ ?_
        · rw [poll.state]
          exact advanced.phase_self in_size
        · exact persists.results one result resolves
      · have stays := advanced.phase_of_ne own
        rw [← poll.state] at stays
        exact (landing.returning one one_inside).persist persists stays
          (fun there => (poll.mem_ready one).mpr (Or.inl ⟨there, own⟩))
          fun dial member ticket stands same => .waiting member (stays.trans stands) same
    case stocked =>
      rw [poll.state]
      exact landing.stocked.onward ..
    case apart => exact landing.apart
    case attempts =>
      rw [poll.state]
      exact landing.attempts
  · rw [poll.state]
    exact advanced.left_lt landing.connecting.size inside (by simp [following])

theorem poll (landing : Landing plan address total attempts rota pending landed)
    (ready : caller ∈ rota.ready) :
    ∃ pending' landed', (landed' ++ pending').Perm (landed ++ pending) ∧
      Landing plan address total attempts (rota.poll (behavior latency plan address) caller)
        pending' landed' ∧
      (rota.poll (behavior latency plan address) caller).state.left total <
        rota.state.left total := by
  rcases landing.ready caller ready with
    ⟨call, attempt, dialing⟩ | ⟨call, ticket, result, following, settled⟩
  · exact landing.land dialing
  · exact ⟨pending, landed, List.Perm.refl _, landing.share ready following settled⟩

/-- Once nobody is ready any more, all have returned. -/
theorem returned (landing : Landing plan address total attempts rota pending landed)
    (idle : rota.ready = []) : pending = [] ∧
      ∀ caller < total, ∃ result, rota.state.phase caller = .done result ∧
        Resolves plan address rota.state caller result := by
  have none_ready : ∀ caller, caller ∉ rota.ready := by simp [idle]
  have landed_all : pending = [] := by
    refine List.eq_nil_iff_forall_not_mem.mpr fun dial member => ?_
    have dialing := (landing.connecting.dialing _ _ _).mpr member
    have inside := landing.connecting.lt_of_dialing dialing
    cases landing.returning _ inside with
    | dialing _ ready | sharing _ ready _ _ => exact none_ready _ ready
    | waiting _ stands _ | done stands _ =>
        rw [dialing] at stands
        cases stands
  refine ⟨landed_all, fun caller inside => ?_⟩
  cases landing.returning caller inside with
  | dialing _ ready | sharing _ ready _ _ => exact absurd ready (none_ready caller)
  | waiting member _ _ =>
      rw [landed_all] at member
      cases member
  | done stands resolves => exact ⟨_, stands, resolves⟩

end Landing

end Cohort.CacheLoad
