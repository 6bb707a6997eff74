import Cohort.Proofs.Flight.Turns
import Cohort.Proofs.Flight.Vigil

/-!
# The calls of a flight

Whatever happens at a flight, each of its calls goes through a vigil: a caller that follows
the call is a follower of it, and the leader settles it once.
-/

set_option autoImplicit false

namespace Cohort.Flight

variable {κ ω ρ : Type}

open Call (Act Vigil)

/-- The ticket that a caller holds for call `call`. -/
def Phase.ticketFor? (call : Nat) : Phase ρ → Option UInt64
  | .follows followed ticket => if followed = call then some ticket else none
  | .idle | .leads _ | .returned _ _ | .gone => none

private theorem Phase.ticketFor?_of_ne {call followed : Nat} (different : followed ≠ call)
    (ticket : UInt64) : (.follows followed ticket : Phase ρ).ticketFor? call = none :=
  if_neg different

/-- Whoever looks for a call holds a ticket only for a call that has ended. -/
private theorem Phase.ended_of_seeks {flight : Flight κ ω ρ} {phase : Phase ρ} {call : Nat}
    (seeks : phase.Seeks flight) (holds : phase.ticketFor? call ≠ none) :
    (flight.call call).verdict = some .abandoned := by
  cases phase with
  | follows followed ticket =>
      by_cases same : followed = call
      · exact same ▸ seeks
      · exact absurd (Phase.ticketFor?_of_ne same ticket) holds
  | idle | leads _ | returned _ _ | gone => exact absurd rfl holds

private theorem Phase.ne_gone_of_seeks {flight : Flight κ ω ρ} {phase : Phase ρ}
    (seeks : phase.Seeks flight) : phase ≠ .gone := by
  rintro rfl
  exact seeks

private theorem call_parkAt_self {flight : Flight κ ω ρ} {number : Nat}
    (inside : number < flight.calls.size) (held : Option UInt64) (waker : ω) :
    (flight.parkAt number held waker).call number =
      { flight.call number with line := ((flight.call number).line.park held waker).2 } := by
  rw [parkAt, call_setCall, if_pos ⟨rfl, inside⟩]

private theorem call_leave_self {flight : Flight κ ω ρ} {number : Nat}
    (inside : number < flight.calls.size) (ticket : UInt64) :
    (flight.leave number ticket).call number = (flight.call number).leave ticket := by
  rw [leave, call_setCall, if_pos ⟨rfl, inside⟩]

private theorem call_settle_self [DecidableEq κ] {flight : Flight κ ω ρ} {number : Nat}
    (inside : number < flight.calls.size) (key : κ) (verdict : Verdict ρ) :
    (flight.settle key number verdict).2.call number =
      ((flight.call number).settle verdict).2 := by
  let freed := { flight with registry := flight.registry.erase key }
  exact (call_setCall freed ..).trans (if_pos ⟨rfl, inside⟩)

namespace Traffic

/-- What the callers at a flight do to call `call`. -/
structure Watches (traffic : Traffic κ ω ρ) (call : Nat) (vigil : Vigil ω ρ) : Prop where
  call_eq : vigil.call = traffic.flight.call call
  callers : ∀ number key (phase : Phase ρ), traffic.callers[number]? = some ⟨key, phase⟩ →
    phase ≠ .gone → vigil.followers number = .alive (phase.ticketFor? call)
  newcomers : ∀ number, traffic.callers.length ≤ number → vigil.followers number = .alive none
  inside : ∀ (number : Nat) key ticket,
    traffic.callers[number]? = some ⟨key, .follows call ticket⟩ → call < traffic.flight.calls.size

variable {traffic next : Traffic κ ω ρ} {call number : Nat} {vigil later : Vigil ω ρ}
  {key : κ} {phase phase' : Phase ρ} {flight : Flight κ ω ρ}

private theorem watches_new (call : Nat) : Watches ({} : Traffic κ ω ρ) call {} where
  call_eq := by simp [Flight.call]
  callers := fun _ _ _ found => by cases found
  newcomers := fun _ _ => rfl
  inside := fun _ _ _ found => by cases found

private theorem Watches.arrive (watches : traffic.Watches call vigil) (key : κ) :
    Watches { traffic with callers := traffic.callers ++ [{ key }] } call vigil where
  call_eq := watches.call_eq
  callers := by
    intro number key' phase found alive
    rcases getElem?_callers_call found with before | ⟨rfl, same⟩
    · exact watches.callers number key' phase before alive
    · cases same
      exact watches.newcomers _ (Nat.le_refl _)
  newcomers := by
    intro number beyond
    rw [List.length_append] at beyond
    exact watches.newcomers number (Nat.le_of_add_right_le beyond)
  inside := by
    intro number key' ticket found
    rcases getElem?_callers_call found with before | ⟨_, same⟩
    · exact watches.inside number key' ticket before
    · cases same

/-- One caller goes on, and no other follower of the call is concerned. -/
private theorem Watches.advance (watches : traffic.Watches call vigil) {caller : Caller κ ρ}
    (found : traffic.callers[number]? = some caller) (call_eq : later.call = flight.call call)
    (grown : traffic.flight.calls.size ≤ flight.calls.size)
    (others : ∀ one, one ≠ number → later.followers one = vigil.followers one)
    (own : phase' ≠ .gone → later.followers number = .alive (phase'.ticketFor? call))
    (inside : ∀ ticket, phase' = .follows call ticket → call < flight.calls.size)
    (events : List (Event κ ρ)) :
    (traffic.advance number key phase' flight events).Watches call later where
  call_eq := call_eq
  callers := by
    intro one key phase found' alive
    rcases getElem?_callers_advance found' with ⟨rfl, same⟩ | ⟨different, before⟩
    · cases same
      exact own alive
    · rw [others one different]
      exact watches.callers one key phase before alive
  newcomers := by
    intro one beyond
    simp only [Traffic.advance, List.length_set] at beyond
    have here := (List.getElem?_eq_some_iff.mp found).1
    rw [others one (by omega)]
    exact watches.newcomers one beyond
  inside := by
    intro one key ticket found'
    rcases getElem?_callers_advance found' with ⟨_, same⟩ | ⟨_, before⟩
    · cases same
      exact inside ticket rfl
    · exact Nat.lt_of_lt_of_le (watches.inside one key ticket before) grown

/-- A caller that holds no ticket for the call goes on without the call being touched. -/
private theorem Watches.aside (watches : traffic.Watches call vigil)
    (found : traffic.callers[number]? = some ⟨key, phase⟩) (alive : phase ≠ .gone)
    (before : phase.ticketFor? call = none) (after : phase'.ticketFor? call = none)
    (same : flight.call call = traffic.flight.call call)
    (grown : traffic.flight.calls.size ≤ flight.calls.size) (events : List (Event κ ρ)) :
    (traffic.advance number key phase' flight events).Watches call vigil := by
  refine watches.advance found (watches.call_eq.trans same.symm) grown (fun _ _ => rfl) ?_ ?_ _
  · intro _
    rw [watches.callers number key phase found alive, before, after]
  · rintro ticket rfl
    rw [Phase.ticketFor?, if_pos rfl] at after
    cases after

/-- The callers go on to watch call `call`, after at most one more act, which settles the call only
if it runs. -/
def Proceeds (next : Traffic κ ω ρ) (call : Nat) (vigil : Vigil ω ρ) : Prop :=
  next.Watches call vigil ∨ ∃ act, next.Watches call (vigil.step act) ∧
    (act.isSettle = true → vigil.call.verdict = none)

/-- A caller that holds no ticket for the call, unless the call has ended, goes on without one. -/
private theorem Watches.learn (watches : traffic.Watches call vigil)
    (found : traffic.callers[number]? = some ⟨key, phase⟩) (alive : phase ≠ .gone)
    (ended : phase.ticketFor? call ≠ none →
      ∃ verdict, (traffic.flight.call call).verdict = some verdict)
    (after : phase'.ticketFor? call = none)
    (same : flight.call call = traffic.flight.call call)
    (grown : traffic.flight.calls.size ≤ flight.calls.size) (waker : ω)
    (events : List (Event κ ρ)) :
    (traffic.advance number key phase' flight events).Proceeds call vigil := by
  by_cases before : phase.ticketFor? call = none
  · exact Or.inl (watches.aside found alive before after same grown events)
  · obtain ⟨verdict, ended⟩ := ended before
    have follower := watches.callers number key phase found alive
    rw [← watches.call_eq] at ended
    refine Or.inr ⟨.poll number waker, ?_, by simp [Act.isSettle]⟩
    rw [Vigil.step_poll_of_ended follower ended]
    refine watches.advance found ?_ grown ?_ ?_ ?_ _
    · exact watches.call_eq.trans same.symm
    · exact fun one different => (Vigil.followers_advance ..).trans (if_neg different)
    · intro _
      rw [Vigil.followers_advance, if_pos rfl, after]
    · rintro ticket rfl
      rw [Phase.ticketFor?, if_pos rfl] at after
      cases after

/-- A caller parks on the call, for the first time or again. -/
private theorem Watches.park (watches : traffic.Watches call vigil)
    (found : traffic.callers[number]? = some ⟨key, phase⟩) (alive : phase ≠ .gone)
    (running : (traffic.flight.call call).verdict = none)
    (inside : call < traffic.flight.calls.size) (waker : ω) (events : List (Event κ ρ)) :
    (traffic.advance number key
      (.follows call ((traffic.flight.call call).line.park (phase.ticketFor? call) waker).1)
      (traffic.flight.parkAt call (phase.ticketFor? call) waker) events).Proceeds call vigil := by
  have follower := watches.callers number key phase found alive
  have alike := traffic.flight.alike_parkAt call (phase.ticketFor? call) waker
  refine Or.inr ⟨.poll number waker, ?_, by simp [Act.isSettle]⟩
  rw [← watches.call_eq] at running ⊢
  rw [Vigil.step_poll_of_running follower running]
  refine watches.advance found ?_ (Nat.le_of_eq alike.size.symm) ?_ ?_ ?_ _
  · rw [call_parkAt_self inside, ← watches.call_eq]
    rfl
  · exact fun one different => (Vigil.followers_advance ..).trans (if_neg different)
  · intro _
    rw [Vigil.followers_advance, if_pos rfl, Phase.ticketFor?, if_pos rfl]
  · exact fun _ _ => alike.size.symm ▸ inside

variable [DecidableEq κ]

private theorem Watches.settle (watches : traffic.Watches call vigil) (manned : traffic.Manned)
    (found : traffic.callers[number]? = some ⟨key, .leads call⟩) (verdict : Verdict ρ)
    (after : phase'.ticketFor? call = none) (events : List (Event κ ρ)) :
    (traffic.advance number key phase' (traffic.flight.settle key call verdict).2 events).Proceeds
      call vigil := by
  have inside := manned.lt_size (mem_leaders found)
  refine Or.inr ⟨.settle verdict, ?_, fun _ => ?_⟩
  · refine watches.advance found ?_ (Nat.le_of_eq (size_settle ..).symm) ?_ ?_ ?_ _
    · rw [call_settle_self inside, ← watches.call_eq]
      rfl
    · exact fun _ _ => rfl
    · intro _
      rw [after]
      exact watches.callers number key _ found (by simp)
    · rintro ticket rfl
      rw [Phase.ticketFor?, if_pos rfl] at after
      cases after
  · rw [watches.call_eq]
    exact manned.verdict_eq_none (mem_leaders found)

private theorem Watches.turn {move : Move κ ω ρ} {woken : List ω}
    (watches : traffic.Watches call vigil)
    (manned : traffic.Manned) (turn : traffic.Turn move woken next) :
    next.Proceeds call vigil := by
  cases turn with
  | stay => exact Or.inl watches
  | call => exact Or.inl (watches.arrive _)
  | @lead number key phase waker found seeks free =>
      have grown : traffic.flight.calls.size ≤ (traffic.flight.lead key).calls.size := by
        rw [size_lead]
        exact Nat.le_succ _
      exact watches.learn found (Phase.ne_gone_of_seeks seeks)
        (fun holds => ⟨_, Phase.ended_of_seeks seeks holds⟩) rfl (call_lead ..) grown waker _
  | @join number key phase waker joined found seeks registered =>
      have alive := Phase.ne_gone_of_seeks seeks
      have running := manned.unsettled _ _ registered
      by_cases same : joined = call
      · subst same
        have before : phase.ticketFor? joined = none := by
          by_contra holds
          rw [Phase.ended_of_seeks seeks holds] at running
          cases running
        have inside := manned.lt_size (manned.find?_iff.mp registered)
        exact before ▸ watches.park found alive running inside waker _
      · exact watches.learn found alive (fun holds => ⟨_, Phase.ended_of_seeks seeks holds⟩)
          (Phase.ticketFor?_of_ne same _)
          (call_parkAt_of_ne (Ne.symm same) ..) (Nat.le_of_eq (alike_parkAt ..).size.symm) waker _
  | @wait number key followed ticket waker found running =>
      by_cases same : followed = call
      · subst same
        have inside := watches.inside number key ticket found
        have parked := watches.park found (by simp) running inside waker []
        rw [Phase.ticketFor?, if_pos rfl, WaitLine.fst_park_some] at parked
        exact parked
      · have apart := Phase.ticketFor?_of_ne (ρ := ρ) same ticket
        exact Or.inl (watches.aside found (by simp) apart apart
          (call_parkAt_of_ne (Ne.symm same) ..) (Nat.le_of_eq (alike_parkAt ..).size.symm) _)
  | @share number key followed ticket waker result found done =>
      refine watches.learn found (by simp) (fun holds => ?_) rfl rfl (Nat.le_refl _) waker _
      by_cases same : followed = call
      · exact ⟨_, same ▸ done⟩
      · exact absurd (Phase.ticketFor?_of_ne same ticket) holds
  | @finish number key led result found =>
      by_cases same : led = call
      · subst same
        exact watches.settle manned found _ rfl _
      · exact Or.inl (watches.aside found (by simp) rfl rfl (call_settle_of_ne (Ne.symm same) _)
          (Nat.le_of_eq (size_settle ..).symm) _)
  | @abandon number key led found =>
      by_cases same : led = call
      · subst same
        exact watches.settle manned found _ rfl _
      · exact Or.inl (watches.aside found (by simp) rfl rfl (call_settle_of_ne (Ne.symm same) _)
          (Nat.le_of_eq (size_settle ..).symm) _)
  | forgo found =>
      exact Or.inl (watches.aside found (by simp) rfl rfl rfl (Nat.le_refl _) _)
  | @depart number key followed ticket found =>
      by_cases same : followed = call
      · subst same
        have inside := watches.inside number key ticket found
        have follower := watches.callers number key _ found (by simp)
        rw [Phase.ticketFor?, if_pos rfl] at follower
        refine Or.inr ⟨.drop number, ?_, by simp [Act.isSettle]⟩
        rw [Vigil.step_drop_of_parked follower]
        refine watches.advance found ?_ (Nat.le_of_eq (alike_leave ..).size.symm) ?_ (absurd rfl) (by simp) _
        · rw [call_leave_self inside, ← watches.call_eq]
          rfl
        · exact fun one different => (Vigil.followers_advance ..).trans (if_neg different)
      · exact Or.inl (watches.aside found (by simp) (Phase.ticketFor?_of_ne same ticket) rfl
          (call_leave_of_ne (Ne.symm same) _) (Nat.le_of_eq (alike_leave ..).size.symm) _)

/-- In any run each call goes through a vigil, and is settled at most once in it. -/
theorem exists_watches_run (moves : List (Move κ ω ρ)) (call : Nat) :
    ∃ acts : List (Act ω ρ), acts.countP Act.isSettle ≤ 1 ∧
      (run moves).Watches call (Vigil.run acts) := by
  induction moves using List.reverseRecOn with
  | nil => exact ⟨[], Nat.zero_le _, watches_new call⟩
  | append_singleton moves move ih =>
      obtain ⟨acts, once, watches⟩ := ih
      have manned := manned_run moves
      rw [run_append_singleton]
      rcases watches.turn manned (manned.unsettled.turn move) with same | ⟨act, further, settles⟩
      · exact ⟨acts, once, same⟩
      · refine ⟨acts ++ [act], ?_, by rwa [Vigil.run_append_singleton]⟩
        rw [List.countP_append, List.countP_singleton]
        split
        · next settling =>
            have unsettled := Vigil.open_of_running (settles settling)
            have none_settles : acts.countP Act.isSettle = 0 := by
              refine List.countP_eq_zero.mpr fun one member settled => ?_
              cases one with
              | settle verdict => exact unsettled verdict member
              | poll _ _ | drop _ => cases settled
            omega
        · exact once

end Traffic

end Cohort.Flight
