import Cohort.Proofs.Flight.Turns
import Cohort.Proofs.Flight.Wakers
import Cohort.Proofs.Manager.Creations

/-!
# The moves of a manager's flight

What the callers of a manager do is traffic on its flight. Each move comes to moves on the
flight, among them the end of an execution that needs no creation. So all that is known of
the runs of a flight, wake-ups included, holds of dealings with a manager.
-/

set_option autoImplicit false

namespace Cohort

variable {κ ω ρ ε : Type}

/-- The caller looks for a call when it is polled next. -/
def Flight.Phase.looks (flight : Flight κ ω ρ) : Flight.Phase ρ → Bool
  | .idle => true
  | .follows call _ =>
      match (flight.call call).verdict with
      | some .abandoned => true
      | some (.done _) | none => false
  | .leads _ | .returned _ _ | .gone => false

private theorem Flight.Phase.looks_of_seeks {flight : Flight κ ω ρ} {phase : Flight.Phase ρ}
    (seeks : phase.Seeks flight) : phase.looks flight = true := by
  cases phase with
  | idle => rfl
  | follows call ticket =>
      change (flight.call call).verdict = some .abandoned at seeks
      simp only [looks, seeks]
  | leads _ | returned _ _ | gone => exact absurd seeks id

namespace Manager

variable [DecidableEq κ]

/-- The result that needs no creation. -/
def known? (manager : Manager κ ω ρ ε) (key : κ) : Option (Except (ManagerError ε) ρ) :=
  match manager.lookup key with
  | .ok (some resource) => some (.ok resource)
  | .ok none => none
  | .error error => some (.error error)

private theorem answers_of_known? {manager : Manager κ ω ρ ε} {key : κ}
    {result : Except (ManagerError ε) ρ} (known : manager.known? key = some result) :
    manager.Answers key result := by
  unfold known? at known
  unfold Answers
  split at known
  · next found =>
      cases known
      exact found
  · cases known
  · next found =>
      cases known
      exact found

private theorem missing_of_known? {manager : Manager κ ω ρ ε} {key : κ}
    (unknown : manager.known? key = none) : manager.lookup key = .ok none := by
  unfold known? at unknown
  split at unknown
  · cases unknown
  · assumption
  · cases unknown

theorem request_of_running {manager : Manager κ ω ρ ε} {key : κ} {call : Nat}
    (registered : manager.flight.registry.find? key = some call)
    (unsettled : (manager.flight.call call).verdict = none) (waker : ω) :
    manager.request key waker =
      (.joins call ((manager.flight.call call).line.park none waker).1,
        { manager with flight := manager.flight.parkAt call none waker }) := by
  simp only [request, Flight.enter_of_running registered unsettled]

namespace Dealings

/-- What a poll of caller `number` comes to at once, if it begins an execution that needs
no creation. -/
def answer? (dealings : Dealings κ ω ρ ε) (number : Nat) : Option (Except (ManagerError ε) ρ) :=
  match dealings.callers[number]? with
  | some ⟨key, phase⟩ =>
      if phase.looks dealings.manager.flight &&
          (dealings.manager.flight.registry.find? key).isNone then
        dealings.manager.known? key
      else none
  | none => none

/-- What a move comes to on the flight of the manager. -/
def flightMoves (dealings : Dealings κ ω ρ ε) :
    Move κ ω ρ ε → List (Flight.Move κ ω (Except (ManagerError ε) ρ))
  | .get key => [.call key]
  | .poll number waker =>
      .poll number waker :: (dealings.answer? number).toList.map (.finish number)
  | .create number outcome =>
      match dealings.callers[number]? with
      | some ⟨key, _⟩ => [.finish number (dealings.manager.install key outcome).1]
      | none => []
  | .leave number => [.leave number]
  | .inject _ _ | .shut => []

/-- The wakers that the moves call, and the traffic afterwards. -/
def played (traffic : Flight.Traffic κ ω (Except (ManagerError ε) ρ))
    (moves : List (Flight.Move κ ω (Except (ManagerError ε) ρ))) :
    List ω × Flight.Traffic κ ω (Except (ManagerError ε) ρ) :=
  (traffic.calledFrom moves, moves.foldl (fun traffic move => (traffic.step move).2) traffic)

private theorem played_singleton {traffic next : Flight.Traffic κ ω (Except (ManagerError ε) ρ)}
    {move : Flight.Move κ ω (Except (ManagerError ε) ρ)} {woken : List ω}
    (stepped : traffic.step move = (woken, next)) : played traffic [move] = (woken, next) := by
  simp [played, Flight.Traffic.calledFrom, stepped]

private theorem played_pair {traffic between next : Flight.Traffic κ ω (Except (ManagerError ε) ρ)}
    {move later : Flight.Move κ ω (Except (ManagerError ε) ρ)} {woken : List ω}
    (stepped : traffic.step move = ([], between)) (then_ : between.step later = (woken, next)) :
    played traffic [move, later] = (woken, next) := by
  simp [played, Flight.Traffic.calledFrom, stepped, then_]

variable {dealings : Dealings κ ω ρ ε} {number : Nat} {key : κ}
  {phase : Flight.Phase (Except (ManagerError ε) ρ)} {waker : ω}

/-- Asking is a poll of the flight, and the end of the execution if the result is known. -/
private theorem ask_eq (unsettled : dealings.traffic.Unsettled)
    (found : dealings.callers[number]? = some ⟨key, phase⟩)
    (seeks : phase.Seeks dealings.manager.flight) (waker : ω) :
    played dealings.traffic (dealings.flightMoves (.poll number waker)) =
      ((dealings.ask number key waker).1, (dealings.ask number key waker).2.traffic) := by
  have found' : dealings.traffic.callers[number]? = some ⟨key, phase⟩ := found
  have looks := Flight.Phase.looks_of_seeks seeks
  cases registered : dealings.manager.flight.registry.find? key with
  | some call =>
      have running := unsettled key call registered
      have moves_eq : dealings.flightMoves (.poll number waker) = [.poll number waker] := by
        simp [flightMoves, answer?, found, registered]
      rw [moves_eq, ask, request_of_running registered running, traffic_advance]
      exact played_singleton (unsettled.step_eq (.join found' seeks registered))
  | none =>
      have led := unsettled.step_eq
        (@Flight.Traffic.Turn.lead _ _ _ _ _ _ _ _ waker found' seeks registered)
      cases known : dealings.manager.known? key with
      | none =>
          have moves_eq : dealings.flightMoves (.poll number waker) = [.poll number waker] := by
            simp [flightMoves, answer?, found, looks, registered, known]
          have missing := missing_of_known? known
          rw [moves_eq, ask, request_of_missing registered missing, traffic_advance]
          exact played_singleton led
      | some result =>
          have moves_eq : dealings.flightMoves (.poll number waker) =
              [.poll number waker, .finish number result] := by
            simp [flightMoves, answer?, found, looks, registered, known]
          have leads := Flight.Traffic.getElem?_advance_self found' key
            (.leads dealings.traffic.flight.calls.size) (dealings.traffic.flight.lead key)
            [.started number key dealings.traffic.flight.calls.size]
          have finished := Flight.Traffic.step_finish_of_leads leads result
          rw [Flight.Traffic.advance_advance] at finished
          rw [moves_eq, ask, request_of_answers registered (answers_of_known? known),
            traffic_advance]
          exact played_pair led finished

private theorem played_of_deaf {move : Flight.Move κ ω (Except (ManagerError ε) ρ)}
    (own : move.caller? = some number)
    (deaf : ∀ caller, dealings.callers[number]? = some caller → ¬ caller.phase.Heeds move) :
    played dealings.traffic [move] = ([], dealings.traffic) :=
  played_singleton (Flight.Traffic.step_of_not_heeds own deaf)

private theorem played_poll (unsettled : dealings.traffic.Unsettled) (number : Nat) (waker : ω) :
    played dealings.traffic (dealings.flightMoves (.poll number waker)) =
      ((dealings.step (.poll number waker)).1, (dealings.step (.poll number waker)).2.traffic) := by
  cases found : dealings.callers[number]? with
  | none =>
      simp only [flightMoves, answer?, step, found]
      exact played_of_deaf rfl (by simp [found])
  | some caller =>
      obtain ⟨key, phase⟩ := caller
      cases phase with
      | idle =>
          simp only [step, found]
          exact ask_eq unsettled found trivial waker
      | follows call ticket =>
          cases reached : (dealings.manager.flight.call call).verdict with
          | none =>
              have moves_eq : dealings.flightMoves (.poll number waker) = [.poll number waker] := by
                simp [flightMoves, answer?, found, Flight.Phase.looks, reached]
              simp only [moves_eq, step, found, Manager.poll, Flight.poll_eq_parkAt reached,
                traffic_advance]
              exact played_singleton (unsettled.step_eq (.wait found reached))
          | some verdict =>
              simp only [step, found, Manager.poll, Flight.poll_of_settled reached]
              cases verdict with
              | abandoned => exact ask_eq unsettled found reached waker
              | done result =>
                  have moves_eq : dealings.flightMoves (.poll number waker) =
                      [.poll number waker] := by
                    simp [flightMoves, answer?, found, Flight.Phase.looks, reached]
                  simp only [moves_eq, traffic_advance]
                  exact played_singleton (unsettled.step_eq (.share found reached))
      | leads _ | returned _ _ | gone =>
          simp only [flightMoves, answer?, step, found]
          exact played_of_deaf rfl (by simp [found, Flight.Phase.Heeds])

private theorem played_create (number : Nat) (outcome : Except ε ρ) :
    played dealings.traffic (dealings.flightMoves (.create number outcome)) =
      ((dealings.step (.create number outcome)).1,
        (dealings.step (.create number outcome)).2.traffic) := by
  cases found : dealings.callers[number]? with
  | none =>
      simp only [flightMoves, step, found]
      rfl
  | some caller =>
      obtain ⟨key, phase⟩ := caller
      cases phase with
      | leads call =>
          simp only [flightMoves, step, found, traffic_advance, Manager.finish, flight_install]
          exact played_singleton (Flight.Traffic.step_finish_of_leads found _)
      | idle | follows _ _ | returned _ _ | gone =>
          simp only [flightMoves, step, found]
          exact played_of_deaf rfl (by simp [found, Flight.Phase.Heeds])

private theorem played_leave (unsettled : dealings.traffic.Unsettled) (number : Nat) :
    played dealings.traffic (dealings.flightMoves (.leave number)) =
      ((dealings.step (.leave number)).1, (dealings.step (.leave number)).2.traffic) := by
  cases found : dealings.callers[number]? with
  | none =>
      simp only [step, found]
      exact played_of_deaf rfl (by simp [found])
  | some caller =>
      obtain ⟨key, phase⟩ := caller
      cases phase with
      | idle =>
          simp only [step, found, traffic_advance]
          exact played_singleton (unsettled.step_eq (.forgo found))
      | leads call =>
          simp only [step, found, traffic_advance]
          exact played_singleton (unsettled.step_eq (.abandon found))
      | follows call ticket =>
          simp only [step, found, traffic_advance]
          exact played_singleton (unsettled.step_eq (.depart found))
      | returned _ _ | gone =>
          simp only [step, found]
          exact played_of_deaf rfl (by simp [found, Flight.Phase.Heeds])

/-- Every move is traffic on the flight. -/
theorem played_flightMoves (unsettled : dealings.traffic.Unsettled) (move : Move κ ω ρ ε) :
    played dealings.traffic (dealings.flightMoves move) =
      ((dealings.step move).1, (dealings.step move).2.traffic) := by
  cases move with
  | get key => exact played_singleton rfl
  | poll number waker => exact played_poll unsettled number waker
  | create number outcome => exact played_create number outcome
  | leave number => exact played_leave unsettled number
  | inject key resource =>
      simp only [step]
      split
      · next replaced manager injected =>
          have same : manager.flight = dealings.manager.flight := by
            unfold inject at injected
            split at injected <;> cases injected
            rfl
          rw [traffic_note same rfl]
          rfl
      · rw [traffic_note rfl rfl]
        rfl
  | shut =>
      have same : dealings.manager.shut.2.flight = dealings.manager.flight := rfl
      simp only [step]
      rw [traffic_note same rfl]
      rfl

/-! ## Runs -/

/-- The moves on the flight, and the wakers called, that moves come to from some point on. -/
def sentFrom (dealings : Dealings κ ω ρ ε) :
    List (Move κ ω ρ ε) → List (Flight.Move κ ω (Except (ManagerError ε) ρ)) × List ω
  | [] => ([], [])
  | move :: moves =>
      let (woken, next) := dealings.step move
      let (sent, called) := sentFrom next moves
      (dealings.flightMoves move ++ sent, woken ++ called)

private theorem sentFrom_append_singleton (moves : List (Move κ ω ρ ε)) (move : Move κ ω ρ ε)
    (dealings : Dealings κ ω ρ ε) :
    dealings.sentFrom (moves ++ [move]) =
      let last := moves.foldl (fun dealings move => (dealings.step move).2) dealings
      ((dealings.sentFrom moves).1 ++ last.flightMoves move,
        (dealings.sentFrom moves).2 ++ (last.step move).1) := by
  induction moves generalizing dealings with
  | nil => simp [sentFrom]
  | cons first moves ih => simp [sentFrom, ih]

/-- The moves on the flight that a run comes to. -/
def sent (moves : List (Move κ ω ρ ε)) : List (Flight.Move κ ω (Except (ManagerError ε) ρ)) :=
  (sentFrom {} moves).1

/-- The wakers that a run calls, in the order in which it calls them. -/
def called (moves : List (Move κ ω ρ ε)) : List ω :=
  (sentFrom {} moves).2

theorem sent_append_singleton (moves : List (Move κ ω ρ ε)) (move : Move κ ω ρ ε) :
    sent (moves ++ [move]) = sent moves ++ (run moves).flightMoves move :=
  congrArg Prod.fst (sentFrom_append_singleton moves move {})

private theorem called_append_singleton (moves : List (Move κ ω ρ ε)) (move : Move κ ω ρ ε) :
    called (moves ++ [move]) = called moves ++ ((run moves).step move).1 :=
  congrArg Prod.snd (sentFrom_append_singleton moves move {})

theorem exists_sent_append (before after : List (Move κ ω ρ ε)) :
    ∃ more, sent (before ++ after) = sent before ++ more := by
  induction after using List.reverseRecOn with
  | nil => exact ⟨[], by rw [List.append_nil, List.append_nil]⟩
  | append_singleton after move ih =>
      obtain ⟨more, same⟩ := ih
      exact ⟨more ++ (run (before ++ after)).flightMoves move, by
        rw [← List.append_assoc, sent_append_singleton, same, List.append_assoc]⟩

/-- What a manager's flight sees is a run of a flight, which calls the same wakers. -/
theorem traffic_eq_run (moves : List (Move κ ω ρ ε)) :
    (run moves).traffic = Flight.Traffic.run (sent moves) ∧
      called moves = Flight.Traffic.called (sent moves) := by
  induction moves using List.reverseRecOn with
  | nil => exact ⟨rfl, rfl⟩
  | append_singleton moves move ih =>
      obtain ⟨same, called_eq⟩ := ih
      have stepped := played_flightMoves (ordered_run moves).manned.unsettled move
      rw [same] at stepped
      constructor
      · rw [sent_append_singleton, Flight.Traffic.run, List.foldl_append, run_append_singleton]
        exact (congrArg Prod.snd stepped).symm
      · rw [sent_append_singleton, called_append_singleton, called_eq, Flight.Traffic.called_append]
        exact congrArg _ (congrArg Prod.fst stepped).symm

end Dealings

end Manager

end Cohort
