import Cohort.Proofs.Flight.Registry

/-!
# Histories

What has happened to one caller, read off the history of all, and what the history knows
of the calls: who leads each, and who has joined it while its work ran.
-/

set_option autoImplicit false

namespace Cohort.Flight

variable {κ ω ρ : Type}

namespace Event

def caller : Event κ ρ → Nat
  | .started caller _ _ | .joined caller _ _ | .finished caller _ _ _ | .abandoned caller _ _
  | .returned caller _ _ => caller

def starts (number : Nat) : Event κ ρ → Bool
  | .started caller _ _ => caller == number
  | _ => false

end Event

def own (number : Nat) (history : List (Event κ ρ)) : List (Event κ ρ) :=
  history.filter (fun event => event.caller == number)

variable {flight other : Flight κ ω ρ} {history events : List (Event κ ρ)} {number : Nat}
  {key : κ} {phase : Phase ρ} {call : Nat}

theorem mem_own {event : Event κ ρ} :
    event ∈ own number history ↔ event ∈ history ∧ event.caller = number := by
  simp [own]

theorem own_append_same (by_number : ∀ event ∈ events, event.caller = number) :
    own number (history ++ events) = own number history ++ events := by
  have all : events.filter (fun event => event.caller == number) = events :=
    List.filter_eq_self.mpr fun event member => beq_iff_eq.mpr (by_number event member)
  rw [own, List.filter_append, all, own]

theorem own_append_other {one : Nat} (different : one ≠ number)
    (by_number : ∀ event ∈ events, event.caller = number) :
    own one (history ++ events) = own one history := by
  have none_of : events.filter (fun event => event.caller == one) = [] := by
    refine List.filter_eq_nil_iff.mpr fun event member same => ?_
    exact different ((beq_iff_eq.mp same).symm.trans (by_number event member))
  rw [own, List.filter_append, none_of, List.append_nil, own]

/-! ## The life of a caller -/

/-- All these events are joins of caller `number`, and the calls were abandoned. -/
def Forsaken (flight : Flight κ ω ρ) (number : Nat) (key : κ) (events : List (Event κ ρ)) : Prop :=
  ∀ event ∈ events, ∃ call, event = .joined number key call ∧
    (flight.call call).verdict = some .abandoned

/-- What has happened to a caller since it last looked for a call. -/
inductive Ending (number : Nat) (key : κ) : Phase ρ → List (Event κ ρ) → Prop where
  | idle : Ending number key .idle []
  | leads {call : Nat} : Ending number key (.leads call) [.started number key call]
  | follows {call : Nat} {ticket : UInt64} : Ending number key (.follows call ticket) [.joined number key call]
  | fresh {call : Nat} {result : ρ} : Ending number key (.returned result true)
      [.started number key call, .finished number key call result, .returned number result true]
  | shared {call : Nat} {result : ρ} : Ending number key (.returned result false)
      [.joined number key call, .returned number result false]
  | unpolled : Ending number key .gone []
  | left {call : Nat} : Ending number key .gone [.joined number key call]
  | abandoned {call : Nat} : Ending number key .gone
      [.started number key call, .abandoned number key call]

/-- All that has happened to a caller: it has joined calls that were abandoned, and then
come to where it stands. -/
def Life (flight : Flight κ ω ρ) (number : Nat) (key : κ) (phase : Phase ρ)
    (events : List (Event κ ρ)) : Prop :=
  ∃ joins ending, Forsaken flight number key joins ∧ Ending number key phase ending ∧
    events = joins ++ ending

/-- Calls that are settled stay as they are. -/
def Keeps (flight other : Flight κ ω ρ) : Prop :=
  ∀ call verdict, (flight.call call).verdict = some verdict →
    (other.call call).verdict = some verdict

theorem keeps_alike (alike : flight.Alike other) : flight.Keeps other := by
  intro one verdict settled
  rw [alike.verdict, settled]

private theorem Forsaken.keep (forsaken : Forsaken flight number key events)
    (keeps : flight.Keeps other) :
    Forsaken other number key events := by
  intro event member
  obtain ⟨call, same, abandoned⟩ := forsaken event member
  exact ⟨call, same, keeps call _ abandoned⟩

theorem Life.keep (life : Life flight number key phase events) (keeps : flight.Keeps other) :
    Life other number key phase events := by
  obtain ⟨joins, ending, forsaken, came, rfl⟩ := life
  exact ⟨joins, ending, forsaken.keep keeps, came, rfl⟩

theorem Life.forsaken (life : Life flight number key phase events) (seeks : phase.Seeks flight) :
    Forsaken flight number key events := by
  obtain ⟨joins, ending, forsaken, came, rfl⟩ := life
  intro event member
  rcases List.mem_append.mp member with earlier | last
  · exact forsaken event earlier
  · cases came with
    | idle => cases last
    | follows =>
        rw [List.mem_singleton] at last
        exact ⟨_, last, seeks⟩
    | leads | fresh | shared | unpolled | left | abandoned => exact absurd seeks id

theorem Forsaken.lead (forsaken : Forsaken flight number key events) (keeps : flight.Keeps other)
    (call : Nat) :
    Life other number key (.leads call) (events ++ [.started number key call]) :=
  ⟨events, _, forsaken.keep keeps, .leads, rfl⟩

theorem Forsaken.join (forsaken : Forsaken flight number key events) (keeps : flight.Keeps other)
    (call : Nat) (ticket : UInt64) :
    Life other number key (.follows call ticket) (events ++ [.joined number key call]) :=
  ⟨events, _, forsaken.keep keeps, .follows, rfl⟩

/-- The last event of a caller that leads or follows stays where it is. -/
theorem Life.further {before after : List (Event κ ρ)} {next : Phase ρ}
    (life : Life flight number key phase history) (keeps : flight.Keeps other)
    (only : ∀ ending, Ending number key phase ending → ending = before)
    (came : Ending number key next (before ++ after)) :
    Life other number key next (history ++ after) := by
  obtain ⟨joins, ending, forsaken, came', rfl⟩ := life
  cases only ending came'
  exact ⟨joins, before ++ after, forsaken.keep keeps, came, List.append_assoc ..⟩

/-- What is no join has happened since the caller last looked for a call. -/
theorem Life.mem_ending (life : Life flight number key phase events) {event : Event κ ρ}
    (member : event ∈ events) (no_join : ∀ call, event ≠ .joined number key call) :
    ∃ ending, Ending number key phase ending ∧ event ∈ ending ∧ ending ⊆ events := by
  obtain ⟨joins, ending, forsaken, came, rfl⟩ := life
  rcases List.mem_append.mp member with earlier | last
  · obtain ⟨call, same, _⟩ := forsaken event earlier
    exact absurd same (no_join call)
  · exact ⟨ending, came, last, List.subset_append_right ..⟩

theorem ending_idle {ending : List (Event κ ρ)} (came : Ending number key .idle ending) :
    ending = [] := by
  cases came
  rfl

theorem ending_leads {ending : List (Event κ ρ)} (came : Ending number key (.leads call) ending) :
    ending = [.started number key call] := by
  cases came
  rfl

theorem ending_follows {ticket : UInt64} {ending : List (Event κ ρ)}
    (came : Ending number key (.follows call ticket) ending) :
    ending = [.joined number key call] := by
  cases came
  rfl

/-! ## The record of the calls -/

/-- The history knows who leads each call, and who has joined it in time. -/
structure Recorded (flight : Flight κ ω ρ) (history : List (Event κ ρ)) : Prop where
  inside : ∀ number key call, .started number key call ∈ history → call < flight.calls.size
  leader : ∀ number key call one key', .started number key call ∈ history →
    .started one key' call ∈ history → number = one ∧ key = key'
  finished : ∀ number key call result, .finished number key call result ∈ history →
    (flight.call call).verdict = some (.done result)
  joined : ∀ number key call, .joined number key call ∈ history → ∃ leader,
    List.Sublist [.started leader key call, .joined number key call] history ∧
      ∀ result, (flight.call call).verdict = some (.done result) →
        List.Sublist [.started leader key call, .joined number key call,
          .finished leader key call result] history

theorem recorded_new : Recorded ({} : Flight κ ω ρ) ([] : List (Event κ ρ)) where
  inside := fun _ _ _ member => absurd member List.not_mem_nil
  leader := fun _ _ _ _ _ member => absurd member List.not_mem_nil
  finished := fun _ _ _ _ member => absurd member List.not_mem_nil
  joined := fun _ _ _ member => absurd member List.not_mem_nil

theorem Recorded.alike (recorded : Recorded flight history) (alike : flight.Alike other) :
    Recorded other history where
  inside := by
    rw [alike.size]
    exact recorded.inside
  leader := recorded.leader
  finished := by
    intro number key call result
    rw [alike.verdict]
    exact recorded.finished number key call result
  joined := by
    intro number key call
    rw [alike.verdict]
    exact recorded.joined number key call

/-- No work starts or ends, and whoever joins a call does so while its work runs. -/
theorem Recorded.append (recorded : Recorded flight history)
    (quiet : ∀ event ∈ events, event.isStarted = false ∧ event.isFinished = false)
    (joins : ∀ number key call, .joined number key call ∈ events →
      (flight.call call).verdict = none ∧ ∃ leader, .started leader key call ∈ history) :
    Recorded flight (history ++ events) := by
  have started : ∀ number key call, .started number key call ∈ history ++ events →
      .started number key call ∈ history := by
    intro number key call member
    rcases List.mem_append.mp member with before | new
    · exact before
    · cases (quiet _ new).1
  constructor
  case inside =>
    intro number key call member
    exact recorded.inside number key call (started _ _ _ member)
  case leader =>
    intro number key call one key' member member'
    exact recorded.leader number key call one key' (started _ _ _ member) (started _ _ _ member')
  case finished =>
    intro number key call result member
    rcases List.mem_append.mp member with before | new
    · exact recorded.finished number key call result before
    · cases (quiet _ new).2
  case joined =>
    intro number key call member
    rcases List.mem_append.mp member with before | new
    · obtain ⟨leader, joined, finished⟩ := recorded.joined number key call before
      exact ⟨leader, joined.trans (List.sublist_append_left ..),
        fun result done => (finished result done).trans (List.sublist_append_left ..)⟩
    · obtain ⟨unsettled, leader, led⟩ := joins number key call new
      refine ⟨leader, ?_, fun result done => ?_⟩
      · exact (List.singleton_sublist.mpr led).append (List.singleton_sublist.mpr new)
      · rw [unsettled] at done
        cases done

section Keyed

variable [DecidableEq κ]

theorem keeps_lead (flight : Flight κ ω ρ) (key : κ) : flight.Keeps (flight.lead key) := by
  intro one verdict settled
  rw [call_lead, settled]

theorem Recorded.start (recorded : Recorded flight history) (number : Nat) (key : κ) :
    Recorded (flight.lead key) (history ++ [.started number key flight.calls.size]) := by
  constructor
  case inside =>
    intro one key' call member
    rw [size_lead]
    rcases List.mem_append.mp member with before | new
    · exact Nat.lt_succ_of_lt (recorded.inside one key' call before)
    · cases List.mem_singleton.mp new
      exact Nat.lt_succ_self _
  case leader =>
    intro one key' call one' key'' member member'
    rcases List.mem_append.mp member with before | new
    · rcases List.mem_append.mp member' with before' | new'
      · exact recorded.leader one key' call one' key'' before before'
      · cases List.mem_singleton.mp new'
        exact absurd (recorded.inside _ _ _ before) (Nat.lt_irrefl _)
    · cases List.mem_singleton.mp new
      rcases List.mem_append.mp member' with before' | new'
      · exact absurd (recorded.inside _ _ _ before') (Nat.lt_irrefl _)
      · cases List.mem_singleton.mp new'
        exact ⟨rfl, rfl⟩
  case finished =>
    intro one key' call result member
    rw [call_lead]
    rcases List.mem_append.mp member with before | new
    · exact recorded.finished one key' call result before
    · cases List.mem_singleton.mp new
  case joined =>
    intro one key' call member
    rw [call_lead]
    rcases List.mem_append.mp member with before | new
    · obtain ⟨leader, joined, finished⟩ := recorded.joined one key' call before
      exact ⟨leader, joined.trans (List.sublist_append_left ..),
        fun result done => (finished result done).trans (List.sublist_append_left ..)⟩
    · cases List.mem_singleton.mp new

theorem keeps_settle (unsettled : (flight.call call).verdict = none) (key : κ)
    (verdict : Verdict ρ) : flight.Keeps (flight.settle key call verdict).2 := by
  intro one verdict' settled
  rw [verdict_settle]
  split
  · next same =>
      rw [same.1, unsettled] at settled
      cases settled
  · exact settled

theorem Recorded.abandon (recorded : Recorded flight history)
    (unsettled : (flight.call call).verdict = none) (key : κ) :
    Recorded (flight.settle key call .abandoned).2 history where
  inside := by
    rw [size_settle]
    exact recorded.inside
  leader := recorded.leader
  finished := by
    intro one key' call' result member
    exact keeps_settle unsettled key _ _ _ (recorded.finished one key' call' result member)
  joined := by
    intro one key' call' member
    obtain ⟨leader, joined, finished⟩ := recorded.joined one key' call' member
    refine ⟨leader, joined, fun result done => ?_⟩
    rw [verdict_settle] at done
    split at done
    · cases done
    · exact finished result done

theorem Recorded.finish (recorded : Recorded flight history)
    (unsettled : (flight.call call).verdict = none)
    (started : .started number key call ∈ history) (result : ρ) :
    Recorded (flight.settle key call (.done result)).2
      (history ++ [.finished number key call result]) where
  inside := by
    intro one key' call' member
    rw [size_settle]
    rcases List.mem_append.mp member with before | new
    · exact recorded.inside one key' call' before
    · cases List.mem_singleton.mp new
  leader := by
    intro one key' call' one' key'' member member'
    rcases List.mem_append.mp member with before | new
    · rcases List.mem_append.mp member' with before' | new'
      · exact recorded.leader one key' call' one' key'' before before'
      · cases List.mem_singleton.mp new'
    · cases List.mem_singleton.mp new
  finished := by
    intro one key' call' result' member
    rcases List.mem_append.mp member with before | new
    · exact keeps_settle unsettled key _ _ _ (recorded.finished one key' call' result' before)
    · cases List.mem_singleton.mp new
      simp [verdict_settle, recorded.inside _ _ _ started]
  joined := by
    intro one key' call' member
    rcases List.mem_append.mp member with before | new
    · obtain ⟨leader, joined, finished⟩ := recorded.joined one key' call' before
      refine ⟨leader, joined.trans (List.sublist_append_left ..), fun result' done => ?_⟩
      rw [verdict_settle] at done
      split at done
      · next same =>
          cases done
          obtain ⟨rfl, _⟩ := same
          have led : .started leader key' call' ∈ history := joined.mem List.mem_cons_self
          obtain ⟨rfl, rfl⟩ := recorded.leader _ _ _ _ _ led started
          exact joined.append (List.Sublist.refl _)
      · exact (finished result' done).trans (List.sublist_append_left ..)
    · cases List.mem_singleton.mp new

end Keyed

end Cohort.Flight
