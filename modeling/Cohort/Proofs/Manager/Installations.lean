import Cohort.Proofs.Manager.Creations

/-!
# Installations

A resource comes under a key by an injection or by the end of a creation. What a manager
holds can be told from what has happened, and whoever creates has looked its key up in vain
since the last creation for it that succeeded.
-/

set_option autoImplicit false

namespace Cohort

namespace Manager

/-! ## The table and what has happened -/

namespace Event

variable {κ ρ ε : Type}

/-- What the event puts under a key, if the manager is open. -/
def puts? : Event κ ρ ε → Option (κ × ρ)
  | .injected key resource (.ok _) | .created _ key _ (.ok resource) => some (key, resource)
  | .injected _ _ (.error _) | .created _ _ _ (.error _) | .shut _ | .flight _
  | .creating _ _ _ => none

def empties : Event κ ρ ε → Bool
  | .shut (some _) => true
  | _ => false

variable [DecidableEq κ]

/-- It puts something under the key or takes everything out. -/
def displaces (key : κ) (event : Event κ ρ ε) : Bool :=
  event.empties || event.puts?.any fun put => decide (put.1 = key)

def recount (table : Option (Table κ ρ)) (event : Event κ ρ ε) : Option (Table κ ρ) :=
  if event.empties then none
  else
    match event.puts? with
    | some (key, resource) => table.map (·.insert key resource)
    | none => table

/-- What the event tells is true of the table that it finds. -/
def Fits (table : Option (Table κ ρ)) : Event κ ρ ε → Prop
  | .creating _ key _ => ∃ held, table = some held ∧ held.find? key = none
  | .injected key _ (.ok replaced) => ∃ held, table = some held ∧ held.find? key = replaced
  | .injected _ _ (.error _) => table = none
  | .shut held => held = table.map Table.values
  | .created _ _ _ _ | .flight _ => True

end Event

variable {κ ρ ε : Type} [DecidableEq κ]

/-- What a new manager holds after all this. -/
def replay (history : List (Event κ ρ ε)) : Option (Table κ ρ) :=
  history.foldl Event.recount (some {})

def AllFit : Option (Table κ ρ) → List (Event κ ρ ε) → Prop
  | _, [] => True
  | table, event :: rest => event.Fits table ∧ AllFit (event.recount table) rest

variable {history past later : List (Event κ ρ ε)} {event : Event κ ρ ε} {key : κ} {resource : ρ}
  {table : Table κ ρ}

private theorem replay_append (past later : List (Event κ ρ ε)) :
    replay (past ++ later) = later.foldl Event.recount (replay past) :=
  List.foldl_append

theorem allFit_append {start : Option (Table κ ρ)} :
    AllFit start (past ++ later) ↔
      AllFit start past ∧ AllFit (past.foldl Event.recount start) later := by
  induction past generalizing start with
  | nil => simp [AllFit]
  | cons event rest ih => simp [AllFit, ih, and_assoc]

theorem AllFit.fits (fit : AllFit (some {}) (past ++ event :: later)) :
    event.Fits (replay past) :=
  (allFit_append.mp fit).2.1

private theorem recount_of_puts (puts : event.puts? = some (key, resource))
    (table : Option (Table κ ρ)) :
    event.recount table = table.map (·.insert key resource) := by
  cases event with
  | injected other new result =>
      cases result with
      | error error => cases puts
      | ok replaced =>
          cases puts
          rfl
  | created number other call outcome =>
      cases outcome with
      | error cause => cases puts
      | ok new =>
          cases puts
          rfl
  | flight _ | creating _ _ _ | shut _ => cases puts

private theorem find?_recount (idle : event.displaces key = false) (table : Table κ ρ) :
    ∃ changed, event.recount (some table) = some changed ∧ changed.find? key = table.find? key := by
  rw [Event.displaces, Bool.or_eq_false_iff] at idle
  rw [Event.recount, if_neg (by simp [idle.1])]
  cases puts : event.puts? with
  | none => exact ⟨table, rfl, rfl⟩
  | some put =>
      obtain ⟨other, new⟩ := put
      have different : key ≠ other := by
        rintro rfl
        simp [puts] at idle
      exact ⟨_, rfl, Table.find?_insert_of_ne _ _ different⟩

private theorem find?_foldl_recount (idle : ∀ event ∈ later, event.displaces key = false)
    (table : Table κ ρ) :
    ∃ changed, later.foldl Event.recount (some table) = some changed ∧
      changed.find? key = table.find? key := by
  induction later generalizing table with
  | nil => exact ⟨table, rfl, rfl⟩
  | cons event rest ih =>
      obtain ⟨first, idle⟩ := List.forall_mem_cons.mp idle
      obtain ⟨changed, same, found⟩ := find?_recount first table
      obtain ⟨last, same', found'⟩ := ih idle changed
      exact ⟨last, by rw [List.foldl_cons, same, same'], found'.trans found⟩

private theorem foldl_recount_flights (start : Option (Table κ ρ))
    (events : List (Flight.Event κ (Except (ManagerError ε) ρ))) :
    (events.map Event.flight).foldl Event.recount start = start ∧
      AllFit start (events.map Event.flight) := by
  induction events with
  | nil => exact ⟨rfl, trivial⟩
  | cons event rest ih => exact ⟨ih.1, trivial, ih.2⟩

/-- Nothing comes back into a manager that was shut. -/
theorem recount_none (event : Event κ ρ ε) : event.recount (none : Option (Table κ ρ)) = none := by
  unfold Event.recount
  split
  · rfl
  · split <;> rfl

theorem not_empties_of_allFit_none (fit : AllFit none history) :
    ∀ event ∈ history, event.empties = false := by
  induction history with
  | nil => exact List.forall_mem_nil _
  | cons event rest ih =>
      obtain ⟨fits, fit⟩ := fit
      rw [recount_none] at fit
      refine List.forall_mem_cons.mpr ⟨?_, ih fit⟩
      cases event with
      | shut held =>
          cases fits
          rfl
      | flight _ | creating _ _ _ | created _ _ _ _ | injected _ _ _ => rfl

theorem countP_empties_le_one {start : Option (Table κ ρ)} (fit : AllFit start history) :
    history.countP Event.empties ≤ 1 := by
  induction history generalizing start with
  | nil => exact Nat.zero_le _
  | cons event rest ih =>
      obtain ⟨_, fit⟩ := fit
      rw [List.countP_cons]
      cases empties : event.empties with
      | false => exact ih fit
      | true =>
          rw [Event.recount, if_pos empties] at fit
          have idle := List.countP_eq_zero.mpr fun event member =>
            Bool.eq_false_iff.mp (not_empties_of_allFit_none fit event member)
          rw [idle]
          exact Nat.le_refl _

theorem nodup_keys_replay (held : replay history = some table) : table.keys.Nodup := by
  induction history using List.reverseRecOn generalizing table with
  | nil =>
      cases held
      exact List.nodup_nil
  | append_singleton past event ih =>
      rw [replay_append, List.foldl_cons, List.foldl_nil, Event.recount] at held
      split at held
      · cases held
      · split at held
        · obtain ⟨before, there, rfl⟩ := Option.map_eq_some_iff.mp held
          exact Table.nodup_keys_insert (ih there) _ _
        · exact ih held

theorem isSome_replay_iff :
    (replay history).isSome = true ↔ ∀ event ∈ history, event.empties = false := by
  induction history using List.reverseRecOn with
  | nil => simp [replay]
  | append_singleton past event ih =>
      rw [replay_append, List.foldl_cons, List.foldl_nil, List.forall_mem_append, ← ih,
        List.forall_mem_singleton, Event.recount]
      cases event.empties with
      | true => simp
      | false =>
          cases event.puts? with
          | none => simp
          | some put => simp

/-! ## What puts a resource under a key -/

/-- The event puts the resource under the key, and the manager had not been shut before. -/
structure Installs (past : List (Event κ ρ ε)) (event : Event κ ρ ε) (key : κ) (resource : ρ) :
    Prop where
  puts : event.puts? = some (key, resource)
  opened : ∀ earlier ∈ past, earlier.empties = false

private theorem Installs.replay (installs : Installs past event key resource) :
    ∃ table, Manager.replay (past ++ [event]) = some table ∧ table.find? key = some resource := by
  obtain ⟨table, opened⟩ := Option.isSome_iff_exists.mp (isSome_replay_iff.mpr installs.opened)
  refine ⟨table.insert key resource, ?_, Table.find?_insert_self ..⟩
  rw [replay_append, opened, List.foldl_cons, List.foldl_nil, recount_of_puts installs.puts,
    Option.map_some]

theorem Installs.stays (installs : Installs past event key resource)
    (idle : ∀ event ∈ later, event.displaces key = false) :
    ∃ table, Manager.replay (past ++ event :: later) = some table ∧
      table.find? key = some resource := by
  obtain ⟨table, there, found⟩ := installs.replay
  obtain ⟨last, there', found'⟩ := find?_foldl_recount idle table
  refine ⟨last, ?_, found'.trans found⟩
  rw [← there', ← there, ← replay_append, List.append_assoc, List.singleton_append]

theorem exists_installs (there : Manager.replay history = some table)
    (found : table.find? key = some resource) : ∃ past event later,
      history = past ++ event :: later ∧ Installs past event key resource ∧
        ∀ event ∈ later, event.displaces key = false := by
  induction history using List.reverseRecOn generalizing table with
  | nil =>
      cases there
      cases found
  | append_singleton past event ih =>
      rw [replay_append, List.foldl_cons, List.foldl_nil] at there
      cases before : Manager.replay past with
      | none =>
          rw [before, recount_none] at there
          cases there
      | some table' =>
          rw [before] at there
          cases displaces : event.displaces key with
          | false =>
              obtain ⟨changed, same, kept⟩ := find?_recount displaces table'
              cases same.symm.trans there
              obtain ⟨earlier, event', later, rfl, installs, idle⟩ := ih before (kept ▸ found)
              refine ⟨earlier, event', later ++ [event], by simp, installs, ?_⟩
              exact List.forall_mem_append.mpr ⟨idle, List.forall_mem_singleton.mpr displaces⟩
          | true =>
              rcases (Bool.or_eq_true _ _).mp displaces with empties | puts
              · rw [Event.recount, if_pos empties] at there
                cases there
              · obtain ⟨⟨other, new⟩, put, same⟩ := (Option.any_eq_true _ _).mp puts
                obtain rfl : other = key := of_decide_eq_true same
                rw [recount_of_puts put, Option.map_some] at there
                cases there
                rw [Table.find?_insert_self] at found
                cases found
                have opened : (Manager.replay past).isSome = true := by rw [before]; rfl
                exact ⟨past, event, [], rfl, ⟨put, isSome_replay_iff.mp opened⟩,
                  List.forall_mem_nil _⟩

namespace Dealings

/-! ## What the dealings tell -/

/-- The caller has looked the key up in vain, and no creation for the key has succeeded
since. -/
def Sheltered (history : List (Event κ ρ ε)) (number : Nat) (key : κ) (call : Nat) : Prop :=
  ∃ past later, history = past ++ .creating number key call :: later ∧
    ∀ event ∈ later, event.succeeds key = false

private theorem Sheltered.append {number call : Nat} (sheltered : Sheltered history number key call)
    (failed : ∀ event ∈ later, event.succeeds key = false) :
    Sheltered (history ++ later) number key call := by
  obtain ⟨past, since, rfl, none_since⟩ := sheltered
  refine ⟨past, since ++ later, by simp, fun event member => ?_⟩
  rcases List.mem_append.mp member with member | member
  · exact none_since event member
  · exact failed event member

variable {ω : Type} {dealings next : Dealings κ ω ρ ε} {move : Move κ ω ρ ε} {number call : Nat}

private theorem ne_append_cons_of_not_mem {α : Type} {list past later : List α} {item : α}
    (absent : item ∉ list) : list ≠ past ++ item :: later := by
  rintro rfl
  exact absent (List.mem_append_right _ List.mem_cons_self)

/-- The table is what has happened, and no creation finds another one in its place. -/
structure Recounted (dealings : Dealings κ ω ρ ε) : Prop where
  table : dealings.manager.table = replay dealings.history
  fit : AllFit (some {}) dealings.history
  leads : ∀ number key call, dealings.traffic.Leads number key call →
    Sheltered dealings.history number key call
  created : ∀ past later number key call outcome,
    dealings.history = past ++ .created number key call outcome :: later →
    Sheltered past number key call

private theorem Recounted.extend {events : List (Event κ ρ ε)} (recounted : dealings.Recounted)
    (grown : next.history = dealings.history ++ events)
    (table : next.manager.table = events.foldl Event.recount dealings.manager.table)
    (fit : AllFit dealings.manager.table events)
    (leads : ∀ number key call, next.traffic.Leads number key call →
      dealings.traffic.Leads number key call ∧ (∀ event ∈ events, event.succeeds key = false) ∨
        Sheltered events number key call)
    (created : ∀ past later number key call outcome,
      events = past ++ .created number key call outcome :: later →
      past = [] ∧ dealings.traffic.Leads number key call) : next.Recounted := by
  constructor
  case table => rw [grown, replay_append, ← recounted.table, table]
  case fit =>
    rw [grown, allFit_append]
    refine ⟨recounted.fit, ?_⟩
    rw [recounted.table] at fit
    exact fit
  case leads =>
    intro number key call led
    rw [grown]
    rcases leads number key call led with ⟨before, failed⟩ | ⟨past, later, rfl, failed⟩
    · exact (recounted.leads number key call before).append failed
    · exact ⟨dealings.history ++ past, later, by simp, failed⟩
  case created =>
    intro past later number key call outcome split
    rw [grown] at split
    rcases List.append_eq_append_iff.mp split with ⟨since, rfl, new⟩ | ⟨since, before, new⟩
    · obtain ⟨rfl, led⟩ := created since later number key call outcome new
      rw [List.append_nil]
      exact recounted.leads number key call led
    · cases since with
      | nil =>
          obtain ⟨_, led⟩ := created [] later number key call outcome new.symm
          rw [List.append_nil] at before
          rw [← before]
          exact recounted.leads number key call led
      | cons event since =>
          cases new
          exact recounted.created past since number key call outcome before

private theorem Recounted.flights {events : List (Flight.Event κ (Except (ManagerError ε) ρ))}
    (recounted : dealings.Recounted) (grown : next.history = dealings.history ++ events.map .flight)
    (table : next.manager.table = dealings.manager.table)
    (leads : ∀ number key call, next.traffic.Leads number key call →
      dealings.traffic.Leads number key call) : next.Recounted := by
  obtain ⟨same, fit⟩ := foldl_recount_flights dealings.manager.table events
  refine recounted.extend grown (table.trans same.symm) fit
    (fun number key call led => Or.inl ⟨leads number key call led, fun event member => ?_⟩)
    (fun past later number key call outcome split =>
      absurd split (ne_append_cons_of_not_mem (by simp)))
  obtain ⟨_, _, rfl⟩ := List.mem_map.mp member
  rfl

private theorem Recounted.note (recounted : dealings.Recounted) {manager : Manager κ ω ρ ε}
    {event : Event κ ρ ε} (same : manager.flight = dealings.manager.flight)
    (apart : event.flight? = none)
    (table : manager.table = event.recount dealings.manager.table)
    (fits : event.Fits dealings.manager.table)
    (other : ∀ number key call outcome, event ≠ .created number key call outcome) :
    (dealings.note manager event).Recounted := by
  refine recounted.extend rfl table ⟨fits, trivial⟩ (fun number key call led => ?_)
    (fun past later number key call outcome split => absurd split (ne_append_cons_of_not_mem
      fun member => other number key call outcome (List.mem_singleton.mp member).symm))
  rw [traffic_note same apart] at led
  refine Or.inl ⟨led, List.forall_mem_singleton.mpr ?_⟩
  cases event with
  | created number key call outcome => exact absurd rfl (other number key call outcome)
  | flight _ | creating _ _ _ | injected _ _ _ | shut _ => rfl

private theorem Recounted.begin (recounted : dealings.Recounted)
    (missing : dealings.manager.lookup key = .ok none) :
    (dealings.advance number key (.leads call)
      { dealings.manager with flight := dealings.manager.flight.lead key }
      [.flight (.started number key call), .creating number key call]).Recounted := by
  obtain ⟨table, opened, absent⟩ := lookup_eq_ok_iff.mp missing
  refine recounted.extend rfl rfl ⟨trivial, ⟨table, opened, absent⟩, trivial⟩
    (fun one other call' leads => ?_) (fun past later one other call' outcome split =>
      absurd split (ne_append_cons_of_not_mem (by simp)))
  rcases leads_advance leads with ⟨rfl, rfl, same⟩ | ⟨_, before⟩
  · cases same
    exact Or.inr ⟨[_], [], rfl, List.forall_mem_nil _⟩
  · exact Or.inl ⟨before, by simp [Event.succeeds]⟩

/-- A creation comes to its end. Whoever creates besides does so for another key. -/
private theorem Recounted.finish (recounted : dealings.Recounted) (manned : dealings.traffic.Manned)
    (leads : dealings.traffic.Leads number key call) (outcome : Except ε ρ)
    {manager : Manager κ ω ρ ε}
    (installed : manager.table = (dealings.manager.install key outcome).2.table)
    (result : Except (ManagerError ε) ρ) :
    (dealings.advance number key (.returned result true) manager
      [.created number key call outcome, .flight (.finished number key call result),
        .flight (.returned number result true)]).Recounted := by
  refine recounted.extend rfl ?_ ⟨trivial, trivial, trivial, trivial⟩
    (fun one other call' leads' => ?_) (fun past later one other call' outcome' split => ?_)
  · refine Eq.trans installed ?_
    cases outcome with
    | error cause => rfl
    | ok resource => exact table_install dealings.manager key resource
  · rcases leads_advance leads' with ⟨_, _, same⟩ | ⟨different, before⟩
    · cases same
    · have apart : key ≠ other := by
        rintro rfl
        exact different (Flight.Traffic.eq_of_leads manned.keys_nodup before leads rfl)
      refine Or.inl ⟨before, fun event member => ?_⟩
      simp only [List.mem_cons, List.not_mem_nil, or_false] at member
      rcases member with rfl | rfl | rfl
      · cases outcome with
        | error cause => rfl
        | ok resource => exact decide_eq_false apart
      · rfl
      · rfl
  · cases past with
    | nil =>
        cases split
        exact ⟨rfl, leads⟩
    | cons event past =>
        exact absurd (List.cons.inj split).2 (ne_append_cons_of_not_mem (by simp))

private theorem Recounted.change (recounted : dealings.Recounted) (ordered : dealings.Ordered)
    (change : dealings.Change move next) : next.Recounted := by
  cases change with
  | quiet change history quiet =>
      refine recounted.flights rfl rfl fun number key call leads => ?_
      exact Flight.Traffic.leads_of_change change history
        (fun event member => (quiet event member).1) leads
  | @answer number key phase waker result found seeks free answers =>
      refine @Recounted.flights _ _ _ _ _ _ _
        [.started number key dealings.manager.flight.calls.size,
          .finished number key dealings.manager.flight.calls.size result,
          .returned number result true] recounted rfl rfl ?_
      exact fun one other call leads => leads_of_returned leads
  | begin _ _ _ missing => exact recounted.begin missing
  | finish found => exact recounted.finish ordered.manned found _ (by rfl) _
  | @inject key resource table opened =>
      refine recounted.note rfl rfl ?_ ⟨table, opened, rfl⟩ (by simp)
      rw [opened]
      rfl
  | @refuse key resource closed => exact recounted.note rfl rfl rfl closed (by simp)
  | shut =>
      refine recounted.note rfl rfl ?_ rfl (by simp)
      cases dealings.manager.table <;> rfl

theorem recounted_run (moves : List (Move κ ω ρ ε)) : (run moves).Recounted := by
  induction moves using List.reverseRecOn with
  | nil =>
      refine ⟨rfl, trivial, fun number key call leads => ?_,
        fun past later number key call outcome split => ?_⟩
      · cases leads
      · cases past <;> cases split
  | append_singleton moves move ih => exact ih.change (ordered_run moves) (change_run moves move)

end Dealings

end Manager

end Cohort
