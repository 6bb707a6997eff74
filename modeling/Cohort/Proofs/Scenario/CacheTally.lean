import Cohort.Proofs.Scenario.CacheRounds

/-!
# Counts of the cache scenario

What callers come back with is counted without complaint, and all that was dialed is closed in
the end, with the failures that were expected.
-/

set_option autoImplicit false

namespace Cohort

/-! ## Closing connections -/

namespace Switchboard

variable {ω : Type} {board : Switchboard ω}

private theorem connection_set (board : Switchboard ω) (position one : Nat)
    (connection : Connection) :
    ({ board with connections := board.connections.setIfInBounds position connection } :
        Switchboard ω).connection one =
      if one = position ∧ position < board.connections.size then connection
      else board.connection one := by
  simp only [Switchboard.connection, Array.getD_eq_getD_getElem?, Array.getElem?_setIfInBounds]
  by_cases same : position = one
  · subst same
    by_cases inside : position < board.connections.size <;> simp [inside]
  · simp [same, Ne.symm same]

/-- Closes a connection, as a teardown does. -/
def closing (position : Nat) (board : Switchboard ω) : Closing LoadError × Switchboard ω :=
  match board.hangUp position with
  | (.ok (), board) => (.closed, board)
  | (.error error, board) => (.failed error, board)

private theorem closing_of_open {position : Nat}
    (opened : (board.connection position).isOpen = true) :
    closing position board =
      (if (board.connection position).failsToClose then
          .failed (.closeFailed (board.connection position).number
            (board.connection position).address)
        else .closed,
        { board with
          connections := board.connections.setIfInBounds position
            { board.connection position with isOpen := false } }) := by
  unfold closing hangUp Connection.close
  rw [if_pos opened]
  by_cases fails : (board.connection position).failsToClose = true
  · rw [if_pos fails, if_pos fails]
  · rw [if_neg fails, if_neg fails]

/-- What a teardown of connections comes to. -/
structure HungUp (board after : Switchboard ω) (positions : List Nat)
    (result : Except Fault (List LoadError)) : Prop where
  failures : ∃ failures, result = .ok failures ∧
    failures.length = positions.countP (fun position => (board.connection position).failsToClose)
  closed : ∀ position ∈ positions, (after.connection position).isOpen = false
  others : ∀ position, position ∉ positions → after.connection position = board.connection position

private theorem hungUp_run {positions : List Nat} (once : positions.Nodup)
    (present : ∀ position ∈ positions, position < board.connections.size ∧
      (board.connection position).isOpen = true) :
    HungUp board (Teardown.run closing positions board).2 positions
      (Teardown.run closing positions board).1.result := by
  -- Each close leaves the connections still to be closed as they were, so `present` goes on.
  induction positions generalizing board with
  | nil => exact ⟨⟨[], rfl, rfl⟩, by simp, fun _ _ => rfl⟩
  | cons position rest ih =>
      obtain ⟨absent, once⟩ := List.nodup_cons.mp once
      obtain ⟨inside, opened⟩ := present position List.mem_cons_self
      let next : Switchboard ω :=
        { board with
          connections := board.connections.setIfInBounds position
            { board.connection position with isOpen := false } }
      have same : ∀ one, one ≠ position → next.connection one = board.connection one := by
        intro one different
        exact (connection_set ..).trans (if_neg fun both => different both.1)
      have own : (next.connection position).isOpen = false := by
        rw [connection_set, if_pos ⟨rfl, inside⟩]
      have hungUp := @ih next once (by
        intro one member
        have different : one ≠ position := fun same => absent (same ▸ member)
        rw [same one different]
        refine ⟨?_, (present one (List.mem_cons_of_mem _ member)).2⟩
        rw [Array.size_setIfInBounds]
        exact (present one (List.mem_cons_of_mem _ member)).1)
      obtain ⟨failures, ended, many⟩ := hungUp.failures
      have counted : rest.countP (fun position => (next.connection position).failsToClose) =
          rest.countP (fun position => (board.connection position).failsToClose) := by
        refine List.countP_congr fun one member => ?_
        rw [same one fun equal => absent (equal ▸ member)]
      have closed : ∀ one ∈ position :: rest,
          ((Teardown.run closing rest next).2.connection one).isOpen = false := by
        intro one member
        rcases List.mem_cons.mp member with rfl | member
        · rw [hungUp.others one absent, own]
        · exact hungUp.closed one member
      have others : ∀ one, one ∉ position :: rest →
          (Teardown.run closing rest next).2.connection one = board.connection one := by
        intro one outside
        rw [List.mem_cons, not_or] at outside
        rw [hungUp.others one outside.2, same one outside.1]
      rw [counted] at many
      rw [Teardown.run, closing_of_open opened]
      by_cases fails : (board.connection position).failsToClose = true
      · rw [if_pos fails]
        let error : LoadError := .closeFailed (board.connection position).number
          (board.connection position).address
        refine ⟨⟨error :: failures, congrArg (Except.map (error :: ·)) ended, ?_⟩, closed, others⟩
        simp [many, fails]
      · rw [if_neg fails]
        refine ⟨⟨failures, ended, ?_⟩, closed, others⟩
        simp [many, fails]

end Switchboard

/-- Whether the connection of a number fails to close under the load. -/
def Config.breaks (config : Config) (number : Nat) : Bool :=
  ({ failCloseEvery := config.failCloseEvery } : DialPlan).failsToClose number

namespace CacheLoad

variable {address : Nat → String} {made : List Dial} {load : CacheLoad} {plan other : DialPlan}

/-! ## What is torn down -/

theorem Stocked.replan (stocked : Stocked plan address made load)
    (same : plan.failCloseEvery = other.failCloseEvery) : Stocked other address made load := by
  have connections : ∀ name attempt,
      connectionOf plan name attempt = connectionOf other name attempt := by
    intro name attempt
    rw [connectionOf, connectionOf, DialPlan.failsToClose, DialPlan.failsToClose, same]
  refine ⟨stocked.table, ?_, stocked.connected⟩
  rw [stocked.connections]
  exact List.map_congr_left fun dial _ => connections _ _

private theorem Stocked.map_connection (stocked : Stocked plan address made load) :
    (List.range made.length).map load.board.connection =
      made.map (fun dial => connectionOf plan (address dial.caller) dial.attempt) := by
  rw [← stocked.connections]
  have size := stocked.size_connections
  refine List.ext_getElem (by simp [size]) fun position inside inside' => ?_
  simp only [List.getElem_map, List.getElem_range, Switchboard.connection,
    Array.getD_eq_getD_getElem?, Array.getElem_toList]
  rw [Array.getElem?_eq_getElem (by simpa using inside'), Option.getD_some]

private theorem Stocked.countP_range (stocked : Stocked plan address made load)
    (check : Connection → Bool) :
    (List.range made.length).countP (fun position => check (load.board.connection position)) =
      made.countP (fun dial => check (connectionOf plan (address dial.caller) dial.attempt)) := by
  have both := congrArg (List.countP check) stocked.map_connection
  rwa [List.countP_map, List.countP_map] at both

private theorem Stocked.present (stocked : Stocked plan address made load) {position : Nat}
    (inside : position < made.length) : position < load.board.connections.size ∧
      (load.board.connection position).isOpen = true := by
  refine ⟨stocked.size_connections.symm ▸ inside, ?_⟩
  have member : load.board.connection position ∈
      (List.range made.length).map load.board.connection :=
    List.mem_map_of_mem (List.mem_range.mpr inside)
  rw [stocked.map_connection] at member
  obtain ⟨dial, _, same⟩ := List.mem_map.mp member
  rw [← same]
  rfl

/-- All that was dialed is closed, with as many failures as were expected. -/
theorem teardown_eq {config : Config} {tally : Tally}
    (stocked : Stocked { failCloseEvery := config.failCloseEvery } address made load)
    (first : tally.first.entries.Perm (shelf address made).entries) :
    load.teardown config tally = .ok (made.countP (fun dial =>
      config.breaks dial.attempt)) := by
  have positions : tally.first.values.Perm (List.range made.length) := by
    rw [← values_shelf address made]
    exact first.map Prod.snd
  have many : load.connected = tally.first.values.length := by
    rw [stocked.connected, positions.length_eq, List.length_range]
  have expected : (tally.first.values.filter (fun position =>
        config.breaks (load.board.connection position).number)).length =
      made.countP (fun dial =>
        config.breaks dial.attempt) := by
    rw [← List.countP_eq_length_filter, positions.countP_eq]
    exact stocked.countP_range fun connection => config.breaks connection.number
  let board : Switchboard Nat :=
    { load.board with manager := { load.board.manager with table := none } }
  have hungUp := @Switchboard.hungUp_run Nat board (List.range made.length) List.nodup_range
    fun position member => stocked.present (List.mem_range.mp member)
  obtain ⟨failures, ended, failed⟩ := hungUp.failures
  have failed : failures.length = made.countP (fun dial =>
      config.breaks dial.attempt) :=
    failed.trans (stocked.countP_range Connection.failsToClose)
  have shut : load.board.shut =
      (failures, (Teardown.run Switchboard.closing (List.range made.length) board).2) := by
    have values : load.board.manager.shut =
        (some (List.range made.length), { load.board.manager with table := none }) := by
      rw [Manager.shut, stocked.table, Option.map_some, values_shelf]
    rw [Switchboard.shut, values]
    dsimp only
    split
    · next came =>
        cases came.symm.trans ended
        rfl
    · next came => cases came.symm.trans ended
  have closed : (tally.first.values.map
      (Teardown.run Switchboard.closing (List.range made.length) board).2.connection).find?
        Connection.isOpen = none := by
    refine List.find?_eq_none.mpr fun connection member => ?_
    obtain ⟨position, there, rfl⟩ := List.mem_map.mp member
    rw [hungUp.closed position (positions.mem_iff.mp there)]
    exact Bool.false_ne_true
  unfold Config.breaks at expected failed ⊢
  rw [teardown]
  simp only [many, ne_eq, not_true_eq_false, if_false, shut, expected, failed, closed]

/-! ## What is counted -/

/-- What was seen of the addresses is what is held. -/
structure Within (first table : Table String Nat) : Prop where
  apart : first.keys.Nodup
  holds : ∀ name position, first.find? name = some position → table.find? name = some position

theorem Within.of_nil {first table : Table String Nat} (nothing : first.entries = []) :
    Within first table where
  apart := by simp [Table.keys, nothing]
  holds := by simp [Table.find?, nothing]

theorem Within.of_perm {first table : Table String Nat}
    (same : first.entries.Perm table.entries) (apart : table.keys.Nodup) : Within first table := by
  have apart' : first.keys.Nodup := (same.map Prod.fst).nodup_iff.mpr apart
  refine ⟨apart', fun name position found => ?_⟩
  rw [Table.find?_eq_some_iff apart'] at found
  exact (Table.find?_eq_some_iff apart).mpr (same.mem_iff.mp found)

private theorem Within.insert {first table : Table String Nat} {name : String} {position : Nat}
    (within : Within first table) (there : table.find? name = some position) :
    Within (first.insert name position) table where
  apart := Table.nodup_keys_insert within.apart name position
  holds := by
    intro one found
    rw [Table.find?_insert]
    split
    · next same =>
        rintro ⟨⟩
        exact same ▸ there
    · exact within.holds one found

/-- Once every address was seen, the two are the same. -/
theorem Within.perm {first table : Table String Nat} (within : Within first table)
    (apart : table.keys.Nodup)
    (seen : ∀ name ∈ table.keys, ∃ position, first.find? name = some position) :
    first.entries.Perm table.entries := by
  refine (List.perm_ext_iff_of_nodup (within.apart.of_map Prod.fst) (apart.of_map Prod.fst)).mpr ?_
  rintro ⟨name, position⟩
  rw [← Table.find?_eq_some_iff within.apart, ← Table.find?_eq_some_iff apart]
  refine ⟨within.holds name position, fun there => ?_⟩
  have member : name ∈ table.keys :=
    List.mem_map_of_mem (f := Prod.fst) (Table.mem_entries_of_find? there)
  obtain ⟨other, found⟩ := seen name member
  cases there.symm.trans (within.holds name other found)
  exact found

/-- What counting some callers adds to a report. -/
def counted (plan : DialPlan) (callers : Nat) (report : Report) : Report :=
  { report with
    calls := report.calls + callers
    dialFailures := report.dialFailures + if plan.refuse then callers else 0 }

variable {tally : Tally} {board : Switchboard Nat} {caller total : Nat}

private theorem count_eq {result : Except (ManagerError DialError) Nat}
    (resolves : Resolves plan address load caller result) (stocked : Stocked plan address made load)
    (within : Within tally.first (shelf address made)) :
    ∃ next, tally.count plan load.board (address caller) (.done result) = .ok next ∧
      next.report = counted plan 1 tally.report ∧ Within next.first (shelf address made) ∧
      (∀ name, (tally.first.find? name).isSome → (next.first.find? name).isSome) ∧
      (plan.refuse = false → (next.first.find? (address caller)).isSome) := by
  unfold Resolves at resolves
  cases refused : plan.refuse with
  | true =>
      rw [if_pos refused] at resolves
      subst resolves
      have accepted : checkRefusal (address caller)
          (.create ⟨address caller, "connection refused"⟩) =
            .ok ⟨address caller, "connection refused"⟩ := by
        simp [checkRefusal, ManagerError.cause?]
      refine ⟨{ tally with
          report := counted plan 1 tally.report
          log := .refused ⟨address caller, "connection refused"⟩ :: tally.log },
        ?_, rfl, within, fun _ => id, (by simp)⟩
      simp only [Tally.count, refused, if_true, accepted, counted]
      rfl
  | false =>
      rw [if_neg (by simp [refused])] at resolves
      obtain ⟨position, rfl, held⟩ := resolves
      have there : (shelf address made).find? (address caller) = some position := by
        rw [stocked.held_eq] at held
        injection held
      have first : (tally.first.find? (address caller)).getD position = position := by
        cases found : tally.first.find? (address caller) with
        | none => rfl
        | some other =>
            have same := within.holds _ _ found
            rw [there] at same
            cases same
            rfl
      refine ⟨{ tally with
          report := counted plan 1 tally.report
          first := tally.first.insert (address caller) position },
        ?_, rfl, within.insert there, fun name => ?_, fun _ => ?_⟩
      · simp only [Tally.count, refused, Bool.false_eq_true, if_false, first, ne_eq,
          not_true_eq_false, counted, Nat.add_zero]
      · rw [Table.find?_insert]
        split
        · exact fun _ => rfl
        · exact id
      · rw [Table.find?_insert_self]
        rfl

private theorem counted_counted (plan : DialPlan) (one other : Nat) (report : Report) :
    counted plan one (counted plan other report) = counted plan (other + one) report := by
  unfold counted
  split <;> simp [Nat.add_assoc]

theorem foldlM_count_eq (tally : Tally) {callers : List Nat}
    (returned : ∀ caller ∈ callers, ∃ result, load.phase caller = .done result ∧
      Resolves plan address load caller result)
    (stocked : Stocked plan address made load)
    (within : Within tally.first (shelf address made)) :
    ∃ next, callers.foldlM (fun tally caller =>
        tally.count plan load.board (address caller) (load.callers.getD caller .idle)) tally =
          .ok next ∧
      next.report = counted plan callers.length tally.report ∧
      Within next.first (shelf address made) ∧
      (∀ name, (tally.first.find? name).isSome → (next.first.find? name).isSome) ∧
      (plan.refuse = false → ∀ caller ∈ callers, (next.first.find? (address caller)).isSome) := by
  -- What was seen stays seen, so in the end it covers the addresses of all callers.
  induction callers generalizing tally with
  | nil =>
      refine ⟨tally, rfl, ?_, within, fun _ => id, fun _ _ member => absurd member List.not_mem_nil⟩
      simp [counted]
  | cons caller rest ih =>
      obtain ⟨result, done, resolves⟩ := returned caller List.mem_cons_self
      obtain ⟨between, counts, report, within', keeps, sees⟩ := count_eq resolves stocked within
      obtain ⟨next, folds, report', within'', keeps', sees'⟩ := ih between
        (fun one member => returned one (List.mem_cons_of_mem _ member)) within'
      refine ⟨next, ?_, ?_, within'', fun name seen => keeps' name (keeps name seen),
        fun accepts one member => ?_⟩
      · rw [phase] at done
        rw [List.foldlM_cons, done, counts]
        exact folds
      · rw [report', report, counted_counted, List.length_cons, Nat.add_comm]
      · rcases List.mem_cons.mp member with rfl | member
        · exact keeps' _ (sees accepts)
        · exact sees' accepts one member

end CacheLoad

end Cohort
