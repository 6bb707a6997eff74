import Cohort.Proofs.Manager.Teardown

/-!
# Fates

What becomes of each resource that was ever put under a key: it is held still, or it was
handed back to whoever injected another one, or a creation took its place, or the manager was
shut with it, and then the close has closed it once for this key.
-/

set_option autoImplicit false

namespace Cohort

namespace Teardown

variable {ρ φ σ : Type}

/-- The resources are closed in turn, and nobody looks at how that goes. -/
def closeInTurn (close : ρ → σ → Closing φ × σ) (resources : List ρ) (state : σ) : σ :=
  resources.foldl (fun state resource => (close resource state).2) state

private theorem closeInTurn_append_cons (close : ρ → σ → Closing φ × σ) (front back : List ρ)
    (resource : ρ) (state : σ) :
    closeInTurn close (front ++ resource :: back) state =
      closeInTurn close back (close resource (closeInTurn close front state)).2 := by
  rw [closeInTurn, List.foldl_append, List.foldl_cons]
  rfl

/-- Unless a fault cut it short, a teardown has closed each resource once, in turn. -/
theorem run_of_ok (close : ρ → σ → Closing φ × σ) {resources : List ρ} {state : σ}
    {failures : List φ} (ended : (run close resources state).1.result = .ok failures) :
    (run close resources state).1.visited = resources ∧
      (run close resources state).2 = closeInTurn close resources state := by
  induction resources generalizing state failures with
  | nil => exact ⟨rfl, rfl⟩
  | cons resource rest ih =>
      rw [run] at ended ⊢
      rw [closeInTurn, List.foldl_cons]
      cases closed : close resource state with
      | mk closing next =>
          rw [closed] at ended
          cases closing with
          | faulted fault => cases ended
          | closed =>
              obtain ⟨visited, last⟩ := ih ended
              exact ⟨congrArg (resource :: ·) visited, last⟩
          | failed error =>
              cases result : (run close rest next).1.result with
              | error fault =>
                  simp only [result] at ended
                  cases ended
              | ok failures =>
                  obtain ⟨visited, last⟩ := ih result
                  exact ⟨congrArg (resource :: ·) visited, last⟩

end Teardown

namespace Manager

variable {κ ω ρ ε : Type}

/-- A manager that holds something closes it entry by entry. -/
theorem close_of_entries {manager : Manager κ ω ρ ε} {front back : List (κ × ρ)} {key : κ}
    {resource : ρ} (held : manager.table = some ⟨front ++ (key, resource) :: back⟩) {φ σ : Type}
    (close : ρ → σ → Closing φ × σ) {state : σ} {failures : List φ}
    (ended : (manager.close close state).1.result = .ok failures) :
    (manager.close close state).1.visited =
        front.map Prod.snd ++ resource :: back.map Prod.snd ∧
      (manager.close close state).2.2 =
        Teardown.closeInTurn close (back.map Prod.snd)
          (close resource (Teardown.closeInTurn close (front.map Prod.snd) state)).2 := by
  have values : Table.values ⟨front ++ (key, resource) :: back⟩ =
      front.map Prod.snd ++ resource :: back.map Prod.snd := by
    rw [Table.values, List.map_append, List.map_cons]
  rw [Manager.close, shut, held] at ended ⊢
  simp only [Option.map_some, Option.getD_some, values] at ended ⊢
  obtain ⟨visited, last⟩ := Teardown.run_of_ok close ended
  exact ⟨visited, last.trans (Teardown.closeInTurn_append_cons ..)⟩

inductive Fate where
  | held
  | replaced
  | overwritten
  | closed

def Fate.sealed : Option (Event κ ρ ε) → Fate
  | some (.injected _ _ _) => .replaced
  | some (.created _ _ _ _) => .overwritten
  | some (.shut _) => .closed
  | some (.flight _) | some (.creating _ _ _) | none => .held

namespace Dealings

variable [DecidableEq κ]

/-- The manager was shut after the moves `before`, when it held the resource under the key and
the entries `front` and `back` besides. -/
structure ClosedFor (moves : List (Move κ ω ρ ε)) (past : List (Event κ ρ ε))
    (event : Event κ ρ ε) (later : List (Event κ ρ ε)) (key : κ) (resource : ρ)
    (before after : List (Move κ ω ρ ε)) (mid rest : List (Event κ ρ ε))
    (front back : List (κ × ρ)) : Prop where
  moves : moves = before ++ .shut :: after
  history : (run before).history = past ++ event :: mid
  idle : ∀ other ∈ mid, other.displaces key = false
  replayed : replay (past ++ event :: mid) = some ⟨front ++ (key, resource) :: back⟩
  held : (run before).manager.table = some ⟨front ++ (key, resource) :: back⟩
  apart : ∀ entry ∈ front ++ back, entry.1 ≠ key
  taken : later =
    mid ++ .shut (some (front.map Prod.snd ++ resource :: back.map Prod.snd)) :: rest
  /-- Nothing was ever taken out besides. -/
  only : ∀ other ∈ past ++ event :: mid ++ rest, other.empties = false
  /-- The move leaves the manager as a close does, however the resources close. -/
  shut : ∀ (φ σ : Type) (close : ρ → σ → Closing φ × σ) (state : σ),
    ((run before).manager.close close state).2.1 = (run (before ++ [.shut])).manager
  /-- Unless a fault cuts it short, the close calls the resource once for this key, after what
  `front` holds and before what `back` holds. -/
  once : ∀ (φ σ : Type) (close : ρ → σ → Closing φ × σ) (state : σ) (failures : List φ),
    ((run before).manager.close close state).1.result = .ok failures →
      ((run before).manager.close close state).1.visited =
          front.map Prod.snd ++ resource :: back.map Prod.snd ∧
        ((run before).manager.close close state).2.2 =
          Teardown.closeInTurn close (back.map Prod.snd)
            (close resource (Teardown.closeInTurn close (front.map Prod.snd) state)).2

/-- The first event that displaces the resource, if any, seals its fate. A creation can only
have displaced what was injected after the creator had looked its key up in vain. -/
def Meets (moves : List (Move κ ω ρ ε)) (past : List (Event κ ρ ε)) (event : Event κ ρ ε)
    (later : List (Event κ ρ ε)) (key : κ) (resource : ρ) : Fate → Prop
  | .held =>
      later.find? (Event.displaces key) = none ∧
        (run moves).manager.lookup key = .ok (some resource)
  | .replaced =>
      ∃ new, later.find? (Event.displaces key) = some (.injected key new (.ok (some resource)))
  | .overwritten =>
      ∃ number call new, later.find? (Event.displaces key) =
          some (.created number key call (.ok new)) ∧
        .creating number key call ∈ past ∧
        ∃ replaced, event = .injected key resource (.ok replaced)
  | .closed =>
      ∃ before after mid rest front back,
        ClosedFor moves past event later key resource before after mid rest front back

variable {moves : List (Move κ ω ρ ε)} {past later : List (Event κ ρ ε)} {event : Event κ ρ ε}
  {key : κ} {resource : ρ} {dealings next : Dealings κ ω ρ ε} {move : Move κ ω ρ ε}
  {number call : Nat}

private theorem ClosedFor.first {before after : List (Move κ ω ρ ε)} {mid rest : List (Event κ ρ ε)}
    {front back : List (κ × ρ)}
    (closed : ClosedFor moves past event later key resource before after mid rest front back) :
    later.find? (Event.displaces key) =
      some (.shut (some (front.map Prod.snd ++ resource :: back.map Prod.snd))) := by
  apply List.find?_eq_some_iff_append.mpr
  refine ⟨rfl, mid, rest, closed.taken, ?_⟩
  intro other member
  rw [closed.idle other member]
  rfl

private theorem Meets.eq_sealed {fate : Fate}
    (meets : Meets moves past event later key resource fate) :
    fate = .sealed (later.find? (Event.displaces key)) := by
  cases fate with
  | held =>
      obtain ⟨first, _⟩ := meets
      rw [first]
      rfl
  | replaced =>
      obtain ⟨_, first⟩ := meets
      rw [first]
      rfl
  | overwritten =>
      obtain ⟨_, _, _, first, _⟩ := meets
      rw [first]
      rfl
  | closed =>
      obtain ⟨_, _, _, _, _, _, closed⟩ := meets
      rw [closed.first]
      rfl

/-! ## The move that has shut the manager -/

private theorem Change.of_shut (change : dealings.Change move next) :
    ∃ events, next.history = dealings.history ++ events ∧
      ∀ held, .shut held ∈ events → move = .shut ∧ events = [.shut held] := by
  cases change with
  | quiet _ _ _ =>
      refine ⟨_, rfl, fun held member => ?_⟩
      obtain ⟨_, _, same⟩ := List.mem_map.mp member
      cases same
  | answer _ _ _ _ | begin _ _ _ _ | finish _ | inject _ | refuse _ => exact ⟨_, rfl, by simp⟩
  | shut =>
      refine ⟨_, rfl, fun held member => ⟨rfl, ?_⟩⟩
      rw [List.mem_singleton.mp member]

private theorem exists_shut_move {held : Option (List ρ)}
    (split : (run moves).history = past ++ .shut held :: later) :
    ∃ before after, moves = before ++ .shut :: after ∧ (run before).history = past := by
  induction moves using List.reverseRecOn generalizing later with
  | nil => cases past <;> cases split
  | append_singleton moves move ih =>
      obtain ⟨events, grown, of_shut⟩ := (change_run moves move).of_shut
      rw [grown] at split
      rcases List.append_eq_append_iff.mp split with ⟨since, rfl, new⟩ | ⟨since, old, new⟩
      · obtain ⟨rfl, alone⟩ := of_shut held (new ▸ List.mem_append_right _ List.mem_cons_self)
        rw [alone] at new
        cases since with
        | nil => exact ⟨moves, [], rfl, (List.append_nil _).symm⟩
        | cons first since => exact absurd (List.cons.inj new).2 (by simp)
      · cases since with
        | nil =>
            rw [List.nil_append] at new
            obtain ⟨rfl, alone⟩ := of_shut held (new ▸ List.mem_cons_self)
            exact ⟨moves, [], rfl, old.trans (List.append_nil past)⟩
        | cons first since =>
            obtain ⟨rfl, rfl⟩ := List.cons.inj new
            obtain ⟨before, after, rfl, same⟩ := ih old
            exact ⟨before, after ++ [move], by simp, same⟩

/-! ## Every resource has its fate -/

/-- The creator had looked the key up in vain before the other resource was put there, which
no creation did. -/
private theorem Recounted.injected_of_created (recounted : dealings.Recounted)
    (installs : Installs past event key resource) {mid rest : List (Event κ ρ ε)}
    {outcome : Except ε ρ} (idle : ∀ event ∈ mid, event.displaces key = false)
    (split : dealings.history = past ++ event :: mid ++ .created number key call outcome :: rest) :
    .creating number key call ∈ past ∧
      ∃ replaced, event = .injected key resource (.ok replaced) := by
  obtain ⟨before, since, found, failed⟩ := recounted.created _ _ _ _ _ _ split
  rcases List.append_eq_append_iff.mp found with ⟨apart, rfl, new⟩ | ⟨apart, rfl, new⟩
  · cases apart with
    | nil =>
        cases new
        cases installs.puts
    | cons first apart =>
        -- The key was held when it was looked up.
        rw [List.cons_append] at new
        obtain ⟨rfl, rfl⟩ := List.cons.inj new
        obtain ⟨table, there, held⟩ := installs.stays fun event member =>
          idle event (List.mem_append_left _ member)
        have whole : dealings.history = (past ++ event :: apart) ++
            .creating number key call :: (since ++ .created number key call outcome :: rest) := by
          simpa using split
        obtain ⟨table', there', absent⟩ := (whole ▸ recounted.fit).fits
        rw [there] at there'
        cases there'
        rw [held] at absent
        cases absent
  · cases apart with
    | nil =>
        cases new
        cases installs.puts
    | cons first apart =>
        cases new
        refine ⟨List.mem_append_right _ List.mem_cons_self, ?_⟩
        have puts := installs.puts
        have failed := failed event (List.mem_append_right _ List.mem_cons_self)
        cases event with
        | injected other new result =>
            cases result with
            | error error => cases puts
            | ok replaced =>
                cases puts
                exact ⟨replaced, rfl⟩
        | created other key' call' outcome =>
            cases outcome with
            | error cause => cases puts
            | ok made =>
                cases puts
                simp [Event.succeeds] at failed
        | flight _ | creating _ _ _ | shut _ => cases puts

/-- The manager was shut while it held the resource. -/
private theorem exists_closedFor {mid rest : List (Event κ ρ ε)} {taken : List ρ}
    {table : Table κ ρ} (idle : ∀ other ∈ mid, other.displaces key = false)
    (split : (run moves).history = past ++ event :: mid ++ .shut (some taken) :: rest)
    (there : replay (past ++ event :: mid) = some table)
    (found : table.find? key = some resource) (values : taken = table.values) :
    ∃ before after front back, ClosedFor moves past event (mid ++ .shut (some taken) :: rest) key
      resource before after mid rest front back := by
  obtain ⟨before, after, made, history⟩ := exists_shut_move split
  obtain ⟨front, back, entries⟩ := List.append_of_mem (Table.mem_entries_of_find? found)
  have same : table = ⟨front ++ (key, resource) :: back⟩ := by rw [← entries]
  have held : (run before).manager.table = some table := by
    rw [(recounted_run before).table, history, there]
  have distinct := nodup_keys_replay there
  subst same
  refine ⟨before, after, front, back, ?_⟩
  constructor
  case moves => exact made
  case history => exact history
  case idle => exact idle
  case replayed => exact there
  case held => exact held
  case apart =>
    intro entry member same
    rw [Table.keys, List.map_append, List.map_cons] at distinct
    have absent := (List.nodup_cons.mp (List.perm_middle.nodup_iff.mp distinct)).1
    rw [← List.map_append] at absent
    exact absent (List.mem_map.mpr ⟨entry, member, same⟩)
  case taken => rw [values, Table.values, List.map_append, List.map_cons]
  case only =>
    have fit := (recounted_run moves).fit
    rw [split, allFit_append] at fit
    have since := not_empties_of_allFit_none fit.2.2
    have until_then := isSome_replay_iff.mp (Option.isSome_of_eq_some there)
    intro other member
    rcases List.mem_append.mp member with member | member
    · exact until_then other member
    · exact since other member
  case shut =>
    intro φ σ close state
    rw [run_append_singleton]
    rfl
  case once =>
    intro φ σ close state failures ended
    exact close_of_entries held close ended

private theorem exists_fate (split : (run moves).history = past ++ event :: later)
    (installs : Installs past event key resource) :
    ∃ fate, Meets moves past event later key resource fate := by
  have recounted := recounted_run moves
  cases first : later.find? (Event.displaces key) with
  | none =>
      obtain ⟨table, there, found⟩ := installs.stays fun event member =>
        Bool.eq_false_iff.mpr (List.find?_eq_none.mp first event member)
      rw [← split, ← recounted.table] at there
      exact ⟨.held, first, lookup_eq_ok_iff.mpr ⟨table, there, found⟩⟩
  | some out =>
      obtain ⟨displaces, mid, rest, rfl, before⟩ := List.find?_eq_some_iff_append.mp first
      have idle : ∀ event ∈ mid, event.displaces key = false := fun event member => by
        simpa using before event member
      obtain ⟨table, there, found⟩ := installs.stays idle
      have whole : (run moves).history = past ++ event :: mid ++ out :: rest := by
        simpa using split
      have fits : out.Fits (some table) := by
        rw [← there]
        exact (whole ▸ recounted.fit).fits
      cases out with
      | injected other new result =>
          cases result with
          | error error => cases displaces
          | ok replaced =>
              obtain rfl : other = key := of_decide_eq_true displaces
              obtain ⟨_, same, rfl⟩ := fits
              cases same
              exact ⟨.replaced, new, first.trans (by rw [found])⟩
      | created number other call outcome =>
          cases outcome with
          | error cause => cases displaces
          | ok new =>
              obtain rfl : other = key := of_decide_eq_true displaces
              exact ⟨.overwritten, number, call, new, first,
                recounted.injected_of_created installs idle whole⟩
      | shut held =>
          cases held with
          | none => cases displaces
          | some taken =>
              obtain ⟨before, after, front, back, closed⟩ :=
                exists_closedFor idle whole there found (Option.some.inj fits)
              exact ⟨.closed, before, after, mid, rest, front, back, closed⟩
      | flight _ | creating _ _ _ => cases displaces

/-- What can be told of all that was ever put into a manager. -/
structure Inventory (moves : List (Move κ ω ρ ε)) : Prop where
  table : (run moves).manager.table = replay (run moves).history
  /-- What was put under a key has one fate at any time. -/
  fates : ∀ past event later key resource, (run moves).history = past ++ event :: later →
    Installs past event key resource →
    ∃! fate, Meets moves past event later key resource fate
  /-- What is held was put there, and is what the fates say is held. -/
  held : ∀ key resource, (run moves).manager.lookup key = .ok (some resource) →
    ∃ past event later, (run moves).history = past ++ event :: later ∧
      Installs past event key resource ∧
      Meets moves past event later key resource .held
  /-- All is taken out at most once. -/
  once : (run moves).history.countP Event.empties ≤ 1
  /-- What an injection hands back had not been taken out before. -/
  unclosed : ∀ past key resource replaced later,
    (run moves).history = past ++ .injected key resource (.ok replaced) :: later →
    ∀ earlier ∈ past, earlier.empties = false
  /-- A creation begins where nothing is held. -/
  missing : ∀ past number key call later,
    (run moves).history = past ++ .creating number key call :: later →
    ∃ table, replay past = some table ∧ table.find? key = none
  /-- If a creation finds its key held at its end, this was injected after it had begun. -/
  overwrites : ∀ past number key call outcome later table resource,
    (run moves).history = past ++ .created number key call outcome :: later →
    replay past = some table → table.find? key = some resource →
    ∃ before replaced since, past = before ++ .injected key resource (.ok replaced) :: since ∧
      .creating number key call ∈ before ∧ ∀ event ∈ since, event.displaces key = false

theorem inventory_run (moves : List (Move κ ω ρ ε)) : Inventory moves := by
  have recounted := recounted_run moves
  have fit := recounted.fit
  constructor
  case table => exact recounted.table
  case fates =>
    intro past event later key resource split installs
    obtain ⟨fate, meets⟩ := exists_fate split installs
    exact ⟨fate, meets, fun other meets' => meets'.eq_sealed.trans meets.eq_sealed.symm⟩
  case held =>
    intro key resource held
    obtain ⟨table, opened, found⟩ := lookup_eq_ok_iff.mp held
    obtain ⟨past, event, later, split, installs, idle⟩ :=
      exists_installs (recounted.table ▸ opened) found
    refine ⟨past, event, later, split, installs, ?_, held⟩
    exact List.find?_eq_none.mpr fun event member => Bool.eq_false_iff.mp (idle event member)
  case once => exact countP_empties_le_one fit
  case unclosed =>
    intro past key resource replaced later split
    obtain ⟨table, opened, _⟩ := (split ▸ fit).fits
    exact isSome_replay_iff.mp (opened ▸ rfl)
  case missing =>
    intro past number key call later split
    exact (split ▸ fit).fits
  case overwrites =>
    intro past number key call outcome later table resource split there found
    obtain ⟨before, event, since, rfl, installs, idle⟩ := exists_installs there found
    obtain ⟨creating, replaced, rfl⟩ := recounted.injected_of_created installs idle split
    exact ⟨before, replaced, since, rfl, creating, idle⟩

-- What is injected while a creation is under way is overwritten at its end.
example : (run [.get 7, .poll 0 (), .inject 7 1, .create 0 (.ok 2), .inject 7 3, .shut] :
    Dealings Nat Unit Nat Unit).history.filterMap Event.puts? = [(7, 1), (7, 2), (7, 3)] := by
  decide

end Dealings

end Manager

end Cohort
