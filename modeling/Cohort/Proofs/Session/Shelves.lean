import Cohort.Proofs.Seating
import Cohort.Proofs.Session.Acts

/-!
# Shelves

What holds of every object on a shelf and of those who use it. The objects of one shelf
change one at a time, and whoever uses one of them uses no other.
-/

set_option autoImplicit false

namespace Cohort

namespace Shelf

variable {α β : Type} [Inhabited α] {Fits : α → List β → Prop} {pick : Nat → Stake → Option β}
  {stakes used gained others : List Stake} {shelf : Shelf α} {name : String} {number : Nat}

/-- Every object fits those who use it, among all that is at stake. Names mean objects that
are there, and none is used that is not. -/
structure Serves (Fits : α → List β → Prop) (pick : Nat → Stake → Option β)
    (stakes : List Stake) (shelf : Shelf α) : Prop where
  named : ∀ {name number}, shelf.number? name = some number → number < shelf.items.size
  used : ∀ {number}, stakes.filterMap (pick number) ≠ [] → number < shelf.items.size
  fits : ∀ {number}, number < shelf.items.size →
    Fits (shelf.get number) (stakes.filterMap (pick number))

theorem serves_new : ({} : Shelf α).Serves Fits pick [] where
  named := by
    intro name number found
    cases found
  used := fun nobody => absurd rfl nobody
  fits := fun inside => absurd inside (Nat.not_lt_zero _)

theorem Serves.perm (fits_perm : ∀ {item : α} {users present : List β}, users.Perm present →
    Fits item users → Fits item present)
    (serves : shelf.Serves Fits pick stakes) (same : stakes.Perm others) :
    shelf.Serves Fits pick others where
  named := serves.named
  used := by
    intro number somebody
    refine serves.used fun nobody => somebody ?_
    exact List.Perm.eq_nil ((same.filterMap _).symm.trans (.of_eq nobody))
  fits := fun inside => fits_perm (same.filterMap _) (serves.fits inside)

private theorem Serves.nobody (serves : shelf.Serves Fits pick stakes)
    (outside : shelf.items.size ≤ number) : stakes.filterMap (pick number) = [] := by
  by_contra somebody
  exact absurd (serves.used somebody) (Nat.not_lt.mpr outside)

/-- Stakes elsewhere do not matter. -/
theorem Serves.quiet (serves : shelf.Serves Fits pick (used ++ others))
    (before : ∀ number, used.filterMap (pick number) = [])
    (after : ∀ number, gained.filterMap (pick number) = []) :
    shelf.Serves Fits pick (gained ++ others) := by
  have same (number : Nat) : (gained ++ others).filterMap (pick number) =
      (used ++ others).filterMap (pick number) := by
    rw [List.filterMap_append, List.filterMap_append, before, after]
  refine ⟨serves.named, fun {number} somebody => ?_, fun {number} inside => ?_⟩
  · rw [same] at somebody
    exact serves.used somebody
  · rw [same]
    exact serves.fits inside

theorem get_put (shelf : Shelf α) (name : String) (item : α) (one : Nat) :
    (shelf.put name item).2.get one = if one = shelf.items.size then item else shelf.get one := by
  simp only [Shelf.put, Shelf.get, Array.getD_eq_getD_getElem?, Array.getElem?_push]
  split <;> simp

theorem get_of_size_le (outside : shelf.items.size ≤ number) : shelf.get number = default := by
  simp [Shelf.get, Array.getD_eq_getD_getElem?, outside]

theorem Serves.put (serves : shelf.Serves Fits pick stakes) {item : α} (fits : Fits item [])
    (name : String) : (shelf.put name item).2.Serves Fits pick stakes := by
  have size : (shelf.put name item).2.items.size = shelf.items.size + 1 := by simp [Shelf.put]
  refine ⟨fun {other number} found => ?_, fun somebody => ?_, fun {number} inside => ?_⟩
  · simp only [Shelf.number?, Shelf.put, Table.find?_insert] at found
    rw [size]
    split at found
    · cases found
      exact Nat.lt_succ_self _
    · exact Nat.lt_succ_of_lt (serves.named found)
  · rw [size]
    exact Nat.lt_succ_of_lt (serves.used somebody)
  · rw [get_put]
    split
    · next same =>
        rw [serves.nobody (Nat.le_of_eq same.symm)]
        exact fits
    · next different =>
        rw [size] at inside
        exact serves.fits (by omega)

theorem Serves.rename (serves : shelf.Serves Fits pick stakes)
    (found : shelf.number? name = some number) (other : String) :
    (shelf.rename other number).Serves Fits pick stakes where
  named := by
    intro one meant known
    simp only [Shelf.number?, Shelf.rename, Table.find?_insert] at known
    split at known
    · cases known
      exact serves.named found
    · exact serves.named known
  used := serves.used
  fits := serves.fits

/-- An object changes, and with it what is at stake there. -/
theorem Serves.set (serves : shelf.Serves Fits pick (used ++ others))
    (inside : number < shelf.items.size)
    (elsewhere : ∀ one, one ≠ number →
      used.filterMap (pick one) = [] ∧ gained.filterMap (pick one) = []) {item : α}
    (fits : ∀ users, Fits (shelf.get number) (used.filterMap (pick number) ++ users) →
      Fits item (gained.filterMap (pick number) ++ users)) :
    (shelf.set number item).Serves Fits pick (gained ++ others) := by
  have size : (shelf.set number item).items.size = shelf.items.size := by simp [Shelf.set]
  have same (one : Nat) (different : one ≠ number) :
      (gained ++ others).filterMap (pick one) = (used ++ others).filterMap (pick one) := by
    rw [List.filterMap_append, List.filterMap_append, (elsewhere one different).1,
      (elsewhere one different).2]
  refine ⟨fun found => ?_, fun {one} somebody => ?_, fun {one} there => ?_⟩
  · rw [size]
    exact serves.named found
  · rw [size]
    by_cases changed : one = number
    · rwa [changed]
    · rw [same one changed] at somebody
      exact serves.used somebody
  · rw [get_set]
    by_cases changed : one = number
    · subst changed
      rw [if_pos ⟨rfl, inside⟩, List.filterMap_append]
      have before := serves.fits inside
      rw [List.filterMap_append] at before
      exact fits _ before
    · rw [if_neg (fun both => changed both.1), same one changed]
      rw [size] at there
      exact serves.fits there

/-- Whoever has a stake has it at an object that is there. -/
theorem Serves.inside (serves : shelf.Serves Fits pick (used ++ others)) {user : β}
    {users : List β} (somebody : used.filterMap (pick number) = user :: users) :
    number < shelf.items.size := by
  apply serves.used
  rw [List.filterMap_append, somebody]
  exact List.cons_ne_nil _ _

/-- What fits an object that is not there fits all that are asked for. -/
theorem Serves.fits_all (serves : shelf.Serves Fits pick stakes) (fits : Fits default [])
    (number : Nat) : Fits (shelf.get number) (stakes.filterMap (pick number)) := by
  by_cases inside : number < shelf.items.size
  · exact serves.fits inside
  · have outside := Nat.not_lt.mp inside
    rw [serves.nobody outside, get_of_size_le outside]
    exact fits

end Shelf

namespace Bench

/-! ## What an operation comes to -/

/-- The two differ at most in the resources and in what is queued and reported. -/
def Beside (bench next : Bench) : Prop :=
  ∃ resources ready events, next = { bench with resources, ready, events }

section Beside

variable {bench next last : Bench}

theorem beside_refl (bench : Bench) : bench.Beside bench :=
  ⟨_, _, _, rfl⟩

theorem beside_of_eq (same : next = bench) : bench.Beside next :=
  same ▸ beside_refl _

theorem Beside.trans (first : bench.Beside next) (second : next.Beside last) :
    bench.Beside last := by
  obtain ⟨_, _, _, rfl⟩ := first
  obtain ⟨_, _, _, rfl⟩ := second
  exact ⟨_, _, _, rfl⟩

theorem beside_note (bench : Bench) (notice : Notice) : bench.Beside (bench.note notice) :=
  ⟨_, _, _, rfl⟩

theorem beside_wake (bench : Bench) (waker : Waker) : bench.Beside (bench.wake waker) := by
  unfold wake enqueue
  split <;> exact ⟨_, _, _, rfl⟩

theorem beside_wakeAll (bench : Bench) (wakers : List Waker) :
    bench.Beside (bench.wakeAll wakers) := by
  induction wakers generalizing bench with
  | nil => exact bench.beside_refl
  | cons waker rest ih => exact (bench.beside_wake waker).trans (ih _)

theorem Beside.setManager (beside : bench.Beside next) (number : Nat)
    (manager : Manager String Waker Nat String) :
    (bench.setManager number manager).Beside (next.setManager number manager) := by
  obtain ⟨_, _, _, rfl⟩ := beside
  exact ⟨_, _, _, rfl⟩

theorem Beside.limits (beside : bench.Beside next) : next.limits = bench.limits := by
  obtain ⟨_, _, _, rfl⟩ := beside
  rfl

theorem Beside.flights (beside : bench.Beside next) : next.flights = bench.flights := by
  obtain ⟨_, _, _, rfl⟩ := beside
  rfl

theorem Beside.managers (beside : bench.Beside next) : next.managers = bench.managers := by
  obtain ⟨_, _, _, rfl⟩ := beside
  rfl

theorem Beside.gates (beside : bench.Beside next) : next.gates = bench.gates := by
  obtain ⟨_, _, _, rfl⟩ := beside
  rfl

/-- `next` differs from `bench` at most in the resources and in what is reported, once the
wakers `called` were called. -/
def Rouses (bench : Bench) (called : List Waker) (next : Bench) : Prop :=
  ∃ resources events, next = { bench with resources, events }.wakeAll called

variable {called : List Waker}

theorem rouses_wakeAll (bench : Bench) (called : List Waker) :
    bench.Rouses called (bench.wakeAll called) :=
  ⟨_, _, rfl⟩

theorem rouses_refl (bench : Bench) : bench.Rouses [] bench :=
  ⟨_, _, rfl⟩

private theorem rouses_note (bench : Bench) (notice : Notice) :
    bench.Rouses [] (bench.note notice) :=
  ⟨_, _, rfl⟩

theorem Rouses.beside (rouses : bench.Rouses called next) : bench.Beside next := by
  obtain ⟨resources, events, rfl⟩ := rouses
  have changed : bench.Beside { bench with resources, events } := ⟨_, _, _, rfl⟩
  exact changed.trans (beside_wakeAll ..)

end Beside

section Others

variable (bench : Bench) (limit : Nat)

theorem others_tryBorrow :
    (bench.tryBorrow limit).2.flights = bench.flights ∧
      (bench.tryBorrow limit).2.managers = bench.managers ∧
      (bench.tryBorrow limit).2.gates = bench.gates := by
  unfold tryBorrow
  cases (bench.limits.get limit).take? <;> exact ⟨rfl, rfl, rfl⟩

theorem others_giveBack :
    (bench.giveBack limit).2.flights = bench.flights ∧
      (bench.giveBack limit).2.managers = bench.managers ∧
      (bench.giveBack limit).2.gates = bench.gates := by
  unfold giveBack
  cases (bench.limits.get limit).putBack with
  | error error => exact ⟨rfl, rfl, rfl⟩
  | ok change =>
      have woken := (bench.setLimit limit change.2).beside_wakeAll change.1.toList
      exact ⟨woken.flights, woken.managers, woken.gates⟩

theorem others_cancelBorrow (ticket : UInt64) :
    (bench.cancelBorrow limit ticket).flights = bench.flights ∧
      (bench.cancelBorrow limit ticket).managers = bench.managers ∧
      (bench.cancelBorrow limit ticket).gates = bench.gates :=
  ⟨(beside_wakeAll ..).flights, (beside_wakeAll ..).managers, (beside_wakeAll ..).gates⟩

theorem others_inject (manager : Nat) (key : String) (resource : Nat) :
    (bench.inject manager key resource).2.limits = bench.limits ∧
      (bench.inject manager key resource).2.flights = bench.flights ∧
      (bench.inject manager key resource).2.gates = bench.gates := by
  unfold inject
  cases (bench.managers.get manager).inject key resource <;> exact ⟨rfl, rfl, rfl⟩

end Others

variable (bench : Bench) (number : Nat) (marked : Bool) (key : String) (call : Nat)
  (ticket : UInt64) (waker : Waker)

theorem enter_flight :
    (bench.setFlight number ((bench.flights.get number).enter key waker).2).Rouses []
      (bench.enter (.flight number marked) key waker).2 := by
  simp only [enter]
  cases (bench.flights.get number).enter key waker with
  | mk entry changed =>
      cases entry with
      | leads _ | joins _ _ => exact rouses_note ..
      | late verdict =>
          cases verdict with
          | done outcome => exact rouses_note ..
          | abandoned => exact rouses_refl _

theorem enter_manager :
    (bench.setManager number ((bench.managers.get number).request key waker).2).Rouses
      ((bench.managers.get number).request key waker).1.called
      (bench.enter (.manager number) key waker).2 := by
  simp only [enter]
  cases (bench.managers.get number).request key waker with
  | mk request changed =>
      cases request with
      | answered result woken => exact ⟨_, _, rfl⟩
      | creates _ | joins _ _ => exact rouses_note ..
      | late verdict =>
          cases verdict with
          | done result => exact rouses_note ..
          | abandoned => exact rouses_refl _

theorem follow_flight :
    (bench.follow (.flight number marked) call ticket waker).2 =
      bench.setFlight number ((bench.flights.get number).poll call ticket waker).2 := by
  simp only [follow]
  cases (bench.flights.get number).poll call ticket waker with
  | mk following changed =>
      cases following with
      | parked _ => rfl
      | settled verdict => cases verdict <;> rfl

theorem follow_manager :
    (bench.follow (.manager number) call ticket waker).2 =
      bench.setManager number ((bench.managers.get number).poll call ticket waker).2 := by
  simp only [follow]
  cases (bench.managers.get number).poll call ticket waker with
  | mk following changed =>
      cases following with
      | parked _ => rfl
      | settled verdict => cases verdict <;> rfl

theorem finish_flight (outcome : Outcome) :
    (bench.setFlight number ((bench.flights.get number).finish key call outcome).2).Rouses
      ((bench.flights.get number).finish key call outcome).1
      (bench.finish (.flight number marked) key call outcome).2 :=
  rouses_wakeAll ..

/-- What a creation comes to whose resource would be given this number. -/
def created (resource : Nat) : Outcome → Except String Nat
  | .err cause => .error cause.plain
  | .ok _ => .ok resource

theorem finish_manager (outcome : Outcome) :
    (bench.setManager number
      (((bench.managers.get number).install key
          (created (bench.resources.size + 1) outcome)).2.finish key call
        ((bench.managers.get number).install key
          (created (bench.resources.size + 1) outcome)).1).2).Rouses
      (((bench.managers.get number).install key
          (created (bench.resources.size + 1) outcome)).2.finish key call
        ((bench.managers.get number).install key
          (created (bench.resources.size + 1) outcome)).1).1
      (bench.finish (.manager number) key call outcome).2 := by
  cases outcome with
  | err cause => exact rouses_wakeAll ..
  | ok behavior =>
      -- The new resource is put aside, and reported if it was installed.
      simp only [finish, created]
      split
      · exact ⟨_, _, rfl⟩
      · exact ⟨_, _, rfl⟩

theorem abandon_flight :
    (bench.setFlight number ((bench.flights.get number).abandon key call).2).Rouses
      ((bench.flights.get number).abandon key call).1
      (bench.abandon (.flight number marked) key call) :=
  ⟨_, _, rfl⟩

theorem abandon_manager :
    (bench.setManager number ((bench.managers.get number).abandon key call).2).Rouses
      ((bench.managers.get number).abandon key call).1
      (bench.abandon (.manager number) key call) :=
  ⟨_, _, rfl⟩

end Bench

end Cohort
