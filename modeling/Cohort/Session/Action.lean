import Cohort.Session.Bench

/-!
# Actions

What an action does to the bench. An action never waits.
-/

set_option autoImplicit false

namespace Cohort.Bench

/-- Acts on the limit of a name; there has to be one. -/
def onLimit (bench : Bench) (name : String) (act : Nat → Reply × Bench) :
    Except Fault Reply × Bench :=
  match bench.limits.number? name with
  | none => (.error (.unknownLimit name), bench)
  | some limit =>
      let (reply, bench) := act limit
      (.ok reply, bench)

/-- Acts on the flight of a name, which is made on first mention. -/
def onFlight (bench : Bench) (name : String)
    (read : Flight String Waker Outcome → Reply) : Except Fault Reply × Bench :=
  let (number, flights) := bench.flights.obtain name
  (.ok (read (flights.get number)), { bench with flights })

/-- Reads the manager of a name, which is made on first mention. -/
def onManager (bench : Bench) (name : String)
    (read : Manager String Waker Nat String → Reply) : Except Fault Reply × Bench :=
  let (number, managers) := bench.managers.obtain name
  (.ok (read (managers.get number)), { bench with managers })

/-- The resource to inject. A fresh one is made even if the manager then refuses it. -/
def source (bench : Bench) : ResourceSource → Nat × Bench
  | .existing resource => (resource, bench)
  | .fresh behavior => bench.addResource behavior

def perform (bench : Bench) : Action → Except Fault Reply × Bench
  | .newLimit name capacity =>
      match Limit.ofCapacity? capacity with
      | none => (.error .emptyLimit, bench)
      | some limit => (.ok .nothing, { bench with limits := (bench.limits.put name limit).2 })
  | .cloneLimit name other =>
      bench.onLimit name fun limit =>
        (.nothing, { bench with limits := bench.limits.rename other limit })
  | .tryBorrow name =>
      bench.onLimit name fun limit =>
        let (taken, bench) := bench.tryBorrow limit
        (.flag taken, bench)
  | .capacity name =>
      bench.onLimit name fun limit => (.count (bench.limits.get limit).capacity, bench)
  | .borrowBlocking name =>
      bench.onLimit name fun limit =>
        match bench.tryBorrow limit with
        | (true, bench) => (.nothing, bench)
        | (false, bench) => (.wouldBlock, bench)
  | .giveBack name =>
      bench.onLimit name fun limit =>
        let (result, bench) := bench.giveBack limit
        (.returned result, bench)
  | .newFlight name => (.ok .nothing, { bench with flights := (bench.flights.put name {}).2 })
  | .inFlight name => bench.onFlight name fun flight => .count flight.inFlight
  | .waiters name key => bench.onFlight name fun flight => .count (flight.waiters key)
  | .newManager name => (.ok .nothing, { bench with managers := (bench.managers.put name {}).2 })
  | .inject name key source =>
      let (number, managers) := bench.managers.obtain name
      let (resource, bench) := { bench with managers }.source source
      match bench.inject number key resource with
      | (.error error, bench) => (.ok (.injected (.error error)), bench)
      | (.ok replaced, bench) => (.ok (.injected (.ok (resource, replaced))), bench)
  | .close name =>
      let (number, managers) := bench.managers.obtain name
      let (report, bench) := { bench with managers }.closeManager number
      (.ok (.closed report), bench)
  | .size name => bench.onManager name fun manager => .count manager.size
  | .isEmpty name => bench.onManager name fun manager => .flag manager.isEmpty
  | .isClosed name => bench.onManager name fun manager => .flag manager.isClosed
  | .contains name key => bench.onManager name fun manager => .flag (manager.contains key)
  | .closes resource =>
      match bench.resource? resource with
      | none => (.ok .nothing, bench)
      | some resource => (.ok (.count resource.closes), bench)
  | .unlock name =>
      let (gate, gates) := bench.gates.obtain name
      (.ok .nothing, { bench with gates }.unlock gate)
  | .unknown _ => (.ok .unknown, bench)

/-- Takes a token on a guard, if there is one. -/
def tryGuard (bench : Bench) (limit guard : String) : Except Fault (Option Guard) × Bench :=
  match bench.limits.number? limit with
  | none => (.error (.unknownLimit limit), bench)
  | some number =>
      match bench.tryBorrow number with
      | (true, bench) => (.ok (some ⟨guard, number⟩), bench)
      | (false, bench) => (.ok none, bench)

/-- Releases the oldest of the guards that have the name, and keeps the others. -/
def dropGuard (bench : Bench) (guard : String) : List Guard → Bool × List Guard × Bench
  | [] => (false, [], bench)
  | held :: rest =>
      if held.name = guard then (true, rest, bench.release held)
      else
        let (found, rest, bench) := bench.dropGuard guard rest
        (found, held :: rest, bench)

end Cohort.Bench
