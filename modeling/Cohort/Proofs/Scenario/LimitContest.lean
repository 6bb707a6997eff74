import Cohort.Proofs.Rota
import Cohort.Proofs.Scenario.LimitTurns

/-!
# Contests for tokens

The callers of the limit scenario from their release until all are done. Whoever has something
left to do is ready to be polled: a caller that waits for a token stands in the line or has been
woken from it. So a contest that has come to rest is over, and all tokens are back.
-/

set_option autoImplicit false

namespace Cohort.LimitLoad

variable {capacity total most nap work caller : Nat} {load next : LimitLoad}
  {held : Option UInt64}

/-! ## Lines -/

private theorem mem_tail_iff {callers : List Nat} (once : callers.Nodup) (one : Nat) :
    one ∈ callers.tail ↔ one ∈ callers ∧ one ∉ callers.head?.toList := by
  cases callers with
  | nil => simp
  | cons front behind =>
      have apart := (List.nodup_cons.mp once).1
      change one ∈ behind ↔ one ∈ front :: behind ∧ one ∉ [front]
      rw [List.mem_cons, List.mem_singleton]
      refine ⟨fun there => ⟨.inr there, ?_⟩, fun both => both.1.resolve_left both.2⟩
      rintro rfl
      exact apart there

namespace Books

private theorem wakers_nodup (books : Books capacity total most load) : load.wakers.Nodup := by
  have tickets : load.wakers.map (fun caller => (load.phase caller).ticket?) =
      load.limit.line.tickets.map some := by
    rw [wakers, WaitLine.tickets, List.map_map, List.map_map]
    refine List.map_congr_left fun waiter member => ?_
    simp [books.line waiter member, LimitCaller.ticket?]
  have once := books.vigilant.serves.once.map (fun _ _ same => Option.some.inj same)
  rw [← tickets] at once
  exact once.of_map _

private theorem waiting_of_mem_wakers (books : Books capacity total most load)
    (standing : caller ∈ load.wakers) : ∃ ticket, load.phase caller = .waiting ticket := by
  obtain ⟨waiter, member, rfl⟩ := List.mem_map.mp standing
  exact ⟨waiter.ticket, books.line waiter member⟩

private theorem lt_of_mem_wakers (books : Books capacity total most load)
    (standing : caller ∈ load.wakers) : caller < total := by
  obtain ⟨ticket, waits⟩ := books.waiting_of_mem_wakers standing
  exact books.size ▸ lt_size_of_phase (by simp [waits])

/-- Tokens are left beside a line only for those who have been woken from it. -/
private theorem exists_woken (books : Books capacity total most load)
    (left : 0 < load.limit.available) (standing : caller ∈ load.wakers) :
    ∃ one < total, ∃ ticket, load.phase one = .waiting ticket ∧ one ∉ load.wakers := by
  have parked : load.limit.line.waiters ≠ [] := by
    intro nobody
    simp [wakers, nobody] at standing
  have woken := Nat.lt_of_lt_of_le left (books.vigilant.covered parked)
  obtain ⟨ticket, waits, missing⟩ := List.countP_pos_iff.mp woken
  obtain ⟨one, inside, own⟩ := mem_picked.mp waits
  cases stands : load.phase one with
  | idle | holding | done result => simp [stands, LimitCaller.ticket?] at own
  | waiting other =>
      obtain rfl : other = ticket := by simpa [stands, LimitCaller.ticket?] using own
      refine ⟨one, inside, other, stands, fun there => ?_⟩
      obtain ⟨waiter, member, rfl⟩ := List.mem_map.mp there
      have same := books.line waiter member
      rw [stands] at same
      cases same
      have standing : waiter.ticket ∈ load.limit.line.tickets := List.mem_map_of_mem member
      simp [WaitLine.holds_iff.mpr standing] at missing

end Books

/-! ## Newcomers -/

/-- How many callers have not been polled yet. -/
def newcomers (load : LimitLoad) (total : Nat) : Nat :=
  weightOf total LimitCaller.newcomers load.phase

private theorem newcomers_le (load : LimitLoad) (total : Nat) : load.newcomers total ≤ total :=
  weightOf_le (fun phase => by cases phase <;> simp [LimitCaller.newcomers]) total load.phase

/-- Before all have come, those who come take the tokens that there are, and nobody has given one
back. So they meet, as far as there are tokens. -/
structure Filling (capacity total : Nat) (ready : List Nat) (load : LimitLoad) : Prop where
  early : 0 < load.newcomers total → (∀ caller ∈ ready, load.phase caller = .idle) ∧
    load.holders = min (total - load.newcomers total) capacity
  met : min (total - load.newcomers total) capacity ≤ load.peak

namespace Filling

variable {ready later : List Nat} {phase : LimitCaller}

private theorem of_late (late : next.newcomers total = 0) (met : min total capacity ≤ next.peak) :
    Filling capacity total ready next where
  early := fun early => absurd late (Nat.ne_of_gt early)
  met := by rwa [late, Nat.sub_zero]

private theorem late_of_ready (filling : Filling capacity total ready load)
    (member : caller ∈ ready) (stands : load.phase caller ≠ .idle) : load.newcomers total = 0 :=
  Nat.eq_zero_of_not_pos fun early => stands ((filling.early early).1 caller member)

/-- One of those who have not come yet comes, or all have come. -/
private theorem ask (filling : Filling capacity total ready load) (inside : caller < total)
    (member : caller ∈ ready) (asks : (load.phase caller).Asks held)
    (phases : next.phase = Function.update load.phase caller phase)
    (onward : phase.newcomers = 0) (fewer : ∀ one ∈ later, one ∈ ready ∧ one ≠ caller)
    (holders : next.holders = min (load.holders + 1) capacity)
    (holders_le : next.holders ≤ next.peak) (peak : load.peak ≤ next.peak) :
    Filling capacity total later next := by
  have coming := weightOf_update inside LimitCaller.newcomers load.phase phase
  rw [← phases, onward, asks.newcomers_eq] at coming
  change next.newcomers total + _ = load.newcomers total + 0 at coming
  have most_come := newcomers_le load total
  have met := filling.met
  by_cases late : load.newcomers total = 0
  · have still : next.newcomers total = 0 := by omega
    rw [late, Nat.sub_zero] at met
    exact .of_late still (Nat.le_trans met peak)
  · -- All who are ready are yet to come, so the caller is one of them.
    obtain ⟨idle, before⟩ := filling.early (Nat.pos_of_ne_zero late)
    have first : held = none := by
      rw [idle caller member] at asks
      cases asks
      rfl
    subst first
    simp only [Option.isNone_none, if_true] at coming
    have after : next.holders = min (total - next.newcomers total) capacity := by omega
    refine ⟨fun _ => ⟨fun one there => ?_, after⟩, after ▸ holders_le⟩
    obtain ⟨there, different⟩ := fewer one there
    rw [phases, Function.update_of_ne different]
    exact idle one there

end Filling

/-! ## Contests -/

/-- Something is left for a caller to do as soon as it is polled. -/
def Stirs (rota : Rota LimitLoad) (caller : Nat) : Prop :=
  match rota.state.phase caller with
  | .idle => True
  | .waiting _ => caller ∉ rota.state.wakers
  | .holding => caller ∉ rota.sleepers
  | .done _ => False

private theorem stirs_congr {rota polled : Rota LimitLoad}
    (stays : polled.state.phase caller = rota.state.phase caller)
    (line : caller ∈ polled.state.wakers ↔ caller ∈ rota.state.wakers)
    (asleep : caller ∈ polled.sleepers ↔ caller ∈ rota.sleepers) :
    Stirs polled caller ↔ Stirs rota caller := by
  unfold Stirs
  rw [stays]
  cases rota.state.phase caller with
  | idle | done result => rfl
  | waiting ticket => exact not_congr line
  | holding => exact not_congr asleep

structure Underway (capacity total most nap : Nat) (rota : Rota LimitLoad) : Prop where
  books : Books capacity total most rota.state
  filling : Filling capacity total rota.ready rota.state
  napping : rota.Napping nap
  ready : ∀ caller, caller ∈ rota.ready ↔ caller < total ∧ Stirs rota caller
  asleep : ∀ caller ∈ rota.sleepers, rota.state.phase caller = .holding

/-- How many polls and ticks a caller has yet to cause, those of its sleep apart. -/
def effort : LimitCaller → Nat
  | .idle | .waiting _ => 3
  | .holding => 1
  | .done _ => 0

private theorem effort_of_asks {phase : LimitCaller} (asks : phase.Asks held) :
    effort phase = 3 := by
  cases asks <;> rfl

/-- The most polls and ticks that may be left. -/
def left (total : Nat) (rota : Rota LimitLoad) : Nat :=
  weightOf total effort rota.state.phase + rota.ready.length + 2 * rota.sleepers.length

namespace Underway

variable {rota : Rota LimitLoad}

private theorem not_mem_wakers (underway : Underway capacity total most nap rota)
    (ready : caller ∈ rota.ready) : caller ∉ rota.state.wakers := by
  intro standing
  obtain ⟨ticket, waits⟩ := underway.books.waiting_of_mem_wakers standing
  have stirs := ((underway.ready caller).mp ready).2
  rw [Stirs, waits] at stirs
  exact stirs standing

private theorem not_mem_sleepers (underway : Underway capacity total most nap rota)
    (ready : caller ∈ rota.ready) : caller ∉ rota.sleepers := by
  intro sleeps
  have stirs := ((underway.ready caller).mp ready).2
  rw [Stirs, underway.asleep caller sleeps] at stirs
  exact stirs sleeps

private theorem asleep_of_awake {polled : Rota LimitLoad} {phase : LimitCaller}
    (underway : Underway capacity total most nap rota) (ready : caller ∈ rota.ready)
    (phases : polled.state.phase = Function.update rota.state.phase caller phase)
    (sleepers : polled.sleepers = rota.sleepers) :
    ∀ one ∈ polled.sleepers, polled.state.phase one = .holding := by
  intro one sleeps
  rw [sleepers] at sleeps
  have different : one ≠ caller := fun same => underway.not_mem_sleepers ready (same ▸ sleeps)
  rw [phases, Function.update_of_ne different]
  exact underway.asleep one sleeps

/-- Everyone who is polled asks for a token or gives one back. -/
private theorem asks_or_holding (underway : Underway capacity total most nap rota)
    (ready : caller ∈ rota.ready) :
    (∃ held, (rota.state.phase caller).Asks held) ∨ rota.state.phase caller = .holding := by
  have stirs := ((underway.ready caller).mp ready).2
  cases stands : rota.state.phase caller with
  | idle => exact .inl ⟨none, .first⟩
  | waiting ticket => exact .inl ⟨some ticket, .again ticket⟩
  | holding => exact .inr rfl
  | done result =>
      rw [Stirs, stands] at stirs
      exact stirs.elim

private theorem served (underway : Underway capacity total most (min work longestSleep) rota)
    (takes_time : 0 < work) (ready : caller ∈ rota.ready)
    (asks : (rota.state.phase caller).Asks held) (stocked : 0 < rota.state.limit.available) :
    Underway capacity total most (min work longestSleep) (rota.poll (behavior work) caller) ∧
      left total (rota.poll (behavior work) caller) < left total rota := by
  have inside := ((underway.ready caller).mp ready).1
  have outside := underway.not_mem_wakers ready
  have books := underway.books.served inside asks outside stocked
  have poll := Rota.polled_poll underway.napping.ready (behavior_of_stocked asks takes_time stocked)
  generalize rota.poll (behavior work) caller = polled at poll
  have phases : polled.state.phase = Function.update rota.state.phase caller .holding := by
    rw [poll.state]
    exact phase_setCaller (underway.books.size.symm ▸ inside) .holding
  have wakers : polled.state.wakers = rota.state.wakers := by
    rw [poll.state]
    exact underway.books.wakers_served asks outside
  have sleepers := poll.sleepers_of_asleep
  rw [← poll.state] at books
  refine ⟨?_, ?_⟩
  · constructor
    case books => exact books
    case filling =>
      refine underway.filling.ask inside ready asks phases rfl
        (fun one there => by simpa using (poll.mem_ready one).mp there) ?_ books.holders_le ?_
      · have tokens := underway.books.tokens
        rw [poll.state]
        change rota.state.holders + 1 = _
        omega
      · rw [poll.state]
        exact Nat.le_max_left _ _
    case napping => exact poll.napping_of_asleep underway.napping (underway.not_mem_sleepers ready)
    case ready =>
      refine poll.mem_ready_iff_of_nobody underway.ready ?_ fun one different => ?_
      · simp [Stirs, phases, sleepers]
      · simp [Stirs, phases, wakers, sleepers, different]
    case asleep =>
      intro one sleeps
      rw [sleepers, List.mem_append, List.mem_singleton] at sleeps
      rw [phases, Function.update_apply]
      split
      · rfl
      · next different => exact underway.asleep one (sleeps.resolve_right different)
  · have efforts := weightOf_update inside effort rota.state.phase .holding
    have lengths := poll.length_ready_le underway.napping.ready ready
    rw [effort_of_asks asks] at efforts
    simp only [effort] at efforts
    rw [left, left, phases, sleepers, List.length_append]
    simp only [List.length_nil, List.length_singleton] at lengths ⊢
    omega

private theorem queued (underway : Underway capacity total most nap rota)
    (ready : caller ∈ rota.ready)
    (asks : (rota.state.phase caller).Asks held) (spent : rota.state.limit.available = 0) :
    Underway capacity total most nap (rota.poll (behavior work) caller) ∧
      left total (rota.poll (behavior work) caller) < left total rota := by
  have inside := ((underway.ready caller).mp ready).1
  have outside := underway.not_mem_wakers ready
  have books := underway.books.queued inside asks outside spent
  have poll := Rota.polled_poll underway.napping.ready (@behavior_of_spent _ work _ _ asks spent)
  generalize rota.poll (behavior work) caller = polled at poll
  have phases : polled.state.phase = Function.update rota.state.phase caller
      (.waiting (rota.state.limit.line.park held caller).1) := by
    rw [poll.state]
    exact phase_setCaller (underway.books.size.symm ▸ inside) _
  have wakers : polled.state.wakers = rota.state.wakers ++ [caller] := by
    rw [poll.state]
    exact underway.books.wakers_queued asks outside
  have sleepers := poll.sleepers_of_awake (by simp)
  rw [← poll.state] at books
  refine ⟨?_, ?_⟩
  · constructor
    case books => exact books
    case filling =>
      refine underway.filling.ask inside ready asks phases rfl
        (fun one there => by simpa using (poll.mem_ready one).mp there) ?_ books.holders_le ?_
      · have tokens := underway.books.tokens
        rw [poll.state]
        change rota.state.holders = _
        omega
      · exact poll.state ▸ Nat.le_refl _
    case napping => exact poll.napping_of_awake underway.napping (by simp)
    case ready =>
      refine poll.mem_ready_iff_of_nobody underway.ready ?_ fun one different => ?_
      · simp [Stirs, phases, wakers]
      · simp [Stirs, phases, wakers, sleepers, different]
    case asleep => exact underway.asleep_of_awake ready phases sleepers
  · have efforts := weightOf_update inside effort rota.state.phase
      (.waiting (rota.state.limit.line.park held caller).1)
    have lengths := poll.length_ready_le underway.napping.ready ready
    rw [effort_of_asks asks] at efforts
    simp only [effort] at efforts
    rw [left, left, phases, sleepers]
    simp only [List.length_nil] at lengths
    omega

private theorem relieved (underway : Underway capacity total most nap rota)
    (ready : caller ∈ rota.ready) (holding : rota.state.phase caller = .holding) :
    Underway capacity total most nap (rota.poll (behavior work) caller) ∧
      left total (rota.poll (behavior work) caller) < left total rota := by
  have inside := ((underway.ready caller).mp ready).1
  have books := underway.books.relieved inside holding
  have lent : rota.state.limit.available < rota.state.limit.capacity := by
    have held : (rota.state.phase caller).tokens ≤ weightOf total LimitCaller.tokens
        rota.state.phase := le_weightOf inside
    rw [holding, ← underway.books.holders] at held
    have tokens := underway.books.tokens
    have bound := underway.books.bound
    simp only [LimitCaller.tokens] at held
    omega
  have poll := Rota.polled_poll underway.napping.ready (@behavior_of_holding _ work _ holding lent)
  generalize rota.poll (behavior work) caller = polled at poll
  have phases : polled.state.phase = Function.update rota.state.phase caller (.done (.ok ())) := by
    rw [poll.state]
    exact phase_setCaller (underway.books.size.symm ▸ inside) _
  have wakers : polled.state.wakers = rota.state.wakers.tail := by
    rw [poll.state]
    exact Books.wakers_relieved _ _
  have sleepers := poll.sleepers_of_awake (by simp)
  rw [← poll.state] at books
  have stands : rota.state.phase caller ≠ .idle := by simp [holding]
  have late := underway.filling.late_of_ready ready stands
  refine ⟨?_, ?_⟩
  · constructor
    case books => exact books
    case filling =>
      have coming := weightOf_update inside LimitCaller.newcomers rota.state.phase (.done (.ok ()))
      have met := underway.filling.met
      rw [holding, ← phases] at coming
      change polled.state.newcomers total + 0 = rota.state.newcomers total + 0 at coming
      rw [late, Nat.sub_zero] at met
      exact .of_late (by omega) (poll.state ▸ met)
    case napping => exact poll.napping_of_awake underway.napping (by simp)
    case ready =>
      have standing : ∀ one ∈ rota.state.wakers.head?.toList, one ∈ rota.state.wakers :=
        fun one front => List.mem_of_mem_head? (Option.mem_toList.mp front)
      have waits := fun one front => underway.books.waiting_of_mem_wakers (standing one front)
      refine poll.mem_ready_iff underway.ready ⟨fun front => ?_, ?_⟩ (fun one front => ?_) ?_
      · obtain ⟨ticket, waits⟩ := waits caller front
        rw [holding] at waits
        cases waits
      · simp [Stirs, phases]
      · exact underway.books.lt_of_mem_wakers (standing one front)
      · intro one different
        -- The one in front has left the line, and that is all that it was waiting for.
        have behind := mem_tail_iff underway.books.wakers_nodup one
        by_cases front : one ∈ rota.state.wakers.head?.toList
        · obtain ⟨ticket, waits⟩ := waits one front
          simp [Stirs, phases, wakers, different, waits, behind, front]
        · rw [or_iff_left front]
          refine stirs_congr ?_ ?_ ?_
          · rw [phases, Function.update_of_ne different]
          · rw [wakers, behind, and_iff_left front]
          · rw [sleepers]
    case asleep => exact underway.asleep_of_awake ready phases sleepers
  · have efforts := weightOf_update inside effort rota.state.phase (.done (.ok ()))
    have lengths := poll.length_ready_le underway.napping.ready ready
    have one_woken : rota.state.wakers.head?.toList.length ≤ 1 := by
      cases rota.state.wakers <;> simp
    rw [holding] at efforts
    simp only [effort] at efforts
    rw [left, left, phases, sleepers]
    omega

private theorem poll (underway : Underway capacity total most (min work longestSleep) rota)
    (takes_time : 0 < work) (ready : caller ∈ rota.ready) :
    Underway capacity total most (min work longestSleep) (rota.poll (behavior work) caller) ∧
      left total (rota.poll (behavior work) caller) < left total rota := by
  rcases underway.asks_or_holding ready with ⟨held, asks⟩ | holding
  · rcases Nat.eq_zero_or_pos rota.state.limit.available with spent | stocked
    · exact underway.queued ready asks spent
    · exact underway.served takes_time ready asks stocked
  · exact underway.relieved ready holding

/-- As long as somebody is yet to come the clock stands still. -/
private theorem late_of_idle (underway : Underway capacity total most nap rota)
    (idle : rota.ready = []) :
    rota.state.newcomers total = 0 := by
  refine weightOf_eq_zero fun one inside => ?_
  cases stands : rota.state.phase one with
  | waiting _ | holding | done _ => rfl
  | idle =>
      refine absurd ?_ (Rota.not_of_idle underway.ready idle inside)
      simp [Stirs, stands]

private theorem tick (underway : Underway capacity total most nap rota) (idle : rota.ready = [])
    (some : rota.asleep ≠ []) :
    Underway capacity total most nap rota.tick ∧ left total rota.tick < left total rota := by
  obtain ⟨napping, state, ready, sleepers⟩ := underway.napping.tick idle some
  have met := underway.filling.met
  rw [underway.late_of_idle idle, Nat.sub_zero] at met
  refine ⟨?_, ?_⟩
  · constructor
    case books => exact state ▸ underway.books
    case filling => exact state ▸ .of_late (underway.late_of_idle idle) met
    case napping => exact napping
    case ready =>
      intro one
      rw [ready]
      refine ⟨fun sleeps => ?_, fun ⟨inside, stirs⟩ => ?_⟩
      · have holding := underway.asleep one sleeps
        refine ⟨underway.books.size ▸ lt_size_of_phase (by simp [holding]), ?_⟩
        simp [Stirs, state, holding, sleepers]
      · -- Somebody else would have been ready before.
        by_contra awake
        refine Rota.not_of_idle underway.ready idle inside ((stirs_congr ?_ ?_ ?_).mp stirs)
        · rw [state]
        · rw [state]
        · simp [sleepers, awake]
    case asleep => simp [sleepers]
  · have present : rota.sleepers ≠ [] := fun none => some (List.map_eq_nil_iff.mp none)
    have many := List.length_pos_iff.mpr present
    rw [left, left, state, ready, sleepers, idle]
    simp only [List.length_nil]
    omega

end Underway

theorem underway_advances (takes_time : 0 < work) :
    Rota.Advances (behavior work) (fun count rota =>
      Underway capacity total most (min work longestSleep) rota ∧ left total rota = count) where
  polled := by
    rintro _ rota caller ⟨underway, rfl⟩ ready
    obtain ⟨next, fewer⟩ := underway.poll takes_time ready
    exact ⟨_, fewer, next, rfl⟩
  ticked := by
    rintro _ rota ⟨underway, rfl⟩ idle some
    obtain ⟨next, fewer⟩ := underway.tick idle some
    exact ⟨_, fewer, next, rfl⟩

/-! ## From the release to the end -/

/-- A limit between two rounds: all tokens are back, and nobody waits. -/
structure Quiet (capacity : Nat) (limit : Limit Nat) : Prop where
  bound : limit.capacity = capacity
  full : limit.available = capacity
  waiters : limit.line.waiters = []

/-- The load as its callers find it when they are released. -/
def released (load : LimitLoad) (total : Nat) : LimitLoad :=
  { load with callers := Array.replicate total .idle }

theorem phase_released (load : LimitLoad) (total caller : Nat) :
    (load.released total).phase caller = .idle :=
  getD_replicate total LimitCaller.idle caller

private theorem newcomers_released (load : LimitLoad) (total : Nat) :
    (load.released total).newcomers total = total := by
  have alike : ∀ one < total, ((load.released total).phase one).newcomers = 1 := fun one _ =>
    congrArg LimitCaller.newcomers (load.phase_released total one)
  rw [newcomers, weightOf_of_alike alike, Nat.mul_one]

private theorem books_released (quiet : Quiet capacity load.limit) (free : load.holders = 0)
    (peak : load.peak ≤ min total capacity) (drawn : load.limit.line.drawn + total ≤ most)
    (few : most < 2 ^ 64) : Books capacity total most (load.released total) := by
  have idle := load.phase_released total
  have nobody : picked total (fun _ => LimitCaller.ticket?) (load.released total).phase = [] :=
    List.filterMap_eq_nil_iff.mpr fun one _ => congrArg LimitCaller.ticket? (idle one)
  have line : load.limit.line.tickets = [] := by
    rw [WaitLine.tickets, quiet.waiters]
    rfl
  constructor
  case size => exact Array.size_replicate
  case few => exact few
  case bound => exact quiet.bound
  case tokens =>
    change load.limit.available + load.holders = capacity
    rw [quiet.full, free, Nat.add_zero]
  case holders =>
    refine free.trans (weightOf_eq_zero fun one _ => ?_).symm
    exact congrArg LimitCaller.tokens (idle one)
  case vigilant =>
    rw [nobody]
    refine ⟨⟨rfl, ?_, List.nodup_nil, by simp, ?_, ?_⟩, fun parked => absurd quiet.waiters parked⟩
    · change load.limit.line.drawn < 2 ^ 64
      omega
    · change load.limit.line.tickets.Nodup
      simp [line]
    · change ∀ ticket ∈ load.limit.line.tickets, _
      simp [line]
  case drawn =>
    change load.limit.line.drawn + (load.released total).newcomers total ≤ most
    rwa [newcomers_released]
  case line =>
    change ∀ waiter ∈ load.limit.line.waiters, _
    simp [quiet.waiters]
  case returned =>
    intro one result done
    rw [idle] at done
    cases done
  case holders_le => exact free.symm ▸ Nat.zero_le _
  case peak_le => exact peak

theorem underway_released (quiet : Quiet capacity load.limit) (free : load.holders = 0)
    (peak : load.peak ≤ min total capacity) (drawn : load.limit.line.drawn + total ≤ most)
    (few : most < 2 ^ 64) (now : Nat) :
    Underway capacity total most nap
      { now, state := load.released total, ready := List.range total } := by
  have idle := load.phase_released total
  constructor
  case books => exact books_released quiet free peak drawn few
  case filling =>
    refine ⟨fun _ => ⟨fun one _ => idle one, ?_⟩, ?_⟩
    all_goals rw [newcomers_released, Nat.sub_self, Nat.zero_min]
    · exact free
    · exact Nat.zero_le _
  case napping => exact Rota.napping_new _ _ _ List.nodup_range
  case ready => simp [Stirs, idle]
  case asleep => simp [Rota.sleepers]

/-- A contest that has come to rest is over. -/
theorem Underway.over {rota : Rota LimitLoad} (underway : Underway capacity total most nap rota)
    (stocked : 1 ≤ capacity) (idle : rota.ready = []) (awake : rota.asleep = []) :
    Quiet capacity rota.state.limit ∧ rota.state.holders = 0 ∧
      rota.state.peak = min total capacity ∧
      ∀ caller < total, rota.state.phase caller = .done (.ok ()) := by
  have still : ∀ one < total, ¬ Stirs rota one := fun _ =>
    Rota.not_of_idle underway.ready idle
  have free : rota.state.holders = 0 := by
    rw [underway.books.holders]
    refine weightOf_eq_zero fun one inside => ?_
    cases stands : rota.state.phase one with
    | idle | waiting ticket | done result => rfl
    | holding =>
        refine (still one inside ?_).elim
        simp [Stirs, stands, Rota.sleepers, awake]
  have full : rota.state.limit.available = capacity := by
    have tokens := underway.books.tokens
    rwa [free, Nat.add_zero] at tokens
  -- A line would have somebody in it who was woken, and is not done.
  have nobody : rota.state.wakers = [] := by
    refine List.eq_nil_iff_forall_not_mem.mpr fun one standing => ?_
    obtain ⟨other, inside, ticket, waits, woken⟩ :=
      underway.books.exists_woken (full.symm ▸ stocked) standing
    exact still other inside (by simpa [Stirs, waits] using woken)
  refine ⟨⟨underway.books.bound, full, List.map_eq_nil_iff.mp nobody⟩, free, ?_, ?_⟩
  · have met := underway.filling.met
    rw [underway.late_of_idle idle, Nat.sub_zero] at met
    exact Nat.le_antisymm underway.books.peak_le met
  · intro one inside
    cases stands : rota.state.phase one with
    | idle | waiting ticket | holding =>
        refine (still one inside ?_).elim
        simp [Stirs, stands, nobody, Rota.sleepers, awake]
    | done result => rw [underway.books.returned one result stands]

end Cohort.LimitLoad
