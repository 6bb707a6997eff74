import Mathlib.Data.List.Induction
import Cohort.Proofs.Session.Scripts
import Cohort.Proofs.Session.Weights
import Cohort.Proofs.Table

/-!
# Sessions act

Whatever every act keeps, for the stakes it uses among any others, a session keeps: no
matter what scripts its tasks run, how their polls and drops are ordered, and what else
is asked of it.
-/

set_option autoImplicit false

namespace Cohort

/-- The task has been taken out of the queue to be polled, so nobody needs to wake it. -/
def Post.excuse (task : String) (post : Post) : Post :=
  if post.task = some task then { post with task := none } else post

/-- What holds of a bench and of all posts at its objects, whatever is done. -/
structure Bench.Kept (Holds : List Post → Bench → Prop) : Prop where
  new : Holds [] {}
  perm : ∀ {here others bench}, here.Perm others → Holds here bench → Holds others bench
  report : ∀ {here bench} (events : List Event), Holds here bench →
    Holds here { bench with events }
  queue : ∀ {here bench} (task : String), Holds here bench →
    Holds (⟨some task, .turn⟩ :: here) (bench.enqueue task)
  unqueue : ∀ {here bench} (task : String), Holds here bench →
    Holds (here.map (Post.excuse task)) { bench with ready := bench.ready.erase task }
  act : ∀ {waker used bench gained next others},
    Bench.Act waker (used.map Post.stake) bench gained next → Holds (used ++ others) bench →
    Holds (posts (some waker.task) gained ++ others) next

theorem Bench.Kept.acts {Holds : List Post → Bench → Prop} (kept : Bench.Kept Holds)
    {waker : Waker} {before left others : List Post} {bench last : Bench}
    (acts : Bench.Acts waker before bench left last) (holds : Holds (before ++ others) bench) :
    Holds (left ++ others) last := by
  induction acts with
  | done perm => exact kept.perm (perm.append_right others) holds
  | act split act _ ih =>
      apply ih
      rw [List.append_assoc]
      apply kept.act act
      rw [← List.append_assoc]
      exact kept.perm (split.append_right others) holds

/-- What holds of a bench and of all stakes, no matter whom they are posted for. -/
structure Bench.KeptForAll (Holds : List Stake → Bench → Prop) : Prop where
  new : Holds [] {}
  perm : ∀ {stakes others bench}, stakes.Perm others → Holds stakes bench → Holds others bench
  /-- Neither the queue of tasks nor the reports matter. -/
  book : ∀ {stakes bench} (ready : List String) (events : List Event), Holds stakes bench →
    Holds stakes { bench with ready, events }
  act : ∀ {waker used bench gained next others}, Bench.Act waker used bench gained next →
    Holds (used ++ others) bench → Holds (gained ++ others) next

private theorem Post.map_stake_excuse (task : String) (here : List Post) :
    (here.map (Post.excuse task)).map Post.stake = here.map Post.stake := by
  rw [List.map_map]
  refine List.map_congr_left fun post _ => ?_
  simp only [Function.comp_apply, Post.excuse]
  split <;> rfl

theorem Bench.KeptForAll.kept {Holds : List Stake → Bench → Prop}
    (kept : Bench.KeptForAll Holds) :
    Bench.Kept (fun here bench => Holds (here.map Post.stake) bench) where
  new := kept.new
  perm := fun same => kept.perm (same.map _)
  report := fun events => kept.book _ events
  queue := by
    intro here bench task holds
    -- But for the report, a task is queued as it is woken.
    have woken : Holds ([.turn] ++ here.map Post.stake) (bench.wake ⟨task, task⟩) :=
      kept.act .wake holds
    have queued := kept.book (bench.enqueue task).ready bench.events woken
    simp only [wake, emit, enqueue] at queued ⊢
    split at queued <;> simpa [*] using queued
  unqueue := by
    intro here bench task holds
    rw [Post.map_stake_excuse]
    exact kept.book _ bench.events holds
  act := by
    intro waker used bench gained next others act holds
    rw [List.map_append] at holds
    rw [List.map_append, map_stake_posts]
    exact kept.act act holds

namespace Task

def stakes : Task → List Stake
  | .fresh _ => [.turn]
  | .suspended frame => frame.stakes

/-- Polls a task, whether it has started or not. -/
def poll (waker : Waker) (name : String) : Task → Bench → Poll × Bench
  | .fresh script, bench => startScript waker name script bench
  | .suspended frame, bench => frame.poll waker bench

theorem acts_poll (waker : Waker) (name : String) (task : Task) (bench : Bench) :
    Bench.Acts waker (posts none task.stakes) bench
      (posts (some waker.task) (task.poll waker name bench).1.stakes)
      (task.poll waker name bench).2 := by
  cases task with
  | fresh script =>
      have came : Bench.Acts waker (posts none [.turn]) bench [] bench := .of_act .turn none
      exact came.trans (Bench.acts_startScript waker name script bench)
  | suspended frame => exact Bench.acts_pollFrame waker frame bench

theorem spends_poll (waker : Waker) (name : String) (task : Task) (bench : Bench) :
    bench.Spends (task.poll waker name bench).2 task.weight (task.poll waker name bench).1.weight ∧
      (task.poll waker name bench).1.Waits := by
  cases task with
  | fresh script =>
      have lighter := lighter_startScript waker name script bench
      exact ⟨Or.inl (Nat.lt_succ_of_lt lighter.weight_lt), lighter.waits⟩
  | suspended frame => exact spends_pollFrame waker frame bench

end Task

/-- A task that was polled stands among the others again if it is suspended. -/
def Poll.rejoin (poll : Poll) (name : String) (tasks : Table String Task) : Table String Task :=
  match poll with
  | .pending frame => tasks.insert name (.suspended frame)
  | .ready _ | .faulted _ => tasks

/-- Tasks have different names, and those that are suspended wait for something. -/
structure Orderly (tasks : Table String Task) : Prop where
  apart : tasks.keys.Nodup
  waiting : ∀ name frame, tasks.find? name = some (.suspended frame) → frame.Waits

namespace Orderly

variable {tasks : Table String Task}

theorem erase (orderly : Orderly tasks) (name : String) : Orderly (tasks.erase name) where
  apart := Table.nodup_keys_erase orderly.apart name
  waiting := by
    intro other frame found
    by_cases same : other = name
    · subst same
      rw [Table.find?_erase_self] at found
      cases found
    · rw [Table.find?_erase_of_ne _ same] at found
      exact orderly.waiting other frame found

private theorem insert (orderly : Orderly tasks) (name : String) {task : Task}
    (waits : ∀ frame, task = .suspended frame → frame.Waits) :
    Orderly (tasks.insert name task) where
  apart := Table.nodup_keys_insert orderly.apart name task
  waiting := by
    intro other frame found
    rw [Table.find?_insert] at found
    split at found
    · exact waits frame (Option.some.inj found)
    · exact orderly.waiting other frame found

theorem rejoin (orderly : Orderly tasks) (name : String) {poll : Poll} (waits : poll.Waits) :
    Orderly (poll.rejoin name tasks) := by
  cases poll with
  | pending frame =>
      refine orderly.insert name fun own same => ?_
      cases same
      exact waits
  | ready _ | faulted _ => exact orderly

end Orderly

namespace Session

/-- The bench as a task finds it that is polled. -/
def benchFor (session : Session) (name : String) : Bench :=
  { session.bench with ready := session.bench.ready.erase name }

theorem pollTask_of_find? {session : Session} {name : String} {task : Task}
    (found : session.tasks.find? name = some task) (label : String) :
    session.pollTask name label =
      (some (task.poll ⟨name, label⟩ name (session.benchFor name)).1.polled,
        { session with
          bench := (task.poll ⟨name, label⟩ name (session.benchFor name)).2
          tasks := (task.poll ⟨name, label⟩ name (session.benchFor name)).1.rejoin name
            (session.tasks.erase name) }) := by
  unfold Session.pollTask
  rw [found]
  cases task <;> rfl

theorem pollTask_of_absent {session : Session} {name : String}
    (absent : session.tasks.find? name = none) (label : String) :
    session.pollTask name label = (none, session) := by
  unfold Session.pollTask
  rw [absent]

def tasksPosts (tasks : Table String Task) : List Post :=
  tasks.entries.flatMap (fun entry => posts (some entry.1) entry.2.stakes)

/-- All posts of a session. Nobody waits for what the session holds itself. -/
def posts (session : Session) : List Post :=
  tasksPosts session.tasks ++ Cohort.posts none (session.guards.map Guard.stake)

/-- Everything that is at stake in a session. -/
def stakes (session : Session) : List Stake :=
  session.tasks.entries.flatMap (fun entry => entry.2.stakes) ++ session.guards.map Guard.stake

theorem map_stake_posts (session : Session) : session.posts.map Post.stake = session.stakes := by
  rw [posts, List.map_append, Cohort.map_stake_posts, tasksPosts, List.map_flatMap]
  simp only [Cohort.map_stake_posts]
  rfl

private theorem tasksPosts_erase {tasks : Table String Task} {name : String} {task : Task}
    (apart : tasks.keys.Nodup) (found : tasks.find? name = some task) :
    (tasksPosts tasks).Perm
      (Cohort.posts (some name) task.stakes ++ tasksPosts (tasks.erase name)) :=
  (Table.entries_perm_of_find? apart found).flatMap_right _

private theorem tasksPosts_insert {tasks : Table String Task} {name : String}
    (absent : tasks.find? name = none) (task : Task) :
    (tasksPosts (tasks.insert name task)).Perm
      (Cohort.posts (some name) task.stakes ++ tasksPosts tasks) := by
  simp only [tasksPosts]
  rw [Table.entries_insert_of_find?_eq_none absent, List.flatMap_append]
  simpa using List.perm_append_comm

private theorem excuse_posts (name : String) (stakes : List Stake) :
    (Cohort.posts (some name) stakes).map (Post.excuse name) = Cohort.posts none stakes := by
  rw [Cohort.posts, List.map_map]
  refine List.map_congr_left fun stake _ => ?_
  cases waits : stake.waits <;> simp [Post.excuse, Stake.post, waits]

/-- Whoever waits for somebody else is not excused. -/
private theorem excuse_posts_of_ne {name : String} {task : Option String}
    (different : task ≠ some name) (stakes : List Stake) :
    (Cohort.posts task stakes).map (Post.excuse name) = Cohort.posts task stakes := by
  rw [Cohort.posts, List.map_map]
  refine List.map_congr_left fun stake _ => ?_
  cases waits : stake.waits <;> simp [Post.excuse, Stake.post, waits, different]

private theorem excuse_tasksPosts {tasks : Table String Task} {name : String}
    (absent : tasks.find? name = none) :
    (tasksPosts tasks).map (Post.excuse name) = tasksPosts tasks := by
  simp only [tasksPosts, List.map_flatMap]
  refine List.flatMap_congr fun entry member => ?_
  refine excuse_posts_of_ne (fun same => ?_) entry.2.stakes
  exact Table.find?_eq_none_iff.mp absent (Option.some.inj same ▸ List.mem_map_of_mem member)

private theorem excuse_guards (name : String) (guards : List Guard) :
    (Cohort.posts none (guards.map Guard.stake)).map (Post.excuse name) =
      Cohort.posts none (guards.map Guard.stake) :=
  excuse_posts_of_ne (by simp) _

/-- What holds of benches and posts holds of the session. -/
structure Meets (Holds : List Post → Bench → Prop) (session : Session) : Prop where
  tasks : Orderly session.tasks
  holds : Holds session.posts session.bench

variable {Holds : List Post → Bench → Prop} {session : Session}

/-- A task that is dropped stands apart from the others. -/
private theorem Meets.split (kept : Bench.Kept Holds) (meets : session.Meets Holds) {name : String}
    {task : Task} (found : session.tasks.find? name = some task) :
    Holds (Cohort.posts (some name) task.stakes ++ (tasksPosts (session.tasks.erase name) ++
      Cohort.posts none (session.guards.map Guard.stake))) session.bench := by
  refine kept.perm ?_ meets.holds
  rw [← List.append_assoc]
  exact (tasksPosts_erase meets.tasks.apart found).append_right _

/-- A task that is polled is out of the queue, and all that it waits for is due. -/
theorem Meets.due (kept : Bench.Kept Holds) (meets : session.Meets Holds) {name : String}
    {task : Task} (found : session.tasks.find? name = some task) :
    Holds (Cohort.posts none task.stakes ++ (tasksPosts (session.tasks.erase name) ++
      Cohort.posts none (session.guards.map Guard.stake)))
      (session.benchFor name) := by
  have excused := kept.unqueue name (meets.split kept found)
  rwa [List.map_append, List.map_append, excuse_posts, excuse_guards,
    excuse_tasksPosts (Table.find?_erase_self session.tasks name)] at excused

private theorem meets_rejoin (kept : Bench.Kept Holds) {log : Bool} {tasks : Table String Task}
    {guards : List Guard} {name : String} (orderly : Orderly tasks)
    (absent : tasks.find? name = none) {poll : Poll} (waits : poll.Waits) {bench : Bench}
    (holds : Holds (Cohort.posts (some name) poll.stakes ++
      (tasksPosts tasks ++ Cohort.posts none (guards.map Guard.stake))) bench) :
    Meets Holds { log, bench, guards, tasks := poll.rejoin name tasks } := by
  refine ⟨orderly.rejoin name waits, ?_⟩
  cases poll with
  | ready outcome => exact holds
  | faulted fault => exact holds
  | pending frame =>
      refine kept.perm ?_ holds
      rw [← List.append_assoc]
      exact (tasksPosts_insert absent (.suspended frame)).symm.append_right _

theorem Meets.pollTask (kept : Bench.Kept Holds) (meets : session.Meets Holds)
    (name label : String) : (session.pollTask name label).2.Meets Holds := by
  cases found : session.tasks.find? name with
  | none =>
      rw [pollTask_of_absent found]
      exact meets
  | some task =>
      have acts := task.acts_poll ⟨name, label⟩ name (session.benchFor name)
      obtain ⟨_, waits⟩ := task.spends_poll ⟨name, label⟩ name (session.benchFor name)
      rw [pollTask_of_find? found]
      exact meets_rejoin kept (meets.tasks.erase name) (Table.find?_erase_self session.tasks name)
        waits (kept.acts acts (meets.due kept found))

private theorem Meets.report (kept : Bench.Kept Holds) (meets : session.Meets Holds)
    (events : List Event) :
    Meets Holds { session with bench := { session.bench with events } } :=
  ⟨meets.tasks, kept.report events meets.holds⟩

/-- A name without a task leaves the queue and nothing else happens. -/
private theorem Meets.skip (kept : Bench.Kept Holds) (meets : session.Meets Holds) {name : String}
    {rest : List String} (first : session.bench.ready = name :: rest)
    (absent : session.tasks.find? name = none) :
    Meets Holds { session with bench := { session.bench with ready := rest } } := by
  have skipped := kept.unqueue name meets.holds
  rw [first, List.erase_cons_head, posts, List.map_append, excuse_tasksPosts absent,
    excuse_guards] at skipped
  exact ⟨meets.tasks, skipped⟩

theorem pollTask_eq_none {name label : String} {changed : Session}
    (nobody : session.pollTask name label = (none, changed)) :
    session.tasks.find? name = none ∧ changed = session := by
  cases found : session.tasks.find? name with
  | none =>
      rw [pollTask_of_absent found] at nobody
      exact ⟨rfl, (Prod.mk.inj nobody).2.symm⟩
  | some task =>
      rw [pollTask_of_find? found] at nobody
      cases nobody

/-! ## Runs of the queue -/

theorem runFor_of_idle (idle : session.bench.ready = []) (budget : Nat) :
    session.runFor budget = (some 0, session) := by
  unfold Session.runFor
  rw [idle]

private theorem runFor_zero {name : String} {rest : List String}
    (first : session.bench.ready = name :: rest) : session.runFor 0 = (none, session) := by
  unfold Session.runFor
  rw [first]

theorem runFor_skip {name : String} {rest : List String}
    (first : session.bench.ready = name :: rest) (absent : session.tasks.find? name = none)
    (budget : Nat) :
    session.runFor (budget + 1) =
      Session.runFor budget { session with bench := { session.bench with ready := rest } } := by
  conv_lhs => unfold Session.runFor
  rw [first]
  dsimp only
  rw [pollTask_of_absent absent]

theorem runFor_poll {name : String} {rest : List String} {polled : Polled} {next : Session}
    (first : session.bench.ready = name :: rest)
    (polls : session.pollTask name name = (some polled, next)) (budget : Nat) :
    session.runFor (budget + 1) =
      ((Session.runFor budget { next with bench := next.bench.emit (.polled name polled) }).1.map
          (· + 1),
        (Session.runFor budget
          { next with bench := next.bench.emit (.polled name polled) }).2) := by
  conv_lhs => unfold Session.runFor
  rw [first]
  dsimp only
  rw [polls]

theorem Meets.runFor (kept : Bench.Kept Holds) (budget : Nat) {session : Session}
    (meets : session.Meets Holds) : (session.runFor budget).2.Meets Holds := by
  induction budget generalizing session with
  | zero =>
      cases queued : session.bench.ready with
      | nil => exact (runFor_of_idle queued 0).symm ▸ meets
      | cons name rest => exact (runFor_zero queued).symm ▸ meets
  | succ budget ih =>
      cases queued : session.bench.ready with
      | nil => exact (runFor_of_idle queued (budget + 1)).symm ▸ meets
      | cons name rest =>
          have polled := meets.pollTask kept name name
          cases polls : session.pollTask name name with
          | mk answer changed =>
              rw [polls] at polled
              cases answer with
              | none =>
                  obtain ⟨absent, _⟩ := pollTask_eq_none polls
                  rw [runFor_skip queued absent]
                  exact ih (meets.skip kept queued absent)
              | some answer =>
                  rw [runFor_poll queued polls]
                  exact ih (polled.report kept _)

private theorem Meets.dropTask (kept : Bench.Kept Holds) (meets : session.Meets Holds)
    (name : String) :
    (session.dropTask name).2.Meets Holds := by
  unfold Session.dropTask
  cases found : session.tasks.find? name with
  | none => exact meets
  | some task =>
      have before := meets.split kept found
      have left := meets.tasks.erase name
      cases task with
      | fresh script =>
          have dropped : Bench.Acts ⟨name, name⟩ (Cohort.posts (some name) [.turn]) session.bench
              [] session.bench := .of_act .turn (some name)
          have after := kept.acts dropped before
          exact ⟨left, after⟩
      | suspended frame =>
          have dropped : Bench.Acts ⟨name, name⟩ _ session.bench [] _ :=
            Bench.acts_dropFrame (some name) frame session.bench
          have after := kept.acts dropped before
          exact ⟨left, after⟩

/-- What the session does without polling a task has no waker, and only the guards of the
session at stake. -/
private theorem Meets.acts (kept : Bench.Kept Holds) (meets : session.Meets Holds)
    {guards : List Guard} {bench : Bench}
    (acts : ∀ waker, Bench.Acts waker (Cohort.posts none (session.guards.map Guard.stake))
      session.bench (Cohort.posts none (guards.map Guard.stake)) bench) :
    Meets Holds { session with bench, guards } := by
  refine ⟨meets.tasks, kept.perm List.perm_append_comm (kept.acts (acts ⟨"", ""⟩) ?_)⟩
  exact kept.perm List.perm_append_comm meets.holds

private theorem Meets.tryGuard (kept : Bench.Kept Holds) (meets : session.Meets Holds)
    (limit guard : String) : (session.tryGuard limit guard).2.Meets Holds := by
  have tried (waker : Waker) : Bench.Acts waker _ session.bench _ _ :=
    (Bench.acts_tryGuard session.bench limit guard).frame
      (Cohort.posts none (session.guards.map Guard.stake))
  unfold Session.tryGuard
  cases same : session.bench.tryGuard limit guard with
  | mk result changed =>
      rw [same] at tried
      cases result with
      | error fault => exact meets.acts kept tried
      | ok taken =>
          cases taken with
          | none => exact meets.acts kept tried
          | some held =>
              -- The new guard is held already while the old one of its name is released.
              have dropped (waker : Waker) : Bench.Acts waker _ changed _ _ :=
                (Bench.acts_dropGuard none guard session.guards changed).frame
                  (Cohort.posts none [held.stake])
              refine meets.acts kept fun waker => ((tried waker).trans
                ((dropped waker).of_perm (List.perm_append_singleton _ _).symm)).to_perm (.of_eq ?_)
              simp

private theorem Meets.spawn (kept : Bench.Kept Holds) (meets : session.Meets Holds) {name : String}
    (absent : session.tasks.find? name = none) (script : List Step) :
    Meets Holds
      { session with
        bench := session.bench.enqueue name
        tasks := session.tasks.insert name (.fresh script) } :=
  ⟨meets.tasks.insert name (fun _ same => by cases same),
    kept.perm ((tasksPosts_insert absent (.fresh script)).symm.append_right _)
      (kept.queue name meets.holds)⟩

private theorem Meets.respond (kept : Bench.Kept Holds) (meets : session.Meets Holds)
    (instruction : Instruction) : (session.respond instruction).2.Meets Holds := by
  cases instruction with
  | spawn name script =>
      simp only [Session.respond]
      split
      · exact meets
      · next absent =>
          rw [Table.contains_eq_isSome, Option.not_isSome_iff_eq_none] at absent
          exact meets.spawn kept absent script
  | poll name label =>
      have polled := meets.pollTask kept name label
      simp only [Session.respond]
      cases same : session.pollTask name label with
      | mk answer changed =>
          rw [same] at polled
          cases answer with
          | none => exact polled
          | some answer => exact polled
  | drop name => exact meets.dropTask kept name
  | run =>
      have ran := meets.runFor kept session.budget
      simp only [Session.respond]
      cases same : session.runFor session.budget with
      | mk polls changed =>
          rw [same] at ran
          cases polls with
          | none => exact ran
          | some polls => exact ran
  | tryGuard limit guard =>
      have tried := meets.tryGuard kept limit guard
      simp only [Session.respond]
      cases same : session.tryGuard limit guard with
      | mk result changed =>
          rw [same] at tried
          cases result with
          | error fault => exact tried
          | ok taken => exact tried
  | dropGuard guard =>
      exact meets.acts kept (fun _ => Bench.acts_dropGuard none guard session.guards session.bench)
  | act action =>
      have acted := meets.acts kept (fun waker => (Bench.acts_perform session.bench action).frame
        (Cohort.posts none (session.guards.map Guard.stake)))
      simp only [Session.respond]
      cases same : session.bench.perform action with
      | mk result changed =>
          rw [same] at acted
          cases result with
          | error fault => exact acted
          | ok reply => exact acted

def run (log : Bool) (instructions : List Instruction) : Session :=
  instructions.foldl (fun session instruction => (session.execute instruction).2.2) { log }

theorem meets_run (kept : Bench.Kept Holds) (log : Bool) (instructions : List Instruction) :
    (run log instructions).Meets Holds := by
  induction instructions using List.reverseRecOn with
  | nil => exact ⟨⟨List.nodup_nil, fun _ _ found => by cases found⟩, kept.new⟩
  | append_singleton instructions instruction ih =>
      have responded := ih.respond kept instruction
      simp only [run, List.foldl_append, List.foldl_cons, List.foldl_nil]
      exact responded.report kept []

theorem holds_run {Holds : List Stake → Bench → Prop} (kept : Bench.KeptForAll Holds)
    (log : Bool) (instructions : List Instruction) :
    Holds (run log instructions).stakes (run log instructions).bench := by
  have meets := (meets_run kept.kept log instructions).holds
  rwa [map_stake_posts] at meets

end Session

end Cohort
