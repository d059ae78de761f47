import SqlShell.Proofs.Session.SessionUse
import SqlShell.Proofs.Shutdown.Registration
import SqlShell.Session.Opening

/-! How a session comes to be open: until its connection is made nothing has touched a session, and
once it is made nothing can fail any more.
-/

namespace SqlShell.Lifetime

open Act

/-- The only executor of the job has no session, no hook is there, and the given events have touched
sessions.
-/
structure Before (start : Job) (events : List Event) (job : Job) : Prop where
  database_eq : job.database = start.database
  events_eq : job.sessionEvents = events
  statements_eq : job.statements = start.statements
  hooks_eq : job.hooks = []
  registered : job.standard.hooks = []
  executor : ∃ executor, job.executors = [executor] ∧ executor.sessions = []

/-- No connection has been made. -/
structure Idle (start : Job) (job : Job) : Prop extends Before start [] job where
  connections_eq : job.connections = start.connections

/-- The session is open, but no hook guards it yet. -/
structure Unguarded (start : Job) (session : Session) (job : Job) : Prop
    extends Opened start session job where
  hooks_eq : job.hooks = []
  registered : job.standard.hooks = []
  statements_eq : job.statements = start.statements

variable {start : Job}

/-- What is known before the session is opened is known of the core of the state. -/
theorem Before.of_core {events : List Event} {job after : Job} (hc : after.core = job.core)
    (h : Before start events job)
    : Before start events after where
  database_eq := (Job.database_of_core hc).trans h.database_eq
  events_eq := (Job.sessionEvents_of_core hc).trans h.events_eq
  statements_eq := (Job.statements_of_core hc).trans h.statements_eq
  hooks_eq := (Job.hooks_of_core hc).trans h.hooks_eq
  registered := Job.standard_of_core hc ▸ h.registered
  executor := Job.executors_of_core hc ▸ h.executor

/-- Whether a connection has been made is known of the core of the state. -/
theorem Idle.of_core {job after : Job} (hc : after.core = job.core) (h : Idle start job)
    : Idle start after :=
  ⟨h.toBefore.of_core hc, (Job.connections_of_core hc).trans h.connections_eq⟩

/-- An act that keeps the core makes no connection. -/
theorem preserves_idle {α : Type} {act : Act α} (h : KeepsCore act) : Preserves (Idle start) act :=
  h.preserves fun _ _ => Idle.of_core

-----------------------------------------------------------------------------------------
-- The executor
-----------------------------------------------------------------------------------------

/-- The only executor is the one with the number zero. -/
theorem withNumber_zero {job : Job} {executor : LocalExecutor} (h : job.executors = [executor])
    : LocalExecutor.withNumber 0 job = (.ok executor, job) := by
  show (Except.ok ((job.executors[0]?).getD ({} : LocalExecutor)), job) = _
  rw [h]
  rfl

/-- Putting an executor without sessions in the place of the only one makes no connection. -/
theorem preserves_idle_replace {executor : LocalExecutor} (hs : executor.sessions = [])
    : Preserves (Idle start) (LocalExecutor.replace 0 executor) := by
  intro job h
  obtain ⟨old, ho, _⟩ := h.executor
  refine { h with executor := ⟨executor, ?_, hs⟩ }
  show job.executors.set 0 executor = _
  rw [ho]
  rfl

/-- Starting the only executor makes no connection. -/
theorem preserves_idle_start : Preserves (Idle start) (LocalExecutor.start 0) := by
  intro job h
  obtain ⟨executor, he, hs⟩ := h.executor
  rw [LocalExecutor.start, bind_of_ok (withNumber_zero he)]
  refine Preserves.bind .state (fun seen => ?_) job h
  refine (Preserves.ofResult _).bind fun dependencies => ?_
  refine (Preserves.forEach fun path _ => preserves_idle (.log _ _)).bind fun _ => ?_
  refine (Preserves.ofResult _).bind fun base => ?_
  have hbase : Preserves (Idle start) (LocalExecutor.replace 0 { executor with base }) :=
    preserves_idle_replace hs
  refine hbase.bind fun _ => (Preserves.ofResult _).bind fun defaults => ?_
  cases defaults with
  | none =>
      refine Preserves.bind (preserves_idle_replace ?_) fun _ => .pure dependencies
      exact hs
  | some locator =>
      refine (preserves_idle (.log _ _)).bind fun _ => (Preserves.ofResult _).bind fun initial => ?_
      refine Preserves.bind (preserves_idle_replace ?_) fun _ => .pure dependencies
      exact hs

-----------------------------------------------------------------------------------------
-- The connection
-----------------------------------------------------------------------------------------

/-- An attempt to connect makes no connection, or it makes the one with the first number. -/
theorem connect_idle {job : Job} (h : Idle start job) (database : String)
    : (∃ fault, (LocalExecutor.connect database job).1 = .error fault
        ∧ Idle start (LocalExecutor.connect database job).2)
      ∨ (LocalExecutor.connect database job).1 = .ok (connection start)
        ∧ Before start [.connect database (some (connection start))]
          (LocalExecutor.connect database job).2 := by
  generalize hj : ({ job with attempts := job.attempts + 1 } : Job) = tried
  have hidle : Idle start tried := by
    rw [← hj]
    exact { h with }
  rw [LocalExecutor.connect, state_bind, change_bind, hj]
  cases job.database.connecting job.attempts database with
  | some fault => exact Or.inl ⟨fault, rfl, hidle.of_core (Job.core_note rfl)⟩
  | none =>
      rw [h.connections_eq]
      refine Or.inr ⟨rfl, ?_⟩
      refine { hidle.toBefore with events_eq := ?_ }
      show (tried.note (.connect database (some (connection start)))).sessionEvents = _
      rw [Job.sessionEvents_note rfl, hidle.events_eq]
      rfl

-----------------------------------------------------------------------------------------
-- The session
-----------------------------------------------------------------------------------------

variable {α β : Type}

/-- What comes of opening a session: the session of the result is open, or no connection has been
made.
-/
def OpensOrIdle (start : Job) (session : α → Session) (result : Except Fault α) (job : Job)
    : Prop :=
  match result with
  | .ok value => Unguarded start (session value) job
  | .error _ => Idle start job

/-- An open session without a hook stays so while the core of the state is the same. -/
theorem Unguarded.of_core {session : Session} {job after : Job} (hc : after.core = job.core)
    (h : Unguarded start session job)
    : Unguarded start session after where
  toOpened := h.toOpened.of_core hc
  hooks_eq := (Job.hooks_of_core hc).trans h.hooks_eq
  registered := Job.standard_of_core hc ▸ h.registered
  statements_eq := (Job.statements_of_core hc).trans h.statements_eq

/-- Acts that make no connection come before the opening of a session. -/
theorem opensOrIdle_bind {session : β → Session} {act : Act α} {next : α → Act β}
    (h : Preserves (Idle start) act)
    (hn : ∀ value job, Idle start job →
      OpensOrIdle start session (next value job).1 (next value job).2)
    {job : Job} (hi : Idle start job)
    : OpensOrIdle start session ((act >>= next) job).1 ((act >>= next) job).2 :=
  h.bind_end (Q := OpensOrIdle start session) (fun _ _ hidle => hidle) hn hi

/-- What follows the connection opens the session; a failure of the database to connect is told as
one of the executor, and makes no connection either.
-/
theorem opensOrIdle_connect {session : β → Session} {job : Job} (database : String)
    {told : Fault → Fault} {next : Nat → Act β}
    (hn : ∀ job, Before start [.connect database (some (connection start))] job →
      OpensOrIdle start session (next (connection start) job).1 (next (connection start) job).2)
    (h : Idle start job)
    : OpensOrIdle start session
        (((LocalExecutor.connect database).rescue (·.isDatabase) (fun fault => fail (told fault))
          >>= next) job).1
        (((LocalExecutor.connect database).rescue (·.isDatabase) (fun fault => fail (told fault))
          >>= next) job).2 := by
  rcases connect_idle h database with ⟨fault, he, hi⟩ | ⟨he, hb⟩
  · cases hk : fault.kind.isDatabase with
    | true =>
        rw [bind_of_error (by rw [rescue_of_handled he hk]; rfl), rescue_of_handled he hk]
        exact hi
    | false =>
        rw [bind_of_error (by rw [rescue_of_not_handled he hk, he]), rescue_of_not_handled he hk]
        exact hi
  · rw [bind_of_ok ((rescue_of_ok he).trans (Prod.ext he rfl))]
    exact hn _ hb

/-- The only executor has an open session once its connection is in its list of sessions. -/
theorem unguarded_replace {job : Job} {database handle : String} {executor : LocalExecutor}
    {own : LocalSession} (hs : executor.sessions = []) (hc : own.connection = connection start)
    (h : Before start [.connect database (some (connection start))] job)
    : Unguarded start { handle, executor := .here 0 }
        (LocalExecutor.replace 0
          { executor with sessions := executor.sessions ++ [(handle, own)] } job).2 := by
  obtain ⟨old, ho, _⟩ := h.executor
  have hset : job.executors.set 0
      { executor with sessions := executor.sessions ++ [(handle, own)] } =
        [{ executor with sessions := [(handle, own)] }] := by
    rw [ho, hs]
    rfl
  refine ⟨⟨h.database_eq, ⟨database, [], h.events_eq, h.statements_eq⟩, rfl,
    ⟨_, own, hset, rfl, hc⟩, ?_⟩, h.hooks_eq, h.registered, h.statements_eq⟩
  intro hook hm
  have hnone : job.hooks = [] := h.hooks_eq
  change hook ∈ job.hooks at hm
  rw [hnone] at hm
  exact absurd hm List.not_mem_nil

/-- Opening a session on the only executor opens it, or makes no connection. -/
theorem opensOrIdle_openSession {job : Job} (h : Idle start job) (identifier : Setting)
    (environment : Environment)
    : OpensOrIdle start (fun handle => { handle, executor := .here 0 })
        (LocalExecutor.openSession 0 identifier environment job).1
        (LocalExecutor.openSession 0 identifier environment job).2 := by
  obtain ⟨executor, he, hs⟩ := h.executor
  rw [LocalExecutor.openSession, bind_of_ok (withNumber_zero he)]
  split
  · exact h
  · refine opensOrIdle_bind (.ofResult _) (fun database job h => ?_) h
    refine opensOrIdle_bind (.ofResult _) (fun handle job h => ?_) h
    split
    · exact h
    · refine opensOrIdle_connect database (fun job hb => ?_) h
      exact (unguarded_replace hs rfl hb).of_core (Job.core_note rfl)

/-- Nothing has been done in the job: there is no executor, no session and no hook. -/
structure Fresh (start : Job) : Prop where
  events_eq : start.sessionEvents = []
  executors_eq : start.executors = []
  hooks_eq : start.hooks = []
  registered : start.standard.hooks = []

/-- The executor that is made first is the only one. -/
theorem makeLocal_fresh (h : Fresh start) (defaults : Option Setting)
    (jars libraries : List Setting)
    : ∃ after, Session.makeLocal defaults jars libraries start = (.ok (.here 0), after)
        ∧ Idle start after := by
  have hmade : Session.makeLocal defaults jars libraries start =
      (.ok (.here start.executors.length), { start with
        executors := start.executors ++ [{
          defaults, jars, libraries, directory := configurationDirectory start.vars }] }) :=
    rfl
  rw [hmade, h.executors_eq]
  exact ⟨_, rfl, ⟨rfl, h.events_eq, rfl, h.hooks_eq, h.registered, ⟨_, rfl, rfl⟩⟩, rfl⟩

theorem keepsCore_readEnvironment (listener : Listener) (locator : Option Setting)
    : KeepsCore (Session.readEnvironment Session.readLocal listener locator) := by
  cases locator with
  | none => exact (Console.keepsCore_tell listener _).bind fun _ => .pure _
  | some locator =>
      refine (Console.keepsCore_tell listener _).bind fun _ => (KeepsCore.log _ _).bind fun _ => ?_
      refine (KeepsCore.ofResult _).bind fun text => KeepsCore.rescue ?_ fun _ => .fail _
      exact KeepsCore.state.bind fun _ => .ofResult _

/-- Opening the session that the options describe opens it, or makes no connection. -/
theorem opensOrIdle_openWith (h : Fresh start) (options : Options)
    : OpensOrIdle start id
        (Session.openWith Session.makeLocal Session.readLocal .user options start).1
        (Session.openWith Session.makeLocal Session.readLocal .user options start).2 := by
  obtain ⟨made, hm, hi⟩ :=
    makeLocal_fresh h options.defaults (options.jars.getD []) (options.libraries.getD [])
  rw [Session.openWith, bind_of_ok hm]
  have hstart : Preserves (Idle start) (Executor.here 0).start :=
    preserves_idle_start.bind fun _ => .pure ()
  refine opensOrIdle_bind hstart (fun _ job h => ?_) hi
  refine opensOrIdle_bind (preserves_idle (keepsCore_readEnvironment .user _)) (fun read job h => ?_) h
  have hopen := opensOrIdle_openSession h (options.session.getD (.text defaultSession))
    (read.merged options.worker)
  cases he : LocalExecutor.openSession 0 (options.session.getD (.text defaultSession))
      (read.merged options.worker) job with
  | mk result after =>
      rw [he] at hopen
      have hopened : (Executor.here 0).openSession (options.session.getD (.text defaultSession))
          (read.merged options.worker) job = (result, after) :=
        he
      cases result with
      | error fault =>
          rw [bind_of_error (by rw [hopened]), hopened]
          exact hopen
      | ok handle =>
          rw [bind_of_ok hopened]
          exact Unguarded.of_core (Job.core_note rfl) hopen

-----------------------------------------------------------------------------------------
-- The hook
-----------------------------------------------------------------------------------------

/-- Registering its hook guards the open session, before anything is executed in it. -/
theorem live_register {session : Session} {job : Job} (h : Unguarded start session job)
    : ∃ hook after, Shutdown.register .standard session .user job = (.ok hook, after)
        ∧ Live start session after := by
  have he := Shutdown.register_apply .standard session .user job
  refine ⟨_, _, he, Live.of_core ((Job.core_note rfl).trans (Shutdown.core_enrolled ..)) ?_⟩
  rw [h.hooks_eq, Job.registry, h.registered]
  have hhooks : ∀ hook ∈ [Hook.session { session, listener := .user }], IsLocal hook := by
    intro hook hm
    obtain rfl := List.mem_singleton.mp hm
    exact ⟨_, 0, rfl, h.local_, rfl⟩
  refine ⟨⟨⟨h.database_eq, h.events, h.local_, h.executor, hhooks⟩, rfl, rfl⟩, ?_⟩
  show Unsignalled start job.statements
  rw [h.statements_eq]
  exact ⟨Nat.le_refl _, fun i hi hlt => absurd hlt (Nat.not_lt.mpr hi)⟩

end SqlShell.Lifetime
