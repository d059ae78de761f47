import SqlShell.Proofs.Job.CoreState
import SqlShell.Proofs.Job.Failing

/-! The end of a session: however it is closed, by those who use it or by the hook that a signal
runs, its connection is closed once, and nothing that comes later touches it again.
-/

namespace SqlShell.Lifetime

open Act

/-- The number of the connection that a job makes first. -/
def connection (start : Job) : Nat :=
  start.connections + 1

/-- The events of a session that is open: it is connected, and then statements are executed. -/
def openEvents (start : Job) (database : String) (statements : List String) : List Event :=
  .connect database (some (connection start)) :: statements.map (.execute (connection start))

/-- The events of a session that is closed. -/
def closedEvents (start : Job) (database : String) (statements : List String) : List Event :=
  openEvents start database statements ++ [.disconnect (connection start)]

/-- Closing the connection fails in an ordinary way if it fails. -/
def ClosesOrdinarily (start : Job) : Prop :=
  ∀ fault, start.database.closing (connection start) = some fault → fault.IsFailure

/-- The hook closes a session of an executor of this job and tells the user. -/
def IsLocal (hook : Hook) : Prop :=
  ∃ own number, hook = .session own ∧ own.session.executor = .here number ∧ own.listener = .user

/-- No session is open, and the given events have touched sessions and the given number of
statements has been answered.
-/
structure Rests (events : List Event) (count : Nat) (job : Job) : Prop where
  events_eq : job.sessionEvents = events
  count_eq : job.statements = count
  no_sessions : ∀ executor ∈ job.executors, executor.sessions = []
  hooks_local : ∀ hook ∈ job.hooks, IsLocal hook

/-- A session has been closed, in which the statements up to the given number were executed. -/
def Ended (start : Job) (count : Nat) (job : Job) : Prop :=
  ∃ database statements, Rests (closedEvents start database statements) count job
    ∧ count = start.statements + statements.length

/-- The session is the only one that is open. -/
structure Opened (start : Job) (session : Session) (job : Job) : Prop where
  database_eq : job.database = start.database
  events : ∃ database statements, job.sessionEvents = openEvents start database statements
    ∧ job.statements = start.statements + statements.length
  local_ : session.executor = .here 0
  executor : ∃ executor own, job.executors = [executor]
    ∧ executor.sessions = [(session.handle, own)] ∧ own.connection = connection start
  hooks_local : ∀ hook ∈ job.hooks, IsLocal hook

/-- What rests stays at rest while the core of the state is the same. -/
theorem Rests.of_core {events : List Event} {count : Nat} {job after : Job}
    (hc : after.core = job.core) (h : Rests events count job)
    : Rests events count after where
  events_eq := (Job.sessionEvents_of_core hc).trans h.events_eq
  count_eq := (Job.statements_of_core hc).trans h.count_eq
  no_sessions := Job.executors_of_core hc ▸ h.no_sessions
  hooks_local := Job.hooks_of_core hc ▸ h.hooks_local

/-- An open session stays open while the core of the state is the same. -/
theorem Opened.of_core {start : Job} {session : Session} {job after : Job}
    (hc : after.core = job.core) (h : Opened start session job)
    : Opened start session after where
  database_eq := (Job.database_of_core hc).trans h.database_eq
  events := Job.sessionEvents_of_core hc ▸ Job.statements_of_core hc ▸ h.events
  local_ := h.local_
  executor := Job.executors_of_core hc ▸ h.executor
  hooks_local := Job.hooks_of_core hc ▸ h.hooks_local

-----------------------------------------------------------------------------------------
-- Closing
-----------------------------------------------------------------------------------------

/-- Closing a session where none is open is only logged. -/
theorem Rests.close_apply {events : List Event} {count : Nat} {job : Job} {session : Session}
    {number : Nat} (hx : session.executor = .here number) (h : Rests events count job)
    : session.close job = (.ok (), job.note
        (.log .debug ("Session " ++ session.handle ++ " is already closed"))) := by
  have hnone : (((job.executors[number]?).getD {}).session? session.handle) = none := by
    have hempty : ((job.executors[number]?).getD {}).sessions = [] := by
      cases he : job.executors[number]? with
      | none => rfl
      | some executor => exact h.no_sessions executor (List.mem_of_getElem? he)
    rw [LocalExecutor.session?, hempty]
    rfl
  rw [Session.close, hx, Executor.closeSession, LocalExecutor.closeSession,
    LocalExecutor.withNumber_bind, hnone]
  rfl

/-- Closing a session where none is open leaves everything at rest. -/
theorem Rests.close {events : List Event} {count : Nat} {session : Session} {number : Nat}
    (hx : session.executor = .here number)
    : Preserves (Rests events count) session.close := by
  intro job h
  rw [h.close_apply hx]
  exact h.of_core (Job.core_note rfl)

/-- Closing a connection is noted before it may fail. -/
theorem disconnect_apply (number : Nat) (job : Job)
    : LocalExecutor.disconnect number job =
        failIf (job.database.closing number) (job.note (.disconnect number)) :=
  rfl

/-- Closing a connection and passing over failures of the database notes that it is closed and keeps
the core otherwise. Only a fault of another kind is left.
-/
theorem disconnect_rescued (number : Nat) (handle : String) (job : Job)
    : ((LocalExecutor.disconnect number).rescue FaultKind.isDatabase (fun _ =>
          log .warning ("Error while closing session " ++ handle)) job).2.core =
        (job.note (.disconnect number)).core
      ∧ ∀ fault, ((LocalExecutor.disconnect number).rescue FaultKind.isDatabase (fun _ =>
          log .warning ("Error while closing session " ++ handle)) job).1 = .error fault →
        job.database.closing number = some fault := by
  rw [rescue_apply, disconnect_apply]
  cases job.database.closing number with
  | none => exact ⟨rfl, nofun⟩
  | some fault =>
      cases hk : fault.kind.isDatabase with
      | true =>
          simp only [failIf, fail, hk, if_true]
          exact ⟨Job.core_note rfl, nofun⟩
      | false =>
          simp only [failIf, fail, hk, Bool.false_eq_true, if_false]
          exact ⟨trivial, fun _ he => congrArg some (Except.error.inj he)⟩

/-- Closing the only session takes it off its executor before its connection is closed. -/
theorem close_of_executor {job : Job} {session : Session} {executor : LocalExecutor}
    {own : LocalSession} (hl : session.executor = .here 0) (he : job.executors = [executor])
    (hs : executor.sessions = [(session.handle, own)])
    : session.close job =
        (do
          (LocalExecutor.disconnect own.connection).rescue FaultKind.isDatabase fun _ =>
            log .warning ("Error while closing session " ++ session.handle)
          log .info ("Closed session " ++ session.handle))
        { job with executors := [{ executor with sessions := [] }] } := by
  have hfound : ((job.executors[0]?).getD {}) = executor := by rw [he]; rfl
  have hsession : executor.session? session.handle = some own := by
    simp [LocalExecutor.session?, hs]
  have hfilter : executor.sessions.filter (·.1 != session.handle) = [] := by simp [hs]
  rw [Session.close, hl, Executor.closeSession, LocalExecutor.closeSession,
    LocalExecutor.withNumber_bind, hfound, hsession]
  show (_ >>= _ : Act Unit) { job with executors := job.executors.set 0 _ } = _
  rw [hfilter, he]
  rfl

/-- Closing the session that is open closes its connection, and fails only as the database does. -/
theorem Opened.close {start job : Job} {session : Session} (h : Opened start session job)
    : Ended start job.statements (session.close job).2
      ∧ ∀ fault, (session.close job).1 = .error fault →
        start.database.closing (connection start) = some fault := by
  obtain ⟨database, statements, hevents, hcount⟩ := h.events
  obtain ⟨executor, own, hexecutors, hsessions, hconnection⟩ := h.executor
  rw [close_of_executor h.local_ hexecutors hsessions, hconnection]
  generalize hj : ({ job with executors := [{ executor with sessions := [] }] } : Job) = emptied
  obtain ⟨hcore, hfault⟩ := disconnect_rescued (connection start) session.handle emptied
  have hrests : Rests (closedEvents start database statements) job.statements
      (emptied.note (.disconnect (connection start))) := by
    rw [← hj]
    refine ⟨?_, rfl, by simp [Job.note], h.hooks_local⟩
    rw [Job.sessionEvents_note rfl]
    exact congrArg (· ++ _) hevents
  have hdatabase : emptied.database = start.database := by
    rw [← hj]
    exact h.database_eq
  have hlast : KeepsCore (log .info ("Closed session " ++ session.handle)) := .log _ _
  refine ⟨⟨database, statements, ?_, hcount⟩, fun fault he => ?_⟩
  · exact hrests.of_core ((core_bind (fun _ => hlast) emptied).trans hcore)
  · rcases fault_of_bind he with he | ⟨_, _, he⟩
    · exact hdatabase ▸ hfault fault he
    · cases he

-----------------------------------------------------------------------------------------
-- Hooks
-----------------------------------------------------------------------------------------

/-- A session that has ended stays so while the core of the state is the same. -/
theorem Ended.of_core {start : Job} {count : Nat} {job after : Job} (hc : after.core = job.core)
    (h : Ended start count job)
    : Ended start count after := by
  obtain ⟨database, statements, hr, hn⟩ := h
  exact ⟨database, statements, hr.of_core hc, hn⟩

/-- Whether the client is closed does not matter to a session that has ended. -/
theorem Ended.of_clientClosed {start : Job} {count : Nat} {job : Job} (h : Ended start count job)
    (closed : Bool)
    : Ended start count { job with clientClosed := closed } := by
  obtain ⟨database, statements, hr, hn⟩ := h
  exact ⟨database, statements, { hr with }, hn⟩

/-- Telling the user fails in an ordinary way if it fails. -/
theorem failsOnly_tell_user (text : String) : FailsOnly Fault.IsFailure (Console.tell .user text) :=
  Console.failsOnly_notice .err text

/-- A hook that has run leaves a local one in its place. -/
theorem isLocal_of_set {hooks : List Hook} {number : Nat} {own : SessionHook}
    (h : ∀ hook ∈ hooks, IsLocal hook) (ho : IsLocal (.session own))
    : ∀ hook ∈ hooks.set number (.session { own with fired := true }), IsLocal hook := by
  intro hook hm
  rcases List.mem_or_eq_of_mem_set hm with hm | rfl
  · exact h hook hm
  · obtain ⟨_, executor, he, hx, hl⟩ := ho
    obtain rfl := Hook.session.inj he
    exact ⟨_, executor, rfl, hx, hl⟩

/-- The hook of the session that is open closes it, also if the notices fail, and fails only as the
database does or in an ordinary way.
-/
theorem Opened.fire {start job : Job} {own : SessionHook} (h : Opened start own.session job)
    (hf : own.fired = false) (hl : own.listener = .user) (number : Nat)
    : Ended start job.statements (Shutdown.fire number own job).2
      ∧ (ClosesOrdinarily start → ∀ fault, (Shutdown.fire number own job).1 = .error fault →
        fault.IsFailure) := by
  generalize hj : ({ job with
    hooks := job.hooks.set number (.session { own with fired := true }) } : Job) = marked
  have hmarked : Opened start own.session marked := by
    rw [← hj]
    exact ⟨h.database_eq, h.events, h.local_, h.executor,
      isLocal_of_set h.hooks_local ⟨own, 0, rfl, h.local_, hl⟩⟩
  have hcount : marked.statements = job.statements := by rw [← hj]
  have hfire : Shutdown.fire number own job =
      (do
        (Console.tell .user Shutdown.startNotice).andFinally own.session.close
        Console.tell .user Shutdown.endNotice) marked := by
    rw [Shutdown.fire, ← hj, hf, hl]
    rfl
  have htold := Console.keepsCore_tell .user Shutdown.startNotice marked
  have htoldCount := Job.statements_of_core htold
  obtain ⟨hended, hclosed⟩ := (hmarked.of_core htold).close
  rw [htoldCount, hcount, ← andFinally_job] at hended
  rw [hfire]
  refine ⟨hended.of_core (core_bind (fun _ => Console.keepsCore_tell .user Shutdown.endNotice) marked), ?_⟩
  intro hc fault he
  rcases fault_of_bind he with he | ⟨_, _, he⟩
  · rcases fault_of_andFinally he with he | he
    · exact failsOnly_tell_user Shutdown.startNotice marked fault he
    · exact hc fault (hclosed fault he)
  · exact failsOnly_tell_user Shutdown.endNotice _ fault he

/-- Calling a hook that closes a session runs it. -/
theorem call_of_session {number : Nat} {own : SessionHook} {job : Job}
    (h : job.hooks[number]? = some (.session own))
    : Shutdown.call number job = Shutdown.fire number own job := by
  show Shutdown.callBy (Shutdown.callHook 99) number job = _
  rw [Shutdown.callBy, state_bind, h]

/-- Calling a hook where no session is open leaves everything at rest, by cases of the hook. -/
theorem Rests.call {events : List Event} {count : Nat} (number : Nat)
    : Preserves (Rests events count) (Shutdown.call number) := by
  intro job h
  cases hn : job.hooks[number]? with
  | none =>
      have hcall : Shutdown.call number job = (.ok (), job) := by
        show Shutdown.callBy (Shutdown.callHook 99) number job = _
        rw [Shutdown.callBy, state_bind, hn]
        rfl
      rw [hcall]
      exact h
  | some hook =>
      obtain ⟨own, executor, rfl, hx, hl⟩ := h.hooks_local hook (List.mem_of_getElem? hn)
      rw [call_of_session hn, Shutdown.fire]
      split
      · exact h
      · have hmarked : Rests events count { job with
            hooks := job.hooks.set number (.session { own with fired := true }) } :=
          ⟨h.events_eq, h.count_eq, h.no_sessions,
            isLocal_of_set h.hooks_local ⟨own, executor, rfl, hx, hl⟩⟩
        have htell : ∀ text, Preserves (Rests events count) (Console.tell own.listener text) :=
          fun text => hl ▸ (Console.keepsCore_tell .user text).preserves fun _ _ => Rests.of_core
        exact ((htell _).andFinally (Rests.close hx)).bind (fun _ => htell _) _ hmarked

/-- Running the hooks where no session is open leaves everything at rest. -/
theorem Rests.runHooks {events : List Event} {count : Nat} (name : RegistryName)
    : Preserves (Rests events count) (Shutdown.runHooks Shutdown.call name) := by
  refine Preserves.state.bind fun job => Preserves.forEach fun number _ => ?_
  refine (Rests.call number).rescue fun _ => ?_
  exact (KeepsCore.log _ _).preserves fun _ _ => Rests.of_core

/-- The session is open and its hook is the only one, which has not run. -/
structure Guarded (start : Job) (session : Session) (job : Job) : Prop
    extends Opened start session job where
  hooks_eq : job.hooks = [.session { session, listener := .user }]
  registered : job.standard.hooks = [0]

/-- A guarded session stays guarded while the core of the state is the same. -/
theorem Guarded.of_core {start : Job} {session : Session} {job after : Job}
    (hc : after.core = job.core) (h : Guarded start session job)
    : Guarded start session after where
  toOpened := h.toOpened.of_core hc
  hooks_eq := (Job.hooks_of_core hc).trans h.hooks_eq
  registered := Job.standard_of_core hc ▸ h.registered

/-- Running the hooks while the session is open closes it. If the database closes it in an ordinary
way, the hooks end well.
-/
theorem Guarded.runHooks {start job : Job} {session : Session} (h : Guarded start session job)
    : Ended start job.statements (Shutdown.runHooks Shutdown.call .standard job).2
      ∧ (ClosesOrdinarily start →
        (Shutdown.runHooks Shutdown.call .standard job).1 = .ok ()) := by
  obtain ⟨hended, hfault⟩ : Ended start job.statements (Shutdown.call 0 job).2
      ∧ (ClosesOrdinarily start → ∀ fault, (Shutdown.call 0 job).1 = .error fault →
        fault.IsFailure) := by
    have hcall : job.hooks[0]? = some (.session { session, listener := .user }) := by
      rw [h.hooks_eq]
      rfl
    rw [call_of_session hcall]
    exact Opened.fire h.toOpened rfl rfl 0
  generalize hguard : ((Shutdown.call 0).rescue FaultKind.isOrdinary fun _ =>
    log .error ("Shutdown hook " ++ ((job.hooks[0]?).map Shutdown.hookText).getD ""
      ++ " failed")) = guarded
  have hrun : Shutdown.runHooks Shutdown.call .standard job =
      (do guarded; pure () : Act Unit) job := by
    show forEach job.standard.hooks.reverse _ job = _
    rw [h.registered, ← hguard]
    rfl
  have hcore : (guarded job).2.core = (Shutdown.call 0 job).2.core := by
    rw [← hguard]
    exact core_rescue (fun _ => .log _ _) _ job
  rw [hrun]
  refine ⟨hended.of_core ((core_bind (fun _ => .pure ()) job).trans hcore), fun hc => ?_⟩
  have hok : (guarded job).1 = .ok () := by
    rw [← hguard]
    cases hr : (Shutdown.call 0 job).1 with
    | ok value => rw [rescue_of_ok hr, hr]
    | error fault =>
        rw [rescue_of_handled hr (hfault hc fault hr)]
        rfl
  rw [bind_pure_of_ok hok]

/-- A signal while the session is open closes it and ends in a request to stop. If the database
closes it in an ordinary way, that is the request to exit with the code of the signal.
-/
theorem Guarded.handleSignal {start job : Job} {session : Session} (h : Guarded start session job)
    {α : Type} (signal : Nat)
    : ∃ fault,
        (Shutdown.handleSignal (α := α) Shutdown.call .standard signal job).1 = .error fault
        ∧ ¬ fault.IsFailure
        ∧ (ClosesOrdinarily start → fault = { kind := .exit, message := toString (128 + signal) })
        ∧ Ended start job.statements
          (Shutdown.handleSignal (α := α) Shutdown.call .standard signal job).2 := by
  obtain ⟨fault, he, hf⟩ :=
    Shutdown.handleSignal_fault (α := α) Shutdown.call .standard signal job
  generalize hl : job.note
    (.log .warning ("Received signal " ++ toString signal ++ ", shutting down")) = logged
  have hcore : logged.core = job.core := by
    rw [← hl]
    exact Job.core_note rfl
  have hcount : logged.statements = job.statements := by rw [← hl]; rfl
  have hsignal : Shutdown.handleSignal (α := α) Shutdown.call .standard signal job =
      (do
        Shutdown.runHooks Shutdown.call .standard
        fail { kind := .exit, message := toString (128 + signal) }) logged := by
    rw [← hl]
    rfl
  obtain ⟨hended, hok⟩ := (h.of_core hcore).runHooks
  rw [hcount] at hended
  refine ⟨fault, he, hf, fun hc => ?_, ?_⟩
  · rw [hsignal] at he
    rcases fault_of_bind he with he | ⟨_, _, he⟩
    · exact nomatch (hok hc).symm.trans he
    · exact (Except.error.inj he).symm
  · rw [hsignal]
    exact hended.of_core (core_bind (fun _ => .fail _) logged)

end SqlShell.Lifetime
