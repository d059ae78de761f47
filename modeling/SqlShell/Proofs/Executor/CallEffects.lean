import SqlShell.Proofs.Client.SentStatements
import SqlShell.Proofs.Shutdown.Teardown

/-! The calls of an executor of this job, and what each of them does to its sessions: it opens one,
closes one, or leaves all of them as they are.
-/

namespace SqlShell

/-- The number of the connection that an event makes. -/
def Event.connected? : Event → Option Nat
  | .connect _ number => number
  | _ => none

/-- The number of the connection that an event closes. -/
def Event.closed? : Event → Option Nat
  | .disconnect number => some number
  | _ => none

namespace LocalExecutor

open Act

/-- A call of an executor. -/
inductive Call where
  | start
  | openSession (identifier : Setting) (environment : Environment)
  | closeSession (handle : String)
  | execute (handle statement : String)
  | configuration (handle : String)
  | isOpen (handle : String)

/-- What a call tells if it ends well. -/
inductive Answer where
  | started (dependencies : List Path)
  | opened (handle : String)
  | closed
  | executed (result : StatementResult)
  | configuration (entries : Entries)
  | isOpen (told : Bool)

/-- Makes a call of the executor with a number. -/
def Call.perform (number : Nat) : Call → Act Answer
  | .start => do return .started (← LocalExecutor.start number)
  | .openSession identifier environment => do
      return .opened (← LocalExecutor.openSession number identifier environment)
  | .closeSession handle => do
      LocalExecutor.closeSession number handle
      return .closed
  | .execute handle statement => do
      return .executed (← (Executor.here number).execute handle statement)
  | .configuration handle => do
      return .configuration (← LocalExecutor.configuration number handle)
  | .isOpen handle => do return .isOpen ((← withNumber number).isOpen handle)

/-- What a call does to an executor, by the number of the last connection that was made before it:
the events that touch a session, and the executor afterwards.
-/
inductive Effect (executor : LocalExecutor) (made : Nat)
    : Call → Except Fault Answer → List Event → LocalExecutor → Prop where
  | kept {call : Call} {result : Except Fault Answer} {events : List Event} {next : LocalExecutor}
      (sessions_eq : next.sessions = executor.sessions)
      (quiet : ∀ event ∈ events, event.connected? = none ∧ event.closed? = none)
      (not_opened : ∀ handle, result ≠ .ok (.opened handle))
      (not_open : ∀ handle, call = .closeSession handle → executor.isOpen handle = false)
      (started : next.started = true →
        executor.started = true
        ∨ call = .start ∧ ∃ dependencies, result = .ok (.started dependencies))
      : Effect executor made call result events next
  | opened {handle database : String} {environment : Environment} {session : LocalSession}
      (started : executor.started = true)
      (not_open : executor.isOpen handle = false)
      (connection_eq : session.connection = made + 1)
      : Effect executor made (.openSession (.text handle) environment) (.ok (.opened handle))
          [.connect database (some (made + 1))]
          { executor with sessions := executor.sessions ++ [(handle, session)] }
  | closed {handle : String} {session : LocalSession} {result : Except Fault Answer}
      (found : executor.session? handle = some session)
      (not_opened : ∀ handle, result ≠ .ok (.opened handle))
      : Effect executor made (.closeSession handle) result [.disconnect session.connection]
          { executor with sessions := executor.sessions.filter (·.1 != handle) }

/-- The executor with a number and the events that a call leaves, and what it leaves alone. -/
structure Leaves (number : Nat) (job : Job) (executor : LocalExecutor) (events : List Event)
    (after : Job) : Prop where
  executor_eq : after.executors[number]? = some executor
  events_eq : after.sessionEvents = job.sessionEvents ++ events
  connections_eq :
    after.connections = job.connections + (events.filterMap Event.connected?).length
  database_eq : after.database = job.database
  standard_eq : after.standard = job.standard

/-- No hook is registered if a signal may arrive. -/
def Undisturbed (job : Job) : Prop :=
  (∃ index signal, job.database.reply index = .signal signal) → job.standard.hooks = []

-----------------------------------------------------------------------------------------
-- What calls leave
-----------------------------------------------------------------------------------------

variable {number : Nat} {job after : Job} {executor : LocalExecutor}

theorem Leaves.refl (h : job.executors[number]? = some executor)
    : Leaves number job executor [] job :=
  ⟨h, (List.append_nil _).symm, rfl, rfl, rfl⟩

theorem Leaves.of_core {events : List Event} {last : Job} (hc : last.core = after.core)
    (h : Leaves number job executor events after)
    : Leaves number job executor events last where
  executor_eq := Job.executors_of_core hc ▸ h.executor_eq
  events_eq := (Job.sessionEvents_of_core hc).trans h.events_eq
  connections_eq := (Job.connections_of_core hc).trans h.connections_eq
  database_eq := (Job.database_of_core hc).trans h.database_eq
  standard_eq := (Job.standard_of_core hc).trans h.standard_eq

theorem Leaves.note {events : List Event} {event : Event}
    (h : Leaves number job executor events after) (ht : event.touchesSession = true)
    (hc : event.connected? = none)
    : Leaves number job executor (events ++ [event]) (after.note event) where
  executor_eq := h.executor_eq
  events_eq := by rw [Job.sessionEvents_note ht, h.events_eq, List.append_assoc]
  connections_eq := by
    rw [List.filterMap_append, List.filterMap_cons_none hc, List.filterMap_nil, List.append_nil]
    exact h.connections_eq
  database_eq := h.database_eq
  standard_eq := h.standard_eq

/-- Another executor is left in the place of one that was left. -/
theorem Leaves.replace {events : List Event} (h : Leaves number job executor events after)
    (next : LocalExecutor)
    : Leaves number job next events (LocalExecutor.replace number next after).2 :=
  { h with
    executor_eq := by
      have hlt : number < after.executors.length := (List.getElem?_eq_some_iff.mp h.executor_eq).1
      exact List.getElem?_set_self hlt }

theorem Undisturbed.of_leaves {events : List Event} (h : Leaves number job executor events after)
    (hu : Undisturbed job)
    : Undisturbed after := by
  rw [Undisturbed, h.database_eq, h.standard_eq]
  exact hu

theorem withNumber_bind_of_some {α : Type} (h : job.executors[number]? = some executor)
    (next : LocalExecutor → Act α)
    : (withNumber number >>= next) job = next executor job := by
  rw [withNumber_bind, h]
  rfl

/-- The session with a handle is looked up in the executor. -/
theorem openedSession_eq (h : job.executors[number]? = some executor) (handle : String)
    : openedSession number handle job =
        match executor.session? handle with
        | some session => (.ok session, job)
        | none => (.error (failure ("Invalid session identifier: " ++ handle)), job) := by
  rw [openedSession, withNumber_bind_of_some h]
  cases executor.session? handle <;> rfl

/-- A call tells the answer that it makes of a value. -/
theorem exists_of_answered {α : Type} {act : Act α} {answer : α → Answer} {told : Answer}
    (h : ((act >>= fun value => pure (answer value)) job).1 = .ok told)
    : ∃ value, told = answer value := by
  rw [bind_apply] at h
  split at h
  · next value after _ => exact ⟨value, (Except.ok.inj h).symm⟩
  · exact nomatch h

/-- Only a call that opens a session tells the handle of a new session. -/
theorem perform_ne_opened {call : Call}
    (h : ∀ identifier environment, call ≠ .openSession identifier environment) (handle : String)
    : (call.perform number job).1 ≠ .ok (.opened handle) := by
  intro he
  cases call with
  | openSession identifier environment => exact h identifier environment rfl
  | start | closeSession | execute | configuration | isOpen =>
      obtain ⟨_, hv⟩ := exists_of_answered he
      exact nomatch hv

-----------------------------------------------------------------------------------------
-- Starting
-----------------------------------------------------------------------------------------

/-- The executor is left with its sessions, and counts as started if it did. -/
def Unstarted (number : Nat) (job : Job) (executor : LocalExecutor) (after : Job) : Prop :=
  ∃ next, Leaves number job next [] after ∧ next.sessions = executor.sessions
    ∧ next.started = executor.started

/-- The executor is left with its sessions, and counts as started if it did or if starting it has
ended well.
-/
def StartEnds (number : Nat) (job : Job) (executor : LocalExecutor)
    (result : Except Fault (List Path)) (after : Job) : Prop :=
  ∃ next, Leaves number job next [] after ∧ next.sessions = executor.sessions
    ∧ (next.started = true → executor.started = true ∨ ∃ dependencies, result = .ok dependencies)

/-- A fault while an executor starts leaves it as it was. -/
theorem Unstarted.startEnds (h : Unstarted number job executor after) (fault : Fault)
    : StartEnds number job executor (.error fault) after := by
  obtain ⟨next, hl, hs, ht⟩ := h
  exact ⟨next, hl, hs, fun hn => Or.inl (ht ▸ hn)⟩

/-- Keeping the core keeps the executor as it was before it started. -/
theorem preserves_unstarted {α : Type} {act : Act α} (h : KeepsCore act)
    : Preserves (Unstarted number job executor) act :=
  h.preserves fun _ _ hc ⟨next, hl, hs, ht⟩ => ⟨next, hl.of_core hc, hs, ht⟩

/-- Starting an executor ends with another one in its place. -/
theorem Unstarted.replace {next : LocalExecutor} (h : Unstarted number job executor after)
    (hs : next.sessions = executor.sessions) (dependencies : List Path)
    : StartEnds number job executor (.ok dependencies)
        (LocalExecutor.replace number next after).2 := by
  obtain ⟨old, hl, -, -⟩ := h
  exact ⟨next, hl.replace next, hs, fun _ => Or.inr ⟨dependencies, rfl⟩⟩

/-- Starting an executor leaves its sessions, and it counts as started only if that ends well. -/
theorem start_ends (h : job.executors[number]? = some executor)
    : StartEnds number job executor (LocalExecutor.start number job).1
        (LocalExecutor.start number job).2 := by
  have hfault : ∀ fault after, Unstarted number job executor after →
      StartEnds number job executor (.error fault) after :=
    fun fault _ hi => hi.startEnds fault
  have hstart : Unstarted number job executor job := ⟨executor, .refl h, rfl, rfl⟩
  have hlog : ∀ level message, Preserves (Unstarted number job executor) (log level message) :=
    fun level message => preserves_unstarted (.log level message)
  rw [LocalExecutor.start, withNumber_bind_of_some h, state_bind]
  refine (Preserves.ofResult _).bind_end hfault (fun dependencies after hi => ?_) hstart
  refine (Preserves.forEach fun path _ => hlog _ _).bind_end hfault (fun _ after hi => ?_) hi
  refine (Preserves.ofResult _).bind_end hfault (fun base after hi => ?_) hi
  have hbase : Preserves (Unstarted number job executor)
      (LocalExecutor.replace number { executor with base }) :=
    fun after ⟨next, hl, _, _⟩ => ⟨_, hl.replace _, rfl, rfl⟩
  refine hbase.bind_end hfault (fun _ after hi => ?_) hi
  refine (Preserves.ofResult _).bind_end hfault (fun locator after hi => ?_) hi
  cases locator with
  | none =>
      refine hi.replace ?_ dependencies
      rfl
  | some locator =>
      refine (hlog _ _).bind_end hfault (fun _ after hi => ?_) hi
      refine (Preserves.ofResult _).bind_end hfault (fun initial after hi => ?_) hi
      refine hi.replace ?_ dependencies
      rfl

-----------------------------------------------------------------------------------------
-- Opening and closing
-----------------------------------------------------------------------------------------

/-- An attempt to connect fails and leaves the executor, or makes the next connection. -/
theorem connect_leaves (h : job.executors[number]? = some executor) (database : String)
    : (∃ fault, (connect database job).1 = .error fault
        ∧ Leaves number job executor [] (connect database job).2)
      ∨ (connect database job).1 = .ok (job.connections + 1)
        ∧ Leaves number job executor [.connect database (some (job.connections + 1))]
          (connect database job).2 := by
  rw [connect, state_bind, change_bind]
  cases job.database.connecting job.attempts database with
  | some fault =>
      have hl : Leaves number job executor [] { job with attempts := job.attempts + 1 } :=
        ⟨h, (List.append_nil _).symm, rfl, rfl, rfl⟩
      exact Or.inl ⟨fault, rfl, hl.of_core (Job.core_note rfl)⟩
  | none =>
      refine Or.inr ⟨rfl, h, ?_, rfl, rfl, rfl⟩
      have hnoted : ∀ tried : Job,
          (tried.note (.connect database (some (job.connections + 1)))).sessionEvents =
            tried.sessionEvents ++ [.connect database (some (job.connections + 1))] :=
        fun _ => Job.sessionEvents_note rfl
      exact hnoted { job with attempts := job.attempts + 1 }

/-- What comes of an attempt to connect, of which some faults are told as others, and an act after
it: the attempt fails and leaves the executor, or the act goes on with the next connection.
-/
theorem connect_bind_end {α : Type} {next : Nat → Act α} {Q : Except Fault α → Job → Prop}
    {kinds : FaultKind → Bool} {told : Fault → Fault} (h : job.executors[number]? = some executor)
    (database : String)
    (hf : ∀ fault after, Leaves number job executor [] after → Q (.error fault) after)
    (hn : ∀ after,
      Leaves number job executor [.connect database (some (job.connections + 1))] after →
      Q (next (job.connections + 1) after).1 (next (job.connections + 1) after).2)
    : Q (((connect database).rescue kinds (fun fault => fail (told fault)) >>= next) job).1
        (((connect database).rescue kinds (fun fault => fail (told fault)) >>= next) job).2 := by
  rcases connect_leaves h database with ⟨fault, he, hl⟩ | ⟨he, hl⟩
  · cases hk : kinds fault.kind with
    | true =>
        rw [bind_of_error (by rw [rescue_of_handled he hk]; rfl), rescue_of_handled he hk]
        exact hf _ _ hl
    | false =>
        rw [bind_of_error (by rw [rescue_of_not_handled he hk, he]), rescue_of_not_handled he hk]
        exact hf _ _ hl
  · rw [bind_of_ok ((rescue_of_ok he).trans (Prod.ext he rfl))]
    exact hn _ hl

/-- What comes of opening a session: the executor is left as it is, or a session is open under an
identifier that was not in use.
-/
def OpenEnds (number : Nat) (job : Job) (executor : LocalExecutor) (identifier : Setting)
    (result : Except Fault String) (after : Job) : Prop :=
  match result with
  | .error _ => Leaves number job executor [] after
  | .ok handle => identifier = .text handle ∧ executor.started = true
      ∧ executor.isOpen handle = false
      ∧ ∃ database session, session.connection = job.connections + 1
        ∧ Leaves number job { executor with sessions := executor.sessions ++ [(handle, session)] }
          [.connect database (some (job.connections + 1))] after

/-- Opening a session opens one under an identifier that is not in use, or leaves the executor as it
is and fails.
-/
theorem openSession_ends (h : job.executors[number]? = some executor) (identifier : Setting)
    (environment : Environment)
    : OpenEnds number job executor identifier
        (LocalExecutor.openSession number identifier environment job).1
        (LocalExecutor.openSession number identifier environment job).2 := by
  have hfault : ∀ fault after, Leaves number job executor [] after →
      OpenEnds number job executor identifier (.error fault) after :=
    fun _ _ hl => hl
  rw [LocalExecutor.openSession, withNumber_bind_of_some h]
  split
  · exact .refl h
  · next hs =>
      refine ofResult_bind_end (fun fault _ => hfault fault job (.refl h)) fun database _ => ?_
      refine ofResult_bind_end (fun fault _ => hfault fault job (.refl h)) fun handle hkey => ?_
      have hidentifier : identifier = .text handle := by
        cases identifier with
        | text name => exact congrArg Setting.text (Except.ok.inj hkey)
        | nothing => exact nomatch hkey
      split
      · exact .refl h
      · next ho =>
          refine connect_bind_end h database hfault fun after hl => ?_
          have hstarted : executor.started = true := by simpa using hs
          refine ⟨hidentifier, hstarted, eq_false_of_ne_true ho, database, _, ?_,
            (hl.replace _).of_core (Job.core_note rfl)⟩
          rfl

/-- What comes of closing a session: nothing is done for a handle that is not open, and otherwise
the session is gone and its connection is closed.
-/
def CloseEnds (number : Nat) (job : Job) (executor : LocalExecutor) (handle : String) (after : Job)
    : Prop :=
  match executor.session? handle with
  | none => Leaves number job executor [] after
  | some session =>
      Leaves number job
        { executor with sessions := executor.sessions.filter (·.1 != handle) }
        [.disconnect session.connection] after

/-- Closing a session takes it off the executor before its connection is closed, which may fail. -/
theorem closeSession_ends (h : job.executors[number]? = some executor) (handle : String)
    : CloseEnds number job executor handle (LocalExecutor.closeSession number handle job).2 := by
  rw [CloseEnds, LocalExecutor.closeSession, withNumber_bind_of_some h]
  cases executor.session? handle with
  | none => exact (Leaves.refl h).of_core (Job.core_note rfl)
  | some session =>
      have hd : (Event.disconnect session.connection).touchesSession = true := rfl
      have hl := ((Leaves.refl h).replace
        { executor with sessions := executor.sessions.filter (·.1 != handle) }).note hd rfl
      refine hl.of_core ((core_bind (fun _ => .log _ _) _).trans ?_)
      exact (Lifetime.disconnect_rescued session.connection handle _).1

-----------------------------------------------------------------------------------------
-- Executing
-----------------------------------------------------------------------------------------

/-- A signal that finds no hook only ends the job. -/
theorem handleSignal_of_no_hooks {α : Type} (h : job.standard.hooks = []) (call : Nat → Act Unit)
    (signal : Nat)
    : (Shutdown.handleSignal (α := α) call .standard signal job).2.core = job.core := by
  have hrun : Shutdown.runHooks call .standard
      (job.note (.log .warning ("Received signal " ++ toString signal ++ ", shutting down"))) =
        (.ok (), job.note
          (.log .warning ("Received signal " ++ toString signal ++ ", shutting down"))) := by
    show forEach job.standard.hooks.reverse _ _ = _
    rw [h]
    rfl
  show ((Shutdown.runHooks call .standard >>= fun _ => fail _) (job.note _)).2.core = _
  rw [bind_of_ok hrun]
  exact Job.core_note rfl

/-- A statement for an open session reaches the connection of the session and nothing else. -/
theorem execute_leaves {handle : String} {session : LocalSession}
    (h : job.executors[number]? = some executor) (hu : Undisturbed job)
    (hs : executor.session? handle = some session) (statement : String)
    : Leaves number job executor [.execute session.connection statement]
        ((Executor.here number).execute handle statement job).2 := by
  have hcleared : ∀ fault job, ((fail ((failure fault.message).because fault)
      : Act StatementResult) job).2 = job := fun _ _ => rfl
  have hopened : openedSession number handle job = (.ok session, job) := by
    rw [openedSession_eq h, hs]
  have hnoted := (Leaves.refl h).note
    (show (Event.execute session.connection statement).touchesSession = true from rfl) rfl
  have hcounted : Leaves number job executor [.execute session.connection statement]
      (Executor.counted (job.note (.execute session.connection statement))) :=
    ⟨hnoted.executor_eq, hnoted.events_eq, hnoted.connections_eq, hnoted.database_eq,
      hnoted.standard_eq⟩
  rw [Executor.execute, Executor.executeHere, bind_of_ok hopened, rescue_job hcleared]
  by_cases hr : ∃ signal, job.database.reply job.statements = .signal signal
  · obtain ⟨signal, hr⟩ := hr
    -- A signal would close the sessions through the hooks, of which there are none.
    have hhooks : (Executor.counted
        (job.note (.execute session.connection statement))).standard.hooks = [] :=
      hu ⟨job.statements, signal, hr⟩
    obtain ⟨fault, he, -⟩ := Shutdown.handleSignal_fault (α := Reply) Shutdown.call .standard signal
      (Executor.counted (job.note (.execute session.connection statement)))
    rw [Executor.send_of_signal Executor.resultOf _ hr he]
    exact hcounted.of_core (handleSignal_of_no_hooks hhooks Shutdown.call signal)
  · rw [Executor.send_job Executor.resultOf_job _ fun signal he => hr ⟨signal, he⟩]
    exact hcounted

/-- A statement for a session that is not open fails and reaches nothing. -/
theorem execute_of_not_open {handle : String} (h : job.executors[number]? = some executor)
    (hs : executor.session? handle = none) (statement : String)
    : (Executor.here number).execute handle statement job =
        (.error (failure ("Invalid session identifier: " ++ handle)), job) := by
  have hopened : openedSession number handle job =
      (.error (failure ("Invalid session identifier: " ++ handle)), job) := by
    rw [openedSession_eq h, hs]
  rw [Executor.execute, Executor.executeHere, bind_of_error (by rw [hopened]), hopened]

-----------------------------------------------------------------------------------------
-- Calls
-----------------------------------------------------------------------------------------

/-- An answer that is made of a value leaves what the act leaves. -/
theorem answered_job {α : Type} (act : Act α) (answer : α → Answer) (job : Job)
    : ((act >>= fun value => pure (answer value)) job).2 = (act job).2 := by
  rw [bind_apply]
  split
  · next h =>
      rw [h]
      rfl
  · next h => rw [h]

/-- A call keeps the sessions if it leaves them, is no start and tells no new session. -/
theorem Effect.of_same {call : Call} {result : Except Fault Answer} {events : List Event}
    {made : Nat} (hq : ∀ event ∈ events, event.connected? = none ∧ event.closed? = none)
    (ho : ∀ handle, result ≠ .ok (.opened handle))
    (hc : ∀ handle, call = .closeSession handle → executor.isOpen handle = false)
    : Effect executor made call result events executor :=
  .kept rfl hq ho hc Or.inl

/-- Every call has one of the effects, by the cases of the call. -/
theorem perform_effect (h : job.executors[number]? = some executor) (hu : Undisturbed job)
    (call : Call)
    : ∃ events next, Effect executor job.connections call (call.perform number job).1 events next
        ∧ Leaves number job next events (call.perform number job).2 := by
  cases call with
  | start =>
      obtain ⟨next, hl, hs, ht⟩ := start_ends h
      refine ⟨[], next, .kept hs (by simp) (perform_ne_opened nofun) nofun fun hn => ?_, ?_⟩
      · rcases ht hn with ht | ⟨dependencies, he⟩
        · exact Or.inl ht
        · refine Or.inr ⟨rfl, dependencies, ?_⟩
          rw [Call.perform, bind_of_ok (Prod.ext he rfl)]
          rfl
      · rw [Call.perform, answered_job]
        exact hl
  | openSession identifier environment =>
      have hends := openSession_ends h identifier environment
      cases he : LocalExecutor.openSession number identifier environment job with
      | mk result after =>
          rw [he] at hends
          cases result with
          | error fault =>
              have hperform : (Call.openSession identifier environment).perform number job =
                  (.error fault, after) := by
                rw [Call.perform, bind_of_error (by rw [he]), he]
              rw [hperform]
              exact ⟨[], executor, .of_same (by simp) nofun nofun, hends⟩
          | ok handle =>
              obtain ⟨rfl, hs, ho, database, session, hc, hl⟩ := hends
              rw [Call.perform, bind_of_ok he]
              exact ⟨_, _, .opened hs ho hc, hl⟩
  | closeSession handle =>
      have hends := closeSession_ends h handle
      have hno : ∀ other,
          ((Call.closeSession handle).perform number job).1 ≠ .ok (.opened other) :=
        perform_ne_opened nofun
      have hafter : ((Call.closeSession handle).perform number job).2 =
          (LocalExecutor.closeSession number handle job).2 :=
        answered_job _ (fun _ => .closed) job
      rw [hafter]
      rw [CloseEnds] at hends
      cases hs : executor.session? handle with
      | none =>
          rw [hs] at hends
          refine ⟨[], executor, .of_same (by simp) hno ?_, hends⟩
          intro other he
          obtain rfl := Call.closeSession.inj he
          rw [LocalExecutor.isOpen, hs]
          rfl
      | some session =>
          rw [hs] at hends
          exact ⟨_, _, .closed hs hno, hends⟩
  | execute handle statement =>
      have hno : ∀ other,
          ((Call.execute handle statement).perform number job).1 ≠ .ok (.opened other) :=
        perform_ne_opened nofun
      have hafter : ((Call.execute handle statement).perform number job).2 =
          ((Executor.here number).execute handle statement job).2 :=
        answered_job _ .executed job
      rw [hafter]
      cases hs : executor.session? handle with
      | none =>
          rw [execute_of_not_open h hs]
          exact ⟨[], executor, .of_same (by simp) hno nofun, .refl h⟩
      | some session =>
          refine ⟨_, executor, .of_same ?_ hno nofun, execute_leaves h hu hs statement⟩
          simp [Event.connected?, Event.closed?]
  | configuration handle =>
      have hjob : (LocalExecutor.configuration number handle job).2 = job := by
        rw [LocalExecutor.configuration, bind_apply, openedSession_eq h]
        cases executor.session? handle <;> rfl
      have hafter : ((Call.configuration handle).perform number job).2 = job :=
        (answered_job _ .configuration job).trans hjob
      rw [hafter]
      exact ⟨[], executor, .of_same (by simp) (perform_ne_opened nofun) nofun, .refl h⟩
  | isOpen handle =>
      exact ⟨[], executor, .of_same (by simp) (perform_ne_opened nofun) nofun, .refl h⟩

end LocalExecutor

end SqlShell
