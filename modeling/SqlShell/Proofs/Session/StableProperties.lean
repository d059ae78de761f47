import SqlShell.Proofs.Client.SentStatements
import SqlShell.Proofs.Job.Scene
import SqlShell.Session.Opening

/-! Stable properties of a job, which say nothing about sessions and hooks: opening and closing
sessions keeps them, and so does the run of hooks, which may run programs of their own. What the job
has sent is such a property, and what its scene is.
-/

namespace SqlShell

open Act

/-- Only sending a statement or a change of the scene can end the property. -/
structure Stable (I : Job → Prop) : Prop where
  noted : ∀ {job event}, Event.sent? event = none → I job → I (job.note event)
  unmoved : ∀ {job after : Job}, after.trace = job.trace → after.scene = job.scene → I job → I after

/-- These are the statements that the job has sent. -/
def HasSent (sent : List String) (job : Job) : Prop :=
  job.sent = sent

/-- This is the scene of the job. -/
def InScene (scene job : Job) : Prop :=
  job.scene = scene

/-- The event is among those of the job. -/
def HasNoted (event : Event) (job : Job) : Prop :=
  event ∈ job.trace

/-- What has been sent is stable, since all of it is among the events. -/
theorem stable_hasSent (sent : List String) : Stable (HasSent sent) where
  noted {job event} he hs := by
    rw [HasSent, Job.sent_note, he, Option.toList_none, List.append_nil]
    exact hs
  unmoved ht _ hs := (congrArg (List.filterMap Event.sent?) ht).trans hs

/-- The scene is stable, since no event is in it. -/
theorem stable_inScene (scene : Job) : Stable (InScene scene) where
  noted _ hs := hs
  unmoved _ hc hs := hc.trans hs

/-- No event is ever taken back. -/
theorem stable_hasNoted (event : Event) : Stable (HasNoted event) where
  noted _ hn := List.mem_append_left _ hn
  unmoved ht _ hn := by
    rw [HasNoted, ht]
    exact hn

section

variable {α : Type} {I : Job → Prop}

/-- Noting an event that sends nothing keeps a stable property. -/
theorem Stable.record (h : Stable I) {event : Event} (he : event.sent? = none)
    : Preserves I (record event) :=
  fun _ => h.noted he

/-- A change of sessions or hooks keeps a stable property. -/
theorem Stable.changes (h : Stable I) {f : Job → Job} (ht : ∀ job, (f job).trace = job.trace)
    (hs : ∀ job, (f job).scene = job.scene)
    : Preserves I (change f) :=
  fun job => h.unmoved (ht job) (hs job)

theorem preserves_failIf (fault : Option Fault) : Preserves I (failIf fault) := by
  cases fault with
  | none => exact .pure ()
  | some fault => exact .fail fault

-----------------------------------------------------------------------------------------
-- Telling
-----------------------------------------------------------------------------------------

/-- A notice keeps a stable property, on every terminal. -/
theorem Stable.notice (h : Stable I) (stream : Stream) (text : String)
    : Preserves I (Console.notice stream text) := by
  refine Preserves.state.bind fun job => ?_
  cases job.output with
  | noted => exact h.record rfl
  | verbatim => exact h.record rfl
  | laidOut columns =>
      refine (Preserves.ofResult _).bind fun written => (h.record rfl).bind fun _ => ?_
      cases written.problem with
      | none => exact .pure ()
      | some problem => exact .fail _

/-- Telling a listener keeps a stable property, whoever listens. -/
theorem Stable.tell (h : Stable I) (listener : Listener) (text : String)
    : Preserves I (Console.tell listener text) := by
  cases listener with
  | nobody => exact .pure ()
  | user => exact h.notice .err text
  | noting failing =>
      refine (h.record rfl).bind fun _ => ?_
      cases failing with
      | none => exact .pure ()
      | some given =>
          dsimp only
          split
          · exact .fail _
          · exact .pure ()

-----------------------------------------------------------------------------------------
-- Sessions
-----------------------------------------------------------------------------------------

theorem preserves_withNumber (number : Nat) : Preserves I (LocalExecutor.withNumber number) :=
  Preserves.state.bind fun _ => .pure _

theorem Stable.replace (h : Stable I) (number : Nat) (executor : LocalExecutor)
    : Preserves I (LocalExecutor.replace number executor) :=
  h.changes (fun _ => rfl) fun _ => rfl

/-- Starting an executor keeps a stable property, also if it fails half-way. -/
theorem Stable.start (h : Stable I) (number : Nat) : Preserves I (LocalExecutor.start number) := by
  refine (preserves_withNumber number).bind fun executor => ?_
  refine Preserves.state.bind fun job => (Preserves.ofResult _).bind fun dependencies => ?_
  refine (Preserves.forEach fun _ _ => h.record rfl).bind fun _ => ?_
  refine (Preserves.ofResult _).bind fun base => (h.replace number _).bind fun _ => ?_
  refine (Preserves.ofResult _).bind fun found => ?_
  cases found with
  | none => exact (h.replace number _).bind fun _ => .pure _
  | some locator =>
      refine (h.record rfl).bind fun _ => (Preserves.ofResult _).bind fun initial => ?_
      exact (h.replace number _).bind fun _ => .pure _

theorem Stable.connect (h : Stable I) (database : String)
    : Preserves I (LocalExecutor.connect database) := by
  refine Preserves.state.bind fun job => .bind (h.changes (fun _ => rfl) fun _ => rfl) fun _ => ?_
  cases job.database.connecting job.attempts database with
  | some fault => exact (h.record rfl).bind fun _ => .fail fault
  | none =>
      refine (h.record rfl).bind fun _ => ?_
      exact .bind (h.changes (fun _ => rfl) fun _ => rfl) fun _ => .pure _

theorem Stable.openSession (h : Stable I) (number : Nat) (identifier : Setting)
    (environment : Environment)
    : Preserves I (LocalExecutor.openSession number identifier environment) := by
  refine (preserves_withNumber number).bind fun executor => ?_
  split
  · exact .fail _
  · refine (Preserves.ofResult _).bind fun database => (Preserves.ofResult _).bind fun handle => ?_
    split
    · exact .fail _
    · refine ((h.connect database).rescue fun _ => .fail _).bind fun connection => ?_
      exact (h.replace number _).bind fun _ => (h.record rfl).bind fun _ => .pure handle

theorem Stable.startExecutor (h : Stable I) (executor : Executor) : Preserves I executor.start := by
  cases executor with
  | here number => exact (h.start number).bind fun _ => .pure ()
  | elsewhere remote => exact (h.record rfl).bind fun _ => preserves_failIf _

theorem Stable.openSessionOn (h : Stable I) (executor : Executor) (identifier : Setting)
    (environment : Environment)
    : Preserves I (executor.openSession identifier environment) := by
  cases executor with
  | here number => exact h.openSession number identifier environment
  | elsewhere remote =>
      exact (h.record rfl).bind fun _ => (preserves_failIf _).bind fun _ => .pure _

/-- Opening the session that the options describe keeps a stable property. -/
theorem Stable.openWith (h : Stable I) (options : Options)
    : Preserves I (Session.openWith Session.makeLocal Session.readLocal .user options) := by
  have hmake : ∀ defaults jars libraries,
      Preserves I (Session.makeLocal defaults jars libraries) := fun _ _ _ =>
    .bind (Preserves.state.bind fun _ => .bind (h.changes (fun _ => rfl) fun _ => rfl) fun _ =>
      .pure _) fun _ => .pure _
  have hread : ∀ locator,
      Preserves I (Session.readEnvironment Session.readLocal .user locator) := by
    intro locator
    cases locator with
    | none => exact (h.notice .err _).bind fun _ => .pure _
    | some locator =>
        refine (h.notice .err _).bind fun _ => (h.record rfl).bind fun _ => ?_
        refine (Preserves.ofResult _).bind fun text => ?_
        exact Preserves.rescue (Preserves.state.bind fun _ => .ofResult _) fun _ => .fail _
  refine (hmake _ _ _).bind fun executor => (h.startExecutor executor).bind fun _ => ?_
  refine (hread _).bind fun environment => (h.openSessionOn executor _ _).bind fun handle => ?_
  exact (h.record rfl).bind fun _ => .pure _

theorem Stable.disconnect (h : Stable I) (connection : Nat)
    : Preserves I (LocalExecutor.disconnect connection) :=
  Preserves.state.bind fun _ => (h.record rfl).bind fun _ => preserves_failIf _

/-- Closing a session keeps a stable property, wherever its executor is. -/
theorem Stable.close (h : Stable I) (session : Session) : Preserves I session.close := by
  rw [Session.close]
  cases session.executor with
  | elsewhere remote => exact (h.record rfl).bind fun _ => preserves_failIf _
  | here number =>
      refine (preserves_withNumber number).bind fun executor => ?_
      cases executor.session? session.handle with
      | none => exact h.record rfl
      | some own =>
          refine (h.replace number _).bind fun _ => ?_
          refine ((h.disconnect _).rescue fun _ => h.record rfl).bind fun _ => h.record rfl

theorem Stable.closeClient (h : Stable I) (client : Client) : Preserves I client.close := by
  refine Preserves.state.bind fun job => ?_
  split
  · exact .bind (h.changes (fun _ => rfl) fun _ => rfl) fun _ => h.record rfl
  · exact .pure ()

-----------------------------------------------------------------------------------------
-- Hooks
-----------------------------------------------------------------------------------------

/-- Changing a registry notes no event and leaves the scene, by its two names. -/
theorem Job.setRegistry_trace_scene (job : Job) (name : RegistryName) (registry : Registry)
    : (job.setRegistry name registry).trace = job.trace
      ∧ (job.setRegistry name registry).scene = job.scene := by
  cases name <;> exact ⟨rfl, rfl⟩

theorem Stable.setRegistry (h : Stable I) (name : RegistryName) (registry : Job → Registry)
    : Preserves I (change fun job => job.setRegistry name (registry job)) :=
  h.changes (fun job => (job.setRegistry_trace_scene name _).1) fun job =>
    (job.setRegistry_trace_scene name _).2

theorem Stable.fire (h : Stable I) (number : Nat) (hook : SessionHook)
    : Preserves I (Shutdown.fire number hook) := by
  rw [Shutdown.fire]
  split
  · exact .pure ()
  · refine .bind (h.changes (fun _ => rfl) fun _ => rfl) fun _ => ?_
    exact ((h.tell _ _).andFinally (h.close _)).bind fun _ => h.tell _ _

/-- Running the hooks of a registry keeps a stable property if each call of a hook does. -/
theorem Stable.runHooks (h : Stable I) {call : Nat → Act Unit}
    (hc : ∀ number, Preserves I (call number)) (name : RegistryName)
    : Preserves I (Shutdown.runHooks call name) :=
  Preserves.state.bind fun _ => .forEach fun number _ => (hc number).rescue fun _ => h.record rfl

/-- A signal keeps a stable property if each call of a hook does. -/
theorem Stable.handleSignal (h : Stable I) {call : Nat → Act Unit}
    (hc : ∀ number, Preserves I (call number)) (name : RegistryName) (signal : Nat)
    : Preserves I (Shutdown.handleSignal (α := α) call name signal) :=
  (h.record rfl).bind fun _ => (h.runHooks hc name).bind fun _ => .fail _

theorem Stable.install (h : Stable I) (name : RegistryName) (mainThread : Bool)
    : Preserves I (Shutdown.install name mainThread) := by
  refine Preserves.state.bind fun job => ?_
  dsimp only
  split
  · exact .pure ()
  · refine .bind (h.setRegistry name _) fun _ => (h.record rfl).bind fun _ => ?_
    split
    · exact .forEach fun _ _ => h.record rfl
    · exact .pure ()

theorem Stable.changeHooks (h : Stable I) (name : RegistryName) (f : List Nat → List Nat)
    : Preserves I (Shutdown.changeHooks name f) :=
  h.setRegistry name _

theorem Stable.addHook (h : Stable I) (hook : Hook) : Preserves I (Shutdown.addHook hook) :=
  Preserves.state.bind fun _ => .bind (h.changes (fun _ => rfl) fun _ => rfl) fun _ => .pure _

/-- Registering a hook for a session keeps a stable property. -/
theorem Stable.register (h : Stable I) (name : RegistryName) (session : Session)
    (listener : Listener)
    : Preserves I (Shutdown.register name session listener) :=
  (h.addHook _).bind fun hook => (h.install name true).bind fun _ =>
    (h.changeHooks name (· ++ [hook])).bind fun _ => (h.record rfl).bind fun _ => .pure hook

/-- Doing something with the hook with a name keeps every property that this keeps. -/
theorem preserves_withNamed {act : Nat → Act Unit} (hc : ∀ number, Preserves I (act number))
    (name : String)
    : Preserves I (HookStep.withNamed name act) := by
  refine (Preserves.state.bind fun _ => .pure _).bind fun hook => ?_
  cases hook with
  | none => exact (Preserves.pure ()).bind fun _ => .pure _
  | some number => exact (hc number).bind fun _ => .pure _

/-- A step of a program keeps a stable property if each call of a hook does, by the cases of the
step.
-/
theorem Stable.perform (h : Stable I) {call : Nat → Act Unit}
    (hc : ∀ number, Preserves I (call number)) (step : HookStep)
    : Preserves I (step.perform call) := by
  have hname : ∀ name hook, Preserves I (HookStep.bindName name hook) :=
    fun _ _ => h.changes (fun _ => rfl) fun _ => rfl
  cases step with
  | makeHook name failing steps =>
      exact (h.addHook _).bind fun hook => (hname name hook).bind fun _ => .pure _
  | makeSessionHook name session listener =>
      exact (h.addHook _).bind fun hook => (hname name hook).bind fun _ => .pure _
  | register registry name session listener =>
      exact (h.register registry session listener).bind fun hook =>
        (hname name hook).bind fun _ => .pure _
  | add registry name => exact preserves_withNamed (fun hook => h.changeHooks registry _) name
  | remove registry name => exact preserves_withNamed (fun hook => h.changeHooks registry _) name
  | call name => exact preserves_withNamed hc name
  | fired name =>
      refine (Preserves.state.bind fun _ => .pure _).bind fun hook => ?_
      cases hook with
      | none => exact .pure _
      | some number => exact Preserves.state.bind fun _ => .pure _
  | run registry => exact (h.runHooks hc registry).bind fun _ => .pure _
  | install registry mainThread => exact (h.install registry mainThread).bind fun _ => .pure _
  | signal registry number => exact h.handleSignal hc registry number

/-- A call of a hook keeps a stable property if the calls that its program makes do. -/
theorem Stable.callBy (h : Stable I) {inner : Nat → Act Unit}
    (hc : ∀ number, Preserves I (inner number)) (number : Nat)
    : Preserves I (Shutdown.callBy inner number) := by
  refine Preserves.state.bind fun job => ?_
  cases job.hooks[number]? with
  | none => exact .pure ()
  | some hook =>
      cases hook with
      | session hook => exact h.fire number hook
      | program name failing steps =>
          refine (h.record rfl).bind fun _ => ?_
          refine (Preserves.forEach fun step _ => ?_).bind fun _ => preserves_failIf failing
          exact (h.perform hc step).bind fun _ => .pure ()

/-- Every call of a hook keeps a stable property, by induction on the depth to which hooks may call
each other.
-/
theorem Stable.callHook (h : Stable I) (depth number : Nat)
    : Preserves I (Shutdown.callHook depth number) := by
  induction depth generalizing number with
  | zero => exact h.callBy (fun _ => .pure ()) number
  | succ depth ih => exact h.callBy ih number

/-- Waiting for an answer of the database keeps a stable property, also if a signal arrives
meanwhile and runs the hooks.
-/
theorem Stable.nextReply (h : Stable I) : Preserves I Executor.nextReply := by
  refine Preserves.state.bind fun job => .bind (h.changes (fun _ => rfl) fun _ => rfl) fun _ => ?_
  cases job.database.reply job.statements with
  | fault fault => exact .fail fault
  | signal number =>
      exact h.handleSignal (fun hook => h.callHook Shutdown.callDepth hook) .standard number
  | answer columns rows changed fetching => exact .pure _

end

end SqlShell
