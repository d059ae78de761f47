import SqlShell.Client.Shell
import SqlShell.Proofs.Job.Acts

/-! The core of a job's state: all of it but the files, and of the events only those that touch a
session. Most acts only tell the user something and keep the core as it is.
-/

namespace SqlShell

/-- The event opens, uses or closes a session, in this job or elsewhere. -/
def Event.touchesSession : Event → Bool
  | .connect _ number => number.isSome
  | .execute _ _ => true
  | .disconnect _ => true
  | .call name _ => ["open_session", "execute", "close_session"].contains name
  | _ => false

namespace Job

/-- The events that touch sessions, in order. -/
def sessionEvents (job : Job) : List Event :=
  job.trace.filter Event.touchesSession

/-- The state without files and without the events that touch no session. -/
def core (job : Job) : Job :=
  { job with trace := job.sessionEvents, files := ⟨[]⟩ }

section

variable {job after : Job}

theorem database_of_core (h : after.core = job.core) : after.database = job.database :=
  (congrArg Job.database h :)

theorem connections_of_core (h : after.core = job.core) : after.connections = job.connections :=
  (congrArg Job.connections h :)

theorem statements_of_core (h : after.core = job.core) : after.statements = job.statements :=
  (congrArg Job.statements h :)

theorem executors_of_core (h : after.core = job.core) : after.executors = job.executors :=
  (congrArg Job.executors h :)

theorem hooks_of_core (h : after.core = job.core) : after.hooks = job.hooks :=
  (congrArg Job.hooks h :)

theorem standard_of_core (h : after.core = job.core) : after.standard = job.standard :=
  (congrArg (Job.registry · .standard) h :)

theorem sessionEvents_of_core (h : after.core = job.core)
    : after.sessionEvents = job.sessionEvents :=
  (congrArg Job.trace h :)

end

/-- An event that touches no session is not in the core. -/
theorem core_note {job : Job} {event : Event} (h : event.touchesSession = false)
    : (job.note event).core = job.core := by
  simp [core, note, sessionEvents, List.filter_append, h]

/-- An event that touches a session is the last one of them. -/
theorem sessionEvents_note {job : Job} {event : Event} (h : event.touchesSession = true)
    : (job.note event).sessionEvents = job.sessionEvents ++ [event] := by
  simp [note, sessionEvents, List.filter_append, h]

end Job

namespace Act

variable {α β : Type}

/-- The act keeps the core of the state, however it ends. -/
def KeepsCore (act : Act α) : Prop :=
  ∀ job, (act job).2.core = job.core

-----------------------------------------------------------------------------------------
-- How acts are put together
-----------------------------------------------------------------------------------------

theorem keepsCore_iff {act : Act α}
    : KeepsCore act ↔ ∀ core, Preserves (fun job => job.core = core) act :=
  ⟨fun h _ job hj => (h job).trans hj, fun h job => h job.core job rfl⟩

/-- An act that keeps the core preserves every property of the core. -/
theorem KeepsCore.preserves {act : Act α} (h : KeepsCore act) {I : Job → Prop}
    (hi : ∀ job after, after.core = job.core → I job → I after)
    : Preserves I act :=
  fun job => hi job _ (h job)

theorem KeepsCore.core_eq {act : Act α} (h : KeepsCore act) {result : Except Fault α}
    {job after : Job} (he : act job = (result, after))
    : after.core = job.core := by
  have hkept := h job
  rw [he] at hkept
  exact hkept

theorem KeepsCore.pure (value : α) : KeepsCore (pure value : Act α) :=
  keepsCore_iff.mpr fun _ => .pure value

theorem KeepsCore.fail (fault : Fault) : KeepsCore (fail fault : Act α) :=
  keepsCore_iff.mpr fun _ => .fail fault

theorem KeepsCore.state : KeepsCore state :=
  keepsCore_iff.mpr fun _ => .state

/-- Two acts one after the other keep the core if each of them does. -/
theorem KeepsCore.bind {act : Act α} {next : α → Act β} (h : KeepsCore act)
    (hn : ∀ value, KeepsCore (next value))
    : KeepsCore (act >>= next) :=
  keepsCore_iff.mpr fun core =>
    (keepsCore_iff.mp h core).bind fun value => keepsCore_iff.mp (hn value) core

/-- An act that keeps the core leaves it as the act before it does. -/
theorem core_bind {act : Act α} {next : α → Act β} (hn : ∀ value, KeepsCore (next value))
    (job : Job)
    : ((act >>= next) job).2.core = (act job).2.core := by
  rw [bind_apply]
  split
  · next value after ha => rw [hn value after, ha]
  · next ha => rw [ha]

theorem KeepsCore.ofResult (result : Except Fault α) : KeepsCore (ofResult result) :=
  keepsCore_iff.mpr fun _ => .ofResult result

/-- Handling faults keeps the core if the act and the handling do. -/
theorem KeepsCore.rescue {act : Act α} {kinds : FaultKind → Bool} {handle : Fault → Act α}
    (h : KeepsCore act) (hh : ∀ fault, KeepsCore (handle fault))
    : KeepsCore (act.rescue kinds handle) :=
  keepsCore_iff.mpr fun core =>
    (keepsCore_iff.mp h core).rescue fun fault => keepsCore_iff.mp (hh fault) core

/-- Handling that keeps the core leaves it as the act does. -/
theorem core_rescue {kinds : FaultKind → Bool} {handle : Fault → Act α}
    (hh : ∀ fault, KeepsCore (handle fault)) (act : Act α) (job : Job)
    : (act.rescue kinds handle job).2.core = (act job).2.core := by
  rw [rescue_apply]
  split
  · next ha => rw [ha]
  · next fault after ha =>
      rw [ha]
      split
      · exact hh fault after
      · rfl

/-- Acts for several items keep the core if each of them does. -/
theorem KeepsCore.forEach {items : List α} {act : α → Act Unit}
    (h : ∀ item, KeepsCore (act item))
    : KeepsCore (forEach items act) :=
  keepsCore_iff.mpr fun core => .forEach fun item _ => keepsCore_iff.mp (h item) core

theorem KeepsCore.record {event : Event} (h : event.touchesSession = false)
    : KeepsCore (record event) :=
  fun _ => Job.core_note h

theorem KeepsCore.log (level : LogLevel) (message : String) : KeepsCore (log level message) :=
  .record rfl

theorem KeepsCore.changeFiles (f : Job → FileTree)
    : KeepsCore (change fun job => { job with files := f job }) :=
  fun _ => rfl

end Act

-----------------------------------------------------------------------------------------
-- Output
-----------------------------------------------------------------------------------------

namespace Console

open Act

theorem keepsCore_write (stream : Stream) (text : List Char) : KeepsCore (write stream text) :=
  .record rfl

/-- Showing something on a terminal keeps the core, also if it is cut short. -/
theorem keepsCore_display (stream : Stream) (shown : Except Display.Problem Display.Written)
    : KeepsCore (display stream shown) := by
  refine (KeepsCore.ofResult _).bind fun written => ?_
  refine (keepsCore_write stream written.text).bind fun _ => ?_
  cases written.problem with
  | none => exact .pure ()
  | some problem => exact .fail _

theorem keepsCore_notice (stream : Stream) (text : String) : KeepsCore (notice stream text) := by
  refine KeepsCore.state.bind fun job => ?_
  cases job.output with
  | noted => exact .record rfl
  | verbatim => exact keepsCore_write stream _
  | laidOut columns => exact keepsCore_display stream _

theorem keepsCore_tell (listener : Listener) (text : String) : KeepsCore (tell listener text) := by
  cases listener with
  | nobody => exact .pure ()
  | user => exact keepsCore_notice .err text
  | noting failing =>
      refine (KeepsCore.record rfl).bind fun _ => ?_
      cases failing with
      | none => exact .pure ()
      | some given =>
          dsimp only
          split
          · exact .fail _
          · exact .pure ()

theorem keepsCore_print (stream : Stream) (text : String) : KeepsCore (print stream text) := by
  refine KeepsCore.state.bind fun job => ?_
  cases job.output with
  | noted => exact .record rfl
  | verbatim => exact keepsCore_write stream _
  | laidOut columns => exact (KeepsCore.ofResult _).bind fun _ => keepsCore_display stream _

theorem keepsCore_requireTables : KeepsCore requireTables := by
  refine KeepsCore.state.bind fun job => ?_
  split
  · exact .fail _
  · exact .pure ()

theorem keepsCore_table (headings : List String) (rows : List (List String))
    : KeepsCore (table headings rows) := by
  refine KeepsCore.state.bind fun job => ?_
  cases job.output with
  | noted => exact .record rfl
  | verbatim => exact keepsCore_write .out _
  | laidOut columns => exact keepsCore_display .out _

end Console

theorem StatementResult.keepsCore_shown (result : StatementResult)
    : Act.KeepsCore result.shown := by
  rw [shown]
  split
  · exact Console.keepsCore_notice .out _
  · refine Console.keepsCore_requireTables.bind fun _ => ?_
    refine (Act.KeepsCore.ofResult _).bind fun rows => ?_
    exact (Console.keepsCore_table result.columns rows).bind fun _ =>
      Console.keepsCore_notice .out _

/-- An act that looks at an executor goes on with it. -/
theorem LocalExecutor.withNumber_bind {β : Type} (number : Nat) (next : LocalExecutor → Act β)
    (job : Job)
    : (withNumber number >>= next) job = next ((job.executors[number]?).getD {}) job :=
  rfl

/-- Looking up a session that is open yields it. -/
theorem LocalExecutor.openedSession_of_some {number : Nat} {handle : String} {job : Job}
    {session : LocalSession}
    (h : ((job.executors[number]?).getD {}).session? handle = some session)
    : openedSession number handle job = (.ok session, job) := by
  rw [openedSession, withNumber_bind, h]
  rfl

/-- Looking up a session that is not open fails. -/
theorem LocalExecutor.openedSession_of_none {number : Nat} {handle : String} {job : Job}
    (h : ((job.executors[number]?).getD {}).session? handle = none)
    : openedSession number handle job =
        (.error (failure ("Invalid session identifier: " ++ handle)), job) := by
  rw [openedSession, withNumber_bind, h]
  rfl

theorem LocalExecutor.keepsCore_openedSession (number : Nat) (handle : String)
    : Act.KeepsCore (openedSession number handle) := by
  refine (Act.KeepsCore.state.bind fun job => .pure _).bind fun executor => ?_
  cases executor.session? handle with
  | some session => exact .pure session
  | none => exact .fail _

theorem Executor.keepsCore_configuration (executor : Executor) (handle : String)
    : Act.KeepsCore (executor.configuration handle) := by
  cases executor with
  | here number => exact (LocalExecutor.keepsCore_openedSession number handle).bind fun _ => .pure _
  | elsewhere remote => exact (Act.KeepsCore.record rfl).bind fun _ => .ofResult _

theorem Client.keepsCore_showConfiguration (client : Client)
    : Act.KeepsCore client.showConfiguration := by
  refine (Executor.keepsCore_configuration _ _).bind fun configuration => ?_
  split
  · exact Console.keepsCore_notice .out _
  · refine (Act.KeepsCore.ofResult _).bind fun sorted => Act.KeepsCore.forEach fun entry => ?_
    refine (Act.KeepsCore.ofResult _).bind fun key => ?_
    refine (Act.KeepsCore.ofResult _).bind fun value => ?_
    exact Console.keepsCore_notice .out _

namespace Prompt

open Act

theorem keepsCore_ask (history : History) (message : String) : KeepsCore (ask history message) :=
  (KeepsCore.record rfl).bind fun _ => .record rfl

/-- Making files keeps the core, also if the system refuses it. -/
theorem keepsCore_systemRefuses (result : Except FileProblem Unit × FileTree)
    : KeepsCore (systemRefuses result) := by
  refine (KeepsCore.changeFiles fun _ => result.2).bind fun _ => ?_
  cases result.1 with
  | ok _ => exact .pure false
  | error problem =>
      show KeepsCore (if problem.fault.kind.isSystem then _ else _)
      split
      · exact .pure true
      · exact .fail _

theorem keepsCore_openHistory (path : Path) : KeepsCore (openHistory path) := by
  have hm : KeepsCore (do
      log .warning ("Unable to create history file " ++ path.text
        ++ ", command history is not saved")
      return History.memory) :=
    (KeepsCore.log _ _).bind fun _ => .pure _
  refine KeepsCore.state.bind fun job => ?_
  refine (keepsCore_systemRefuses _).bind fun refused => ?_
  split
  · exact hm
  · refine KeepsCore.state.bind fun job => ?_
    refine (keepsCore_systemRefuses _).bind fun refused => ?_
    split
    · exact hm
    · exact (KeepsCore.log _ _).bind fun _ => .pure _

/-- Getting a prompt ready keeps the core, also if a library is missing. -/
theorem keepsCore_ready (path : Path) : KeepsCore (ready path) := by
  refine KeepsCore.state.bind fun job => ?_
  dsimp only
  split
  · exact fun _ => rfl
  · split
    · exact fun _ => rfl
    · exact keepsCore_openHistory path

end Prompt

-----------------------------------------------------------------------------------------
-- Asking for lines
-----------------------------------------------------------------------------------------

namespace Client

open Act

/-- A way to ask for lines never fails and keeps the core of the state. -/
def Asks (ask : String → Act Unit) : Prop :=
  ∀ message job, ∃ after, ask message job = (.ok (), after) ∧ after.core = job.core

/-- A way to ask that never fails keeps the core. -/
theorem Asks.keepsCore {ask : String → Act Unit} (h : Asks ask) (message : String)
    : KeepsCore (ask message) := by
  intro job
  obtain ⟨after, he, hc⟩ := h message job
  rw [he]
  exact hc

theorem keepsCore_asking (client : Client) : KeepsCore client.asking := by
  rw [asking]
  split
  · exact (Prompt.keepsCore_ready client.history).bind fun _ => .pure _
  · exact .pure _

/-- Once the way to ask for lines is ready it never fails. -/
theorem asks_of_asking {client : Client} {ask : String → Act Unit} {job after : Job}
    (h : client.asking job = (.ok ask, after))
    : Asks ask := by
  rw [asking] at h
  split at h
  · cases hr : Prompt.ready client.history job with
    | mk result last =>
        cases result with
        | error fault =>
            rw [bind_of_error (by rw [hr])] at h
            exact nomatch h
        | ok history =>
            rw [bind_of_ok hr] at h
            obtain ⟨hask, _⟩ := Prod.mk.inj h
            obtain rfl := Except.ok.inj hask
            exact fun message job => ⟨_, rfl, Prompt.keepsCore_ask history message job⟩
  · obtain ⟨hask, _⟩ := Prod.mk.inj h
    obtain rfl := Except.ok.inj hask
    exact fun message job => ⟨_, rfl, Job.core_note rfl⟩

end Client

end SqlShell
