import SqlShell.Proofs.Options.Occurrences
import SqlShell.Proofs.Program.OneSession
import SqlShell.Proofs.Program.Reporting
import SqlShell.Proofs.Session.ModeCalls

/-! A run of the program for a script executes a first part of its statements, up to the first one
whose reply raises a fault or has a result that cannot be shown, and its exit code tells whether there
was one and of which kind. Nothing is executed where the path looks like an option, or where there is
no home directory for the history.
-/

namespace SqlShell

open Act

namespace CommandLine

/-- The file option leaves it to the role of the argument after it how both are read. -/
theorem parse_file_cons (path : String)
    : parse ["-f", path] =
        (roles [path] >>= fun rest => readRoles {} (("-f", .flag .file none) :: rest)) >>=
          fun reading =>
            if reading.extras.isEmpty then return reading.options
            else .error (.unrecognized reading.extras) := by
  have hflag : roleOf "-f" = .ok (.flag .file none) := by decide +kernel
  rw [parse, roles, hflag]
  cases roles [path] <;> rfl

/-- The file option takes the next argument as the script, unless that looks like an option. -/
theorem parse_file {path : String} (h : roleOf path = .ok .value)
    : parse ["-f", path] = .ok { script := some (.text path) } := by
  have hmark : path ≠ "--" := by
    rintro rfl
    exact absurd h (by decide +kernel)
  have hread : readRoles {} [("-f", .flag .file none), (path, .value)] =
      .ok { given := [(.file, .text path)] } := by
    simp [readRoles, expand, Flag.takesValue, Flag.valueName?, Reading.addFlags, Reading.addValue,
      bind, Except.bind]
  rw [parse_file_cons, roles_cons hmark h []]
  show (readRoles {} _ >>= _) = _
  rw [hread]
  rfl

end CommandLine

/-- A path leads to a script: to a file of UTF-8 text, whose line ends all count as line feeds. -/
def LeadsToScript (start : Job) (path : String) (script : List Char) : Prop :=
  ∃ file bytes text, Locator.ofText path.toList = .ok (.file file)
    ∧ start.files.read file = .ok bytes ∧ Utf8.decode bytes = .ok text
    ∧ script = Text.unifyLineEnds text

/-- What a path leads to is what is read there. -/
theorem LeadsToScript.read {start : Job} {path : String} {script : List Char}
    (h : LeadsToScript start path script)
    : Locator.read start.sources path.toList = .ok script := by
  obtain ⟨file, bytes, text, hl, hr, hd, rfl⟩ := h
  rw [Locator.read, hl]
  show Locator.readPath start.files file = _
  rw [Locator.readPath, hr]
  show (Locator.textOf bytes >>= fun text => _) = _
  rw [Locator.textOf, hd]
  rfl

/-- Reads the script behind a locator and runs it, as the mode for scripts does. -/
def Client.runScript (client : Client) (locator : String) : Act Unit := do
  client.executeFile (← Mode.loadScript Mode.readLocal locator)

/-- A text that is read runs as its statements, one after the other. -/
theorem Client.runScript_of_read {job : Job} {locator : String} {text : List Char}
    (client : Client) (h : Locator.read job.sources locator.toList = .ok text)
    : client.runScript locator job = forEach (Statement.split text) client.scriptStep job := by
  have hlocal : Mode.readLocal locator job = (.ok (String.ofList text), job) := by
    rw [Mode.readLocal, state_bind, h]
    rfl
  have hload : Mode.loadScript Mode.readLocal locator job = (.ok (String.ofList text), job) := by
    rw [Mode.loadScript, rescue_of_ok (by rw [hlocal]), hlocal]
  rw [Client.runScript, bind_of_ok hload, Client.executeFile_eq, String.toList_ofList]

namespace Lifetime

variable {start job : Job} {session : Session}

-----------------------------------------------------------------------------------------
-- The mode
-----------------------------------------------------------------------------------------

/-- The mode that the options select, in a session of this job. -/
abbrev modeOf (answers : List Answer) (session : Session) (options : Options) : Act Outcome :=
  Mode.run (FrontEnd.ofClient answers) Mode.readLocal none none session options

/-- What is done in the front end of a client ends as it does alone, and the client is closed. -/
theorem within_frontOf (client : Client) (answers : List Answer) (act : Act Unit) (job : Job)
    : Mode.within (frontOf client answers) act job =
        ((act job).1, (client.close (act job).2).2) := by
  obtain ⟨after, he, _⟩ := close_client job client (act job).2
  have henter : (frontOf client answers).enter job = (.ok (), job) := rfl
  have hleave : ∀ told, (frontOf client answers).leave told (act job).2 = (.ok false, after) :=
    fun _ => bind_of_ok he
  rw [he, Mode.within, bind_of_ok henter]
  cases ha : act job with
  | mk result middle =>
      rw [ha] at hleave
      have hobserve : act.observe job = (.ok result, middle) := by rw [observe, ha]
      rw [bind_of_ok hobserve]
      cases result with
      | ok value =>
          dsimp only
          rw [bind_of_ok (hleave none)]
          rfl
      | error fault =>
          dsimp only
          rw [bind_of_ok (hleave (some fault))]
          rfl

/-- The mode for scripts notes which script it runs, and runs it. -/
theorem runSelected_eq_runScript {locator : String} (client : Client) (answers : List Answer)
    (options : Options) (h : options.script = some (.text locator))
    : Mode.runSelected (frontOf client answers) Mode.readLocal options = (do
        log .info ("Executing SQL script " ++ locator)
        client.runScript locator) := by
  have hgiven : ∀ next : String → Act Unit, (pure locator >>= next) = next locator := fun _ => rfl
  rw [Mode.runSelected, h]
  simp only [Setting.shown, Setting.key, ofResult, hgiven, frontOf, Client.runScript]

/-- The job in which the first statement of a script is executed. -/
def beforeScript (locator : String) (job : Job) : Job :=
  job.note (.log .info ("Executing SQL script " ++ locator))

/-- The mode for scripts executes the statements that it reads behind the locator. -/
theorem runSelected_of_read {locator : String} {text : List Char} (client : Client)
    (answers : List Answer) (options : Options) (h : options.script = some (.text locator))
    (hread : Locator.read job.sources locator.toList = .ok text)
    : Mode.runSelected (frontOf client answers) Mode.readLocal options job =
        forEach (Statement.split text) client.scriptStep (beforeScript locator job) := by
  have hlog : log .info ("Executing SQL script " ++ locator) job =
      (.ok (), beforeScript locator job) :=
    rfl
  rw [runSelected_eq_runScript client answers options h, bind_of_ok hlog]
  exact client.runScript_of_read hread

/-- The client that a mode runs in, with the history in the home directory. -/
def clientOf (session : Session) (home : Path) (job : Job) : Client :=
  { session, history := home.child (HistoryFile.fileName (HistoryFile.isWindows job.platform)) }

/-- A mode whose options are in no conflict ends as what they select does, and closes its client. -/
theorem modeOf_apply {options : Options} {answers : List Answer} {history : Path}
    {raised : Option Fault} {ran : Job} (hc : options.conflicts = [])
    (hh : HistoryFile.path options.history none none job = (.ok history, job))
    (h : Mode.runSelected (frontOf { session, history } answers) Mode.readLocal options
      { job with clientClosed := false } = (endOf raised, ran))
    : modeOf answers session options job =
        (outcomeOf raised, (Client.close { session, history } ran).2) := by
  have hfront : FrontEnd.ofClient answers session history job =
      (.ok (frontOf { session, history } answers), { job with clientClosed := false }) :=
    rfl
  rw [modeOf, Mode.run, bind_of_ok hh, hc]
  refine outcome_of_end ?_
  rw [bind_of_ok hfront, bind_apply, within_frontOf, h]
  cases raised <;> rfl

/-- Without an option for it the history of a client is in the home directory. -/
theorem historyPath_of_home (session : Session) {home : Path} {options : Options}
    (hh : options.history = none) (hhome : HistoryFile.homeDirectory job = .ok home)
    : HistoryFile.path options.history none none job =
        (.ok (clientOf session home job).history, job) := by
  rw [hh, HistoryFile.path, state_bind, hhome]
  rfl

/-- Where a mode starts, with its client open and a line in the log, the session is live as before and
nothing has been sent for the mode.
-/
theorem Live.enter {entered : Job} (h : Live start session job) (message : String)
    (he : ({ job with clientClosed := false } : Job).note (.log .info message) = entered)
    : Live start session entered ∧ entered.sent = job.sent ∧ entered.scene = job.scene
      ∧ entered.statements = job.statements := by
  subst he
  exact ⟨(preserves_clientClosed false job h).of_core (Job.core_note rfl),
    (Job.sent_note _ _).trans (List.append_nil _), rfl, rfl⟩

/-- Without a home directory for the history a mode does nothing. -/
theorem modeOf_homeless {options : Options} (hh : options.history = none)
    (hhome : (HistoryFile.homeDirectory job).isOk = false) (answers : List Answer)
    (session : Session)
    : ∃ fault, fault.kind = .runtime
        ∧ modeOf answers session options job = (outcomeOf (some fault), job) := by
  cases hd : HistoryFile.homeDirectory job with
  | ok home =>
      rw [hd] at hhome
      exact nomatch hhome
  | error fault =>
      have hkind : fault.kind = .runtime := by
        rw [HistoryFile.homeDirectory] at hd
        split at hd
        · exact Except.error.inj hd ▸ rfl
        · cases hd
      have hpath : HistoryFile.path options.history none none job = (.error fault, job) := by
        rw [hh, HistoryFile.path, state_bind, hd]
        rfl
      refine ⟨fault, hkind, ?_⟩
      rw [modeOf, Mode.run, bind_of_error (by rw [hpath]), hpath, outcomeOf, hkind]
      rfl

-----------------------------------------------------------------------------------------
-- The session
-----------------------------------------------------------------------------------------

/-- A result that is no fault is a value. -/
theorem exists_of_isOk {α : Type} {result : Except Fault α} (h : result.isOk = true)
    : ∃ value, result = .ok value := by
  cases result with
  | ok value => exact ⟨value, rfl⟩
  | error fault => exact nomatch h

/-- Nothing has been done in the job, output is only noted, and the session that a run with the options
opens does so and closes without a fault.
-/
structure ReadyFor (options : Options) (start : Job) : Prop extends Fresh start where
  records : start.Records
  opens : (Session.openWith Session.makeLocal Session.readLocal .user options start).1.isOk = true
  closes : start.database.closing (connection start) = none

/-- A session that has been used is closed without a fault if the database closes it without one,
also if a signal has closed it before.
-/
theorem close_of_uses {α : Type} {act : Act α} (h : Uses start session act)
    (hl : Live start session job) (hc : start.database.closing (connection start) = none)
    : (session.close (act job).2).1 = .ok ()
      ∧ ∃ count, Ended start count (session.close (act job).2).2 := by
  rcases h job hl with hlive | ⟨_, count, _, _, _, _, _, _, hended⟩
  · obtain ⟨hended, hfault⟩ := hlive.toOpened.close
    refine ⟨?_, _, hended⟩
    cases he : (session.close (act job).2).1 with
    | ok value => rfl
    | error fault => exact nomatch hc.symm.trans (hfault fault he)
  · obtain ⟨database, statements, hrests, hn⟩ := hended
    have hclose := hrests.close_apply hl.local_
    rw [hclose]
    exact ⟨rfl, count + 1, database, statements, hrests.of_core (Job.core_note rfl), hn⟩

/-- Opening a session and registering its hook leaves the session live, and everything else that a
mode depends on as it was.
-/
theorem Fresh.live {options : Options} (h : Fresh start)
    (hopens : (Session.openWith Session.makeLocal Session.readLocal .user options start).1.isOk =
      true)
    : ∃ session opened hook registered,
        Session.openWith Session.makeLocal Session.readLocal .user options start =
          (.ok session, opened)
        ∧ Shutdown.register .standard session .user opened = (.ok hook, registered)
        ∧ Live start session registered
        ∧ registered.scene = start.scene ∧ registered.sent = start.sent := by
  have hkeeps : ∀ {I : Job → Prop}, Stable I → I start →
      I (Session.openWith Session.makeLocal Session.readLocal .user options start).2 :=
    fun hs hi => hs.openWith options start hi
  obtain ⟨session, hsession⟩ := exists_of_isOk hopens
  have hopen := opensOrIdle_openWith h options
  have hscene := hkeeps (stable_inScene start.scene) rfl
  have hsent := hkeeps (stable_hasSent start.sent) rfl
  cases ho : Session.openWith Session.makeLocal Session.readLocal .user options start with
  | mk result opened =>
      rw [ho] at hsession hopen hscene hsent
      obtain rfl : result = .ok session := hsession
      have hunguarded : Unguarded start session opened := hopen
      obtain ⟨hook, registered, hr, hl⟩ := live_register hunguarded
      have hregister : ∀ {I : Job → Prop}, Stable I → I opened → I registered := by
        intro I hs hi
        have hregistered := hs.register .standard session .user opened hi
        rwa [hr] at hregistered
      exact ⟨session, opened, hook, registered, rfl, hr, hl, hregister (stable_inScene _) hscene,
        hregister (stable_hasSent _) hsent⟩

theorem Fresh.sent_eq (h : Fresh start) : start.sent = [] := by
  rw [Job.sent_eq, h.events_eq]
  rfl

/-- Once its session is open and guarded, the mode does what the options select and closes the
session, and ends as they ask if the closing ends well.
-/
theorem runEmbedded_apply {options : Options} {answers : List Answer} {opened registered : Job}
    {hook : Nat} (hc : options.conflicts = [])
    (ho : Session.openWith Session.makeLocal Session.readLocal .user options start =
      (.ok session, opened))
    (hr : Shutdown.register .standard session .user opened = (.ok hook, registered))
    (hclosed : (session.close (modeOf answers session options registered).2).1 = .ok ())
    : Program.runEmbedded options answers start =
        ((modeOf answers session options registered).1,
          (session.close (modeOf answers session options registered).2).2) := by
  have hobserve : (Session.openWith Session.makeLocal Session.readLocal .user options).observe
      start = (.ok (.ok session), opened) := by
    rw [observe, ho]
  generalize hused : modeOf answers session options registered = used at hclosed
  rw [Program.runEmbedded, hc]
  dsimp only
  rw [bind_of_ok hobserve]
  dsimp only
  rw [andFinally_of_eq (bind_of_ok hr), ← modeOf, andFinally_apply, hused]
  cases he : session.close used.2 with
  | mk result after =>
      rw [he] at hclosed
      obtain rfl : result = .ok () := hclosed
      rfl

/-- A run opens a session in which nothing has been executed, does there what its mode does, and closes
it. It ends as the mode does.
-/
theorem Fresh.runEmbedded {options : Options} (h : Fresh start) (hc : options.conflicts = [])
    (hopens : (Session.openWith Session.makeLocal Session.readLocal .user options start).1.isOk =
      true)
    (hcloses : start.database.closing (connection start) = none) (answers : List Answer)
    : ∃ session registered, Live start session registered
        ∧ registered.scene = start.scene ∧ registered.sent = []
        ∧ registered.statements = start.statements
        ∧ Program.runEmbedded options answers start =
          ((modeOf answers session options registered).1,
            (session.close (modeOf answers session options registered).2).2)
        ∧ ∃ count, Ended start count (Program.runEmbedded options answers start).2 := by
  obtain ⟨session, opened, hook, registered, hopen, hregister, hlive, hscene, hsent⟩ :=
    h.live hopens
  rw [h.sent_eq] at hsent
  have hcount : registered.statements = start.statements := by
    rw [hlive.toOpened.statements_eq, hsent]
    rfl
  obtain ⟨hclosed, hended⟩ := close_of_uses (Uses.run answers options) hlive hcloses
  have hrun := runEmbedded_apply hc hopen hregister hclosed
  refine ⟨session, registered, hlive, hscene, hsent, hcount, hrun, ?_⟩
  rw [hrun]
  exact hended

/-- A run without a home directory for the history executes nothing. -/
theorem runEmbedded_homeless {options : Options} (h : Fresh start) (hc : options.conflicts = [])
    (hopens : (Session.openWith Session.makeLocal Session.readLocal .user options start).1.isOk =
      true)
    (hcloses : start.database.closing (connection start) = none) (hh : options.history = none)
    (hhome : (HistoryFile.homeDirectory start).isOk = false) (answers : List Answer)
    : ∃ fault, fault.kind = .runtime
        ∧ (Program.runEmbedded options answers start).1 = outcomeOf (some fault)
        ∧ (Program.runEmbedded options answers start).2.sent = []
        ∧ (Program.runEmbedded options answers start).2.scene = start.scene
        ∧ ∃ count, Ended start count (Program.runEmbedded options answers start).2 := by
  obtain ⟨session, registered, -, hscene, hsent, -, hrun, hended⟩ :=
    h.runEmbedded hc hopens hcloses answers
  rw [← Job.homeDirectory_of_scene hscene] at hhome
  obtain ⟨fault, hk, hmode⟩ := modeOf_homeless hh hhome answers session
  refine ⟨fault, hk, ?_, ?_, ?_, hended⟩
  · rw [hrun, hmode]
  · rw [hrun, hmode]
    exact (stable_hasSent _).close session _ hsent
  · rw [hrun, hmode]
    exact (stable_inScene _).close session _ hscene

-----------------------------------------------------------------------------------------
-- The exit code
-----------------------------------------------------------------------------------------

/-- The exit code of a run in which a fault may have been raised: one for failures of the database
and of the client, and another for other failures. Requests to stop are passed on.
-/
def codeOf : Option Fault → Except Fault Nat
  | none => .ok 0
  | some fault =>
      if fault.kind.isDatabase || fault.kind.isClient then .ok 1
      else if fault.kind.isOrdinary then .ok 2
      else .error fault

/-- A run that ends in a failure of the client is reported by the events of that failure. -/
theorem exitCode_of_failure {act : Act Outcome} {fault : Fault} {after : Job}
    (h : act job = (.ok (.failure fault), after)) (hn : after.terminal = .noted)
    : Program.exitCode act job =
        (.ok Program.failureCode, after.noteAll (Program.failureEvents after.escaped fault)) := by
  have hobserve : act.observe job = (.ok (.ok (.failure fault)), after) := by
    rw [observe, h]
  rw [Program.exitCode, bind_of_ok hobserve]
  exact Program.notes_reportFailure fault after hn rfl

/-- A run that ends in a fault is reported as a failure or as a defect, if it is no request to stop.
-/
theorem exitCode_of_fault {act : Act Outcome} {fault : Fault} {after : Job}
    (h : act job = (outcomeOf (some fault), after)) (hn : after.terminal = .noted)
    : (Program.exitCode act job).1 =
        (if fault.kind.isClient then .ok Program.failureCode
        else if fault.kind.isOrdinary then .ok Program.defectCode
        else .error fault) := by
  have hobserve : act.observe job = (.ok (outcomeOf (some fault)), after) := by
    rw [observe, h]
  rw [Program.exitCode, bind_of_ok hobserve, outcomeOf]
  cases fault.kind.isClient with
  | true => exact congrArg Prod.fst (Program.notes_reportFailure fault after hn rfl)
  | false =>
      show ((if fault.kind.isOrdinary then _ else _ : Act Nat) after).1 = _
      cases fault.kind.isOrdinary with
      | true => exact congrArg Prod.fst (Program.notes_reportDefect fault after hn rfl)
      | false => rfl

/-- The exit code is that of the fault which the database has raised, though the client is told of
another one.
-/
theorem exitCode_of_outcome {act : Act Outcome} {raised : Option Fault} {after : Job}
    (h : act job = (outcomeOf (raised.map Executor.told), after)) (hn : after.terminal = .noted)
    : (Program.exitCode act job).1 = codeOf raised := by
  cases raised with
  | none =>
      have hobserve : act.observe job = (.ok (.ok .success), after) := by
        rw [observe, h]
        rfl
      rw [Program.exitCode, bind_of_ok hobserve]
      rfl
  | some fault =>
      rw [exitCode_of_fault h hn, codeOf, ← Executor.isClient_told]
      cases hc : (Executor.told fault).kind.isClient with
      | true => rfl
      | false =>
          rw [Executor.told_of_not_isClient hc]
          rfl

/-- What is reported at the end of a run touches no session: it was connected, was sent what the run
has sent, and was disconnected.
-/
theorem sessionEvents_exitCode {act : Act Outcome} {count : Nat} (h : Ended start count (act start).2)
    : ∃ database, (Program.exitCode act start).2.sessionEvents =
        closedEvents start database (act start).2.sent := by
  have hcore := core_exitCode act start
  obtain ⟨database, hevents⟩ := (h.of_core hcore).sessionEvents_eq
  exact ⟨database, Job.sent_of_core hcore ▸ hevents⟩

/-- Without a home directory for the history a session is opened and closed with nothing between, and the
exit code is that of a defect.
-/
theorem exitCode_homeless {options : Options} (h : Fresh start) (hn : start.terminal = .noted)
    (hc : options.conflicts = [])
    (hopens : (Session.openWith Session.makeLocal Session.readLocal .user options start).1.isOk =
      true)
    (hcloses : start.database.closing (connection start) = none) (hh : options.history = none)
    (hhome : (HistoryFile.homeDirectory start).isOk = false) (answers : List Answer)
    : (∃ database, (Program.exitCode (Program.runEmbedded options answers) start).2.sessionEvents =
        [.connect database (some (start.connections + 1)), .disconnect (start.connections + 1)])
      ∧ (Program.exitCode (Program.runEmbedded options answers) start).1 =
        .ok Program.defectCode := by
  obtain ⟨fault, hk, hend, hsent, hscene, count, hended⟩ :=
    runEmbedded_homeless h hc hopens hcloses hh hhome answers
  obtain ⟨database, hevents⟩ := sessionEvents_exitCode hended
  refine ⟨⟨database, by rw [hevents, hsent]; rfl⟩, ?_⟩
  rw [exitCode_of_fault (Prod.ext hend rfl) ((Job.terminal_of_scene hscene).trans hn), hk]
  rfl

end Lifetime

end SqlShell
