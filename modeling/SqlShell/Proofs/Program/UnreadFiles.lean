import SqlShell.Program.Inputs
import SqlShell.Proofs.Program.ScriptRun
import SqlShell.Proofs.Session.UnreadInputs

/-! An input file that is not read ends a run with the exit code of a failure, unless something slips
through its reader: then the run ends with the code of a defect.
-/

namespace SqlShell

open Act

namespace Lifetime

variable {start job : Job} {session : Session} {options : Options}

/-- The mode for a script ends as its loading does, if that fails. -/
theorem runSelected_unread {client : Client} {answers : List Answer} {path : String} {fault : Fault}
    (hs : options.script = some (.text path)) (hf : Mode.scriptText job.sources path = .error fault)
    : Mode.runSelected (frontOf client answers) Mode.readLocal options job =
        (.error fault, beforeScript path job) := by
  have hlog : log .info ("Executing SQL script " ++ path) job = (.ok (), beforeScript path job) :=
    rfl
  have hload : Mode.loadScript Mode.readLocal path (beforeScript path job) =
      (.error fault, beforeScript path job) := by
    rw [Mode.loadScript_apply]
    exact Prod.ext hf rfl
  rw [runSelected_eq_runScript client answers options hs, bind_of_ok hlog, Client.runScript,
    bind_apply, hload]

theorem modeOf_unread (answers : List Answer) (session : Session) {path : String} {fault : Fault}
    {history : Path} (hs : options.script = some (.text path)) (hc : options.conflicts = [])
    (hh : HistoryFile.path options.history none none job = (.ok history, job))
    (hf : Mode.scriptText job.sources path = .error fault)
    : (modeOf answers session options job).1 = outcomeOf (some fault)
      ∧ (modeOf answers session options job).2.scene = job.scene := by
  generalize ho : ({ job with clientClosed := false } : Job) = opened
  have hscene : opened.scene = job.scene := by
    rw [← ho]
    rfl
  have hselected : Mode.runSelected (frontOf { session, history } answers) Mode.readLocal options
      { job with clientClosed := false } = (endOf (some fault), beforeScript path opened) := by
    rw [ho]
    exact runSelected_unread hs (Job.sources_of_scene hscene ▸ hf)
  rw [modeOf_apply hc hh hselected]
  exact ⟨rfl, ((stable_inScene _).closeClient _ (beforeScript path opened) rfl).trans hscene⟩

-----------------------------------------------------------------------------------------
-- The exit code
-----------------------------------------------------------------------------------------

/-- A run that opens a session does what its options ask for. -/
theorem dispatch_of_sessionOptions {arguments : List String}
    (h : Program.sessionOptions? arguments = some options) (answers : List Answer)
    : options.conflicts = []
      ∧ Program.dispatch arguments answers = Program.runEmbedded options answers := by
  cases arguments with
  | nil => cases h
  | cons mode rest =>
      rw [Program.sessionOptions?] at h
      split at h
      · next hmode =>
          rw [Program.dispatch, if_pos hmode]
          cases hp : CommandLine.parse rest with
          | error problem =>
              rw [hp] at h
              cases h
          | ok parsed =>
              rw [hp] at h
              obtain ⟨hparsed, hfilter⟩ := Option.filter_eq_some_iff.mp h
              obtain rfl := Option.some.inj hparsed
              rw [Bool.and_eq_true, Bool.not_eq_true', List.isEmpty_iff] at hfilter
              refine ⟨hfilter.2, ?_⟩
              dsimp only
              rw [if_neg (ne_true_of_eq_false hfilter.1)]
      · cases h

/-- The exit code of a run in which something is not read. -/
structure EndsUnread (slips : Prop) (result : Except Fault Nat) : Prop where
  failure : ¬slips → result = .ok Program.failureCode
  defect : slips → result = .ok Program.defectCode

/-- The code tells how the reading that ended the run has failed. -/
theorem endsUnread_of_failsAs {α : Type} {told : FaultKind → Prop} {slips : Prop}
    {act : Act Outcome} {reading : Except Fault α} {fault : Fault} {after : Job}
    (hr : reading = .error fault) (h : FailsAs told FaultKind.IsUnexpected slips reading)
    (ht : ∀ kind, told kind → kind.isClient = true)
    (ha : act job = (outcomeOf (some fault), after)) (hn : after.terminal = .noted)
    : EndsUnread slips (Program.exitCode act job).1 := by
  have hcode := exitCode_of_fault ha hn
  subst hr
  constructor
  · intro hs
    rw [hcode, ht _ (h.told hs fault rfl)]
    rfl
  · intro hs
    obtain ⟨found, hf, ho, hc⟩ := h.missed hs
    obtain rfl := Except.error.inj hf
    rw [hcode, hc, ho]
    rfl

/-- A session that does not open ends the mode with the fault of its opening. -/
theorem runEmbedded_unopened {answers : List Answer} {fault : Fault} {after : Job}
    (hc : options.conflicts = [])
    (ho : Session.openWith Session.makeLocal Session.readLocal .user options job =
      (.error fault, after))
    : Program.runEmbedded options answers job = (outcomeOf (some fault), after) := by
  have hobserve : (Session.openWith Session.makeLocal Session.readLocal .user options).observe job =
      (.ok (.error fault), after) := by
    rw [observe, ho]
  rw [Program.runEmbedded, hc]
  dsimp only
  rw [bind_of_ok hobserve, outcomeOf]
  show (if fault.kind.isClient then pure (.failure fault) else fail fault : Act Outcome) after = _
  split
  · rfl
  · rfl

/-- A run whose session does not find its inputs ends with the exit code of a failure, unless
something slips through.
-/
theorem run_unopened {arguments : List String} {dependencies : List Path} (hr : job.Records)
    (ho : Program.sessionOptions? arguments = some options)
    (hd : findDependencies job.files (options.jars.getD []) (options.libraries.getD []) =
      .ok dependencies)
    (hu : ∀ base defaults environment, ¬ Session.Finds options job base defaults environment)
    (answers : List Answer)
    : EndsUnread (Session.InputsSlip options job) (Program.run arguments answers job).1 := by
  obtain ⟨hc, hdispatch⟩ := dispatch_of_sessionOptions ho answers
  obtain ⟨fault, hf⟩ := Session.findInputs_error hu
  have hopen := Session.openWith_of_unfound hr hd hf
  have hscene := (stable_inScene job.scene).openWith options job rfl
  rw [Program.run, hdispatch]
  exact endsUnread_of_failsAs hf (Session.failsAs_findInputs options job)
    (fun _ => FaultKind.IsEnvironmentRead.isClient) (runEmbedded_unopened hc (Prod.ext hopen rfl))
    (hr.of_scene hscene).terminal_eq

/-- If there is a place for the history in a job, there is one wherever the scene is the same. -/
theorem historyPath_of_scene {given : Option Setting} (hs : job.scene = start.scene)
    (h : (HistoryFile.path given none none start).1.isOk = true)
    : ∃ history, HistoryFile.path given none none job = (.ok history, job) := by
  cases given with
  | none =>
      rw [HistoryFile.path, state_bind] at h ⊢
      rw [← Job.homeDirectory_of_scene hs] at h
      cases hhome : HistoryFile.homeDirectory job with
      | ok home => exact ⟨_, rfl⟩
      | error fault =>
          rw [hhome] at h
          exact absurd h Bool.false_ne_true
  | some setting =>
      cases setting with
      | nothing => exact absurd h Bool.false_ne_true
      | text text => exact ⟨_, rfl⟩

/-- A run whose script is not read ends with the exit code of a failure, unless its locator leads
nowhere.
-/
theorem run_unloaded {arguments : List String} {path : String} (h : ReadyFor options start)
    (ho : Program.sessionOptions? arguments = some options)
    (hs : options.script = some (.text path))
    (hh : (HistoryFile.path options.history none none start).1.isOk = true)
    (hu : ∀ text, Locator.read start.sources path.toList ≠ .ok text) (answers : List Answer)
    : EndsUnread (Locator.LeadsNowhere start.sources path.toList)
        (Program.run arguments answers start).1 := by
  obtain ⟨fault, hf⟩ := Mode.scriptText_error hu
  obtain ⟨hc, hdispatch⟩ := dispatch_of_sessionOptions ho answers
  obtain ⟨session, registered, -, hscene, -, -, hrun, -⟩ :=
    h.toFresh.runEmbedded hc h.opens h.closes answers
  obtain ⟨history, hpath⟩ := historyPath_of_scene hscene hh
  obtain ⟨hmode, hused⟩ := modeOf_unread answers session hs hc hpath
    (Job.sources_of_scene hscene ▸ hf)
  rw [hmode] at hrun
  have hafter : (session.close (modeOf answers session options registered).2).2.scene =
      start.scene :=
    ((stable_inScene _).close session _ rfl).trans (hused.trans hscene)
  rw [Program.run, hdispatch]
  exact endsUnread_of_failsAs hf
    ((Mode.failsAs_scriptText _ path).mono (fun _ => id) fun _ => FaultKind.IsDefect.unexpected)
    (fun _ => FaultKind.IsScriptRead.isClient) hrun
    (h.records.of_scene hafter).terminal_eq

-----------------------------------------------------------------------------------------
-- All inputs
-----------------------------------------------------------------------------------------

/-- The input files of a job are read, or else what fails is told as a failure of the client: of the
environment or of the script. Only where something slips through a reader does it fail in another
way, and a run ends with the exit code of a defect.
-/
structure ReportsInputs (job : Job) : Prop where
  environment : ∀ listener locator, (∀ text, (Console.tell listener text job).1 = .ok ()) →
    FailsAs FaultKind.IsEnvironmentRead FaultKind.IsDefect
      (∃ given ∈ locator, Environment.LetsSlip job.sources given)
      (Session.readEnvironment Session.readLocal listener locator job).1
  start : ∀ number executor dependencies, job.executors[number]? = some executor →
    findDependencies job.files executor.jars executor.libraries = .ok dependencies →
    FailsAs FaultKind.IsEnvironmentRead FaultKind.IsUnexpected
      (ConfigurationSlips job.files executor.directory
        ∨ ∃ base, readConfiguration job.files executor.directory = .ok base
          ∧ executor.LetsSlip job.sources)
      (LocalExecutor.start number job).1
  script : ∀ path : String,
    FailsAs FaultKind.IsScriptRead FaultKind.IsDefect (Locator.LeadsNowhere job.sources path.toList)
      (Mode.loadScript Mode.readLocal path job).1
  unopened : ∀ arguments answers options dependencies, job.Records →
    Program.sessionOptions? arguments = some options →
    findDependencies job.files (options.jars.getD []) (options.libraries.getD []) =
      .ok dependencies →
    (∀ base defaults environment, ¬ Session.Finds options job base defaults environment) →
    EndsUnread (Session.InputsSlip options job) (Program.run arguments answers job).1
  unloaded : ∀ arguments answers options path, ReadyFor options job →
    Program.sessionOptions? arguments = some options → options.script = some (.text path) →
    (HistoryFile.path options.history none none job).1.isOk = true →
    (∀ text, Locator.read job.sources path.toList ≠ .ok text) →
    EndsUnread (Locator.LeadsNowhere job.sources path.toList) (Program.run arguments answers job).1

/-- Every input file is read, or reported as one that is not, unless something slips through. -/
theorem inputs_reported (job : Job) : ReportsInputs job where
  environment listener locator ht := by
    rw [Session.readEnvironment_end ht]
    exact Session.failsAs_givenEnvironment locator job.sources
  start number executor dependencies hn hd := by
    rw [LocalExecutor.start_end hn hd]
    refine (failsAs_readConfiguration job.files executor.directory).bind _ fun base _ => ?_
    exact (LocalExecutor.failsAs_foundDefaults executor job.sources).map fun _ => dependencies
  script path := by
    rw [Mode.loadScript_apply]
    exact Mode.failsAs_scriptText job.sources path
  unopened _ answers _ _ hr ho hd hu := run_unopened hr ho hd hu answers
  unloaded _ answers _ _ h ho hs hh hu := run_unloaded h ho hs hh hu answers

/-- A job with an environment in a file, where a date does not exist. -/
def unfitJob : Job where
  files := ⟨[(["e.yaml"], .file ("a: 2001-02-30".toList.map fun c => UInt8.ofNat c.toNat))]⟩

/-- What a result has failed with, if it has. -/
def errorOf {ε α : Type} : Except ε α → Option ε
  | .ok _ => none
  | .error problem => some problem

theorem eq_error_of_errorOf {ε α : Type} {result : Except ε α} {problem : ε}
    (h : errorOf result = some problem)
    : result = .error problem := by
  cases result with
  | ok value => exact nomatch h
  | error found => exact congrArg Except.error (Option.some.inj h)

/-- The date slips through: what is told of it is no failure of the client, and the run ends with the
exit code of a defect.
-/
theorem inputs_not_all_reported
    : (Session.readEnvironment Session.readLocal .user (some (.text "e.yaml")) unfitJob).1 =
        .error { kind := .value .general, message := "day is out of range for month" }
      ∧ (Program.run ["embedded", "-e", "e.yaml"] [] unfitJob).1 = .ok 2 := by
  refine ⟨eq_error_of_errorOf ?_, ?_⟩
  · decide +kernel
  · decide +kernel

/-- The run for this environment ends with the code of a defect, and one for a script that is not
there with that of a failure.
-/
theorem inputs_reported_by_exit_codes
    : (Program.run ["embedded", "-e", "e.yaml"] [] unfitJob).1 = .ok Program.defectCode
      ∧ (Program.run ["embedded", "-f", "s.sql"] [] unfitJob).1 = .ok Program.failureCode := by
  have hrecords : unfitJob.Records := ⟨rfl, by decide +kernel⟩
  constructor
  · obtain ⟨options, ho, hgiven⟩ := (Option.any_eq_true _ _).mp (show
      (Program.sessionOptions? ["embedded", "-e", "e.yaml"]).any (fun options =>
        options.environment == some (.text "e.yaml") && options.defaults == none
          && options.jars == none && options.libraries == none) = true by
      decide +kernel)
    simp only [Bool.and_eq_true, beq_iff_eq] at hgiven
    obtain ⟨⟨⟨he, hd⟩, hj⟩, hl⟩ := hgiven
    have hread : Locator.read unfitJob.sources "e.yaml".toList = .ok "a: 2001-02-30".toList := by
      decide +kernel
    have hunfit : Yaml.HasUnfitValue "a: 2001-02-30".toList := by
      refine ⟨.date .day, eq_error_of_errorOf ?_, by simp⟩
      decide +kernel
    have hslips : ∃ given ∈ options.environment, Environment.LetsSlip unfitJob.sources given :=
      ⟨_, he, Or.inr ⟨_, hread, hunfit⟩⟩
    have hfound : (Session.executorFor options unfitJob).foundDefaults unfitJob.sources =
        .ok .empty := by
      rw [LocalExecutor.foundDefaults, LocalExecutor.defaultsLocator, Session.executorFor, hd]
      rfl
    have hdependencies : findDependencies unfitJob.files (options.jars.getD [])
        (options.libraries.getD []) = .ok [] := by
      rw [hj, hl]
      rfl
    refine ((inputs_reported unfitJob).unopened _ [] options [] hrecords ho hdependencies ?_).defect
      (Or.inr ⟨[], rfl, Or.inr ⟨.empty, hfound, hslips⟩⟩)
    rintro base defaults environment ⟨-, -, hgiven⟩
    obtain ⟨fault, hf, -⟩ :=
      (Session.failsAs_givenEnvironment options.environment unfitJob.sources).missed hslips
    cases hgiven.symm.trans hf
  · have hready : ReadyFor { script := some (.text "s.sql") } unfitJob :=
      ⟨⟨rfl, rfl, rfl, rfl⟩, hrecords, by decide +kernel, rfl⟩
    have ho : Program.sessionOptions? ["embedded", "-f", "s.sql"] =
        some { script := some (.text "s.sql") } := by
      rw [Program.sessionOptions?, if_pos (show "embedded" = embeddedMode from rfl),
        CommandLine.parse_file (by decide +kernel)]
      rfl
    have hread : Locator.read unfitJob.sources "s.sql".toList = .error {
        kind := .system .notFound
        message := "[Errno 2] No such file or directory: 's.sql'" } := by
      decide +kernel
    refine ((inputs_reported unfitJob).unloaded _ [] _ "s.sql" hready ho rfl (by decide +kernel)
      ?_).failure ?_
    · intro text h
      cases hread.symm.trans h
    · intro hs
      obtain ⟨fault, hf, hd⟩ := (Locator.failsAs_read unfitJob.sources "s.sql".toList).missed hs
      obtain rfl := Except.error.inj (hread.symm.trans hf)
      cases hd.readable

end Lifetime

end SqlShell
