import SqlShell.Proofs.Environment.ReadingFailures
import SqlShell.Proofs.Session.SessionConfiguration
import SqlShell.Session.Mode

/-! How a session fails to open, or to load its script, when one of its input files is not read: as
the reading itself does.
-/

namespace SqlShell

open Act

namespace LocalExecutor

variable {number : Nat} {executor : LocalExecutor} {job : Job}

/-- What slips through where an executor looks for its defaults: what does so where they are read,
and a path that spoils all tests for the file in its configuration directory.
-/
def LetsSlip (executor : LocalExecutor) (sources : Sources) : Prop :=
  match executor.defaults, executor.directory with
  | some locator, _ => Environment.LetsSlip sources locator
  | none, none => False
  | none, some parent =>
      sources.files.SpoilsTests (parent.child defaultsFile)
      ∨ sources.files.isFile (parent.child defaultsFile) = .ok true
        ∧ Environment.LetsSlip sources (.text (parent.child defaultsFile).text)

theorem failsAs_foundDefaults (executor : LocalExecutor) (sources : Sources)
    : FailsAs FaultKind.IsEnvironmentRead FaultKind.IsUnexpected (executor.LetsSlip sources)
        (executor.foundDefaults sources) := by
  have hread (locator : Setting) : FailsAs FaultKind.IsEnvironmentRead FaultKind.IsUnexpected
      (Environment.LetsSlip sources locator) (locator.key >>= Environment.read sources) :=
    (Environment.failsAs_read sources locator).mono (fun _ => id) fun _ => FaultKind.IsDefect.unexpected
  rw [foundDefaults, defaultsLocator, LetsSlip]
  cases executor.defaults with
  | some locator => exact hread locator
  | none =>
      cases executor.directory with
      | none => exact .ok id
      | some parent =>
          rw [bind_assoc]
          dsimp only
          generalize parent.child defaultsFile = path
          -- The file is looked for before the defaults are read from it.
          refine ((sources.files.failsAs_isFile path).bind
            (fun there => there = true ∧ Environment.LetsSlip sources (.text path.text))
            fun there ht => ?_).of_iff ?_
          · cases there with
            | false => exact .ok fun h => Bool.false_ne_true h.1
            | true =>
                rw [if_pos rfl, pure_bind]
                exact (hread (.text path.text)).of_iff ⟨And.intro rfl, And.right⟩
          · refine or_congr_right ⟨?_, ?_⟩
            · rintro ⟨there, ht, rfl, hl⟩
              exact ⟨eq_ok_of_mapError ht, hl⟩
            · rintro ⟨ht, hl⟩
              exact ⟨true, by rw [ht]; rfl, rfl, hl⟩

theorem forEach_log (level : LogLevel) (message : Path → String) (paths : List Path) (job : Job)
    : ∃ after, forEach paths (fun path => log level (message path)) job = (.ok (), after) := by
  induction paths generalizing job with
  | nil => exact ⟨job, rfl⟩
  | cons path rest ih => exact ih _

/-- An executor with its dependencies starts as its files are read, one after the other. -/
theorem start_end (h : job.executors[number]? = some executor) {dependencies : List Path}
    (hd : findDependencies job.files executor.jars executor.libraries = .ok dependencies)
    : (start number job).1 = (do
        let _ ← readConfiguration job.files executor.directory
        let _ ← executor.foundDefaults job.sources
        return dependencies) := by
  obtain ⟨logged, hl⟩ := forEach_log .debug (fun path => "Using dependency " ++ path.text)
    dependencies job
  rw [start, withNumber_bind_of_some h, state_bind, hd]
  show ((forEach dependencies _ >>= _) job).1 = _
  rw [bind_of_ok hl]
  cases readConfiguration job.files executor.directory with
  | error fault => rfl
  | ok base =>
      have hlocator : defaultsLocator { executor with base } job.files =
          executor.defaultsLocator job.files :=
        rfl
      show ((ofResult (defaultsLocator { executor with base } job.files) >>= _) _).1 = _
      rw [hlocator, foundDefaults, show job.sources.files = job.files from rfl]
      cases executor.defaultsLocator job.files with
      | error fault => rfl
      | ok locator =>
          cases locator with
          | none => rfl
          | some locator =>
              show ((ofResult (locator.key >>= Environment.read job.sources) >>= _) _).1 =
                ((locator.key >>= Environment.read job.sources) >>= _)
              cases locator.key >>= Environment.read job.sources with
              | error fault => rfl
              | ok initial => rfl

end LocalExecutor

namespace Session

variable {job : Job} {listener : Listener} {options : Options}

theorem failsAs_givenEnvironment (locator : Option Setting) (sources : Sources)
    : FailsAs FaultKind.IsEnvironmentRead FaultKind.IsDefect
        (∃ given ∈ locator, Environment.LetsSlip sources given) (givenEnvironment locator sources) := by
  cases locator with
  | none => exact .ok fun ⟨_, hm, _⟩ => nomatch hm
  | some given => exact (Environment.failsAs_read sources given).of_iff (by simp)

/-- Refusals of the system have been reported where the file is read, so none is left to handle. -/
theorem rescue_readLocal (locator : String) (handle : Fault → Act Environment) (job : Job)
    : (readLocal locator).rescue FaultKind.isSystem handle job = readLocal locator job := by
  have hslips := Environment.failsAs_read job.sources (.text locator)
  cases hread : Environment.read job.sources locator with
  | ok environment => exact rescue_of_ok (by rw [readLocal_apply, hread])
  | error fault =>
      rw [Setting.key, ok_bind, hread] at hslips
      refine rescue_of_not_handled (by rw [readLocal_apply, hread]) ?_
      rcases hslips.of_error with ⟨-, hd⟩ | ⟨-, hc⟩
      · exact hd.isSystem
      · rw [show fault.kind = _ from hc]
        rfl

/-- The environment is read from its file as it is found there, once the listener has been told. -/
theorem readEnvironment_end (ht : ∀ text, (Console.tell listener text job).1 = .ok ())
    (locator : Option Setting)
    : (readEnvironment readLocal listener locator job).1 = givenEnvironment locator job.sources := by
  have htold (text : String) :
      ∃ told, Console.tell listener text job = (.ok (), told) ∧ told.sources = job.sources :=
    ⟨_, Prod.ext (ht text) rfl,
      Job.sources_of_scene ((stable_inScene job.scene).tell listener text job rfl)⟩
  cases locator with
  | none =>
      obtain ⟨told, hr, -⟩ := htold "No session environment specified."
      rw [readEnvironment, bind_of_ok hr]
      rfl
  | some given =>
      obtain ⟨told, hr, hfiles⟩ := htold ("Reading session environment from: " ++ given.shown)
      rw [readEnvironment, bind_of_ok hr, givenEnvironment, ← hfiles]
      cases given with
      | nothing => rfl
      | text locator =>
          show ((readLocal locator).rescue FaultKind.isSystem _ (told.note _)).1 = _
          rw [rescue_readLocal, readLocal_apply]
          rfl

/-- What a session reads before it opens: the flat file, the defaults and the environment. -/
def findInputs (options : Options) (job : Job) : Except Fault Unit := do
  let _ ← readConfiguration job.files (configurationDirectory job.vars)
  let _ ← (executorFor options job).foundDefaults job.sources
  let _ ← givenEnvironment options.environment job.sources

/-- Something slips through what a session reads before it opens, in the first of its files that
does not read.
-/
def InputsSlip (options : Options) (job : Job) : Prop :=
  ConfigurationSlips job.files (configurationDirectory job.vars)
  ∨ ∃ base, readConfiguration job.files (configurationDirectory job.vars) = .ok base
    ∧ ((executorFor options job).LetsSlip job.sources
      ∨ ∃ defaults, (executorFor options job).foundDefaults job.sources = .ok defaults
        ∧ ∃ given ∈ options.environment, Environment.LetsSlip job.sources given)

theorem failsAs_findInputs (options : Options) (job : Job)
    : FailsAs FaultKind.IsEnvironmentRead FaultKind.IsUnexpected (InputsSlip options job)
        (findInputs options job) := by
  refine (failsAs_readConfiguration _ _).bind _ fun base _ => ?_
  refine (LocalExecutor.failsAs_foundDefaults _ _).bind _ fun defaults _ => ?_
  exact ((failsAs_givenEnvironment options.environment job.sources).mono (fun _ => id)
    fun _ => FaultKind.IsDefect.unexpected).map fun _ => ()

/-- The inputs of a session are found unless one of the readings fails. -/
theorem findInputs_error (h : ∀ base defaults environment,
    ¬ Finds options job base defaults environment)
    : ∃ fault, findInputs options job = .error fault := by
  cases hf : findInputs options job with
  | error fault => exact ⟨fault, rfl⟩
  | ok value =>
      obtain ⟨base, hb, hf⟩ := exists_of_bind_eq_ok hf
      obtain ⟨defaults, hd, hf⟩ := exists_of_bind_eq_ok hf
      obtain ⟨environment, he, -⟩ := exists_of_bind_eq_ok hf
      exact absurd ⟨hb, hd, he⟩ (h base defaults environment)

/-- A session that finds its dependencies, but not its inputs, is not opened. -/
theorem openWith_of_unfound (hr : job.Records) {dependencies : List Path} {fault : Fault}
    (hd : findDependencies job.files (options.jars.getD []) (options.libraries.getD []) =
      .ok dependencies)
    (hu : findInputs options job = .error fault)
    : (openWith makeLocal readLocal .user options job).1 = .error fault := by
  have hstart : (LocalExecutor.start job.executors.length (made options job)).1 =
      (readConfiguration job.files (configurationDirectory job.vars) >>= fun _ =>
        (executorFor options job).foundDefaults job.sources >>= fun _ => pure dependencies) :=
    LocalExecutor.start_end (made_executor options job) hd
  rw [openWith_apply]
  have hunstarted (h : (LocalExecutor.start job.executors.length (made options job)).1 =
      .error fault) :
      (Executor.start (.here job.executors.length) (made options job)).1 = .error fault :=
    congrArg Prod.fst (bind_of_error h)
  -- The first of the three readings that fails ends the opening.
  rcases eq_error_of_bind_eq_error hu with hb | ⟨base, hb, hu⟩
  · rw [hb] at hstart
    rw [bind_of_error (hunstarted hstart)]
  · rw [hb, ok_bind] at hstart
    rcases eq_error_of_bind_eq_error hu with hi | ⟨defaults, hi, hu⟩
    · rw [hi] at hstart
      rw [bind_of_error (hunstarted hstart)]
    · rw [hi, ok_bind] at hstart
      rcases eq_error_of_bind_eq_error hu with he | ⟨environment, -, hu⟩
      · have hscene := (stable_inScene job.scene).start job.executors.length (made options job) rfl
        cases hs : LocalExecutor.start job.executors.length (made options job) with
        | mk result started =>
            rw [hs] at hstart hscene
            obtain rfl : result = .ok dependencies := hstart
            have hstarted : Executor.start (.here job.executors.length) (made options job) =
                (.ok (), started) :=
              bind_of_ok hs
            have htell (text : String) : (Console.tell .user text started).1 = .ok () := by
              obtain ⟨after, ha, -⟩ :=
                Console.endsWith_notice .err text started (hr.of_scene hscene)
              exact congrArg Prod.fst ha
            have hread := readEnvironment_end htell options.environment
            rw [Job.sources_of_scene hscene, he] at hread
            rw [bind_of_ok hstarted, bind_of_error hread]
      · exact nomatch hu

end Session

-----------------------------------------------------------------------------------------
-- The script
-----------------------------------------------------------------------------------------

/-- The failure to read a script. -/
def FaultKind.IsScriptRead (kind : FaultKind) : Prop :=
  kind = .client .scriptRead

theorem FaultKind.IsScriptRead.isClient {kind : FaultKind} (h : kind.IsScriptRead)
    : kind.isClient = true :=
  congrArg FaultKind.isClient h

namespace Mode

/-- The text of a script, as it is loaded. -/
def scriptText (sources : Sources) (locator : String) : Except Fault String :=
  String.ofList <$> (Locator.read sources locator.toList).mapError fun fault =>
    if fault.kind.isUnreadable then
      (Fault.client .scriptRead ("Fail to read content from the " ++ locator ++ ".")).because fault
    else fault

theorem loadScript_apply (locator : String) (job : Job)
    : loadScript readLocal locator job = (scriptText job.sources locator, job) := by
  have hlocal : readLocal locator job =
      (String.ofList <$> Locator.read job.sources locator.toList, job) := by
    rw [readLocal, state_bind]
    cases Locator.read job.sources locator.toList with
    | ok text => rfl
    | error fault => rfl
  rw [loadScript, rescue_apply, hlocal, scriptText]
  cases Locator.read job.sources locator.toList with
  | ok text => rfl
  | error fault =>
      show (if fault.kind.isUnreadable then _ else _) =
        (Except.error (if fault.kind.isUnreadable then _ else _), job)
      split
      · rfl
      · rfl

theorem scriptText_error {sources : Sources} {locator : String}
    (h : ∀ text, Locator.read sources locator.toList ≠ .ok text)
    : ∃ fault, scriptText sources locator = .error fault := by
  rw [scriptText]
  cases hr : Locator.read sources locator.toList with
  | ok text => exact absurd hr (h text)
  | error fault => exact ⟨_, rfl⟩

/-- A script fails to be read as a failure of the client, unless its locator leads nowhere. -/
theorem failsAs_scriptText (sources : Sources) (locator : String)
    : FailsAs FaultKind.IsScriptRead FaultKind.IsDefect
        (Locator.LeadsNowhere sources locator.toList) (scriptText sources locator) := by
  have hread := (Locator.failsAs_read sources locator.toList).mono
    (fun kind hu => show kind.isUnreadable = true ∨ kind.IsScriptRead from Or.inl hu) fun _ => id
  have hf : (Fault.client .scriptRead
      ("Fail to read content from the " ++ locator ++ ".")).kind.IsScriptRead :=
    rfl
  exact (hread.report hf fun _ => FaultKind.IsDefect.isUnreadable).map String.ofList

end Mode

end SqlShell
