import SqlShell.Proofs.Environment.EnvironmentReading
import SqlShell.Proofs.Executor.SessionStore
import SqlShell.Proofs.Session.StableProperties

/-! The configuration of a session that has been opened: four maps laid over each other, of the flat
file, of the defaults, of the session environment and of the worker options.
-/

namespace SqlShell

open Act

namespace LocalExecutor

/-- The defaults that an executor finds when it starts. -/
def foundDefaults (executor : LocalExecutor) (sources : Sources) : Except Fault Environment := do
  match ← executor.defaultsLocator sources.files with
  | none => return executor.initial
  | some locator => Environment.read sources (← locator.key)

variable {number : Nat} {executor : LocalExecutor} {job after : Job}

theorem areDistinct_foundDefaults {sources : Sources} {found : Environment}
    (hi : executor.initial.configuration.AreDistinct) (h : executor.foundDefaults sources = .ok found)
    : found.configuration.AreDistinct := by
  obtain ⟨locator, -, h⟩ := exists_of_bind_eq_ok h
  cases locator with
  | none => exact Except.ok.inj h ▸ hi
  | some locator =>
      obtain ⟨text, -, h⟩ := exists_of_bind_eq_ok h
      exact Environment.areDistinct_read h

theorem core_replace (hc : after.core = job.core) (next : LocalExecutor)
    : (replace number next after).2.core = (replace number next job).2.core :=
  congrArg (fun core : Job => { core with executors := core.executors.set number next }) hc

theorem core_replace_replace (first next : LocalExecutor)
    : (replace number next (replace number first job).2).2.core =
        (replace number next job).2.core := by
  show Job.core { job with executors := (job.executors.set number first).set number next } = _
  rw [List.set_set]
  rfl

/-- Where an executor starts, it has read the flat file and its defaults. -/
theorem start_of_ok (h : job.executors[number]? = some executor) {dependencies : List Path}
    (hs : start number job = (.ok dependencies, after))
    : ∃ base initial, readConfiguration job.files executor.directory = .ok base
        ∧ executor.foundDefaults job.sources = .ok initial
        ∧ after.core =
          (replace number { executor with base, initial, started := true } job).2.core := by
  rw [start, withNumber_bind_of_some h, state_bind] at hs
  obtain ⟨found, -, hs⟩ := ok_of_ofResult_bind hs
  obtain ⟨⟨⟩, logged, hlog, hs⟩ := ok_of_bind hs
  have hkeeps : KeepsCore (forEach found fun path => log .debug ("Using dependency " ++ path.text)) :=
    .forEach fun _ => .log _ _
  have hlogged : logged.core = job.core := hkeeps.core_eq hlog
  obtain ⟨base, hbase, hs⟩ := ok_of_ofResult_bind hs
  obtain ⟨⟨⟩, based, hb, hs⟩ := ok_of_bind hs
  have hbased : based.core = (replace number { executor with base } job).2.core := by
    rw [← (Prod.mk.inj hb).2]
    exact core_replace hlogged _
  obtain ⟨locator, hl, hs⟩ := ok_of_ofResult_bind hs
  have hends (initial : Environment) {read : Job} (hc : read.core = based.core)
      (hr : (do
        replace number { executor with base, initial, started := true }
        return found : Act (List Path)) read = (.ok dependencies, after)) :
      after.core =
        (replace number { executor with base, initial, started := true } job).2.core := by
    rw [← (Prod.mk.inj hr).2]
    exact (core_replace (hc.trans hbased) _).trans (core_replace_replace _ _)
  have hfound : executor.foundDefaults job.sources =
      locator.elim (.ok executor.initial) fun locator =>
        locator.key >>= Environment.read job.sources := by
    rw [foundDefaults, show executor.defaultsLocator job.sources.files = .ok locator from hl]
    cases locator <;> rfl
  cases locator with
  | none => exact ⟨base, executor.initial, hbase, hfound, hends _ rfl hs⟩
  | some locator =>
      obtain ⟨⟨⟩, read, hread, hs⟩ := ok_of_bind hs
      obtain ⟨initial, hi, hs⟩ := ok_of_ofResult_bind hs
      refine ⟨base, initial, hbase, hfound.trans hi, hends initial ?_ hs⟩
      rw [← (Prod.mk.inj hread).2]
      exact Job.core_note rfl

theorem connect_of_ok {database : String} {connection : Nat}
    (h : connect database job = (.ok connection, after))
    : connection = job.connections + 1 ∧ after.executors = job.executors
        ∧ after.sessionEvents = job.sessionEvents ++ [.connect database (some connection)] := by
  rw [connect, state_bind, change_bind] at h
  cases hf : job.database.connecting job.attempts database with
  | some fault =>
      rw [hf] at h
      cases (Prod.mk.inj h).1
  | none =>
      rw [hf] at h
      obtain ⟨hc, rfl⟩ := Prod.mk.inj h
      obtain rfl := Except.ok.inj hc
      have hnoted (tried : Job) (event : Event) (ht : event.touchesSession = true) :
          (tried.note event).sessionEvents = tried.sessionEvents ++ [event] :=
        Job.sessionEvents_note ht
      exact ⟨rfl, rfl, hnoted { job with attempts := job.attempts + 1 } _ rfl⟩

/-- Where a session is opened, its database is the one that its configuration names. -/
theorem openSession_of_ok (h : job.executors[number]? = some executor) {identifier : Setting}
    {environment : Environment} {handle : String}
    (ho : openSession number identifier environment job = (.ok handle, after))
    : ∃ database, databaseOf (executor.sessionConfiguration environment) = .ok database
        ∧ executor.isOpen handle = false
        ∧ after.executors = job.executors.set number
          { executor with
            sessions := executor.sessions ++ [(handle, {
              environment
              configuration := executor.sessionConfiguration environment
              connection := job.connections + 1 })] }
        ∧ after.sessionEvents =
          job.sessionEvents ++ [.connect database (some (job.connections + 1))] := by
  rw [openSession, withNumber_bind_of_some h] at ho
  split at ho
  · cases (Prod.mk.inj ho).1
  · obtain ⟨database, hd, ho⟩ := ok_of_ofResult_bind ho
    obtain ⟨found, -, ho⟩ := ok_of_ofResult_bind ho
    split at ho
    · cases (Prod.mk.inj ho).1
    · next hclosed =>
        obtain ⟨connection, connected, hc, ho⟩ := ok_of_bind ho
        obtain ⟨rfl, hexecutors, hevents⟩ := connect_of_ok (ok_of_rescue hc)
        obtain ⟨hhandle, rfl⟩ := Prod.mk.inj ho
        obtain rfl := Except.ok.inj hhandle
        refine ⟨database, hd, eq_false_of_ne_true hclosed, ?_, ?_⟩
        · rw [← hexecutors]
          rfl
        · show ((replace number _ connected).2.note _).sessionEvents = _
          rw [Job.sessionEvents_of_core (Job.core_note rfl)]
          exact hevents

end LocalExecutor

namespace Session

/-- The executor that is made for the options. -/
def executorFor (options : Options) (job : Job) : LocalExecutor where
  defaults := options.defaults
  jars := options.jars.getD []
  libraries := options.libraries.getD []
  directory := configurationDirectory job.vars

/-- The session environment behind a locator, which is empty without one. -/
def givenEnvironment (locator : Option Setting) (sources : Sources) : Except Fault Environment :=
  match locator with
  | none => .ok .empty
  | some locator => locator.key >>= Environment.read sources

/-- What a job finds in its files for the options. -/
structure Finds (options : Options) (job : Job) (base : Entries) (defaults environment : Environment)
    : Prop where
  base_eq : readConfiguration job.files (configurationDirectory job.vars) = .ok base
  defaults_eq : (executorFor options job).foundDefaults job.sources = .ok defaults
  environment_eq : givenEnvironment options.environment job.sources = .ok environment

/-- The database is the one that the last of the maps names, or the one in memory if none does. -/
def NamesDatabase (maps : List Entries) (database : String) : Prop :=
  match Entries.lastGiven maps LocalExecutor.databaseKey with
  | none => database = LocalExecutor.memoryDatabase
  | some value => value.shown = .ok database

/-- The session is open in an executor of the job. Its configuration is the maps laid over each
other, its sections are the given ones, and only the database that the maps name was connected to.
-/
structure IsConfigured (session : Session) (maps : List Entries) (sections : Entries)
    (job after : Job) : Prop where
  configuration : ∃ entries, Entries.AreLayered maps entries
    ∧ session.executor.configuration session.handle after = (.ok entries, after)
  sections : ∃ number own, session.executor = .here number
    ∧ (LocalExecutor.ofJob number after).session? session.handle = some own
    ∧ own.environment.sections = sections
  database : ∃ database, NamesDatabase maps database
    ∧ after.sessionEvents = job.sessionEvents ++ [.connect database (some (job.connections + 1))]

variable {job after : Job} {listener : Listener} {options : Options} {session : Session}

theorem readLocal_apply (locator : String) (job : Job)
    : readLocal locator job = (Environment.read job.sources locator, job) := by
  rw [readLocal, state_bind, ofResult_apply]

theorem readEnvironment_of_ok {locator : Option Setting} {environment : Environment}
    (h : readEnvironment readLocal listener locator job = (.ok environment, after))
    : givenEnvironment locator job.sources = .ok environment ∧ after.core = job.core := by
  have htell (text : String) {told : Job} {result : Except Fault Unit}
      (ht : Console.tell listener text job = (result, told)) :
      told.core = job.core ∧ told.sources = job.sources := by
    have hscene := (stable_inScene job.scene).tell listener text job rfl
    rw [ht] at hscene
    exact ⟨(Console.keepsCore_tell listener text).core_eq ht, Job.sources_of_scene hscene⟩
  cases locator with
  | none =>
      obtain ⟨⟨⟩, told, ht, h⟩ := ok_of_bind h
      obtain ⟨he, rfl⟩ := Prod.mk.inj h
      obtain rfl := Except.ok.inj he
      exact ⟨rfl, (htell _ ht).1⟩
  | some locator =>
      obtain ⟨⟨⟩, told, ht, h⟩ := ok_of_bind h
      obtain ⟨hcore, hfiles⟩ := htell _ ht
      obtain ⟨⟨⟩, logged, hl, h⟩ := ok_of_bind h
      obtain ⟨text, hk, h⟩ := ok_of_ofResult_bind h
      have hread : readLocal text logged = (.ok environment, after) := ok_of_rescue h
      rw [readLocal_apply] at hread
      obtain ⟨hfound, rfl⟩ := Prod.mk.inj hread
      obtain rfl := (Prod.mk.inj hl).2
      refine ⟨?_, (Job.core_note rfl).trans hcore⟩
      rw [givenEnvironment, hk, ← hfiles]
      exact hfound

theorem areDistinct_givenEnvironment {locator : Option Setting} {sources : Sources}
    {environment : Environment} (h : givenEnvironment locator sources = .ok environment)
    : environment.configuration.AreDistinct := by
  cases locator with
  | none => exact Except.ok.inj h ▸ .nil
  | some locator =>
      obtain ⟨text, -, h⟩ := exists_of_bind_eq_ok h
      exact Environment.areDistinct_read h

theorem namesDatabase_of_databaseOf {maps : List Entries} {entries : Entries} {database : String}
    (h : Entries.AreLayered maps entries) (hd : LocalExecutor.databaseOf entries = .ok database)
    : NamesDatabase maps database := by
  rw [LocalExecutor.databaseOf, h.find?_eq] at hd
  rw [NamesDatabase]
  cases hv : Entries.lastGiven maps LocalExecutor.databaseKey with
  | none =>
      rw [hv] at hd
      exact (Except.ok.inj hd).symm
  | some value =>
      rw [hv] at hd
      exact hd

/-- The job with the executor that is made for the options. -/
def made (options : Options) (job : Job) : Job :=
  { job with executors := job.executors ++ [executorFor options job] }

theorem made_executor (options : Options) (job : Job)
    : (made options job).executors[job.executors.length]? = some (executorFor options job) :=
  List.getElem?_concat_length

/-- A session of this job opens in an executor that is made for it. -/
theorem openWith_apply (listener : Listener) (options : Options) (job : Job)
    : openWith makeLocal readLocal listener options job = (do
        Executor.start (.here job.executors.length)
        let environment ← readEnvironment readLocal listener options.environment
        let handle ← LocalExecutor.openSession job.executors.length
          (options.session.getD (.text defaultSession)) (environment.merged options.worker)
        log .info ("Opened session " ++ handle)
        return { handle, executor := .here job.executors.length } : Act Session)
          (made options job) :=
  rfl

/-- What is found for a session makes the layers of its configuration. -/
theorem Finds.areLayered {base : Entries} {defaults environment : Environment}
    (h : Finds options job base defaults environment) (distinct : options.worker.AreDistinct)
    : Entries.AreLayered
        [base, defaults.configuration, environment.configuration, options.worker]
        ((base.update defaults.configuration).update
          (environment.configuration.update options.worker)) := by
  have hbase := (areDistinct_readConfiguration h.base_eq).areLayered
  have hdefaults : defaults.configuration.AreDistinct := by
    refine LocalExecutor.areDistinct_foundDefaults ?_ h.defaults_eq
    exact .nil
  have henvironment := areDistinct_givenEnvironment h.environment_eq
  exact (hbase.update hdefaults.areLayered).update
    (henvironment.areLayered.update distinct.areLayered)

/-- A session opens in an executor that has found its base and its defaults, once its environment has
been found too.
-/
theorem openWith_of_ok
    (opened : openWith makeLocal readLocal listener options job = (.ok session, after))
    : ∃ base initial environment read handle connected,
        Finds options job base initial environment
        ∧ read.core = (LocalExecutor.replace job.executors.length
          { executorFor options job with base, initial, started := true } (made options job)).2.core
        ∧ LocalExecutor.openSession job.executors.length
          (options.session.getD (.text defaultSession)) (environment.merged options.worker) read =
            (.ok handle, connected)
        ∧ session = { handle, executor := .here job.executors.length }
        ∧ after.core = connected.core := by
  rw [openWith_apply] at opened
  obtain ⟨⟨⟩, started, hs, opened⟩ := ok_of_bind opened
  obtain ⟨dependencies, begun, hb, hlast⟩ := ok_of_bind hs
  obtain rfl : begun = started := (Prod.mk.inj hlast).2
  obtain ⟨base, initial, hbase, hinitial, hstarted⟩ :=
    LocalExecutor.start_of_ok (made_executor options job) hb
  have hscene := (stable_inScene job.scene).start job.executors.length (made options job) rfl
  rw [hb] at hscene
  obtain ⟨environment, read, hr, opened⟩ := ok_of_bind opened
  obtain ⟨hgiven, hread⟩ := readEnvironment_of_ok hr
  obtain ⟨handle, connected, ho, opened⟩ := ok_of_bind opened
  obtain ⟨hsession, rfl⟩ := Prod.mk.inj opened
  have hfinds : Finds options job base initial environment :=
    ⟨hbase, hinitial, Job.sources_of_scene hscene ▸ hgiven⟩
  exact ⟨base, initial, environment, read, handle, connected, hfinds, hread.trans hstarted, ho,
    (Except.ok.inj hsession).symm, Job.core_note rfl⟩

/-- Where a session is opened, its configuration is the flat file, below the defaults, below the session
environment, below the worker options; its database is the one that these name.
-/
theorem configuration_layered
    (opened : openWith makeLocal readLocal listener options job = (.ok session, after))
    (distinct : options.worker.AreDistinct)
    : ∃ base defaults environment, Finds options job base defaults environment
        ∧ session.IsConfigured
          [base, defaults.configuration, environment.configuration, options.worker]
          environment.sections job after := by
  obtain ⟨base, initial, environment, read, handle, connected, hfinds, hcore, ho, rfl, hafter⟩ :=
    openWith_of_ok opened
  generalize hn : ({ executorFor options job with base, initial, started := true } : LocalExecutor) =
    next at hcore
  have hread : read.executors[job.executors.length]? = some next := by
    rw [Job.executors_of_core hcore]
    exact List.getElem?_set_self (by simp [made])
  obtain ⟨database, hd, -, hexecutors, hevents⟩ := LocalExecutor.openSession_of_ok hread ho
  have hconfiguration : next.sessionConfiguration (environment.merged options.worker) =
      (base.update initial.configuration).update
        (environment.configuration.update options.worker) := by
    rw [← hn]
    rfl
  have hlayered := hfinds.areLayered distinct
  refine ⟨base, initial, environment, hfinds, ?_⟩
  rw [hconfiguration] at hd hexecutors
  have hopen : (LocalExecutor.ofJob job.executors.length after).session? handle = some {
      environment := environment.merged options.worker
      configuration := (base.update initial.configuration).update
        (environment.configuration.update options.worker)
      connection := read.connections + 1 } := by
    have hlt : job.executors.length < read.executors.length := (List.getElem?_eq_some_iff.mp hread).1
    rw [LocalExecutor.ofJob, Job.executors_of_core hafter, hexecutors, List.getElem?_set_self hlt,
      ← hn]
    simp [LocalExecutor.session?, executorFor]
  constructor
  case configuration => exact ⟨_, hlayered, bind_of_ok (LocalExecutor.openedSession_of_some hopen)⟩
  case sections => exact ⟨_, _, rfl, hopen, rfl⟩
  case database =>
    refine ⟨database, namesDatabase_of_databaseOf hlayered hd, ?_⟩
    rw [Job.sessionEvents_of_core hafter, hevents, Job.sessionEvents_of_core hcore,
      Job.connections_of_core hcore]
    rfl

/-- The bytes of a file with the lines. -/
def fileOfLines (texts : List String) : FileEntry :=
  .file ((texts.flatMap fun text => text.toList ++ ['\n']).map fun c => UInt8.ofNat c.toNat)

/-- A job whose files give overlapping keys, among them one number in three spellings. -/
def layeredJob : Job where
  vars := [("FLINK_CONF_DIR", "conf")]
  files := ⟨[
    (["conf"], .directory),
    (["conf", "flink-conf.yaml"], fileOfLines ["1: flat", "sql-client.database: flat.db", "a: flat"]),
    (["conf", "sql-client-defaults.yaml"], fileOfLines ["configuration: {b: defaults, 1.0: defaults}"]),
    (["e.yaml"], fileOfLines
      ["configuration: {sql-client.database: 7, a: session, true: session}", "tables: []"])]⟩

/-- Options with that session environment, and an option for workers. -/
def layeredOptions : Options where
  environment := some (.text "e.yaml")
  worker := Entries.ofTexts [("a", "worker"), ("python.files", "worker")]

/-- The opened session is the first of the only executor of a job. -/
def isFirst : Except Fault Session → Bool
  | .ok ⟨handle, .here number⟩ => handle == "default" && number == 0
  | _ => false

theorem eq_of_isFirst {run : Except Fault Session × Job} (h : isFirst run.1 = true)
    : run = (.ok ⟨"default", .here 0⟩, run.2) := by
  rcases run with ⟨fault | ⟨handle, number | remote⟩, job⟩
  · exact absurd h Bool.false_ne_true
  · obtain ⟨hh, hn⟩ := (Bool.and_eq_true _ _).mp h
    rw [eq_of_beq hh, eq_of_beq hn]
  · exact absurd h Bool.false_ne_true

/-- The configurations of the sessions of each executor of a job, as they are shown. -/
def shownConfigurations (job : Job) : List (List (List (String × String))) :=
  job.executors.map fun executor => executor.sessions.map fun own =>
    own.2.configuration.map fun entry => (entry.1.plainText, entry.2.plainText)

/-- The number is one key under its first spelling, with the value that is given last. -/
theorem configuration_layered_under_first_spellings
    : ∃ session after,
        openWith makeLocal readLocal .user layeredOptions layeredJob = (.ok session, after)
        ∧ layeredOptions.worker.AreDistinct
        ∧ shownConfigurations after =
            [[[("1", "session"), ("sql-client.database", "7"), ("a", "worker"),
              ("b", "defaults"), ("python.files", "worker")]]]
        ∧ ∃ base defaults environment, Finds layeredOptions layeredJob base defaults environment
          ∧ session.IsConfigured
            [base, defaults.configuration, environment.configuration, layeredOptions.worker]
            environment.sections layeredJob after := by
  have hrun : (isFirst (openWith makeLocal readLocal .user layeredOptions layeredJob).1
      && shownConfigurations (openWith makeLocal readLocal .user layeredOptions layeredJob).2
        == [[[("1", "session"), ("sql-client.database", "7"), ("a", "worker"), ("b", "defaults"),
          ("python.files", "worker")]]]) = true := by
    decide +kernel
  obtain ⟨hfirst, hshown⟩ := (Bool.and_eq_true _ _).mp hrun
  have hopened := eq_of_isFirst hfirst
  have hdistinct : layeredOptions.worker.AreDistinct := by
    rw [Entries.AreDistinct]
    decide +kernel
  exact ⟨_, _, hopened, hdistinct, eq_of_beq hshown, configuration_layered hopened hdistinct⟩

end Session

end SqlShell
