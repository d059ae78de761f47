import SqlShell.Proofs.Session.ScriptStatements

/-! What a run of a mode calls: the front end is made, entered and left once each, and in between at
most one of its modes is called, whatever comes of the calls. The outcome follows from what came of
them.
-/

namespace SqlShell

open Act

namespace Lifetime

/-- The outcome of a mode in which a fault may have been raised. -/
def outcomeOf : Option Fault → Except Fault Outcome
  | none => .ok .success
  | some fault => if fault.kind.isClient then .ok (.failure fault) else .error fault

/-- A fault of the client becomes an outcome, and other faults are passed on. -/
theorem outcome_of_end {act : Act Outcome} {raised : Option Fault} {job after : Job}
    (h : act job = ((endOf raised).map fun _ => .success, after))
    : act.rescue FaultKind.isClient (fun fault => return .failure fault) job =
        (outcomeOf raised, after) := by
  rw [rescue_apply, h]
  cases raised with
  | none => rfl
  | some fault =>
      show (if fault.kind.isClient then _ else _) = ((if fault.kind.isClient then _ else _), after)
      split <;> rfl

end Lifetime

namespace Mode

-----------------------------------------------------------------------------------------
-- Calls
-----------------------------------------------------------------------------------------

/-- A call of what a run is given, with what came of it. The factory, entering and leaving are told
without that; leaving is told the name of the kind of the fault that ended the mode.
-/
inductive Call where
  | make (handle history : String)
  | enter
  | read (locator : String) (result : Except Fault String)
  | executeFile (text : String) (result : Except Fault Unit)
  | submitUpdate (statement : String) (result : Except Fault Bool)
  | openShell (result : Except Fault Unit)
  | leave (told : Option String)

/-- The act is one call, whatever comes of it. -/
def IsCall {α : Type} (calls : Job → List Call) (call : Except Fault α → Call) (act : Act α)
    : Prop :=
  ∀ job, calls (act job).2 = calls job ++ [call (act job).1]

/-- A ledger tells all calls of a factory, of the front end that it makes for a session, and of a
reader of scripts, and nothing else. The factory, entering and leaving end well, and leaving passes
over no fault; of the reader and of the modes anything may come.
-/
structure Ledger (calls : Job → List Call) (make : Session → Path → Act FrontEnd)
    (read : String → Act String) (session : Session) (history : Path) (front : FrontEnd)
    : Prop where
  made : ∀ job, (make session history job).1 = .ok front
  entered : ∀ job, (front.enter job).1 = .ok ()
  left : ∀ told job, (front.leave told job).1 = .ok false
  make_call : IsCall calls (fun _ => .make session.handle history.text) (make session history)
  enter_call : IsCall calls (fun _ => .enter) front.enter
  read_call : ∀ locator, IsCall calls (.read locator) (read locator)
  execute_call : ∀ text, IsCall calls (.executeFile text) (front.executeFile text)
  submit_call : ∀ statement, IsCall calls (.submitUpdate statement) (front.submitUpdate statement)
  open_call : IsCall calls .openShell front.openShell
  leave_call : ∀ told,
    IsCall calls (fun _ => .leave (told.map (·.kind.name))) (front.leave told)
  log_eq : ∀ job level message, calls (job.note (.log level message)) = calls job

-----------------------------------------------------------------------------------------
-- What came of the calls
-----------------------------------------------------------------------------------------

/-- The fault that a call ended with. -/
def raisedBy {α : Type} : Except Fault α → Option Fault
  | .ok _ => none
  | .error fault => some fault

/-- The fault of an update, which must be accepted. -/
def unlessAccepted : Except Fault Bool → Option Fault
  | .ok true => none
  | .ok false => some notSubmitted
  | .error fault => some fault

/-- The fault of a script whose reader ended with a fault: if it could not be read, that is a
failure of the client, and other faults stay as they are.
-/
def unreadScript (locator : String) (fault : Fault) : Fault :=
  if fault.kind.isUnreadable then
    (Fault.client .scriptRead ("Fail to read content from the " ++ locator ++ ".")).because fault
  else
    fault

/-- What is called for the mode that the options select, and the fault that it ends in. A script
goes before an update, and an update before the shell; without the text of the script no mode is
called.
-/
inductive Conducts (options : Options) : List Call → Option Fault → Prop where
  | unread {locator : String} {fault : Fault} (h : options.script = some (.text locator)) :
      Conducts options [.read locator (.error fault)] (some (unreadScript locator fault))
  | script {locator text : String} {result : Except Fault Unit}
      (h : options.script = some (.text locator)) :
      Conducts options [.read locator (.ok text), .executeFile text result] (raisedBy result)
  | update {statement : String} {result : Except Fault Bool} (hs : options.script = none)
      (hu : options.update = some (.text statement)) :
      Conducts options [.submitUpdate statement result] (unlessAccepted result)
  | shell {result : Except Fault Unit} (hs : options.script = none) (hu : options.update = none) :
      Conducts options [.openShell result] (raisedBy result)

variable {calls : Job → List Call} {make : Session → Path → Act FrontEnd}
  {read : String → Act String} {session : Session} {history : Path} {front : FrontEnd}
  {options : Options} {job : Job}

/-- A call tells the fault that it ended with. -/
theorem endOf_raisedBy (result : Except Fault Unit) : endOf (raisedBy result) = result := by
  cases result with
  | ok value => rfl
  | error fault => rfl

/-- Loading a script is one call of the reader, and ends with what it reads or with a fault. -/
theorem Ledger.loadScript (h : Ledger calls make read session history front) (locator : String)
    (job : Job)
    : calls (loadScript read locator job).2 = calls job ++ [.read locator (read locator job).1]
      ∧ (loadScript read locator job).1 = (read locator job).1.mapError (unreadScript locator) := by
  have hcall := h.read_call locator job
  rw [Mode.loadScript, rescue_apply]
  cases hr : read locator job with
  | mk result after =>
      rw [hr] at hcall
      cases result with
      | ok text => exact ⟨hcall, rfl⟩
      | error fault =>
          dsimp only [Except.mapError, unreadScript]
          split
          · exact ⟨hcall, rfl⟩
          · exact ⟨hcall, rfl⟩

/-- The mode for a script reads it, and is called with its text if there is one. -/
theorem Ledger.runSelected_script (h : Ledger calls make read session history front)
    {locator : String} (hs : options.script = some (.text locator)) (job : Job)
    : ∃ used raised, Conducts options used raised
        ∧ calls (runSelected front read options job).2 = calls job ++ used
        ∧ (runSelected front read options job).1 = endOf raised := by
  generalize hn : job.note (.log .info ("Executing SQL script " ++ locator)) = logged
  have hsame : calls logged = calls job := by rw [← hn]; exact h.log_eq job _ _
  have hselected : runSelected front read options job =
      (Mode.loadScript read locator >>= front.executeFile) logged := by
    rw [runSelected, hs, ← hn]
    rfl
  obtain ⟨hcalls, hend⟩ := h.loadScript locator logged
  rw [hselected]
  cases hl : Mode.loadScript read locator logged with
  | mk loaded after =>
      rw [hl] at hcalls hend
      cases hr : (read locator logged).1 with
      | error fault =>
          rw [hr] at hcalls hend
          obtain rfl : loaded = .error (unreadScript locator fault) := hend
          rw [bind_of_error (by rw [hl]), hl]
          exact ⟨_, _, .unread hs, by rw [hcalls, hsame], rfl⟩
      | ok text =>
          rw [hr] at hcalls hend
          obtain rfl : loaded = .ok text := hend
          rw [bind_of_ok hl]
          refine ⟨_, _, @Conducts.script options locator text (front.executeFile text after).1 hs, ?_,
            (endOf_raisedBy _).symm⟩
          rw [h.execute_call text after, hcalls, hsame, List.append_assoc]
          rfl

/-- The mode for an update is called with it, and must accept it. -/
theorem Ledger.runSelected_update (h : Ledger calls make read session history front)
    {statement : String} (hs : options.script = none)
    (hu : options.update = some (.text statement)) (job : Job)
    : ∃ used raised, Conducts options used raised
        ∧ calls (runSelected front read options job).2 = calls job ++ used
        ∧ (runSelected front read options job).1 = endOf raised := by
  generalize hn : job.note (.log .info "Submitting single update statement") = logged
  have hsame : calls logged = calls job := by rw [← hn]; exact h.log_eq job _ _
  have hselected : runSelected front read options job = (do
      if !(← front.submitUpdate statement) then fail notSubmitted) logged := by
    rw [runSelected, hs, hu, ← hn]
    rfl
  have hcalls := h.submit_call statement logged
  rw [hselected]
  cases hr : front.submitUpdate statement logged with
  | mk result after =>
      rw [hr] at hcalls
      refine ⟨_, _, @Conducts.update options statement result hs hu, ?_⟩
      rw [← hsame, ← hcalls, bind_apply, hr]
      cases result with
      | error fault => exact ⟨rfl, rfl⟩
      | ok accepted => cases accepted <;> exact ⟨rfl, rfl⟩

/-- The mode that the options select is called as they say, and ends as its calls tell. -/
theorem Ledger.runSelected (h : Ledger calls make read session history front)
    (hs : options.script ≠ some .nothing) (hu : options.update ≠ some .nothing) (job : Job)
    : ∃ used raised, Conducts options used raised
        ∧ calls (runSelected front read options job).2 = calls job ++ used
        ∧ (runSelected front read options job).1 = endOf raised := by
  cases hscript : options.script with
  | some setting =>
      cases setting with
      | text locator => exact h.runSelected_script hscript job
      | nothing => exact absurd hscript hs
  | none =>
      cases hupdate : options.update with
      | some setting =>
          cases setting with
          | text statement => exact h.runSelected_update hscript hupdate job
          | nothing => exact absurd hupdate hu
      | none =>
          refine ⟨_, _, @Conducts.shell options (front.openShell job).1 hscript hupdate, ?_⟩
          rw [Mode.runSelected, hscript, hupdate]
          exact ⟨h.open_call job, (endOf_raisedBy _).symm⟩

/-- The front end is entered before what is done in it and left after that, however it ends. -/
theorem Ledger.within (h : Ledger calls make read session history front) {act : Act Unit}
    {used : List Call} {raised : Option Fault}
    (hcalls : calls (act (front.enter job).2).2 = calls (front.enter job).2 ++ used)
    (hend : (act (front.enter job).2).1 = endOf raised)
    : calls (within front act job).2 =
          calls job ++ (.enter :: used ++ [.leave (raised.map (·.kind.name))])
      ∧ (within front act job).1 = endOf raised := by
  have henter : front.enter job = (.ok (), (front.enter job).2) := Prod.ext (h.entered job) rfl
  rw [h.enter_call job] at hcalls
  generalize (front.enter job).2 = entered at henter hcalls hend
  have hleave := h.leave_call raised (act entered).2
  have hobserve : act.observe entered = (.ok (endOf raised), (act entered).2) := by
    rw [observe, ← hend]
  have hleft : front.leave raised (act entered).2 =
      (.ok false, (front.leave raised (act entered).2).2) :=
    Prod.ext (h.left raised _) rfl
  rw [hcalls, List.append_assoc, List.append_assoc] at hleave
  rw [Mode.within, bind_of_ok henter, bind_of_ok hobserve]
  cases raised with
  | none =>
      have hdone : (front.leave none >>= fun _ => pure ()) (act entered).2 =
          (.ok (), (front.leave none (act entered).2).2) :=
        bind_of_ok hleft
      exact ⟨(congrArg (calls ∘ Prod.snd) hdone).trans hleave, congrArg Prod.fst hdone⟩
  | some fault =>
      have hdone : (front.leave (some fault) >>= fun passed =>
          if !passed then fail fault else pure ()) (act entered).2 =
            (.error fault, (front.leave (some fault) (act entered).2).2) :=
        bind_of_ok hleft
      exact ⟨(congrArg (calls ∘ Prod.snd) hdone).trans hleave, congrArg Prod.fst hdone⟩

/-- Finding out the path of the history leaves the job as it is. -/
theorem historyPath_job (given : Option Setting) (home : Option Path) (windows : Option Bool)
    (job : Job)
    : (HistoryFile.path given home windows job).2 = job := by
  have hresult : ∀ {α : Type} (result : Except Fault α), (ofResult result job).2 = job :=
    fun result => by rw [ofResult_apply]
  cases given with
  | some setting => exact hresult setting.path
  | none =>
      rw [HistoryFile.path, state_bind]
      cases home with
      | some home => rfl
      | none =>
          cases hh : HistoryFile.homeDirectory job with
          | ok home => rfl
          | error fault => rfl

-----------------------------------------------------------------------------------------
-- Runs
-----------------------------------------------------------------------------------------

/-- A run with conflicting options is refused before anything is called. Any other run makes the
front end, enters it, calls at most the one mode that the options select, and leaves it as the last
thing, whatever comes of the calls. The outcome is a success if the mode ended well, the very fault
if it is one of the client, and other faults are passed on. The options are texts where they are
given.
-/
theorem run_calls_one_mode {home : Option Path} {windows : Option Bool}
    (h : Ledger calls make read session history front)
    (hh : (HistoryFile.path options.history home windows job).1 = .ok history)
    (hs : options.script ≠ some .nothing) (hu : options.update ≠ some .nothing)
    : (options.script.isSome = true ∧ options.update.isSome = true
        ∧ ∃ conflict, options.conflicts = [conflict]
          ∧ conflict.fault.kind = .client .conflictingOptions
          ∧ run make read home windows session options job =
            (.ok (.failure conflict.fault), job))
      ∨ ¬ (options.script.isSome = true ∧ options.update.isSome = true)
        ∧ ∃ used raised, Conducts options used raised
          ∧ calls (run make read home windows session options job).2 =
            calls job ++ (.make session.handle history.text :: .enter :: used
              ++ [.leave (raised.map (·.kind.name))])
          ∧ (run make read home windows session options job).1 = Lifetime.outcomeOf raised := by
  have hpath : HistoryFile.path options.history home windows job = (.ok history, job) :=
    Prod.ext hh (historyPath_job _ _ _ job)
  by_cases hboth : options.script.isSome = true ∧ options.update.isSome = true
  · have hc : options.conflicts =
        [⟨fileSpelling, updateSpelling, fileSpelling, updateSpelling⟩] := by
      rw [Options.conflicts, hboth.1, hboth.2]
      rfl
    refine Or.inl ⟨hboth.1, hboth.2, _, hc, rfl, ?_⟩
    rw [run, bind_of_ok hpath, hc]
    rfl
  · have hc : options.conflicts = [] := by
      rw [Options.conflicts, if_neg (by simpa using hboth)]
    have hmake : make session history job = (.ok front, (make session history job).2) :=
      Prod.ext (h.made job) rfl
    have hmade := h.make_call job
    generalize (make session history job).2 = made at hmake hmade
    obtain ⟨used, raised, hconducts, hcalls, hend⟩ := h.runSelected hs hu (front.enter made).2
    obtain ⟨hwithin, hends⟩ := h.within hcalls hend
    refine Or.inr ⟨hboth, used, raised, hconducts, ?_⟩
    have hrun : (do
        let front ← make session history
        within front (Mode.runSelected front read options)
        return Outcome.success) job =
          ((endOf raised).map fun _ => .success,
            (within front (Mode.runSelected front read options) made).2) := by
      rw [bind_of_ok hmake, bind_apply]
      cases hw : within front (Mode.runSelected front read options) made with
      | mk result after =>
          rw [hw] at hends
          obtain rfl : result = endOf raised := hends
          cases raised <;> rfl
    rw [run, bind_of_ok hpath, hc]
    dsimp only
    rw [Lifetime.outcome_of_end hrun, hwithin, hmade, List.append_assoc]
    exact ⟨rfl, rfl⟩

-----------------------------------------------------------------------------------------
-- A front end elsewhere
-----------------------------------------------------------------------------------------

/-- The call that an event of a front end elsewhere notes, with what comes of it. -/
def call? (remote : FrontEnd.Remote) (script : Except Fault String) : Event → Option Call
  | .call "factory" [.text handle, .text history] => some (.make handle history)
  | .call "enter" [] => some .enter
  | .call "read" [.text locator] => some (.read locator script)
  | .call "execute_file" [.text text] => some (.executeFile text (endOf remote.executing))
  | .call "submit_update" [.text statement] =>
      some (.submitUpdate statement ((endOf remote.submitting).map fun _ => remote.accepts))
  | .call "open" [] => some (.openShell (endOf remote.opening))
  | .call "exit" [.text told] => some (.leave (some told))
  | .call "exit" [.null] => some (.leave none)
  | _ => none

/-- The calls of a front end elsewhere that the job has noted. -/
def callsElsewhere (remote : FrontEnd.Remote) (script : Except Fault String) (job : Job)
    : List Call :=
  job.trace.filterMap (call? remote script)

/-- Noting a call and what is given for it is one call. -/
theorem isCall_noteCall {α : Type} {remote : FrontEnd.Remote} {script : Except Fault String}
    {name : String} {arguments : List Value} {next : Act α} {result : Except Fault α}
    {call : Except Fault α → Call} (hn : ∀ job, next job = (result, job))
    (hc : call? remote script (.call name arguments) = some (call result))
    : IsCall (callsElsewhere remote script) call (noteCall name arguments >>= fun _ => next) := by
  intro job
  show callsElsewhere remote script (next (job.note (.call name arguments))).2 = _ ++
    [call (next (job.note (.call name arguments))).1]
  rw [hn]
  show (job.trace ++ [_]).filterMap _ = _
  rw [List.filterMap_append, List.filterMap_cons_some hc]
  rfl

theorem failIf_apply (fault : Option Fault) (job : Job) : failIf fault job = (endOf fault, job) := by
  cases fault <;> rfl

/-- The calls of a front end elsewhere are a ledger, whatever comes of reading and of the modes. -/
theorem ledger_elsewhere {remote : FrontEnd.Remote} (hm : remote.making = none)
    (he : remote.entering = none) (hp : remote.passesOver = false) (script : Except Fault String)
    (session : Session) (history : Path)
    : ∃ front, Ledger (callsElsewhere remote script) (FrontEnd.elsewhere remote)
        (FrontEnd.readElsewhere script) session history front := by
  obtain ⟨making, entering, executing, submitting, opening, accepts, passesOver⟩ := remote
  obtain ⟨rfl, rfl, rfl⟩ : making = none ∧ entering = none ∧ passesOver = false := ⟨hm, he, hp⟩
  refine ⟨_, fun _ => rfl, fun _ => rfl, fun _ _ => rfl, isCall_noteCall (fun _ => rfl) rfl,
    isCall_noteCall (fun _ => rfl) rfl, fun _ => isCall_noteCall (fun _ => ofResult_apply _ _) rfl,
    fun _ => isCall_noteCall (fun _ => failIf_apply _ _) rfl,
    fun _ => isCall_noteCall (fun job => ?_) rfl, isCall_noteCall (fun _ => failIf_apply _ _) rfl,
    fun told => ?_, fun job level message => ?_⟩
  · show (failIf submitting >>= fun _ => pure accepts) job = _
    rw [bind_apply, failIf_apply]
    cases submitting <;> rfl
  · cases told with
    | none => exact isCall_noteCall (fun _ => rfl) rfl
    | some fault => exact isCall_noteCall (fun _ => rfl) rfl
  · show (job.trace ++ [_]).filterMap _ = _
    rw [List.filterMap_append]
    exact List.append_nil _

/-- The failure of a statement that names no table. -/
def noTable : Fault :=
  LocalExecutor.failure "no such table: t"

/-- A front end whose scripts fail. -/
def failingRemote : FrontEnd.Remote where
  executing := some noTable

/-- A run for a script of one statement in this front end. -/
def failingRun : Except Fault Outcome × Job :=
  run (FrontEnd.elsewhere failingRemote) (FrontEnd.readElsewhere (.ok "SELECT * FROM t;")) none
    none ⟨"default", .here 0⟩ { script := some (.text "q.sql"), history := some (.text "h") } {}

/-- The script is read and executed once, the front end is left, and the outcome is the very fault.
-/
theorem run_calls_one_mode_when_failing
    : (∃ front, Ledger (callsElsewhere failingRemote (.ok "SELECT * FROM t;"))
          (FrontEnd.elsewhere failingRemote) (FrontEnd.readElsewhere (.ok "SELECT * FROM t;"))
          ⟨"default", .here 0⟩ (.ofString "h") front)
      ∧ (HistoryFile.path (some (.text "h")) none none {}).1 = .ok (.ofString "h")
      ∧ callsElsewhere failingRemote (.ok "SELECT * FROM t;") failingRun.2 =
        [.make "default" "h", .enter, .read "q.sql" (.ok "SELECT * FROM t;"),
          .executeFile "SELECT * FROM t;" (.error noTable), .leave (some "SqlExecutionError")]
      ∧ failingRun.1 = .ok (.failure noTable) := by
  obtain ⟨front, hledger⟩ := @ledger_elsewhere failingRemote rfl rfl rfl (.ok "SELECT * FROM t;")
    ⟨"default", .here 0⟩ (.ofString "h")
  have hpath : (HistoryFile.path (some (.text "h")) none none {}).1 = .ok (.ofString "h") := rfl
  have hnoted : callsElsewhere failingRemote (.ok "SELECT * FROM t;") failingRun.2 =
      [.make "default" "h", .enter, .read "q.sql" (.ok "SELECT * FROM t;"),
        .executeFile "SELECT * FROM t;" (.error noTable), .leave (some "SqlExecutionError")] :=
    rfl
  rcases @run_calls_one_mode _ _ _ _ _ _
    { script := some (.text "q.sql"), history := some (.text "h") } {} none none hledger hpath
    (by simp) (by simp) with ⟨-, hupdate, -⟩ | ⟨-, used, raised, hconducts, hcalls, hend⟩
  · exact nomatch hupdate
  · rw [← failingRun, hnoted] at hcalls
    rw [← failingRun] at hend
    cases hconducts with
    | unread _ => simp [callsElsewhere] at hcalls
    | script _ =>
        simp only [callsElsewhere, List.filterMap_nil, List.nil_append, List.cons_append,
          List.cons.injEq, Call.read.injEq, Call.executeFile.injEq, true_and] at hcalls
        obtain ⟨-, -, ⟨-, rfl⟩, -⟩ := hcalls
        exact ⟨⟨front, hledger⟩, hpath, hnoted, hend⟩
    | update hs _ => exact nomatch hs
    | shell hs _ => exact nomatch hs

end Mode

end SqlShell
