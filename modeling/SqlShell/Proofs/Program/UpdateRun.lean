import SqlShell.Proofs.Options.Occurrences
import SqlShell.Proofs.Program.ScriptRun

/-! A run of the program for an update tells the truth about it: its exit code is that of a success
exactly if the one statement of the update was executed and its reply raised nothing, and an update
that was not accepted is reported as a failure, after the user was told why.
-/

namespace SqlShell

open Act

/-- The update option takes any text after its equals sign but the mark that ends the options. -/
theorem CommandLine.parse_update {text : String} (h : text ≠ "--")
    : parse ["--update=" ++ text] = .ok { update := some (.text text) } := by
  have hwritten : written [.joined .update rfl true text h] = ["--update=" ++ text] := rfl
  have hroles := roles_written [.joined .update rfl true text h]
  rw [hwritten] at hroles
  rw [parse, hroles]
  show (readRoles {} _ >>= _) = _
  rw [readRoles_flatMap, List.nil_append]
  show (.ok (readingOf [.joined .update rfl true text h]).options : Except Problem Options) = _
  rw [options_readingOf]
  rfl

namespace Lifetime

variable {start job after : Job} {session : Session} {client : Client} {text : String}

-----------------------------------------------------------------------------------------
-- The update
-----------------------------------------------------------------------------------------

/-- An update has been shown to the user as an error. -/
def ShowsError (job : Job) : Prop :=
  ∃ message, HasNoted (.notice .err ("[ERROR] " ++ message)) job

/-- How an update ends, with what was sent for it and the fault that it raises: it is refused before
anything is sent, or it is sent and the reply decides. Where the user is told of an error, the fault
is that of an update which was not accepted.
-/
inductive UpdateEnds (reply : Reply) (text : String)
    : List String → Option Fault → Job → Prop where
  | refused {after : Job} (h : ¬ ∃ statement, Client.IsSingleUpdate text statement)
      (ht : ShowsError after) :
      UpdateEnds reply text [] (some Mode.notSubmitted) after
  | accepted {after : Job} {statement : List Char} (h : Client.IsSingleUpdate text statement)
      (hr : reply.raised? = none) :
      UpdateEnds reply text [String.ofList statement] none after
  | rejected {after : Job} {statement : List Char} {fault : Fault}
      (h : Client.IsSingleUpdate text statement) (hr : reply.raised? = some fault)
      (hk : Client.isStatementFault (Executor.told fault).kind = true) (ht : ShowsError after) :
      UpdateEnds reply text [String.ofList statement] (some Mode.notSubmitted) after
  | failed {after : Job} {statement : List Char} {fault : Fault}
      (h : Client.IsSingleUpdate text statement) (hr : reply.raised? = some fault)
      (hk : Client.isStatementFault (Executor.told fault).kind = false) :
      UpdateEnds reply text [String.ofList statement] (some (Executor.told fault)) after

/-- How an update has ended stays so while nothing that the user was told is taken back. -/
theorem UpdateEnds.of_noted {reply : Reply} {sent : List String} {raised : Option Fault}
    (h : UpdateEnds reply text sent raised job)
    (hn : ∀ event, HasNoted event job → HasNoted event after)
    : UpdateEnds reply text sent raised after := by
  have hshown : ShowsError job → ShowsError after := fun ⟨message, ht⟩ => ⟨message, hn _ ht⟩
  cases h with
  | refused h ht => exact .refused h (hshown ht)
  | accepted h hr => exact .accepted h hr
  | rejected h hr hk ht => exact .rejected h hr hk (hshown ht)
  | failed h hr hk => exact .failed h hr hk

/-- Showing an error to a user whose output is only noted notes it. -/
theorem showError_of_noted (h : job.terminal = .noted) (message : String)
    : Client.showError message job = (.ok (), job.note (.notice .err ("[ERROR] " ++ message)))
      ∧ ShowsError (job.note (.notice .err ("[ERROR] " ++ message))) :=
  ⟨Notes.notice .err ("[ERROR] " ++ message) job h rfl, message,
    List.mem_append_right _ List.mem_cons_self⟩

/-- An update whose statement ends well is accepted. -/
theorem tellUpdate_of_ok (h : job.terminal = .noted) (result : StatementResult)
    : (Client.tellUpdate (.ok result) job).1 = .ok true := by
  rw [Client.tellUpdate, bind_of_ok (Notes.notice .out _ job h rfl)]
  generalize hj : job.noteAll _ = told
  have htold : told.terminal = .noted := by
    rw [← hj]
    exact h
  split
  · rw [bind_of_ok (Notes.notice .out _ told htold rfl)]
    rfl
  · rfl

/-- An update whose statement fails is not accepted, and other faults pass. -/
theorem tellUpdate_of_error (h : job.terminal = .noted) (fault : Fault)
    : (Client.isStatementFault fault.kind = true
        ∧ (Client.tellUpdate (.error fault) job).1 = .ok false
        ∧ ShowsError (Client.tellUpdate (.error fault) job).2)
      ∨ Client.isStatementFault fault.kind = false
        ∧ (Client.tellUpdate (.error fault) job).1 = .error fault := by
  rw [Client.tellUpdate]
  cases Client.isStatementFault fault.kind with
  | false => exact Or.inr ⟨rfl, rfl⟩
  | true =>
      obtain ⟨hshown, ht⟩ := showError_of_noted h fault.message
      refine Or.inl ⟨rfl, ?_⟩
      show ((Client.showError fault.message >>= fun _ => pure false : Act Bool) job).1 = _ ∧
        ShowsError ((Client.showError fault.message >>= fun _ => pure false : Act Bool) job).2
      rw [bind_of_ok hshown]
      exact ⟨rfl, ht⟩

/-- Telling how an update has ended keeps a stable property. -/
theorem stable_tellUpdate {I : Job → Prop} (h : Stable I) (result : Except Fault StatementResult)
    : Preserves I (Client.tellUpdate result) := by
  cases result with
  | error fault =>
      rw [Client.tellUpdate]
      split
      · exact fun _ hi => hi
      · exact (h.notice .err _).bind fun _ => .pure false
  | ok result =>
      refine (h.notice .out _).bind fun _ => ?_
      split
      · exact (h.notice .out _).bind fun _ => .pure true
      · exact .pure true

/-- An update in a live session is sent if it is a single one, and ends as the reply says. -/
theorem Live.submitUpdate_ends (h : Live start session job) (hn : job.terminal = .noted)
    (hc : client.session = session) (ho : ClosesOrdinarily start) (text : String)
    : ∃ sent, (client.submitUpdate text job).2.sent = job.sent ++ sent
        ∧ (client.submitUpdate text job).2.scene = job.scene
        ∧ UpdateEnds (start.database.reply job.statements) text sent
          (Mode.unlessAccepted (client.submitUpdate text job).1)
          (client.submitUpdate text job).2 := by
  by_cases hs : ∃ statement, Client.IsSingleUpdate text statement
  · obtain ⟨statement, hs⟩ := hs
    obtain ⟨hsent, hscene⟩ := h.toOpened.execute_sent hc statement
    have hend := h.execute_end hc ho statement
    have hcore := Client.core_submitUpdate hs client job
    refine ⟨_, (Job.sent_of_core hcore).trans hsent, ?_⟩
    have hsubmit : client.submitUpdate text job =
        Client.tellUpdate (client.execute statement job).1 (client.execute statement job).2 := by
      rw [Client.submitUpdate_of_single hs]
      rfl
    rw [hsubmit]
    have hnoted : (client.execute statement job).2.terminal = .noted :=
      (Job.terminal_of_scene hscene).trans hn
    generalize (client.execute statement job).2 = executed at hnoted hscene
    generalize (client.execute statement job).1 = result at hend
    refine ⟨stable_tellUpdate (stable_inScene job.scene) result executed hscene, ?_⟩
    generalize start.database.reply job.statements = reply at hend
    cases hr : reply.raised? with
    | none =>
        rw [Reply.outcome, hr] at hend
        obtain rfl : result = .ok reply.result := hend
        rw [tellUpdate_of_ok hnoted]
        exact .accepted hs hr
    | some fault =>
        rw [Reply.outcome, hr] at hend
        obtain rfl : result = .error (Executor.told fault) := hend
        rcases tellUpdate_of_error hnoted (Executor.told fault) with ⟨hk, he, ht⟩ | ⟨hk, he⟩
        · rw [he]
          exact .rejected hs hr hk ht
        · rw [he]
          exact .failed hs hr hk
  · obtain ⟨hshown, ht⟩ := showError_of_noted hn Client.unsupportedUpdate
    refine ⟨[], ?_, ?_⟩
    · rw [List.append_nil, Job.sent_of_core (Client.submitUpdate_refused hs client job).2]
    · rw [Client.submitUpdate_of_refused hs, bind_of_ok hshown]
      exact ⟨rfl, .refused hs ht⟩

/-- The mode for an update submits it, and must have it accepted. -/
theorem runSelected_update (answers : List Answer)
    : Mode.runSelected (frontOf client answers) Mode.readLocal { update := some (.text text) } job =
        (do
          if !(← client.submitUpdate text) then
            fail Mode.notSubmitted)
        (job.note (.log .info "Submitting single update statement")) :=
  rfl

/-- What is submitted ends the mode as it must be accepted. -/
theorem mustBeAccepted (client : Client) (text : String) (job : Job)
    : (do if !(← client.submitUpdate text) then fail Mode.notSubmitted) job =
        (endOf (Mode.unlessAccepted (client.submitUpdate text job).1),
          (client.submitUpdate text job).2) := by
  rw [bind_apply]
  cases client.submitUpdate text job with
  | mk result after =>
      cases result with
      | error fault => rfl
      | ok accepted => cases accepted <;> rfl

/-- A mode for an update in a live session ends as its submission does, and closes its client. -/
theorem Live.run_update {home : Path} (h : Live start session job) (hn : job.terminal = .noted)
    (hhome : HistoryFile.homeDirectory job = .ok home) (ho : ClosesOrdinarily start)
    (text : String) (answers : List Answer)
    : ∃ sent raised,
        (modeOf answers session { update := some (.text text) } job).1 = outcomeOf raised
        ∧ (modeOf answers session { update := some (.text text) } job).2.sent = job.sent ++ sent
        ∧ (modeOf answers session { update := some (.text text) } job).2.scene = job.scene
        ∧ UpdateEnds (start.database.reply job.statements) text sent raised
          (modeOf answers session { update := some (.text text) } job).2 := by
  generalize hl : ({ job with clientClosed := false } : Job).note
    (.log .info "Submitting single update statement") = logged
  obtain ⟨hlive, hbefore, hsame, hcount⟩ := h.enter "Submitting single update statement" hl
  have hc : (clientOf session home job).session = session := rfl
  obtain ⟨sent, hsent, hscene, hends⟩ :=
    hlive.submitUpdate_ends ((Job.terminal_of_scene hsame).trans hn) hc ho text
  have hselected : Mode.runSelected (frontOf (clientOf session home job) answers) Mode.readLocal
      { update := some (.text text) } { job with clientClosed := false } =
        (endOf (Mode.unlessAccepted ((clientOf session home job).submitUpdate text logged).1),
          ((clientOf session home job).submitUpdate text logged).2) := by
    rw [runSelected_update, hl, mustBeAccepted]
  have hmode := @modeOf_apply job session { update := some (.text text) } answers _ _ _ rfl
    (historyPath_of_home session rfl hhome) hselected
  rw [hmode]
  refine ⟨sent, _, rfl, ?_, ?_, ?_⟩
  · rw [(stable_hasSent _).closeClient _ _ rfl, hsent, hbefore]
  · exact ((stable_inScene _).closeClient _ _ rfl).trans (hscene.trans hsame)
  · rw [← hcount]
    exact hends.of_noted fun event he => (stable_hasNoted event).closeClient _ _ he

-----------------------------------------------------------------------------------------
-- The session
-----------------------------------------------------------------------------------------

/-- Nothing but the update can keep a run for it from going on: nothing has been done in the job,
output is only noted, and the session opens and closes without a fault.
-/
structure ReadyToUpdate (text : String) (start : Job) : Prop extends Fresh start where
  noted : start.terminal = .noted
  opens : (Session.openWith Session.makeLocal Session.readLocal .user
    { update := some (.text text) } start).1.isOk = true
  closes : start.database.closing (connection start) = none

/-- A run for an update submits the update in its session, and ends as the update does. -/
theorem runEmbedded_update (h : ReadyToUpdate text start)
    (hhome : (HistoryFile.homeDirectory start).isOk = true) (answers : List Answer)
    : ∃ executed raised,
        (Program.runEmbedded { update := some (.text text) } answers start).1 = outcomeOf raised
        ∧ (Program.runEmbedded { update := some (.text text) } answers start).2.sent = executed
        ∧ (Program.runEmbedded { update := some (.text text) } answers start).2.scene = start.scene
        ∧ (∃ count, Ended start count
          (Program.runEmbedded { update := some (.text text) } answers start).2)
        ∧ UpdateEnds (start.database.reply start.statements) text executed raised
          (Program.runEmbedded { update := some (.text text) } answers start).2 := by
  obtain ⟨session, registered, hlive, hscene, hsent, hcount, hrun, hended⟩ :=
    h.toFresh.runEmbedded rfl h.opens h.closes answers
  obtain ⟨home, hhome⟩ := exists_of_isOk hhome
  have hordinary : ClosesOrdinarily start := fun fault he => nomatch h.closes.symm.trans he
  obtain ⟨executed, raised, hend, hused, hkept, hends⟩ :=
    hlive.run_update ((Job.terminal_of_scene hscene).trans h.noted)
      ((Job.homeDirectory_of_scene hscene).trans hhome) hordinary text answers
  rw [hsent, List.nil_append] at hused
  rw [hcount] at hends
  rw [hrun] at hended ⊢
  exact ⟨executed, raised, hend, ((stable_hasSent _).close session _ rfl).trans hused,
    ((stable_inScene _).close session _ rfl).trans (hkept.trans hscene), hended,
    hends.of_noted fun event he => (stable_hasNoted event).close session _ he⟩

-----------------------------------------------------------------------------------------
-- The exit code
-----------------------------------------------------------------------------------------

/-- A run that ends so is the report of an update that was not accepted, with the exit code of a
failure. The user was shown an error before.
-/
def ReportsNotSubmitted (start : Job) (result : Except Fault Nat × Job) : Prop :=
  ∃ before, ShowsError before
    ∧ result = (.ok Program.failureCode,
      before.noteAll (Program.failureEvents start.escaped Mode.notSubmitted))

/-- How a run for an update ends agrees with what it has executed. -/
structure TellsTruth (start : Job) (text : String) (executed : List String)
    (result : Except Fault Nat × Job) : Prop where
  single : executed ≠ [] →
    ∃ statement, Client.IsSingleUpdate text statement ∧ executed = [String.ofList statement]
  success_iff : result.1 = .ok Program.successCode ↔
    executed.length = 1 ∧ (start.database.reply start.statements).raised? = none
  code_eq : executed ≠ [] →
    result.1 = codeOf (start.database.reply start.statements).raised?
  submitted_iff : (HistoryFile.homeDirectory start).isOk = true →
    (executed ≠ [] ↔ ∃ statement, Client.IsSingleUpdate text statement)
  refused : (HistoryFile.homeDirectory start).isOk = true →
    (¬ ∃ statement, Client.IsSingleUpdate text statement) → ReportsNotSubmitted start result
  rejected : executed ≠ [] →
    (∃ fault, (start.database.reply start.statements).raised? = some fault
      ∧ fault.kind.isDatabase = true) → ReportsNotSubmitted start result

/-- Only what raises nothing has the exit code of a success. -/
theorem codeOf_eq_success_iff (raised : Option Fault)
    : codeOf raised = .ok Program.successCode ↔ raised = none := by
  cases raised with
  | none => exact ⟨fun _ => rfl, fun _ => rfl⟩
  | some fault =>
      refine ⟨fun h => ?_, fun h => absurd h (Option.some_ne_none fault)⟩
      rw [codeOf] at h
      split at h
      · cases h
      · split at h
        · cases h
        · cases h

/-- A fault that fails the statement has the exit code of a failure. -/
theorem codeOf_of_isStatementFault {fault : Fault}
    (h : Client.isStatementFault (Executor.told fault).kind = true)
    : codeOf (some fault) = .ok Program.failureCode := by
  have hclient : (Executor.told fault).kind.isClient = true := by
    rw [Client.isStatementFault, decide_eq_true_eq] at h
    rw [h]
    rfl
  rw [codeOf, ← Executor.isClient_told, hclient]
  rfl

/-- A failure of the database fails the statement. -/
theorem isStatementFault_told {fault : Fault} (h : fault.kind.isDatabase = true)
    : Client.isStatementFault (Executor.told fault).kind = true := by
  rw [Executor.told, h]
  rfl

/-- A run that ends as its update does tells the truth, by the ways in which an update ends. -/
theorem UpdateEnds.tellsTruth {act : Act Outcome} {executed : List String} {raised : Option Fault}
    (h : UpdateEnds (start.database.reply start.statements) text executed raised after)
    (ha : act job = (outcomeOf raised, after)) (hn : after.terminal = .noted)
    (he : after.escaped = start.escaped)
    : TellsTruth start text executed (Program.exitCode act job) := by
  have hreported : ShowsError after → raised = some Mode.notSubmitted →
      ReportsNotSubmitted start (Program.exitCode act job) := by
    rintro ht rfl
    exact ⟨after, ht, he ▸ exitCode_of_failure ha hn⟩
  have hfailed : ReportsNotSubmitted start (Program.exitCode act job) →
      (Program.exitCode act job).1 = .ok Program.failureCode :=
    fun ⟨_, _, hr⟩ => congrArg Prod.fst hr
  have hsent : ∀ {statement : String}, [statement] ≠ [] := List.cons_ne_nil _ _
  cases h with
  | refused hs ht =>
      have hreport := hreported ht rfl
      refine ⟨fun hne => absurd rfl hne, ?_, fun hne => absurd rfl hne, fun _ => ?_,
        fun _ _ => hreport, fun hne => absurd rfl hne⟩
      · rw [hfailed hreport]
        exact ⟨nofun, nofun⟩
      · exact ⟨fun hne => absurd rfl hne, fun hex => absurd hex hs⟩
  | accepted hs hr =>
      have hcode := @exitCode_of_outcome job act none after ha hn
      refine ⟨fun _ => ⟨_, hs, rfl⟩, ?_, fun _ => by rw [hr, hcode], fun _ => ⟨fun _ => ⟨_, hs⟩,
        fun _ => hsent⟩, fun _ hne => absurd ⟨_, hs⟩ hne, ?_⟩
      · rw [hcode, codeOf_eq_success_iff]
        exact ⟨fun _ => ⟨rfl, hr⟩, fun _ => rfl⟩
      · rintro - ⟨fault, hf, -⟩
        exact nomatch hr.symm.trans hf
  | rejected hs hr hk ht =>
      have hreport := hreported ht rfl
      refine ⟨fun _ => ⟨_, hs, rfl⟩, ?_, fun _ => ?_, fun _ => ⟨fun _ => ⟨_, hs⟩,
        fun _ => hsent⟩, fun _ _ => hreport, fun _ _ => hreport⟩
      · rw [hfailed hreport, hr]
        exact ⟨nofun, nofun⟩
      · rw [hfailed hreport, hr, codeOf_of_isStatementFault hk]
  | @failed _ statement fault hs hr hk =>
      have hcode := @exitCode_of_outcome job act (some fault) after ha hn
      refine ⟨fun _ => ⟨_, hs, rfl⟩, ?_, fun _ => by rw [hr, hcode], fun _ => ⟨fun _ => ⟨_, hs⟩,
        fun _ => hsent⟩, fun _ hne => absurd ⟨_, hs⟩ hne, ?_⟩
      · rw [hcode, codeOf_eq_success_iff, hr]
        exact ⟨nofun, nofun⟩
      · rintro - ⟨other, hf, hd⟩
        obtain rfl := Option.some.inj (hr.symm.trans hf)
        rw [isStatementFault_told hd] at hk
        exact nomatch hk

/-- A run for an update connects, executes at most one statement in its session, and disconnects.
The run has the exit code of a success exactly if a statement was executed and its reply raised
nothing; that statement is all that the text is split into. A text that is refused, and one whose
statement the database fails, is reported as not submitted, after the user was shown an error.
-/
theorem run_update_truthful (h : ReadyToUpdate text start) (ht : text ≠ "--")
    (answers : List Answer)
    : ∃ database executed,
        (Program.run ["embedded", "--update=" ++ text] answers start).2.sessionEvents =
          .connect database (some (start.connections + 1))
            :: executed.map (.execute (start.connections + 1))
            ++ [.disconnect (start.connections + 1)]
        ∧ TellsTruth start text executed
          (Program.run ["embedded", "--update=" ++ text] answers start) := by
  have hdispatch : Program.dispatch ["embedded", "--update=" ++ text] answers =
      Program.runEmbedded { update := some (.text text) } answers := by
    rw [Program.dispatch, if_pos (show "embedded" = embeddedMode from rfl),
      CommandLine.parse_update ht]
    rfl
  rw [Program.run, hdispatch]
  cases hhome : (HistoryFile.homeDirectory start).isOk with
  | true =>
      obtain ⟨executed, raised, hend, hsent, hscene, ⟨count, hended⟩, hends⟩ :=
        runEmbedded_update h hhome answers
      obtain ⟨database, hevents⟩ := sessionEvents_exitCode hended
      refine ⟨database, executed, by rw [hevents, hsent]; rfl, ?_⟩
      exact hends.tellsTruth (Prod.ext hend rfl) ((Job.terminal_of_scene hscene).trans h.noted)
        (Job.escaped_of_scene hscene)
  | false =>
      obtain ⟨⟨database, hevents⟩, hcode⟩ :=
        exitCode_homeless h.toFresh h.noted rfl h.opens h.closes rfl hhome answers
      refine ⟨database, [], hevents, ?_⟩
      have hnot : ∀ {p : Prop}, (HistoryFile.homeDirectory start).isOk = true → p :=
        fun hok => absurd (hhome.symm.trans hok) Bool.false_ne_true
      refine ⟨fun hne => absurd rfl hne, ?_, fun hne => absurd rfl hne, hnot, hnot,
        fun hne => absurd rfl hne⟩
      rw [hcode]
      constructor
      · intro h
        cases h
      · exact fun h => absurd h.1 Nat.zero_ne_one

/-- A job whose database refuses to insert what is there already. -/
def refusingJob : Job where
  database := {
    reply := fun _ =>
      .fault { kind := .database .integrity, message := "UNIQUE constraint failed: t.a" } }

/-- The run executes the statement once, and reports that it was not submitted. -/
theorem run_update_truthful_when_refused
    : ReadyToUpdate "INSERT INTO t VALUES (1);" refusingJob
      ∧ "INSERT INTO t VALUES (1);" ≠ "--"
      ∧ ReportsNotSubmitted refusingJob
        (Program.run ["embedded", "--update=INSERT INTO t VALUES (1);"] [] refusingJob)
      ∧ ∃ database, (Program.run ["embedded", "--update=INSERT INTO t VALUES (1);"] []
          refusingJob).2.sessionEvents =
        [.connect database (some 1), .execute 1 "INSERT INTO t VALUES (1)", .disconnect 1] := by
  have hready : ReadyToUpdate "INSERT INTO t VALUES (1);" refusingJob :=
    ⟨⟨rfl, rfl, rfl, rfl⟩, rfl, by decide +kernel, rfl⟩
  have htext : "INSERT INTO t VALUES (1);" ≠ "--" := by decide
  have hsingle : Client.IsSingleUpdate "INSERT INTO t VALUES (1);"
      "INSERT INTO t VALUES (1)".toList :=
    ⟨by decide +kernel, by decide +kernel⟩
  obtain ⟨database, executed, hevents, htruth⟩ := run_update_truthful hready htext []
  have hsent := (htruth.submitted_iff (by decide +kernel)).mpr ⟨_, hsingle⟩
  obtain ⟨statement, hown, rfl⟩ := htruth.single hsent
  obtain rfl := (List.singleton_inj.mp (hown.1.symm.trans hsingle.1) :)
  exact ⟨hready, htext, htruth.rejected hsent ⟨_, rfl, rfl⟩, database, hevents⟩

end Lifetime

end SqlShell
