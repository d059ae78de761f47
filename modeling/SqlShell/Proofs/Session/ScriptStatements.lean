import SqlShell.Proofs.Client.UpdateSending
import SqlShell.Proofs.Session.SessionUse

/-! The statements of a script in an open session, where output is only noted: they are executed in
order up to the first one whose reply raises a fault or has a result that cannot be shown. The script
ends with that fault, or it ends well if there is none.
-/

namespace SqlShell

open Act

/-- The fault that a reply raises when its statement is executed or its rows are fetched. A signal
asks the job to exit with the code of the signal.
-/
def Reply.raised? : Reply → Option Fault
  | .fault raised => some raised
  | .signal number => some { kind := .exit, message := toString (128 + number) }
  | .answer (some _) _ _ fetching => fetching
  | .answer none _ _ _ => none

/-- The result of a statement whose reply raises nothing. -/
def Reply.result : Reply → StatementResult
  | .answer none _ changed _ => { changed }
  | .answer (some columns) rows _ _ => { columns, rows }
  | _ => {}

/-- What comes of a statement by its reply. -/
def Reply.outcome (reply : Reply) : Except Fault StatementResult :=
  match reply.raised? with
  | some raised => .error raised
  | none => .ok reply.result

/-- The fault that stops a script at a reply: the one that it raises, or else the flaw of a result that
cannot be shown.
-/
def Reply.stopping? (reply : Reply) : Option Fault :=
  reply.raised?.or reply.result.flaw?

/-- The fault that tells a client of a fault of a statement. -/
def Executor.told (fault : Fault) : Fault :=
  if fault.kind.isDatabase then (LocalExecutor.failure fault.message).because fault else fault

-----------------------------------------------------------------------------------------
-- How far a script runs
-----------------------------------------------------------------------------------------

/-- So many statements out of a number are executed: up to the first one at whose reply the fault
stops them, or all of them if no reply does.
-/
def RunsUpTo (replies : Nat → Reply) (count executed : Nat) : Option Fault → Prop
  | none => executed = count ∧ ∀ i < count, (replies i).stopping? = none
  | some fault => ∃ i < count, executed = i + 1 ∧ (replies i).stopping? = some fault
      ∧ ∀ j < i, (replies j).stopping? = none

namespace RunsUpTo

variable {replies : Nat → Reply} {count executed : Nat} {raised : Option Fault}

theorem zero : RunsUpTo replies 0 0 none :=
  ⟨rfl, fun _ hi => absurd hi (Nat.not_lt_zero _)⟩

/-- A first reply that stops the statements is the last one. -/
theorem stop {fault : Fault} (h : (replies 0).stopping? = some fault)
    : RunsUpTo replies (count + 1) 1 (some fault) :=
  ⟨0, Nat.succ_pos count, rfl, h, fun _ hj => absurd hj (Nat.not_lt_zero _)⟩

/-- After a first reply that does not the others decide. -/
theorem succ (h : (replies 0).stopping? = none)
    (hr : RunsUpTo (fun i => replies (i + 1)) count executed raised)
    : RunsUpTo replies (count + 1) (executed + 1) raised := by
  have hlater : ∀ {bound}, (∀ i < bound, (replies (i + 1)).stopping? = none) →
      ∀ i < bound + 1, (replies i).stopping? = none := by
    intro bound hb i hi
    cases i with
    | zero => exact h
    | succ i => exact hb i (Nat.lt_of_succ_lt_succ hi)
  cases raised with
  | none =>
      obtain ⟨rfl, hnone⟩ := hr
      exact ⟨rfl, hlater hnone⟩
  | some fault =>
      obtain ⟨i, hi, rfl, hf, hnone⟩ := hr
      exact ⟨i + 1, Nat.succ_lt_succ hi, rfl, hf, hlater hnone⟩

end RunsUpTo

-----------------------------------------------------------------------------------------
-- Replies
-----------------------------------------------------------------------------------------

namespace Executor

/-- A client is told of failures of the database and of its own as failures of the client. -/
theorem isClient_told (fault : Fault)
    : (told fault).kind.isClient = (fault.kind.isDatabase || fault.kind.isClient) := by
  rw [told]
  cases hd : fault.kind.isDatabase with
  | true => rfl
  | false => rfl

/-- Other faults are told as they are. -/
theorem told_of_not_isClient {fault : Fault} (h : (told fault).kind.isClient = false)
    : told fault = fault := by
  rw [isClient_told, Bool.or_eq_false_iff] at h
  rw [told, h.1]
  rfl

/-- A fault of a statement is told as failures of the database are. -/
theorem rescue_told (act : Act StatementResult) (job : Job)
    : (act.rescue FaultKind.isDatabase (fun fault =>
        fail ((LocalExecutor.failure fault.message).because fault)) job).1 =
        (act job).1.mapError told := by
  cases hr : (act job).1 with
  | ok value =>
      rw [rescue_of_ok hr, hr]
      rfl
  | error fault =>
      show _ = Except.error (told fault)
      cases hd : fault.kind.isDatabase with
      | true => rw [rescue_of_handled hr hd, told, hd, if_pos rfl, fail]
      | false => rw [rescue_of_not_handled hr hd, hr, told, hd]; rfl

/-- An answer of the database ends its statement as it says. -/
theorem resultOf_answer (columns : Option (List String)) (rows : List (List Value)) (changed : Int)
    (fetching : Option Fault) (job : Job)
    : (resultOf (.answer columns rows changed fetching) job).1 =
        (Reply.answer columns rows changed fetching).outcome := by
  cases columns <;> cases fetching <;> rfl

end Executor

/-- The client is told of the flaw of a result as it is. -/
theorem StatementResult.told_flaw (result : StatementResult)
    : result.flaw?.map Executor.told = result.flaw? := by
  rw [flaw?]
  split
  · rfl
  · rfl

/-- From one state of the job to another a first part of the statements has been sent, up to where
their replies stop them, and the scene has stayed as it was.
-/
structure Executed (replies : Nat → Reply) (statements : List (List Char)) (raised : Option Fault)
    (before after : Job) : Prop where
  sent_eq : ∃ executed, RunsUpTo replies statements.length executed raised
    ∧ after.sent = before.sent ++ (statements.take executed).map String.ofList
  scene_eq : after.scene = before.scene

/-- What is sent and the scene may be told of other states of the job that agree in both. -/
theorem Executed.of_eq {replies : Nat → Reply} {statements : List (List Char)}
    {raised : Option Fault} {before after first last : Job}
    (h : Executed replies statements raised before after)
    (hf : before.sent = first.sent ∧ before.scene = first.scene)
    (hl : last.sent = after.sent ∧ last.scene = after.scene)
    : Executed replies statements raised first last := by
  obtain ⟨⟨executed, hruns, hsent⟩, hscene⟩ := h
  exact ⟨⟨executed, hruns, by rw [hl.1, hsent, hf.1]⟩, by rw [hl.2, hscene, hf.2]⟩

namespace Lifetime

variable {start job : Job} {session : Session} {client : Client}

/-- The statements of an open session are those that its events send. -/
theorem filterMap_openEvents (database : String) (statements : List String)
    : (openEvents start database statements).filterMap Event.sent? = statements := by
  rw [openEvents, List.filterMap_cons_none rfl, List.filterMap_map]
  exact List.filterMap_some

/-- In an open session all statements that were counted have been sent. -/
theorem Opened.statements_eq (h : Opened start session job)
    : job.statements = start.statements + job.sent.length := by
  obtain ⟨database, statements, hevents, hcount⟩ := h.events
  have hsent : job.sent = statements := by
    rw [Job.sent_eq, hevents, filterMap_openEvents]
  rw [hsent]
  exact hcount

/-- A session that has ended was connected, was sent what the job has sent, and was disconnected. -/
theorem Ended.sessionEvents_eq {count : Nat} (h : Ended start count job)
    : ∃ database, job.sessionEvents = closedEvents start database job.sent := by
  obtain ⟨database, statements, hrests, _⟩ := h
  have hsent : job.sent = statements := by
    rw [Job.sent_eq, hrests.events_eq, closedEvents, List.filterMap_append, filterMap_openEvents]
    exact List.append_nil _
  exact ⟨database, hsent ▸ hrests.events_eq⟩

/-- A statement in a live session ends as its reply says, by the cases of the reply. -/
theorem Live.execute_end (h : Live start session job) (hc : client.session = session)
    (ho : ClosesOrdinarily start) (statement : List Char)
    : (client.execute statement job).1 =
        (start.database.reply job.statements).outcome.mapError Executor.told := by
  rw [h.toOpened.execute_apply hc, Executor.rescue_told]
  refine congrArg (Except.mapError Executor.told) ?_
  generalize hn : job.note (.execute (connection start) (String.ofList statement)) = noted
  have hsend : (do
      record (.execute (connection start) (String.ofList statement))
      Executor.resultOf (← Executor.nextReply) : Act StatementResult) job =
        (Executor.nextReply >>= Executor.resultOf) noted := by
    rw [← hn]
    rfl
  have hreply : noted.database.reply noted.statements = start.database.reply job.statements := by
    rw [← hn, ← h.database_eq]
    rfl
  cases hr : start.database.reply job.statements with
  | fault raised =>
      rw [hsend, bind_of_error (by rw [Executor.nextReply_of_fault (hreply.trans hr)])]
      rfl
  | signal number =>
      -- The hook of the session closes it without a fault that could hide the request to exit.
      obtain ⟨fault, he, _, hx, _⟩ := (h.toGuarded.executed (String.ofList statement)).handleSignal
        (α := Reply) number
      rw [Executor.send_of_signal Executor.resultOf _ (h.database_eq ▸ hr) he, hx ho]
      rfl
  | answer columns rows changed fetching =>
      rw [hsend, bind_of_ok (Executor.nextReply_of_answer (hreply.trans hr))]
      exact Executor.resultOf_answer columns rows changed fetching _

/-- A statement in an open session is sent, whatever comes of it, and the scene stays as it is. -/
theorem Opened.execute_sent (h : Opened start session job) (hc : client.session = session)
    (statement : List Char)
    : (client.execute statement job).2.sent = job.sent ++ [String.ofList statement]
      ∧ (client.execute statement job).2.scene = job.scene := by
  rw [h.execute_apply hc, rescue_job fun _ _ => rfl]
  refine ⟨Executor.sent_send Executor.resultOf_job _ job, ?_⟩
  have hread : ∀ reply, Preserves (InScene job.scene) (Executor.resultOf reply) :=
    fun reply after hs => by rw [Executor.resultOf_job]; exact hs
  have hreply : Preserves (InScene job.scene) (Executor.nextReply >>= Executor.resultOf) :=
    (stable_inScene job.scene).nextReply.bind hread
  exact hreply (job.note _) rfl

-----------------------------------------------------------------------------------------
-- Scripts
-----------------------------------------------------------------------------------------

/-- One statement of a script is sent and leaves the scene as it is. It ends well unless its reply
stops the script, and otherwise with the fault that the client is told.
-/
theorem Live.scriptStep (h : Live start session job) (hr : job.Records)
    (hc : client.session = session) (ho : ClosesOrdinarily start) (statement : List Char)
    : (client.scriptStep statement job).2.sent = job.sent ++ [String.ofList statement]
      ∧ (client.scriptStep statement job).2.scene = job.scene
      ∧ (client.scriptStep statement job).1 =
        endOf ((start.database.reply job.statements).stopping?.map Executor.told) := by
  generalize hp : Client.promptText ++ String.ofList statement ++ ";" = prompt
  obtain ⟨shown, hshown, hscene, hcore⟩ := Console.endsWith_notice .out prompt job hr
  -- The prompt leaves the core as it is, so that the statement meets the same reply.
  have hlive := h.of_core hcore
  have hend := hlive.execute_end hc ho statement
  obtain ⟨hsent, hexecuted⟩ := hlive.toOpened.execute_sent hc statement
  rw [Job.statements_of_core hcore] at hend
  rw [Job.sent_of_core hcore] at hsent
  rw [Client.scriptStep, hp, bind_of_ok hshown]
  generalize start.database.reply job.statements = reply at hend
  cases he : client.execute statement shown with
  | mk result executed =>
      rw [he] at hend hsent hexecuted
      rw [Reply.stopping?]
      cases hraised : reply.raised? with
      | some fault =>
          rw [Reply.outcome, hraised] at hend
          obtain rfl : result = .error (Executor.told fault) := hend
          rw [bind_of_error (by rw [he]), he]
          exact ⟨hsent, hexecuted.trans hscene, rfl⟩
      | none =>
          rw [Reply.outcome, hraised] at hend
          obtain rfl : result = .ok reply.result := hend
          have hs : EndsWith (reply.result.shown >>= fun _ => Console.notice .out "")
              (endOf (reply.result.flaw?.map Executor.told)) := by
            have hshow := reply.result.endsWith_shown
            rw [StatementResult.told_flaw]
            cases hf : reply.result.flaw? with
            | none =>
                rw [hf] at hshow
                exact hshow.bind (Console.endsWith_notice .out "")
            | some fault =>
                rw [hf] at hshow
                exact .bind_error hshow
          obtain ⟨after, hafter, hsame, hlast⟩ := hs executed (hr.of_scene (hexecuted.trans hscene))
          rw [bind_of_ok he, hafter]
          exact ⟨(Job.sent_of_core hlast).trans hsent, hsame.trans (hexecuted.trans hscene), rfl⟩

end Lifetime

end SqlShell
