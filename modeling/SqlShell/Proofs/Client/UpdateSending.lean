import SqlShell.Proofs.Client.ShellSending
import SqlShell.Proofs.Session.StableProperties
import SqlShell.Proofs.Statement.SingleStatements

/-! A client that submits an update sends one statement, with the keyword of an update, or refuses
the text and sends nothing. What it sends is all of the text that the splitter takes for one
statement, which may hold several on one line.
-/

namespace SqlShell

open Act

namespace Executor

/-- Sending a statement is the one event that sends any, however it ends and its answer is read. -/
theorem sent_send {read : Reply → Act StatementResult}
    (hr : ∀ reply job, (read reply job).2 = job) (event : Event) (job : Job)
    : ((do record event; read (← nextReply)) job).2.sent = job.sent ++ event.sent?.toList := by
  have hread : ∀ reply, Preserves (HasSent (job.note event).sent) (read reply) :=
    fun reply after hs => by rw [hr reply after]; exact hs
  have hreply := ((stable_hasSent _).nextReply.bind hread) (job.note event) rfl
  rw [← Job.sent_note]
  exact hreply

end Executor

namespace Client

/-- A statement of a client is sent once if its session is open, and not at all if it is not. -/
theorem sent_execute (client : Client) (statement : List Char) (job : Job)
    : (client.SessionIsOpen job →
          (client.execute statement job).2.sent = job.sent ++ [String.ofList statement])
      ∧ (¬ client.SessionIsOpen job → (client.execute statement job).2.sent = job.sent) := by
  rw [execute, SessionIsOpen]
  cases client.session.executor with
  | elsewhere remote =>
      exact ⟨fun _ => Executor.sent_send Executor.wholeResultOf_job _ job,
        fun h => absurd trivial h⟩
  | here number =>
      rw [Executor.execute, Executor.executeHere]
      constructor
      · intro h
        obtain ⟨session, hs⟩ := openedSession_of_isOpen h
        have hcleared : ∀ fault job, ((fail ((LocalExecutor.failure fault.message).because fault)
            : Act StatementResult) job).2 = job := fun _ _ => rfl
        rw [bind_of_ok hs, rescue_job hcleared]
        exact Executor.sent_send Executor.resultOf_job _ job
      · intro h
        have hnone : ((job.executors[number]?).getD {}).session? client.session.handle = none := by
          simpa [LocalExecutor.isOpen] using h
        rw [bind_of_error (by rw [LocalExecutor.openedSession_of_none hnone]),
          LocalExecutor.openedSession_of_none hnone]

/-- The text is a single update: one statement, with the keyword of an update. -/
def IsSingleUpdate (text : String) (statement : List Char) : Prop :=
  Statement.split text.toList = [statement]
    ∧ String.ofList (Statement.keyword statement) ∈ Statement.updateKeywords

/-- The wording of a refused update is shown on every terminal. -/
theorem showError_unsupportedUpdate (job : Job)
    : (showError unsupportedUpdate job).1 = .ok () := by
  refine Console.notice_of_joinerless ?_ ?_ .err job
  all_goals decide +kernel

/-- The user is told how a statement that was sent as an update has ended, and it is told whether
the update was accepted. Other faults than those of the statement pass.
-/
def tellUpdate : Except Fault StatementResult → Act Bool
  | .error fault => do
      if !isStatementFault fault.kind then
        fail fault
      showError fault.message
      return false
  | .ok result => do
      Console.notice .out "[INFO] Statement has been submitted."
      if 0 ≤ result.changed then
        Console.notice .out (StatementResult.changedNotice result.changed)
      return true

theorem keepsCore_tellUpdate (result : Except Fault StatementResult)
    : KeepsCore (tellUpdate result) := by
  cases result with
  | error fault =>
      rw [tellUpdate]
      split
      · exact fun _ => rfl
      · exact (Console.keepsCore_notice .err _).bind fun _ => .pure false
  | ok result =>
      refine (Console.keepsCore_notice .out _).bind fun _ => ?_
      split
      · exact (Console.keepsCore_notice .out _).bind fun _ => .pure true
      · exact .pure true

/-- A single update is sent as any statement is, and the user is told how it has ended. -/
theorem submitUpdate_of_single {text : String} {statement : List Char}
    (h : IsSingleUpdate text statement) (client : Client)
    : client.submitUpdate text = (client.execute statement).observe >>= tellUpdate := by
  have hu : Statement.isUpdate statement = true := by
    rw [Statement.isUpdate, List.contains_iff_mem]
    exact h.2
  rw [submitUpdate, h.1]
  dsimp only
  rw [if_neg (by simp [hu])]
  rfl

/-- A single update leaves the core as its statement does. -/
theorem core_submitUpdate {text : String} {statement : List Char}
    (h : IsSingleUpdate text statement) (client : Client) (job : Job)
    : (client.submitUpdate text job).2.core = (client.execute statement job).2.core := by
  rw [submitUpdate_of_single h]
  exact core_bind keepsCore_tellUpdate job

/-- A text that is no single update is refused. -/
theorem submitUpdate_of_refused {text : String}
    (h : ¬ ∃ statement, IsSingleUpdate text statement) (client : Client)
    : client.submitUpdate text = (do
        showError unsupportedUpdate
        return false) := by
  rw [submitUpdate]
  split
  · next statement hs =>
      have hu : Statement.isUpdate statement = false := by
        rw [Statement.isUpdate]
        by_contra hu
        exact h ⟨statement, hs, by simpa using hu⟩
      rw [if_pos (by simp [hu])]
  · rfl

/-- Of a text that is refused the user is told only. -/
theorem submitUpdate_refused {text : String}
    (h : ¬ ∃ statement, IsSingleUpdate text statement) (client : Client) (job : Job)
    : (client.submitUpdate text job).1 = .ok false
      ∧ (client.submitUpdate text job).2.core = job.core := by
  rw [submitUpdate_of_refused h, bind_pure_of_ok (showError_unsupportedUpdate job)]
  exact ⟨rfl, Console.keepsCore_notice .err _ job⟩

/-- A client that submits an update sends a text that is one statement, with the keyword of an
update, once, and refuses any other text and leaves all sessions alone. The statement holds no
terminator that other code follows exactly if no line of the text does: the splitter looks for
terminators at the ends of lines only.
-/
theorem submitUpdate_sends_one (client : Client) (text : String) (job : Job)
    : (∃ statement, IsSingleUpdate text statement
        ∧ (client.SessionIsOpen job →
          (client.submitUpdate text job).2.sent = job.sent ++ [String.ofList statement])
        ∧ (¬ client.SessionIsOpen job → (client.submitUpdate text job).2.sent = job.sent)
        ∧ (Statement.IsSingle (Statement.codeOf statement)
          ↔ Statement.LinesSingle none (Text.splitLines text.toList)))
      ∨ (¬ ∃ statement, IsSingleUpdate text statement)
        ∧ (client.submitUpdate text job).1 = .ok false
        ∧ (client.submitUpdate text job).2.core = job.core := by
  by_cases h : ∃ statement, IsSingleUpdate text statement
  · obtain ⟨statement, hs⟩ := h
    obtain ⟨hopen, hclosed⟩ := sent_execute client statement job
    have hsingle := Statement.isSingle_split text.toList
    rw [hs.1, List.forall_mem_singleton] at hsingle
    rw [Job.sent_of_core (core_submitUpdate hs client job)]
    exact Or.inl ⟨statement, hs, hopen, hclosed, hsingle⟩
  · exact Or.inr ⟨h, submitUpdate_refused h client job⟩

/-- Two statements on one line are sent as one, though only the first of them is an update. -/
theorem submitUpdate_sends_two_on_a_line
    : ((remoteClient []).submitUpdate "INSERT INTO t VALUES (1); DROP TABLE t" {}).2.sent =
        ["INSERT INTO t VALUES (1); DROP TABLE t"]
      ∧ ¬ Statement.IsSingle
        (Statement.codeOf "INSERT INTO t VALUES (1); DROP TABLE t".toList) := by
  decide +kernel

end Client

end SqlShell
