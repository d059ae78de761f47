import SqlShell.Proofs.Job.Failing
import SqlShell.Proofs.Job.Surroundings

/-! The statements that a client sends to its session, as the events of the job tell them, and what
sending one statement does to the job.
-/

namespace SqlShell

open Act

/-- The statement that an event sends, in this job or elsewhere. -/
def Event.sent? : Event → Option String
  | .execute _ statement => some statement
  | .call "execute" [_, .text statement] => some statement
  | _ => none

/-- The statements that the job has sent, in order. -/
def Job.sent (job : Job) : List String :=
  job.trace.filterMap Event.sent?

/-- Sending a statement touches a session, by the cases of the event. -/
theorem Event.touchesSession_of_sent {event : Event} {statement : String}
    (h : event.sent? = some statement)
    : event.touchesSession = true := by
  unfold Event.sent? at h
  split at h
  · rfl
  · rfl
  · exact nomatch h

/-- The statements that were sent are in the core of the state. -/
theorem Job.sent_core (job : Job) : job.core.sent = job.sent := by
  have hf : ∀ event : Event,
      (if event.touchesSession then event.sent? else none) = event.sent? := by
    intro event
    split
    · rfl
    · next h =>
        cases hs : event.sent? with
        | none => rfl
        | some statement => exact absurd (Event.touchesSession_of_sent hs) h
  show (job.trace.filter Event.touchesSession).filterMap Event.sent? = _
  rw [List.filterMap_filter]
  simp only [hf]
  rfl

/-- The statements that were sent are among the events that touch sessions. -/
theorem Job.sent_eq (job : Job) : job.sent = job.sessionEvents.filterMap Event.sent? :=
  job.sent_core.symm

theorem Job.sent_of_core {job other : Job} (h : job.core = other.core) : job.sent = other.sent := by
  rw [← Job.sent_core, h, Job.sent_core]

/-- One more event may send one more statement. -/
theorem Job.sent_note (job : Job) (event : Event)
    : (job.note event).sent = job.sent ++ event.sent?.toList := by
  simp only [sent, note, List.filterMap_append, List.filterMap_cons, List.filterMap_nil]
  cases event.sent? <;> rfl

namespace Executor

/-- The job after the database has taken one more statement. -/
def counted (job : Job) : Job :=
  { job with statements := job.statements + 1 }

variable {job : Job}

/-- An answer of the database with a result is told as it is. -/
theorem nextReply_of_answer {columns : Option (List String)} {rows : List (List Value)}
    {changed : Int} {fetching : Option Fault}
    (h : job.database.reply job.statements = .answer columns rows changed fetching)
    : nextReply job = (.ok (.answer columns rows changed fetching), counted job) := by
  rw [nextReply, state_bind, change_bind, h]
  rfl

/-- A fault of the database ends the statement. -/
theorem nextReply_of_fault {fault : Fault}
    (h : job.database.reply job.statements = .fault fault)
    : nextReply job = (.error fault, counted job) := by
  rw [nextReply, state_bind, change_bind, h]
  rfl

/-- A signal during a statement is handled at once. -/
theorem nextReply_of_signal {number : Nat}
    (h : job.database.reply job.statements = .signal number)
    : nextReply job = Shutdown.handleSignal Shutdown.call .standard number (counted job) := by
  rw [nextReply, state_bind, change_bind, h]
  rfl

/-- Reading the result of an answer leaves the job as it is. -/
theorem resultOf_job (reply : Reply) (job : Job) : (resultOf reply job).2 = job := by
  unfold resultOf
  split
  · rfl
  · next fetching => cases fetching <;> rfl
  · rfl

/-- Reading everything that an answer holds leaves the job as it is. -/
theorem wholeResultOf_job (reply : Reply) (job : Job) : (wholeResultOf reply job).2 = job := by
  unfold wholeResultOf
  split
  · next fetching => cases fetching <;> rfl
  · rfl

/-- A statement that meets no signal leaves the job with one more event and one more answer, however
the answer is read.
-/
theorem send_job {read : Reply → Act StatementResult}
    (hr : ∀ reply job, (read reply job).2 = job) (event : Event)
    (h : ∀ number, job.database.reply job.statements ≠ .signal number)
    : ((do record event; read (← nextReply)) job).2 = counted (job.note event) := by
  show ((nextReply >>= read) (job.note event)).2 = _
  cases he : (job.note event).database.reply (job.note event).statements with
  | signal number => exact absurd he (h number)
  | fault fault =>
      have hreply := nextReply_of_fault he
      rw [bind_of_error (by rw [hreply]), hreply]
  | answer columns rows changed fetching =>
      rw [bind_of_ok (nextReply_of_answer he)]
      exact hr _ _

/-- A statement that meets a signal ends as handling the signal does. -/
theorem send_of_signal (read : Reply → Act StatementResult) (event : Event) {number : Nat}
    {fault : Fault} (h : job.database.reply job.statements = .signal number)
    (hf : (Shutdown.handleSignal (α := Reply) Shutdown.call .standard number
      (counted (job.note event))).1 = .error fault)
    : (do record event; read (← nextReply)) job =
        (.error fault, (Shutdown.handleSignal (α := Reply) Shutdown.call .standard number
          (counted (job.note event))).2) := by
  show (nextReply >>= read) (job.note event) = _
  have hreply : nextReply (job.note event) = _ := nextReply_of_signal h
  rw [bind_of_error (by rw [hreply]; exact hf), hreply]

/-- A statement that is sent ends with a request to stop, or it leaves the job with one more event
and one more answer, by whether it meets a signal.
-/
theorem send_cases {read : Reply → Act StatementResult}
    (hr : ∀ reply job, (read reply job).2 = job) (event : Event) (job : Job)
    : (∃ fault, ((do record event; read (← nextReply)) job).1 = .error fault ∧ ¬ fault.IsFailure)
      ∨ ((do record event; read (← nextReply)) job).2 = counted (job.note event) := by
  by_cases h : ∃ number, job.database.reply job.statements = .signal number
  · obtain ⟨number, h⟩ := h
    obtain ⟨fault, he, hf⟩ := Shutdown.handleSignal_fault (α := Reply) Shutdown.call .standard
      number (counted (job.note event))
    exact Or.inl ⟨fault, by rw [send_of_signal read event h he], hf⟩
  · exact Or.inr (send_job hr event fun number he => h ⟨number, he⟩)

end Executor

namespace Client

/-- The session of the client is open. An executor elsewhere answers for its own sessions. -/
def SessionIsOpen (client : Client) (job : Job) : Prop :=
  match client.session.executor with
  | .here number =>
      ((job.executors[number]?).getD {}).isOpen client.session.handle = true
  | .elsewhere _ => True

/-- An open session is found, and the job stays as it is. -/
theorem openedSession_of_isOpen {number : Nat} {handle : String} {job : Job}
    (h : ((job.executors[number]?).getD {}).isOpen handle = true)
    : ∃ session, LocalExecutor.openedSession number handle job = (.ok session, job) := by
  obtain ⟨session, hs⟩ := Option.isSome_iff_exists.mp h
  exact ⟨session, LocalExecutor.openedSession_of_some hs⟩

/-- A statement that the client sends ends with a request to stop, or it leaves the job as it is but
for one more answer and the events, of which one more sends a statement.
-/
theorem execute_cases {client : Client} {job : Job} (h : client.SessionIsOpen job)
    (statement : List Char)
    : (∃ fault, (client.execute statement job).1 = .error fault ∧ ¬ fault.IsFailure)
      ∨ (client.execute statement job).2.surroundings = job.surroundings
        ∧ (client.execute statement job).2.sent = job.sent ++ [String.ofList statement] := by
  rw [execute]
  cases hx : client.session.executor with
  | elsewhere remote =>
      rw [Executor.execute, noteCall]
      rcases Executor.send_cases Executor.wholeResultOf_job
        (.call "execute" [.text client.session.handle, .text (String.ofList statement)]) job with
        hf | he
      · exact Or.inl hf
      · rw [he]
        exact Or.inr ⟨rfl, Job.sent_note job _⟩
  | here number =>
      rw [SessionIsOpen, hx] at h
      obtain ⟨session, hs⟩ := openedSession_of_isOpen h
      rw [Executor.execute, Executor.executeHere, bind_of_ok hs]
      have hcleared : ∀ fault job, ((fail ((LocalExecutor.failure fault.message).because fault)
          : Act StatementResult) job).2 = job := fun _ _ => rfl
      rcases Executor.send_cases Executor.resultOf_job
        (.execute session.connection (String.ofList statement)) job with ⟨fault, he, hf⟩ | he
      · refine Or.inl ⟨fault, ?_, hf⟩
        rw [rescue_of_not_handled he]
        · exact he
        · exact Fault.not_of_not_isFailure hf fun _ => FaultKind.isOrdinary_of_isDatabase
      · refine Or.inr ?_
        rw [rescue_job hcleared, he]
        exact ⟨rfl, Job.sent_note job _⟩

end Client

end SqlShell
