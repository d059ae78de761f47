import SqlShell.Proofs.Client.ShellSending
import SqlShell.Proofs.Job.Conduct
import SqlShell.Proofs.Session.ScriptStatements

/-! What the shell does about a statement whose reply raises a failure of the database: it is shown
as an error, and the shell goes on. Other faults end the shell, and so does the command that lists
the configuration if this cannot be listed.
-/

namespace SqlShell.Client

open Act Text

/-- The shell runs in an open session of an executor of this job. The database answers statements
with failures, with warnings or with results that can be shown.
-/
structure Backed (client : Client) (own : LocalSession) (job : Job) : Prop where
  client_open : job.clientClosed = false
  session_open : ∃ number, client.session.executor = .here number
    ∧ ((job.executors[number]?).getD {}).session? client.session.handle = some own
  raises : ∀ k fault, (job.database.reply k).raised? = some fault →
    fault.kind.isDatabase = true ∨ fault.kind = .databaseWarning
  renders : ∀ k result, (job.database.reply k).outcome = .ok result →
    (result.shown job).1 = .ok ()

/-- The reply raises nothing, or a failure of the database whose wording can be shown. -/
def IsBearable (job : Job) (reply : Reply) : Prop :=
  ∀ fault, reply.raised? = some fault →
    fault.kind.isDatabase = true ∧ (showError fault.message job).1 = .ok ()

/-- What is seen of a statement: that it is sent, and the error that its reply raises. -/
def seen (own : LocalSession) (job : Job) (statement : List Char) (reply : Reply) : List Event :=
  .execute own.connection (String.ofList statement) ::
    match reply.raised? with
    | none => []
    | some fault => Console.noticed job.output .err ("[ERROR] " ++ fault.message)

/-- Those of the statements that are sent, each with the number of its reply. -/
def numbered (count : Nat) (statements : List (List Char)) : List (List Char × Nat) :=
  (statements.filter isSent).zipIdx count

/-- No failure of the statements ends the shell. -/
def Survives (client : Client) (job : Job) (statements : List (List Char)) : Prop :=
  (∀ sent ∈ numbered job.statements statements, IsBearable job (job.database.reply sent.2))
  ∧ (client.canList job = true ∨ ∀ statement ∈ statements, isWord ["SET"] statement = false)

/-- All of the statements are sent and each of their failures is shown, while the user is asked for
so many lines. Nothing else is said of problems, and the session stays as it is.
-/
structure Follows (own : LocalSession) (statements : List (List Char)) (asked : Nat)
    (job after : Job) : Prop where
  surroundings_eq : after.surroundings = job.surroundings
  statements_eq : after.statements = job.statements + (statements.filter isSent).length
  conduct_eq : after.conduct = job.conduct ++
    (numbered job.statements statements).flatMap fun sent =>
      seen own job sent.1 (job.database.reply sent.2)
  prompts_eq : after.prompts = job.prompts + asked

/-- An act over statements ends with a value if the shell survives them, and with a fault if not. -/
def EndsOver {α : Type} (client : Client) (own : LocalSession) (job : Job)
    (statements : List (List Char)) (asked : Nat) (value : α) (ends : Except Fault α × Job) : Prop :=
  (Survives client job statements ∧ ends.1 = .ok value ∧ Follows own statements asked job ends.2)
  ∨ (¬ Survives client job statements ∧ (∃ fault, ends.1 = .error fault)
    ∧ ends.2.surroundings = job.surroundings)

variable {client : Client} {own : LocalSession} {job after : Job}

-----------------------------------------------------------------------------------------
-- What the surroundings decide
-----------------------------------------------------------------------------------------

theorem readsSurroundings_showError (message : String) : ReadsSurroundings (showError message) :=
  Console.readsSurroundings_notice .err _

/-- What the shell relies on holds as long as the surroundings stay the same. -/
theorem Backed.later (h : Backed client own job) (hs : after.surroundings = job.surroundings)
    : Backed client own after := by
  have hd := Job.database_of_surroundings hs
  refine ⟨(Job.clientClosed_of_surroundings hs).trans h.client_open, ?_, ?_, ?_⟩
  · rw [Job.executors_of_surroundings hs]
    exact h.session_open
  · rw [hd]
    exact h.raises
  · intro k value he
    rw [hd] at he
    exact (value.readsSurroundings_shown after job hs).trans (h.renders k value he)

theorem isBearable_of_surroundings (hs : after.surroundings = job.surroundings) (reply : Reply)
    : IsBearable after reply ↔ IsBearable job reply := by
  have hshow : ∀ message, (showError message after).1 = (showError message job).1 :=
    fun message => readsSurroundings_showError message after job hs
  simp only [IsBearable, hshow]

theorem seen_of_surroundings (hs : after.surroundings = job.surroundings) (statement : List Char)
    (reply : Reply)
    : seen own after statement reply = seen own job statement reply := by
  rw [seen, seen, Job.output_of_surroundings hs]

-----------------------------------------------------------------------------------------
-- Runs one after the other
-----------------------------------------------------------------------------------------

theorem numbered_append (count : Nat) (statements more : List (List Char))
    : numbered count (statements ++ more) =
        numbered count statements
        ++ numbered (count + (statements.filter isSent).length) more := by
  rw [numbered, List.filter_append, List.zipIdx_append, numbered, numbered]

theorem survives_nil (client : Client) (job : Job) : Survives client job [] :=
  ⟨List.forall_mem_nil _, Or.inr (List.forall_mem_nil _)⟩

/-- An act that keeps the core and is quiet sends no statement. -/
theorem Follows.of_quiet {α : Type} {act : Act α} (hk : KeepsCore act) (hq : IsQuiet act) (job : Job)
    : Follows own [] 0 job (act job).2 where
  surroundings_eq := Job.surroundings_of_core (hk job)
  statements_eq := Job.statements_of_core (hk job)
  conduct_eq := (hq job).1.trans (List.append_nil _).symm
  prompts_eq := (hq job).2

/-- The statements of one run and those of another one after it are those of both. -/
theorem Follows.trans {statements more : List (List Char)} {asked further : Nat} {middle : Job}
    (h : Follows own statements asked job middle) (hm : Follows own more further middle after)
    : Follows own (statements ++ more) (asked + further) job after where
  surroundings_eq := hm.surroundings_eq.trans h.surroundings_eq
  statements_eq := by
    rw [hm.statements_eq, h.statements_eq, List.filter_append, List.length_append, Nat.add_assoc]
  conduct_eq := by
    have hseen : ∀ sent : List Char × Nat,
        seen own middle sent.1 (middle.database.reply sent.2) =
          seen own job sent.1 (job.database.reply sent.2) := by
      intro sent
      rw [seen_of_surroundings h.surroundings_eq, Job.database_of_surroundings h.surroundings_eq]
    rw [hm.conduct_eq, h.conduct_eq, numbered_append, List.flatMap_append, ← h.statements_eq,
      List.append_assoc]
    simp only [hseen]
  prompts_eq := by rw [hm.prompts_eq, h.prompts_eq, Nat.add_assoc]

/-- The shell survives statements and further ones after them if it survives either. -/
theorem Follows.survives_append {statements more : List (List Char)} {asked : Nat}
    (h : Follows own statements asked job after)
    : Survives client job (statements ++ more)
      ↔ Survives client job statements ∧ Survives client after more := by
  have hs := h.surroundings_eq
  simp only [Survives, numbered_append, List.forall_mem_append, h.statements_eq,
    isBearable_of_surroundings hs, Job.database_of_surroundings hs, canList_of_surroundings hs]
  tauto

/-- What ends over further statements after a run that was survived ends over the statements of both.
-/
theorem EndsOver.later {α : Type} {statements more : List (List Char)} {asked further : Nat}
    {middle : Job} {value : α} {ends : Except Fault α × Job}
    (h : EndsOver client own middle more further value ends) (hs : Survives client job statements)
    (hf : Follows own statements asked job middle)
    : EndsOver client own job (statements ++ more) (asked + further) value ends := by
  rcases h with ⟨hmore, hok, hlast⟩ | ⟨hnot, herror, hlast⟩
  · exact Or.inl ⟨hf.survives_append.mpr ⟨hs, hmore⟩, hok, hf.trans hlast⟩
  · refine Or.inr ⟨fun hall => hnot (hf.survives_append.mp hall).2, herror, ?_⟩
    exact hlast.trans hf.surroundings_eq

/-- The shell survives the first of the statements that it survives. -/
theorem Survives.of_append {statements more : List (List Char)}
    (h : Survives client job (statements ++ more))
    : Survives client job statements := by
  refine ⟨fun sent hm => h.1 sent ?_, h.2.imp_right fun hset statement hm => hset statement ?_⟩
  · rw [numbered_append]
    exact List.mem_append_left _ hm
  · exact List.mem_append_left _ hm

/-- Two acts one after the other end over the statements of both. -/
theorem EndsOver.bind {α β : Type} {act : Act α} {next : α → Act β} {value : α} {last : β}
    {statements more : List (List Char)} {asked further : Nat}
    (h : EndsOver client own job statements asked value (act job))
    (hn : ∀ middle, Follows own statements asked job middle →
      EndsOver client own middle more further last (next value middle))
    : EndsOver client own job (statements ++ more) (asked + further) last ((act >>= next) job) := by
  cases ha : act job with
  | mk result middle =>
      rw [ha] at h
      rcases h with ⟨hsurvives, hok, hf⟩ | ⟨hnot, ⟨fault, herror⟩, hs⟩
      · obtain rfl : result = .ok value := hok
        rw [bind_of_ok ha]
        exact (hn middle hf).later hsurvives hf
      · obtain rfl : result = .error fault := herror
        rw [bind_of_error (by rw [ha]), ha]
        exact Or.inr ⟨fun hall => hnot hall.of_append, ⟨fault, rfl⟩, hs⟩

/-- A quiet act that ends well ends over no statements. -/
theorem EndsOver.of_quiet {α : Type} {act : Act α} {value : α} (hk : KeepsCore act) (hq : IsQuiet act)
    (hok : (act job).1 = .ok value)
    : EndsOver client own job [] 0 value (act job) :=
  Or.inl ⟨survives_nil client job, hok, .of_quiet hk hq job⟩

-----------------------------------------------------------------------------------------
-- One statement
-----------------------------------------------------------------------------------------

/-- The database sends no signal. -/
theorem Backed.reply_ne_signal (h : Backed client own job) (k number : Nat)
    : job.database.reply k ≠ .signal number := by
  intro he
  have hraised : (job.database.reply k).raised? =
      some { kind := .exit, message := toString (128 + number) } := by rw [he]; rfl
  rcases h.raises k _ hraised with hd | hw
  · exact nomatch hd
  · exact nomatch hw

/-- A statement that is sent ends as its reply says. -/
theorem Backed.reply_ends (h : Backed client own job) (event : Event)
    : ((do record event; Executor.resultOf (← Executor.nextReply)) job).1 =
        (job.database.reply job.statements).outcome := by
  show ((Executor.nextReply >>= Executor.resultOf) (job.note event)).1 = _
  have hsame : (job.note event).database.reply (job.note event).statements =
      job.database.reply job.statements := rfl
  cases hr : job.database.reply job.statements with
  | signal number => exact absurd hr (h.reply_ne_signal _ number)
  | fault fault => rw [bind_of_error (by rw [Executor.nextReply_of_fault (hsame.trans hr)])]; rfl
  | answer columns rows changed fetching =>
      rw [bind_of_ok (Executor.nextReply_of_answer (hsame.trans hr))]
      exact Executor.resultOf_answer columns rows changed fetching _

/-- The job after a statement has been sent and its reply has come. -/
def replied (own : LocalSession) (statement : List Char) (job : Job) : Job :=
  Executor.counted (job.note (.execute own.connection (String.ofList statement)))

theorem surroundings_replied (own : LocalSession) (statement : List Char) (job : Job)
    : (replied own statement job).surroundings = job.surroundings :=
  rfl

theorem statements_replied (own : LocalSession) (statement : List Char) (job : Job)
    : (replied own statement job).statements = job.statements + 1 :=
  rfl

theorem conduct_replied (own : LocalSession) (statement : List Char) (job : Job)
    : (replied own statement job).conduct =
          job.conduct ++ [.execute own.connection (String.ofList statement)]
      ∧ (replied own statement job).prompts = job.prompts :=
  Job.conduct_of_note rfl rfl

/-- A statement that the client sends ends as the reply says, where failures of the database are told
as failures of the statement.
-/
theorem Backed.execute (h : Backed client own job) (statement : List Char)
    : client.execute statement job =
        ((job.database.reply job.statements).outcome.mapError Executor.told,
          replied own statement job) := by
  obtain ⟨number, hx, hs⟩ := h.session_open
  rw [Client.execute, hx, Executor.execute, Executor.executeHere,
    bind_of_ok (LocalExecutor.openedSession_of_some hs)]
  refine Prod.ext ?_ ?_
  · rw [Executor.rescue_told, h.reply_ends]
  · rw [rescue_job fun _ _ => rfl]
    exact Executor.send_job Executor.resultOf_job _ fun number => h.reply_ne_signal _ number

/-- A single statement that is sent is survived if its reply is bearable. -/
theorem survives_singleton {statement : List Char} (hs : isSent statement = true)
    : Survives client job [statement] ↔ IsBearable job (job.database.reply job.statements) := by
  have hset : isWord ["SET"] statement = false := by
    rw [isSent, Bool.and_eq_true] at hs
    simpa using hs.2
  simp [Survives, numbered, hs, hset]

/-- A statement that is sent and what is seen of it are followed. -/
theorem Follows.of_sent {statement : List Char} (hs : isSent statement = true)
    (hsame : after.surroundings = job.surroundings) (hcount : after.statements = job.statements + 1)
    (hconduct : after.conduct =
      job.conduct ++ seen own job statement (job.database.reply job.statements))
    (hprompts : after.prompts = job.prompts)
    : Follows own [statement] 0 job after := by
  refine ⟨hsame, ?_, ?_, hprompts⟩
  · simp [hs, hcount]
  · simp [numbered, hs, hconduct]

/-- An error line is all that is seen of an error, and it leaves the rest of the job alone. -/
theorem showError_apply (message : String) (job : Job)
    : (showError message job).2.core = job.core
      ∧ (showError message job).2.conduct =
          job.conduct ++ Console.noticed job.output .err ("[ERROR] " ++ message)
      ∧ (showError message job).2.prompts = job.prompts := by
  obtain ⟨hconduct, hprompts⟩ :=
    Job.conduct_of_trace (Console.trace_notice .err ("[ERROR] " ++ message) job)
  obtain ⟨hfilter, hcount⟩ := Console.filter_noticed_err job.output ("[ERROR] " ++ message)
  rw [hfilter] at hconduct
  rw [hcount] at hprompts
  exact ⟨Console.keepsCore_notice .err _ job, hconduct, hprompts⟩

/-- The result of a statement whose reply raises nothing is shown, and the shell goes on. -/
theorem Backed.send_of_result (h : Backed client own job) {statement : List Char}
    (hs : isSent statement = true)
    (hr : (job.database.reply job.statements).raised? = none)
    : (client.send statement job).1 = .ok ()
      ∧ Follows own [statement] 0 job (client.send statement job).2 := by
  have hexecute := h.execute statement
  rw [Reply.outcome, hr] at hexecute
  generalize hv : (job.database.reply job.statements).result = value at hexecute
  have hsame := surroundings_replied own statement job
  have hshown : (value.shown (replied own statement job)).1 = .ok () := by
    refine (value.readsSurroundings_shown _ job hsame).trans (h.renders job.statements value ?_)
    rw [Reply.outcome, hr, hv]
  have hsend : client.send statement job = value.shown (replied own statement job) := by
    rw [Client.send, rescue_of_ok, bind_of_ok hexecute]
    rw [bind_of_ok hexecute]
    exact hshown
  have hsent : Follows own [statement] 0 job (replied own statement job) := by
    obtain ⟨hconduct, hprompts⟩ := conduct_replied own statement job
    refine .of_sent hs hsame (statements_replied own statement job) ?_ hprompts
    rw [hconduct, seen, hr]
  rw [hsend]
  exact ⟨hshown, hsent.trans (.of_quiet value.keepsCore_shown value.isQuiet_shown _)⟩

/-- A statement whose reply raises a fault is shown as an error if it is a failure of the database,
and otherwise ends the shell.
-/
theorem Backed.send_of_fault (h : Backed client own job) (statement : List Char) {fault : Fault}
    (hr : (job.database.reply job.statements).raised? = some fault)
    : client.send statement job =
        if fault.kind.isDatabase then showError fault.message (replied own statement job)
        else (.error fault, replied own statement job) := by
  have hexecute := h.execute statement
  rw [Reply.outcome, hr] at hexecute
  have hact : (do (← client.execute statement).shown : Act Unit) job =
      (.error (Executor.told fault), replied own statement job) := by
    rw [bind_of_error (by rw [hexecute]; rfl), hexecute]
  rw [Client.send]
  cases hd : fault.kind.isDatabase with
  | true =>
      have htold : Executor.told fault = (LocalExecutor.failure fault.message).because fault := by
        rw [Executor.told, hd, if_pos rfl]
      rw [htold] at hact
      rw [rescue_of_handled (by rw [hact]) rfl, hact]
      rfl
  | false =>
      have htold : Executor.told fault = fault := by
        rw [Executor.told, hd]
        rfl
      have hwarning : fault.kind = .databaseWarning :=
        (h.raises _ fault hr).resolve_left (by simp [hd])
      rw [htold] at hact
      rw [rescue_of_not_handled (by rw [hact]) (by rw [hwarning]; rfl), hact]
      rfl

/-- A statement whose failure is shown as an error is followed. -/
theorem follows_showError {statement : List Char} {fault : Fault} (hs : isSent statement = true)
    (hr : (job.database.reply job.statements).raised? = some fault)
    : Follows own [statement] 0 job
        (showError fault.message (replied own statement job)).2 := by
  have hsame := surroundings_replied own statement job
  obtain ⟨hcore, herror, hasked⟩ := showError_apply fault.message (replied own statement job)
  obtain ⟨hconduct, hprompts⟩ := conduct_replied own statement job
  refine .of_sent hs ((Job.surroundings_of_core hcore).trans hsame)
    (Job.statements_of_core hcore) ?_ (hasked.trans hprompts)
  rw [herror, hconduct, seen, hr, Job.output_of_surroundings hsame, List.append_assoc]
  rfl

/-- A statement that is sent is followed if its reply is bearable, and otherwise ends the shell. By
cases of what the reply raises.
-/
theorem Backed.send (h : Backed client own job) {statement : List Char}
    (hs : isSent statement = true)
    : EndsOver client own job [statement] 0 () (client.send statement job) := by
  rw [EndsOver, survives_singleton hs]
  cases hr : (job.database.reply job.statements).raised? with
  | none =>
      have hbearable : IsBearable job (job.database.reply job.statements) :=
        fun fault hf => nomatch hr.symm.trans hf
      exact Or.inl ⟨hbearable, h.send_of_result hs hr⟩
  | some fault =>
      have hsame := surroundings_replied own statement job
      have hbearable : IsBearable job (job.database.reply job.statements)
          ↔ fault.kind.isDatabase = true ∧ (showError fault.message job).1 = .ok () := by
        simp [IsBearable, hr]
      rw [hbearable, h.send_of_fault statement hr]
      cases hd : fault.kind.isDatabase with
      | false => exact Or.inr ⟨fun hb => (nomatch hb.1), ⟨fault, rfl⟩, hsame⟩
      | true =>
          have hread := readsSurroundings_showError fault.message (replied own statement job) job hsame
          have hfollows : Follows own [statement] 0 job _ := follows_showError hs hr
          rw [if_pos rfl, hread]
          cases hshow : (showError fault.message job).1 with
          | ok _ => exact Or.inl ⟨⟨rfl, rfl⟩, rfl, hfollows⟩
          | error problem =>
              exact Or.inr ⟨fun hb => (nomatch hb.2), ⟨problem, rfl⟩, hfollows.surroundings_eq⟩

end SqlShell.Client
