import SqlShell.Proofs.Client.SentStatements
import SqlShell.Proofs.Client.ShellScript
import SqlShell.Proofs.Display.Layout
import SqlShell.Proofs.Statement.CommandWords

/-! The interactive shell sends the statements that dividing the lines of its user as whole texts
finds, up to the first one that leaves the shell, and without its other commands. It does so as long
as it can list the configuration of the session when it is asked to.
-/

namespace SqlShell.Client

open Act Text

/-- The statement is one of the words, up to outer blanks and letter case. -/
def isWord (words : List String) (statement : List Char) : Bool :=
  words.any fun word => toUpper (trim statement) == word.toList

/-- The statement is sent and is no command of the shell that shows something. -/
def isSent (statement : List Char) : Bool :=
  !isWord ["HELP"] statement && !isWord ["SET"] statement

/-- The configuration of the session can be listed. -/
def canList (client : Client) (job : Job) : Bool :=
  (client.showConfiguration job).1.isOk

/-- The shell goes on after the statement, given whether the configuration can be listed. -/
def goesOn (listable : Bool) (statement : List Char) : Bool :=
  !isWord quitCommands statement && (listable || !isWord ["SET"] statement)

/-- Those of the statements that are sent. -/
def sentOf (listable : Bool) (statements : List (List Char)) : List (List Char) :=
  (statements.takeWhile (goesOn listable)).filter isSent

-----------------------------------------------------------------------------------------
-- Commands
-----------------------------------------------------------------------------------------

/-- The commands are words: none of their characters separates words. -/
theorem separates_eq_false_of_command
    : ∀ name ∈ ["QUIT", "EXIT", "HELP", "SET"],
        name.toList.any Statement.separates = false ∧ name.toList ≠ [] := by
  decide +kernel

/-- The test for a command tells whether the statement is its word. -/
theorem isCommand_eq_isWord {name : String} (h : name ∈ ["QUIT", "EXIT", "HELP", "SET"])
    (statement : List Char)
    : Statement.isCommand name statement = isWord [name] statement := by
  obtain ⟨hn, hne⟩ := separates_eq_false_of_command name h
  have hnone : ∀ c ∈ name.toList, Statement.separates c = false := by simpa using hn
  rw [Bool.eq_iff_iff, Statement.isCommand_iff hnone hne]
  simp [isWord]

/-- The statement leaves the shell exactly if it is one of the words for that. -/
theorem quits_eq_isWord (statement : List Char)
    : (quitCommands.any (Statement.isCommand · statement)) = isWord quitCommands statement := by
  have hq : Statement.isCommand "QUIT" statement = isWord ["QUIT"] statement :=
    isCommand_eq_isWord (by simp) statement
  have he : Statement.isCommand "EXIT" statement = isWord ["EXIT"] statement :=
    isCommand_eq_isWord (by simp) statement
  simp [quitCommands, hq, he, isWord]

/-- No statement is both words that show something. -/
theorem not_isWord_set_of_help {statement : List Char} (h : isWord ["HELP"] statement = true)
    : isWord ["SET"] statement = false := by
  have hh : toUpper (trim statement) = "HELP".toList := by simpa [isWord] using h
  simp [isWord, hh]

-----------------------------------------------------------------------------------------
-- The statements that are sent
-----------------------------------------------------------------------------------------

/-- A statement after which the shell goes on comes before the other ones. -/
theorem sentOf_cons_of_goesOn {listable : Bool} {statement : List Char}
    (h : goesOn listable statement = true) (rest : List (List Char))
    : sentOf listable (statement :: rest) =
        sentOf listable [statement] ++ sentOf listable rest := by
  simp only [sentOf, List.takeWhile_cons, h, if_true, List.takeWhile_nil, ← List.filter_append]
  rfl

/-- Nothing is sent from a statement on after which the shell does not go on. -/
theorem sentOf_cons_of_not_goesOn {listable : Bool} {statement : List Char}
    (h : goesOn listable statement = false) (rest : List (List Char))
    : sentOf listable (statement :: rest) = [] := by
  simp [sentOf, h]

/-- If the shell goes on after all of the first statements the other ones are sent after them. By
induction on the first ones.
-/
theorem sentOf_append {listable : Bool} {statements : List (List Char)}
    (h : statements.all (goesOn listable) = true) (more : List (List Char))
    : sentOf listable (statements ++ more) =
        sentOf listable statements ++ sentOf listable more := by
  induction statements with
  | nil => rfl
  | cons statement rest ih =>
      rw [List.all_cons, Bool.and_eq_true] at h
      obtain ⟨hs, hr⟩ := h
      rw [List.cons_append, sentOf_cons_of_goesOn hs, ih hr, sentOf_cons_of_goesOn hs rest,
        List.append_assoc]

/-- If the shell stops after one of the first statements the other ones are not sent. By induction
on the first ones.
-/
theorem sentOf_append_of_stops {listable : Bool} {statements : List (List Char)}
    (h : statements.all (goesOn listable) = false) (more : List (List Char))
    : sentOf listable (statements ++ more) = sentOf listable statements := by
  induction statements with
  | nil => exact nomatch h
  | cons statement rest ih =>
      rw [List.cons_append]
      cases hs : goesOn listable statement with
      | false => rw [sentOf_cons_of_not_goesOn hs, sentOf_cons_of_not_goesOn hs]
      | true =>
          rw [List.all_cons, hs, Bool.true_and] at h
          rw [sentOf_cons_of_goesOn hs, ih h, ← sentOf_cons_of_goesOn hs]

-----------------------------------------------------------------------------------------
-- What the shell is promised
-----------------------------------------------------------------------------------------

/-- The welcome is shown on every terminal. -/
theorem notice_welcome (job : Job) : (Console.notice .out welcomeNotice job).1 = .ok () :=
  Console.notice_of_joinerless (by decide +kernel) (by decide +kernel) .out job

/-- The explanation of the commands is shown on every terminal. -/
theorem notice_help (job : Job) : (Console.notice .out helpNotice job).1 = .ok () := by
  refine Console.notice_of_joinerless ?_ ?_ .out job
  all_goals
    rw [helpNotice, String.toList_intercalate]
    decide +kernel

/-- What the shell is promised by those around it: the client is open and so is its session, and a
statement that is sent yields a result that can be shown or a failure of the statement that can be
shown, however many statements were sent before.
-/
structure Served (client : Client) (job : Job) : Prop where
  client_open : job.clientClosed = false
  session_open : client.SessionIsOpen job
  answered : ∀ statement after, after.surroundings = job.surroundings →
    (∃ result, (client.execute statement after).1 = .ok result ∧ (result.shown job).1 = .ok ())
    ∨ ∃ fault, (client.execute statement after).1 = .error fault
        ∧ isStatementFault fault.kind = true
        ∧ (showError fault.message job).1 = .ok ()

variable {client : Client} {job : Job}

/-- What the shell is promised holds as long as the surroundings stay the same. -/
theorem Served.later (h : Served client job) {after : Job}
    (hs : after.surroundings = job.surroundings)
    : Served client after := by
  have hnotice : ∀ stream text, (Console.notice stream text job).1 = .ok () →
      (Console.notice stream text after).1 = .ok () :=
    fun stream text hn => (Console.readsSurroundings_notice stream text after job hs).trans hn
  refine ⟨(Job.clientClosed_of_surroundings hs).trans h.client_open, ?_, ?_⟩
  · have hsession := h.session_open
    rw [SessionIsOpen] at hsession ⊢
    rw [Job.executors_of_surroundings hs]
    exact hsession
  · intro statement last hl
    rcases h.answered statement last (hl.trans hs) with ⟨result, hr, hr'⟩ | ⟨fault, hf, hk, hf'⟩
    · exact Or.inl ⟨result, hr, (result.readsSurroundings_shown after job hs).trans hr'⟩
    · exact Or.inr ⟨fault, hf, hk, hnotice _ _ hf'⟩

-----------------------------------------------------------------------------------------
-- One statement
-----------------------------------------------------------------------------------------

/-- Sends a statement and shows its result, or its failure. -/
def send (client : Client) (statement : List Char) : Act Unit :=
  (do (← client.execute statement).shown).rescue isStatementFault fun fault =>
    showError fault.message

/-- The failure of a statement is a failure. -/
theorem isFailure_of_isStatementFault {fault : Fault} (h : isStatementFault fault.kind = true)
    : fault.IsFailure := by
  rw [isStatementFault, decide_eq_true_eq] at h
  rw [Fault.IsFailure, h]
  rfl

/-- A statement that is answered is sent once, and the surroundings stay the same. -/
theorem Served.send (h : Served client job) (statement : List Char)
    : (client.send statement job).1 = .ok ()
      ∧ (client.send statement job).2.surroundings = job.surroundings
      ∧ (client.send statement job).2.sent = job.sent ++ [String.ofList statement] := by
  have hexecuted := execute_cases h.session_open statement
  have hanswered := h.answered statement job rfl
  cases he : client.execute statement job with
  | mk result after =>
      rw [he] at hexecuted hanswered
      rcases hanswered with ⟨value, hr, hshown⟩ | ⟨fault, hf, hkind, hshown⟩
      · obtain rfl : result = .ok value := hr
        obtain ⟨hs, hsent⟩ := hexecuted.resolve_left fun ⟨_, hne, _⟩ => nomatch hne
        have hok := (value.readsSurroundings_shown after job hs).trans hshown
        have hcore := value.keepsCore_shown after
        have hsend : client.send statement job = value.shown after := by
          rw [Client.send, rescue_of_ok, bind_of_ok he]
          rw [bind_of_ok he]
          exact hok
        rw [hsend]
        exact ⟨hok, (Job.surroundings_of_core hcore).trans hs,
          (Job.sent_of_core hcore).trans hsent⟩
      · obtain rfl : result = .error fault := hf
        obtain ⟨hs, hsent⟩ := hexecuted.resolve_left fun ⟨_, hne, hnot⟩ =>
          hnot (Except.error.inj hne ▸ isFailure_of_isStatementFault hkind)
        have hok := (Console.readsSurroundings_notice _ _ after job hs).trans hshown
        have hcore := Console.keepsCore_notice .err ("[ERROR] " ++ fault.message) after
        have hact : (do (← client.execute statement).shown : Act Unit) job =
            (.error fault, after) := by
          rw [bind_of_error (by rw [he]), he]
        have hsend : client.send statement job = showError fault.message after := by
          rw [Client.send, rescue_of_handled (by rw [hact]) hkind, hact]
        rw [hsend]
        exact ⟨hok, (Job.surroundings_of_core hcore).trans hs,
          (Job.sent_of_core hcore).trans hsent⟩

/-- A statement that is a command of the shell is not sent. -/
theorem sentOf_singleton {listable : Bool} {statement : List Char}
    (h : goesOn listable statement = true)
    : sentOf listable [statement] = if isSent statement then [statement] else [] := by
  simp [sentOf, h, List.filter_singleton]

/-- What a statement of the shell comes to if the shell goes on after it: it is sent unless it is a
command.
-/
def Passed (client : Client) (job : Job) (statements : List (List Char))
    (result : Except Fault Bool × Job) : Prop :=
  result.1 = .ok true
  ∧ result.2.surroundings = job.surroundings
  ∧ result.2.sent = job.sent ++ (sentOf (client.canList job) statements).map String.ofList

/-- A command that only shows something is passed if that can be shown, by its core. -/
theorem passed_of_shown {act : Act Unit} {statement : List Char} (hk : KeepsCore act)
    (hok : (act job).1 = .ok ()) (hg : goesOn (client.canList job) statement = true)
    (hs : isSent statement = false)
    : Passed client job [statement] ((do act; return true) job) := by
  rw [bind_pure_of_ok hok]
  refine ⟨rfl, Job.surroundings_of_core (hk job), ?_⟩
  rw [Job.sent_of_core (hk job), sentOf_singleton hg, hs]
  exact (List.append_nil _).symm

/-- The command that lists the configuration is passed if it can be listed, and otherwise ends the
shell. Nothing is sent in either case.
-/
theorem showConfiguration_passed {statement : List Char}
    (hg : goesOn (client.canList job) statement = client.canList job)
    (hs : isSent statement = false)
    : (client.canList job = true →
        Passed client job [statement] ((do client.showConfiguration; return true) job))
      ∧ (client.canList job = false →
        ((do client.showConfiguration; return true) job).1 ≠ .ok true
        ∧ ((do client.showConfiguration; return true) job).2.sent = job.sent) := by
  have hcore := client.keepsCore_showConfiguration
  cases hl : (client.showConfiguration job).1 with
  | ok _ =>
      have hlist : client.canList job = true := by rw [canList, hl]; rfl
      refine ⟨fun _ => ?_, fun hn => absurd (hlist.symm.trans hn) (by decide)⟩
      exact passed_of_shown hcore hl (hg.trans hlist) hs
  | error fault =>
      have hlist : client.canList job = false := by rw [canList, hl]; rfl
      refine ⟨fun hn => absurd (hlist.symm.trans hn) (by decide), fun _ => ?_⟩
      rw [bind_of_error hl]
      exact ⟨nofun, Job.sent_of_core (hcore job)⟩

/-- The shell goes on after a statement exactly as `goesOn` tells, sends it if it is no command, and
otherwise sends nothing. By cases of the commands.
-/
theorem Served.runStatement (h : Served client job) (statement : List Char)
    : (goesOn (client.canList job) statement = true →
        Passed client job [statement] (client.runStatement statement job))
      ∧ (goesOn (client.canList job) statement = false →
        (client.runStatement statement job).1 ≠ .ok true
        ∧ (client.runStatement statement job).2.sent = job.sent) := by
  have hhelp : Statement.isCommand "HELP" statement = isWord ["HELP"] statement :=
    isCommand_eq_isWord (by simp) statement
  have hset : Statement.isCommand "SET" statement = isWord ["SET"] statement :=
    isCommand_eq_isWord (by simp) statement
  rw [Client.runStatement]
  simp only [quits_eq_isWord, hhelp, hset]
  cases hq : isWord quitCommands statement with
  | true =>
      refine ⟨fun hg => ?_, fun _ => ⟨nofun, rfl⟩⟩
      rw [goesOn, hq] at hg
      exact nomatch hg
  | false =>
      cases hw : isWord ["HELP"] statement with
      | true =>
          have hg : goesOn (client.canList job) statement = true := by
            simp [goesOn, hq, not_isWord_set_of_help hw]
          refine ⟨fun _ => ?_, fun hn => absurd (hg.symm.trans hn) (by decide)⟩
          exact passed_of_shown (Console.keepsCore_notice .out helpNotice) (notice_help job) hg
            (by simp [isSent, hw])
      | false =>
          cases hc : isWord ["SET"] statement with
          | true =>
              have hg : goesOn (client.canList job) statement = client.canList job := by
                simp [goesOn, hq, hc]
              rw [hg]
              exact showConfiguration_passed hg (by simp [isSent, hc])
          | false =>
              have hg : goesOn (client.canList job) statement = true := by
                simp [goesOn, hq, hc]
              refine ⟨fun _ => ?_, fun hn => absurd (hg.symm.trans hn) (by decide)⟩
              obtain ⟨hok, hs, hsent⟩ := h.send statement
              show Passed client job [statement] ((do client.send statement; return true) job)
              rw [bind_pure_of_ok hok]
              refine ⟨rfl, hs, ?_⟩
              rw [hsent, sentOf_singleton hg]
              simp [isSent, hw, hc]

-----------------------------------------------------------------------------------------
-- The statements of a text
-----------------------------------------------------------------------------------------

theorem canList_of_surroundings {after : Job} (hs : after.surroundings = job.surroundings)
    : client.canList after = client.canList job := by
  rw [canList, client.readsSurroundings_showConfiguration after job hs, canList]

/-- Statements that are passed one after the other are passed together. -/
theorem Passed.cons {statement : List Char} {rest : List (List Char)} {after : Job}
    {result : Except Fault Bool × Job} (hg : goesOn (client.canList job) statement = true)
    (h : Passed client job [statement] (.ok true, after)) (hr : Passed client after rest result)
    : Passed client job (statement :: rest) result := by
  obtain ⟨_, hs, hsent⟩ := h
  obtain ⟨hok, hs', hsent'⟩ := hr
  refine ⟨hok, hs'.trans hs, ?_⟩
  rw [hsent', hsent, canList_of_surroundings hs, sentOf_cons_of_goesOn hg rest, List.map_append,
    List.append_assoc]

/-- Further statements are not run after one that does not let the shell go on. -/
theorem runStatements_cons_of_stops {statement : List Char} {rest : List (List Char)}
    (hne : (client.runStatement statement job).1 ≠ .ok true)
    (hsent : (client.runStatement statement job).2.sent = job.sent)
    : (client.runStatements (statement :: rest) job).1 ≠ .ok true
      ∧ (client.runStatements (statement :: rest) job).2.sent = job.sent := by
  rw [Client.runStatements]
  cases he : client.runStatement statement job with
  | mk result after =>
      rw [he] at hne hsent
      cases result with
      | error fault =>
          rw [bind_of_error (by rw [he]), he]
          exact ⟨nofun, hsent⟩
      | ok stays =>
          obtain rfl : stays = false := eq_false_of_ne_true fun hs => hne (by rw [hs])
          rw [bind_of_ok he]
          have hcore : KeepsCore (do Console.notice .out "Goodbye!"; return false) :=
            (Console.keepsCore_notice .out "Goodbye!").bind fun _ => .pure false
          refine ⟨fun hok => ?_, (Job.sent_of_core (hcore after)).trans hsent⟩
          exact absurd (eq_of_bind_pure hok) (by decide)

/-- The shell passes all statements if it goes on after each of them, and otherwise ends, having
sent those before the one after which it does not. By induction on the statements.
-/
theorem Served.runStatements (h : Served client job) (statements : List (List Char))
    : (statements.all (goesOn (client.canList job)) = true →
        Passed client job statements (client.runStatements statements job))
      ∧ (statements.all (goesOn (client.canList job)) = false →
        (client.runStatements statements job).1 ≠ .ok true
        ∧ (client.runStatements statements job).2.sent =
            job.sent ++ (sentOf (client.canList job) statements).map String.ofList) := by
  induction statements generalizing job with
  | nil => exact ⟨fun _ => ⟨rfl, rfl, (List.append_nil _).symm⟩, nofun⟩
  | cons statement rest ih =>
      obtain ⟨hpass, hstop⟩ := h.runStatement statement
      rw [List.all_cons]
      cases hg : goesOn (client.canList job) statement with
      | true =>
          have hp := hpass hg
          cases he : client.runStatement statement job with
          | mk result after =>
              rw [he] at hp
              obtain rfl : result = .ok true := hp.1
              have hs : after.surroundings = job.surroundings := hp.2.1
              obtain ⟨hall, hnot⟩ := ih (h.later hs)
              rw [canList_of_surroundings hs] at hall hnot
              rw [Client.runStatements, bind_of_ok he, Bool.true_and]
              refine ⟨fun ha => hp.cons hg (hall ha), fun ha => ⟨(hnot ha).1, ?_⟩⟩
              show (client.runStatements rest after).2.sent = _
              rw [(hnot ha).2, hp.2.2, sentOf_cons_of_goesOn hg rest, List.map_append,
                List.append_assoc]
      | false =>
          obtain ⟨hne, hsent⟩ := hstop hg
          refine ⟨nofun, fun _ => ?_⟩
          rw [sentOf_cons_of_not_goesOn hg, List.map_nil, List.append_nil]
          exact runStatements_cons_of_stops hne hsent

/-- After the statements of a text the shell takes its next answers only if it goes on. If what
comes of these is that further statements are sent, both together are sent as one list of
statements.
-/
theorem Served.runStatements_then (h : Served client job) {next : Act Unit}
    {statements more : List (List Char)}
    (hn : ∀ after, after.surroundings = job.surroundings →
      (next after).2.sent = after.sent ++ (sentOf (client.canList after) more).map String.ofList)
    : ((do if ← client.runStatements statements then next) job).2.sent =
        job.sent ++ (sentOf (client.canList job) (statements ++ more)).map String.ofList := by
  obtain ⟨hpass, hstop⟩ := h.runStatements statements
  cases he : client.runStatements statements job with
  | mk result after =>
      rw [he] at hpass hstop
      cases ha : statements.all (goesOn (client.canList job)) with
      | true =>
          obtain ⟨hok, hs, hsent⟩ := hpass ha
          obtain rfl : result = .ok true := hok
          rw [bind_of_ok he]
          show (next after).2.sent = _
          have hmore := hn after hs
          rw [canList_of_surroundings hs] at hmore
          rw [hmore, sentOf_append ha, List.map_append, ← List.append_assoc]
          exact congrArg (· ++ _) hsent
      | false =>
          obtain ⟨hne, hsent⟩ := hstop ha
          rw [sentOf_append_of_stops ha]
          cases result with
          | error fault =>
              rw [bind_of_error (by rw [he]), he]
              exact hsent
          | ok stays =>
              obtain rfl : stays = false := eq_false_of_ne_true fun hs => hne (by rw [hs])
              rw [bind_of_ok he]
              exact hsent

-----------------------------------------------------------------------------------------
-- All answers
-----------------------------------------------------------------------------------------

/-- What the shell does with a line, given the lines that are collected. -/
theorem runShell_line {ask : String → Act Unit} {answer : Answer} {rest : List Answer}
    {lines : List (List Char)} {line : String} {after : Job} (hc : job.clientClosed = false)
    (ha : ask (if lines.isEmpty then promptText else continuationText) job = (.ok (), after))
    (hr : Prompt.receive answer = pure line)
    : client.runShell ask (answer :: rest) lines job =
        (if lines.isEmpty && (trim line.toList).isEmpty then client.runShell ask rest lines
        else if Statement.isComplete (joinLines (lines ++ [line.toList])) then do
          if ← client.runStatements (Statement.split (joinLines (lines ++ [line.toList]))) then
            client.runShell ask rest []
        else client.runShell ask rest (lines ++ [line.toList])) after := by
  show (if job.clientClosed then pure () else
    (ask (if lines.isEmpty then promptText else continuationText) >>= fun _ =>
      (Prompt.receive answer).observe >>= _) : Act Unit) job = _
  rw [hc, hr]
  show (ask _ >>= _) job = _
  rw [bind_of_ok ha]
  rfl

/-- An interrupt drops the lines that are collected. -/
theorem runShell_interrupt {ask : String → Act Unit} {fault : Fault} {rest : List Answer}
    {lines : List (List Char)} {after : Job} (hc : job.clientClosed = false)
    (ha : ask (if lines.isEmpty then promptText else continuationText) job = (.ok (), after))
    (hf : fault.kind = .interrupt)
    : client.runShell ask (.fault fault :: rest) lines job = client.runShell ask rest [] after := by
  show (if job.clientClosed then pure () else
    (ask (if lines.isEmpty then promptText else continuationText) >>= fun _ =>
      (Prompt.receive (.fault fault)).observe >>= _) : Act Unit) job = _
  rw [hc]
  show (ask _ >>= _) job = _
  rw [bind_of_ok ha]
  show (if fault.kind = .interrupt then client.runShell ask rest [] else _ : Act Unit) after = _
  rw [if_pos hf]

/-- Without another answer the shell ends, and has sent nothing more. -/
theorem sent_runShell_nil {ask : String → Act Unit} (ha : Asks ask) (lines : List (List Char))
    : (client.runShell ask [] lines job).2.sent = job.sent := by
  have hk : KeepsCore (client.runShell ask [] lines) := by
    refine KeepsCore.state.bind fun job => ?_
    split
    · exact .pure ()
    · refine KeepsCore.bind (fun job => ?_) fun _ => .pure ()
      obtain ⟨after, he, hcore⟩ := ha (if lines.isEmpty then promptText else continuationText) job
      rw [he]
      exact hcore
  exact Job.sent_of_core (hk job)

/-- The shell sends those of the statements that come of its answers one after another after which
the ones before let it go on. By induction on the answers.
-/
theorem Served.runShell (h : Served client job) {ask : String → Act Unit} (ha : Asks ask)
    {answers : List Answer} (hentry : ∀ answer ∈ answers, answer.IsEntry)
    (lines : List (List Char))
    : (client.runShell ask answers lines job).2.sent =
        job.sent ++ (sentOf (client.canList job)
          (ShellScript.taken lines (answers.map Answer.line?))).map String.ofList := by
  induction answers generalizing job lines with
  | nil =>
      rw [sent_runShell_nil ha]
      exact (List.append_nil _).symm
  | cons answer rest ih =>
      have hrest : ∀ other ∈ rest, other.IsEntry :=
        fun other ho => hentry other (List.mem_cons_of_mem answer ho)
      obtain ⟨after, hask, hcore⟩ :=
        ha (if lines.isEmpty then promptText else continuationText) job
      have hs := Job.surroundings_of_core hcore
      have hafter := h.later hs
      have hsent := Job.sent_of_core hcore
      have hlist : client.canList after = client.canList job := canList_of_surroundings hs
      have hline : ∀ line : String, Prompt.receive answer = pure line →
          answer.line? = some line.toList →
          (client.runShell ask (answer :: rest) lines job).2.sent =
            job.sent ++ (sentOf (client.canList job)
              (ShellScript.taken lines ((answer :: rest).map Answer.line?))).map String.ofList := by
        intro line hr hl
        rw [runShell_line h.client_open hask hr, List.map_cons, hl, ShellScript.taken]
        split
        · rw [ih hafter hrest lines, hsent, hlist]
        · split
          · rw [hafter.runStatements_then (fun last hl => ih (hafter.later hl) hrest []), hsent,
              hlist]
          · rw [ih hafter hrest, hsent, hlist]
      cases answer with
      | line text => exact hline text rfl rfl
      | nothing => exact hline "" rfl rfl
      | closing text => exact (hentry _ List.mem_cons_self).elim
      | fault fault =>
          have hf : fault.kind = .interrupt := hentry _ List.mem_cons_self
          rw [runShell_interrupt h.client_open hask hf, ih hafter hrest, hsent, hlist]
          rfl

-----------------------------------------------------------------------------------------
-- The whole shell
-----------------------------------------------------------------------------------------

/-- The statements that the lines of the answers hold, taken as whole texts, up to the first one
that leaves the shell.
-/
def scriptToQuit (answers : List Answer) : List (List Char) :=
  (ShellScript.script (answers.map Answer.line?)).takeWhile (!isWord quitCommands ·)

/-- The statements that are sent if the configuration can be listed are all but the commands. If it
cannot, they are those before the first one that asks for it.
-/
theorem sentOf_eq (listable : Bool) (statements : List (List Char))
    : sentOf listable statements =
        ((if listable then statements.takeWhile (!isWord quitCommands ·)
          else (statements.takeWhile (!isWord quitCommands ·)).takeWhile (!isWord ["SET"] ·)).filter
            isSent) := by
  cases listable with
  | true =>
      rw [sentOf, if_pos rfl]
      congr 2
      funext statement
      simp [goesOn]
  | false =>
      rw [sentOf, if_neg Bool.false_ne_true, List.takeWhile_takeWhile]
      congr 2
      funext statement
      simp [goesOn, Bool.and_comm]

/-- The shell sends those of the statements of its user after which the ones before let it go on. -/
theorem Served.sent_openShell (h : Served client job) (hask : (client.asking job).1.isOk = true)
    {answers : List Answer} (hentry : ∀ answer ∈ answers, answer.IsEntry)
    : (client.openShell answers job).2.sent =
        job.sent ++ (sentOf (client.canList job)
          (ShellScript.script (answers.map Answer.line?))).map String.ofList := by
  have hready := keepsCore_asking client job
  cases ha : client.asking job with
  | mk result after =>
      rw [ha] at hask hready
      cases result with
      | error fault => exact nomatch hask
      | ok ask =>
          have hs := Job.surroundings_of_core hready
          have hwelcome := Console.keepsCore_notice .out welcomeNotice after
          rw [openShell, bind_of_ok ha]
          cases hw : Console.notice .out welcomeNotice after with
          | mk shown last =>
              have hok := notice_welcome after
              rw [hw] at hok hwelcome
              obtain rfl : shown = .ok () := hok
              have hl := (Job.surroundings_of_core hwelcome).trans hs
              rw [bind_of_ok hw, (h.later hl).runShell (asks_of_asking ha) hentry [],
                canList_of_surroundings hl, Job.sent_of_core hwelcome, Job.sent_of_core hready,
                ShellScript.taken_eq_script]

/-- Leaving out the items of a list from some place on makes no difference to a filter exactly if
the filter keeps none of these items.
-/
theorem filter_takeWhile_eq_iff {α : Type} (p q : α → Bool) (items : List α)
    : (items.takeWhile q).filter p = items.filter p
      ↔ ∀ item ∈ items.dropWhile q, p item = false := by
  have hsplit : items.filter p = (items.takeWhile q).filter p ++ (items.dropWhile q).filter p := by
    rw [← List.filter_append, List.takeWhile_append_dropWhile]
  rw [hsplit, List.self_eq_append_right, List.filter_eq_nil_iff]
  simp

/-- The statements that an interactive shell sends are those of the texts that its lines make
between interrupts, each text up to the last line that completes a statement, up to the first one
that leaves the shell and without the other commands, exactly if the configuration of the session
can be listed or nothing is left to be sent once it is asked for. If it cannot be listed, the
statements before that are sent.
-/
theorem openShell_sends {client : Client} {job : Job} {answers : List Answer}
    (h : Served client job) (hask : (client.asking job).1.isOk = true)
    (hentry : ∀ answer ∈ answers, answer.IsEntry)
    : ((client.openShell answers job).2.sent =
          job.sent ++ ((scriptToQuit answers).filter isSent).map String.ofList
        ↔ (client.showConfiguration job).1.isOk = true
          ∨ ∀ statement ∈ (scriptToQuit answers).dropWhile (!isWord ["SET"] ·),
              isSent statement = false)
      ∧ ((client.showConfiguration job).1.isOk = false →
        (client.openShell answers job).2.sent =
          job.sent ++ (((scriptToQuit answers).takeWhile (!isWord ["SET"] ·)).filter
            isSent).map String.ofList) := by
  have hsent := h.sent_openShell hask hentry
  have hscript : sentOf (client.canList job) (ShellScript.script (answers.map Answer.line?)) =
      (if client.canList job then scriptToQuit answers
        else (scriptToQuit answers).takeWhile (!isWord ["SET"] ·)).filter isSent :=
    sentOf_eq _ _
  rw [hsent, hscript, ← canList]
  cases client.canList job with
  | true => simp
  | false =>
      refine ⟨?_, fun _ => rfl⟩
      rw [List.append_cancel_left_eq, if_neg Bool.false_ne_true,
        (List.map_injective_iff.mpr fun _ _ h => String.ofList_injective h).eq_iff,
        filter_takeWhile_eq_iff]
      simp

/-- A client of an executor elsewhere, which tells a configuration. -/
def remoteClient (configuration : Entries) : Client :=
  { session := { handle := "s", executor := .elsewhere { configuration := .ok configuration } },
    history := .ofString "history",
    prompts := false }

/-- The client of an executor elsewhere is served as the shell is promised if no statement yields
anything to show.
-/
theorem served_remoteClient (configuration : Entries)
    : Served (remoteClient configuration) {} := by
  refine ⟨rfl, trivial, fun statement after hs => Or.inl ⟨{}, ?_, rfl⟩⟩
  have hd := Job.database_of_surroundings hs
  generalize hsent : after.note
    (.call "execute" [.text "s", .text (String.ofList statement)]) = sent
  have hreply : sent.database.reply sent.statements = .nothing := by
    have hsame : sent.database = after.database := by rw [← hsent]; rfl
    rw [hsame, hd]
  show ((Executor.nextReply >>= Executor.wholeResultOf)
    (after.note (.call "execute" [.text "s", .text (String.ofList statement)]))).1 = .ok {}
  rw [hsent, bind_of_ok (Executor.nextReply_of_answer hreply)]
  rfl

/-- A literal over two lines, an interrupt in the middle of a statement, commands between the
statements and several statements in one answer: what comes before `exit` is sent.
-/
theorem openShell_sends_until_exit
    : ((remoteClient []).openShell
        [.line "", .line "SELECT 'a;", .line "b'; SELECT", .line "2; -- it's", .line "DELETE",
          .fault { kind := .interrupt, message := "" }, .line "help;", .line "Set ;",
          .line "INSERT;\u2028 exit ;\u2028UPDATE;"] {}).2.sent =
        ["SELECT 'a;\nb'; SELECT\n2", "INSERT"] := by
  rw [(openShell_sends (served_remoteClient []) rfl (by simp [Answer.IsEntry])).1.mpr (Or.inl rfl)]
  decide +kernel

/-- A number with too many digits in the configuration ends the shell when it is to be listed, and
the statement after that is not sent.
-/
theorem openShell_ends_at_unlisted_configuration
    : ((remoteClient [(.text "r", .int (Int.ofNat (Nat.pow 10 4300)))]).openShell
        [.line "SET;", .line "SELECT 1;"] {}).2.sent = []
      ∧ ((scriptToQuit [.line "SET;", .line "SELECT 1;"]).filter isSent).map String.ofList =
          ["SELECT 1"] := by
  decide +kernel

end SqlShell.Client
