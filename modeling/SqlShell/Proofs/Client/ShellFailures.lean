import SqlShell.Proofs.Client.ShellConduct

/-! A failing statement does not end the interactive shell if it fails as the database does: the
statements and lines after it are taken up as if it had succeeded, up to the one that leaves the
shell. The shell ends early exactly if a reply raises a warning, if an error cannot be shown, or if
the configuration is asked for and cannot be listed.
-/

namespace SqlShell.Client

open Act Text

/-- How often the shell asks for a line, given the lines that are collected. -/
def askedFor (lines : List (List Char)) (answers : List (Option (List Char))) : Nat :=
  answers.inits.countP fun part =>
    (ShellScript.taken lines part).all (!isWord quitCommands ·)

/-- How often the shell asks for a line: before each of the answers and after the last one, as long
as none of the statements in the answers before leaves it.
-/
def asked (answers : List Answer) : Nat :=
  (answers.map Answer.line?).inits.countP fun part =>
    (ShellScript.script part).all (!isWord quitCommands ·)

/-- The rest of a shell ends over the statements that come of its answers, before the one that leaves
it.
-/
def EndsOverAnswers (client : Client) (own : LocalSession) (ask : String → Act Unit)
    (answers : List Answer) (lines : List (List Char)) (job : Job) : Prop :=
  EndsOver client own job
    ((ShellScript.taken lines (answers.map Answer.line?)).takeWhile (!isWord quitCommands ·))
    (askedFor lines (answers.map Answer.line?)) () (client.runShell ask answers lines job)

variable {client : Client} {own : LocalSession} {job : Job}

-----------------------------------------------------------------------------------------
-- One statement
-----------------------------------------------------------------------------------------

/-- A command that only shows something sends nothing. It ends the shell if it asks for a
configuration that cannot be listed.
-/
theorem EndsOver.of_command {act : Act Unit} {statement : List Char} (hk : KeepsCore act)
    (hq : IsQuiet act) (hs : isSent statement = false)
    (hok : (act job).1.isOk = (client.canList job || !isWord ["SET"] statement))
    : EndsOver client own job [statement] 0 true ((do act; return true) job) := by
  have hsurvives : Survives client job [statement] ↔ (act job).1.isOk = true := by
    simp [Survives, numbered, hs, hok]
  have hfollows : Follows own [statement] 0 job (act job).2 := by
    have hquiet : Follows own [] 0 job (act job).2 := .of_quiet hk hq job
    obtain ⟨hsame, hcount, hconduct, hprompts⟩ := hquiet
    exact ⟨hsame, by simp [hs, hcount], by simpa [numbered, hs] using hconduct, hprompts⟩
  rw [EndsOver, hsurvives]
  cases ha : (act job).1 with
  | ok _ =>
      rw [bind_pure_of_ok ha]
      exact Or.inl ⟨rfl, rfl, hfollows⟩
  | error fault =>
      rw [bind_of_error ha]
      exact Or.inr ⟨Bool.false_ne_true, ⟨fault, rfl⟩, hfollows.surroundings_eq⟩

/-- A statement that does not leave the shell ends over itself, by cases of the commands. -/
theorem Backed.runStatement (h : Backed client own job) {statement : List Char}
    (hq : isWord quitCommands statement = false)
    : EndsOver client own job [statement] 0 true (client.runStatement statement job) := by
  have hhelp : Statement.isCommand "HELP" statement = isWord ["HELP"] statement :=
    isCommand_eq_isWord (by simp) statement
  have hset : Statement.isCommand "SET" statement = isWord ["SET"] statement :=
    isCommand_eq_isWord (by simp) statement
  rw [Client.runStatement]
  simp only [quits_eq_isWord, hhelp, hset, hq]
  cases hw : isWord ["HELP"] statement with
  | true =>
      refine .of_command (Console.keepsCore_notice .out helpNotice) (Console.isQuiet_notice _)
        (by simp [isSent, hw]) ?_
      rw [notice_help, not_isWord_set_of_help hw]
      exact (Bool.or_true _).symm
  | false =>
      cases hc : isWord ["SET"] statement with
      | true =>
          refine .of_command client.keepsCore_showConfiguration client.isQuiet_showConfiguration
            (by simp [isSent, hc]) ?_
          rw [hc]
          exact (Bool.or_false _).symm
      | false =>
          have hs : isSent statement = true := by simp [isSent, hw, hc]
          exact (h.send hs).bind fun middle _ => .of_quiet (.pure true) (.pure true) rfl

/-- The statements of a text end over those before the one that leaves the shell, by induction. -/
theorem Backed.runStatements (h : Backed client own job) (statements : List (List Char))
    : EndsOver client own job (statements.takeWhile (!isWord quitCommands ·)) 0
        (statements.all (!isWord quitCommands ·)) (client.runStatements statements job) := by
  induction statements generalizing job with
  | nil => exact .of_quiet (.pure true) (.pure true) rfl
  | cons statement rest ih =>
      rw [List.takeWhile_cons, List.all_cons, Client.runStatements]
      cases hq : isWord quitCommands statement with
      | true =>
          have hleaves : client.runStatement statement job = (.ok false, job) := by
            rw [Client.runStatement, quits_eq_isWord, hq]
            rfl
          have hgoodbye : (Console.notice .out "Goodbye!" job).1 = .ok () :=
            Console.notice_of_joinerless (by decide +kernel) (by decide +kernel) .out job
          rw [bind_of_ok hleaves]
          refine .of_quiet ?_ ?_ ?_
          · exact (Console.keepsCore_notice .out _).bind fun _ => .pure false
          · exact (Console.isQuiet_notice _).bind fun _ => .pure false
          · exact congrArg Prod.fst (bind_pure_of_ok hgoodbye false)
      | false =>
          show EndsOver client own job ([statement] ++ rest.takeWhile (!isWord quitCommands ·))
            (0 + 0) (rest.all (!isWord quitCommands ·)) ((client.runStatement statement >>= _) job)
          exact (h.runStatement hq).bind fun middle hf => ih (h.later hf.surroundings_eq)

-----------------------------------------------------------------------------------------
-- Lines
-----------------------------------------------------------------------------------------

/-- The shell asks before an answer, and then as often as the other answers let it go on. -/
theorem askedFor_cons (lines : List (List Char)) (answer : Option (List Char))
    (rest : List (Option (List Char)))
    : askedFor lines (answer :: rest) =
        1 + rest.inits.countP fun part =>
          (ShellScript.taken lines (answer :: part)).all (!isWord quitCommands ·) := by
  have hstart : ([] :: rest.inits.map (answer :: ·)).countP (fun part =>
      (ShellScript.taken lines part).all (!isWord quitCommands ·)) =
        askedFor lines (answer :: rest) := by
    rw [askedFor, List.inits_cons]
  rw [← hstart, List.countP_cons_of_pos (by rfl), List.countP_map, Nat.add_comm]
  rfl

/-- The shell asks for further lines after statements if none of them leaves it. -/
theorem countP_append_taken (statements : List (List Char)) (rest : List (Option (List Char)))
    : (rest.inits.countP fun part =>
        (statements ++ ShellScript.taken [] part).all (!isWord quitCommands ·)) =
        if statements.all (!isWord quitCommands ·) then askedFor [] rest else 0 := by
  simp only [List.all_append, askedFor]
  cases statements.all (!isWord quitCommands ·) <;> simp

/-- Asking for a line is followed without any statement. -/
theorem follows_ask {ask : String → Act Unit} (hq : AsksOnce ask) {message : String} {after : Job}
    (ha : ask message job = (.ok (), after)) (hcore : after.core = job.core)
    : Follows own [] 1 job after := by
  obtain ⟨hconduct, hprompts⟩ := hq message job
  rw [ha] at hconduct hprompts
  exact ⟨Job.surroundings_of_core hcore, Job.statements_of_core hcore,
    hconduct.trans (List.append_nil _).symm, hprompts⟩

/-- After the statements of a text the shell goes on with its answers unless one of them leaves it.
-/
theorem Backed.runStatements_then (h : Backed client own job) {next : Act Unit}
    {statements more : List (List Char)} {further : Nat}
    (hn : ∀ middle, middle.surroundings = job.surroundings →
      EndsOver client own middle (more.takeWhile (!isWord quitCommands ·)) further () (next middle))
    : EndsOver client own job ((statements ++ more).takeWhile (!isWord quitCommands ·))
        (if statements.all (!isWord quitCommands ·) then further else 0) ()
        ((do if ← client.runStatements statements then next) job) := by
  have hrun := h.runStatements statements
  cases hall : statements.all (!isWord quitCommands ·) with
  | true =>
      have hkept : ∀ statement ∈ statements, (!isWord quitCommands statement) = true :=
        List.all_eq_true.mp hall
      rw [hall, List.takeWhile_eq_self_iff.mpr hkept] at hrun
      rw [List.takeWhile_append_of_pos hkept, if_pos rfl, ← Nat.zero_add further]
      exact hrun.bind fun middle hf => hn middle hf.surroundings_eq
  | false =>
      rw [hall] at hrun
      have hcut : (statements ++ more).takeWhile (!isWord quitCommands ·) =
          statements.takeWhile (!isWord quitCommands ·) ++ [] := by
        rw [List.takeWhile_append, if_neg, List.append_nil]
        intro hlength
        have hkept := (List.takeWhile_prefix _).eq_of_length hlength
        have htrue := List.all_eq_true.mpr (List.takeWhile_eq_self_iff.mp hkept)
        exact absurd (htrue.symm.trans hall) (by decide)
      rw [hcut, if_neg Bool.false_ne_true]
      exact hrun.bind fun middle hf => .of_quiet (.pure ()) (.pure ()) rfl

/-- Without another answer the shell ends after it has asked. -/
theorem runShell_end {ask : String → Act Unit} {lines : List (List Char)} {after : Job}
    (hc : job.clientClosed = false)
    (ha : ask (if lines.isEmpty then promptText else continuationText) job = (.ok (), after))
    : client.runShell ask [] lines job = (.ok (), after) := by
  show (if job.clientClosed then pure () else
    (ask (if lines.isEmpty then promptText else continuationText) >>= fun _ => pure ())
      : Act Unit) job = _
  rw [hc]
  show (ask _ >>= _) job = _
  rw [bind_of_ok ha]
  rfl

/-- A line is asked for and taken in, and the shell goes on with the other answers, by the three ways
in which a line is taken in.
-/
theorem Backed.runShell_of_line (h : Backed client own job) {ask : String → Act Unit}
    (ha : Asks ask) (hq : AsksOnce ask) {answer : Answer} {line : String} {rest : List Answer}
    (hr : Prompt.receive answer = pure line) (hl : answer.line? = some line.toList)
    (hrest : ∀ middle lines, Backed client own middle
      → EndsOverAnswers client own ask rest lines middle)
    (lines : List (List Char))
    : EndsOverAnswers client own ask (answer :: rest) lines job := by
  obtain ⟨after, hask, hcore⟩ := ha (if lines.isEmpty then promptText else continuationText) job
  have hfollows : Follows own [] 1 job after := follows_ask hq hask hcore
  have hafter := h.later hfollows.surroundings_eq
  rw [EndsOverAnswers, List.map_cons, askedFor_cons]
  refine EndsOver.later ?_ (survives_nil client job) hfollows
  rw [runShell_line h.client_open hask hr, hl]
  simp only [ShellScript.taken]
  split
  · exact hrest after lines hafter
  · split
    · rw [countP_append_taken]
      exact hafter.runStatements_then fun middle hs => hrest middle [] (hafter.later hs)
    · exact hrest after _ hafter

/-- The shell ends over the statements that come of its answers one after another, before the one
that leaves it. By induction on the answers.
-/
theorem Backed.runShell (h : Backed client own job) {ask : String → Act Unit} (ha : Asks ask)
    (hq : AsksOnce ask) {answers : List Answer} (hentry : ∀ answer ∈ answers, answer.IsEntry)
    (lines : List (List Char))
    : EndsOverAnswers client own ask answers lines job := by
  induction answers generalizing job lines with
  | nil =>
      obtain ⟨after, hask, hcore⟩ :=
        ha (if lines.isEmpty then promptText else continuationText) job
      rw [EndsOverAnswers, runShell_end h.client_open hask]
      exact Or.inl ⟨survives_nil client job, rfl, follows_ask hq hask hcore⟩
  | cons answer rest ih =>
      obtain ⟨hanswer, hentry⟩ := List.forall_mem_cons.mp hentry
      have hrest := fun (middle : Job) lines (hm : Backed client own middle) => ih hm hentry lines
      cases answer with
      | line text => exact h.runShell_of_line ha hq rfl rfl hrest lines
      | nothing =>
          have hempty : Prompt.receive .nothing = pure "" := rfl
          exact h.runShell_of_line ha hq hempty rfl hrest lines
      | closing text => exact hanswer.elim
      | fault fault =>
          obtain ⟨after, hask, hcore⟩ :=
            ha (if lines.isEmpty then promptText else continuationText) job
          have hfollows : Follows own [] 1 job after := follows_ask hq hask hcore
          rw [EndsOverAnswers, runShell_interrupt h.client_open hask hanswer, List.map_cons,
            askedFor_cons]
          exact (hrest after [] (h.later hfollows.surroundings_eq)).later
            (survives_nil client job) hfollows

-----------------------------------------------------------------------------------------
-- The whole shell
-----------------------------------------------------------------------------------------

/-- The whole shell ends over the statements that the lines of the answers hold, taken as whole texts,
before the one that leaves the shell.
-/
theorem Backed.openShell (h : Backed client own job) (hask : (client.asking job).1.isOk = true)
    {answers : List Answer} (hentry : ∀ answer ∈ answers, answer.IsEntry)
    : EndsOver client own job (scriptToQuit answers) (asked answers) ()
        (client.openShell answers job) := by
  have hready : Follows own [] 0 job (client.asking job).2 :=
    .of_quiet (keepsCore_asking client) client.isQuiet_asking job
  cases ha : client.asking job with
  | mk result after =>
      rw [ha] at hask hready
      cases result with
      | error fault => exact nomatch hask
      | ok ask =>
          have hwelcome : EndsOver client own after [] 0 ()
              (Console.notice .out welcomeNotice after) :=
            .of_quiet (Console.keepsCore_notice .out _) (Console.isQuiet_notice _)
              (notice_welcome after)
          have hshell : EndsOver client own after ([] ++ scriptToQuit answers) (0 + asked answers)
              () ((do Console.notice .out welcomeNotice; client.runShell ask answers []) after) := by
            refine hwelcome.bind fun middle hf => ?_
            have hs := hf.surroundings_eq.trans hready.surroundings_eq
            have hrun := (h.later hs).runShell (asks_of_asking ha) (asksOnce_of_asking ha) hentry []
            simpa only [EndsOverAnswers, askedFor, ShellScript.taken_eq_script, scriptToQuit, asked]
              using hrun
          rw [Client.openShell, bind_of_ok ha]
          simpa using hshell.later (survives_nil client job) hready

/-- Failures of statements do not end the interactive shell, and each of them is shown as an error
line: the shell sends all statements of the texts that its lines make, up to the one that leaves the
shell, and asks for further lines up to there or up to the end of the input. It ends well exactly if
the database raises no warning, every error can be shown and the configuration can be listed when it
is asked for. The session stays open in any case.
-/
theorem openShell_survives_failures {client : Client} {own : LocalSession} {job : Job}
    {answers : List Answer} (h : Backed client own job)
    (hask : (client.asking job).1.isOk = true) (hentry : ∀ answer ∈ answers, answer.IsEntry)
    : ((client.openShell answers job).1 = .ok () ↔ Survives client job (scriptToQuit answers))
      ∧ (Survives client job (scriptToQuit answers) →
        Follows own (scriptToQuit answers) (asked answers) job (client.openShell answers job).2)
      ∧ client.SessionIsOpen (client.openShell answers job).2 := by
  have hopen : (client.openShell answers job).2.surroundings = job.surroundings →
      client.SessionIsOpen (client.openShell answers job).2 := by
    intro hs
    obtain ⟨number, hx, hsome⟩ := (h.later hs).session_open
    rw [SessionIsOpen, hx]
    exact Option.isSome_iff_exists.mpr ⟨own, hsome⟩
  rcases h.openShell hask hentry with ⟨hs, hok, hf⟩ | ⟨hnot, ⟨fault, herror⟩, hsame⟩
  · exact ⟨iff_of_true hok hs, fun _ => hf, hopen hf.surroundings_eq⟩
  · refine ⟨iff_of_false ?_ hnot, fun hs => absurd hs hnot, hopen hsame⟩
    rw [herror]
    rintro ⟨⟩

/-- A client with a session of the first executor of a job, which asks without a prompt. -/
def localClient : Client :=
  { session := { handle := "s", executor := .here 0 },
    history := .ofString "history",
    prompts := false }

/-- The session of that client. -/
def localSession : LocalSession :=
  { environment := {}, configuration := [], connection := 1 }

/-- A job with that session, whose database gives the replies. -/
def localJob (reply : Nat → Reply) : Job :=
  { database := { reply }, executors := [{ started := true, sessions := [("s", localSession)] }] }

/-- Replies that fail: one when its statement is executed, and one when its rows are fetched. -/
def failingReply : Nat → Reply
  | 0 => .fault { kind := .database .operational, message := "no such table: t" }
  | 1 => .answer (some ["a"]) [] (-1) (some { kind := .database .data, message := "too big" })
  | _ => .nothing

/-- That client is backed by these replies, and each of them is bearable. -/
theorem backed_failingReply : Backed localClient localSession (localJob failingReply) := by
  refine ⟨rfl, ⟨0, rfl, rfl⟩, fun k fault hr => ?_, fun k result hr => ?_⟩
  · match k with
    | 0 | 1 => exact Or.inl (Option.some.inj hr ▸ rfl)
    | k + 2 => exact nomatch hr
  · match k with
    | 0 | 1 => exact nomatch hr
    | k + 2 => exact Except.ok.inj hr ▸ rfl

theorem isBearable_failingReply (k : Nat)
    : IsBearable (localJob failingReply) (failingReply k) := by
  intro fault hr
  match k with
  | 0 | 1 => exact Option.some.inj hr ▸ ⟨rfl, rfl⟩
  | k + 2 => exact nomatch hr

/-- Lines with failing statements before and after an interrupt, and a line that leaves the shell. -/
def failingAnswers : List Answer :=
  [.line "SELECT a;", .line "SELECT", .fault { kind := .interrupt, message := "" },
    .line "SELECT b;\u2028SET;\u2028SELECT c;", .line "exit;", .line "SELECT d;"]

/-- Two statements fail, and what comes before `exit` is sent. Lines are asked for up to there. -/
theorem openShell_survives_failures_until_exit
    : (localClient.openShell failingAnswers (localJob failingReply)).1 = .ok ()
      ∧ (localClient.openShell failingAnswers (localJob failingReply)).2.conduct =
        [.execute 1 "SELECT a", .notice .err "[ERROR] no such table: t",
          .execute 1 "SELECT b", .notice .err "[ERROR] too big", .execute 1 "SELECT c"]
      ∧ (localClient.openShell failingAnswers (localJob failingReply)).2.prompts = 5 := by
  have hentry : ∀ answer ∈ failingAnswers, answer.IsEntry := by
    simp [failingAnswers, Answer.IsEntry]
  obtain ⟨hends, hfollows, -⟩ := openShell_survives_failures backed_failingReply rfl hentry
  have hsurvives : Survives localClient (localJob failingReply) (scriptToQuit failingAnswers) :=
    ⟨fun sent _ => isBearable_failingReply sent.2, Or.inl rfl⟩
  obtain ⟨-, -, hconduct, hprompts⟩ := hfollows hsurvives
  have hnumbered : numbered (localJob failingReply).statements (scriptToQuit failingAnswers) =
      [("SELECT a".toList, 0), ("SELECT b".toList, 1), ("SELECT c".toList, 2)] := by
    decide +kernel
  rw [hnumbered] at hconduct
  refine ⟨hends.mpr hsurvives, hconduct.trans ?_, hprompts.trans (by decide +kernel)⟩
  rfl

/-- The database warns of the first text, as of one that holds several statements. -/
def warningReply : Nat → Reply
  | 0 =>
      .fault { kind := .databaseWarning, message := "You can only execute one statement at a time." }
  | _ => .nothing

/-- A warning of the database ends the shell: the statement after it is not sent. -/
theorem openShell_ends_at_warning
    : (localClient.openShell [.line "SELECT 1; SELECT 2;", .line "SELECT 3;"]
          (localJob warningReply)).1 ≠ .ok ()
      ∧ (localClient.openShell [.line "SELECT 1; SELECT 2;", .line "SELECT 3;"]
          (localJob warningReply)).2.sent = ["SELECT 1; SELECT 2"]
      ∧ ((scriptToQuit [.line "SELECT 1; SELECT 2;", .line "SELECT 3;"]).filter isSent).map
          String.ofList = ["SELECT 1; SELECT 2", "SELECT 3"] := by
  decide +kernel

end SqlShell.Client
