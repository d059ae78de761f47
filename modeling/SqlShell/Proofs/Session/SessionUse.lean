import SqlShell.Proofs.Client.SentStatements
import SqlShell.Proofs.Shutdown.Teardown
import SqlShell.Session.Mode

/-! What a mode does with its open session: it executes statements in it and leaves it open, unless
a signal strikes during a statement. Then the session has been closed, and the mode ends at once.
-/

namespace SqlShell

open Act

/-- One statement of a script: it is shown and executed, and its result is shown. -/
def Client.scriptStep (client : Client) (statement : List Char) : Act Unit := do
  Console.notice .out (promptText ++ String.ofList statement ++ ";")
  (← client.execute statement).shown
  Console.notice .out ""

/-- A script is run statement by statement. -/
theorem Client.executeFile_eq (client : Client) (content : String)
    : client.executeFile content = forEach (Statement.split content.toList) client.scriptStep :=
  rfl

namespace Lifetime

/-- No statement since the start of the job has met a signal. -/
structure Unsignalled (start : Job) (count : Nat) : Prop where
  le : start.statements ≤ count
  ne_signal : ∀ i, start.statements ≤ i → i < count →
    ∀ signal, start.database.reply i ≠ .signal signal

/-- The session is open and guarded by its hook, and no statement has met a signal. -/
structure Live (start : Job) (session : Session) (job : Job) : Prop
    extends Guarded start session job where
  unsignalled : Unsignalled start job.statements

/-- The last statement has met a signal: the session has been closed, and the run ends with a
request to stop, which is the one of the signal if the database closes the session in an ordinary
way.
-/
def Struck {α : Type} (start : Job) (result : Except Fault α) (job : Job) : Prop :=
  ∃ fault count signal, result = .error fault ∧ ¬ fault.IsFailure
    ∧ Unsignalled start count ∧ start.database.reply count = .signal signal
    ∧ (ClosesOrdinarily start → fault = { kind := .exit, message := toString (128 + signal) })
    ∧ Ended start (count + 1) job

variable {start : Job} {session : Session} {α β : Type}

/-- The act leaves the session open unless a signal strikes. -/
def Uses (start : Job) (session : Session) (act : Act α) : Prop :=
  ∀ job, Live start session job →
    Live start session (act job).2 ∨ Struck start (act job).1 (act job).2

/-- A live session stays live while the core of the state is the same. -/
theorem Live.of_core {job after : Job} (hc : after.core = job.core) (h : Live start session job)
    : Live start session after :=
  ⟨h.toGuarded.of_core hc, Job.statements_of_core hc ▸ h.unsignalled⟩

/-- After a signal has struck, the same fault may end other acts, which leave the session ended. -/
theorem Struck.of_ended {fault : Fault} {job after : Job}
    (hp : ∀ count, Ended start count job → Ended start count after)
    (h : Struck start (.error fault : Except Fault α) job)
    : Struck start (.error fault : Except Fault β) after := by
  obtain ⟨other, count, signal, he, hf, hu, hr, hx, hended⟩ := h
  obtain rfl := Except.error.inj he
  exact ⟨fault, count, signal, rfl, hf, hu, hr, hx, hp _ hended⟩

-----------------------------------------------------------------------------------------
-- How acts are put together
-----------------------------------------------------------------------------------------

/-- An act that preserves the live session uses it. -/
theorem Uses.of_preserves {act : Act α} (h : Preserves (Live start session) act)
    : Uses start session act :=
  fun job hl => Or.inl (h job hl)

/-- An act that keeps the core uses the session. -/
theorem Uses.of_keepsCore {act : Act α} (h : KeepsCore act) : Uses start session act :=
  .of_preserves (h.preserves fun _ _ => Live.of_core)

/-- Two acts use the session one after the other; a signal in the first one is the end. -/
theorem Uses.bind {act : Act α} {next : α → Act β} (h : Uses start session act)
    (hn : ∀ value, Uses start session (next value))
    : Uses start session (act >>= next) := by
  intro job hl
  cases he : act job with
  | mk result after =>
      have hact := h job hl
      rw [he] at hact
      cases result with
      | ok value =>
          rw [bind_of_ok he]
          exact hn value after (hact.resolve_right fun ⟨_, _, _, hne, _⟩ => nomatch hne)
      | error fault =>
          rw [bind_of_error (by rw [he]), he]
          exact hact.imp_right (Struck.of_ended fun _ h => h)

/-- An act that is observed uses the session together with what follows if that passes on the
request to stop of a signal.
-/
theorem Uses.bind_observe {act : Act α} {next : Except Fault α → Act β}
    (h : Uses start session act) (hn : ∀ result, Uses start session (next result))
    (hs : ∀ fault job, ¬ fault.IsFailure → ∃ after, next (.error fault) job = (.error fault, after)
      ∧ ∀ count, Ended start count job → Ended start count after)
    : Uses start session (act.observe >>= next) := by
  intro job hl
  have hact := h job hl
  have hstep : (act.observe >>= next) job = next (act job).1 (act job).2 := rfl
  rw [hstep]
  rcases hact with hlive | hstruck
  · exact hn _ _ hlive
  · have hfault := hstruck
    obtain ⟨fault, _, _, he, hf, _⟩ := hfault
    obtain ⟨after, hnext, hp⟩ := hs fault (act job).2 hf
    rw [he] at hstruck ⊢
    rw [hnext]
    exact Or.inr (hstruck.of_ended hp)

/-- Handling failures of some kinds uses the session, since a request to stop is none of them. -/
theorem Uses.rescue {act : Act α} {kinds : FaultKind → Bool} {handle : Fault → Act α}
    (h : Uses start session act) (hk : ∀ kind, kinds kind = true → kind.isOrdinary = true)
    (hh : ∀ fault, Uses start session (handle fault))
    : Uses start session (act.rescue kinds handle) := by
  refine Uses.bind_observe h (fun result => ?_) fun fault job hf => ⟨job, ?_, fun _ h => h⟩
  · cases result with
    | ok value => exact .of_keepsCore (.pure value)
    | error fault =>
        show Uses start session (if kinds fault.kind then handle fault else fail fault)
        split
        · exact hh fault
        · exact .of_keepsCore (.fail fault)
  · show (if kinds fault.kind then handle fault else fail fault) job = _
    rw [Fault.not_of_not_isFailure hf hk]
    rfl

/-- Acts for several items use the session one after the other, by induction on the items. -/
theorem Uses.forEach {items : List α} {act : α → Act Unit}
    (h : ∀ item, Uses start session (act item))
    : Uses start session (forEach items act) := by
  induction items with
  | nil => exact .of_keepsCore (.pure ())
  | cons item rest ih => exact (h item).bind fun _ => ih

/-- Closing the client leaves the session as it is. -/
theorem preserves_clientClosed (closed : Bool)
    : Preserves (Live start session) (change fun job => { job with clientClosed := closed }) :=
  fun _ h => { h with }

-----------------------------------------------------------------------------------------
-- Statements
-----------------------------------------------------------------------------------------

/-- The number of the connection of an open session is the one of the job's first connection. -/
theorem Opened.openedSession {job : Job} (h : Opened start session job)
    : ∃ own, LocalExecutor.openedSession 0 session.handle job = (.ok own, job)
      ∧ own.connection = connection start := by
  obtain ⟨executor, own, hexecutors, hsessions, hconnection⟩ := h.executor
  have hsession : ((job.executors[0]?).getD ({} : LocalExecutor)).session? session.handle =
      some own := by
    rw [hexecutors]
    simp [LocalExecutor.session?, hsessions]
  exact ⟨own, LocalExecutor.openedSession_of_some hsession, hconnection⟩

/-- One more statement in the session leaves it open and guarded. -/
theorem Guarded.executed {job : Job} (h : Guarded start session job) (statement : String)
    : Guarded start session
        (Executor.counted (job.note (.execute (connection start) statement))) := by
  obtain ⟨database, statements, hevents, hcount⟩ := h.events
  refine { h with events := ⟨database, statements ++ [statement], ?_, ?_⟩ }
  · show (job.note _).sessionEvents = _
    rw [Job.sessionEvents_note rfl, hevents, openEvents, openEvents, List.map_append,
      List.map_singleton, List.cons_append]
  · show job.statements + 1 = _
    rw [hcount, List.length_append, List.length_singleton, Nat.add_assoc]

/-- A statement that meets no signal is one more of those that have met none. -/
theorem Unsignalled.succ {count : Nat} (h : Unsignalled start count)
    (hn : ∀ signal, start.database.reply count ≠ .signal signal)
    : Unsignalled start (count + 1) := by
  refine ⟨Nat.le_succ_of_le h.le, fun i hi hlt signal => ?_⟩
  rcases Nat.lt_succ_iff_lt_or_eq.mp hlt with hlt | rfl
  · exact h.ne_signal i hi hlt signal
  · exact hn signal

/-- A statement of the open session is executed on its connection, and a failure of the database is
told as one of the statement.
-/
theorem Opened.execute_apply {client : Client} (hc : client.session = session) {job : Job}
    (h : Opened start session job) (statement : List Char)
    : client.execute statement job =
        (Act.rescue FaultKind.isDatabase
          (fun fault => fail ((LocalExecutor.failure fault.message).because fault))
          (do
            record (.execute (connection start) (String.ofList statement))
            Executor.resultOf (← Executor.nextReply)) : Act StatementResult) job := by
  obtain ⟨own, hopened, hconnection⟩ := h.openedSession
  rw [Client.execute, hc, h.local_, Executor.execute, Executor.executeHere, bind_of_ok hopened,
    hconnection]

/-- Executing a statement uses the session, by what the database answers. -/
theorem Uses.execute (client : Client) (hc : client.session = session) (statement : List Char)
    : Uses start session (client.execute statement) := by
  intro job hl
  rw [hl.toOpened.execute_apply hc]
  by_cases hs : ∃ number, start.database.reply job.statements = .signal number
  · obtain ⟨number, hs⟩ := hs
    obtain ⟨fault, he, hf, hx, hended⟩ :=
      (hl.toGuarded.executed (String.ofList statement)).handleSignal number
    have hsent := Executor.send_of_signal Executor.resultOf
      (.execute (connection start) (String.ofList statement)) (hl.database_eq ▸ hs) he
    have hpassed : FaultKind.isDatabase fault.kind = false :=
      Fault.not_of_not_isFailure hf fun _ => FaultKind.isOrdinary_of_isDatabase
    rw [rescue_of_not_handled (by rw [hsent]) hpassed, hsent]
    exact Or.inr ⟨fault, job.statements, number, rfl, hf, hl.unsignalled, hs, hx, hended⟩
  · have hnone : ∀ number, start.database.reply job.statements ≠ .signal number :=
      fun number he => hs ⟨number, he⟩
    rw [rescue_job fun _ _ => rfl, Executor.send_job Executor.resultOf_job _
      (hl.database_eq ▸ hnone)]
    exact Or.inl ⟨hl.toGuarded.executed _, hl.unsignalled.succ hnone⟩

-----------------------------------------------------------------------------------------
-- The client
-----------------------------------------------------------------------------------------

section Client

variable {client : Client}

/-- A statement of a script uses the session. -/
theorem Uses.scriptStep (hc : client.session = session) (statement : List Char)
    : Uses start session (client.scriptStep statement) := by
  refine (Uses.of_keepsCore (Console.keepsCore_notice .out _)).bind fun _ => ?_
  refine (Uses.execute client hc statement).bind fun result => ?_
  exact (Uses.of_keepsCore result.keepsCore_shown).bind fun _ =>
    .of_keepsCore (Console.keepsCore_notice .out _)

/-- Running a script uses the session. -/
theorem Uses.executeFile (hc : client.session = session) (content : String)
    : Uses start session (client.executeFile content) :=
  client.executeFile_eq content ▸ Uses.forEach fun statement => Uses.scriptStep hc statement

/-- Submitting an update uses the session. -/
theorem Uses.submitUpdate (hc : client.session = session) (text : String)
    : Uses start session (client.submitUpdate text) := by
  have hrefused : Uses start session (do
      Client.showError Client.unsupportedUpdate
      return false) :=
    .of_keepsCore ((Console.keepsCore_notice .err _).bind fun _ => .pure false)
  rw [Client.submitUpdate]
  split
  · split
    · exact hrefused
    · refine (Uses.execute client hc _).bind_observe (fun result => ?_) fun fault job hf => ?_
      · refine Uses.of_keepsCore ?_
        cases result with
        | error fault =>
            dsimp only
            split
            · exact fun _ => rfl
            · exact (Console.keepsCore_notice .err _).bind fun _ => .pure false
        | ok result =>
            refine (Console.keepsCore_notice .out _).bind fun _ => ?_
            split
            · exact (Console.keepsCore_notice .out _).bind fun _ => .pure true
            · exact .pure true
      · have hpassed : Client.isStatementFault fault.kind = false :=
          Fault.not_of_not_isFailure hf fun kind hk => by
            rw [Client.isStatementFault, decide_eq_true_eq] at hk
            rw [hk]
            rfl
        refine ⟨job, ?_, fun _ h => h⟩
        dsimp only
        rw [hpassed]
        rfl
  · exact hrefused

/-- A statement of the shell uses the session. -/
theorem Uses.runStatement (hc : client.session = session) (statement : List Char)
    : Uses start session (client.runStatement statement) := by
  rw [Client.runStatement]
  split
  · exact .of_keepsCore (.pure false)
  · split
    · exact .of_keepsCore ((Console.keepsCore_notice .out _).bind fun _ => .pure true)
    · split
      · exact .of_keepsCore (client.keepsCore_showConfiguration.bind fun _ => .pure true)
      · have hsend : Uses start session (do (← client.execute statement).shown) :=
          (Uses.execute client hc statement).bind fun result =>
            .of_keepsCore result.keepsCore_shown
        refine (hsend.rescue (fun kind hk => ?_) fun fault => ?_).bind fun _ =>
          .of_keepsCore (.pure true)
        · rw [Client.isStatementFault, decide_eq_true_eq] at hk
          rw [hk]
          rfl
        · exact .of_keepsCore (Console.keepsCore_notice .err _)

/-- Statements of the shell use the session one after the other, by induction. -/
theorem Uses.runStatements (hc : client.session = session) (statements : List (List Char))
    : Uses start session (client.runStatements statements) := by
  induction statements with
  | nil => exact .of_keepsCore (.pure true)
  | cons statement rest ih =>
      refine (Uses.runStatement hc statement).bind fun stays => ?_
      split
      · exact ih
      · exact .of_keepsCore ((Console.keepsCore_notice .out _).bind fun _ => .pure false)

/-- Taking an answer leaves the session as it is, also if the client is closed meanwhile. -/
theorem preserves_receive (answer : Answer)
    : Preserves (Live start session) (Prompt.receive answer) := by
  cases answer with
  | line text => exact .pure text
  | nothing => exact .pure ""
  | fault fault => exact .fail fault
  | closing text => exact (preserves_clientClosed true).bind fun _ => .pure text

/-- The shell uses the session, by induction on the answers. -/
theorem Uses.runShell (hc : client.session = session) {ask : String → Act Unit}
    (ha : ∀ message, KeepsCore (ask message)) (answers : List Answer) (lines : List (List Char))
    : Uses start session (client.runShell ask answers lines) := by
  induction answers generalizing lines with
  | nil =>
      refine (Uses.of_keepsCore .state).bind fun job => ?_
      split
      · exact .of_keepsCore (.pure ())
      · exact .of_keepsCore ((ha _).bind fun _ => .pure ())
  | cons answer rest ih =>
      refine (Uses.of_keepsCore .state).bind fun job => ?_
      split
      · exact .of_keepsCore (.pure ())
      · refine (Uses.of_keepsCore (ha _)).bind fun _ => ?_
        refine (Uses.of_preserves (preserves_receive answer).observe).bind fun received => ?_
        cases received with
        | error fault =>
            dsimp only
            split
            · exact ih []
            · split
              · exact .of_keepsCore (.pure ())
              · exact .of_keepsCore (.fail fault)
        | ok line =>
            dsimp only
            split
            · exact ih lines
            · split
              · refine (Uses.runStatements hc _).bind fun stays => ?_
                split
                · exact ih []
                · exact .of_keepsCore (.pure ())
              · exact ih (lines ++ [line.toList])

/-- The interactive shell uses the session. -/
theorem Uses.openShell (hc : client.session = session) (answers : List Answer)
    : Uses start session (client.openShell answers) := by
  intro job hl
  have hready := hl.of_core (client.keepsCore_asking job)
  rw [Client.openShell]
  cases he : client.asking job with
  | mk result after =>
      rw [he] at hready
      cases result with
      | error fault =>
          rw [bind_of_error (by rw [he]), he]
          exact Or.inl hready
      | ok ask =>
          have ha := Client.asks_of_asking he
          have hshell : Uses start session (do
              Console.notice .out Client.welcomeNotice
              client.runShell ask answers []) :=
            (Uses.of_keepsCore (Console.keepsCore_notice .out _)).bind fun _ =>
              Uses.runShell hc ha.keepsCore answers []
          rw [bind_of_ok he]
          exact hshell after hready

end Client

-----------------------------------------------------------------------------------------
-- Modes
-----------------------------------------------------------------------------------------

/-- Closing the client never fails, and does not matter to a session that is live or has ended. -/
theorem close_client (start : Job) (client : Client) (job : Job)
    : ∃ after, client.close job = (.ok (), after)
        ∧ (∀ session, Live start session job → Live start session after)
        ∧ ∀ count, Ended start count job → Ended start count after := by
  cases hc : job.clientClosed with
  | true =>
      refine ⟨job, ?_, fun _ => id, fun _ => id⟩
      show (if !job.clientClosed then _ else pure () : Act Unit) job = _
      rw [hc]
      rfl
  | false =>
      generalize hj : ({ job with clientClosed := true } : Job) = closed
      have hcore : (closed.note
          (.log .debug ("Closed CLI client for session " ++ client.session.handle))).core =
            closed.core :=
        Job.core_note rfl
      refine ⟨closed.note (.log .debug ("Closed CLI client for session " ++ client.session.handle)),
        ?_, fun session hl => ?_, fun count he => ?_⟩
      · show (if !job.clientClosed then _ else pure () : Act Unit) job = _
        rw [hc, ← hj]
        rfl
      · refine Live.of_core hcore ?_
        rw [← hj]
        exact preserves_clientClosed true job hl
      · refine Ended.of_core hcore ?_
        rw [← hj]
        exact he.of_clientClosed true

/-- The front end that a client of the session is for a user who gives the answers. -/
def frontOf (client : Client) (answers : List Answer) : FrontEnd :=
  { enter := pure ()
    executeFile := client.executeFile
    submitUpdate := client.submitUpdate
    openShell := client.openShell answers
    leave := fun _ => do
      client.close
      return false }

/-- What is done in a front end that is left again uses the session. A fault passes the leaving, and
so does the request to stop of a signal.
-/
theorem Uses.within {client : Client} {answers : List Answer} {act : Act Unit}
    (h : Uses start session act)
    : Uses start session (Mode.within (frontOf client answers) act) := by
  have hclose : Preserves (Live start session) client.close := by
    intro job hl
    obtain ⟨after, he, hlive, _⟩ := close_client start client job
    rw [he]
    exact hlive session hl
  refine (Uses.of_keepsCore (.pure ())).bind fun _ => ?_
  refine h.bind_observe (fun result => ?_) fun fault job hf => ?_
  · have hleave : ∀ told, Preserves (Live start session) ((frontOf client answers).leave told) :=
      fun _ => hclose.bind fun _ => .pure false
    refine Uses.of_preserves ?_
    cases result with
    | ok _ => exact (hleave none).bind fun _ => .pure ()
    | error fault =>
        refine (hleave (some fault)).bind fun passes => ?_
        split
        · exact .fail fault
        · exact .pure ()
  · obtain ⟨after, he, _, hended⟩ := close_client start client job
    refine ⟨after, ?_, hended⟩
    have hleave : (frontOf client answers).leave (some fault) job = (.ok false, after) :=
      bind_of_ok he
    dsimp only
    rw [bind_of_ok hleave]
    rfl

theorem keepsCore_loadScript (locator : String)
    : KeepsCore (Mode.loadScript Mode.readLocal locator) := by
  refine KeepsCore.rescue ?_ fun fault => .fail _
  exact KeepsCore.state.bind fun job => (KeepsCore.ofResult _).bind fun _ => .pure _

/-- The mode that is selected uses the session. -/
theorem Uses.runSelected {client : Client} (hc : client.session = session) (answers : List Answer)
    (options : Options)
    : Uses start session
        (Mode.runSelected (frontOf client answers) Mode.readLocal options) := by
  rw [Mode.runSelected]
  split
  · refine (Uses.of_keepsCore (.log _ _)).bind fun _ => ?_
    refine (Uses.of_keepsCore (.ofResult _)).bind fun locator => ?_
    refine (Uses.of_keepsCore (keepsCore_loadScript locator)).bind fun content => ?_
    exact Uses.executeFile hc content
  · refine (Uses.of_keepsCore (.log _ _)).bind fun _ => ?_
    refine (Uses.of_keepsCore (.ofResult _)).bind fun text => ?_
    refine (Uses.submitUpdate hc text).bind fun accepted => ?_
    split
    · exact .of_keepsCore (.fail _)
    · exact .of_keepsCore (.pure ())
  · exact Uses.openShell hc answers

theorem keepsCore_historyPath (given : Option Setting) (home : Option Path) (windows : Option Bool)
    : KeepsCore (HistoryFile.path given home windows) := by
  cases given with
  | some setting => exact .ofResult _
  | none =>
      refine KeepsCore.state.bind fun job => ?_
      cases home with
      | some home => exact (KeepsCore.pure home).bind fun _ => .pure _
      | none => exact (KeepsCore.ofResult _).bind fun _ => .pure _

/-- A run of a mode uses the session. -/
theorem Uses.run (answers : List Answer) (options : Options)
    : Uses start session
        (Mode.run (FrontEnd.ofClient answers) Mode.readLocal none none session options) := by
  refine (Uses.of_keepsCore (keepsCore_historyPath _ _ _)).bind fun history => ?_
  cases options.conflicts with
  | cons conflict rest => exact .of_keepsCore (.pure _)
  | nil =>
      refine Uses.rescue ?_ (fun _ => FaultKind.isOrdinary_of_isClient)
        fun fault => .of_keepsCore (.pure _)
      show Uses start session (do
        change fun job => { job with clientClosed := false }
        Mode.within (frontOf { session, history } answers)
          (Mode.runSelected (frontOf { session, history } answers) Mode.readLocal options)
        return Outcome.success : Act Outcome)
      refine (Uses.of_preserves (preserves_clientClosed false)).bind fun _ => ?_
      have hc : ({ session, history } : Client).session = session := rfl
      exact (Uses.within (Uses.runSelected hc answers options)).bind fun _ =>
        .of_keepsCore (.pure _)

end Lifetime

end SqlShell
