import Mathlib.Data.List.Basic
import SqlShell.Program.Report
import SqlShell.Proofs.Session.SessionOpening

/-! A run of the program opens at most one session, and whatever happens in it, that session is
closed once: by the mode's own end or by the hook that a signal runs first. Later runs of the hooks
find nothing to close.
-/

namespace SqlShell.Lifetime

open Act

variable {start : Job} {α β : Type}

/-- No session is open and no statement has met a signal: there was no connection, or its session
has been closed.
-/
def Settled (start : Job) (job : Job) : Prop :=
  (∃ count, Rests [] count job) ∨ ∃ count, Unsignalled start count ∧ Ended start count job

/-- What comes of a run: a signal has struck, or everything has been settled. -/
def Finished (start : Job) (result : Except Fault α) (job : Job) : Prop :=
  Struck start result job ∨ Settled start job

/-- What is settled stays so while the core of the state is the same. -/
theorem Settled.of_core {job after : Job} (hc : after.core = job.core) (h : Settled start job)
    : Settled start after := by
  rcases h with ⟨count, hr⟩ | ⟨count, hu, he⟩
  · exact Or.inl ⟨count, hr.of_core hc⟩
  · exact Or.inr ⟨count, hu, he.of_core hc⟩

/-- An act that keeps the core leaves everything settled. -/
theorem Settled.keepsCore {act : Act α} (h : KeepsCore act) : Preserves (Settled start) act :=
  h.preserves fun _ _ => Settled.of_core

/-- Nothing is open in a job in which nothing has been done. -/
theorem Fresh.settled (h : Fresh start) : Settled start start := by
  refine Or.inl ⟨start.statements, h.events_eq, rfl, ?_, ?_⟩
  · simp [h.executors_eq]
  · simp [h.hooks_eq]

/-- Where no connection has been made nothing is open. -/
theorem Idle.settled {job : Job} (h : Idle start job) : Settled start job := by
  obtain ⟨executor, he, hs⟩ := h.executor
  refine Or.inl ⟨job.statements, h.events_eq, rfl, ?_, ?_⟩
  · simp [he, hs]
  · simp [h.hooks_eq]

-----------------------------------------------------------------------------------------
-- The session of a run
-----------------------------------------------------------------------------------------

/-- A session that is used and then closed has ended, whether or not a signal strikes. After a
signal nothing is left to close, and the run ends as the signal asks.
-/
theorem finished_of_uses {session : Session} {act : Act α} {job : Job}
    (h : Uses start session act) (hl : Live start session job)
    : Finished start (act.andFinally session.close job).1
        (act.andFinally session.close job).2 := by
  rcases h job hl with hlive | hstruck
  · refine Or.inr (Or.inr ⟨(act job).2.statements, hlive.unsignalled, ?_⟩)
    rw [andFinally_job]
    exact hlive.toOpened.close.1
  · obtain ⟨fault, count, signal, he, hf, hu, hr, hx, database, statements, hended, hn⟩ := hstruck
    have hclose := hended.close_apply hl.local_
    rw [andFinally_apply, hclose]
    exact Or.inl ⟨fault, count, signal, he, hf, hu, hr, hx, database, statements,
      hended.of_core (Job.core_note rfl), hn⟩

/-- A session that has been opened is guarded before it is used, so that the run finishes. -/
theorem finished_of_unguarded {session : Session} {job : Job} (h : Unguarded start session job)
    (options : Options) (answers : List Answer)
    : let use : Act Outcome := do
        let _ ← Shutdown.register .standard session .user
        Mode.run (FrontEnd.ofClient answers) Mode.readLocal none none session options
      Finished start (use.andFinally session.close job).1
        (use.andFinally session.close job).2 := by
  intro use
  obtain ⟨hook, after, hr, hl⟩ := live_register h
  rw [andFinally_of_eq (bind_of_ok hr)]
  exact finished_of_uses (Uses.run answers options) hl

/-- The mode that runs a session finishes, by what comes of opening that session. -/
theorem finished_runEmbedded (h : Fresh start) (options : Options) (answers : List Answer)
    : Finished start (Program.runEmbedded options answers start).1
        (Program.runEmbedded options answers start).2 := by
  rw [Program.runEmbedded]
  cases options.conflicts with
  | cons conflict rest => exact Or.inr h.settled
  | nil =>
      have hopen := opensOrIdle_openWith h options
      cases he : Session.openWith Session.makeLocal Session.readLocal .user options start with
      | mk result opened =>
          rw [he] at hopen
          have hobserved : (Session.openWith Session.makeLocal Session.readLocal .user
              options).observe start = (.ok result, opened) := by
            rw [observe, he]
          dsimp only
          rw [bind_of_ok hobserved]
          cases result with
          | error fault =>
              refine Or.inr (Settled.keepsCore ?_ _ (Idle.settled hopen))
              dsimp only
              split
              · exact .pure _
              · exact .fail _
          | ok session => exact finished_of_unguarded hopen options answers

theorem keepsCore_showUsage : KeepsCore Program.showUsage :=
  KeepsCore.state.bind fun _ => Console.keepsCore_notice .out _

theorem keepsCore_showEmbeddedUsage : KeepsCore Program.showEmbeddedUsage :=
  KeepsCore.state.bind fun _ => Console.keepsCore_notice .out _

/-- Every use of the arguments finishes, by the mode that they name. -/
theorem finished_dispatch (h : Fresh start) (arguments : List String) (answers : List Answer)
    : Finished start (Program.dispatch arguments answers start).1
        (Program.dispatch arguments answers start).2 := by
  have hshown : ∀ {act : Act Outcome}, KeepsCore act →
      Finished start (act start).1 (act start).2 :=
    fun hk => Or.inr (Settled.keepsCore hk start h.settled)
  have husage : KeepsCore (do
      Program.showUsage
      return Outcome.success : Act Outcome) :=
    keepsCore_showUsage.bind fun _ => .pure _
  cases arguments with
  | nil => exact hshown husage
  | cons mode rest =>
      rw [Program.dispatch]
      split
      · cases CommandLine.parse rest with
        | error problem => exact hshown (.pure _)
        | ok options =>
            dsimp only
            split
            · exact hshown (keepsCore_showEmbeddedUsage.bind fun _ => .pure _)
            · exact finished_runEmbedded h options answers
      · split
        · exact hshown (.pure _)
        · exact hshown husage

-----------------------------------------------------------------------------------------
-- Reports
-----------------------------------------------------------------------------------------

theorem keepsCore_render (fault : Fault) : KeepsCore (Program.render fault) := by
  refine KeepsCore.state.bind fun job => (Console.keepsCore_print .err _).bind fun _ => ?_
  have hhint : ∀ {hint : String} {next : Act Unit}, KeepsCore next → KeepsCore (do
      if !hint.isEmpty then
        Console.print .err ("[yellow]Hint:[/yellow] " ++ job.escaped hint)
      next) := by
    intro hint next hn
    split
    · exact (Console.keepsCore_print .err _).bind fun _ => hn
    · exact hn
  cases fault.causes with
  | nil =>
      cases fault.hint with
      | none => exact .pure ()
      | some hint => exact hhint (.pure ())
  | cons cause rest =>
      have hcause : KeepsCore (Console.notice .err cause.causeLine) :=
        Console.keepsCore_notice .err _
      cases fault.hint with
      | none => exact hcause
      | some hint => exact hhint hcause

theorem keepsCore_makeSpace : KeepsCore Program.makeSpace :=
  (Console.keepsCore_notice .err "").bind fun _ => Console.keepsCore_notice .err ""

theorem keepsCore_reportFailure (fault : Fault) : KeepsCore (Program.reportFailure fault) :=
  keepsCore_makeSpace.bind fun _ => (KeepsCore.log _ _).bind fun _ =>
    (KeepsCore.log _ _).bind fun _ => (keepsCore_render fault).bind fun _ => .pure _

theorem keepsCore_reportDefect (fault : Fault) : KeepsCore (Program.reportDefect fault) :=
  keepsCore_makeSpace.bind fun _ => (KeepsCore.log _ _).bind fun _ =>
    (keepsCore_render _).bind fun _ => .pure _

/-- Reporting what a run ended in keeps the core as the run leaves it. -/
theorem core_exitCode (run : Act Outcome) (job : Job)
    : (Program.exitCode run job).2.core = (run job).2.core := by
  refine @core_bind _ _ run.observe _ (fun result => ?_) job
  cases result with
  | ok outcome =>
      cases outcome with
      | success => exact .pure _
      | failure fault => exact keepsCore_reportFailure fault
  | error fault =>
      dsimp only
      split
      · exact keepsCore_reportDefect fault
      · exact .fail fault

/-- A run finishes as its arguments ask; the request to stop of a signal passes all reports. -/
theorem finished_run (h : Fresh start) (arguments : List String) (answers : List Answer)
    : Finished start (Program.run arguments answers start).1
        (Program.run arguments answers start).2 := by
  have hdispatched := finished_dispatch h arguments answers
  have hcore := core_exitCode (Program.dispatch arguments answers) start
  rcases hdispatched with ⟨fault, count, signal, he, hf, hrest⟩ | hsettled
  · have hobserved : (Program.dispatch arguments answers).observe start =
        (.ok (.error fault), (Program.dispatch arguments answers start).2) := by
      rw [observe, ← he]
    have hpassed : fault.kind.isOrdinary = false := eq_false_of_ne_true hf
    rw [Program.run, Program.exitCode, bind_of_ok hobserved]
    dsimp only
    rw [hpassed]
    exact Or.inl ⟨fault, count, signal, rfl, hf, hrest⟩
  · exact Or.inr (hsettled.of_core hcore)

-----------------------------------------------------------------------------------------
-- Later runs of the hooks
-----------------------------------------------------------------------------------------

/-- The state after the hooks have run a number of times, whether or not these runs fail. -/
def afterHooks : Nat → Job → Job
  | 0, job => job
  | rounds + 1, job => afterHooks rounds (Shutdown.runHooks Shutdown.call .standard job).2

/-- Later runs of the hooks find nothing to close, by induction on the runs. -/
theorem Rests.afterHooks {events : List Event} {count : Nat} {job : Job}
    (h : Rests events count job) (rounds : Nat)
    : Rests events count (afterHooks rounds job) := by
  induction rounds generalizing job with
  | zero => exact h
  | succ rounds ih => exact ih (Rests.runHooks .standard job h)

/-- A signal strikes during a statement that is executed in the run: it is the last one, and the run
ends as the signal asks if the database closes the session in an ordinary way.
-/
def EndsAtSignals (start : Job) (statements : List String) (result : Except Fault Nat) : Prop :=
  ∀ i signal, i < statements.length →
    start.database.reply (start.statements + i) = .signal signal →
    i + 1 = statements.length
      ∧ (ClosesOrdinarily start →
        result = .error { kind := .exit, message := toString (128 + signal) })

/-- In a job in which nothing has been done, a run for any arguments and answers that is followed by
any number of runs of the hooks touches no session, or connects once, executes statements in that
session only and disconnects it once. A signal during one of them is the end of the run.
-/
theorem session_torn_down_once {start : Job} (h : Fresh start) (arguments : List String)
    (answers : List Answer) (rounds : Nat)
    : (afterHooks rounds (Program.run arguments answers start).2).sessionEvents = []
      ∨ ∃ database statements,
        (afterHooks rounds (Program.run arguments answers start).2).sessionEvents =
          .connect database (some (start.connections + 1))
            :: statements.map (.execute (start.connections + 1))
            ++ [.disconnect (start.connections + 1)]
        ∧ EndsAtSignals start statements (Program.run arguments answers start).1 := by
  rcases finished_run h arguments answers with hstruck | ⟨count, hr⟩ | ⟨count, hu, hended⟩
  · obtain ⟨fault, count, signal, he, hf, hu, hr, hx, database, statements, hrests, hn⟩ := hstruck
    refine Or.inr ⟨database, statements, (hrests.afterHooks rounds).events_eq, ?_⟩
    intro i other hi hother
    have hle : start.statements + i ≤ count := by omega
    rcases Nat.lt_or_eq_of_le hle with hlt | heq
    · exact absurd hother (hu.ne_signal _ (Nat.le_add_right _ _) hlt other)
    · rw [heq, hr] at hother
      obtain rfl := Reply.signal.inj hother
      exact ⟨by omega, fun hc => he.trans (congrArg Except.error (hx hc))⟩
  · exact Or.inl (hr.afterHooks rounds).events_eq
  · obtain ⟨database, statements, hrests, hn⟩ := hended
    refine Or.inr ⟨database, statements, (hrests.afterHooks rounds).events_eq, ?_⟩
    intro i signal hi hs
    exact absurd hs (hu.ne_signal _ (Nat.le_add_right _ _) (hn ▸ Nat.add_lt_add_left hi _) signal)

/-- A job that is asked to stop by signal 15 during its second statement. -/
def stoppedJob : Job :=
  { database := { reply := fun number => if number = 1 then .signal 15 else .nothing } }

/-- A shell that is given three statements executes two of them before it is stopped, and the
session is closed once although the hooks run twice more.
-/
theorem session_torn_down_once_when_stopped
    : Fresh stoppedJob
      ∧ (Program.run ["embedded"] [.line "A;", .line "B;", .line "C;"] stoppedJob).1 =
        .error { kind := .exit, message := toString (128 + 15) }
      ∧ ∃ database first second, (afterHooks 2
          (Program.run ["embedded"] [.line "A;", .line "B;", .line "C;"] stoppedJob).2
          ).sessionEvents =
        [.connect database (some 1), .execute 1 first, .execute 1 second, .disconnect 1] := by
  have hfresh : Fresh stoppedJob := ⟨rfl, rfl, rfl, rfl⟩
  have hlength : (afterHooks 2 (Program.run ["embedded"] [.line "A;", .line "B;", .line "C;"]
      stoppedJob).2).sessionEvents.length = 4 := by
    decide +kernel
  refine ⟨hfresh, ?_⟩
  rcases session_torn_down_once hfresh ["embedded"] [.line "A;", .line "B;", .line "C;"] 2
    with hnone | ⟨database, statements, he, hs⟩
  · rw [hnone] at hlength
    exact nomatch hlength
  · rw [he] at hlength
    have htwo : statements.length = 2 := by simpa using hlength
    obtain ⟨first, second, rfl⟩ := List.length_eq_two.mp htwo
    obtain ⟨_, hstopped⟩ := hs 1 15 Nat.one_lt_two rfl
    exact ⟨hstopped (fun _ => nofun), database, first, second, he⟩

end SqlShell.Lifetime
