import SqlShell.Program.Report
import SqlShell.Proofs.Job.Acts

/-! What is noted of a report where output is only noted: a failure, its hint and its cause are told
once each, after all that was noted before. Such a report never fails.
-/

namespace SqlShell

open Act

/-- Where output is only noted, and texts are escaped in one way, the act ends with the value and
does nothing but note the events.
-/
def Act.Notes {α : Type} (escaped : String → String) (act : Act α) (value : α)
    (events : List Event) : Prop :=
  ∀ job : Job, job.terminal = .noted → job.escaped = escaped →
    act job = (.ok value, job.noteAll events)

namespace Act.Notes

variable {α β : Type} {escaped : String → String}

theorem pure (value : α) : Notes escaped (pure value) value [] :=
  fun job _ _ => by rw [Job.noteAll, List.append_nil]; rfl

theorem record (event : Event) : Notes escaped (record event) () [event] :=
  fun _ _ _ => rfl

/-- The events of the second of two acts follow those of the first one. -/
theorem bind {act : Act α} {next : α → Act β} {value : α} {last : β} {events more : List Event}
    (h : Notes escaped act value events) (hn : Notes escaped (next value) last more)
    : Notes escaped (act >>= next) last (events ++ more) := by
  intro job hj he
  rw [bind_of_ok (h job hj he), hn (job.noteAll events) hj he, Job.noteAll, Job.noteAll,
    Job.noteAll, List.append_assoc]

theorem notice (stream : Stream) (text : String)
    : Notes escaped (Console.notice stream text) () [.notice stream text] := by
  intro job hj _
  rw [Console.notice, state_bind, Job.output, hj]
  rfl

theorem print (stream : Stream) (text : String)
    : Notes escaped (Console.print stream text) () [.markup stream text] := by
  intro job hj _
  rw [Console.print, state_bind, Job.output, hj]
  rfl

end Act.Notes

namespace Program

/-- The events that show a fault: its message, its hint unless that is empty, and its cause. -/
def shownEvents (escaped : String → String) (fault : Fault) : List Event :=
  [.markup .err ("[bold red]Error:[/bold red] " ++ escaped fault.message)]
    ++ (((fault.hint.filter fun hint => !hint.isEmpty).map fun hint =>
        .markup .err ("[yellow]Hint:[/yellow] " ++ escaped hint)).toList
      ++ (fault.causes.head?.map fun cause => .notice .err cause.causeLine).toList)

/-- The events that report a failure. -/
def failureEvents (escaped : String → String) (fault : Fault) : List Event :=
  [.notice .err "", .notice .err "", .log .error ("SQL Client must stop. " ++ fault.message),
    .log .debug "Failure details"] ++ shownEvents escaped fault

/-- The events that report a defect. -/
def defectEvents (escaped : String → String) (fault : Fault) : List Event :=
  [.notice .err "", .notice .err "",
    .log .error ("SQL Client must stop. " ++ Fault.unexpectedMessage)]
    ++ shownEvents escaped (Fault.unexpected.because fault)

variable {escaped : String → String}

/-- A hint is shown unless it is empty, and what follows is done in any case. -/
theorem notes_hint {next : Act Unit} {events : List Event} (hint : String)
    (h : Notes escaped next () events)
    : Notes escaped (do
        if !hint.isEmpty then
          Console.print .err ("[yellow]Hint:[/yellow] " ++ escaped hint)
        next) ()
        ((((some hint).filter fun hint => !hint.isEmpty).map fun hint =>
          .markup .err ("[yellow]Hint:[/yellow] " ++ escaped hint)).toList ++ events) := by
  rw [Option.filter_some]
  cases hint.isEmpty with
  | true => exact h
  | false => exact (Notes.print .err _).bind h

theorem notes_render (fault : Fault)
    : Notes escaped (render fault) () (shownEvents escaped fault) := by
  intro job hj he
  rw [render, state_bind, he]
  refine (Notes.print .err _).bind ?_ job hj he
  cases fault.causes with
  | nil =>
      cases fault.hint with
      | none => exact .pure ()
      | some hint => exact notes_hint hint (.pure ())
  | cons cause rest =>
      have hcause : Notes escaped (Console.notice .err cause.causeLine) ()
          [.notice .err cause.causeLine] :=
        .notice .err cause.causeLine
      cases fault.hint with
      | none => exact hcause
      | some hint => exact notes_hint hint hcause

theorem notes_makeSpace : Notes escaped makeSpace () [.notice .err "", .notice .err ""] :=
  (Notes.notice .err "").bind (.notice .err "")

/-- The report of a failure notes its events, and ends with its exit code. -/
theorem notes_reportFailure (fault : Fault)
    : Notes escaped (reportFailure fault) failureCode (failureEvents escaped fault) := by
  have hevents : failureEvents escaped fault = [.notice .err "", .notice .err ""]
      ++ ([.log .error ("SQL Client must stop. " ++ fault.message)]
        ++ ([.log .debug "Failure details"] ++ (shownEvents escaped fault ++ []))) := by
    rw [List.append_nil]
    rfl
  rw [hevents]
  exact notes_makeSpace.bind ((Notes.record _).bind ((Notes.record _).bind
    ((notes_render fault).bind (.pure _))))

/-- The report of a defect notes its events, and ends with its exit code. -/
theorem notes_reportDefect (fault : Fault)
    : Notes escaped (reportDefect fault) defectCode (defectEvents escaped fault) := by
  have hevents : defectEvents escaped fault = [.notice .err "", .notice .err ""]
      ++ ([.log .error ("SQL Client must stop. " ++ Fault.unexpectedMessage)]
        ++ (shownEvents escaped (Fault.unexpected.because fault) ++ [])) := by
    rw [List.append_nil]
    rfl
  rw [hevents]
  exact notes_makeSpace.bind ((Notes.record _).bind ((notes_render _).bind (.pure _)))

end Program

end SqlShell
