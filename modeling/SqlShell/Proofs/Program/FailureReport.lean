import Mathlib
import SqlShell.Proofs.Display.AlteredText
import SqlShell.Proofs.Display.Layout
import SqlShell.Proofs.Program.Reporting

/-! What a terminal shows of a report. The message of a failure and its hint are escaped, and come
out in parts of which some may be altered; a report is cut short only if one of its lines cannot be
laid out.
-/

namespace SqlShell

open Act Display

-----------------------------------------------------------------------------------------
-- Acts that show lines
-----------------------------------------------------------------------------------------

/-- On a terminal the act shows the lines. If all of them can be laid out it ends with the value and
does nothing but note the events, and otherwise a text that cannot be cut ends it.
-/
def Act.ShowsOn {α : Type} (columns : Nat) (act : Act α) (value : α) (lines : List Styled)
    (events : List Event) : Prop :=
  ∀ job : Job, job.output = .laidOut columns → job.lacks "markup" = false →
    ((∀ line ∈ lines, FitsOn columns line) → act job = (.ok value, job.noteAll events))
    ∧ ((¬ ∀ line ∈ lines, FitsOn columns line) →
        ∃ problem, (act job).1 = .error (cutFault problem))

namespace Act.ShowsOn

variable {α β : Type} {columns : Nat}

theorem pure (value : α) : ShowsOn columns (pure value) value [] [] := by
  refine fun job _ _ => ⟨fun _ => ?_, fun hn => absurd nofun hn⟩
  rw [Job.noteAll, List.append_nil]
  rfl

theorem record (event : Event) : ShowsOn columns (record event) () [] [event] :=
  fun _ _ _ => ⟨fun _ => rfl, fun hn => absurd nofun hn⟩

/-- The lines of the second of two acts follow those of the first one, and so do its events. -/
theorem bind {act : Act α} {next : α → Act β} {value : α} {last : β} {lines others : List Styled}
    {events more : List Event} (h : ShowsOn columns act value lines events)
    (hn : ShowsOn columns (next value) last others more)
    : ShowsOn columns (act >>= next) last (lines ++ others) (events ++ more) := by
  intro job ho hm
  rw [List.forall_mem_append]
  obtain ⟨hfit, hcut⟩ := h job ho hm
  by_cases hl : ∀ line ∈ lines, FitsOn columns line
  · obtain ⟨hnext, hlast⟩ := hn (job.noteAll events) ho hm
    rw [bind_of_ok (hfit hl), and_iff_right hl]
    refine ⟨fun hall => ?_, hlast⟩
    rw [hnext hall, Job.noteAll, Job.noteAll, Job.noteAll, List.append_assoc]
  · obtain ⟨problem, hp⟩ := hcut hl
    exact ⟨fun hall => absurd hall.1 hl, fun _ => ⟨problem, by rw [bind_of_error hp]⟩⟩

/-- Showing a text whose styles can be read fails only if it cannot be cut. -/
theorem display (stream : Stream) {text : Styled} (h : text.Holds (fun _ => True) IsReadable)
    : ShowsOn columns (Console.display stream (onTerminal columns text)) () [text]
        [.shownOn columns stream text] := by
  intro job _ _
  rw [List.forall_mem_singleton]
  refine ⟨fun hfit => Console.display_of_fitsOn hfit stream job, fun hn => ?_⟩
  rcases hw : onTerminal columns text with problem | ⟨shown, _ | problem⟩
  · obtain ⟨cut, rfl⟩ := exists_of_onTerminal_eq_error h hw
    exact ⟨cut, rfl⟩
  · exact absurd ⟨_, hw, rfl⟩ hn
  · exact ⟨problem, rfl⟩

end Act.ShowsOn

-----------------------------------------------------------------------------------------
-- Labels
-----------------------------------------------------------------------------------------

namespace Program

open Markup

/-- What stands before an escaped text in a report, and its style. -/
structure Label where
  text : String
  style : String

/-- The markup of a label, which ends in a space. -/
def Label.markup (label : Label) : String :=
  "[" ++ label.style ++ "]" ++ label.text ++ "[/" ++ label.style ++ "] "

/-- The label of a message. -/
def errorLabel : Label := ⟨"Error:", "bold red"⟩

/-- The label of a hint. -/
def hintLabel : Label := ⟨"Hint:", "yellow"⟩

/-- A line shows a text after a label. The text is completed and comes in parts, which are cut at
its tags, and the line has all of it exactly if nothing is altered in any part.
-/
structure Label.Shows (label : Label) (text : String) (line : Styled) (parts : List (List Char))
    : Prop where
  cut : CutAtTags (' ' :: completed text.toList) parts
  line_eq : line =
    ⟨label.text.toList ++ parts.flatMap shownPart, [⟨0, label.text.length, label.style.toList⟩]⟩
  whole_iff : line.text = label.text.toList ++ ' ' :: completed text.toList ↔
    ∀ part ∈ parts, IsKept part

/-- The text after a label as it is printed. -/
def Label.before (label : Label) (text : String) : String :=
  label.markup ++ String.ofList (escape text.toList)

theorem isReadable_of_isOk {style : List Char}
    (h : (Style.ofWords? {} (Style.wordsOf style)).isOk = true)
    : IsReadable style := by
  cases hs : Style.ofWords? {} (Style.wordsOf style) with
  | ok found => exact ⟨found, hs⟩
  | error problem => rw [hs] at h; exact nomatch h

/-- A text after a label is shown in one line if the label is read as one. -/
theorem exists_shows {label : Label} {heading : List Piece} {position : Nat}
    (hp : ∀ rest, pieces (label.markup.toList ++ rest) =
      heading ++ piecesFrom [' '] position 0 0 rest)
    (hr : heading.foldlM Reading.add {} = .ok {
      text := label.text.toList, spans := [⟨0, label.text.length, label.style.toList⟩] })
    (hs : IsReadable label.style.toList) (columns : Nat) (text : String)
    : ∃ line parts, label.Shows text line parts
        ∧ ShowsOn columns (Console.print .err (label.before text)) () [line]
            [.shownOn columns .err line] := by
  obtain ⟨parts, hcut, hrender⟩ := render_escape hp hr text.toList
  refine ⟨_, parts, ⟨hcut, rfl, ?_⟩, fun job ho hm => ?_⟩
  · show label.text.toList ++ parts.flatMap shownPart = _ ↔ _
    rw [← hcut.flatten, List.append_cancel_left_eq, flatMap_shownPart_eq_iff]
  · have hread : ∀ span ∈ [(⟨0, label.text.length, label.style.toList⟩ : Span)],
        IsReadable span.style := by
      simpa using hs
    have hprint : Console.print .err (label.before text) job =
        Console.display .err (onTerminal columns
          ⟨label.text.toList ++ parts.flatMap shownPart,
            [⟨0, label.text.length, label.style.toList⟩]⟩) job := by
      rw [Console.print, state_bind, ho, Label.before, String.toList_append, String.toList_ofList,
        hrender]
      rfl
    rw [hprint]
    exact ShowsOn.display .err ⟨fun _ _ => trivial, hread⟩ job ho hm

theorem isReadable_error : IsReadable errorLabel.style.toList :=
  isReadable_of_isOk (by decide +kernel)

theorem isReadable_hint : IsReadable hintLabel.style.toList :=
  isReadable_of_isOk (by decide +kernel)

/-- The style of a line with a label is that of the label. -/
theorem Label.Shows.styles {label : Label} (hs : IsReadable label.style.toList) {text : String}
    {line : Styled} {parts : List (List Char)} (h : label.Shows text line parts)
    : ∀ span ∈ line.spans, IsReadable span.style := by
  rw [h.line_eq]
  simpa using hs

theorem exists_shows_error (columns : Nat) (message : String)
    : ∃ line parts, errorLabel.Shows message line parts
        ∧ ShowsOn columns (Console.print .err (errorLabel.before message)) () [line]
            [.shownOn columns .err line] := by
  have hmarkup : errorLabel.markup = "[bold red]Error:[/bold red] " := by decide +kernel
  refine @exists_shows errorLabel [.text [], .text [], .tag "bold red".toList 0,
    .text "Error:".toList, .text [], .tag "/bold red".toList 16] 28 ?_ ?_ ?_ columns message
  · rw [hmarkup]
    exact fun _ => rfl
  · cbv
  · exact isReadable_error

theorem exists_shows_hint (columns : Nat) (hint : String)
    : ∃ line parts, hintLabel.Shows hint line parts
        ∧ ShowsOn columns (Console.print .err (hintLabel.before hint)) () [line]
            [.shownOn columns .err line] := by
  have hmarkup : hintLabel.markup = "[yellow]Hint:[/yellow] " := by decide +kernel
  refine @exists_shows hintLabel [.text [], .text [], .tag "yellow".toList 0,
    .text "Hint:".toList, .text [], .tag "/yellow".toList 13] 23 ?_ ?_ ?_ columns hint
  · rw [hmarkup]
    exact fun _ => rfl
  · cbv
  · exact isReadable_hint

-----------------------------------------------------------------------------------------
-- Reports
-----------------------------------------------------------------------------------------

/-- A line shows a text without reading markup. It has all of it exactly if the text names no emoji
and has no character that is not shown.
-/
structure IsNotice (text : String) (line : Styled) : Prop where
  line_eq : line = .plain (Emoji.replaceNames text.toList)
  whole_iff : line.text = text.toList ↔
    Emoji.replaceNames text.toList = text.toList ∧ ∀ c ∈ text.toList, isControl c = false

theorem isNotice_plain (text : String)
    : IsNotice text (.plain (Emoji.replaceNames text.toList)) := by
  refine ⟨rfl, (Emoji.loses_replaceNames.comp_eq_iff loses_plain text.toList).trans ?_⟩
  rw [plain_eq_self_iff]

/-- What a report shows of a fault: a line for its message, one for its hint unless that is empty,
and one for its cause.
-/
structure Rendering (fault : Fault) where
  error : Styled
  hints : List Styled
  causes : List Styled
  shows_error : ∃ parts, errorLabel.Shows fault.message error parts
  shows_hints : List.Forall₂ (fun hint line => ∃ parts, hintLabel.Shows hint line parts)
    (fault.hint.filter fun hint => !hint.isEmpty).toList hints
  shows_causes : List.Forall₂ (fun cause line => IsNotice cause.causeLine line)
    fault.causes.head?.toList causes

namespace Rendering

variable {fault : Fault}

/-- The lines of a report. -/
def lines (rendering : Rendering fault) : List Styled :=
  rendering.error :: (rendering.hints ++ rendering.causes)

/-- The events of a report whose lines can all be laid out. -/
def events (columns : Nat) (rendering : Rendering fault) : List Event :=
  [.shownOn columns .err (.plain []), .shownOn columns .err (.plain []),
    .log .error ("SQL Client must stop. " ++ fault.message), .log .debug "Failure details"]
    ++ rendering.lines.map (Event.shownOn columns .err)

/-- The styles of all lines can be read. -/
theorem styles (rendering : Rendering fault)
    : ∀ line ∈ rendering.lines, ∀ span ∈ line.spans, IsReadable span.style := by
  refine List.forall_mem_cons.mpr ⟨?_, List.forall_mem_append.mpr ⟨?_, ?_⟩⟩
  · obtain ⟨parts, hshows⟩ := rendering.shows_error
    exact hshows.styles isReadable_error
  · refine forall_of_forall₂ rendering.shows_hints ?_
    rintro hint - line ⟨parts, hshows⟩
    exact hshows.styles isReadable_hint
  · refine forall_of_forall₂ rendering.shows_causes fun cause _ line hnotice => ?_
    rw [hnotice.line_eq]
    exact fun _ hs => absurd hs List.not_mem_nil

end Rendering

variable {columns : Nat}

theorem showsOn_notice (columns : Nat) (stream : Stream) (text : String)
    : ShowsOn columns (Console.notice stream text) () [.plain (Emoji.replaceNames text.toList)]
        [.shownOn columns stream (.plain (Emoji.replaceNames text.toList))] := by
  intro job ho hm
  rw [Console.notice, state_bind, ho]
  exact ShowsOn.display stream ⟨fun _ _ => trivial, fun _ hs => absurd hs List.not_mem_nil⟩ job ho hm

/-- The cause of a fault is shown if there is one. -/
theorem exists_shows_causes (columns : Nat) (fault : Fault)
    : ∃ lines, List.Forall₂ (fun cause line => IsNotice cause.causeLine line)
          fault.causes.head?.toList lines
        ∧ ShowsOn columns (match fault.causes with
            | cause :: _ => Console.notice .err cause.causeLine
            | [] => pure ()) () lines (lines.map (Event.shownOn columns .err)) := by
  cases fault.causes with
  | nil => exact ⟨[], .nil, .pure ()⟩
  | cons cause rest =>
      exact ⟨_, .cons (isNotice_plain cause.causeLine) .nil, showsOn_notice columns .err _⟩

/-- A hint is shown unless it is empty, and what follows is done in any case. -/
theorem exists_shows_hints (fault : Fault) {next : Act Unit} {others : List Styled}
    {more : List Event} (h : ShowsOn columns next () others more)
    : ∃ lines, List.Forall₂ (fun hint line => ∃ parts, hintLabel.Shows hint line parts)
          (fault.hint.filter fun hint => !hint.isEmpty).toList lines
        ∧ ShowsOn columns (do
            match fault.hint with
            | some hint =>
                if !hint.isEmpty then
                  Console.print .err (hintLabel.before hint)
            | none => pure ()
            next) () (lines ++ others) (lines.map (Event.shownOn columns .err) ++ more) := by
  cases fault.hint with
  | none => exact ⟨[], .nil, h⟩
  | some hint =>
      rw [Option.filter_some]
      dsimp only
      cases hint.isEmpty with
      | true => exact ⟨[], .nil, h⟩
      | false =>
          obtain ⟨line, parts, hshows, hprint⟩ := exists_shows_hint columns hint
          exact ⟨[line], .cons ⟨parts, hshows⟩ .nil, hprint.bind h⟩

/-- A fault is shown in the lines of a rendering of it. -/
theorem exists_render (columns : Nat) (fault : Fault)
    : ∃ rendering : Rendering fault,
        ShowsOn columns (render fault) () rendering.lines
          (rendering.lines.map (Event.shownOn columns .err)) := by
  obtain ⟨error, parts, herror, hprint⟩ := exists_shows_error columns fault.message
  obtain ⟨causes, hcauses, hlast⟩ := exists_shows_causes columns fault
  obtain ⟨hints, hhints, hnext⟩ := exists_shows_hints fault hlast
  refine ⟨⟨error, hints, causes, ⟨parts, herror⟩, hhints, hcauses⟩, fun job ho hm => ?_⟩
  have hescaped : job.escaped = fun text => String.ofList (escape text.toList) := by
    funext text
    rw [Job.escaped, if_neg (by rw [hm]; decide)]
  rw [render, state_bind, hescaped]
  have hall : ShowsOn columns (Console.print .err (errorLabel.before fault.message) >>= fun _ => _)
      () _ _ :=
    hprint.bind hnext
  rw [← List.map_append] at hall
  exact hall job ho hm

theorem showsOn_makeSpace (columns : Nat)
    : ShowsOn columns makeSpace () [.plain [], .plain []]
        [.shownOn columns .err (.plain []), .shownOn columns .err (.plain [])] :=
  (showsOn_notice columns .err "").bind (showsOn_notice columns .err "")

/-- On a terminal a failure is reported in the lines of a rendering of it. If all of them can be
laid out, as those without joiners can, the report ends with its exit code; otherwise a line that
cannot be cut ends it.
-/
theorem reportFailure_onTerminal {job : Job} (ho : job.output = .laidOut columns)
    (hm : job.lacks "markup" = false) (fault : Fault)
    : ∃ rendering : Rendering fault,
        ((∀ line ∈ rendering.lines, FitsOn columns line) →
          reportFailure fault job = (.ok failureCode, job.noteAll (rendering.events columns)))
        ∧ ((¬ ∀ line ∈ rendering.lines, FitsOn columns line) →
            ∃ problem, (reportFailure fault job).1 = .error (cutFault problem))
        ∧ ∀ line ∈ rendering.lines, Text.joiner ∉ line.text → FitsOn columns line := by
  obtain ⟨rendering, hrender⟩ := exists_render columns fault
  have hblank : ∀ line ∈ [Styled.plain [], .plain []], FitsOn columns line := by
    intro line hl
    have hplain : (Styled.plain []).IsPlain :=
      ⟨fun _ hc => absurd hc List.not_mem_nil, fun _ hs => absurd hs List.not_mem_nil⟩
    obtain rfl : line = .plain [] := by simpa using hl
    exact hplain.fitsOn columns
  have hreport : ShowsOn columns (reportFailure fault) failureCode _ _ :=
    (showsOn_makeSpace columns).bind ((ShowsOn.record _).bind ((ShowsOn.record _).bind
      (hrender.bind (ShowsOn.pure failureCode))))
  have hevents : rendering.events columns =
      [.shownOn columns .err (.plain []), .shownOn columns .err (.plain [])]
        ++ ([.log .error ("SQL Client must stop. " ++ fault.message)]
          ++ ([.log .debug "Failure details"]
            ++ rendering.lines.map (Event.shownOn columns .err))) := by
    simp only [Rendering.events, List.cons_append, List.nil_append]
  rw [List.append_nil, List.append_nil, List.nil_append, List.nil_append, ← hevents] at hreport
  obtain ⟨hfit, hcut⟩ := hreport job ho hm
  rw [List.forall_mem_append, and_iff_right hblank] at hfit hcut
  refine ⟨rendering, hfit, hcut, fun line hl hj => Styled.IsPlain.fitsOn ⟨?_, ?_⟩ columns⟩
  · rintro c hc rfl
    exact hj hc
  · exact rendering.styles line hl

/-- A failure of which each line has something that looks like markup. -/
def missingFile : Fault :=
  (Fault.client .environmentRead "No [b]" "Try [/b]\\").because
    { kind := .system .notFound, message := "[b]:tada:[/b]" }

theorem reportFailure_onTerminal_of_missing
    : ({ terminal := .laidOut 80 } : Job).output = .laidOut 80
        ∧ ({ terminal := .laidOut 80 } : Job).lacks "markup" = false
        ∧ ∃ rendering : Rendering missingFile,
          ((∀ line ∈ rendering.lines, FitsOn 80 line) →
            reportFailure missingFile { terminal := .laidOut 80 } =
              (.ok failureCode, Job.noteAll { terminal := .laidOut 80 } (rendering.events 80)))
          ∧ ((¬ ∀ line ∈ rendering.lines, FitsOn 80 line) →
              ∃ problem, (reportFailure missingFile { terminal := .laidOut 80 }).1 =
                .error (cutFault problem))
          ∧ ∀ line ∈ rendering.lines, Text.joiner ∉ line.text → FitsOn 80 line :=
  ⟨rfl, rfl, reportFailure_onTerminal rfl rfl missingFile⟩

/-- A backslash before a bracket that starts no tag is not shown. -/
theorem reportFailure_hides_backslash
    : (reportFailure (Fault.client .environmentRead "a\\[1]")
          { terminal := .laidOut 80 }).2.trace[4]? = some (.written .err "Error: a[1]\n")
        ∧ "Error: a[1]\n" ≠ "Error: a\\[1]\n" := by
  refine ⟨?_, by decide +kernel⟩
  cbv

end Program

end SqlShell
