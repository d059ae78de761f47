import Mathlib.Algebra.Group.Int.Defs
import SqlShell.Client.Result
import SqlShell.Proofs.Display.Layout
import SqlShell.Proofs.Job.CoreState
import SqlShell.Session.HistoryFile

/-! The scene of a job: how output reaches the user, which libraries are missing, and the files, the
network and the variables around it. Where output is only noted, whatever has a text can be shown.
-/

namespace SqlShell

open Act

namespace Job

/-- The state with nothing but the scene. -/
def scene (job : Job) : Job :=
  {
    terminal := job.terminal
    missing := job.missing
    files := job.files
    network := job.network
    vars := job.vars
  }

/-- Output is only noted, tables included. -/
structure Records (job : Job) : Prop where
  terminal_eq : job.terminal = .noted
  has_tables : job.lacks "table" = false

section

variable {job after : Job}

theorem sources_of_scene (h : after.scene = job.scene) : after.sources = job.sources := by
  show after.scene.sources = job.scene.sources
  rw [h]

theorem homeDirectory_of_scene (h : after.scene = job.scene)
    : HistoryFile.homeDirectory after = HistoryFile.homeDirectory job := by
  show HistoryFile.homeDirectory after.scene = HistoryFile.homeDirectory job.scene
  rw [h]

theorem terminal_of_scene (h : after.scene = job.scene) : after.terminal = job.terminal :=
  (congrArg Job.terminal h :)

/-- The scene tells how texts are escaped. -/
theorem escaped_of_scene (h : after.scene = job.scene) : after.escaped = job.escaped := by
  show after.scene.escaped = job.scene.escaped
  rw [h]

/-- The scene tells whether output is only noted. -/
theorem Records.of_scene (hs : after.scene = job.scene) (h : Records job) : Records after where
  terminal_eq := (terminal_of_scene hs).trans h.terminal_eq
  has_tables := by
    show after.scene.lacks "table" = false
    rw [hs]
    exact h.has_tables

/-- Where output is only noted it is not laid out. -/
theorem Records.output_eq (h : Records job) : job.output = .noted := by
  rw [output, h.terminal_eq]

end

end Job

-----------------------------------------------------------------------------------------
-- Output
-----------------------------------------------------------------------------------------

/-- Where output is only noted the act ends with the result, and leaves the scene and the core of the
state as they are.
-/
def Act.EndsWith {α : Type} (act : Act α) (result : Except Fault α) : Prop :=
  ∀ job : Job, job.Records → ∃ after, act job = (result, after)
    ∧ after.scene = job.scene ∧ after.core = job.core

namespace Act.EndsWith

variable {α β : Type}

theorem ofResult (result : Except Fault α) : EndsWith (ofResult result) result := by
  intro job _
  cases result <;> exact ⟨job, rfl, rfl, rfl⟩

theorem record {event : Event} (h : event.touchesSession = false) : EndsWith (record event) (.ok ()) :=
  fun _ _ => ⟨_, rfl, rfl, Job.core_note h⟩

/-- The second of two acts finds the scene of the first one. -/
theorem bind {act : Act α} {next : α → Act β} {value : α} {result : Except Fault β}
    (h : EndsWith act (.ok value)) (hn : EndsWith (next value) result)
    : EndsWith (act >>= next) result := by
  intro job hr
  obtain ⟨middle, he, hs, hc⟩ := h job hr
  obtain ⟨after, hl, hls, hlc⟩ := hn middle (hr.of_scene hs)
  exact ⟨after, (bind_of_ok he).trans hl, hls.trans hs, hlc.trans hc⟩

/-- After a fault there is no second act. -/
theorem bind_error {act : Act α} {next : α → Act β} {fault : Fault} (h : EndsWith act (.error fault))
    : EndsWith (act >>= next) (.error fault) := by
  intro job hr
  obtain ⟨after, he, hkept⟩ := h job hr
  refine ⟨after, ?_, hkept⟩
  rw [bind_of_error (congrArg Prod.fst he), he]

/-- An act that looks at the state first may rely on its output being only noted. -/
theorem ofState {act : Job → Act α} {result : Except Fault α}
    (h : ∀ job : Job, job.Records → EndsWith (act job) result)
    : EndsWith (state >>= act) result :=
  fun job hr => h job hr job hr

end Act.EndsWith

namespace Console

theorem endsWith_notice (stream : Stream) (text : String)
    : EndsWith (notice stream text) (.ok ()) :=
  .ofState fun job hr => by
    rw [hr.output_eq]
    exact .record rfl

theorem endsWith_table (headings : List String) (rows : List (List String))
    : EndsWith (table headings rows) (.ok ()) :=
  .ofState fun job hr => by
    rw [hr.output_eq]
    exact .record rfl

theorem endsWith_requireTables : EndsWith requireTables (.ok ()) :=
  .ofState fun job hr => by
    rw [hr.has_tables]
    exact .ofResult (.ok ())

end Console

-----------------------------------------------------------------------------------------
-- Results
-----------------------------------------------------------------------------------------

theorem Value.failsIf_shown (value : Value)
    : FailsIf (!value.isWritable) Value.unwritable value.shown := by
  rw [shown]
  cases value.isWritable with
  | true => exact ⟨_, rfl⟩
  | false => exact rfl

/-- Only a value with a number that is too long to be written has no text in a table. -/
theorem failsIf_cellText (value : Value)
    : FailsIf (!value.isWritable) Value.unwritable (cellText value) := by
  by_cases hn : value = .null
  · subst hn
    exact ⟨_, rfl⟩
  · by_cases hb : ∃ data, value = .bytes data
    · obtain ⟨data, rfl⟩ := hb
      exact ⟨_, rfl⟩
    · rw [cellText]
      · exact value.failsIf_shown
      · exact hn
      · exact fun data he => hb ⟨data, he⟩

/-- The fault of a result that cannot be shown, since some value in its rows has no text. -/
def StatementResult.flaw? (result : StatementResult) : Option Fault :=
  if result.isQuery && result.rows.any (·.any (!·.isWritable)) then some Value.unwritable else none

/-- The end of acts that may have raised a fault. -/
def endOf : Option Fault → Except Fault Unit
  | none => .ok ()
  | some fault => .error fault

/-- Where output is only noted, showing a result ends with its flaw, if it has one. -/
theorem StatementResult.endsWith_shown (result : StatementResult)
    : EndsWith result.shown (endOf result.flaw?) := by
  rw [shown, flaw?]
  cases result.isQuery with
  | false => exact Console.endsWith_notice .out _
  | true =>
      have htexts : FailsIf (result.rows.any (·.any (!·.isWritable))) Value.unwritable
          (result.rows.mapM fun row => row.mapM cellText) :=
        .mapM (fun row => .mapM failsIf_cellText row) result.rows
      refine Console.endsWith_requireTables.bind ?_
      cases hu : result.rows.any (·.any (!·.isWritable)) with
      | true =>
          rw [hu] at htexts
          have he : _ = Except.error Value.unwritable := htexts
          rw [he]
          exact .bind_error (.ofResult _)
      | false =>
          rw [hu] at htexts
          obtain ⟨rows, he⟩ := htexts
          rw [he]
          exact (EndsWith.ofResult _).bind
            ((Console.endsWith_table result.columns rows).bind (Console.endsWith_notice .out _))

end SqlShell
