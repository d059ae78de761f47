import SqlShell.Proofs.Job.CoreState

/-! The conduct of a job: what it does with sessions and what it writes to the stream of diagnostics,
in order. It is told apart from how often the job asks its user for a line. Most acts are quiet and
add to neither.
-/

namespace SqlShell

open Act

/-- The event is written to the stream of diagnostics. -/
def Event.isDiagnostic : Event → Bool
  | .notice .err _ | .markup .err _ | .written .err _ => true
  | _ => false

/-- The event uses a session or is written to the stream of diagnostics. -/
def Event.isConduct (event : Event) : Bool :=
  event.touchesSession || event.isDiagnostic

/-- The event asks the user for a line. -/
def Event.isPrompt : Event → Bool
  | .prompt _ => true
  | _ => false

namespace Job

/-- The events of the conduct, in order. -/
def conduct (job : Job) : List Event :=
  job.trace.filter Event.isConduct

/-- How often the user was asked for a line. -/
def prompts (job : Job) : Nat :=
  job.trace.countP Event.isPrompt

/-- Further events add those of them that belong to the conduct, and the prompts among them. -/
theorem conduct_of_trace {job after : Job} {events : List Event}
    (h : after.trace = job.trace ++ events)
    : after.conduct = job.conduct ++ events.filter Event.isConduct
      ∧ after.prompts = job.prompts + events.countP Event.isPrompt := by
  rw [conduct, prompts, h, List.filter_append, List.countP_append]
  exact ⟨rfl, rfl⟩

/-- The events of the conduct that a job has noted are added to those before. -/
theorem conduct_of_note {job : Job} {event : Event} (h : event.isConduct = true)
    (hp : event.isPrompt = false)
    : (job.note event).conduct = job.conduct ++ [event] ∧ (job.note event).prompts = job.prompts := by
  have he : (job.note event).trace = job.trace ++ [event] := rfl
  simpa [h, hp] using conduct_of_trace he

end Job

namespace Act

variable {α β : Type}

/-- The act adds nothing to the conduct and asks for no line, however it ends. -/
def IsQuiet (act : Act α) : Prop :=
  ∀ job, (act job).2.conduct = job.conduct ∧ (act job).2.prompts = job.prompts

-----------------------------------------------------------------------------------------
-- How acts are put together
-----------------------------------------------------------------------------------------

theorem isQuiet_iff {act : Act α}
    : IsQuiet act
      ↔ ∀ conduct prompts, Preserves (fun job => job.conduct = conduct ∧ job.prompts = prompts) act :=
  ⟨fun h _ _ job hj => ⟨(h job).1.trans hj.1, (h job).2.trans hj.2⟩,
    fun h job => h job.conduct job.prompts job ⟨rfl, rfl⟩⟩

theorem IsQuiet.pure (value : α) : IsQuiet (pure value : Act α) :=
  fun _ => ⟨rfl, rfl⟩

theorem IsQuiet.fail (fault : Fault) : IsQuiet (fail fault : Act α) :=
  fun _ => ⟨rfl, rfl⟩

theorem IsQuiet.state : IsQuiet state :=
  fun _ => ⟨rfl, rfl⟩

theorem IsQuiet.ofResult (result : Except Fault α) : IsQuiet (ofResult result) :=
  isQuiet_iff.mpr fun _ _ => .ofResult result

/-- Two acts one after the other are quiet if each of them is. -/
theorem IsQuiet.bind {act : Act α} {next : α → Act β} (h : IsQuiet act)
    (hn : ∀ value, IsQuiet (next value))
    : IsQuiet (act >>= next) :=
  isQuiet_iff.mpr fun conduct prompts =>
    (isQuiet_iff.mp h conduct prompts).bind fun value => isQuiet_iff.mp (hn value) conduct prompts

/-- Acts for several items are quiet if each of them is. -/
theorem IsQuiet.forEach {items : List α} {act : α → Act Unit} (h : ∀ item, IsQuiet (act item))
    : IsQuiet (forEach items act) :=
  isQuiet_iff.mpr fun conduct prompts =>
    .forEach fun item _ => isQuiet_iff.mp (h item) conduct prompts

/-- An act that adds plain events only is quiet. -/
theorem IsQuiet.of_trace {act : Act α} {events : Job → List Event}
    (h : ∀ job, (act job).2.trace = job.trace ++ events job)
    (he : ∀ job, ∀ event ∈ events job, event.isConduct = false ∧ event.isPrompt = false)
    : IsQuiet act := by
  intro job
  obtain ⟨hc, hp⟩ := Job.conduct_of_trace (h job)
  have hnone : (events job).filter Event.isConduct = [] :=
    List.filter_eq_nil_iff.mpr fun event hm => by simp [he job event hm]
  have hzero : (events job).countP Event.isPrompt = 0 :=
    List.countP_eq_zero.mpr fun event hm => by simp [he job event hm]
  rw [hc, hp, hnone, hzero, List.append_nil, Nat.add_zero]
  exact ⟨rfl, rfl⟩

theorem IsQuiet.record {event : Event} (h : event.isConduct = false) (hp : event.isPrompt = false)
    : IsQuiet (record event) :=
  .of_trace (fun _ => rfl) fun _ => List.forall_mem_singleton.mpr ⟨h, hp⟩

end Act

-----------------------------------------------------------------------------------------
-- Output
-----------------------------------------------------------------------------------------

namespace Console

/-- The events of what a terminal shows. -/
def displayed (stream : Stream) : Except Display.Problem Display.Written → List Event
  | .ok written => [.written stream (String.ofList written.text)]
  | .error _ => []

/-- The events of a notice, by the way in which output reaches the user. -/
def noticed (terminal : Terminal) (stream : Stream) (text : String) : List Event :=
  match terminal with
  | .noted => [.notice stream text]
  | .verbatim => [.written stream (String.ofList (text.toList ++ ['\n']))]
  | .laidOut columns =>
      displayed stream (Display.onTerminal columns (.plain (Emoji.replaceNames text.toList)))

theorem trace_display (stream : Stream) (shown : Except Display.Problem Display.Written) (job : Job)
    : (display stream shown job).2.trace = job.trace ++ displayed stream shown := by
  cases shown with
  | error problem => exact (List.append_nil _).symm
  | ok written =>
      obtain ⟨text, problem⟩ := written
      cases problem <;> rfl

/-- A notice adds its events, also if it is cut short. -/
theorem trace_notice (stream : Stream) (text : String) (job : Job)
    : (notice stream text job).2.trace = job.trace ++ noticed job.output stream text := by
  rw [notice, state_bind]
  cases job.output with
  | noted => rfl
  | verbatim => rfl
  | laidOut columns => exact trace_display stream _ job

/-- What a terminal shows is written to the stream. -/
theorem mem_displayed {stream : Stream} {shown : Except Display.Problem Display.Written}
    {event : Event} (h : event ∈ displayed stream shown)
    : ∃ text, event = .written stream text := by
  cases shown with
  | error problem => exact absurd h List.not_mem_nil
  | ok written => exact ⟨_, List.mem_singleton.mp h⟩

/-- A notice is noted as one or written to the stream, by the cases of the terminal. -/
theorem mem_noticed {terminal : Terminal} {stream : Stream} {text : String} {event : Event}
    (h : event ∈ noticed terminal stream text)
    : event = .notice stream text ∨ ∃ shown, event = .written stream shown := by
  cases terminal with
  | noted => exact Or.inl (List.mem_singleton.mp h)
  | verbatim => exact Or.inr ⟨_, List.mem_singleton.mp h⟩
  | laidOut columns => exact Or.inr (mem_displayed h)

theorem isQuiet_notice (text : String) : IsQuiet (notice .out text) := by
  refine .of_trace (trace_notice .out text) fun job event h => ?_
  rcases mem_noticed h with rfl | ⟨shown, rfl⟩ <;> exact ⟨rfl, rfl⟩

/-- A notice of a problem is all conduct. -/
theorem filter_noticed_err (terminal : Terminal) (text : String)
    : (noticed terminal .err text).filter Event.isConduct = noticed terminal .err text
      ∧ (noticed terminal .err text).countP Event.isPrompt = 0 := by
  refine ⟨List.filter_eq_self.mpr fun event h => ?_, List.countP_eq_zero.mpr fun event h => ?_⟩
  · rcases mem_noticed h with rfl | ⟨shown, rfl⟩ <;> rfl
  · rcases mem_noticed h with rfl | ⟨shown, rfl⟩ <;> exact Bool.false_ne_true

theorem isQuiet_requireTables : IsQuiet requireTables := by
  refine IsQuiet.state.bind fun job => ?_
  split
  · exact .fail _
  · exact .pure ()

theorem isQuiet_table (headings : List String) (rows : List (List String))
    : IsQuiet (table headings rows) := by
  refine IsQuiet.state.bind fun job => ?_
  cases job.output with
  | noted => exact .record rfl rfl
  | verbatim => exact .record rfl rfl
  | laidOut columns =>
      refine .of_trace (trace_display .out _) fun job event h => ?_
      obtain ⟨text, rfl⟩ := mem_displayed h
      exact ⟨rfl, rfl⟩

end Console

/-- Showing a result is quiet. -/
theorem StatementResult.isQuiet_shown (result : StatementResult) : IsQuiet result.shown := by
  rw [shown]
  split
  · exact Console.isQuiet_notice _
  · refine Console.isQuiet_requireTables.bind fun _ => (IsQuiet.ofResult _).bind fun rows => ?_
    exact (Console.isQuiet_table result.columns rows).bind fun _ => Console.isQuiet_notice _

-----------------------------------------------------------------------------------------
-- The configuration of a session
-----------------------------------------------------------------------------------------

theorem Executor.isQuiet_configuration (executor : Executor) (handle : String)
    : IsQuiet (executor.configuration handle) := by
  cases executor with
  | elsewhere remote => exact (IsQuiet.record rfl rfl).bind fun _ => .ofResult _
  | here number =>
      refine IsQuiet.bind ?_ fun _ => .pure _
      refine (IsQuiet.state.bind fun job => .pure _).bind fun executor => ?_
      cases executor.session? handle with
      | some session => exact .pure session
      | none => exact .fail _

/-- Listing a configuration is quiet, also if it is cut short. -/
theorem Client.isQuiet_showConfiguration (client : Client) : IsQuiet client.showConfiguration := by
  refine (Executor.isQuiet_configuration _ _).bind fun configuration => ?_
  split
  · exact Console.isQuiet_notice _
  · refine (IsQuiet.ofResult _).bind fun sorted => IsQuiet.forEach fun entry => ?_
    refine (IsQuiet.ofResult _).bind fun key => (IsQuiet.ofResult _).bind fun value => ?_
    exact Console.isQuiet_notice _

-----------------------------------------------------------------------------------------
-- Asking for lines
-----------------------------------------------------------------------------------------

namespace Prompt

theorem isQuiet_systemRefuses (result : Except FileProblem Unit × FileTree)
    : IsQuiet (systemRefuses result) := by
  refine IsQuiet.bind (fun _ => ⟨rfl, rfl⟩) fun _ => ?_
  cases result.1 with
  | ok _ => exact .pure false
  | error problem =>
      show IsQuiet (if problem.fault.kind.isSystem then _ else _)
      split
      · exact .pure true
      · exact .fail _

theorem isQuiet_openHistory (path : Path) : IsQuiet (openHistory path) := by
  have hm : IsQuiet (do
      log .warning ("Unable to create history file " ++ path.text
        ++ ", command history is not saved")
      return History.memory) :=
    (IsQuiet.record rfl rfl).bind fun _ => .pure _
  refine IsQuiet.state.bind fun job => (isQuiet_systemRefuses _).bind fun refused => ?_
  split
  · exact hm
  · refine IsQuiet.state.bind fun job => (isQuiet_systemRefuses _).bind fun refused => ?_
    split
    · exact hm
    · exact (IsQuiet.record rfl rfl).bind fun _ => .pure _

theorem isQuiet_ready (path : Path) : IsQuiet (ready path) := by
  refine IsQuiet.state.bind fun job => ?_
  dsimp only
  split
  · exact fun _ => ⟨rfl, rfl⟩
  · split
    · exact fun _ => ⟨rfl, rfl⟩
    · exact isQuiet_openHistory path

end Prompt

/-- Getting ready to ask is quiet, also if a library is missing. -/
theorem Client.isQuiet_asking (client : Client) : IsQuiet client.asking := by
  rw [asking]
  split
  · exact (Prompt.isQuiet_ready client.history).bind fun _ => .pure _
  · exact .pure _

/-- A way to ask for lines asks once and leaves the conduct as it is. -/
def Client.AsksOnce (ask : String → Act Unit) : Prop :=
  ∀ message job, (ask message job).2.conduct = job.conduct
    ∧ (ask message job).2.prompts = job.prompts + 1

/-- Once the way to ask for lines is ready it asks once for each line. -/
theorem Client.asksOnce_of_asking {client : Client} {ask : String → Act Unit} {job after : Job}
    (h : client.asking job = (.ok ask, after))
    : AsksOnce ask := by
  rw [asking] at h
  split at h
  · cases hr : Prompt.ready client.history job with
    | mk result last =>
        cases result with
        | error fault =>
            rw [bind_of_error (by rw [hr])] at h
            cases h
        | ok history =>
            rw [bind_of_ok hr] at h
            obtain ⟨hask, _⟩ := Prod.mk.inj h
            obtain rfl := Except.ok.inj hask
            intro message job
            have ht : (Prompt.ask history message job).2.trace =
                job.trace ++ [.ask history, .prompt message] := List.append_assoc _ _ _
            have hadded := Job.conduct_of_trace ht
            simpa [Event.isConduct, Event.touchesSession, Event.isDiagnostic, Event.isPrompt]
              using hadded
  · obtain ⟨hask, _⟩ := Prod.mk.inj h
    obtain rfl := Except.ok.inj hask
    intro message job
    have ht : (Act.record (.prompt message) job).2.trace = job.trace ++ [.prompt message] := rfl
    have hadded := Job.conduct_of_trace ht
    simpa [Event.isConduct, Event.touchesSession, Event.isDiagnostic, Event.isPrompt] using hadded

end SqlShell
