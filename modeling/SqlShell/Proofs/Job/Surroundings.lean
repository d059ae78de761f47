import SqlShell.Proofs.Job.CoreState

/-! The surroundings of a job: all of its state but files, events and the number of statements that
the database has answered. What comes of showing something to the user is decided by them.
-/

namespace SqlShell

namespace Job

/-- The state without files, events and the count of statements. -/
def surroundings (job : Job) : Job :=
  { job with trace := [], files := ⟨[]⟩, statements := 0 }

theorem surroundings_of_core {job other : Job} (h : job.core = other.core)
    : job.surroundings = other.surroundings :=
  congrArg (fun core : Job => { core with trace := [], files := ⟨[]⟩, statements := 0 }) h

theorem database_of_surroundings {job other : Job} (h : job.surroundings = other.surroundings)
    : job.database = other.database :=
  (congrArg Job.database h :)

theorem executors_of_surroundings {job other : Job} (h : job.surroundings = other.surroundings)
    : job.executors = other.executors :=
  (congrArg Job.executors h :)

theorem clientClosed_of_surroundings {job other : Job}
    (h : job.surroundings = other.surroundings)
    : job.clientClosed = other.clientClosed :=
  (congrArg Job.clientClosed h :)

theorem output_of_surroundings {job other : Job} (h : job.surroundings = other.surroundings)
    : job.output = other.output := by
  show job.surroundings.output = other.surroundings.output
  rw [h]

end Job

namespace Act

variable {α β : Type}

/-- What comes of the act is decided by the surroundings. -/
def ReadsSurroundings (act : Act α) : Prop :=
  ∀ job other, job.surroundings = other.surroundings → (act job).1 = (act other).1

theorem ReadsSurroundings.pure (value : α) : ReadsSurroundings (pure value : Act α) :=
  fun _ _ _ => rfl

theorem ReadsSurroundings.fail (fault : Fault) : ReadsSurroundings (fail fault : Act α) :=
  fun _ _ _ => rfl

theorem ReadsSurroundings.record (event : Event) : ReadsSurroundings (record event) :=
  fun _ _ _ => rfl

theorem ReadsSurroundings.ofResult (result : Except Fault α)
    : ReadsSurroundings (ofResult result) := by
  cases result with
  | ok value => exact .pure value
  | error fault => exact .fail fault

/-- The second of two acts finds the surroundings that the first one found, which keeps the core. -/
theorem ReadsSurroundings.bind {act : Act α} {next : α → Act β} (h : ReadsSurroundings act)
    (hk : KeepsCore act) (hn : ∀ value, ReadsSurroundings (next value))
    : ReadsSurroundings (act >>= next) := by
  intro job other hs
  have hresult := h job other hs
  have hafter : (act job).2.surroundings = (act other).2.surroundings :=
    (Job.surroundings_of_core (hk job)).trans (hs.trans (Job.surroundings_of_core (hk other)).symm)
  rw [bind_apply, bind_apply]
  cases hj : act job with
  | mk result after =>
      cases ho : act other with
      | mk result' after' =>
          rw [hj, ho] at hresult hafter
          obtain rfl : result = result' := hresult
          cases result with
          | ok value => exact hn value after after' hafter
          | error fault => rfl

/-- Acts for several items read the surroundings if each of them does and keeps the core. By
induction on the items.
-/
theorem ReadsSurroundings.forEach {items : List α} {act : α → Act Unit}
    (h : ∀ item, ReadsSurroundings (act item)) (hk : ∀ item, KeepsCore (act item))
    : ReadsSurroundings (forEach items act) := by
  induction items with
  | nil => exact .pure ()
  | cons item rest ih => exact (h item).bind (hk item) fun _ => ih

/-- An act that looks only at the surroundings of the state reads nothing else of it. -/
theorem ReadsSurroundings.ofState {act : Job → Act α}
    (hd : ∀ job other, job.surroundings = other.surroundings → act job = act other)
    (h : ∀ job, ReadsSurroundings (act job))
    : ReadsSurroundings (state >>= act) := by
  intro job other hs
  show (act job job).1 = (act other other).1
  rw [hd job other hs]
  exact h other job other hs

end Act

namespace Console

open Act

theorem readsSurroundings_display (stream : Stream)
    (shown : Except Display.Problem Display.Written)
    : ReadsSurroundings (display stream shown) := by
  refine (ReadsSurroundings.ofResult _).bind (.ofResult _) fun written => ?_
  refine (ReadsSurroundings.record _).bind (keepsCore_write stream written.text) fun _ => ?_
  cases written.problem with
  | none => exact .pure ()
  | some problem => exact .fail _

theorem readsSurroundings_notice (stream : Stream) (text : String)
    : ReadsSurroundings (notice stream text) := by
  refine ReadsSurroundings.ofState (fun job other hs => ?_) fun job => ?_
  · rw [Job.output_of_surroundings hs]
  · cases job.output with
    | noted => exact .record _
    | verbatim => exact .record _
    | laidOut columns => exact readsSurroundings_display stream _

theorem readsSurroundings_requireTables : ReadsSurroundings requireTables := by
  refine ReadsSurroundings.ofState (fun job other hs => ?_) fun job => ?_
  · have hl : job.lacks "table" = other.lacks "table" := by
      show job.surroundings.lacks "table" = other.surroundings.lacks "table"
      rw [hs]
    rw [hl]
  · split
    · exact .fail _
    · exact .pure ()

theorem readsSurroundings_table (headings : List String) (rows : List (List String))
    : ReadsSurroundings (table headings rows) := by
  refine ReadsSurroundings.ofState (fun job other hs => ?_) fun job => ?_
  · rw [Job.output_of_surroundings hs]
  · cases job.output with
    | noted => exact .record _
    | verbatim => exact .record _
    | laidOut columns => exact readsSurroundings_display .out _

end Console

open Act

theorem StatementResult.readsSurroundings_shown (result : StatementResult)
    : ReadsSurroundings result.shown := by
  rw [shown]
  split
  · exact Console.readsSurroundings_notice .out _
  · refine Console.readsSurroundings_requireTables.bind Console.keepsCore_requireTables fun _ => ?_
    refine (ReadsSurroundings.ofResult _).bind (.ofResult _) fun rows => ?_
    exact (Console.readsSurroundings_table _ _).bind (Console.keepsCore_table _ _) fun _ =>
      Console.readsSurroundings_notice .out _

theorem Executor.readsSurroundings_configuration (executor : Executor) (handle : String)
    : ReadsSurroundings (executor.configuration handle) := by
  cases executor with
  | elsewhere remote =>
      exact (ReadsSurroundings.record _).bind (.record rfl) fun _ => .ofResult _
  | here number =>
      refine ReadsSurroundings.bind ?_ (LocalExecutor.keepsCore_openedSession number handle)
        fun _ => .pure _
      intro job other hs
      have he := Job.executors_of_surroundings hs
      cases hf : ((other.executors[number]?).getD {}).session? handle with
      | some session =>
          rw [LocalExecutor.openedSession_of_some hf, LocalExecutor.openedSession_of_some (he ▸ hf)]
      | none =>
          rw [LocalExecutor.openedSession_of_none hf, LocalExecutor.openedSession_of_none (he ▸ hf)]

theorem Client.readsSurroundings_showConfiguration (client : Client)
    : ReadsSurroundings client.showConfiguration := by
  refine (Executor.readsSurroundings_configuration _ _).bind
    (Executor.keepsCore_configuration _ _) fun configuration => ?_
  split
  · exact Console.readsSurroundings_notice .out _
  · refine (ReadsSurroundings.ofResult _).bind (.ofResult _) fun sorted => ?_
    have hline : ∀ entry : Value × Value, ReadsSurroundings (do
        Console.notice .out
          ((← Act.ofResult entry.1.shown) ++ "=" ++ (← Act.ofResult entry.2.shown))) :=
      fun entry => (ReadsSurroundings.ofResult _).bind (.ofResult _) fun key =>
        (ReadsSurroundings.ofResult _).bind (.ofResult _) fun value =>
          Console.readsSurroundings_notice .out _
    have hcore : ∀ entry : Value × Value, KeepsCore (do
        Console.notice .out
          ((← Act.ofResult entry.1.shown) ++ "=" ++ (← Act.ofResult entry.2.shown))) :=
      fun entry => (KeepsCore.ofResult _).bind fun key => (KeepsCore.ofResult _).bind fun value =>
        Console.keepsCore_notice .out _
    exact ReadsSurroundings.forEach hline hcore

end SqlShell
