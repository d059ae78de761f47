import Mathlib.Data.List.Nodup
import SqlShell.Proofs.Executor.CallEffects

/-! The sessions of an executor follow from the calls that were made of it: which handles are open,
which connection each of them holds, and that every connection is held once or was closed once.
-/

namespace SqlShell.LocalExecutor

open Act

/-- A call that was made: what came of it, and the events of the database that belong to it. -/
structure Step where
  call : Call
  result : Except Fault Answer
  events : List Event

/-- The step opens a session with a handle, on a connection that it makes. -/
def Step.Opens (step : Step) (handle : String) (connection : Nat) : Prop :=
  ∃ environment database, step.call = .openSession (.text handle) environment
    ∧ step.result = .ok (.opened handle)
    ∧ step.events = [.connect database (some connection)]

/-- The step starts the executor, and that ends well. -/
def Step.Starts (step : Step) : Prop :=
  step.call = .start ∧ ∃ dependencies, step.result = .ok (.started dependencies)

/-- Some step has the one property, and every step after it has the other one. -/
def Since (done kept : Step → Prop) (history : List Step) : Prop :=
  ∃ before step later, history = before ++ step :: later ∧ done step ∧ ∀ other ∈ later, kept other

/-- A session with the handle was opened, and no call to close the handle has followed. -/
def OpenSince (history : List Step) (handle : String) : Prop :=
  Since (fun step => ∃ connection, step.Opens handle connection)
    (fun step => step.call ≠ .closeSession handle) history

/-- The last session with the handle was opened on the connection. -/
def LastOpened (history : List Step) (handle : String) (connection : Nat) : Prop :=
  Since (fun step => step.Opens handle connection)
    (fun step => ∀ other, ¬ step.Opens handle other) history

/-- The connections that were made, in order. -/
def connected (history : List Step) : List Nat :=
  (history.flatMap Step.events).filterMap Event.connected?

/-- The connections that were closed, in order. -/
def closed (history : List Step) : List Nat :=
  (history.flatMap Step.events).filterMap Event.closed?

/-- Makes a call, and tells the step and the job after it. -/
def takeStep (number : Nat) (call : Call) (job : Job) : Step × Job :=
  let (result, after) := call.perform number job
  (⟨call, result, after.sessionEvents.drop job.sessionEvents.length⟩, after)

/-- Makes calls one after another, after the given history. -/
def runCalls (number : Nat) : List Call → List Step × Job → List Step × Job
  | [], reached => reached
  | call :: rest, (history, job) =>
      let (step, after) := takeStep number call job
      runCalls number rest (history ++ [step], after)

/-- The executor with a number in a job. -/
def ofJob (number : Nat) (job : Job) : LocalExecutor :=
  (job.executors[number]?).getD {}

/-- The open session with a handle holds a connection. -/
def Holds (executor : LocalExecutor) (handle : String) (connection : Nat) : Prop :=
  ∃ session, executor.session? handle = some session ∧ session.connection = connection

/-- The sessions of an executor are those that its history tells. The connections that were made
are those that are held and those that were closed, each of them once.
-/
structure Stored (history : List Step) (made : Nat) (executor : LocalExecutor) : Prop where
  handles_nodup : (executor.sessions.map Prod.fst).Nodup
  connected_perm :
    (connected history).Perm (executor.sessions.map (·.2.connection) ++ closed history)
  connected_nodup : (connected history).Nodup
  connected_le : ∀ connection ∈ connected history, connection ≤ made
  open_iff : ∀ handle, executor.isOpen handle = true ↔ OpenSince history handle
  last_opened : ∀ handle session, executor.session? handle = some session →
    LastOpened history handle session.connection
  started : executor.started = true → ∃ step ∈ history, step.Starts
  open_started : ∀ handle, executor.isOpen handle = true → ∃ step ∈ history, step.Starts

variable {history : List Step} {step : Step} {executor : LocalExecutor} {handle : String}

-----------------------------------------------------------------------------------------
-- Histories
-----------------------------------------------------------------------------------------

/-- What has been so since a step is still so after one more step, which is such a step itself or
keeps it.
-/
theorem since_concat (done kept : Step → Prop)
    : Since done kept (history ++ [step]) ↔ done step ∨ kept step ∧ Since done kept history := by
  constructor
  · rintro ⟨before, first, later, he, hd, hk⟩
    rcases List.eq_nil_or_concat later with rfl | ⟨init, last, rfl⟩
    · obtain ⟨-, hs⟩ := List.append_inj' he rfl
      obtain rfl : step = first := List.singleton_inj.mp hs
      exact Or.inl hd
    · rw [List.concat_eq_append, ← List.cons_append, ← List.append_assoc] at he
      obtain ⟨hh, hs⟩ := List.append_inj' he rfl
      obtain rfl : step = last := List.singleton_inj.mp hs
      rw [List.concat_eq_append, List.forall_mem_append, List.forall_mem_singleton] at hk
      exact Or.inr ⟨hk.2, before, first, init, hh, hd, hk.1⟩
  · rintro (hd | ⟨hk, before, first, later, rfl, hd, hl⟩)
    · exact ⟨history, step, [], rfl, hd, List.forall_mem_nil _⟩
    · refine ⟨before, first, later ++ [step], by simp, hd, ?_⟩
      exact List.forall_mem_append.mpr ⟨hl, List.forall_mem_singleton.mpr hk⟩

theorem openSince_concat
    : OpenSince (history ++ [step]) handle
      ↔ (∃ connection, step.Opens handle connection)
        ∨ step.call ≠ .closeSession handle ∧ OpenSince history handle :=
  since_concat _ _

/-- A session was opened last by one more step, or before it if the step opens none. -/
theorem lastOpened_concat {connection : Nat}
    : LastOpened (history ++ [step]) handle connection
      ↔ step.Opens handle connection
        ∨ (∀ other, ¬ step.Opens handle other) ∧ LastOpened history handle connection :=
  since_concat _ _

theorem starts_concat (h : ∃ step ∈ history, step.Starts)
    : ∃ other ∈ history ++ [step], other.Starts := by
  obtain ⟨other, hm, hs⟩ := h
  exact ⟨other, List.mem_append_left _ hm, hs⟩

theorem connected_concat
    : connected (history ++ [step]) =
        connected history ++ step.events.filterMap Event.connected? := by
  simp [connected]

theorem closed_concat
    : closed (history ++ [step]) = closed history ++ step.events.filterMap Event.closed? := by
  simp [closed]

-----------------------------------------------------------------------------------------
-- Sessions by their handles
-----------------------------------------------------------------------------------------

/-- Looking a handle up goes through the sessions in order. -/
theorem session?_append (more : List (String × LocalSession))
    : ({ executor with sessions := executor.sessions ++ more }).session? handle =
        (executor.session? handle).or ((more.find? (·.1 == handle)).map (·.2)) := by
  rw [session?, List.find?_append, session?]
  cases executor.sessions.find? (·.1 == handle) <;> rfl

/-- The open handles are those in the list of sessions. -/
theorem isOpen_iff_mem
    : executor.isOpen handle = true ↔ handle ∈ executor.sessions.map Prod.fst := by
  simp [isOpen, session?]

/-- A session that was added is found under its handle, and every other one as before. -/
theorem session?_add {added : String} {session : LocalSession}
    (h : executor.isOpen added = false)
    : ({ executor with sessions := executor.sessions ++ [(added, session)] }).session? handle =
        if handle = added then some session else executor.session? handle := by
  rw [session?_append]
  by_cases he : handle = added
  · subst he
    have hnone : executor.session? handle = none := by simpa [isOpen] using h
    simp [hnone]
  · simp [he, Ne.symm he]

/-- A handle whose session was removed is not found, and every other one as before. -/
theorem session?_remove {removed : String}
    : ({ executor with sessions := executor.sessions.filter (·.1 != removed) }).session? handle =
        if handle = removed then none else executor.session? handle := by
  rw [session?, List.find?_filter]
  split
  · next he => simp [he]
  · next he =>
      have hp : (fun entry : String × LocalSession =>
          decide ((entry.1 != removed) = true ∧ (entry.1 == handle) = true)) =
            fun entry => entry.1 == handle := by
        funext entry
        by_cases h : entry.1 = handle <;> simp [h, he]
      rw [hp, session?]

/-- A session stands in the list once, under its handle. -/
theorem exists_of_session? {session : LocalSession} (h : executor.session? handle = some session)
    (hn : (executor.sessions.map Prod.fst).Nodup)
    : ∃ before later, executor.sessions = before ++ (handle, session) :: later
        ∧ executor.sessions.filter (·.1 != handle) = before ++ later := by
  obtain ⟨⟨key, own⟩, hf, rfl⟩ := Option.map_eq_some_iff.mp h
  obtain ⟨hk, before, later, he, hb⟩ := List.find?_eq_some_iff_append.mp hf
  obtain rfl : key = handle := by simpa using hk
  rw [he, List.map_append, List.map_cons] at hn
  have hlater : key ∉ later.map Prod.fst :=
    (List.nodup_cons.mp (List.nodup_append.mp hn).2.1).1
  refine ⟨before, later, he, ?_⟩
  rw [he, List.filter_append, List.filter_cons_of_neg (by simp)]
  congr 1
  · refine List.filter_eq_self.mpr fun entry hm => ?_
    simpa [bne] using hb entry hm
  · refine List.filter_eq_self.mpr fun entry hm => ?_
    have hne : entry.1 ≠ key := by
      rintro rfl
      exact hlater (List.mem_map_of_mem hm)
    simpa using hne

-----------------------------------------------------------------------------------------
-- One call
-----------------------------------------------------------------------------------------

variable {made : Nat} {call : Call} {result : Except Fault Answer} {events : List Event}
  {next : LocalExecutor}

/-- A step that tells no new session opens none. -/
theorem not_opens_of_result (h : ∀ handle, result ≠ .ok (.opened handle)) (connection : Nat)
    : ¬ (⟨call, result, events⟩ : Step).Opens handle connection := by
  rintro ⟨environment, database, -, hr, -⟩
  exact h handle hr

/-- A call that leaves the sessions as they are keeps what is known of them. -/
theorem Stored.keep (h : Stored history made executor) (hs : next.sessions = executor.sessions)
    (hq : ∀ event ∈ events, event.connected? = none ∧ event.closed? = none)
    (ho : ∀ handle, result ≠ .ok (.opened handle))
    (hc : ∀ handle, call = .closeSession handle → executor.isOpen handle = false)
    (ht : next.started = true → executor.started = true
      ∨ call = .start ∧ ∃ dependencies, result = .ok (.started dependencies))
    : Stored (history ++ [⟨call, result, events⟩]) made next := by
  have hsession : ∀ handle, next.session? handle = executor.session? handle := fun handle => by
    rw [session?, hs, session?]
  have hopen : ∀ handle, next.isOpen handle = executor.isOpen handle := fun handle => by
    rw [isOpen, hsession, isOpen]
  have hconnected : connected (history ++ [⟨call, result, events⟩]) = connected history := by
    rw [connected_concat, List.filterMap_eq_nil_iff.mpr fun event he => (hq event he).1,
      List.append_nil]
  have hclosed : closed (history ++ [⟨call, result, events⟩]) = closed history := by
    rw [closed_concat, List.filterMap_eq_nil_iff.mpr fun event he => (hq event he).2,
      List.append_nil]
  constructor
  case handles_nodup => exact hs ▸ h.handles_nodup
  case connected_perm =>
      rw [hconnected, hclosed, hs]
      exact h.connected_perm
  case connected_nodup => exact hconnected ▸ h.connected_nodup
  case connected_le => exact hconnected ▸ h.connected_le
  case open_iff =>
      intro handle
      rw [hopen, openSince_concat, h.open_iff]
      constructor
      · intro hi
        refine Or.inr ⟨fun he => ?_, hi⟩
        exact absurd ((h.open_iff handle).mpr hi) (by simp [hc handle he])
      · rintro (⟨connection, he⟩ | ⟨-, hi⟩)
        · exact absurd he (not_opens_of_result ho connection)
        · exact hi
  case last_opened =>
      intro handle session hf
      rw [hsession] at hf
      exact lastOpened_concat.mpr
        (Or.inr ⟨not_opens_of_result ho, h.last_opened handle session hf⟩)
  case started =>
      intro hn
      rcases ht hn with hn | hstarts
      · exact starts_concat (h.started hn)
      · exact ⟨_, List.mem_append_right _ List.mem_cons_self, hstarts⟩
  case open_started =>
      intro handle hi
      rw [hopen] at hi
      exact starts_concat (h.open_started handle hi)

/-- A call that opens a session adds its handle, on a connection that was never made before. -/
theorem Stored.add (h : Stored history made executor) {database : String}
    {environment : Environment} {session : LocalSession} (hs : executor.started = true)
    (ho : executor.isOpen handle = false) (hc : session.connection = made + 1)
    : Stored
        (history ++ [⟨.openSession (.text handle) environment, .ok (.opened handle),
          [.connect database (some (made + 1))]⟩])
        (made + 1) { executor with sessions := executor.sessions ++ [(handle, session)] } := by
  generalize hstep : (⟨.openSession (.text handle) environment, .ok (.opened handle),
    [.connect database (some (made + 1))]⟩ : Step) = step
  have hconnected : connected (history ++ [step]) = connected history ++ [made + 1] := by
    rw [connected_concat, ← hstep]
    rfl
  have hclosed : closed (history ++ [step]) = closed history := by
    rw [closed_concat, ← hstep]
    exact List.append_nil _
  have hopens : step.Opens handle (made + 1) := by
    rw [← hstep]
    exact ⟨environment, database, rfl, rfl, rfl⟩
  have hother : ∀ other connection, step.Opens other connection → other = handle := by
    rintro other connection ⟨_, _, -, hr, -⟩
    rw [← hstep] at hr
    exact (Answer.opened.inj (Except.ok.inj hr)).symm
  constructor
  case handles_nodup =>
      have hnew : handle ∉ executor.sessions.map Prod.fst := by
        rw [← isOpen_iff_mem, ho]
        exact Bool.false_ne_true
      rw [List.map_append, List.map_singleton, ← List.concat_eq_append]
      exact List.Nodup.concat hnew h.handles_nodup
  case connected_perm =>
      rw [hconnected, hclosed, List.map_append, List.append_assoc]
      refine (h.connected_perm.append_right _).trans ?_
      rw [List.append_assoc, List.map_singleton, hc]
      exact (List.perm_append_comm).append_left _
  case connected_nodup =>
      have hnew : made + 1 ∉ connected history := fun hm => absurd (h.connected_le _ hm) (by omega)
      rw [hconnected, ← List.concat_eq_append]
      exact List.Nodup.concat hnew h.connected_nodup
  case connected_le =>
      rw [hconnected, List.forall_mem_append, List.forall_mem_singleton]
      exact ⟨fun connection hm => Nat.le_succ_of_le (h.connected_le connection hm), Nat.le_refl _⟩
  case open_iff =>
      intro other
      have hcall : step.call ≠ .closeSession other := by
        rw [← hstep]
        exact nofun
      rw [openSince_concat, ← h.open_iff, isOpen_iff_mem, isOpen_iff_mem, List.map_append,
        List.mem_append, List.map_singleton, List.mem_singleton]
      constructor
      · rintro (hm | rfl)
        · exact Or.inr ⟨hcall, hm⟩
        · exact Or.inl ⟨made + 1, hopens⟩
      · rintro (⟨connection, he⟩ | ⟨-, hm⟩)
        · exact Or.inr (hother other connection he)
        · exact Or.inl hm
  case last_opened =>
      intro other own hf
      rw [session?_add ho] at hf
      rw [lastOpened_concat]
      split at hf
      · next he =>
          obtain rfl := Option.some.inj hf
          rw [he, hc]
          exact Or.inl hopens
      · next he =>
          exact Or.inr ⟨fun connection hs => he (hother other connection hs),
            h.last_opened other own hf⟩
  case started => exact fun _ => starts_concat (h.started hs)
  case open_started => exact fun _ _ => starts_concat (h.started hs)

/-- A call that closes a session takes its handle off, and closes the connection that it held. -/
theorem Stored.remove (h : Stored history made executor) {session : LocalSession}
    (hf : executor.session? handle = some session)
    (ho : ∀ handle, result ≠ .ok (.opened handle))
    : Stored
        (history ++ [⟨.closeSession handle, result, [.disconnect session.connection]⟩])
        made { executor with sessions := executor.sessions.filter (·.1 != handle) } := by
  obtain ⟨before, later, hs, hfilter⟩ := exists_of_session? hf h.handles_nodup
  have hnone : ∀ other connection, ¬ (⟨.closeSession handle, result,
      [.disconnect session.connection]⟩ : Step).Opens other connection :=
    fun other => not_opens_of_result ho
  have hconnected : connected (history ++ [⟨.closeSession handle, result,
      [.disconnect session.connection]⟩]) = connected history := by
    rw [connected_concat]
    exact List.append_nil _
  have hopen : ∀ other,
      ({ executor with sessions := executor.sessions.filter (·.1 != handle) }).isOpen other = true
        ↔ other ≠ handle ∧ executor.isOpen other = true := by
    intro other
    rw [isOpen, session?_remove]
    by_cases he : other = handle <;> simp [he, isOpen]
  constructor
  case handles_nodup => exact h.handles_nodup.sublist ((List.filter_sublist).map Prod.fst)
  case connected_perm =>
      have hperm := h.connected_perm
      -- The connection moves from those that are held to the end of those that were closed.
      rw [hs, List.map_append, List.map_cons, List.append_assoc, List.cons_append] at hperm
      rw [hconnected, closed_concat, hfilter, List.map_append, List.append_assoc]
      refine hperm.trans (List.Perm.append_left _ ?_)
      rw [← List.append_assoc]
      exact (List.perm_append_singleton _ _).symm
  case connected_nodup => exact hconnected ▸ h.connected_nodup
  case connected_le => exact hconnected ▸ h.connected_le
  case open_iff =>
      intro other
      rw [hopen, openSince_concat, h.open_iff]
      constructor
      · rintro ⟨hne, hi⟩
        exact Or.inr ⟨fun he => hne (Call.closeSession.inj he).symm, hi⟩
      · rintro (⟨connection, he⟩ | ⟨hc, hi⟩)
        · exact absurd he (hnone other connection)
        · exact ⟨fun he => hc (congrArg Call.closeSession he.symm), hi⟩
  case last_opened =>
      intro other own hf
      rw [session?_remove] at hf
      split at hf
      · cases hf
      · exact lastOpened_concat.mpr (Or.inr ⟨hnone other, h.last_opened other own hf⟩)
  case started => exact fun ht => starts_concat (h.started ht)
  case open_started =>
      exact fun other hi => starts_concat (h.open_started other ((hopen other).mp hi).2)

/-- A call keeps what is known of the sessions, by the cases of its effect. -/
theorem Stored.after_call (h : Stored history made executor)
    (he : Effect executor made call result events next)
    : Stored (history ++ [⟨call, result, events⟩])
        (made + (events.filterMap Event.connected?).length) next := by
  cases he with
  | kept hs hq ho hc ht =>
      rw [List.filterMap_eq_nil_iff.mpr fun event hm => (hq event hm).1]
      exact h.keep hs hq ho hc ht
  | opened hs ho hc => exact h.add hs ho hc
  | closed hf ho => exact h.remove hf ho

-----------------------------------------------------------------------------------------
-- A run of calls
-----------------------------------------------------------------------------------------

/-- The sessions of the executor with a number are known from its history, and a signal finds no
hooks.
-/
structure Follows (number : Nat) (history : List Step) (job : Job) : Prop where
  present : job.executors[number]? = some (ofJob number job)
  undisturbed : Undisturbed job
  stored : Stored history job.connections (ofJob number job)

/-- A step has the events that the call leaves, and the executor that it leaves is the one of the
job.
-/
theorem takeStep_of_leaves {number : Nat} {job : Job}
    (hl : Leaves number job next events (call.perform number job).2)
    : (takeStep number call job).1 = ⟨call, (call.perform number job).1, events⟩
      ∧ ofJob number (takeStep number call job).2 = next := by
  have hjob : (takeStep number call job).2 = (call.perform number job).2 := rfl
  have hevents : (takeStep number call job).1.events = events := by
    show (call.perform number job).2.sessionEvents.drop job.sessionEvents.length = events
    rw [hl.events_eq, List.drop_left]
  refine ⟨?_, ?_⟩
  · rw [← hevents]
    rfl
  · rw [hjob, ofJob, hl.executor_eq]
    rfl

/-- One more call is followed by its step, by what the call leaves. -/
theorem Follows.after_call {number : Nat} {job : Job} (h : Follows number history job)
    (call : Call)
    : Follows number (history ++ [(takeStep number call job).1]) (takeStep number call job).2 := by
  obtain ⟨events, next, he, hl⟩ := perform_effect h.present h.undisturbed call
  obtain ⟨hstep, hnext⟩ := takeStep_of_leaves hl
  have hjob : (takeStep number call job).2 = (call.perform number job).2 := rfl
  constructor
  case present =>
      rw [hnext]
      exact hl.executor_eq
  case undisturbed => exact h.undisturbed.of_leaves hl
  case stored =>
      rw [hstep, hnext, hjob, hl.connections_eq]
      exact h.stored.after_call he

/-- An executor that has just been made has no sessions, and no call of it has been made. -/
theorem follows_make {job : Job} (hu : Undisturbed job) (defaults : Option Setting)
    (jars libraries : List Setting) (directory : Option Path)
    : Follows job.executors.length [] (make defaults jars libraries directory job).2 := by
  generalize hm : ({
    defaults := defaults
    jars := jars
    libraries := libraries
    directory := directory.or (configurationDirectory job.vars) } : LocalExecutor) = fresh
  have hmade : (make defaults jars libraries directory job).2 =
      { job with executors := job.executors ++ [fresh] } := by
    rw [← hm]
    rfl
  have hpresent : (job.executors ++ [fresh])[job.executors.length]? = some fresh := by simp
  have hjob : ofJob job.executors.length { job with executors := job.executors ++ [fresh] } =
      fresh := by
    rw [ofJob, hpresent]
    rfl
  have hempty : fresh.sessions = [] := by rw [← hm]
  have hnone : ∀ handle, fresh.session? handle = none := by simp [session?, hempty]
  rw [hmade]
  refine ⟨by rw [hjob]; exact hpresent, hu, ?_⟩
  rw [hjob]
  constructor
  case handles_nodup => simp [hempty]
  case connected_perm => simp [hempty, connected, closed]
  case connected_nodup => simp [connected]
  case connected_le => simp [connected]
  case open_iff => simp [isOpen, hnone, OpenSince, Since]
  case last_opened => simp [hnone]
  case started => simp [← hm]
  case open_started => simp [isOpen, hnone]

/-- What follows a history is followed by every run of calls, by induction on the calls. -/
theorem Follows.after_calls {number : Nat} {job : Job} (h : Follows number history job)
    (calls : List Call)
    : Follows number (runCalls number calls (history, job)).1
        (runCalls number calls (history, job)).2 := by
  induction calls generalizing history job with
  | nil => exact h
  | cons call rest ih => exact ih (h.after_call call)

-----------------------------------------------------------------------------------------
-- What follows from the history
-----------------------------------------------------------------------------------------

/-- A session that is found under a handle stands in the list with it. -/
theorem mem_of_session? {session : LocalSession} (h : executor.session? handle = some session)
    : (handle, session) ∈ executor.sessions := by
  obtain ⟨⟨key, own⟩, hf, rfl⟩ := Option.map_eq_some_iff.mp h
  have hk : key = handle := by simpa using List.find?_some hf
  exact hk ▸ List.mem_of_find?_eq_some hf

/-- A session that stands in the list is found under its handle. -/
theorem Stored.session?_of_mem (h : Stored history made executor) {session : LocalSession}
    (hm : (handle, session) ∈ executor.sessions)
    : executor.session? handle = some session := by
  have hopen : executor.isOpen handle = true := isOpen_iff_mem.mpr (List.mem_map_of_mem hm)
  obtain ⟨other, ho⟩ := Option.isSome_iff_exists.mp hopen
  have he := List.inj_on_of_nodup_map h.handles_nodup (mem_of_session? ho) hm rfl
  rw [ho, (Prod.mk.inj he).2]

/-- A connection that was made is held by one session and was never closed, or it was closed once
and is held by none.
-/
theorem Stored.held_or_closed (h : Stored history made executor) {connection : Nat}
    (hm : connection ∈ connected history)
    : ((closed history).count connection = 0
        ∧ ∃ handle, ∀ other, Holds executor other connection ↔ other = handle)
      ∨ (closed history).count connection = 1 ∧ ∀ handle, ¬ Holds executor handle connection := by
  have hnodup := h.connected_perm.nodup_iff.mp h.connected_nodup
  obtain ⟨hheld, hclosed, hdisjoint⟩ := List.nodup_append.mp hnodup
  have hmem : ∀ handle, Holds executor handle connection →
      connection ∈ executor.sessions.map (·.2.connection) := by
    rintro handle ⟨session, hs, rfl⟩
    exact List.mem_map_of_mem (mem_of_session? hs)
  rcases List.mem_append.mp (h.connected_perm.mem_iff.mp hm) with hm | hm
  · refine Or.inl ⟨?_, ?_⟩
    · exact List.count_eq_zero.mpr fun hc => hdisjoint connection hm connection hc rfl
    · obtain ⟨⟨handle, session⟩, hs, rfl⟩ := List.mem_map.mp hm
      refine ⟨handle, fun other => ⟨?_, ?_⟩⟩
      · rintro ⟨own, ho, hc⟩
        have he := List.inj_on_of_nodup_map hheld (mem_of_session? ho) hs hc
        exact (Prod.mk.inj he).1
      · rintro rfl
        exact ⟨session, h.session?_of_mem hs, rfl⟩
  · refine Or.inr ⟨List.count_eq_one_of_mem hclosed hm, fun handle hh => ?_⟩
    exact hdisjoint connection (hmem handle hh) connection hm rfl

/-- A session is left alone by every call that neither closes its handle nor opens it. -/
theorem Effect.session?_eq (h : Effect executor made call result events next)
    (hc : call ≠ .closeSession handle)
    (ho : ∀ connection, ¬ (⟨call, result, events⟩ : Step).Opens handle connection)
    : next.session? handle = executor.session? handle := by
  cases h with
  | kept hs _ _ _ _ => rw [session?, hs, session?]
  | @opened added database environment session _ hn _ =>
      have hne : handle ≠ added := by
        rintro rfl
        exact ho (made + 1) ⟨environment, database, rfl, rfl, rfl⟩
      rw [session?_add hn, if_neg hne]
  | @closed removed session _ _ _ =>
      have hne : handle ≠ removed := fun he => hc (congrArg Call.closeSession he.symm)
      rw [session?_remove, if_neg hne]

/-- What the sessions of the executor with a number are, and what the next call does to them, as
told by the calls that were made of it.
-/
structure SessionsFollow (number : Nat) (history : List Step) (job : Job) : Prop where
  open_iff : ∀ handle, (ofJob number job).isOpen handle = true ↔ OpenSince history handle
  held_or_closed : ∀ connection ∈ connected history,
    ((closed history).count connection = 0
      ∧ ∃ handle, ∀ other, Holds (ofJob number job) other connection ↔ other = handle)
    ∨ (closed history).count connection = 1
      ∧ ∀ handle, ¬ Holds (ofJob number job) handle connection
  executes : ∀ handle statement, OpenSince history handle → ∃ connection,
    LastOpened history handle connection
    ∧ (takeStep number (.execute handle statement) job).1.events =
      [.execute connection statement]
  refuses : ∀ handle statement, ¬ OpenSince history handle →
    (Call.execute handle statement).perform number job =
      (.error (.client .execution ("Invalid session identifier: " ++ handle)), job)
  keeps : ∀ handle call, call ≠ .closeSession handle →
    (∀ connection, ¬ (takeStep number call job).1.Opens handle connection) →
    (ofJob number (takeStep number call job).2).session? handle =
      (ofJob number job).session? handle
  open_started : ∀ handle, (ofJob number job).isOpen handle = true →
    ∃ step ∈ history, step.Starts

/-- What follows a history is told by it. -/
theorem Follows.sessionsFollow {number : Nat} {job : Job} (h : Follows number history job)
    : SessionsFollow number history job := by
  have hopen := h.stored.open_iff
  constructor
  case open_iff => exact hopen
  case held_or_closed => exact fun connection hm => h.stored.held_or_closed hm
  case executes =>
      intro handle statement hs
      obtain ⟨session, hf⟩ := Option.isSome_iff_exists.mp ((hopen handle).mpr hs)
      have hl : Leaves number job (ofJob number job) [.execute session.connection statement]
          ((Call.execute handle statement).perform number job).2 := by
        rw [Call.perform, answered_job]
        exact execute_leaves h.present h.undisturbed hf statement
      refine ⟨session.connection, h.stored.last_opened handle session hf, ?_⟩
      rw [(takeStep_of_leaves hl).1]
  case refuses =>
      intro handle statement hs
      have hf : (ofJob number job).session? handle = none := by
        rw [← hopen] at hs
        simpa [isOpen] using hs
      have he := execute_of_not_open h.present hf statement
      rw [Call.perform, bind_of_error (by rw [he]), he]
      rfl
  case keeps =>
      intro handle call hc ho
      obtain ⟨events, next, he, hl⟩ := perform_effect h.present h.undisturbed call
      obtain ⟨hstep, hnext⟩ := takeStep_of_leaves hl
      rw [hstep] at ho
      rw [hnext]
      exact he.session?_eq hc ho
  case open_started => exact h.stored.open_started

/-- The sessions of an executor that was made in a job are told by the calls that were made of it,
whatever comes of these.
-/
theorem sessions_follow_calls {job : Job} (h : Undisturbed job) (defaults : Option Setting)
    (jars libraries : List Setting) (directory : Option Path) (calls : List Call)
    : SessionsFollow job.executors.length
        (runCalls job.executors.length calls
          ([], (make defaults jars libraries directory job).2)).1
        (runCalls job.executors.length calls
          ([], (make defaults jars libraries directory job).2)).2 :=
  ((follows_make h defaults jars libraries directory).after_calls calls).sessionsFollow

/-- A database to which the second attempt to connect fails, which is interrupted at all statements,
and which fails to close connections.
-/
def unreliable : Database where
  connecting attempt _ :=
    if attempt = 1 then some { kind := .database .operational, message := "locked" } else none
  reply _ := .signal 15
  closing _ := some { kind := .runtime, message := "busy" }

/-- A session that was closed with a failure and opened again is open, while opening failed before
the executor was started and while the database was locked.
-/
theorem sessions_follow_calls_after_failures
    : Undisturbed { database := unreliable }
      ∧ OpenSince
        (runCalls 0
          [.openSession (.text "a") {}, .start, .openSession (.text "a") {},
            .execute "a" "SELECT 1", .openSession (.text "b") {}, .closeSession "a",
            .openSession (.text "a") {}]
          ([], (make none [] [] none { database := unreliable }).2)).1 "a" := by
  have hu : Undisturbed { database := unreliable } := fun _ => rfl
  refine ⟨hu, ((sessions_follow_calls hu none [] [] none _).open_iff "a").mp ?_⟩
  decide +kernel

end SqlShell.LocalExecutor
