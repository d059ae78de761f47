import SqlShell.Proofs.Executor.SessionStore
import SqlShell.Proofs.Session.StableProperties
import SqlShell.Proofs.Shutdown.Registration

/-! Calls of the hooks that close sessions. The first call of a hook asks its session to close, also
if the notice before that fails, and every later call does nothing. Hooks fail in ordinary ways only,
and leave the registries as they are.
-/

namespace SqlShell

namespace Job

/-- The state without executors and without the events that wire no registry in. -/
def arrangement (job : Job) : Job :=
  { job with trace := job.wirings, executors := [] }

/-- The hook with a number is there and has not run. -/
def isDue (job : Job) (number : Nat) : Bool :=
  match job.hooks[number]? with
  | some (.session own) => !own.fired
  | _ => false

/-- The hook with a number is there and has run. -/
def HasFired (job : Job) (number : Nat) : Prop :=
  number < job.hooks.length ∧ job.isDue number = false

theorem lt_of_isDue {job : Job} {number : Nat} (h : job.isDue number = true)
    : number < job.hooks.length := by
  rw [isDue] at h
  split at h
  · next own hn => exact (List.getElem?_eq_some_iff.mp hn).1
  · exact nomatch h

theorem arrangement_note {job : Job} {event : Event} (h : event.wires = false)
    : (job.note event).arrangement = job.arrangement := by
  show ({ job with trace := (job.note event).wirings, executors := [] } : Job) = _
  rw [wirings_note h]
  rfl

section

variable {job after : Job}

theorem hooks_of_arrangement (h : after.arrangement = job.arrangement) : after.hooks = job.hooks :=
  (congrArg Job.hooks h :)

theorem database_of_arrangement (h : after.arrangement = job.arrangement)
    : after.database = job.database :=
  (congrArg Job.database h :)

theorem wirings_of_arrangement (h : after.arrangement = job.arrangement)
    : after.wirings = job.wirings :=
  (congrArg Job.trace h :)

theorem registry_of_arrangement (h : after.arrangement = job.arrangement) (name : RegistryName)
    : after.registry name = job.registry name := by
  cases name with
  | special => exact (congrArg Job.special h :)
  | standard => exact (congrArg Job.standard h :)

end

end Job

open Act

/-- The session has been asked to close: an executor elsewhere has got the call, and one of this job
does not hold the session any more.
-/
def Session.AskedToClose (session : Session) (job : Job) : Prop :=
  match session.executor with
  | .elsewhere _ => .call "close_session" [.text session.handle] ∈ job.sessionEvents
  | .here number => ((job.executors[number]?).getD {}).isOpen session.handle = false

/-- Neither the listener nor an executor elsewhere fails in another than an ordinary way. -/
structure SessionHook.IsOrdinary (hook : SessionHook) : Prop where
  tells : ∀ fault only, hook.listener = .noting (some (fault, only)) → fault.IsFailure
  closes : ∀ remote fault, hook.session.executor = .elsewhere remote →
    remote.closing = some fault → fault.IsFailure

-----------------------------------------------------------------------------------------
-- Telling
-----------------------------------------------------------------------------------------

namespace Shutdown

/-- The act leaves everything but executors and events as it is. -/
def KeepsArrangement {α : Type} (act : Act α) : Prop :=
  ∀ arrangement, Preserves (fun job => job.arrangement = arrangement) act

theorem KeepsArrangement.record {event : Event} (h : event.wires = false)
    : KeepsArrangement (record event) :=
  fun _ _ hj => (Job.arrangement_note h).trans hj

theorem keepsArrangement_tell (listener : Listener) (text : String)
    : KeepsArrangement (Console.tell listener text) := by
  intro arrangement
  cases listener with
  | nobody => exact .pure ()
  | user =>
      refine Preserves.state.bind fun job => ?_
      cases job.output with
      | noted => exact KeepsArrangement.record rfl arrangement
      | verbatim => exact KeepsArrangement.record rfl arrangement
      | laidOut columns =>
          refine (Preserves.ofResult _).bind fun written => ?_
          refine (KeepsArrangement.record rfl arrangement).bind fun _ => ?_
          cases written.problem with
          | none => exact .pure ()
          | some problem => exact .fail _
  | noting failing =>
      refine (KeepsArrangement.record rfl arrangement).bind fun _ => ?_
      cases failing with
      | none => exact .pure ()
      | some given =>
          dsimp only
          split
          · exact .fail _
          · exact .pure ()

theorem failsOnly_tell {hook : SessionHook} (h : hook.IsOrdinary) (text : String)
    : FailsOnly Fault.IsFailure (Console.tell hook.listener text) := by
  cases hl : hook.listener with
  | nobody => exact .pure ()
  | user => exact Console.failsOnly_notice .err text
  | noting failing =>
      refine (FailsOnly.change _).bind fun _ => ?_
      cases failing with
      | none => exact .pure ()
      | some given =>
          dsimp only
          split
          · exact .fail (h.tells given.1 given.2 hl)
          · exact .pure ()

-----------------------------------------------------------------------------------------
-- Closing
-----------------------------------------------------------------------------------------

theorem failIf_job (fault : Option Fault) (job : Job) : (failIf fault job).2 = job := by
  cases fault <;> rfl

theorem close_elsewhere {session : Session} {remote : RemoteExecutor}
    (hx : session.executor = .elsewhere remote) (job : Job)
    : session.close job =
        failIf remote.closing (job.note (.call "close_session" [.text session.handle])) := by
  rw [Session.close, hx]
  rfl

theorem close_here {session : Session} {number : Nat} (hx : session.executor = .here number)
    (job : Job)
    : session.close job = LocalExecutor.closeSession number session.handle job := by
  rw [Session.close, hx]
  rfl

/-- Closing a session of an executor of this job takes it off its executor and closes its connection;
where there is none it touches nothing.
-/
theorem closeSession_core (number : Nat) (handle : String) (job : Job)
    : (LocalExecutor.closeSession number handle job).2.core =
        match (LocalExecutor.ofJob number job).session? handle with
        | none => job.core
        | some own =>
            (({ job with
                executors := job.executors.set number
                  { LocalExecutor.ofJob number job with
                    sessions := (LocalExecutor.ofJob number job).sessions.filter
                      (·.1 != handle) } } : Job).note (.disconnect own.connection)).core := by
  rw [LocalExecutor.closeSession, LocalExecutor.withNumber_bind, LocalExecutor.ofJob]
  cases ((job.executors[number]?).getD {}).session? handle with
  | none => exact Job.core_note rfl
  | some own =>
      exact (core_bind (fun _ => .log _ _) _).trans
        (Lifetime.disconnect_rescued own.connection handle _).1

/-- After a session of this job was closed just those handles are open that were open before, without
the one that was closed.
-/
theorem isOpen_after_closeSession (number other : Nat) (handle name : String) (job : Job)
    : (LocalExecutor.ofJob other (LocalExecutor.closeSession number handle job).2).isOpen name =
        ((LocalExecutor.ofJob other job).isOpen name && !(other == number && name == handle)) := by
  have hcore := closeSession_core number handle job
  generalize (LocalExecutor.closeSession number handle job).2 = after at hcore ⊢
  cases hs : (LocalExecutor.ofJob number job).session? handle with
  | none =>
      rw [hs] at hcore
      rw [LocalExecutor.ofJob, Job.executors_of_core hcore, ← LocalExecutor.ofJob]
      by_cases he : other = number ∧ name = handle
      · obtain ⟨rfl, rfl⟩ := he
        simp [LocalExecutor.isOpen, hs]
      · have hne : (other == number && name == handle) = false := by simpa using he
        rw [hne, Bool.not_false, Bool.and_true]
  | some own =>
      rw [hs] at hcore
      have hlt : number < job.executors.length := by
        by_contra hge
        have hnone : job.executors[number]? = none := List.getElem?_eq_none (Nat.le_of_not_lt hge)
        rw [LocalExecutor.ofJob, hnone] at hs
        cases hs
      rw [LocalExecutor.ofJob, Job.executors_of_core hcore]
      show ((job.executors.set number _)[other]?.getD {}).isOpen name = _
      by_cases ho : other = number
      · subst ho
        rw [List.getElem?_set_self hlt, Option.getD_some, LocalExecutor.isOpen,
          LocalExecutor.session?_remove, LocalExecutor.isOpen]
        by_cases hn : name = handle <;> simp [hn]
      · rw [List.getElem?_set_ne (Ne.symm ho), ← LocalExecutor.ofJob]
        simp [ho]

theorem keepsArrangement_close (session : Session) : KeepsArrangement session.close := by
  intro arrangement
  rw [Session.close]
  cases session.executor with
  | elsewhere remote =>
      exact (KeepsArrangement.record rfl arrangement).bind fun _ => preserves_failIf _
  | here number =>
      have hlog : ∀ level message,
          Preserves (fun job => job.arrangement = arrangement) (log level message) :=
        fun _ _ => KeepsArrangement.record rfl arrangement
      refine (preserves_withNumber number).bind fun executor => ?_
      cases executor.session? session.handle with
      | none => exact hlog _ _
      | some own =>
          refine Preserves.bind (fun job hj => hj) fun _ => ?_
          refine Preserves.bind (Preserves.rescue ?_ fun _ => hlog _ _) fun _ => hlog _ _
          exact Preserves.state.bind fun job =>
            (KeepsArrangement.record rfl arrangement).bind fun _ => preserves_failIf _

/-- Closing never takes an event back. -/
theorem sessionEvents_close (session : Session) (job : Job)
    : job.sessionEvents <+: (session.close job).2.sessionEvents := by
  cases hx : session.executor with
  | elsewhere remote =>
      rw [close_elsewhere hx, failIf_job, Job.sessionEvents_note rfl]
      exact List.prefix_append _ _
  | here number =>
      have hcore := closeSession_core number session.handle job
      rw [close_here hx]
      split at hcore
      · exact Job.sessionEvents_of_core hcore ▸ List.prefix_refl _
      · rw [Job.sessionEvents_of_core hcore, Job.sessionEvents_note rfl]
        exact List.prefix_append _ _

/-- Closing a session asks it to close, also if that fails. -/
theorem askedToClose_close (session : Session) (job : Job)
    : session.AskedToClose (session.close job).2 := by
  rw [Session.AskedToClose]
  cases hx : session.executor with
  | elsewhere remote =>
      rw [close_elsewhere hx, failIf_job, Job.sessionEvents_note rfl]
      exact List.mem_append_right _ List.mem_cons_self
  | here number =>
      have hopen := isOpen_after_closeSession number number session.handle session.handle job
      rw [beq_self_eq_true, beq_self_eq_true, Bool.and_true, Bool.not_true, Bool.and_false] at hopen
      rw [close_here hx]
      exact hopen

theorem AskedToClose.of_eq {session : Session} {job after : Job}
    (he : after.sessionEvents = job.sessionEvents) (hx : after.executors = job.executors)
    (h : session.AskedToClose job)
    : session.AskedToClose after := by
  rw [Session.AskedToClose] at h ⊢
  rw [he, hx]
  exact h

theorem AskedToClose.of_core {session : Session} {job after : Job} (hc : after.core = job.core)
    : session.AskedToClose job → session.AskedToClose after :=
  AskedToClose.of_eq (Job.sessionEvents_of_core hc) (Job.executors_of_core hc)

/-- A session that has been asked to close stays so when another one is closed. -/
theorem AskedToClose.close (session other : Session)
    : Preserves session.AskedToClose other.close := by
  intro job h
  rw [Session.AskedToClose] at h ⊢
  cases hx : session.executor with
  | elsewhere remote =>
      rw [hx] at h
      exact (sessionEvents_close other job).subset h
  | here number =>
      rw [hx] at h
      cases ho : other.executor with
      | elsewhere remote =>
          rw [close_elsewhere ho, failIf_job]
          exact h
      | here place =>
          have hopen := isOpen_after_closeSession place number other.handle session.handle job
          rw [LocalExecutor.ofJob, LocalExecutor.ofJob, h, Bool.false_and] at hopen
          rw [close_here ho]
          exact hopen

/-- Closing fails in an ordinary way if the executors and the database do. -/
theorem isFailure_of_close {hook : SessionHook} (h : hook.IsOrdinary) {job : Job}
    (hd : ∀ connection fault, job.database.closing connection = some fault → fault.IsFailure)
    {fault : Fault} (he : (hook.session.close job).1 = .error fault)
    : fault.IsFailure := by
  cases hx : hook.session.executor with
  | elsewhere remote =>
      rw [close_elsewhere hx] at he
      cases hr : remote.closing with
      | none =>
          rw [hr] at he
          cases he
      | some raised =>
          rw [hr] at he
          obtain rfl := Except.error.inj he
          exact h.closes remote _ hx hr
  | here number =>
      rw [close_here hx, LocalExecutor.closeSession, LocalExecutor.withNumber_bind] at he
      cases hs : ((job.executors[number]?).getD {}).session? hook.session.handle with
      | none =>
          rw [hs] at he
          cases he
      | some own =>
          rw [hs] at he
          rcases fault_of_bind he with he | ⟨_, _, he⟩
          · cases he
          · rcases fault_of_bind he with he | ⟨_, _, he⟩
            · have hraised :=
                (Lifetime.disconnect_rescued own.connection hook.session.handle _).2 fault he
              exact hd own.connection fault hraised
            · cases he

-----------------------------------------------------------------------------------------
-- The body of a hook
-----------------------------------------------------------------------------------------

/-- What a hook does when it is called for the first time. -/
def body (own : SessionHook) : Act Unit := do
  (Console.tell own.listener startNotice).andFinally own.session.close
  Console.tell own.listener endNotice

/-- The state in which a hook counts as run. -/
def marked (number : Nat) (own : SessionHook) (job : Job) : Job :=
  { job with hooks := job.hooks.set number (.session { own with fired := true }) }

theorem fire_of_unfired {own : SessionHook} (h : own.fired = false) (number : Nat) (job : Job)
    : fire number own job = body own (marked number own job) := by
  rw [fire, h]
  rfl

theorem keepsArrangement_body (own : SessionHook) : KeepsArrangement (body own) := fun _ =>
  ((keepsArrangement_tell _ _ _).andFinally (keepsArrangement_close _ _)).bind fun _ =>
    keepsArrangement_tell _ _ _

/-- The session of a hook is asked to close whatever comes of the notice before. -/
theorem askedToClose_body (own : SessionHook) (job : Job)
    : own.session.AskedToClose (body own job).2 := by
  have hclosed := askedToClose_close own.session (Console.tell own.listener startNotice job).2
  rw [← andFinally_job] at hclosed
  have hend : ∀ _ : Unit, KeepsCore (Console.tell own.listener endNotice) :=
    fun _ => Console.keepsCore_tell own.listener endNotice
  exact AskedToClose.of_core (core_bind hend job) hclosed

/-- The sessions that have been asked to close stay so while the body of a hook runs. -/
theorem AskedToClose.body (session : Session) (own : SessionHook)
    : Preserves session.AskedToClose (body own) := by
  have htell : ∀ text, Preserves session.AskedToClose (Console.tell own.listener text) :=
    fun text => (Console.keepsCore_tell own.listener text).preserves fun _ _ => AskedToClose.of_core
  exact ((htell _).andFinally (AskedToClose.close session own.session)).bind fun _ => htell _

theorem isFailure_of_body {own : SessionHook} (h : own.IsOrdinary) {job : Job}
    (hd : ∀ connection fault, job.database.closing connection = some fault → fault.IsFailure)
    {fault : Fault} (he : (body own job).1 = .error fault)
    : fault.IsFailure := by
  rcases fault_of_bind he with he | ⟨_, _, he⟩
  · rcases fault_of_andFinally he with he | he
    · exact failsOnly_tell h startNotice job fault he
    · refine isFailure_of_close h ?_ he
      have htold := keepsArrangement_tell own.listener startNotice _ job rfl
      rw [Job.database_of_arrangement htold]
      exact hd
  · exact failsOnly_tell h endNotice _ fault he

-----------------------------------------------------------------------------------------
-- One call
-----------------------------------------------------------------------------------------

/-- Every hook closes a session and fails in ordinary ways only, and so does the database. The
sessions of the hooks that have run were asked to close.
-/
structure Sound (job : Job) : Prop where
  hooks : ∀ hook ∈ job.hooks, ∃ own, hook = .session own ∧ own.IsOrdinary
    ∧ (own.fired = true → own.session.AskedToClose job)
  database : ∀ connection fault,
    job.database.closing connection = some fault → fault.IsFailure

/-- From one state to another the bodies of hooks have run in the given order, each for a hook that
had not run before. Nothing else has touched a session, or a hook that was there.
-/
inductive Ran : List Nat → Job → Job → Prop where
  | refl (job : Job) : Ran [] job job
  | quiet {order : List Nat} {job between after : Job} (h : Ran order job between)
      (hooks : between.hooks <+: after.hooks)
      (events : after.sessionEvents = between.sessionEvents)
      (executors : after.executors = between.executors)
      : Ran order job after
  | body {order : List Nat} {job between : Job} {number : Nat} {own : SessionHook}
      (h : Ran order job between) (found : between.hooks[number]? = some (.session own))
      (unfired : own.fired = false)
      : Ran (order ++ [number]) job (fire number own between).2

/-- Of the hooks just those with the numbers have run since, as far as they were due. -/
structure Fires (numbers : List Nat) (job after : Job) : Prop where
  length_eq : after.hooks.length = job.hooks.length
  isDue_eq : ∀ number, after.isDue number = (job.isDue number && !numbers.contains number)
  arrangement_eq : after.arrangement = ({ job with hooks := after.hooks } : Job).arrangement

variable {job after : Job} {number : Nat} {own : SessionHook}

theorem Ran.trans {first second : List Nat} {last : Job} (h : Ran first job after)
    (hs : Ran second after last)
    : Ran (first ++ second) job last := by
  induction hs with
  | refl => exact (List.append_nil first).symm ▸ h
  | quiet _ hooks events executors ih => exact .quiet (ih h) hooks events executors
  | body _ found unfired ih =>
      rw [← List.append_assoc]
      exact .body (ih h) found unfired

theorem Fires.of_not_due (h : job.isDue number = false) : Fires [number] job job where
  length_eq := rfl
  isDue_eq other := by
    by_cases he : other = number <;> simp [he, h]
  arrangement_eq := rfl

theorem Fires.nil (job : Job) : Fires [] job job where
  length_eq := rfl
  isDue_eq number := by simp
  arrangement_eq := rfl

theorem Fires.trans {first second : List Nat} {last : Job} (h : Fires first job after)
    (hs : Fires second after last)
    : Fires (first ++ second) job last where
  length_eq := hs.length_eq.trans h.length_eq
  isDue_eq number := by
    rw [hs.isDue_eq, h.isDue_eq, List.contains_eq_mem, List.contains_eq_mem, List.contains_eq_mem]
    simp [Bool.and_assoc]
  arrangement_eq :=
    hs.arrangement_eq.trans
      (congrArg (fun kept : Job => { kept with hooks := last.hooks }) h.arrangement_eq)

/-- Events that wire no registry in fire no hook. -/
theorem Fires.note {numbers : List Nat} {event : Event} (h : Fires numbers job after)
    (he : event.wires = false)
    : Fires numbers job (after.note event) where
  length_eq := h.length_eq
  isDue_eq := h.isDue_eq
  arrangement_eq := (Job.arrangement_note he).trans h.arrangement_eq

/-- The hook whose body has run is not due any more. -/
theorem Fires.of_body (hn : job.hooks[number]? = some (.session own))
    (hkept : after.arrangement = (marked number own job).arrangement)
    : Fires [number] job after := by
  have hhooks : after.hooks = job.hooks.set number (.session { own with fired := true }) :=
    Job.hooks_of_arrangement hkept
  have hlt : number < job.hooks.length := (List.getElem?_eq_some_iff.mp hn).1
  refine ⟨by rw [hhooks, List.length_set], fun other => ?_, by rw [hkept, hhooks]; rfl⟩
  rw [Job.isDue, hhooks, Job.isDue]
  by_cases ho : other = number
  · subst ho
    simp [List.getElem?_set_self hlt]
  · simp [List.getElem?_set_ne (Ne.symm ho), ho]

/-- Nothing is needed of new hooks but that they are ordinary, as long as they have not run. -/
theorem Sound.of_quiet (h : Sound job)
    (hooks : ∀ hook ∈ after.hooks, hook ∈ job.hooks
      ∨ ∃ own, hook = .session own ∧ own.IsOrdinary ∧ own.fired = false)
    (events : after.sessionEvents = job.sessionEvents) (executors : after.executors = job.executors)
    (database : after.database = job.database)
    : Sound after where
  hooks := by
    intro hook hm
    rcases hooks hook hm with ho | ⟨own, rfl, ho, hf⟩
    · obtain ⟨own, he, ho, hc⟩ := h.hooks hook ho
      exact ⟨own, he, ho, fun ht => AskedToClose.of_eq events executors (hc ht)⟩
    · exact ⟨own, rfl, ho, fun ht => absurd ht (hf ▸ Bool.false_ne_true)⟩
  database := database ▸ h.database

theorem Sound.of_core (hc : after.core = job.core) (h : Sound job) : Sound after :=
  h.of_quiet (fun _ hm => Or.inl (Job.hooks_of_core hc ▸ hm)) (Job.sessionEvents_of_core hc)
    (Job.executors_of_core hc) (Job.database_of_core hc)

/-- The body of a hook keeps the job sound: its own session was asked to close, and no other one is
open again.
-/
theorem Sound.body (h : Sound job) (hown : own.IsOrdinary) (number : Nat)
    : Sound (body own (marked number own job)).2 := by
  have hkept := keepsArrangement_body own _ (marked number own job) rfl
  constructor
  case hooks =>
      intro hook hm
      rw [Job.hooks_of_arrangement hkept] at hm
      rcases List.mem_or_eq_of_mem_set hm with hm | rfl
      · obtain ⟨other, rfl, ho, hc⟩ := h.hooks hook hm
        exact ⟨other, rfl, ho, fun ht => AskedToClose.body other.session own _ (hc ht)⟩
      · exact ⟨_, rfl, ⟨hown.tells, hown.closes⟩, fun _ => askedToClose_body own _⟩
  case database =>
      rw [Job.database_of_arrangement hkept]
      exact h.database

theorem call_of_none (h : job.hooks[number]? = none) : call number job = (.ok (), job) := by
  show callBy (callHook 99) number job = _
  rw [callBy, state_bind, h]
  rfl

/-- A hook that is not due does nothing when it is called. -/
theorem call_of_not_due (h : Sound job) (hd : job.isDue number = false)
    : call number job = (.ok (), job) := by
  cases hn : job.hooks[number]? with
  | none => exact call_of_none hn
  | some hook =>
      obtain ⟨own, rfl, -, -⟩ := h.hooks hook (List.mem_of_getElem? hn)
      have hfired : own.fired = true := by simpa [Job.isDue, hn] using hd
      rw [Lifetime.call_of_session hn, fire, hfired]
      rfl

/-- A call of a hook runs its body if the hook is due, and does nothing otherwise. It fails in
ordinary ways only, and keeps the job sound.
-/
theorem Sound.call (h : Sound job) (number : Nat)
    : Sound (call number job).2 ∧ Fires [number] job (call number job).2
      ∧ Ran ([number].filter job.isDue) job (call number job).2
      ∧ ∀ fault, (call number job).1 = .error fault → fault.IsFailure := by
  cases hd : job.isDue number with
  | false =>
      rw [call_of_not_due h hd]
      refine ⟨h, .of_not_due hd, ?_, nofun⟩
      simpa [hd] using Ran.refl job
  | true =>
      obtain ⟨own, hn, hf⟩ : ∃ own, job.hooks[number]? = some (.session own)
          ∧ own.fired = false := by
        rw [Job.isDue] at hd
        split at hd
        · next own hn => exact ⟨own, hn, by simpa using hd⟩
        · exact nomatch hd
      obtain ⟨_, he, hown, -⟩ := h.hooks _ (List.mem_of_getElem? hn)
      obtain rfl := Hook.session.inj he
      have hran := (Ran.refl job).body hn hf
      rw [fire_of_unfired hf] at hran
      rw [Lifetime.call_of_session hn, fire_of_unfired hf]
      have hkept := keepsArrangement_body own _ (marked number own job) rfl
      refine ⟨h.body hown number, .of_body hn hkept, ?_, fun fault he => ?_⟩
      · simpa [hd] using hran
      · refine isFailure_of_body hown ?_ he
        exact h.database

end Shutdown

end SqlShell
