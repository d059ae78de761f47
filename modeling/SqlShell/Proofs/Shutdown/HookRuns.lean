import SqlShell.Proofs.Shutdown.HookCalls

/-! Whole histories of a registry. Hooks are registered and taken back, called one by one or all
together, and signals arrive; the body of a hook runs at most once in all that, and a run leaves no
registered hook behind.
-/

namespace SqlShell.Shutdown

open Act

-----------------------------------------------------------------------------------------
-- Histories
-----------------------------------------------------------------------------------------

/-- What may be asked of a registry and of its hooks. -/
inductive Request where
  | register (session : Session) (listener : Listener)
  | remove (hook : Nat)
  | call (hook : Nat)
  | run
  | signal (number : Nat)

namespace Request

/-- Does what is asked of the registry with the name. -/
def perform (name : RegistryName) : Request → Act Unit
  | .register session listener => do
      let _ ← Shutdown.register name session listener
  | .remove hook => Shutdown.remove name hook
  | .call hook => Shutdown.call hook
  | .run => runHooks Shutdown.call name
  | .signal number => handleSignal Shutdown.call name number

/-- The request asks for all hooks that are registered. -/
def asksForAll : Request → Bool
  | .run => true
  | .signal _ => true
  | _ => false

/-- The hooks whose bodies a request has to run, in order: those that it asks for and that are due,
the last one registered first.
-/
def bodies (name : RegistryName) (job : Job) : Request → List Nat
  | .call hook => [hook].filter job.isDue
  | .run => (job.registry name).hooks.reverse.filter job.isDue
  | .signal _ => (job.registry name).hooks.reverse.filter job.isDue
  | _ => []

/-- The hook that a request registers fails in ordinary ways only. -/
def IsOrdinary : Request → Prop
  | .register session listener => SessionHook.IsOrdinary { session, listener }
  | _ => True

/-- How a request ends: a run ends well, a signal asks to stop, and a single call may fail in an
ordinary way.
-/
def EndsIn : Request → Except Fault Unit → Prop
  | .call _, result => ∀ fault, result = .error fault → fault.IsFailure
  | .signal number, result =>
      result = .error { kind := .exit, message := toString (128 + number) }
  | _, result => result = .ok ()

end Request

/-- One step of a history: a request, the state it met, how it ended, and the state it left. -/
structure Step where
  request : Request
  before : Job
  result : Except Fault Unit
  after : Job

/-- The requests are done one after another, whatever comes of each. -/
def history (name : RegistryName) : List Request → Job → List Step
  | [], _ => []
  | request :: rest, job =>
      let (result, after) := request.perform name job
      { request, before := job, result, after } :: history name rest after

/-- The bodies that a step has to run. -/
def Step.bodies (name : RegistryName) (step : Step) : List Nat :=
  step.request.bodies name step.before

/-- The hook with the number has run, and its session has been asked to close. -/
def HasClosed (job : Job) (number : Nat) : Prop :=
  ∃ own, job.hooks[number]? = some (.session own) ∧ own.fired = true ∧ own.session.AskedToClose job

-----------------------------------------------------------------------------------------
-- Runs of all hooks
-----------------------------------------------------------------------------------------

variable {job after : Job} {name : RegistryName} {number : Nat}

theorem Sound.hasClosed (h : Sound job) (hf : job.HasFired number) : HasClosed job number := by
  obtain ⟨hlt, hd⟩ := hf
  have hn : job.hooks[number]? = some job.hooks[number] := List.getElem?_eq_getElem hlt
  obtain ⟨own, he, -, hc⟩ := h.hooks _ (List.getElem_mem hlt)
  rw [he] at hn
  have hfired : own.fired = true := by simpa [Job.isDue, hn] using hd
  exact ⟨own, hn, hfired, hc hfired⟩

/-- A hook that fails in a run is only written to the log. -/
theorem Sound.attempt (h : Sound job) (number : Nat) (text : String)
    : ∃ after, (Shutdown.call number).rescue FaultKind.isOrdinary (fun _ => log .error text) job =
          (.ok (), after)
        ∧ Sound after ∧ Fires [number] job after ∧ Ran ([number].filter job.isDue) job after := by
  obtain ⟨hsound, hfires, hran, hfails⟩ := h.call number
  cases hc : Shutdown.call number job with
  | mk result called =>
      rw [hc] at hsound hfires hran hfails
      cases result with
      | ok value => exact ⟨called, by rw [rescue_apply, hc], hsound, hfires, hran⟩
      | error fault =>
          have hk : fault.kind.isOrdinary = true := hfails fault rfl
          refine ⟨called.note (.log .error text), ?_, hsound.of_core (Job.core_note rfl),
            hfires.note rfl, hran.quiet (List.prefix_refl _) ?_ rfl⟩
          · rw [rescue_apply, hc]
            exact if_pos hk
          · exact Job.sessionEvents_of_core (Job.core_note rfl)

/-- Hooks that are run one after another all get their turn, by induction on them: the ones before
make none of the others run.
-/
theorem Sound.attempts (text : Nat → String) {numbers : List Nat} (hn : numbers.Nodup)
    (h : Sound job)
    : ∃ after, forEach numbers (fun number =>
            (Shutdown.call number).rescue FaultKind.isOrdinary fun _ => log .error (text number)) job =
          (.ok (), after)
        ∧ Sound after ∧ Fires numbers job after ∧ Ran (numbers.filter job.isDue) job after := by
  induction numbers generalizing job with
  | nil => exact ⟨job, rfl, h, .nil job, .refl job⟩
  | cons number rest ih =>
      obtain ⟨hnot, hrest⟩ := List.nodup_cons.mp hn
      obtain ⟨between, he, hsound, hfires, hran⟩ := h.attempt number (text number)
      obtain ⟨after, hl, hlast, hothers, hothersRan⟩ := ih hrest hsound
      refine ⟨after, (bind_of_ok he).trans hl, hlast, hfires.trans hothers, ?_⟩
      have hdue : rest.filter between.isDue = rest.filter job.isDue := by
        refine List.filter_congr fun other ho => ?_
        have hne : other ≠ number := fun heq => hnot (heq ▸ ho)
        simp [hfires.isDue_eq, hne]
      rw [hdue] at hothersRan
      rw [← List.singleton_append, List.filter_append]
      exact hran.trans hothersRan

-----------------------------------------------------------------------------------------
-- One request
-----------------------------------------------------------------------------------------

/-- The job is sound, and the registry holds hooks that are there, in the order of their numbers. A
hook gets its number when it is registered, so this is the order of registration.
-/
structure Tidy (name : RegistryName) (job : Job) : Prop extends Sound job where
  sorted : (job.registry name).hooks.Pairwise (· < ·)
  there : ∀ number ∈ (job.registry name).hooks, number < job.hooks.length

/-- What a request does in a state that is tidy. -/
structure Performs (name : RegistryName) (request : Request) (job : Job)
    (result : Except Fault Unit) (after : Job) : Prop where
  tidy : Tidy name after
  ran : Ran (request.bodies name job) job after
  fired : ∀ number, job.HasFired number → after.HasFired number
  bodies_fired : ∀ number ∈ request.bodies name job, after.HasFired number
  all_fired : request.asksForAll = true →
    ∀ number ∈ (job.registry name).hooks, after.HasFired number
  ends : request.EndsIn result
  signals_eq : after.signals = job.signals
  installed : (job.registry name).installed = true → (after.registry name).installed = true
  wirings_eq : after.wirings =
    job.wirings ++
      if (after.registry name).installed && !(job.registry name).installed then wiring job.signals
      else []

/-- Requests that only call hooks leave the registry as it is. -/
theorem Performs.of_fires {request : Request} {result : Except Fault Unit} {numbers : List Nat}
    (h : Tidy name job) (sound : Sound after) (fires : Fires numbers job after)
    (ran : Ran (numbers.filter job.isDue) job after)
    (bodies : request.bodies name job = numbers.filter job.isDue)
    (all : request.asksForAll = true → ∀ number ∈ (job.registry name).hooks, number ∈ numbers)
    (ends : request.EndsIn result)
    : Performs name request job result after := by
  have hregistry : after.registry name = job.registry name :=
    Job.registry_of_arrangement fires.arrangement_eq name
  have hnow : ∀ number ∈ numbers, number < job.hooks.length → after.HasFired number := by
    intro number hm hlt
    refine ⟨fires.length_eq ▸ hlt, ?_⟩
    rw [fires.isDue_eq, List.contains_iff_mem.mpr hm, Bool.not_true, Bool.and_false]
  constructor
  case tidy =>
      refine ⟨sound, hregistry ▸ h.sorted, ?_⟩
      rw [hregistry, fires.length_eq]
      exact h.there
  case ran => exact bodies ▸ ran
  case fired =>
      intro number hf
      refine ⟨fires.length_eq ▸ hf.1, ?_⟩
      rw [fires.isDue_eq, hf.2, Bool.false_and]
  case bodies_fired =>
      intro number hm
      rw [bodies] at hm
      obtain ⟨hm, hd⟩ := List.mem_filter.mp hm
      exact hnow number hm (Job.lt_of_isDue hd)
  case all_fired =>
      intro ha number hm
      exact hnow number (all ha number hm) (h.there number hm)
  case ends => exact ends
  case signals_eq => exact (congrArg Job.signals fires.arrangement_eq :)
  case installed => exact fun hi => hregistry ▸ hi
  case wirings_eq =>
      rw [hregistry, Bool.and_not_self]
      exact (Job.wirings_of_arrangement fires.arrangement_eq).trans (List.append_nil _).symm

theorem Tidy.call (h : Tidy name job) (hook : Nat)
    : Performs name (.call hook) job ((Request.call hook).perform name job).1
        ((Request.call hook).perform name job).2 := by
  obtain ⟨hsound, hfires, hran, hfails⟩ := h.toSound.call hook
  exact .of_fires h hsound hfires hran rfl nofun hfails

theorem Tidy.runHooks (h : Tidy name job)
    : ∃ after, Shutdown.runHooks Shutdown.call name job = (.ok (), after) ∧ Sound after
        ∧ Fires (job.registry name).hooks.reverse job after
        ∧ Ran ((job.registry name).hooks.reverse.filter job.isDue) job after :=
  h.toSound.attempts _ (List.nodup_reverse.mpr (h.sorted.imp Nat.ne_of_lt))

theorem Tidy.run (h : Tidy name job)
    : Performs name .run job (Request.run.perform name job).1 (Request.run.perform name job).2 := by
  obtain ⟨after, he, hsound, hfires, hran⟩ := h.runHooks
  rw [Request.perform, he]
  exact .of_fires h hsound hfires hran rfl (fun _ _ hm => List.mem_reverse.mpr hm) rfl

theorem Tidy.note {event : Event} (h : Tidy name job) (ht : event.touchesSession = false)
    : Tidy name (job.note event) where
  toSound := h.toSound.of_core (Job.core_note ht)
  sorted := by
    cases name <;> exact h.sorted
  there := by
    cases name <;> exact h.there

theorem Tidy.signal (h : Tidy name job) (number : Nat)
    : Performs name (.signal number) job ((Request.signal number).perform name job).1
        ((Request.signal number).perform name job).2 := by
  generalize hw : Event.log .warning ("Received signal " ++ toString number ++ ", shutting down") =
    warning
  have hwires : warning.wires = false := hw ▸ rfl
  have hcore : (job.note warning).core = job.core := Job.core_note (hw ▸ rfl)
  obtain ⟨after, he, hsound, hfires, hran⟩ :=
    (h.note (hw ▸ rfl : warning.touchesSession = false)).runHooks
  have hsignal : (Request.signal number).perform name job =
      (.error { kind := .exit, message := toString (128 + number) }, after) := by
    show (Shutdown.runHooks Shutdown.call name >>= fun _ => fail _) (job.note _) = _
    rw [hw, bind_of_ok he]
    rfl
  have hregistry : (job.note warning).registry name = job.registry name := by
    cases name <;> rfl
  rw [hregistry] at hfires hran
  rw [hsignal]
  have hquiet : Ran [] job (job.note warning) :=
    (Ran.refl job).quiet (List.prefix_refl _) (Job.sessionEvents_of_core hcore) rfl
  refine .of_fires h hsound (((Fires.nil job).note hwires).trans hfires) (hquiet.trans hran) rfl
    (fun _ _ hm => List.mem_reverse.mpr hm) rfl

/-- Requests that run no hook may add hooks that have not run. -/
theorem Performs.of_quiet {request : Request} {new : List Hook} (h : Tidy name job)
    (bodies : request.bodies name job = []) (all : request.asksForAll = false)
    (ends : request.EndsIn (.ok ()))
    (hooks : after.hooks = job.hooks ++ new)
    (ordinary : ∀ hook ∈ new, ∃ own, hook = .session own ∧ own.IsOrdinary ∧ own.fired = false)
    (events : after.sessionEvents = job.sessionEvents) (executors : after.executors = job.executors)
    (database : after.database = job.database) (signals : after.signals = job.signals)
    (sorted : (after.registry name).hooks.Pairwise (· < ·))
    (there : ∀ number ∈ (after.registry name).hooks, number < after.hooks.length)
    (installed : (job.registry name).installed = true → (after.registry name).installed = true)
    (wirings : after.wirings =
      job.wirings ++
        if (after.registry name).installed && !(job.registry name).installed
        then wiring job.signals else [])
    : Performs name request job (.ok ()) after := by
  constructor
  case tidy =>
      refine ⟨h.toSound.of_quiet ?_ events executors database, sorted, there⟩
      intro hook hm
      rw [hooks] at hm
      exact (List.mem_append.mp hm).imp_right (ordinary hook)
  case ran =>
      rw [bodies]
      exact (Ran.refl job).quiet (hooks ▸ List.prefix_append _ _) events executors
  case fired =>
      rintro number ⟨hlt, hd⟩
      refine ⟨by rw [hooks, List.length_append]; omega, ?_⟩
      rw [Job.isDue, hooks, List.getElem?_append_left hlt]
      exact hd
  case bodies_fired => exact fun number hm => absurd (bodies ▸ hm) List.not_mem_nil
  case all_fired => exact fun ha => absurd (all ▸ ha) Bool.false_ne_true
  case ends => exact ends
  case signals_eq => exact signals
  case installed => exact installed
  case wirings_eq => exact wirings

theorem Tidy.remove (h : Tidy name job) (hook : Nat)
    : Performs name (.remove hook) job ((Request.remove hook).perform name job).1
        ((Request.remove hook).perform name job).2 := by
  have hremove : (Request.remove hook).perform name job =
      (.ok (), job.setRegistry name
        { job.registry name with hooks := (job.registry name).hooks.erase hook }) :=
    rfl
  have hsorted : ((job.registry name).hooks.erase hook).Pairwise (· < ·) :=
    h.sorted.sublist List.erase_sublist
  have hthere : ∀ number ∈ (job.registry name).hooks.erase hook, number < job.hooks.length :=
    fun number hm => h.there number (List.mem_of_mem_erase hm)
  have hhooks : ∀ registry, (job.setRegistry name registry).hooks = job.hooks ++ [] := by simp
  rw [hremove]
  refine .of_quiet h rfl rfl rfl (hhooks _) (fun _ hm => absurd hm List.not_mem_nil) ?_ ?_ ?_ ?_ ?_
    ?_ ?_ ?_
  · simp [Job.sessionEvents]
  · simp
  · simp
  · simp
  · simpa using hsorted
  · simpa using hthere
  · simp
  · simp [Job.wirings]

theorem Tidy.register (h : Tidy name job) {session : Session} {listener : Listener}
    (ho : SessionHook.IsOrdinary { session, listener })
    : Performs name (.register session listener) job
        ((Request.register session listener).perform name job).1
        ((Request.register session listener).perform name job).2 := by
  generalize hj :
    ({ job with hooks := job.hooks ++ [.session { session, listener }] } : Job) = hooked
  generalize hm : Event.log .debug ("Registered shutdown hook for session " ++ session.handle) =
    message
  have hregister : (Request.register session listener).perform name job =
      (.ok (), (enrolled name job.hooks.length hooked).note message) := by
    rw [← hj, ← hm]
    exact bind_of_ok (register_apply name session listener job)
  have hregistry : hooked.registry name = job.registry name := by
    rw [← hj]
    cases name <;> rfl
  have hcore : ((enrolled name job.hooks.length hooked).note message).core =
      (hooked.setRegistry name
        { hooks := (job.registry name).hooks ++ [job.hooks.length], installed := true }).core := by
    rw [← hregistry, Job.core_note (hm ▸ rfl), core_enrolled]
  have hwirings : ((enrolled name job.hooks.length hooked).note message).wirings =
      job.wirings ++ if (job.registry name).installed then [] else wiring job.signals := by
    rw [Job.wirings_note (hm ▸ rfl), wirings_enrolled, hregistry, ← hj]
    rfl
  have hhooks : ((enrolled name job.hooks.length hooked).note message).hooks =
      job.hooks ++ [.session { session, listener }] := by
    rw [Job.hooks_of_core hcore, Job.hooks_setRegistry, ← hj]
  have hregistered : ((enrolled name job.hooks.length hooked).note message).registry name =
      { hooks := (job.registry name).hooks ++ [job.hooks.length], installed := true } := by
    rw [← hregistry, ← registry_enrolled]
    cases name <;> rfl
  rw [hregister]
  refine .of_quiet h rfl rfl rfl hhooks ?_ ?_ ?_ ?_ ?_ ?_ ?_ ?_ ?_
  · intro hook hm
    obtain rfl := List.mem_singleton.mp hm
    exact ⟨_, rfl, ho, rfl⟩
  · rw [Job.sessionEvents_of_core hcore, Job.sessionEvents, Job.trace_setRegistry, ← hj]
    rfl
  · rw [Job.executors_of_core hcore, Job.executors_setRegistry, ← hj]
  · rw [Job.database_of_core hcore, Job.database_setRegistry, ← hj]
  · have hsignals : hooked.signals = job.signals := hj ▸ rfl
    exact (congrArg Job.signals hcore).trans ((Job.signals_setRegistry ..).trans hsignals)
  · rw [hregistered]
    refine List.pairwise_append.mpr ⟨h.sorted, List.pairwise_singleton _ _, ?_⟩
    intro number hr other ho
    rw [List.mem_singleton.mp ho]
    exact h.there number hr
  · rw [hregistered, hhooks]
    intro number hr
    rw [List.length_append, List.length_singleton]
    rcases List.mem_append.mp hr with hr | hr
    · have hlt := h.there number hr
      omega
    · have heq := List.mem_singleton.mp hr
      omega
  · rw [hregistered]
    exact fun _ => rfl
  · rw [hregistered, hwirings]
    cases (job.registry name).installed <;> rfl

/-- Whatever is asked keeps the registry tidy. -/
theorem Tidy.perform (h : Tidy name job) {request : Request} (ho : request.IsOrdinary)
    : Performs name request job (request.perform name job).1 (request.perform name job).2 := by
  cases request with
  | register session listener => exact h.register ho
  | remove hook => exact h.remove hook
  | call hook => exact h.call hook
  | run => exact h.run
  | signal number => exact h.signal number

-----------------------------------------------------------------------------------------
-- Whole histories
-----------------------------------------------------------------------------------------

/-- Since the start the registry has been wired in once if it has become installed, and not at all
otherwise.
-/
structure Wired (name : RegistryName) (start job : Job) : Prop where
  signals_eq : job.signals = start.signals
  installed : (start.registry name).installed = true → (job.registry name).installed = true
  wirings_eq : job.wirings =
    start.wirings ++
      if (job.registry name).installed && !(start.registry name).installed then
        wiring start.signals
      else []

variable {start : Job} {request : Request} {requests : List Request} {result : Except Fault Unit}

theorem Wired.refl (name : RegistryName) (start : Job) : Wired name start start where
  signals_eq := rfl
  installed := id
  wirings_eq := by simp

theorem Wired.perform (h : Wired name start job) (hp : Performs name request job result after)
    : Wired name start after where
  signals_eq := hp.signals_eq.trans h.signals_eq
  installed := hp.installed ∘ h.installed
  wirings_eq := by
    have hs := h.installed
    have ha := hp.installed
    rw [hp.wirings_eq, h.wirings_eq, h.signals_eq]
    cases hi : (start.registry name).installed <;> cases hj : (job.registry name).installed <;>
      simp_all

/-- What every step of a history does, by induction on the requests. -/
theorem Tidy.each_step (h : Tidy name job) (hw : Wired name start job)
    (ho : ∀ request ∈ requests, request.IsOrdinary)
    : ∀ step ∈ history name requests job, Tidy name step.before
        ∧ Performs name step.request step.before step.result step.after
        ∧ Wired name start step.after := by
  induction requests generalizing job with
  | nil => exact fun step hs => absurd hs List.not_mem_nil
  | cons request rest ih =>
      have hp := h.perform (ho request List.mem_cons_self)
      have hwired := hw.perform hp
      intro step hs
      rcases List.mem_cons.mp hs with rfl | hs
      · exact ⟨h, hp, hwired⟩
      · exact ih hp.tidy hwired (fun other hm => ho other (List.mem_cons_of_mem _ hm)) step hs

/-- The bodies that a request runs are those of different hooks, the last registered first. -/
theorem Tidy.bodies_sorted (h : Tidy name job) (request : Request)
    : (request.bodies name job).Pairwise (· > ·) := by
  have hall : ((job.registry name).hooks.reverse.filter job.isDue).Pairwise (· > ·) :=
    (List.pairwise_reverse.mpr h.sorted).filter _
  cases request with
  | register session listener => exact .nil
  | remove hook => exact .nil
  | call hook => exact (List.pairwise_singleton _ _).filter _
  | run => exact hall
  | signal number => exact hall

theorem isDue_of_mem_bodies (hm : number ∈ request.bodies name job) : job.isDue number = true := by
  cases request with
  | register session listener => exact absurd hm List.not_mem_nil
  | remove hook => exact absurd hm List.not_mem_nil
  | call hook => exact (List.mem_filter.mp hm).2
  | run => exact (List.mem_filter.mp hm).2
  | signal signal => exact (List.mem_filter.mp hm).2

/-- No body runs twice in a history, and none of a hook that had run before: by induction on the
requests, since a hook that has run stays so.
-/
theorem Tidy.bodies_nodup (h : Tidy name job) (ho : ∀ request ∈ requests, request.IsOrdinary)
    : ((history name requests job).flatMap (Step.bodies name)).Nodup
      ∧ ∀ number ∈ (history name requests job).flatMap (Step.bodies name),
          ¬ job.HasFired number := by
  induction requests generalizing job with
  | nil => exact ⟨.nil, fun number hm => absurd hm List.not_mem_nil⟩
  | cons request rest ih =>
      have hp := h.perform (ho request List.mem_cons_self)
      obtain ⟨hnodup, hnew⟩ := ih hp.tidy fun other hm => ho other (List.mem_cons_of_mem _ hm)
      have hnow : (request.bodies name job).Nodup := (h.bodies_sorted request).imp Nat.ne_of_gt
      constructor
      · refine List.nodup_append.mpr ⟨hnow, hnodup, fun number hm other hr heq => ?_⟩
        exact hnew other hr (heq ▸ hp.bodies_fired number hm)
      · intro number hm hf
        rcases List.mem_append.mp hm with hm | hm
        · exact absurd (isDue_of_mem_bodies hm) (hf.2 ▸ Bool.false_ne_true)
        · exact hnew number hm (hp.fired number hf)

/-- What is right of a step in a history. It runs just the bodies that it asks for and that are due,
the last registered hook first, and however those fail; after a run or a signal every hook that was
registered has run, and its session was asked to close; a signal asks the job to stop. Up to here the
registry has been wired in once at most.
-/
structure Step.IsRight (name : RegistryName) (start : Job) (step : Step) : Prop where
  ran : Ran (step.bodies name) step.before step.after
  sorted : (step.bodies name).Pairwise (· > ·)
  closed : step.request.asksForAll = true →
    ∀ number ∈ (step.before.registry name).hooks, HasClosed step.after number
  ends : step.request.EndsIn step.result
  wirings : step.after.wirings =
    start.wirings ++
      if (step.after.registry name).installed && !(start.registry name).installed then
        wiring start.signals
      else []

/-- A registry that starts without hooks may be asked for anything, while notices and closings fail in
ordinary ways: no body of a hook runs twice in the whole history, and every step is right.
-/
theorem hooks_run_once (name : RegistryName) (requests : List Request) (start : Job)
    (hooks : start.hooks = []) (registered : (start.registry name).hooks = [])
    (database : ∀ connection fault,
      start.database.closing connection = some fault → fault.IsFailure)
    (ordinary : ∀ request ∈ requests, request.IsOrdinary)
    : ((history name requests start).flatMap (Step.bodies name)).Nodup
      ∧ ∀ step ∈ history name requests start, step.IsRight name start := by
  have hsound : Sound start :=
    ⟨fun hook hm => absurd (hooks ▸ hm) List.not_mem_nil, database⟩
  have htidy : Tidy name start :=
    ⟨hsound, registered ▸ .nil, fun number hm => absurd (registered ▸ hm) List.not_mem_nil⟩
  refine ⟨(htidy.bodies_nodup ordinary).1, fun step hs => ?_⟩
  obtain ⟨hbefore, hp, hwired⟩ := htidy.each_step (.refl name start) ordinary step hs
  constructor
  case ran => exact hp.ran
  case sorted => exact hbefore.bodies_sorted step.request
  case closed => exact fun ha number hm => hp.tidy.toSound.hasClosed (hp.all_fired ha number hm)
  case ends => exact hp.ends
  case wirings => exact hwired.wirings_eq

/-- The failure of a session elsewhere to close, and of a listener to take a notice. -/
def brokenPipe : Fault :=
  { kind := .system .general, message := "Broken pipe" }

/-- A request to guard a session elsewhere which fails to close, like each notice before and after. -/
def registerFailing (handle : String) : Request :=
  .register { handle, executor := .elsewhere { closing := some brokenPipe } }
    (.noting (some (brokenPipe, none)))

theorem isOrdinary_registerFailing (handle : String) : (registerFailing handle).IsOrdinary where
  tells := by
    intro fault only he
    obtain ⟨rfl, -⟩ := Prod.mk.inj (Option.some.inj (Listener.noting.inj he))
    rfl
  closes := by
    intro remote fault hx hc
    obtain rfl := Executor.elsewhere.inj hx
    obtain rfl := Option.some.inj hc
    rfl

/-- Every notice and every closing fails, and still each hook that is registered gets its turn. -/
theorem hooks_run_once_after_failures
    : let requests := [registerFailing "a", registerFailing "b", .call 0, .run, .signal 15,
        registerFailing "a", registerFailing "c", registerFailing "d", .remove 3, .run]
      (∀ request ∈ requests, request.IsOrdinary)
      ∧ (history .special requests {}).map (Step.bodies .special) =
          [[], [], [0], [1], [], [], [], [], [], [4, 2]]
      ∧ ((history .special requests {}).flatMap (Step.bodies .special)).Nodup
      ∧ ∀ step ∈ history .special requests {}, step.IsRight .special {} := by
  intro requests
  have hordinary : ∀ request ∈ requests, request.IsOrdinary := by
    have hfailing := isOrdinary_registerFailing
    simp only [requests, List.forall_mem_cons]
    exact ⟨hfailing "a", hfailing "b", trivial, trivial, trivial, hfailing "a", hfailing "c",
      hfailing "d", trivial, trivial, fun _ hm => absurd hm List.not_mem_nil⟩
  exact ⟨hordinary, by decide +kernel,
    hooks_run_once .special requests {} rfl rfl nofun hordinary⟩

end SqlShell.Shutdown
