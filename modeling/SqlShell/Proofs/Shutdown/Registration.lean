import SqlShell.Proofs.Job.CoreState
import SqlShell.Shutdown.Registry

/-! Registering hooks. A registry is wired into the job by the first hook that is registered in it, and
by no later one.
-/

namespace SqlShell

/-- The event wires a registry into the job. -/
def Event.wires : Event → Bool
  | .exitAction => true
  | .signalAction _ => true
  | _ => false

/-- The events that wire registries into the job, in order. -/
def Job.wirings (job : Job) : List Event :=
  job.trace.filter Event.wires

namespace Job

section

variable (job : Job) (name : RegistryName) (registry : Registry)

@[simp]
theorem registry_setRegistry : (job.setRegistry name registry).registry name = registry := by
  cases name <;> rfl

@[simp]
theorem hooks_setRegistry : (job.setRegistry name registry).hooks = job.hooks := by
  cases name <;> rfl

@[simp]
theorem executors_setRegistry : (job.setRegistry name registry).executors = job.executors := by
  cases name <;> rfl

@[simp]
theorem database_setRegistry : (job.setRegistry name registry).database = job.database := by
  cases name <;> rfl

@[simp]
theorem signals_setRegistry : (job.setRegistry name registry).signals = job.signals := by
  cases name <;> rfl

@[simp]
theorem trace_setRegistry : (job.setRegistry name registry).trace = job.trace := by
  cases name <;> rfl

end

theorem wirings_note {job : Job} {event : Event} (h : event.wires = false)
    : (job.note event).wirings = job.wirings := by
  simp [wirings, note, List.filter_append, h]

end Job

namespace Shutdown

open Act

/-- The events that wire a registry into a job which has the given signals. -/
def wiring (signals : List Nat) : List Event :=
  .exitAction :: signals.map .signalAction

theorem filter_wires_wiring (signals : List Nat)
    : (wiring signals).filter Event.wires = wiring signals := by
  refine List.filter_eq_self.mpr fun event hm => ?_
  rcases List.mem_cons.mp hm with rfl | hm
  · rfl
  · obtain ⟨signal, -, rfl⟩ := List.mem_map.mp hm
    rfl

theorem filter_touchesSession_wiring (signals : List Nat)
    : (wiring signals).filter Event.touchesSession = [] := by
  refine List.filter_eq_nil_iff.mpr fun event hm => ?_
  rcases List.mem_cons.mp hm with rfl | hm
  · exact Bool.false_ne_true
  · obtain ⟨signal, -, rfl⟩ := List.mem_map.mp hm
    exact Bool.false_ne_true

theorem forEach_record {α : Type} (event : α → Event) (items : List α) (job : Job)
    : forEach items (fun item => record (event item)) job =
        (.ok (), { job with trace := job.trace ++ items.map event }) := by
  induction items generalizing job with
  | nil => simp [forEach, pure_apply]
  | cons item rest ih =>
      have hrest := ih (job.note (event item))
      rw [Job.note, List.append_assoc, List.singleton_append] at hrest
      exact hrest

/-- Wiring a registry in never fails, and does nothing if that was done before. -/
theorem install_apply (name : RegistryName) (job : Job)
    : install name true job =
        (.ok (), if (job.registry name).installed then job
          else { job.setRegistry name { job.registry name with installed := true } with
            trace := job.trace ++ wiring job.signals }) := by
  cases hi : (job.registry name).installed with
  | true =>
      show (if (job.registry name).installed then pure () else _ : Act Unit) job = _
      rw [hi]
      rfl
  | false =>
      have hsignals := forEach_record .signalAction job.signals
        ((job.setRegistry name { job.registry name with installed := true }).note .exitAction)
      have hinstall : install name true job =
          forEach job.signals (fun signal => record (.signalAction signal))
            ((job.setRegistry name { job.registry name with installed := true }).note
              .exitAction) := by
        show (if (job.registry name).installed then pure () else _ : Act Unit) job = _
        rw [hi]
        rfl
      rw [hinstall, hsignals, Job.note, Job.trace_setRegistry, List.append_assoc]
      rfl

/-- The state in which a registry has a hook more, and is wired in. -/
def enrolled (name : RegistryName) (number : Nat) (job : Job) : Job :=
  { job.setRegistry name { hooks := (job.registry name).hooks ++ [number], installed := true } with
    trace :=
      job.trace ++ if (job.registry name).installed then [] else wiring job.signals }

@[simp]
theorem registry_enrolled (name : RegistryName) (number : Nat) (job : Job)
    : (enrolled name number job).registry name =
        { hooks := (job.registry name).hooks ++ [number], installed := true } := by
  cases name <;> rfl

theorem wirings_enrolled (name : RegistryName) (number : Nat) (job : Job)
    : (enrolled name number job).wirings =
        job.wirings ++ if (job.registry name).installed then [] else wiring job.signals := by
  cases hi : (job.registry name).installed <;>
    simp [Job.wirings, enrolled, hi, filter_wires_wiring]

theorem core_enrolled (name : RegistryName) (number : Nat) (job : Job)
    : (enrolled name number job).core =
        (job.setRegistry name
          { hooks := (job.registry name).hooks ++ [number], installed := true }).core := by
  cases hi : (job.registry name).installed <;> cases name <;>
    simp_all [Job.core, Job.sessionEvents, Job.setRegistry, enrolled, filter_touchesSession_wiring]

theorem install_add_bind {β : Type} (name : RegistryName) (number : Nat) (next : Unit → Act β)
    (job : Job)
    : (do install name true; add name number >>= next) job = next () (enrolled name number job) := by
  rw [bind_of_ok (install_apply name job), add, changeHooks, change_bind]
  cases name with
  | special =>
      cases hi : job.special.installed <;> simp [enrolled, Job.registry, Job.setRegistry, hi]
  | standard =>
      cases hi : job.standard.installed <;> simp [enrolled, Job.registry, Job.setRegistry, hi]

/-- Registering a hook for a session never fails. -/
theorem register_apply (name : RegistryName) (session : Session) (listener : Listener) (job : Job)
    : register name session listener job =
        (.ok job.hooks.length,
          (enrolled name job.hooks.length
              { job with hooks := job.hooks ++ [.session { session, listener }] }).note
            (.log .debug ("Registered shutdown hook for session " ++ session.handle))) :=
  install_add_bind name job.hooks.length _ _

end Shutdown

end SqlShell
