import SqlShell.Proofs.Job.Acts
import SqlShell.Shutdown.Program

/-! Which faults acts may end with. Output fails in ordinary ways only, and the run of hooks in
others only, since it passes over ordinary failures.
-/

namespace SqlShell

namespace Act

variable {α β : Type} {P : Fault → Prop}

/-- The act ends with no other faults. -/
def FailsOnly (P : Fault → Prop) (act : Act α) : Prop :=
  ∀ job fault, (act job).1 = .error fault → P fault

theorem FailsOnly.pure (value : α) : FailsOnly P (pure value : Act α) :=
  fun _ _ h => nomatch h

theorem FailsOnly.fail {fault : Fault} (h : P fault) : FailsOnly P (fail fault : Act α) :=
  fun _ _ he => Except.error.inj he ▸ h

theorem FailsOnly.state : FailsOnly P state :=
  fun _ _ h => nomatch h

theorem FailsOnly.change (f : Job → Job) : FailsOnly P (change f) :=
  fun _ _ h => nomatch h

theorem FailsOnly.ofResult {result : Except Fault α} (h : ∀ fault, result = .error fault → P fault)
    : FailsOnly P (ofResult result) := by
  cases result with
  | ok value => exact .pure value
  | error fault => exact .fail (h fault rfl)

/-- The faults of two acts are those of either. -/
theorem FailsOnly.bind {act : Act α} {next : α → Act β} (h : FailsOnly P act)
    (hn : ∀ value, FailsOnly P (next value))
    : FailsOnly P (act >>= next) := by
  intro job fault he
  rw [bind_apply] at he
  have hj := h job
  cases ha : act job with
  | mk result after =>
      rw [ha] at he hj
      cases result with
      | ok value => exact hn value after fault he
      | error first => exact hj fault (congrArg Except.error (Except.error.inj he))

/-- The faults of acts for several items are those of the acts, by induction on the items. -/
theorem FailsOnly.forEach {items : List α} {act : α → Act Unit}
    (h : ∀ item, FailsOnly P (act item))
    : FailsOnly P (forEach items act) := by
  induction items with
  | nil => exact .pure ()
  | cons item rest ih => exact (h item).bind fun _ => ih

/-- Handling faults leaves those that are not handled. -/
theorem FailsOnly.rescue {act : Act α} {kinds : FaultKind → Bool} {handle : Fault → Act α}
    (h : ∀ fault, kinds fault.kind = false → P fault) (hh : ∀ fault, FailsOnly P (handle fault))
    : FailsOnly P (act.rescue kinds handle) := by
  intro job fault he
  rw [rescue_apply] at he
  split at he
  · exact nomatch he
  · next first after _ =>
      split at he
      · exact hh first after fault he
      · next hk => exact Except.error.inj he ▸ h first (eq_false_of_ne_true hk)

end Act

open Act

/-- The fault is a failure and not a request to stop. -/
def Fault.IsFailure (fault : Fault) : Prop :=
  fault.kind.isOrdinary = true

/-- A failure of the database is a failure, by the cases of its kind. -/
theorem FaultKind.isOrdinary_of_isDatabase {kind : FaultKind} (h : kind.isDatabase = true)
    : kind.isOrdinary = true := by
  cases kind <;> first | rfl | exact nomatch h

/-- A failure of the client is a failure, by the cases of its kind. -/
theorem FaultKind.isOrdinary_of_isClient {kind : FaultKind} (h : kind.isClient = true)
    : kind.isOrdinary = true := by
  cases kind <;> first | rfl | exact nomatch h

/-- A request to stop is of none of the kinds that are all failures. -/
theorem Fault.not_of_not_isFailure {fault : Fault} {kinds : FaultKind → Bool}
    (h : ¬ fault.IsFailure) (hk : ∀ kind, kinds kind = true → kind.isOrdinary = true)
    : kinds fault.kind = false :=
  eq_false_of_ne_true fun he => h (hk fault.kind he)

-----------------------------------------------------------------------------------------
-- Output
-----------------------------------------------------------------------------------------

namespace Console

/-- A text that cannot be shown is a failure, by the cases of the problem. -/
theorem isFailure_fault (problem : Display.Problem) : problem.fault.IsFailure := by
  cases problem with
  | markup problem => cases problem <;> rfl
  | style problem => rfl
  | cut problem => cases problem <;> rfl

/-- A terminal that cannot show something fails in an ordinary way. -/
theorem failsOnly_display (stream : Stream) (shown : Except Display.Problem Display.Written)
    : FailsOnly Fault.IsFailure (display stream shown) := by
  refine (FailsOnly.ofResult fun fault he => ?_).bind fun written => ?_
  · cases shown with
    | ok written => exact nomatch he
    | error problem => exact Except.error.inj he ▸ isFailure_fault problem
  · refine (FailsOnly.change _).bind fun _ => ?_
    cases written.problem with
    | none => exact .pure ()
    | some problem => exact .fail (isFailure_fault (.cut problem))

/-- A notice fails in an ordinary way if it fails. -/
theorem failsOnly_notice (stream : Stream) (text : String)
    : FailsOnly Fault.IsFailure (notice stream text) := by
  refine FailsOnly.state.bind fun job => ?_
  cases job.output with
  | noted => exact .change _
  | verbatim => exact .change _
  | laidOut columns => exact failsOnly_display stream _

end Console

-----------------------------------------------------------------------------------------
-- Hooks
-----------------------------------------------------------------------------------------

namespace Shutdown

/-- The run of hooks ends only with requests to stop. -/
theorem failsOnly_runHooks (call : Nat → Act Unit) (name : RegistryName)
    : FailsOnly (fun fault => ¬ fault.IsFailure) (runHooks call name) := by
  refine FailsOnly.state.bind fun job => FailsOnly.forEach fun number => ?_
  exact FailsOnly.rescue (fun fault hk => by simp [Fault.IsFailure, hk]) fun _ => .change _

/-- A signal always ends in a request to stop: the one that it asks for, or one that a hook ended
with.
-/
theorem handleSignal_fault {α : Type} (call : Nat → Act Unit) (name : RegistryName) (signal : Nat)
    (job : Job)
    : ∃ fault, (handleSignal (α := α) call name signal job).1 = .error fault
        ∧ ¬ fault.IsFailure := by
  rw [handleSignal, bind_apply]
  show ∃ fault, ((runHooks call name >>= fun _ => fail _) (job.note _)).1 = .error fault ∧ _
  rw [bind_apply]
  have hr := failsOnly_runHooks call name
    (job.note (.log .warning ("Received signal " ++ toString signal ++ ", shutting down")))
  split
  · exact ⟨_, rfl, by simp [Fault.IsFailure, FaultKind.isOrdinary]⟩
  · next fault after he => exact ⟨fault, rfl, hr fault (by rw [he])⟩

end Shutdown

end SqlShell
