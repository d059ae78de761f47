import SqlShell.Job.State

/-!
Acts: steps of the program that change the state of the job and end with a value or a fault.
What was done before a fault stays done.
-/

namespace SqlShell

/-- A step of the program. -/
def Act (α : Type) : Type :=
  Job → Except Fault α × Job

namespace Act

instance : Monad Act where
  pure value job := (.ok value, job)
  bind act next job :=
    match act job with
    | (.ok value, job) => next value job
    | (.error fault, job) => (.error fault, job)

/-- Ends with a fault. -/
def fail {α : Type} (fault : Fault) : Act α :=
  fun job => (.error fault, job)

/-- The state of the job. -/
def state : Act Job :=
  fun job => (.ok job, job)

/-- Changes the state of the job. -/
def change (f : Job → Job) : Act Unit :=
  fun job => (.ok (), f job)

/-- The act with its end told as a value. -/
def observe {α : Type} (act : Act α) : Act (Except Fault α) :=
  fun job =>
    let (result, job) := act job
    (.ok result, job)

/-- Ends as a result says. -/
def ofResult {α : Type} : Except Fault α → Act α
  | .ok value => pure value
  | .error fault => fail fault

/-- The act, with faults of some kinds handled. -/
def rescue {α : Type} (kinds : FaultKind → Bool) (handle : Fault → Act α) (act : Act α)
    : Act α := do
  match ← act.observe with
  | .ok value => return value
  | .error fault => if kinds fault.kind then handle fault else fail fault

/-- The act, and another one after it however it ends. A fault of the second one hides a fault
of the first.
-/
def andFinally {α : Type} (act : Act α) (cleanup : Act Unit) : Act α := do
  let result ← act.observe
  cleanup
  ofResult result

/-- Notes an event. -/
def record (event : Event) : Act Unit :=
  change (·.note event)

/-- Writes a line to the log. -/
def log (level : LogLevel) (message : String) : Act Unit :=
  record (.log level message)

/-- Notes the call of a collaborator. -/
def noteCall (name : String) (arguments : List Value) : Act Unit :=
  record (.call name arguments)

/-- Ends with a fault if one is given. -/
def failIf (fault : Option Fault) : Act Unit :=
  match fault with
  | none => pure ()
  | some fault => fail fault

/-- An act is done for each of the items in order, until one fails. -/
def forEach {α : Type} (items : List α) (act : α → Act Unit) : Act Unit :=
  match items with
  | [] => pure ()
  | item :: rest => do
      act item
      forEach rest act

/-- A value alone leaves the job as it is. -/
theorem pure_apply {α : Type} (value : α) (job : Job)
    : (pure value : Act α) job = (.ok value, job) :=
  rfl

/-- The next act sees the job as the first one leaves it; a fault ends both. -/
theorem bind_apply {α β : Type} (act : Act α) (next : α → Act β) (job : Job)
    : (act >>= next) job =
        match act job with
        | (.ok value, job) => next value job
        | (.error fault, job) => (.error fault, job) :=
  rfl

end Act

end SqlShell
