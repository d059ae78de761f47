import SqlShell.Shutdown.Registry

/-!
Programs for hooks and registries: each step makes, registers or runs hooks, and hooks may run
programs of their own when they are called.
-/

namespace SqlShell

namespace HookStep

open Act Shutdown

/-- Gives a name to a hook. -/
def bindName (name : String) (hook : Nat) : Act Unit :=
  change fun job => { job with hookNames := (name, hook) :: job.hookNames }

/-- The hook with a name. -/
def named? (name : String) : Act (Option Nat) := do
  return ((← state).hookNames.find? (·.1 == name)).map (·.2)

/-- Does something with the hook with a name, if there is one. -/
def withNamed (name : String) (act : Nat → Act Unit) : Act Value := do
  match ← named? name with
  | some hook => act hook
  | none => pure ()
  return .null

/-- The handle of the session of a hook, and whether the hook has run. -/
def firedValue : Option Hook → Value
  | some (.session hook) => .list [.text hook.session.handle, .bool hook.fired]
  | _ => .null

/-- Does a step by the given way to call hooks. -/
def perform (call : Nat → Act Unit) : HookStep → Act Value
  | .makeHook name failing steps => do
      bindName name (← addHook (.program name failing steps))
      return .null
  | .makeSessionHook name session listener => do
      bindName name (← addHook (.session { session, listener }))
      return .null
  | .register registry name session listener => do
      bindName name (← Shutdown.register registry session listener)
      return .null
  | .add registry name => withNamed name (Shutdown.add registry)
  | .remove registry name => withNamed name (Shutdown.remove registry)
  | .call name => withNamed name call
  | .fired name => do
      match ← named? name with
      | some hook => return firedValue (← state).hooks[hook]?
      | none => return .null
  | .run registry => do
      runHooks call registry
      return .null
  | .install registry mainThread => do
      Shutdown.install registry mainThread
      return .null
  | .signal registry number => handleSignal call registry number

end HookStep

namespace Shutdown

open Act

/-- Calls a hook, with the given way to call the hooks that its program calls. -/
def callBy (inner : Nat → Act Unit) (number : Nat) : Act Unit := do
  match (← state).hooks[number]? with
  | none => return ()
  | some (.session hook) => fire number hook
  | some (.program name failing steps) => do
      noteCall "hook" [.text name]
      forEach steps fun step => do
        let _ ← step.perform inner
      failIf failing

/-- Calls a hook; hooks may call each other to the given depth. -/
def callHook : Nat → Nat → Act Unit
  | 0 => callBy fun _ => pure ()
  | depth + 1 => callBy (callHook depth)

/-- How deep hooks may call each other. -/
def callDepth : Nat := 100

/-- Calls a hook. -/
def call (number : Nat) : Act Unit :=
  callHook callDepth number

end Shutdown

end SqlShell
