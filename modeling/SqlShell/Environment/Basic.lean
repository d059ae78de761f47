import SqlShell.Value.Entries

/-!
Session environments: a configuration that overrides are merged into, and the other sections
that are passed on as they are.
-/

namespace SqlShell

/-- A session environment. -/
structure Environment where
  configuration : Entries := []
  sections : Entries := []
  deriving Repr, Inhabited

namespace Environment

/-- The environment without any entry. -/
def empty : Environment := {}

/-- The environment with another configuration. -/
def withConfiguration (environment : Environment) (configuration : Entries) : Environment :=
  { environment with configuration }

/-- The environment with overrides on top of its configuration; the overrides win. -/
def merged (environment : Environment) (overrides : Entries) : Environment :=
  environment.withConfiguration (environment.configuration.update overrides)

end Environment

end SqlShell
