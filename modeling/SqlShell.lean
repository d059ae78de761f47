import SqlShell.Log.Setup
import SqlShell.Main
import SqlShell.Proofs.Client.ShellSending
import SqlShell.Proofs.Program.OneSession
import SqlShell.Proofs.Statement.CommandWords
import SqlShell.Proofs.Statement.LiteralPreservation
import SqlShell.Proofs.Statement.CodePreservation
import SqlShell.Proofs.Statement.SingleStatements
import SqlShell.Proofs.Client.UpdateSending
import SqlShell.Proofs.Executor.CallEffects
import SqlShell.Proofs.Executor.SessionStore
import SqlShell.Proofs.Session.ScriptStatements
import SqlShell.Proofs.Program.ScriptRun
import SqlShell.Proofs.Options.Occurrences
import SqlShell.Proofs.Shutdown.HookCalls
import SqlShell.Proofs.Shutdown.HookRuns
import SqlShell.Proofs.Value.EntryLayers
import SqlShell.Proofs.Yaml.DistinctKeys
import SqlShell.Proofs.Environment.EnvironmentReading
import SqlShell.Proofs.Session.SessionConfiguration
import SqlShell.Proofs.Environment.ReadingFailures
import SqlShell.Proofs.Session.UnreadInputs
import SqlShell.Proofs.Program.UnreadFiles
import SqlShell.Proofs.Statement.WrittenStatements
import SqlShell.Proofs.Statement.QuotedValues
import SqlShell.Proofs.Statement.ProperStatements
import SqlShell.Proofs.Client.ShellFailures
import SqlShell.Proofs.Statement.CommentedLines
import SqlShell.Proofs.Statement.CompleteReading
import SqlShell.Proofs.Program.ScriptReading
import SqlShell.Proofs.Program.UpdateRun
import SqlShell.Proofs.Client.ListedConfiguration
import SqlShell.Proofs.Program.FailureReport
import SqlShell.Proofs.Client.ShownResult
import SqlShell.Proofs.Files.FileAddresses
import SqlShell.Proofs.Statement.CodeParts
import SqlShell.Proofs.Environment.EnvironmentDocuments
