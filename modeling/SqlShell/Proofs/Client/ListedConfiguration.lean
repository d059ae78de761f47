import SqlShell.Program.Report
import SqlShell.Proofs.Client.ShellFailures
import SqlShell.Proofs.Files.LocatorFailures
import SqlShell.Proofs.Value.EntryOrder

/-! The command of the shell that lists the configuration of its session. It shows one notice for
each entry, in the order of the keys, and the shell goes on. But if the keys cannot be compared, or
an entry cannot be shown, the shell ends there.
-/

namespace SqlShell

open Act Text

/-- The job after further events. -/
def Job.notes (job : Job) (events : List Event) : Job :=
  { job with trace := job.trace ++ events }

theorem Job.notes_nil (job : Job) : job.notes [] = job := by
  simp [notes]

theorem Job.notes_append (job : Job) (events more : List Event)
    : job.notes (events ++ more) = (job.notes events).notes more := by
  simp [notes]

/-- A result that is good is told as it is, however its problems would be told. -/
theorem Act.ofResult_mapError_of_ok {ε α : Type} {result : Except ε α} {value : α}
    (h : result = .ok value) (told : ε → Fault) (job : Job)
    : ofResult (result.mapError told) job = (.ok value, job) := by
  rw [h]
  rfl

-----------------------------------------------------------------------------------------
-- Notices
-----------------------------------------------------------------------------------------

namespace Console

/-- The terminal shows the whole text. -/
def Shows (terminal : Terminal) (text : String) : Prop :=
  match terminal with
  | .laidOut columns =>
      ∃ written, Display.onTerminal columns (.plain (Emoji.replaceNames text.toList)) = .ok written
        ∧ written.problem = none
  | _ => True

/-- A text that cannot be shown is a failure that nobody expects, by the cases of the problem. -/
theorem isUnexpected_fault (problem : Display.Problem) : problem.fault.kind.IsUnexpected := by
  refine ⟨isFailure_fault problem, ?_⟩
  cases problem with
  | markup problem => cases problem <;> rfl
  | style problem => rfl
  | cut problem => cases problem <;> rfl

variable {job : Job} {text : String}

/-- A notice that the terminal shows adds its events and changes nothing else. -/
theorem notice_of_shows (h : Shows job.output text) (stream : Stream)
    : notice stream text job = (.ok (), job.notes (noticed job.output stream text)) := by
  rw [notice, state_bind]
  revert h
  cases job.output with
  | noted => exact fun _ => rfl
  | verbatim => exact fun _ => rfl
  | laidOut columns =>
      rintro ⟨written, hw, hn⟩
      dsimp only [noticed]
      rw [display, bind_of_ok (ofResult_mapError_of_ok hw _ job), write, record, change_bind, hn, hw]
      rfl

/-- A notice that the terminal does not show fails. -/
theorem notice_of_not_shows (h : ¬ Shows job.output text) (stream : Stream)
    : ∃ problem : Display.Problem, (notice stream text job).1 = .error problem.fault := by
  rw [notice, state_bind]
  revert h
  cases job.output with
  | noted => exact fun h => absurd trivial h
  | verbatim => exact fun h => absurd trivial h
  | laidOut columns =>
      intro h
      dsimp only
      cases hw : Display.onTerminal columns (.plain (Emoji.replaceNames text.toList)) with
      | error problem => exact ⟨problem, rfl⟩
      | ok written =>
          cases hp : written.problem with
          | none => exact absurd ⟨written, hw, hp⟩ h
          | some problem =>
              refine ⟨.cut problem, ?_⟩
              rw [display, bind_of_ok (ofResult_mapError_of_ok rfl _ job), write, record,
                change_bind, hp]
              rfl

end Console

namespace Client

-----------------------------------------------------------------------------------------
-- Entries
-----------------------------------------------------------------------------------------

/-- The notice that shows an entry. -/
def entryNotice (entry : Value × Value) : String :=
  entry.1.plainText ++ "=" ++ entry.2.plainText

/-- The key and the value of an entry have texts, and the terminal shows the notice of both. -/
structure CanShow (terminal : Terminal) (entry : Value × Value) : Prop where
  key : entry.1.isWritable = true
  value : entry.2.isWritable = true
  notice : Console.Shows terminal (entryNotice entry)

/-- Shows an entry. -/
def showEntry (entry : Value × Value) : Act Unit := do
  Console.notice .out ((← ofResult entry.1.shown) ++ "=" ++ (← ofResult entry.2.shown))

variable {job : Job}

/-- An entry that has texts is shown as its notice. -/
theorem showEntry_of_isWritable {entry : Value × Value} (hk : entry.1.isWritable = true)
    (hv : entry.2.isWritable = true)
    : showEntry entry = Console.notice .out (entryNotice entry) := by
  rw [showEntry, Value.shown, Value.shown, if_pos hk, if_pos hv]
  rfl

/-- A value that has no text is a failure. -/
theorem ofResult_shown_of_not_isWritable {value : Value} (h : ¬ value.isWritable = true)
    (job : Job)
    : (ofResult value.shown job).1 = .error Value.unwritable := by
  rw [Value.shown, if_neg h]
  rfl

/-- An entry that cannot be shown fails, by what it lacks. -/
theorem showEntry_of_not_canShow {entry : Value × Value} (h : ¬ CanShow job.output entry)
    : ∃ fault, (showEntry entry job).1 = .error fault ∧ fault.kind.IsUnexpected := by
  by_cases hk : entry.1.isWritable = true
  · by_cases hv : entry.2.isWritable = true
    · obtain ⟨problem, hp⟩ :=
        Console.notice_of_not_shows (fun hs => h ⟨hk, hv, hs⟩) .out
      refine ⟨problem.fault, ?_, Console.isUnexpected_fault problem⟩
      rw [showEntry_of_isWritable hk hv]
      exact hp
    · refine ⟨Value.unwritable, ?_, rfl, rfl⟩
      have hkey : ofResult entry.1.shown job = (.ok entry.1.plainText, job) := by
        rw [Value.shown, if_pos hk]
        rfl
      have hvalue := ofResult_shown_of_not_isWritable hv job
      rw [showEntry, bind_of_ok hkey, bind_of_error hvalue]
  · refine ⟨Value.unwritable, ?_, rfl, rfl⟩
    have hkey := ofResult_shown_of_not_isWritable hk job
    rw [showEntry, bind_of_error hkey]

/-- The events of showing entries one after another. -/
def shownEntries (terminal : Terminal) (entries : Entries) : List Event :=
  entries.flatMap fun entry => Console.noticed terminal .out (entryNotice entry)

theorem shownEntries_cons (terminal : Terminal) (entry : Value × Value) (rest : Entries)
    : shownEntries terminal (entry :: rest) =
        Console.noticed terminal .out (entryNotice entry) ++ shownEntries terminal rest :=
  List.flatMap_cons

/-- Entries that can be shown are shown one after another, by induction on them. -/
theorem forEach_showEntry {entries : Entries} (h : ∀ entry ∈ entries, CanShow job.output entry)
    : forEach entries showEntry job = (.ok (), job.notes (shownEntries job.output entries)) := by
  induction entries generalizing job with
  | nil => rw [shownEntries, List.flatMap_nil, Job.notes_nil]; rfl
  | cons entry rest ih =>
      obtain ⟨hentry, hrest⟩ := List.forall_mem_cons.mp h
      have hshown := (showEntry_of_isWritable hentry.key hentry.value).symm ▸
        Console.notice_of_shows hentry.notice .out
      have hlater : forEach rest showEntry
          (job.notes (Console.noticed job.output .out (entryNotice entry))) =
            (.ok (), (job.notes (Console.noticed job.output .out (entryNotice entry))).notes
              (shownEntries job.output rest)) :=
        ih hrest
      rw [forEach, bind_of_ok hshown, hlater, shownEntries_cons, Job.notes_append]

/-- Entries one of which cannot be shown fail, by induction on them. -/
theorem forEach_showEntry_fails {entries : Entries}
    (h : ¬ ∀ entry ∈ entries, CanShow job.output entry)
    : ∃ fault, (forEach entries showEntry job).1 = .error fault ∧ fault.kind.IsUnexpected := by
  induction entries generalizing job with
  | nil => exact absurd (fun _ he => absurd he List.not_mem_nil) h
  | cons entry rest ih =>
      rw [forEach]
      by_cases hentry : CanShow job.output entry
      · have hshown := (showEntry_of_isWritable hentry.key hentry.value).symm ▸
          Console.notice_of_shows hentry.notice .out
        rw [bind_of_ok hshown]
        exact ih fun hrest => h (List.forall_mem_cons.mpr ⟨hentry, hrest⟩)
      · obtain ⟨fault, hf, hu⟩ := showEntry_of_not_canShow hentry
        exact ⟨fault, by rw [bind_of_error hf], hu⟩

-----------------------------------------------------------------------------------------
-- The configuration
-----------------------------------------------------------------------------------------

/-- The notice of a configuration without entries. -/
def emptyNotice : String :=
  "[INFO] Session configuration is empty."

/-- The keys of the configuration can be compared, and all entries can be shown. -/
structure CanBeListed (terminal : Terminal) (configuration : Entries) : Prop where
  comparable : configuration.AreComparable
  shown : ∀ entry ∈ configuration, CanShow terminal entry

/-- The events of listing entries: a notice for each of them, or one that says that there is none.
-/
def listing (terminal : Terminal) (listed : Entries) : List Event :=
  if listed.isEmpty then Console.noticed terminal .out emptyNotice
  else shownEntries terminal listed

/-- The session of the client is open, in this job. -/
def HasSession (client : Client) (own : LocalSession) (job : Job) : Prop :=
  ∃ number, client.session.executor = .here number
    ∧ ((job.executors[number]?).getD {}).session? client.session.handle = some own

/-- The configuration of an open session is told as the session has it. -/
theorem configuration_of_hasSession {client : Client} {own : LocalSession}
    (h : HasSession client own job)
    : client.session.executor.configuration client.session.handle job =
        (.ok own.configuration, job) := by
  obtain ⟨number, hx, hs⟩ := h
  rw [hx, Executor.configuration, LocalExecutor.configuration,
    bind_of_ok (LocalExecutor.openedSession_of_some hs)]
  rfl

/-- The notice for a configuration without entries is shown on every terminal. -/
theorem shows_emptyNotice (job : Job) : Console.Shows job.output emptyNotice := by
  by_contra hn
  obtain ⟨problem, hp⟩ := Console.notice_of_not_shows hn .out
  have hshown : (Console.notice .out emptyNotice job).1 = .ok () :=
    Console.notice_of_joinerless (by decide +kernel) (by decide +kernel) .out job
  cases hshown.symm.trans hp

variable {client : Client} {own : LocalSession}

/-- A configuration that can be listed is listed in the order of its keys. -/
theorem showConfiguration_of_canBeListed (h : HasSession client own job)
    (hl : CanBeListed job.output own.configuration)
    : ∃ listed, own.configuration.IsListing listed
        ∧ client.showConfiguration job = (.ok (), job.notes (listing job.output listed)) := by
  rcases own.configuration.sorted_cases with ⟨-, listed, hsorted, hlisting⟩ | ⟨hn, -⟩
  · refine ⟨listed, hlisting, ?_⟩
    rw [showConfiguration, bind_of_ok (configuration_of_hasSession h), listing,
      hlisting.perm.isEmpty_eq]
    split
    · exact Console.notice_of_shows (shows_emptyNotice job) .out
    · rw [bind_of_ok (ofResult_mapError_of_ok hsorted _ job)]
      exact forEach_showEntry fun entry he => hl.shown entry (hlisting.perm.subset he)
  · exact absurd hl.comparable hn

/-- A configuration that cannot be listed ends the command with a failure that nobody expects, and if
its keys cannot be compared nothing is shown.
-/
theorem showConfiguration_of_not_canBeListed (h : HasSession client own job)
    (hl : ¬ CanBeListed job.output own.configuration)
    : (∃ fault, (client.showConfiguration job).1 = .error fault ∧ fault.kind.IsUnexpected)
      ∧ (¬ own.configuration.AreComparable → (client.showConfiguration job).2 = job) := by
  have hne : ¬ own.configuration.isEmpty = true := by
    intro he
    apply hl
    rw [List.isEmpty_iff.mp he]
    exact ⟨Or.inl (Nat.zero_le 1), fun _ hm => absurd hm List.not_mem_nil⟩
  rw [showConfiguration, bind_of_ok (configuration_of_hasSession h), if_neg hne]
  rcases own.configuration.sorted_cases with ⟨hc, listed, hsorted, hlisting⟩ | ⟨-, problem, hsorted⟩
  · refine ⟨?_, fun hn => absurd hc hn⟩
    rw [bind_of_ok (ofResult_mapError_of_ok hsorted _ job)]
    exact forEach_showEntry_fails fun hshown =>
      hl ⟨hc, fun entry he => hshown entry (hlisting.perm.symm.subset he)⟩
  · have herror : ofResult (own.configuration.sorted.mapError fun problem =>
        { kind := .type, message := problem.message }) job =
          (.error { kind := .type, message := problem.message }, job) := by
      rw [hsorted]
      rfl
    rw [bind_of_error (congrArg Prod.fst herror), herror]
    exact ⟨⟨_, rfl, rfl, rfl⟩, fun _ => rfl⟩

/-- The command ends well exactly if the configuration can be listed. -/
theorem canList_iff (h : HasSession client own job)
    : client.canList job = true ↔ CanBeListed job.output own.configuration := by
  rw [canList]
  constructor
  · intro hok
    by_contra hn
    obtain ⟨⟨fault, hf, -⟩, -⟩ := showConfiguration_of_not_canBeListed h hn
    rw [hf] at hok
    cases hok
  · intro hl
    obtain ⟨listed, -, hshown⟩ := showConfiguration_of_canBeListed h hl
    rw [hshown]
    rfl

-----------------------------------------------------------------------------------------
-- The shell
-----------------------------------------------------------------------------------------

/-- The command that lists the configuration is no other one. -/
theorem runStatement_set {statement : List Char} (h : isWord ["SET"] statement = true)
    : client.runStatement statement = do client.showConfiguration; return true := by
  have hword : toUpper (trim statement) = "SET".toList := by simpa [isWord] using h
  have hquit : isWord quitCommands statement = false := by simp [isWord, quitCommands, hword]
  have hhelp : isWord ["HELP"] statement = false := by simp [isWord, hword]
  rw [runStatement, quits_eq_isWord, isCommand_eq_isWord (by simp), isCommand_eq_isWord (by simp),
    hquit, hhelp, h]
  rfl

/-- After the configuration is listed the shell goes on with the other statements. -/
theorem runStatements_set_cons {statement : List Char} (h : isWord ["SET"] statement = true)
    (more : List (List Char)) (job : Job)
    : client.runStatements (statement :: more) job =
        (client.showConfiguration >>= fun _ => client.runStatements more) job := by
  rw [runStatements, runStatement_set h]
  cases hl : client.showConfiguration job with
  | mk result after =>
      cases result with
      | ok _ =>
          have hset : (do client.showConfiguration; return true) job = (.ok true, after) :=
            bind_of_ok hl
          rw [bind_of_ok hset, bind_of_ok hl]
          rfl
      | error fault =>
          rw [bind_apply, bind_apply, bind_apply, hl]

/-- Statements that let the shell go on leave the others to be run after them, by induction. -/
theorem runStatements_append {before : List (List Char)} {there : Job}
    (h : client.runStatements before job = (.ok true, there)) (more : List (List Char))
    : client.runStatements (before ++ more) job = client.runStatements more there := by
  induction before generalizing job with
  | nil =>
      obtain rfl : job = there := congrArg Prod.snd h
      rfl
  | cons statement rest ih =>
      rw [runStatements] at h
      rw [List.cons_append, runStatements]
      cases hs : client.runStatement statement job with
      | mk result after =>
          cases result with
          | error fault =>
              rw [bind_of_error (by rw [hs])] at h
              cases congrArg Prod.fst h
          | ok stays =>
              rw [bind_of_ok hs] at h ⊢
              cases stays with
              | true => exact ih h
              | false => cases eq_of_bind_pure (congrArg Prod.fst h)

/-- With the answer the shell has a whole text, and in it comes to a statement, before others that
are still to be run.
-/
def ComesTo (client : Client) (ask : String → Act Unit) (answer : Answer)
    (lines : List (List Char)) (job : Job) (statement : List Char) (more : List (List Char))
    (there : Job) : Prop :=
  job.clientClosed = false
  ∧ ∃ asked line before,
      ask (if lines.isEmpty then promptText else continuationText) job = (.ok (), asked)
      ∧ Prompt.receive answer = pure line
      ∧ Statement.isComplete (joinLines (lines ++ [line.toList])) = true
      ∧ Statement.split (joinLines (lines ++ [line.toList])) = before ++ statement :: more
      ∧ client.runStatements before asked = (.ok true, there)

variable {ask : String → Act Unit} {answer : Answer} {lines : List (List Char)}
  {statement : List Char} {more : List (List Char)} {there : Job}

/-- A complete text is no blank line. -/
theorem not_skipped_of_isComplete {line : List Char}
    (h : Statement.isComplete (joinLines (lines ++ [line])) = true)
    : (lines.isEmpty && (trim line).isEmpty) = false := by
  cases lines with
  | cons first rest => rfl
  | nil =>
      rw [List.isEmpty_nil, Bool.true_and]
      apply eq_false_of_ne_true
      intro ht
      have hblank := (trim_eq_nil_iff line).mp (List.isEmpty_iff.mp ht)
      exact Bool.false_ne_true ((Statement.isComplete_of_blank hblank).symm.trans h)

/-- The shell runs the statement that it comes to and the others of the text, and then takes further
answers if they let it go on.
-/
theorem ComesTo.runShell (h : ComesTo client ask answer lines job statement more there)
    (rest : List Answer)
    : client.runShell ask (answer :: rest) lines job =
        (do if ← client.runStatements (statement :: more) then client.runShell ask rest []) there := by
  obtain ⟨hopen, asked, line, before, hask, hr, hc, hsplit, hbefore⟩ := h
  rw [runShell_line hopen hask hr, if_neg (by rw [not_skipped_of_isComplete hc]; simp), if_pos hc,
    hsplit]
  show (client.runStatements (before ++ statement :: more) >>= _) asked = _
  rw [bind_apply, runStatements_append hbefore]
  rfl

/-- Where the shell comes to the command that lists the configuration of its session, it shows one
notice for each entry, in the order of the keys, sends nothing, changes no session, and goes on with
the other statements and answers. It does so if the configuration can be listed. If not, the shell
ends there with a failure that nobody expects, and neither sends nor changes anything either; it does
not even show anything if the keys cannot be compared. So the command alone ends well exactly if the
configuration can be listed.
-/
theorem runShell_lists_configuration
    (h : ComesTo client ask answer lines job statement more there)
    (hset : isWord ["SET"] statement = true) (hs : HasSession client own there)
    (rest : List Answer)
    : (CanBeListed there.output own.configuration →
        ∃ listed, own.configuration.IsListing listed
          ∧ (there.notes (listing there.output listed)).core = there.core
          ∧ client.runShell ask (answer :: rest) lines job =
              (do if ← client.runStatements more then client.runShell ask rest [])
                (there.notes (listing there.output listed)))
      ∧ (¬ CanBeListed there.output own.configuration →
        (∃ fault, (client.runShell ask (answer :: rest) lines job).1 = .error fault
          ∧ fault.kind.IsUnexpected)
        ∧ (client.runShell ask (answer :: rest) lines job).2.core = there.core
        ∧ (¬ own.configuration.AreComparable →
          (client.runShell ask (answer :: rest) lines job).2 = there))
      ∧ (client.canList there = true ↔ CanBeListed there.output own.configuration) := by
  have hcore := client.keepsCore_showConfiguration
  refine ⟨?_, ?_, canList_iff hs⟩
  · intro hl
    obtain ⟨listed, hlisting, hshown⟩ := showConfiguration_of_canBeListed hs hl
    refine ⟨listed, hlisting, hcore.core_eq hshown, ?_⟩
    rw [h.runShell, bind_apply, runStatements_set_cons hset, bind_of_ok hshown]
    rfl
  · intro hl
    obtain ⟨⟨fault, hf, hu⟩, hnothing⟩ := showConfiguration_of_not_canBeListed hs hl
    have hends : client.runStatements (statement :: more) there =
        (.error fault, (client.showConfiguration there).2) := by
      rw [runStatements_set_cons hset, bind_of_error hf]
    have hshell : client.runShell ask (answer :: rest) lines job =
        (.error fault, (client.showConfiguration there).2) := by
      rw [h.runShell]
      have hfault : (client.runStatements (statement :: more) there).1 = .error fault := by
        rw [hends]
      rw [bind_of_error hfault, hends]
    rw [hshell]
    exact ⟨⟨fault, rfl, hu⟩, hcore there, hnothing⟩

/-- A job with an open session that has the configuration. -/
def configuredJob (configuration : Entries) : Job where
  executors :=
    [{ started := true, sessions := [("s", { environment := {}, configuration, connection := 1 })] }]

/-- A configuration whose entries are not in the order of their keys. -/
def twoEntries : Entries :=
  [(.text "b", .int 1), (.text "a", .null)]

/-- There is one listing of these entries. -/
theorem listing_of_twoEntries {listed : Entries} (h : twoEntries.IsListing listed)
    : listed = twoEntries.reverse := by
  have hless : (Value.text "a").precedes (.text "b") = .ok true := rfl
  have hmore : (Value.text "b").precedes (.text "a") = .ok false := rfl
  have hpairwise : twoEntries.reverse.Pairwise Entries.Follows := List.pairwise_pair.mpr hmore
  refine (h.perm.trans twoEntries.reverse_perm.symm).eq_of_pairwise ?_
    (h.pairwise (by simp [twoEntries, Value.isNaN])) hpairwise
  intro x y hx hy hxy hyx
  simp only [h.perm.mem_iff, twoEntries, List.mem_reverse, List.mem_pair] at hx hy
  rcases hx with rfl | rfl <;> rcases hy with rfl | rfl
  · rfl
  · cases hless.symm.trans hxy
  · cases hless.symm.trans hyx
  · rfl

/-- The command over two lines lists the entries in the order of their keys, and the shell asks for
another line.
-/
theorem runShell_lists_two_entries
    : (localClient.runShell (fun message => record (.prompt message)) [.line ";"] ["set".toList]
        (configuredJob twoEntries)).2.trace =
        [.prompt continuationText, .notice .out "a=None", .notice .out "b=1",
          .prompt promptText] := by
  have hcomes : ComesTo localClient (fun message => record (.prompt message)) (.line ";")
      ["set".toList] (configuredJob twoEntries) "set".toList []
      ((configuredJob twoEntries).note (.prompt continuationText)) :=
    ⟨rfl, _, ";", [], rfl, rfl, by decide +kernel, by decide +kernel, rfl⟩
  have hsession : HasSession localClient
      { environment := {}, configuration := twoEntries, connection := 1 }
      ((configuredJob twoEntries).note (.prompt continuationText)) :=
    ⟨0, rfl, rfl⟩
  have hlist : CanBeListed .noted twoEntries := by
    refine ⟨Or.inr ⟨.text, by simp [twoEntries, Value.kind?, Value.amount?]⟩, ?_⟩
    simp only [twoEntries, List.mem_pair]
    rintro entry (rfl | rfl)
    · exact ⟨rfl, by decide +kernel, trivial⟩
    · exact ⟨rfl, rfl, trivial⟩
  obtain ⟨listed, hlisting, -, hrun⟩ :=
    (runShell_lists_configuration hcomes (by decide +kernel) hsession []).1 hlist
  rw [hrun, listing_of_twoEntries hlisting]
  rfl

/-- A job with an environment in a file, whose configuration has keys of two types. -/
def mixedJob : Job where
  files :=
    ⟨[(["e.yaml"],
      .file ("configuration:\n  1: a\n  b: c\n".toList.map fun c => UInt8.ofNat c.toNat))]⟩

/-- The command ends the program with the code of a defect: the shell asks for no line after it, and
the statement there is not sent.
-/
theorem run_ends_at_unlisted_configuration
    : (Program.run ["embedded", "-e", "e.yaml"] [.line "SET;", .line "SELECT 1;"] mixedJob).1 =
        .ok Program.defectCode
      ∧ (Program.run ["embedded", "-e", "e.yaml"] [.line "SET;", .line "SELECT 1;"]
          mixedJob).2.prompts = 1
      ∧ (Program.run ["embedded", "-e", "e.yaml"] [.line "SET;", .line "SELECT 1;"]
          mixedJob).2.sent = [] := by
  decide +kernel

end Client

end SqlShell
