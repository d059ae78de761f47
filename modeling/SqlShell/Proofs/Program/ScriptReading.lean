import SqlShell.Proofs.Program.ScriptRun
import SqlShell.Proofs.Text.LineSpelling

/-! A script means the same whichever way it is read. In a file all carriage returns become line
feeds, and behind an address they stay, but the lines are the same, and only these are looked at.
-/

namespace SqlShell

open Act

namespace Statement

theorem split_unifyLineEnds (text : List Char) : split (Text.unifyLineEnds text) = split text := by
  rw [split, Text.splitLines_unifyLineEnds, split]

theorem isComplete_unifyLineEnds (text : List Char)
    : isComplete (Text.unifyLineEnds text) = isComplete text := by
  rw [isComplete, Text.splitLines_unifyLineEnds, isComplete]

end Statement

-----------------------------------------------------------------------------------------
-- Two ways to read the same bytes
-----------------------------------------------------------------------------------------

/-- A locator leads to a local file with the bytes. -/
def LeadsToFile (tree : FileTree) (locator : String) (bytes : List UInt8) : Prop :=
  ∃ path, Locator.ofText locator.toList = .ok (.file path) ∧ tree.read path = .ok bytes

/-- A locator leads to an address behind which the bytes are. -/
def LeadsToAddress (sources : Sources) (locator : String) (bytes : List UInt8) : Prop :=
  ∃ address, Locator.ofText locator.toList = .ok (.address address)
    ∧ Locator.addressBytes sources address = .ok bytes

variable {job : Job} {locator : String} {bytes : List UInt8} {text : List Char}

/-- From a file the text comes with line feeds for its carriage returns. -/
theorem LeadsToFile.read (h : LeadsToFile job.files locator bytes) (hd : Utf8.decode bytes = .ok text)
    : Locator.read job.sources locator.toList = .ok (Text.unifyLineEnds text) := by
  obtain ⟨path, hl, hr⟩ := h
  exact LeadsToScript.read ⟨path, bytes, text, hl, hr, hd, rfl⟩

/-- From an address the text comes as it is. -/
theorem LeadsToAddress.read {sources : Sources} (h : LeadsToAddress sources locator bytes)
    (hd : Utf8.decode bytes = .ok text)
    : Locator.read sources locator.toList = .ok text := by
  obtain ⟨address, hl, hb⟩ := h
  rw [Locator.read, hl]
  show (Locator.addressBytes sources address >>= Locator.textOf) = _
  rw [hb]
  show Locator.textOf bytes = _
  rw [Locator.textOf, hd]
  rfl

-----------------------------------------------------------------------------------------
-- Running what is read
-----------------------------------------------------------------------------------------

/-- A script means the same whichever way it is read: carriage returns made line feeds change
neither the statements of a text nor whether it is complete. From a file and from an address with
the same bytes the same statements run in the same order, and the runs end alike, in the same state.
So does the mode for scripts, which only notes the locator before.
-/
theorem runScript_file_eq_address (text : List Char)
    : Statement.split (Text.unifyLineEnds text) = Statement.split text
      ∧ Statement.isComplete (Text.unifyLineEnds text) = Statement.isComplete text
      ∧ ∀ (job : Job) (file address : String) (bytes : List UInt8), Utf8.decode bytes = .ok text →
        LeadsToFile job.files file bytes → LeadsToAddress job.sources address bytes →
        Locator.read job.sources file.toList = .ok (Text.unifyLineEnds text)
        ∧ Locator.read job.sources address.toList = .ok text
        ∧ ∀ client : Client,
          client.runScript file job = forEach (Statement.split text) client.scriptStep job
          ∧ client.runScript address job = client.runScript file job
          ∧ ∀ (answers : List Answer), ∀ locator ∈ [file, address],
            Mode.runSelected (Lifetime.frontOf client answers) Mode.readLocal
              { script := some (.text locator) } job =
              forEach (Statement.split text) client.scriptStep
                (Lifetime.beforeScript locator job) := by
  refine ⟨Statement.split_unifyLineEnds text, Statement.isComplete_unifyLineEnds text, ?_⟩
  intro job file address bytes hd hfile haddress
  have hunified := hfile.read hd
  have hplain := haddress.read hd
  refine ⟨hunified, hplain, fun client => ?_⟩
  have hsplit := Statement.split_unifyLineEnds text
  rw [client.runScript_of_read hunified, client.runScript_of_read hplain, hsplit]
  refine ⟨rfl, rfl, fun answers locator hl => ?_⟩
  rcases List.mem_pair.mp hl with rfl | rfl
  · rw [Lifetime.runSelected_of_read client answers _ rfl hunified, hsplit]
  · exact Lifetime.runSelected_of_read client answers _ rfl hplain

/-- A script with all spellings of a line end, in a literal, in a comment and behind terminators. -/
def returningScript : String :=
  "SELECT 'a\r\r\nb;\r';\r-- it's\rSELECT 2;\r\n"

/-- The same script in an address. -/
def returningAddress : String :=
  "data:,SELECT%20'a%0D%0D%0Ab;%0D';%0D--%20it's%0DSELECT%202;%0D%0A"

/-- The bytes of the script. -/
def returningBytes : List UInt8 :=
  returningScript.toList.map fun c => UInt8.ofNat c.toNat

/-- A job with the script in a file. -/
def returningJob : Job where
  files := ⟨[(["s.sql"], .file returningBytes)]⟩

/-- Both statements run, from the file and from the address. -/
theorem runScript_file_eq_address_with_returns
    : Utf8.decode returningBytes = .ok returningScript.toList
      ∧ LeadsToFile returningJob.files "s.sql" returningBytes
      ∧ LeadsToAddress returningJob.sources returningAddress returningBytes
      ∧ Text.unifyLineEnds returningScript.toList ≠ returningScript.toList
      ∧ ∀ client : Client,
        client.runScript "s.sql" returningJob =
          forEach ["SELECT 'a\n\nb;\n'".toList, "SELECT 2".toList] client.scriptStep returningJob
        ∧ client.runScript returningAddress returningJob =
          client.runScript "s.sql" returningJob := by
  have hdecode : Utf8.decode returningBytes = .ok returningScript.toList := by decide +kernel
  have hfile : LeadsToFile returningJob.files "s.sql" returningBytes :=
    ⟨.ofString "s.sql", by decide +kernel, by decide +kernel⟩
  have haddress : LeadsToAddress returningJob.sources returningAddress returningBytes :=
    ⟨returningAddress.toList, by decide +kernel, by decide +kernel⟩
  have hsplit : Statement.split returningScript.toList =
      ["SELECT 'a\n\nb;\n'".toList, "SELECT 2".toList] := by
    decide +kernel
  obtain ⟨-, -, hruns⟩ := runScript_file_eq_address returningScript.toList
  obtain ⟨-, -, hrun⟩ :=
    hruns returningJob "s.sql" returningAddress returningBytes hdecode hfile haddress
  rw [hsplit] at hrun
  exact ⟨hdecode, hfile, haddress, by decide +kernel, fun client =>
    ⟨(hrun client).1, (hrun client).2.1⟩⟩

end SqlShell
