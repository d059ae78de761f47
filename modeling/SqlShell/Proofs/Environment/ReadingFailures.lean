import SqlShell.Options.Basic
import SqlShell.Proofs.Files.LocatorFailures

/-! How reading environment files and the flat configuration file fails: as a client's failure,
unless the locator leads nowhere or the document holds a value that does not fit its type.
-/

namespace SqlShell

/-- The failures to read an environment. -/
def FaultKind.IsEnvironmentRead (kind : FaultKind) : Prop :=
  kind = .client .environmentRead

theorem FaultKind.IsEnvironmentRead.isClient {kind : FaultKind} (h : kind.IsEnvironmentRead)
    : kind.isClient = true :=
  congrArg FaultKind.isClient h

/-- The text is no document, though not for its form: it has a value that does not fit its type. -/
def Yaml.HasUnfitValue (text : List Char) : Prop :=
  ∃ problem, Document.ofText text = .error problem ∧ problem ≠ .malformed

theorem Yaml.isDefect_kind {problem : Problem} (h : problem ≠ .malformed)
    : problem.kind.IsDefect := by
  cases problem with
  | malformed => exact absurd rfl h
  | characterCode code =>
      rw [Problem.kind]
      split
      all_goals exact ⟨⟨rfl, rfl⟩, rfl⟩
  | _ => exact ⟨⟨rfl, rfl⟩, rfl⟩

namespace Environment

theorem failsAs_documentOf (text : List Char) (locator : String)
    : FailsAs (fun kind => kind.isUnreadableDocument = true ∨ kind.IsEnvironmentRead)
        FaultKind.IsDefect (Yaml.HasUnfitValue text) (documentOf text locator) := by
  refine FailsAs.bind_safe (.ofProblem (fun _ h ⟨_, hp, _⟩ => nomatch h.symm.trans hp) ?_ ?_)
    fun document => ?_
  · intro problem h hs
    by_cases hm : problem = .malformed
    · exact Or.inl (hm ▸ rfl)
    · exact absurd ⟨problem, h, hm⟩ hs
  · rintro problem h ⟨found, hf, hm⟩
    obtain rfl := Except.error.inj (h.symm.trans hf)
    exact Yaml.isDefect_kind hm
  · split
    · exact .ok id
    · exact .ok id
    · exact .error (Or.inr ⟨id, Or.inr rfl⟩)

theorem failsAs_ofDocument (document : Yaml.Document) (locator : String)
    : FailsAs FaultKind.IsEnvironmentRead FaultKind.IsDefect False (ofDocument document locator) := by
  rw [ofDocument]
  dsimp only
  split
  · exact .ok id
  · split
    · exact .ok id
    · split
      · exact .ok id
      · exact .error (Or.inr ⟨id, rfl⟩)

/-- A document is read from a text that has been read before. -/
theorem failsAs_reading {α : Type} {slips : Prop} {reading : Except Fault (List Char)}
    {next : List Char → Except Fault α} {failure : Fault} (hf : failure.kind.IsEnvironmentRead)
    (h : FailsAs (·.isUnreadable = true) FaultKind.IsDefect slips reading)
    (hn : ∀ text, FailsAs (fun kind => kind.isUnreadableDocument = true ∨ kind.IsEnvironmentRead)
      FaultKind.IsDefect (Yaml.HasUnfitValue text) (next text))
    : FailsAs FaultKind.IsEnvironmentRead FaultKind.IsDefect
        (slips ∨ ∃ text, reading = .ok text ∧ Yaml.HasUnfitValue text)
        (reportingAs failure (reading >>= next)) := by
  have htold := h.mono (fun kind hu => show kind.isUnreadableDocument = true ∨ kind.IsEnvironmentRead
    from Or.inl (FaultKind.isUnreadableDocument_of_isUnreadable hu)) fun _ => id
  exact (htold.bind Yaml.HasUnfitValue fun text _ => hn text).report hf
    fun _ => FaultKind.IsDefect.readable

/-- What slips through where an environment is read: a locator that leads nowhere, or is no text at
all, and a document with an unfit value.
-/
def LetsSlip (sources : Sources) : Setting → Prop
  | .nothing => True
  | .text locator =>
      Locator.LeadsNowhere sources locator.toList
      ∨ ∃ text, Locator.read sources locator.toList = .ok text ∧ Yaml.HasUnfitValue text

/-- An environment fails to be read as a failure of the client, unless something slips through. -/
theorem failsAs_read (sources : Sources) (locator : Setting)
    : FailsAs FaultKind.IsEnvironmentRead FaultKind.IsDefect (LetsSlip sources locator)
        (locator.key >>= read sources) := by
  cases locator with
  | nothing => exact .error (Or.inl ⟨trivial, ⟨rfl, rfl⟩, rfl⟩)
  | text locator =>
      have hf : (unreadable locator).kind.IsEnvironmentRead := rfl
      refine (failsAs_reading hf (Locator.failsAs_read sources locator.toList)
        (failsAs_documentOf · locator)).bind_safe fun document => ?_
      exact failsAs_ofDocument document locator

end Environment

-----------------------------------------------------------------------------------------
-- The configuration directory
-----------------------------------------------------------------------------------------

namespace FileTree

variable {tree : FileTree} {path : Path}

/-- It cannot be told what the path names: one of its names is too long, or a directory is closed. -/
def SpoilsTests (tree : FileTree) (path : Path) : Prop :=
  ∃ flaw, tree.walk path = .error flaw ∧ flaw.spoilsTests = true

/-- Whether a path names a file is told unless the path spoils all tests. -/
theorem failsAs_isFile (tree : FileTree) (path : Path) {told : FaultKind → Prop}
    : FailsAs told FaultKind.IsUnexpected (tree.SpoilsTests path)
        ((tree.isFile path).mapError FileProblem.fault) := by
  rw [isFile, test, SpoilsTests]
  cases tree.walk path with
  | ok place => exact .ok fun ⟨_, hf, _⟩ => nomatch hf
  | error flaw =>
      dsimp only
      split
      · next h =>
          refine .error (Or.inl ⟨⟨flaw, rfl, h⟩, ?_⟩)
          cases flaw with
          | nameTooLong | denied => exact ⟨rfl, rfl⟩
          | _ => exact nomatch h
      · next h => exact .ok fun ⟨_, hf, hs⟩ => h (Except.error.inj hf ▸ hs)

theorem isFile_of_read {bytes : List UInt8} (h : tree.read path = .ok bytes)
    : tree.isFile path = .ok true := by
  obtain ⟨place, hw, hb⟩ := exists_of_bind_eq_ok (eq_ok_of_mapError h)
  rw [bytesAt] at hb
  split at hb
  · next he => simp [isFile, test, hw, he, FileEntry.isDirectory]
  all_goals cases hb

theorem hasZeroByte_of_isFile (h : tree.isFile path = .ok true) : hasZeroByte path = false := by
  refine eq_false_of_ne_true fun hz => ?_
  rw [isFile, test, (tree.walk_eq_zeroByte_iff path).mpr hz] at h
  exact nomatch h

end FileTree

/-- The file at a path holds a document with an unfit value. -/
def HoldsUnfitValue (tree : FileTree) (path : Path) : Prop :=
  ∃ text, Locator.readPath tree path = .ok text ∧ Yaml.HasUnfitValue text

theorem HoldsUnfitValue.isFile {tree : FileTree} {path : Path} (h : HoldsUnfitValue tree path)
    : tree.isFile path = .ok true := by
  obtain ⟨text, hr, -⟩ := h
  obtain ⟨bytes, hb, -⟩ := exists_of_bind_eq_ok hr
  exact FileTree.isFile_of_read (eq_ok_of_mapError hb)

/-- What slips through where the flat file of a directory is read: a path that spoils all tests, and a
document with an unfit value.
-/
def ConfigurationSlips (tree : FileTree) (directory : Option Path) : Prop :=
  ∃ parent ∈ directory, tree.SpoilsTests (parent.child configurationFile)
    ∨ HoldsUnfitValue tree (parent.child configurationFile)

/-- The flat file fails to be read as a failure of the client, unless something slips through. -/
theorem failsAs_readConfiguration (tree : FileTree) (directory : Option Path)
    : FailsAs FaultKind.IsEnvironmentRead FaultKind.IsUnexpected
        (ConfigurationSlips tree directory) (readConfiguration tree directory) := by
  cases directory with
  | none => exact .ok fun ⟨_, hm, _⟩ => nomatch hm
  | some parent =>
      have hslips : ConfigurationSlips tree (some parent) ↔
          tree.SpoilsTests (parent.child configurationFile)
            ∨ HoldsUnfitValue tree (parent.child configurationFile) := by
        simp [ConfigurationSlips]
      rw [readConfiguration]
      generalize parent.child configurationFile = path at hslips
      refine ((tree.failsAs_isFile path).bind (fun there => there = true ∧ HoldsUnfitValue tree path)
        fun there ht => ?_).of_iff ?_
      · have ht := eq_ok_of_mapError ht
        cases there with
        | false => exact .ok fun h => nomatch h.1
        | true =>
            -- The path of a file holds no zero byte.
            have hpath : FailsAs (·.isUnreadable = true) FaultKind.IsDefect False
                (Locator.readPath tree path) :=
              (Locator.failsAs_readPath tree path).of_iff
                (iff_of_false (ne_true_of_eq_false (FileTree.hasZeroByte_of_isFile ht)) id)
            have hf : (Fault.client .environmentRead
                ("Could not read configuration file at: " ++ path.text)).kind.IsEnvironmentRead :=
              rfl
            refine ((Environment.failsAs_reading hf hpath fun text =>
              (Environment.failsAs_documentOf text path.text).map Environment.entriesOf).of_iff
              ?_).mono (fun _ => id) fun _ => FaultKind.IsDefect.unexpected
            exact ⟨fun h => h.elim False.elim (And.intro rfl), fun h => Or.inr h.2⟩
      · rw [hslips]
        refine or_congr_right ⟨fun ⟨_, _, _, h⟩ => h, fun h => ⟨true, ?_, rfl, h⟩⟩
        rw [h.isFile]
        rfl

end SqlShell
