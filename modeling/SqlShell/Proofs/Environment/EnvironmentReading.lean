import SqlShell.Environment.Files
import SqlShell.Proofs.Results
import SqlShell.Proofs.Yaml.DistinctKeys

/-! What is read from environment files and the flat configuration file. Where reading succeeds, no
key of the configuration comes twice.
-/

namespace SqlShell

namespace Environment

theorem keysDiffer_of_documentOf {text : List Char} {locator : String} {document : Yaml.Document}
    (h : documentOf text locator = .ok document)
    : document.KeysDiffer := by
  obtain ⟨found, hd, h⟩ := exists_of_bind_eq_ok h
  have hdiffer := Yaml.Document.keysDiffer_ofText (eq_ok_of_mapError hd)
  split at h
  · exact Except.ok.inj h ▸ hdiffer
  · exact Except.ok.inj h ▸ hdiffer
  · exact nomatch h

theorem areDistinct_entriesOf {document : Yaml.Document} (h : document.KeysDiffer)
    : (entriesOf document).AreDistinct := by
  rw [entriesOf]
  cases he : document.entries? document.root with
  | none => exact .nil
  | some entries => exact h.entries he

theorem areDistinct_ofDocument {document : Yaml.Document} {locator : String}
    {environment : Environment} (h : document.KeysDiffer)
    (he : ofDocument document locator = .ok environment)
    : environment.configuration.AreDistinct := by
  have hrest := h.take configurationKey
  rw [ofDocument] at he
  generalize document.take configurationKey = taken at he hrest
  obtain ⟨found, rest⟩ := taken
  cases found with
  | none => exact Except.ok.inj he ▸ .nil
  | some number =>
      dsimp only at he
      split at he
      · next hfound => exact Except.ok.inj he ▸ hrest.entries hfound
      · split at he
        · exact Except.ok.inj he ▸ .nil
        · exact nomatch he

/-- The configuration that is read has no key twice. -/
theorem areDistinct_read {sources : Sources} {locator : String} {environment : Environment}
    (h : read sources locator = .ok environment)
    : environment.configuration.AreDistinct := by
  obtain ⟨document, hd, h⟩ := exists_of_bind_eq_ok h
  obtain ⟨text, -, hd⟩ := exists_of_bind_eq_ok (eq_ok_of_mapError hd)
  exact areDistinct_ofDocument (keysDiffer_of_documentOf hd) h

end Environment

/-- The flat configuration that is read has no key twice. -/
theorem areDistinct_readConfiguration {tree : FileTree} {directory : Option Path}
    {entries : Entries} (h : readConfiguration tree directory = .ok entries)
    : entries.AreDistinct := by
  cases directory with
  | none => exact Except.ok.inj h ▸ .nil
  | some directory =>
      obtain ⟨there, -, h⟩ := exists_of_bind_eq_ok h
      split at h
      · obtain ⟨text, -, h⟩ := exists_of_bind_eq_ok (eq_ok_of_mapError h)
        obtain ⟨document, hd, h⟩ := exists_of_bind_eq_ok h
        exact Except.ok.inj h ▸ Environment.areDistinct_entriesOf
          (Environment.keysDiffer_of_documentOf hd)
      · exact Except.ok.inj h ▸ .nil

end SqlShell
