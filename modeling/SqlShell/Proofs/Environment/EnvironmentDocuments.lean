import SqlShell.Proofs.Environment.EnvironmentReading
import SqlShell.Proofs.Yaml.PartValues
import SqlShell.Value.Text

/-! Which documents are environments, and what the environments hold. A document without content is
taken for a mapping without entries, and whatever counts as empty for a configuration without any.
-/

namespace SqlShell

namespace Environment

open Yaml

/-- The document without the entry for the configuration. -/
def remainder (document : Document) : Document :=
  (document.take configurationKey).2

/-- What stands in the place of the configuration, if anything does, is a mapping or null. -/
def GivesMap (document : Document) (entries : List (Value × Nat)) : Prop :=
  ∀ number, (configurationKey, number) ∈ entries →
    (document.part number).isMap = true ∨ (document.part number).isNull = true

/-- What stands in the place of the configuration is neither a mapping nor null, but counts as
empty.
-/
def PassesAsEmpty (document : Document) (entries : List (Value × Nat)) : Prop :=
  ∃ number, (configurationKey, number) ∈ entries ∧ (document.part number).isMap = false
    ∧ (document.part number).isNull = false ∧ (document.value number).isEmpty = true

theorem givesMap_iff (document : Document) (entries : List (Value × Nat))
    : (∀ entry ∈ entries, entry.1.sameKey configurationKey = true →
        (document.part entry.2).isMap = true ∨ (document.part entry.2).isNull = true)
      ↔ GivesMap document entries := by
  constructor
  case mp => exact fun h number hm => h _ hm ((Value.sameKey_text_iff _ _).mpr rfl)
  case mpr =>
    rintro h ⟨key, number⟩ hm hk
    obtain rfl := (Value.sameKey_text_iff key _).mp hk
    exact h number hm

instance (document : Document) (entries : List (Value × Nat))
    : Decidable (GivesMap document entries) :=
  decidable_of_iff _ (givesMap_iff document entries)

/-- The environment is what the entries at the top of a document give: the mapping in the place of
the configuration, which has no entries if there is none, and all other entries in their order,
each with the value of its part.
-/
structure IsGivenBy (environment : Environment) (document : Document)
    (entries : List (Value × Nat)) : Prop where
  configuration : ∀ number, (configurationKey, number) ∈ entries →
    environment.configuration = (document.entries? number).getD []
  absent : (∀ number, (configurationKey, number) ∉ entries) → environment.configuration = []
  sections : environment.sections =
    Entries.erase (entries.map fun (key, number) => (key, document.value number)) configurationKey

variable {sources : Sources} {locator : String} {text : List Char} {environment : Environment}
  {document : Document} {entries : List (Value × Nat)} {number : Nat}

-----------------------------------------------------------------------------------------
-- Without the configuration
-----------------------------------------------------------------------------------------

/-- What is found is the part in the place of the configuration. -/
theorem take_configuration (ht : document.topEntries? = some entries)
    : document.take configurationKey =
        ((entries.find? (·.1.sameKey configurationKey)).map (·.2), remainder document) := by
  refine Prod.ext ?_ rfl
  rcases Document.root_cases ht with h | ⟨h, rfl⟩
  · rw [Document.take_eq h]
  · rw [Document.take_of_null h]
    rfl

/-- Only the top changes where the configuration is taken out, and it stays a mapping. -/
theorem part_remainder (ht : document.topEntries? = some entries)
    (hp : (document.part number).isMap = false)
    : (remainder document).part number = document.part number := by
  rcases Document.root_cases ht with h | ⟨h, -⟩
  · refine Document.part_take h configurationKey fun hn => ?_
    rw [hn, h] at hp
    exact nomatch hp
  · rw [remainder, Document.take_of_null h]

theorem isMap_part_remainder (ht : document.topEntries? = some entries)
    (hp : (document.part number).isMap = true)
    : ((remainder document).part number).isMap = true := by
  rcases Document.root_cases ht with h | ⟨h, -⟩
  · by_cases hn : number = document.root
    · rw [remainder, hn, Document.part_take_root h]
      rfl
    · rw [remainder, Document.part_take h configurationKey hn, hp]
  · rw [remainder, Document.take_of_null h, hp]

theorem entriesOf_remainder (ht : document.topEntries? = some entries)
    : entriesOf (remainder document) =
        Entries.erase (entries.map fun (key, number) => (key, (remainder document).value number))
          configurationKey := by
  rcases Document.root_cases ht with h | ⟨h, rfl⟩
  · have hroot : (remainder document).part (remainder document).root =
        .map (Document.without entries configurationKey) := by
      rw [remainder, Document.root_take h, Document.part_take_root h]
    rw [entriesOf, Document.entries?, hroot, Entries.erase, List.filter_map]
    rfl
  · rw [remainder, Document.take_of_null h, entriesOf, Document.entries?, h]
    rfl

-----------------------------------------------------------------------------------------
-- Reading
-----------------------------------------------------------------------------------------

theorem ofDocument_of_absent (ht : document.topEntries? = some entries)
    (h : ∀ number, (configurationKey, number) ∉ entries)
    : ofDocument document locator = .ok ⟨[], entriesOf (remainder document)⟩ := by
  have hfound : entries.find? (·.1.sameKey configurationKey) = none := find?_text_eq_none.mpr h
  rw [ofDocument, take_configuration ht, hfound]
  rfl

theorem ofDocument_of_mem (ht : document.topEntries? = some entries) (hk : DifferByKey entries)
    (hm : (configurationKey, number) ∈ entries)
    : ofDocument document locator =
        if (document.part number).isMap || (document.value number).isEmpty then
          .ok ⟨((remainder document).entries? number).getD [], entriesOf (remainder document)⟩
        else
          .error (unreadable locator "'configuration' must be a mapping of keys to values.") := by
  have hfound : entries.find? (·.1.sameKey configurationKey) = some (configurationKey, number) :=
    hk.find?_text hm
  rw [ofDocument, take_configuration ht, hfound]
  have hsome := Document.isSome_entries? (remainder document) number
  cases hp : (document.part number).isMap with
  | true =>
      rw [isMap_part_remainder ht hp] at hsome
      obtain ⟨configuration, hc⟩ := Option.isSome_iff_exists.mp hsome
      simp [hc]
  | false =>
      have hr := part_remainder ht hp
      rw [hr, hp] at hsome
      have hnone := Option.not_isSome_iff_eq_none.mp (ne_true_of_eq_false hsome)
      rw [← Document.isEmpty_value hr]
      simp [hnone]

theorem read_of_documentOf (hr : Locator.read sources locator.toList = .ok text)
    (hd : documentOf text locator = .ok document)
    : read sources locator = ofDocument document locator := by
  rw [read, hr, ok_bind, hd]
  rfl

theorem documentOf_of_topEntries (locator : String) (hd : Document.ofText text = .ok document)
    (ht : document.topEntries? = some entries)
    : documentOf text locator = .ok document := by
  rw [documentOf, hd]
  refine (ok_bind document _).trans ?_
  rcases Document.root_cases ht with h | ⟨h, -⟩
  all_goals
    rw [h]
    rfl

/-- A document of another kind is no environment. -/
theorem read_of_no_topEntries (hr : Locator.read sources locator.toList = .ok text)
    (hd : Document.ofText text = .ok document) (ht : document.topEntries? = none)
    : read sources locator =
        .error (unreadable locator "The file must contain a YAML mapping at the top level.") := by
  have hdocument : documentOf text locator =
      .error (unreadable locator "The file must contain a YAML mapping at the top level.") := by
    rw [documentOf, hd]
    refine (ok_bind document _).trans ?_
    rw [Document.topEntries?] at ht
    revert ht
    cases document.part document.root with
    | map entries => exact fun ht => absurd ht (Option.some_ne_none entries)
    | plain value =>
        cases value with
        | null => exact fun ht => absurd ht (Option.some_ne_none [])
        | _ => exact fun _ => rfl
    | _ => exact fun _ => rfl
  rw [read, hr, ok_bind, hdocument]
  rfl

theorem eq_of_mem_of_mem (hk : DifferByKey entries) {other : Nat}
    (hm : (configurationKey, number) ∈ entries) (ho : (configurationKey, other) ∈ entries)
    : other = number :=
  (Prod.mk.inj (Option.some.inj ((hk.find?_text ho).symm.trans (hk.find?_text hm)))).2

theorem isGivenBy_remainder (ht : document.topEntries? = some entries) (hk : DifferByKey entries)
    (hm : (configurationKey, number) ∈ entries)
    : IsGivenBy ⟨((remainder document).entries? number).getD [], entriesOf (remainder document)⟩
        (remainder document) entries where
  configuration other ho := by rw [eq_of_mem_of_mem hk hm ho]
  absent h := absurd hm (h number)
  sections := entriesOf_remainder ht

theorem isGivenBy_remainder_of_absent (ht : document.topEntries? = some entries)
    (h : ∀ number, (configurationKey, number) ∉ entries)
    : IsGivenBy ⟨[], entriesOf (remainder document)⟩ (remainder document) entries where
  configuration number hm := absurd hm (h number)
  absent _ := rfl
  sections := entriesOf_remainder ht

/-- What is left without the entry for the configuration gives the same environment, unless the
whole stands in itself.
-/
theorem IsGivenBy.of_remainder (h : environment.IsGivenBy (remainder document) entries)
    (ht : document.topEntries? = some entries) (hc : ¬document.ContainsItself)
    : environment.IsGivenBy document entries := by
  rcases Document.root_cases ht with hroot | ⟨hroot, rfl⟩
  · have hsame (inside : Value) (number : Nat) (hm : (inside, number) ∈ entries) :=
      Document.not_reaches_root hroot hc hm
    constructor
    case configuration =>
      intro number hm
      rw [h.configuration number hm, remainder,
        Document.entries?_take hroot configurationKey (hsame _ _ hm)]
    case absent => exact h.absent
    case sections =>
      rw [h.sections]
      have hvalue (entry : Value × Nat) (hm : entry ∈ entries)
          : (remainder document).value entry.2 = document.value entry.2 :=
        Document.value_take hroot configurationKey (hsame _ _ hm)
      refine congrArg (Entries.erase · configurationKey) (List.map_congr_left fun entry hm => ?_)
      exact congrArg (Prod.mk entry.1) (hvalue entry hm)
  · exact ⟨nofun, h.absent, h.sections⟩

theorem GivesMap.not_passesAsEmpty (h : GivesMap document entries)
    : ¬PassesAsEmpty document entries := by
  rintro ⟨number, hm, hmap, hnull, -⟩
  rcases h number hm with hp | hp
  · exact Bool.false_ne_true (hmap.symm.trans hp)
  · exact Bool.false_ne_true (hnull.symm.trans hp)

/-- What stands in the place of the configuration is taken just if it is a mapping or counts as
empty.
-/
theorem givesMap_or_passesAsEmpty_iff (hk : DifferByKey entries)
    (hm : (configurationKey, number) ∈ entries)
    : GivesMap document entries ∨ PassesAsEmpty document entries ↔
        ((document.part number).isMap || (document.value number).isEmpty) = true := by
  rw [Bool.or_eq_true]
  constructor
  case mp =>
    rintro (h | ⟨other, ho, -, -, he⟩)
    · exact (h number hm).imp_right Document.isEmpty_of_isNull
    · exact Or.inr (eq_of_mem_of_mem hk hm ho ▸ he)
  case mpr =>
    intro h
    by_cases hgives : (document.part number).isMap = true ∨ (document.part number).isNull = true
    · exact Or.inl fun other ho => eq_of_mem_of_mem hk hm ho ▸ hgives
    · obtain ⟨hmap, hnull⟩ := not_or.mp hgives
      refine Or.inr ⟨number, hm, eq_false_of_ne_true hmap, eq_false_of_ne_true hnull, ?_⟩
      exact h.resolve_left hmap

/-- The environment of a document whose entries are taken, by whether one of them is in the place of
the configuration.
-/
theorem exists_ofDocument (locator : String) (ht : document.topEntries? = some entries)
    (hk : DifferByKey entries) (h : GivesMap document entries ∨ PassesAsEmpty document entries)
    : ∃ environment, ofDocument document locator = .ok environment
      ∧ environment.IsGivenBy (remainder document) entries := by
  by_cases hfound : ∃ number, (configurationKey, number) ∈ entries
  · obtain ⟨number, hm⟩ := hfound
    have htaken := (givesMap_or_passesAsEmpty_iff hk hm).mp h
    exact ⟨_, (ofDocument_of_mem ht hk hm).trans (if_pos htaken), isGivenBy_remainder ht hk hm⟩
  · have habsent := not_exists.mp hfound
    exact ⟨_, ofDocument_of_absent ht habsent, isGivenBy_remainder_of_absent ht habsent⟩

theorem ofDocument_eq_error (locator : String) (ht : document.topEntries? = some entries)
    (hk : DifferByKey entries) (h : ¬(GivesMap document entries ∨ PassesAsEmpty document entries))
    : ofDocument document locator =
        .error (unreadable locator "'configuration' must be a mapping of keys to values.") := by
  by_cases hfound : ∃ number, (configurationKey, number) ∈ entries
  · obtain ⟨number, hm⟩ := hfound
    have htaken := mt (givesMap_or_passesAsEmpty_iff hk hm).mpr h
    exact (ofDocument_of_mem ht hk hm).trans (if_neg htaken)
  · exact absurd (Or.inl fun number hm => absurd ⟨number, hm⟩ hfound) h

/-- A readable document is an environment just if it is a mapping or has no content, and what stands
in the place of its configuration, if anything does, is a mapping, null or another value that counts
as empty. But for the last ones, that is to give a mapping or nothing. The environment is what the
document gives once the entry for the configuration is taken out: where a document contains itself,
that entry is missing in its values, too.
-/
theorem read_decided_by_document (hr : Locator.read sources locator.toList = .ok text)
    (hd : Document.ofText text = .ok document)
    : (document.topEntries? = none →
        read sources locator =
          .error (unreadable locator "The file must contain a YAML mapping at the top level."))
      ∧ ∀ entries, document.topEntries? = some entries →
        (GivesMap document entries ∨ PassesAsEmpty document entries →
          ∃ environment, read sources locator = .ok environment
            ∧ environment.IsGivenBy (remainder document) entries
            ∧ (¬document.ContainsItself → environment.IsGivenBy document entries))
        ∧ (¬(GivesMap document entries ∨ PassesAsEmpty document entries) →
          read sources locator =
            .error (unreadable locator "'configuration' must be a mapping of keys to values."))
        ∧ ((GivesMap document entries ↔ ∃ environment, read sources locator = .ok environment) ↔
          ¬PassesAsEmpty document entries) := by
  refine ⟨read_of_no_topEntries hr hd, fun entries ht => ?_⟩
  have hread := read_of_documentOf hr (documentOf_of_topEntries locator hd ht)
  have hk := (Document.keysDiffer_ofText hd).topEntries ht
  rw [hread]
  have haccepted (h : GivesMap document entries ∨ PassesAsEmpty document entries) :=
    exists_ofDocument locator ht hk h
  have hrefused (h : ¬(GivesMap document entries ∨ PassesAsEmpty document entries)) :=
    ofDocument_eq_error locator ht hk h
  refine ⟨fun h => ?_, hrefused, fun h hp => ?_, fun hp => ⟨fun h => ?_, ?_⟩⟩
  · obtain ⟨environment, he, hgiven⟩ := haccepted h
    exact ⟨environment, he, hgiven, hgiven.of_remainder ht⟩
  · obtain ⟨environment, he, -⟩ := haccepted (Or.inr hp)
    exact (h.mpr ⟨environment, he⟩).not_passesAsEmpty hp
  · obtain ⟨environment, he, -⟩ := haccepted (Or.inl h)
    exact ⟨environment, he⟩
  · rintro ⟨environment, he⟩
    refine Classical.byContradiction fun hn => ?_
    exact nomatch he.symm.trans (hrefused (not_or.mpr ⟨hn, hp⟩))

-----------------------------------------------------------------------------------------
-- Files
-----------------------------------------------------------------------------------------

/-- The keys and values of entries, as they are shown. -/
def shownEntries (entries : Entries) : List (String × String) :=
  entries.map fun entry => (entry.1.plainText, entry.2.plainText)

/-- The only file holds a text. -/
def sourceOf (text : List Char) : Sources where
  files := ⟨[(["e.yaml"], .file (text.map fun c => UInt8.ofNat c.toNat))]⟩

/-- A mapping that has one list in three places. -/
def sharedText : List Char :=
  "tables: &t [a, 1]\nconfiguration: {x: *t, y: 2}\nviews: *t\n".toList

/-- The list is part of the configuration and of two sections. -/
theorem read_gives_shared_parts
    : ∃ document entries environment,
        Locator.read (sourceOf sharedText) "e.yaml".toList = .ok sharedText
        ∧ Document.ofText sharedText = .ok document
        ∧ document.topEntries? = some entries
        ∧ read (sourceOf sharedText) "e.yaml" = .ok environment
        ∧ environment.IsGivenBy document entries
        ∧ shownEntries environment.configuration = [("x", "['a', 1]"), ("y", "2")]
        ∧ shownEntries environment.sections = [("tables", "['a', 1]"), ("views", "['a', 1]")] := by
  have hr : Locator.read (sourceOf sharedText) "e.yaml".toList = .ok sharedText :=
    eq_ok_of_toOption (by decide +kernel)
  obtain ⟨document, hd, hcheck⟩ : ∃ document, Document.ofText sharedText = .ok document
      ∧ (document.topEntries?.any (fun entries => GivesMap document entries)
        && document.parts.all fun part => !part.named.contains document.root) = true :=
    exists_of_any_toOption (by decide +kernel)
  obtain ⟨hgives, hinside⟩ := (Bool.and_eq_true _ _).mp hcheck
  obtain ⟨entries, ht, hgives⟩ := (Option.any_eq_true _ _).mp hgives
  obtain ⟨haccepted, -, -⟩ := (read_decided_by_document hr hd).2 entries ht
  obtain ⟨environment, he, -, hgiven⟩ := haccepted (Or.inl (of_decide_eq_true hgives))
  have hshown : (read (sourceOf sharedText) "e.yaml").toOption.map (fun environment =>
      (shownEntries environment.configuration, shownEntries environment.sections)) =
        some ([("x", "['a', 1]"), ("y", "2")],
          [("tables", "['a', 1]"), ("views", "['a', 1]")]) := by
    decide +kernel
  rw [he] at hshown
  obtain ⟨hconfiguration, hsections⟩ := Prod.mk.inj (Option.some.inj hshown)
  exact ⟨document, entries, environment, hr, hd, ht, he,
    hgiven (Document.not_containsItself hinside), hconfiguration, hsections⟩

/-- A mapping whose configuration is a list without items. -/
def emptyListText : List Char :=
  "configuration: []\n".toList

/-- The list passes as a configuration without entries. -/
theorem read_takes_empty_list
    : ∃ document entries environment,
        Locator.read (sourceOf emptyListText) "e.yaml".toList = .ok emptyListText
        ∧ Document.ofText emptyListText = .ok document
        ∧ document.topEntries? = some entries
        ∧ ¬GivesMap document entries
        ∧ read (sourceOf emptyListText) "e.yaml" = .ok environment
        ∧ environment.configuration = [] := by
  have hr : Locator.read (sourceOf emptyListText) "e.yaml".toList = .ok emptyListText :=
    eq_ok_of_toOption (by decide +kernel)
  obtain ⟨document, hd, hcheck⟩ : ∃ document, Document.ofText emptyListText = .ok document
      ∧ document.topEntries?.any (fun entries => ¬GivesMap document entries) = true :=
    exists_of_any_toOption (by decide +kernel)
  obtain ⟨entries, ht, hgives⟩ := (Option.any_eq_true _ _).mp hcheck
  obtain ⟨environment, he, hempty⟩ : ∃ environment,
      read (sourceOf emptyListText) "e.yaml" = .ok environment
        ∧ environment.configuration.isEmpty = true :=
    exists_of_any_toOption (by decide +kernel)
  exact ⟨document, entries, environment, hr, hd, ht, of_decide_eq_true hgives, he,
    List.isEmpty_iff.mp hempty⟩

end Environment

end SqlShell
