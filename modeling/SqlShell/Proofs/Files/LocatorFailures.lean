import SqlShell.Proofs.Environment.EnvironmentReading

/-! How reading behind a locator fails. Its readers expect that the system refuses a file and that
bytes are no text; a locator that leads nowhere fails in other ways.
-/

namespace SqlShell

namespace FaultKind

/-- The fault is a failure, though not one of the client. -/
def IsUnexpected (kind : FaultKind) : Prop :=
  kind.isOrdinary = true ∧ kind.isClient = false

/-- The fault is a failure that no reader of documents expects either. -/
structure IsDefect (kind : FaultKind) : Prop where
  unexpected : kind.IsUnexpected
  readable : kind.isUnreadableDocument = false

theorem isUnreadableDocument_of_isUnreadable {kind : FaultKind} (h : kind.isUnreadable = true)
    : kind.isUnreadableDocument = true := by
  rw [isUnreadableDocument, h]
  rfl

theorem isUnreadable_of_isSystem {kind : FaultKind} (h : kind.isSystem = true)
    : kind.isUnreadable = true := by
  cases kind with
  | system kind => rfl
  | _ => exact nomatch h

/-- What comes from the network is told as the system tells it, or is a failure that no reader
expects.
-/
theorem IsDefect.of_isOfNetwork {kind : FaultKind} (h : kind.isOfNetwork = true)
    (hu : kind.isUnreadable = false)
    : kind.IsDefect := by
  cases kind with
  | client _ | document | interrupt | exit => exact nomatch h
  | _ =>
      refine ⟨⟨rfl, rfl⟩, ?_⟩
      rw [isUnreadableDocument, hu]
      rfl

theorem IsDefect.isUnreadable {kind : FaultKind} (h : kind.IsDefect) : kind.isUnreadable = false :=
  eq_false_of_ne_true fun hu =>
    Bool.false_ne_true (h.readable.symm.trans (isUnreadableDocument_of_isUnreadable hu))

theorem IsDefect.isSystem {kind : FaultKind} (h : kind.IsDefect) : kind.isSystem = false :=
  eq_false_of_ne_true fun hs =>
    Bool.false_ne_true (h.isUnreadable.symm.trans (isUnreadable_of_isSystem hs))

end FaultKind

-----------------------------------------------------------------------------------------
-- Results
-----------------------------------------------------------------------------------------

/-- What fails is told as a fault of the one kind, unless something slips through: that ends in a
fault of the other kind.
-/
structure FailsAs {α : Type} (told missed : FaultKind → Prop) (slips : Prop)
    (result : Except Fault α) : Prop where
  told : ¬slips → ∀ fault, result = .error fault → told fault.kind
  missed : slips → ∃ fault, result = .error fault ∧ missed fault.kind

namespace FailsAs

variable {α β ε : Type} {told missed : FaultKind → Prop} {slips : Prop} {result : Except Fault α}

theorem ok {value : α} (h : ¬slips) : FailsAs told missed slips (.ok value) where
  told _ _ he := nomatch he
  missed hs := absurd hs h

theorem error {fault : Fault} (h : slips ∧ missed fault.kind ∨ ¬slips ∧ told fault.kind)
    : FailsAs told missed slips (.error fault : Except Fault α) where
  told hn found hf := by
    rcases h with ⟨hs, -⟩ | ⟨-, ht⟩
    · exact absurd hs hn
    · exact Except.error.inj hf ▸ ht
  missed hs := by
    rcases h with ⟨-, hm⟩ | ⟨hn, -⟩
    · exact ⟨fault, rfl, hm⟩
    · exact absurd hs hn

theorem not_slips {value : α} (h : FailsAs told missed slips (.ok value)) : ¬slips := by
  intro hs
  obtain ⟨fault, he, -⟩ := h.missed hs
  exact nomatch he

theorem of_error {fault : Fault} (h : FailsAs told missed slips (.error fault : Except Fault α))
    : slips ∧ missed fault.kind ∨ ¬slips ∧ told fault.kind := by
  by_cases hs : slips
  · obtain ⟨found, hf, hm⟩ := h.missed hs
    exact Or.inl ⟨hs, Except.error.inj hf ▸ hm⟩
  · exact Or.inr ⟨hs, h.told hs fault rfl⟩

theorem of_iff {other : Prop} (h : FailsAs told missed slips result) (hs : slips ↔ other)
    : FailsAs told missed other result :=
  propext hs ▸ h

theorem mono {tells misses : FaultKind → Prop} (h : FailsAs told missed slips result)
    (ht : ∀ kind, told kind → tells kind) (hm : ∀ kind, missed kind → misses kind)
    : FailsAs tells misses slips result where
  told hn fault hf := ht _ (h.told hn fault hf)
  missed hs := (h.missed hs).imp fun _ => And.imp_right (hm _)

/-- Of two readings the second one can let something slip only after a value of the first. -/
theorem bind {next : α → Except Fault β} (h : FailsAs told missed slips result) (later : α → Prop)
    (hn : ∀ value, result = .ok value → FailsAs told missed (later value) (next value))
    : FailsAs told missed (slips ∨ ∃ value, result = .ok value ∧ later value)
        (result >>= next) := by
  cases result with
  | ok value =>
      refine (hn value rfl).of_iff ⟨fun hl => Or.inr ⟨value, rfl, hl⟩, ?_⟩
      rintro (hs | ⟨found, hf, hl⟩)
      · exact absurd hs h.not_slips
      · exact Except.ok.inj hf ▸ hl
  | error fault =>
      refine of_iff (.error h.of_error) ⟨Or.inl, ?_⟩
      rintro (hs | ⟨_, hf, -⟩)
      · exact hs
      · exact nomatch hf

/-- Nothing slips through a second reading that lets nothing slip. -/
theorem bind_safe {next : α → Except Fault β} (h : FailsAs told missed slips result)
    (hn : ∀ value, FailsAs told missed False (next value))
    : FailsAs told missed slips (result >>= next) :=
  (h.bind (fun _ => False) fun value _ => hn value).of_iff ⟨fun hs => hs.elim id nofun, Or.inl⟩

theorem map (h : FailsAs told missed slips result) (f : α → β)
    : FailsAs told missed slips (f <$> result) := by
  cases result with
  | ok value => exact .ok h.not_slips
  | error fault => exact .error h.of_error

/-- A problem is told, or slips through, as the fault that stands for it. -/
theorem ofProblem {result : Except ε α} {fault : ε → Fault}
    (hok : ∀ value, result = .ok value → ¬slips)
    (ht : ∀ problem, result = .error problem → ¬slips → told (fault problem).kind)
    (hm : ∀ problem, result = .error problem → slips → missed (fault problem).kind)
    : FailsAs told missed slips (result.mapError fault) := by
  cases result with
  | ok value => exact .ok (hok value rfl)
  | error problem =>
      refine .error ?_
      by_cases hs : slips
      · exact Or.inl ⟨hs, hm problem rfl hs⟩
      · exact Or.inr ⟨hs, ht problem rfl hs⟩

/-- Faults of the kinds that a reader catches are reported as a failure of the kind that is told. -/
theorem report {tells : FaultKind → Prop} {catches : FaultKind → Bool} {failure : Fault}
    (h : FailsAs (fun kind => catches kind = true ∨ tells kind) missed slips result)
    (hf : tells failure.kind) (hm : ∀ kind, missed kind → catches kind = false)
    : FailsAs tells missed slips
        (result.mapError fun fault =>
          if catches fault.kind then failure.because fault else fault) := by
  cases result with
  | ok value => exact .ok h.not_slips
  | error fault =>
      refine .error ?_
      dsimp only
      rcases h.of_error with ⟨hs, hk⟩ | ⟨hs, ht⟩
      · rw [if_neg (ne_true_of_eq_false (hm _ hk))]
        exact Or.inl ⟨hs, hk⟩
      · refine Or.inr ⟨hs, ?_⟩
        split
        · exact hf
        · next hc => exact ht.resolve_left hc

end FailsAs

-----------------------------------------------------------------------------------------
-- Files
-----------------------------------------------------------------------------------------

namespace FileTree

variable {tree : FileTree} {path : Path}

theorem barrier?_ne_zeroByte (tree : FileTree) (place : Place)
    : tree.barrier? place ≠ some .zeroByte := by
  rw [barrier?]
  split
  all_goals exact nofun

theorem step_ne_zeroByte (place : Place) (part : String)
    : tree.step place part ≠ .error .zeroByte := by
  rw [step]
  split
  · next flaw hb =>
      intro h
      obtain rfl := Except.error.inj h
      exact tree.barrier?_ne_zeroByte place hb
  · repeat' split
    all_goals exact nofun

/-- Only a path can hold a zero byte: the walk along its components finds none. -/
theorem walkFrom_ne_zeroByte (parts : List String) (place : Place)
    : parts.foldlM (tree.step ·) place ≠ .error .zeroByte := by
  induction parts generalizing place with
  | nil => exact nofun
  | cons part rest ih =>
      rw [List.foldlM_cons]
      have hstep := tree.step_ne_zeroByte place part
      cases hs : tree.step place part with
      | ok next => exact ih next
      | error flaw =>
          rw [hs] at hstep
          exact fun he => hstep (congrArg Except.error (Except.error.inj he))

theorem walk_eq_zeroByte_iff (tree : FileTree) (path : Path)
    : tree.walk path = .error .zeroByte ↔ hasZeroByte path = true := by
  rw [walk, unusable?]
  cases hasZeroByte path with
  | true => exact iff_of_true rfl rfl
  | false =>
      refine iff_of_false ?_ Bool.false_ne_true
      rw [if_neg Bool.false_ne_true]
      split
      · next he =>
          split at he
          · obtain rfl := Option.some.inj he
            exact nofun
          · exact nomatch he
      · exact walkFrom_ne_zeroByte _ _

theorem isUnreadable_kind_iff {flaw : FileFlaw}
    : flaw.kind.isUnreadable = true ↔ flaw ≠ .zeroByte := by
  cases flaw <;> simp [FileFlaw.kind, FaultKind.isUnreadable]

theorem bytesAt_ne_zeroByte (tree : FileTree) (place : Place)
    : tree.bytesAt place ≠ .error .zeroByte := by
  rw [bytesAt]
  split
  all_goals exact nofun

/-- Reading finds a zero byte just in the path. -/
theorem readFlaw_eq_zeroByte_iff (tree : FileTree) (path : Path)
    : tree.walk path >>= tree.bytesAt = .error .zeroByte ↔ hasZeroByte path = true := by
  rw [← walk_eq_zeroByte_iff tree]
  cases tree.walk path with
  | ok place => exact iff_of_false (tree.bytesAt_ne_zeroByte place) nofun
  | error flaw => exact ⟨fun h => congrArg _ (Except.error.inj h), fun h => congrArg _ (Except.error.inj h)⟩

/-- The file of a path is refused by the system, unless the path holds a zero byte. -/
theorem failsAs_read (tree : FileTree) (path : Path)
    : FailsAs (·.isUnreadable = true) FaultKind.IsDefect (hasZeroByte path = true)
        ((tree.read path).mapError FileProblem.fault) := by
  rw [← tree.readFlaw_eq_zeroByte_iff, read]
  cases tree.walk path >>= tree.bytesAt with
  | ok bytes => exact .ok nofun
  | error flaw =>
      refine .error ?_
      by_cases hz : flaw = .zeroByte
      · exact Or.inl ⟨congrArg _ hz, hz ▸ ⟨⟨rfl, rfl⟩, rfl⟩⟩
      · exact Or.inr ⟨fun he => hz (Except.error.inj he), isUnreadable_kind_iff.mpr hz⟩

end FileTree

-----------------------------------------------------------------------------------------
-- Locators
-----------------------------------------------------------------------------------------

namespace Url

variable {α β : Type}

/-- There is no other problem than that something has the wrong form. -/
def IsMisformed (result : Except Problem α) : Prop :=
  ∀ problem, result = .error problem → problem.kind = .value .general

theorem IsMisformed.error {problem : Problem} (h : problem.kind = .value .general)
    : IsMisformed (.error problem : Except Problem α) :=
  fun _ hp => Except.error.inj hp ▸ h

theorem IsMisformed.ok (value : α) : IsMisformed (.ok value) :=
  fun _ hp => nomatch hp

theorem IsMisformed.bind {result : Except Problem α} {next : α → Except Problem β}
    (h : IsMisformed result) (hn : ∀ value, IsMisformed (next value))
    : IsMisformed (result >>= next) := by
  cases result with
  | ok value => exact hn value
  | error problem => exact .error (h problem rfl)

theorem IsMisformed.map {result : Except Problem α} (h : IsMisformed result) (f : α → β)
    : IsMisformed (result.map f) := by
  cases result with
  | ok value => exact .ok _
  | error problem => exact .error (h problem rfl)

theorem isMisformed_checkName (name : List Char) : IsMisformed (checkName name) := by
  rw [checkName]
  repeat' split
  all_goals first | exact .ok _ | exact .error rfl

theorem isMisformed_bracketedName (host : List Char) : IsMisformed (bracketedName host) := by
  rw [bracketedName]
  dsimp only
  repeat' split
  all_goals first | exact .ok _ | exact .error rfl

theorem isMisformed_checkHost (host : List Char) : IsMisformed (checkHost host) := by
  have hhidden : IsMisformed
      (if hidesSeparator host then .error (.hiddenSeparator host) else .ok ()
        : Except Problem Unit) := by
    split
    · exact .error rfl
    · exact .ok ()
  rw [checkHost]
  dsimp only
  split
  · exact .error rfl
  · split
    · refine (isMisformed_bracketedName host).bind fun name => ?_
      exact (isMisformed_checkName name).bind fun _ => hhidden
    · exact hhidden

/-- An address has parts unless its host has the wrong form. -/
theorem isMisformed_split (text : List Char) : IsMisformed (split text) := by
  rw [split]
  dsimp only
  split
  all_goals exact (isMisformed_checkHost _).map _

end Url

namespace Locator

/-- Nothing can be looked for at the place: its path holds a zero byte, or its address is refused for
another reason than that the system cannot open it.
-/
def IsUnusable (sources : Sources) : Locator → Prop
  | .file path => FileTree.hasZeroByte path = true
  | .address text =>
      ∃ fault, addressBytes sources text = .error fault ∧ fault.kind.isUnreadable = false

/-- The locator names no place, since its host cannot be read, or one at which nothing can be looked
for.
-/
def LeadsNowhere (sources : Sources) (text : List Char) : Prop :=
  (∃ problem, Url.split text = .error problem)
  ∨ ∃ place, ofText text = .ok place ∧ place.IsUnusable sources

theorem failsAs_ofText (text : List Char)
    : FailsAs (·.isUnreadable = true) FaultKind.IsDefect (∃ problem, Url.split text = .error problem)
        ((ofText text).mapError Url.Problem.fault) := by
  rw [ofText]
  cases hs : Url.split text with
  | ok parts => exact .ok fun ⟨_, h⟩ => nomatch h
  | error problem =>
      refine .error (Or.inl ⟨⟨problem, rfl⟩, ?_⟩)
      show problem.kind.IsDefect
      rw [Url.isMisformed_split text problem hs]
      exact ⟨⟨rfl, rfl⟩, rfl⟩

/-- There is no other fault than such as come from the network. -/
def IsOfNetwork {α : Type} (result : Except Fault α) : Prop :=
  ∀ fault, result = .error fault → fault.kind.isOfNetwork = true

theorem isOfNetwork_mapError {α : Type} (result : Except Url.Problem α)
    : IsOfNetwork (result.mapError Url.Problem.fault) := by
  cases result with
  | ok value => exact nofun
  | error problem =>
      rintro fault h
      obtain rfl := Except.error.inj h
      cases problem
      all_goals rfl

theorem isOfNetwork_bytesAt (network : Url.Network) (address : List Char)
    : IsOfNetwork (network.bytesAt address) := by
  rw [Url.Network.bytesAt]
  cases network address with
  | ok bytes => exact nofun
  | error fault => exact fun _ h => Except.error.inj h ▸ fault.2

theorem IsOfNetwork.bind {α β : Type} {result : Except Fault α} {next : α → Except Fault β}
    (h : IsOfNetwork result) (hn : ∀ value, IsOfNetwork (next value))
    : IsOfNetwork (result >>= next) := by
  cases result with
  | ok value => exact hn value
  | error fault => exact fun _ he => Except.error.inj he ▸ h fault rfl

/-- An address is refused with such a fault, by the cases of its scheme. -/
theorem isOfNetwork_schemeBytes (sources : Sources) (address scheme rest : List Char)
    : IsOfNetwork (schemeBytes sources address scheme rest) := by
  have hrequest (check : Except Url.Problem Unit) : IsOfNetwork (do
      check.mapError Url.Problem.fault
      sources.network.bytesAt address) :=
    (isOfNetwork_mapError check).bind fun _ => isOfNetwork_bytesAt sources.network address
  rw [schemeBytes]
  refine (isOfNetwork_mapError _).bind fun _ => ?_
  dsimp only
  repeat' split
  · exact isOfNetwork_mapError _
  · exact isOfNetwork_mapError _
  · exact hrequest _
  · exact hrequest _
  · exact isOfNetwork_mapError (.error _)

theorem isOfNetwork_addressBytes (sources : Sources) (text : List Char)
    : IsOfNetwork (addressBytes sources text) := by
  rw [addressBytes]
  dsimp only
  split
  · exact isOfNetwork_mapError (.error _)
  · exact isOfNetwork_schemeBytes sources _ _ _

theorem failsAs_addressBytes (sources : Sources) (text : List Char)
    : FailsAs (·.isUnreadable = true) FaultKind.IsDefect ((address text).IsUnusable sources)
        (addressBytes sources text) := by
  have hnetwork := isOfNetwork_addressBytes sources text
  rw [IsUnusable]
  generalize addressBytes sources text = result at hnetwork
  cases result with
  | ok bytes => exact .ok fun ⟨_, hf, _⟩ => nomatch hf
  | error fault =>
      refine .error ?_
      cases hu : fault.kind.isUnreadable with
      | true =>
          refine Or.inr ⟨?_, rfl⟩
          rintro ⟨found, hf, hn⟩
          obtain rfl := Except.error.inj hf
          exact Bool.false_ne_true (hn.symm.trans hu)
      | false => exact Or.inl ⟨⟨fault, rfl, hu⟩, .of_isOfNetwork (hnetwork fault rfl) hu⟩

theorem failsAs_textOf (bytes : List UInt8)
    : FailsAs (·.isUnreadable = true) FaultKind.IsDefect False (textOf bytes) :=
  .ofProblem (fun _ _ => id) (fun _ _ _ => rfl) fun _ _ => False.elim

/-- A file fails to be read as text as the system tells, unless its path holds a zero byte. -/
theorem failsAs_readPath (tree : FileTree) (path : Path)
    : FailsAs (·.isUnreadable = true) FaultKind.IsDefect (FileTree.hasZeroByte path = true)
        (readPath tree path) :=
  (tree.failsAs_read path).bind_safe fun bytes => (failsAs_textOf bytes).map Text.unifyLineEnds

/-- Reading behind a locator fails as its readers expect, unless the locator leads nowhere. -/
theorem failsAs_read (sources : Sources) (text : List Char)
    : FailsAs (·.isUnreadable = true) FaultKind.IsDefect (LeadsNowhere sources text)
        (read sources text) := by
  refine ((failsAs_ofText text).bind (IsUnusable sources) fun place hp => ?_).of_iff ?_
  · cases place with
    | file path => exact failsAs_readPath sources.files path
    | address address => exact (failsAs_addressBytes sources address).bind_safe failsAs_textOf
  · refine or_congr_right (exists_congr fun place => and_congr_left' ⟨eq_ok_of_mapError, ?_⟩)
    intro h
    rw [h]
    rfl

end Locator

end SqlShell
