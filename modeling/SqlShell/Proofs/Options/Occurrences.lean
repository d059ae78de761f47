import SqlShell.Options.CommandLine

/-! Command lines that are written flag by flag are read as what they say: each flag stands in one of
its spellings, with its value in the same argument or in the next one. Nothing in a value, such as a
dash or an equals sign, is taken for a flag.
-/

namespace SqlShell

/-- The short or the long spelling of a flag. -/
def Flag.spelled (flag : Flag) (long : Bool) : String :=
  if long then flag.spelling.long else flag.spelling.short

namespace CommandLine

/-- A flag as it is written once. A value after an equals sign may be any text but the mark that ends
the flags; a value in an argument of its own may not start with a dash.
-/
inductive Occurrence where
  | help (long : Bool)
  | joined (flag : Flag) (takes : flag.takesValue = true) (long : Bool) (value : String)
      (no_mark : value ≠ "--")
  | apart (flag : Flag) (takes : flag.takesValue = true) (long : Bool) (value : String)
      (no_dash : value.toList.head? ≠ some '-')

namespace Occurrence

def arguments : Occurrence → List String
  | .help long => [Flag.help.spelled long]
  | .joined flag _ long value _ => [flag.spelled long ++ "=" ++ value]
  | .apart flag _ long value _ => [flag.spelled long, value]

def isHelp : Occurrence → Bool
  | .help _ => true
  | _ => false

/-- The value that is given to a flag here. -/
def value? (flag : Flag) : Occurrence → Option String
  | .help _ => none
  | .joined given _ _ value _ => if given = flag then some value else none
  | .apart given _ _ value _ => if given = flag then some value else none

end Occurrence

/-- The arguments of a command line that is written flag by flag. -/
def written (line : List Occurrence) : List String :=
  line.flatMap Occurrence.arguments

/-- The values that are given to a flag, in order. -/
def valuesOf (flag : Flag) (line : List Occurrence) : List String :=
  line.filterMap (Occurrence.value? flag)

/-- The last value that is given to a flag. -/
def lastOf (flag : Flag) (line : List Occurrence) : Option Setting :=
  (valuesOf flag line).getLast?.map .text

/-- All values that are given to a flag, if there are any. -/
def allOf (flag : Flag) (line : List Occurrence) : Option (List Setting) :=
  if valuesOf flag line = [] then none else some ((valuesOf flag line).map .text)

/-- The flags of the worker with the keys that they set, in the order of the configuration. -/
def workerKeys : List (Flag × String) := [
  (.workerFiles, "python.files"),
  (.workerExecutable, "python.executable"),
  (.workerRequirements, "python.requirements"),
  (.workerArchives, "python.archives")
]

/-- The options that a command line says: of a flag for one value the last one, of a flag for several
all of them.
-/
def said (line : List Occurrence) : Options where
  help := line.any Occurrence.isHelp
  session := lastOf .session line
  environment := lastOf .environment line
  defaults := lastOf .defaults line
  jars := allOf .jar line
  libraries := allOf .library line
  worker := workerKeys.filterMap fun (flag, key) =>
    (valuesOf flag line).getLast?.map fun value => (.text key, .text value)
  history := lastOf .history line
  script := lastOf .file line
  update := lastOf .update line

-----------------------------------------------------------------------------------------
-- Spellings
-----------------------------------------------------------------------------------------

variable (flag : Flag) (long : Bool)

theorem ofSpelling?_spelled : Flag.ofSpelling? (flag.spelled long) = some flag := by
  cases flag <;> cases long <;> decide +kernel

theorem head?_spelled : (flag.spelled long).toList.head? = some '-' := by
  cases flag <;> cases long <;> decide +kernel

theorem equals_not_mem_spelled : '=' ∉ (flag.spelled long).toList := by
  cases flag <;> cases long <;> decide +kernel

theorem spelled_ne_mark : flag.spelled long ≠ "--" := by
  cases flag <;> cases long <;> decide +kernel

/-- A text is the spelling of a flag only as one of its two. -/
theorem exists_spelled_of_ofSpelling? {text : String} {flag : Flag}
    (h : Flag.ofSpelling? text = some flag)
    : ∃ long, text = flag.spelled long := by
  obtain ⟨⟨spelling, found⟩, hf, rfl⟩ := Option.map_eq_some_iff.mp h
  obtain rfl : spelling = text := by simpa using List.find?_some hf
  obtain ⟨own, -, hm⟩ := List.mem_flatMap.mp (List.mem_of_find?_eq_some hf)
  rw [List.mem_cons, List.mem_singleton] at hm
  rcases hm with he | he
  · obtain ⟨rfl, rfl⟩ := Prod.mk.inj he
    exact ⟨false, rfl⟩
  · obtain ⟨rfl, rfl⟩ := Prod.mk.inj he
    exact ⟨true, rfl⟩

/-- A text with an equals sign is no spelling of a flag. -/
theorem ofSpelling?_of_mem_equals {text : String} (h : '=' ∈ text.toList)
    : Flag.ofSpelling? text = none := by
  rw [Option.eq_none_iff_forall_ne_some]
  intro flag hf
  obtain ⟨long, rfl⟩ := exists_spelled_of_ofSpelling? hf
  exact equals_not_mem_spelled flag long h

-----------------------------------------------------------------------------------------
-- Roles
-----------------------------------------------------------------------------------------

theorem roleOf_spelled : roleOf (flag.spelled long) = .ok (.flag flag none) := by
  simp [roleOf, head?_spelled, ofSpelling?_spelled]

/-- An argument with an equals sign is cut at the first one, also if its value holds more of them. -/
theorem roleOf_joined (value : String)
    : roleOf (flag.spelled long ++ "=" ++ value) = .ok (.flag flag (some value)) := by
  have htext : (flag.spelled long ++ "=" ++ value).toList =
      (flag.spelled long).toList ++ '=' :: value.toList := by
    simp
  have hhead : ((flag.spelled long).toList ++ '=' :: value.toList).head? = some '-' := by
    rw [List.head?_append, head?_spelled]
    rfl
  have hnone : Flag.ofSpelling? (flag.spelled long ++ "=" ++ value) = none :=
    ofSpelling?_of_mem_equals (by simp [htext])
  have hlong : ¬ (flag.spelled long).toList.length + (value.toList.length + 1) = 1 := by
    have hpos : (flag.spelled long).toList ≠ [] := by
      intro he
      have hs := head?_spelled flag long
      simp [he] at hs
    have := List.length_pos_iff.mpr hpos
    omega
  have hvalue : flagWithValue? ((flag.spelled long).toList ++ '=' :: value.toList) =
      some (flag, value) := by
    rw [flagWithValue?, Text.cutAt_append (equals_not_mem_spelled flag long)]
    simp [ofSpelling?_spelled]
  simp [roleOf, htext, hhead, hnone, hlong, hvalue]

theorem roleOf_of_no_dash {value : String} (h : value.toList.head? ≠ some '-')
    : roleOf value = .ok .value := by
  simp [roleOf, h]

/-- The arguments of an occurrence, each with its role. -/
def Occurrence.roles : Occurrence → List (String × Role)
  | .help long => [(Flag.help.spelled long, .flag .help none)]
  | .joined flag _ long value _ =>
      [(flag.spelled long ++ "=" ++ value, .flag flag (some value))]
  | .apart flag _ long value _ => [(flag.spelled long, .flag flag none), (value, .value)]

/-- An argument that is not the mark stands before the other ones with its own role. -/
theorem roles_cons {argument : String} {role : Role} (hm : argument ≠ "--")
    (hr : roleOf argument = .ok role) (rest : List String)
    : roles (argument :: rest) = (roles rest).map ((argument, role) :: ·) := by
  rw [roles, if_neg (by simpa using hm), hr]
  cases roles rest <;> rfl

/-- The roles of an occurrence do not depend on what is written after it. -/
theorem roles_arguments_append (occurrence : Occurrence) (rest : List String)
    : roles (occurrence.arguments ++ rest) = (roles rest).map (occurrence.roles ++ ·) := by
  cases occurrence with
  | help long => exact roles_cons (spelled_ne_mark _ long) (roleOf_spelled _ long) rest
  | joined flag _ long value no_mark =>
      refine roles_cons ?_ (roleOf_joined flag long value) rest
      intro he
      have hmem : '=' ∈ (flag.spelled long ++ "=" ++ value).toList := by simp
      rw [he] at hmem
      exact absurd hmem (by decide +kernel)
  | apart flag _ long value no_dash =>
      have hmark : value ≠ "--" := by
        rintro rfl
        exact no_dash (by decide +kernel)
      show roles (flag.spelled long :: value :: rest) = _
      rw [roles_cons (spelled_ne_mark flag long) (roleOf_spelled flag long),
        roles_cons hmark (roleOf_of_no_dash no_dash)]
      cases roles rest <;> rfl

theorem roles_written (line : List Occurrence)
    : roles (written line) = .ok (line.flatMap Occurrence.roles) := by
  induction line with
  | nil => rfl
  | cons occurrence rest ih =>
      rw [written, List.flatMap_cons, roles_arguments_append, ← written, ih]
      rfl

-----------------------------------------------------------------------------------------
-- Reading
-----------------------------------------------------------------------------------------

/-- What an occurrence gives: a flag with its value, which is of no use for the help flag. -/
def Occurrence.given : Occurrence → Flag × Setting
  | .help _ => (.help, .text "")
  | .joined flag _ _ value _ => (flag, .text value)
  | .apart flag _ _ value _ => (flag, .text value)

/-- The arguments of an occurrence are read as what it gives, whatever follows. -/
theorem readRoles_append (reading : Reading) (occurrence : Occurrence)
    (rest : List (String × Role))
    : readRoles reading (occurrence.roles ++ rest) =
        readRoles { reading with given := reading.given ++ [occurrence.given] } rest := by
  cases occurrence with
  | help long =>
      have hexpand : ∀ spelledLong, expand spelledLong .help none = .ok ([.help], none) :=
        fun _ => rfl
      rw [Occurrence.roles, List.singleton_append, readRoles, hexpand]
      rfl
  | joined flag takes long value no_mark =>
      have hexpand : ∀ spelledLong,
          expand spelledLong flag (some value) = .ok ([], some (flag, some value)) := by
        simp [expand, takes]
      have hsetting : carriedSetting value = .text value := by simp [carriedSetting, no_mark]
      rw [Occurrence.roles, List.singleton_append, readRoles, hexpand]
      simp [bind, Except.bind, Reading.addFlags, Reading.addValue, hsetting, Occurrence.given]
  | apart flag takes long value no_dash =>
      have hexpand : ∀ spelledLong,
          expand spelledLong flag none = .ok ([], some (flag, none)) := by
        simp [expand, takes]
      rw [Occurrence.roles, List.cons_append, List.singleton_append, readRoles, hexpand]
      simp [bind, Except.bind, Reading.addFlags, Reading.addValue, Occurrence.given]

/-- A whole command line is read as what its occurrences give, in order. -/
theorem readRoles_flatMap (line : List Occurrence) (reading : Reading)
    : readRoles reading (line.flatMap Occurrence.roles) =
        .ok { reading with given := reading.given ++ line.map Occurrence.given } := by
  induction line generalizing reading with
  | nil => simp [readRoles]
  | cons occurrence rest ih =>
      rw [List.flatMap_cons, readRoles_append, ih, List.map_cons, List.append_assoc]
      rfl

-----------------------------------------------------------------------------------------
-- Options
-----------------------------------------------------------------------------------------

/-- The reading of a command line that is written flag by flag. -/
def readingOf (line : List Occurrence) : Reading where
  given := line.map Occurrence.given

variable {flag}

/-- The reading holds the values that are given to a flag that takes them. -/
theorem values_readingOf (h : flag.takesValue = true) (line : List Occurrence)
    : (readingOf line).values flag = (valuesOf flag line).map .text := by
  have hne : Flag.help ≠ flag := by
    rintro rfl
    exact nomatch h
  rw [Reading.values, readingOf, List.filterMap_map, valuesOf]
  induction line with
  | nil => rfl
  | cons occurrence rest ih =>
      cases occurrence with
      | help long =>
          rw [List.filterMap_cons_none (by simp [Occurrence.given, hne]),
            List.filterMap_cons_none rfl]
          exact ih
      | joined given takes long value no_mark | apart given takes long value no_dash =>
          by_cases hg : given = flag <;> simpa [Occurrence.given, Occurrence.value?, hg] using ih

theorem last?_readingOf (h : flag.takesValue = true) (line : List Occurrence)
    : (readingOf line).last? flag = lastOf flag line := by
  rw [Reading.last?, values_readingOf h, List.getLast?_map, lastOf]

theorem all?_readingOf (h : flag.takesValue = true) (line : List Occurrence)
    : (readingOf line).all? flag = allOf flag line := by
  rw [Reading.all?, values_readingOf h, allOf]
  cases valuesOf flag line <;> rfl

/-- The reading asks for help if some occurrence does. -/
theorem help_readingOf (line : List Occurrence)
    : (!((readingOf line).values .help).isEmpty) = line.any Occurrence.isHelp := by
  rw [Reading.values, readingOf, List.filterMap_map]
  induction line with
  | nil => rfl
  | cons occurrence rest ih =>
      cases occurrence with
      | help long => rfl
      | joined given takes long value no_mark | apart given takes long value no_dash =>
          have hne : given ≠ .help := by
            rintro rfl
            exact nomatch takes
          simpa [Occurrence.given, Occurrence.isHelp, hne] using ih

theorem worker_readingOf (line : List Occurrence)
    : (readingOf line).worker =
        workerKeys.filterMap fun (flag, key) =>
          (valuesOf flag line).getLast?.map fun value => (.text key, .text value) := by
  have hlast (flag : Flag) (h : flag.takesValue = true) :
      (readingOf line).last? flag = (valuesOf flag line).getLast?.map .text :=
    last?_readingOf h line
  have hfiles := hlast .workerFiles rfl
  have hexecutable := hlast .workerExecutable rfl
  have hrequirements := hlast .workerRequirements rfl
  have harchives := hlast .workerArchives rfl
  simp only [Reading.worker, Flag.all, workerKeys, List.filterMap_cons, List.filterMap_nil,
    Flag.configurationKey?, hfiles, hexecutable, hrequirements, harchives]
  cases (valuesOf .workerFiles line).getLast? <;>
    cases (valuesOf .workerExecutable line).getLast? <;>
    cases (valuesOf .workerRequirements line).getLast? <;>
    cases (valuesOf .workerArchives line).getLast? <;> rfl

theorem options_readingOf (line : List Occurrence) : (readingOf line).options = said line := by
  simp only [Reading.options, said, help_readingOf, worker_readingOf]
  congr 1
  all_goals first | exact last?_readingOf rfl line | exact all?_readingOf rfl line

/-- Options that a command line says are in conflict if it gives both a script and an update. -/
theorem conflicts_said (line : List Occurrence)
    : (said line).conflicts ≠ [] ↔ valuesOf .file line ≠ [] ∧ valuesOf .update line ≠ [] := by
  have hsome : ∀ flag, (lastOf flag line).isSome = true ↔ valuesOf flag line ≠ [] := by
    simp [lastOf]
  rw [← hsome, ← hsome, Options.conflicts, said, ← Bool.and_eq_true]
  split
  · next h => simp [h]
  · next h => simp [h]

/-- A command line that is written flag by flag, in any order and with any repetitions, selects the
options that it says. They are in conflict exactly if it gives both a script and an update.
-/
theorem parse_written (line : List Occurrence)
    : parse (written line) = .ok (said line)
      ∧ ((said line).conflicts ≠ [] ↔ valuesOf .file line ≠ [] ∧ valuesOf .update line ≠ []) := by
  refine ⟨?_, conflicts_said line⟩
  rw [parse, roles_written]
  show (readRoles {} (line.flatMap Occurrence.roles) >>= _) = _
  rw [readRoles_flatMap, List.nil_append]
  show (.ok (readingOf line).options : Except Problem Options) = _
  rw [options_readingOf]

/-- Values with dashes and equals signs, repeated flags and spellings that start alike. -/
example : (parse ["-hist=-h", "-j", "a=b", "-h", "--jar=--file=x", "-s", "1", "-s="]).toOption.map
      (fun options => (options.help, options.session, options.jars, options.history)) =
    some (true, some (.text ""), some [.text "a=b", .text "--file=x"], some (.text "-h")) := by
  decide +kernel

end CommandLine

end SqlShell
