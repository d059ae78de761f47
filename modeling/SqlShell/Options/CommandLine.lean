import SqlShell.Options.Flag
import SqlShell.Text.Digits
import SqlShell.Text.Pieces
import SqlShell.Text.Quoted

/-!
Reading a command line: each argument is first told apart as a flag or a value, and the flags
then take the values that follow them.
-/

namespace SqlShell.CommandLine

/-- Why a command line cannot be read. -/
inductive Problem where
  | ambiguous (argument : String) (spellings : List String)
  | missingValue (flag : Flag)
  | needlessValue (flag : Flag) (value : String)
  | unrecognized (arguments : List String)
  deriving DecidableEq, Repr

/-- The name of the program. -/
def programName : String :=
  "sql-client"

/-- The wording of a problem. -/
def Problem.message : Problem → String
  | .ambiguous argument spellings =>
      "ambiguous option: " ++ argument ++ " could match " ++ ", ".intercalate spellings
  | .missingValue flag => "argument " ++ flag.title ++ ": expected one argument"
  | .needlessValue flag value =>
      "argument " ++ flag.title ++ ": ignored explicit argument "
        ++ String.ofList (Text.quoted value.toList)
  | .unrecognized arguments => "unrecognized arguments: " ++ " ".intercalate arguments

/-- The failure that reports a problem, with the way to the list of options. -/
def Problem.fault (problem : Problem) : Fault :=
  .client .invalidOptions ("Could not read from command line: " ++ problem.message)
    (some ("Run '" ++ programName ++ " " ++ embeddedMode
      ++ " --help' to list the available options."))

/-- What an argument is: a value, the mark after which all are values, a flag that perhaps
carries its value, or an unknown flag.
-/
inductive Role where
  | value
  | mark
  | flag (flag : Flag) (carried : Option String)
  | unknown
  deriving DecidableEq, Repr

/-- The text is a negative number, whole or with a point; a line feed may follow it. -/
def isNegativeNumber (text : List Char) : Bool :=
  let text := if text.getLast? == some '\n' then text.dropLast else text
  match text with
  | '-' :: number =>
      match number.dropWhile Text.isDigit with
      | [] => !number.isEmpty
      | '.' :: fraction => !fraction.isEmpty && fraction.all Text.isDigit
      | _ => false
  | _ => false

/-- The flags that an argument with a single dash may stand for: the one that its first two
characters spell, with the rest as its value, and those whose spelling it starts.
-/
def candidates (argument : List Char) : List (String × Flag × Option String) :=
  Flag.spellings.filterMap fun (spelling, flag) =>
    if spelling.toList == argument.take 2 then
      some (spelling, flag, some (String.ofList (argument.drop 2)))
    else if argument.isPrefixOf spelling.toList then
      some (spelling, flag, none)
    else
      none

/-- The flag that an argument with an equals sign spells before it. -/
def flagWithValue? (argument : List Char) : Option (Flag × String) :=
  match Text.cutAt '=' argument with
  | (spelling, some value) =>
      (Flag.ofSpelling? (String.ofList spelling)).map (·, String.ofList value)
  | _ => none

/-- The role of an argument that matches no spelling of a flag: it is a value if it looks like a
negative number or holds a space.
-/
def roleOfRest (argument : List Char) : Role :=
  if isNegativeNumber argument || argument.contains ' ' then .value else .unknown

/-- The role of an argument before the mark. -/
def roleOf (argument : String) : Except Problem Role :=
  let text := argument.toList
  if text.head? != some '-' then
    .ok .value
  else if let some flag := Flag.ofSpelling? argument then
    .ok (.flag flag none)
  else if text.length == 1 then
    .ok .value
  else if let some (flag, value) := flagWithValue? text then
    .ok (.flag flag (some value))
  else if text[1]? == some '-' then
    .ok (roleOfRest text)
  else
    match candidates text with
    | [] => .ok (roleOfRest text)
    | [(_, flag, carried)] => .ok (.flag flag carried)
    | several => .error (.ambiguous argument (several.map (·.1)))

/-- The roles of all arguments; the first ambiguous one is a problem. -/
def roles : List String → Except Problem (List (String × Role))
  | [] => .ok []
  | argument :: rest =>
      if argument == "--" then
        .ok ((argument, .mark) :: rest.map (·, .value))
      else do
        let role ← roleOf argument
        return (argument, role) :: (← roles rest)

/-- The flags with their values in the order given, and the arguments that belong to none. -/
structure Reading where
  given : List (Flag × Setting) := []
  extras : List String := []

/-- What the characters after a flag without value mean: each is the letter of another such
flag, until one takes a value, which the remaining characters are if there are any.
-/
def expandLetters (flag : Flag)
    : List Char → Except Problem (List Flag × Option (Flag × Option String))
  | [] => .error (.needlessValue flag "")
  | c :: rest =>
      match Flag.ofSpelling? (String.ofList ['-', c]) with
      | none => .error (.needlessValue flag (String.ofList (c :: rest)))
      | some next =>
          if next.takesValue then
            .ok ([flag], some (next, if rest.isEmpty then none else some (String.ofList rest)))
          else if rest.isEmpty then
            .ok ([flag, next], none)
          else
            (expandLetters next rest).map fun (flags, last) => (flag :: flags, last)

/-- A flag with the value it carries: the flags without value it stands for, and the flag that
still takes a value, with the value it carries.
-/
def expand (spelledLong : Bool) (flag : Flag)
    : Option String → Except Problem (List Flag × Option (Flag × Option String))
  | none => .ok (if flag.takesValue then ([], some (flag, none)) else ([flag], none))
  | some value =>
      if flag.takesValue then .ok ([], some (flag, some value))
      else if spelledLong then .error (.needlessValue flag value)
      else expandLetters flag value.toList

/-- The reading with flags that take no value. -/
def Reading.addFlags (reading : Reading) (flags : List Flag) : Reading :=
  { reading with given := reading.given ++ flags.map (·, .text "") }

/-- The reading with a flag and its value. -/
def Reading.addValue (reading : Reading) (flag : Flag) (value : Setting) : Reading :=
  { reading with given := reading.given ++ [(flag, value)] }

/-- The reading with an argument that belongs to no flag. -/
def Reading.addExtra (reading : Reading) (argument : String) : Reading :=
  { reading with extras := reading.extras ++ [argument] }

/-- What a flag is set to by the value it carries: the mark after which all are values is no value,
and leaves the flag with none.
-/
def carriedSetting (value : String) : Setting :=
  if value == "--" then .nothing else .text value

/-- Reads arguments whose roles are known. A flag takes the value it carries, or else the next
argument if that is a value.
-/
def readRoles (reading : Reading) : List (String × Role) → Except Problem Reading
  | [] => .ok reading
  | (argument, .flag flag carried) :: rest => do
      let (flags, last) ← expand (['-', '-'].isPrefixOf argument.toList) flag carried
      let reading := reading.addFlags flags
      match last with
      | none => readRoles reading rest
      | some (flag, some value) => readRoles (reading.addValue flag (carriedSetting value)) rest
      | some (flag, none) =>
          match rest with
          | (value, .value) :: rest => readRoles (reading.addValue flag (.text value)) rest
          | _ => .error (.missingValue flag)
  | (argument, _) :: rest => readRoles (reading.addExtra argument) rest

/-- The values given to a flag, in order. -/
def Reading.values (reading : Reading) (flag : Flag) : List Setting :=
  reading.given.filterMap fun (given, value) => if given = flag then some value else none

/-- The last value given to a flag. -/
def Reading.last? (reading : Reading) (flag : Flag) : Option Setting :=
  (reading.values flag).getLast?

/-- All values given to a flag, if there are any. -/
def Reading.all? (reading : Reading) (flag : Flag) : Option (List Setting) :=
  match reading.values flag with
  | [] => none
  | values => some values

/-- The configuration that the flags of the worker give, in the order of the flags. -/
def Reading.worker (reading : Reading) : Entries :=
  Flag.all.filterMap fun flag => do
    let key ← flag.configurationKey?
    let value ← reading.last? flag
    return (.text key, value.value)

/-- The options that a reading selects. -/
def Reading.options (reading : Reading) : Options where
  help := !(reading.values .help).isEmpty
  session := reading.last? .session
  environment := reading.last? .environment
  defaults := reading.last? .defaults
  jars := reading.all? .jar
  libraries := reading.all? .library
  worker := reading.worker
  history := reading.last? .history
  script := reading.last? .file
  update := reading.last? .update

/-- The options that the arguments after the mode select. -/
def parse (arguments : List String) : Except Problem Options := do
  let reading ← readRoles {} (← roles arguments)
  if reading.extras.isEmpty then
    return reading.options
  else
    .error (.unrecognized reading.extras)

end SqlShell.CommandLine
