import SqlShell.Fault
import SqlShell.Url.Host

/-!
The parts of an address: its scheme, its host and its path, without query and fragment.
-/

namespace SqlShell.Url

open SqlShell.Text (cutAt cutAtLast)

/-- The parts of an address that tell where it leads. -/
structure Parts where
  scheme : List Char
  host : List Char
  path : List Char
  deriving DecidableEq, Repr

/-- Why a text has no parts, or why nothing can be read from an address. -/
inductive Problem where
  | unbalancedHost
  | futureHost
  | notNumericHost (host : List Char)
  | bracketedHost
  | hiddenSeparator (host : List Char)
  | unknownScheme (scheme : List Char)
  | noScheme (text : List Char)
  | noHost
  | noFileHost
  | remoteFile
  | remoteRoot
  | zeroByte
  | zeroInName
  | badLabel
  | longLabel
  | barredInLabel (found : Char)
  | notNumericPort (port : List Char)
  | broken (part : List Char) (found : Char)
  | notInCode (code : String) (size place : Nat) (found : Char) (more : Nat)
  | unreachable
  | noComma
  | padding
  | strayDigit (digits : Nat)
  | file (reason : String)
  deriving DecidableEq, Repr

/-- The wording of a name whose labels cannot be looked up. -/
def labelFailure (reason : String) : String :=
  "encoding with 'idna' codec failed (UnicodeError: " ++ reason ++ ")"

/-- The wording of an address problem. -/
def Problem.reason : Problem → String
  | .unbalancedHost => "Invalid IPv6 URL"
  | .futureHost => "IPvFuture address is invalid"
  | .notNumericHost host =>
      String.ofList (Text.quoted host) ++ " does not appear to be an IPv4 or IPv6 address"
  | .bracketedHost => "An IPv4 address cannot be in brackets"
  | .hiddenSeparator host =>
      "netloc '" ++ String.ofList host ++ "' contains invalid characters under NFKC normalization"
  | .unknownScheme scheme => "unknown url type: " ++ String.ofList scheme
  | .noScheme text => "unknown url type: " ++ String.ofList (Text.quoted text)
  | .noHost => "no host given"
  | .noFileHost => "ftp error: no host given"
  | .remoteFile => "file not on local host"
  | .remoteRoot => "file:// scheme is supported only on localhost"
  | .zeroByte => "embedded null byte"
  | .zeroInName =>
      "gethostbyname() argument 1 must be encoded string without null bytes, not str"
  | .badLabel => labelFailure "label empty or too long"
  | .longLabel => labelFailure "label too long"
  | .barredInLabel found =>
      labelFailure ("Invalid character " ++ String.ofList (Text.quoted [found]))
  | .notNumericPort port => "nonnumeric port: '" ++ String.ofList port ++ "'"
  | .broken part found =>
      "URL can't contain control characters. " ++ String.ofList (Text.quoted part)
        ++ " (found at least " ++ String.ofList (Text.quoted [found]) ++ ")"
  | .notInCode code size place found more =>
      let found := match more with
        | 0 => " '" ++ String.ofList (Text.escapeOf found) ++ "' in position " ++ toString place
        | _ => "s in position " ++ toString place ++ "-" ++ toString (place + more)
      "'" ++ code ++ "' codec can't encode character" ++ found ++ ": ordinal not in range("
        ++ toString size ++ ")"
  | .unreachable => "[Errno -3] Temporary failure in name resolution"
  | .noComma => "not enough values to unpack (expected 2, got 1)"
  | .padding => "Incorrect padding"
  | .strayDigit digits =>
      "Invalid base64-encoded string: number of data characters (" ++ toString digits
        ++ ") cannot be 1 more than a multiple of 4"
  | .file reason => reason

/-- The kind of fault of an address problem. -/
def Problem.kind : Problem → FaultKind
  | .unknownScheme _ => .system .badUrl
  | .noHost => .system .badUrl
  | .noFileHost => .system .badUrl
  | .remoteFile => .system .badUrl
  | .remoteRoot => .system .badUrl
  | .unreachable => .system .badUrl
  | .file _ => .system .badUrl
  | .padding => .value .padding
  | .strayDigit _ => .value .padding
  | .zeroInName => .type
  | .badLabel => .value .name
  | .longLabel => .value .name
  | .barredInLabel _ => .value .name
  | .notNumericPort _ => .request
  | .broken _ _ => .request
  | .notInCode .. => .value .code
  | _ => .value .general

/-- The wording of a failure to open an address. -/
def openingFailure (reason : String) : String :=
  "<urlopen error " ++ reason ++ ">"

/-- The fault of an address problem. -/
def Problem.fault (problem : Problem) : Fault :=
  let message := match problem.kind with
    | .system _ => openingFailure problem.reason
    | _ => problem.reason
  { kind := problem.kind, message }

/-- The character is a letter of ASCII. -/
def isAsciiLetter (c : Char) : Bool :=
  (0x41 ≤ c.toNat && c.toNat ≤ 0x5A) || (0x61 ≤ c.toNat && c.toNat ≤ 0x7A)

/-- The character may stand in a scheme. -/
def isSchemeChar (c : Char) : Bool :=
  isAsciiLetter c || isAsciiDigit c || c == '+' || c == '-' || c == '.'

/-- The scheme of a text in lower case, and the text after it. -/
def splitScheme (text : List Char) : List Char × List Char :=
  match cutAt ':' text with
  | (c :: name, some rest) =>
      if isAsciiLetter c && name.all isSchemeChar then ((c :: name).map Char.toLower, rest)
      else ([], text)
  | _ => ([], text)

/-- The text as it is split: without controls and spaces at its start, and without tabs and
line ends anywhere.
-/
def cleaned (text : List Char) : List Char :=
  (text.dropWhile (·.toNat ≤ 0x20)).filter fun c => c != '\t' && c != '\r' && c != '\n'

/-- The character ends the host of an address. -/
def endsHost (c : Char) : Bool :=
  c == '/' || c == '?' || c == '#'

/-- The name of a host that has brackets, without the user before it and the port after it. It
stands in the brackets with nothing else around them; brackets of the user alone leave it free.
-/
def bracketedName (host : List Char) : Except Problem (List Char) :=
  let host := match cutAtLast '@' host with
    | (_, some name) => name
    | (_, none) => host
  match cutAt '[' host with
  | (_, none) => .ok (cutAt ':' host).1
  | (before, some rest) =>
      let (name, after) := cutAt ']' rest
      let after := after.getD []
      if before.isEmpty && (after.isEmpty || after.head? == some ':') then .ok name
      else .error .unbalancedHost

/-- Checks the name of a host that has brackets, which is a numeric address. -/
def checkName (name : List Char) : Except Problem Unit :=
  if name.head? == some 'v' then
    if isFutureAddress name then .ok () else .error .futureHost
  else if isAddress4 name then
    .error .bracketedHost
  else if isAddress6 name then
    .ok ()
  else
    .error (.notNumericHost name)

/-- Checks a host: brackets come in pairs and hold a numeric address, and no character stands
for a separator.
-/
def checkHost (host : List Char) : Except Problem Unit := do
  let opened := host.contains '['
  if opened != host.contains ']' then
    .error .unbalancedHost
  if opened then
    checkName (← bracketedName host)
  if hidesSeparator host then
    .error (.hiddenSeparator host)

/-- The parts of an address. -/
def split (text : List Char) : Except Problem Parts :=
  let (scheme, rest) := splitScheme (cleaned text)
  let (host, rest) := match rest with
    | '/' :: '/' :: more => (more.takeWhile (!endsHost ·), more.dropWhile (!endsHost ·))
    | _ => ([], rest)
  let path := (cutAt '?' (cutAt '#' rest).1).1
  (checkHost host).map fun _ => ⟨scheme, host, path⟩

end SqlShell.Url
