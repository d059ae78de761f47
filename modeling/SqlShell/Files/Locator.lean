import SqlShell.Files.Tree
import SqlShell.Text.Blank
import SqlShell.Text.Lines
import SqlShell.Text.LowerCase
import SqlShell.Url.Base64
import SqlShell.Url.Request

/-!
Locators: texts that name a local path or an address elsewhere, and the text behind them, which is
read from the files of a job or from the network.
-/

namespace SqlShell

/-- Where texts are read from: the files around a job, and the network. -/
structure Sources where
  files : FileTree
  network : Url.Network := .unreachable

/-- Files alone are read without a network. -/
instance : Coe FileTree Sources :=
  ⟨fun files => { files }⟩

/-- What a locator leads to: a local path, or an address that has to be opened. -/
inductive Locator where
  | file (path : Path)
  | address (text : List Char)
  deriving DecidableEq, Repr

namespace Locator

/-- What a text leads to. A scheme of a single letter is a drive and belongs to a path; the
path of a file address has its escapes read.
-/
def ofText (text : List Char) : Except Url.Problem Locator :=
  (Url.split text).map fun parts =>
    if parts.scheme.length ≤ 1 then .file (Path.ofText text)
    else if parts.scheme == "file".toList then .file (Path.ofText (Url.unescape parts.path))
    else .address text

/-- The local path behind a locator, if it is one. -/
def path? : Locator → Option Path
  | .file path => some path
  | .address _ => none

/-- An address without outer blanks, angle brackets around it and the word that announces it. -/
def unwrapped (text : List Char) : List Char :=
  let text := Text.trim text
  let text :=
    if text.head? == some '<' && text.getLast? == some '>' then
      Text.trim (text.drop 1).dropLast
    else
      text
  if "URL:".toList.isPrefixOf text then Text.trim (text.drop 4) else text

/-- The scheme before the first colon, in which no slash may stand, and the text after it. -/
def schemeOf? (text : List Char) : Option (List Char × List Char) :=
  match Text.cutAt ':' text with
  | (scheme, some rest) =>
      if scheme.isEmpty || scheme.contains '/' then none
      else some (Text.toLower scheme, rest)
  | _ => none

/-- The host of an address after its scheme and the part after the host. -/
def hostOf (rest : List Char) : List Char × List Char :=
  match rest with
  | '/' :: '/' :: more =>
      let selector := more.dropWhile (!Url.endsHost ·)
      (more.takeWhile (!Url.endsHost ·),
        if selector.isEmpty || selector.head? == some '/' then selector else '/' :: selector)
  | _ => ([], rest)

/-- The bytes that a data address holds after its scheme. -/
def dataBytes (content : List Char) : Except Url.Problem (List UInt8) :=
  match Text.cutAt ',' content with
  | (_, none) => .error .noComma
  | (kind, some data) =>
      let bytes := Url.unescapeBytes data
      if ";base64".toList.isSuffixOf kind then
        match Base64.decode bytes with
        | .ok bytes => .ok bytes
        | .error .padding => .error .padding
        | .error (.strayDigit digits) => .error (.strayDigit digits)
      else
        .ok bytes

/-- The name of this machine. -/
def ownName : List Char :=
  "localhost".toList

/-- The number of this machine. -/
def ownNumber : List Char :=
  "127.0.0.1".toList

/-- A host without the port after it, and whether there is a port. A colon alone is dropped. -/
def withoutPort (host : List Char) : List Char × Bool :=
  match Text.cutAtLast ':' host with
  | (name, some port) =>
      if port.all Url.isAsciiDigit then (name, !port.isEmpty) else (host, false)
  | (_, none) => (host, false)

/-- The host is this machine without a port, or none is named. -/
def isOwnHost (host : List Char) : Bool :=
  let (name, hasPort) := withoutPort host
  name.isEmpty || (!hasPort && (name.map Char.toLower == ownName || name == ownNumber))

/-- The failure of a step that nothing can follow: its own, or else the one that ends it. -/
def failureOf (step : Except Url.Problem Unit) (otherwise : Url.Problem) : Url.Problem :=
  match step with
  | .error problem => problem
  | .ok () => otherwise

/-- The bytes of a file that an address names by its host and path. What the path leads to is
looked for before the host counts; a path of the other root is not looked for elsewhere at all.
-/
def fileBytes (tree : FileTree) (host path : List Char) : Except Url.Problem (List UInt8) :=
  let isOtherRoot := Path.anchorOf path = .doubleRoot && !host.isEmpty && host != ownName
  if isOtherRoot then
    .error (if host == ownNumber then .unknownScheme "file".toList else .remoteRoot)
  else
    let name := String.ofList (Url.unescape path)
    match tree.walkText name with
    | .error .zeroByte => .error .zeroByte
    | .error flaw => .error (.file (FileProblem.mk flaw name).message)
    | .ok place =>
        if !isOwnHost host then
          if (withoutPort host).2 then .error .remoteFile
          else .error (failureOf (Url.lookUp (withoutPort host).1) .remoteFile)
        else
          (tree.bytesAt place).mapError fun flaw => .file (FileProblem.mk flaw name).message

/-- The bytes behind an address with a scheme and the part after it. Requests to other machines are
checked before the network answers them. An address with a host that cannot be read is refused
whatever its scheme.
-/
def schemeBytes (sources : Sources) (address scheme rest : List Char)
    : Except Fault (List UInt8) := do
  let _ ← (Url.split address).mapError Url.Problem.fault
  let (host, path) := hostOf rest
  let host := Url.unescape host
  if scheme == "data".toList then
    (dataBytes ((Text.cutAt ':' address).2.getD [])).mapError Url.Problem.fault
  else if scheme == "file".toList then
    (fileBytes sources.files host path).mapError Url.Problem.fault
  else if scheme == "http".toList || scheme == "https".toList then do
    (Url.checkRequest host path).mapError Url.Problem.fault
    sources.network.bytesAt address
  else if scheme == "ftp".toList then do
    (Url.checkFileHost host).mapError Url.Problem.fault
    sources.network.bytesAt address
  else
    .error (Url.Problem.unknownScheme scheme).fault

/-- The bytes behind an address. A fragment counts for nothing, and an empty one is left out. -/
def addressBytes (sources : Sources) (text : List Char) : Except Fault (List UInt8) :=
  let whole := unwrapped text
  let (main, fragment) := Text.cutAtLast '#' whole
  let address := if fragment == some [] then main else whole
  match schemeOf? main with
  | none => .error (Url.Problem.noScheme address).fault
  | some (scheme, rest) => schemeBytes sources address scheme rest

/-- The fault of bytes that are no text. -/
def decodingFault (problem : Utf8.Problem) : Fault :=
  { kind := .value .encoding, message := problem.message }

/-- The text of bytes. -/
def textOf (bytes : List UInt8) : Except Fault (List Char) :=
  (Utf8.decode bytes).mapError decodingFault

/-- The text of the file at a path; all line ends become line feeds. -/
def readPath (tree : FileTree) (path : Path) : Except Fault (List Char) := do
  let bytes ← (tree.read path).mapError FileProblem.fault
  return Text.unifyLineEnds (← textOf bytes)

/-- The text behind a locator; behind an address it is left as it is. -/
def read (sources : Sources) (text : List Char) : Except Fault (List Char) := do
  match ← (ofText text).mapError Url.Problem.fault with
  | .file path => readPath sources.files path
  | .address text => textOf (← addressBytes sources text)

end Locator

end SqlShell
