import SqlShell.Options.CommandLine
import SqlShell.Text.Fill
import SqlShell.Text.Lines

/-!
The usage of the program: the synopsis of the flags and the list of their descriptions, laid
out for the width of a terminal.
-/

namespace SqlShell.Usage

/-- The least width that descriptions are filled to. -/
def leastWidth : Int := 11

/-- The columns of a terminal that does not know its width. -/
def usualColumns : Nat := 80

/-- Two columns of the terminal stay free. -/
def textWidth (columns : Nat) : Int :=
  (if columns = 0 then usualColumns else columns : Int) - 2

/-- The column where descriptions start, further left on narrow terminals. -/
def helpColumn (columns : Nat) : Nat :=
  (min 24 (max (textWidth columns - 20) 4)).toNat

/-- The words before the synopsis. -/
def heading : String :=
  "usage: "

/-- The name of the program with its mode. -/
def program : String :=
  CommandLine.programName ++ " " ++ embeddedMode

/-- The description of the mode. -/
def summary : String :=
  "Submit SQL statements from the local machine."

/-- The form of a flag in the synopsis. -/
def synopsisPart (flag : Flag) : String :=
  "[" ++ flag.spelling.short ++ (flag.valueName?.map (" " ++ ·)).getD "" ++ "]"

/-- The form of a flag before its description. -/
def invocation (flag : Flag) : String :=
  let value := (flag.valueName?.map (" " ++ ·)).getD ""
  flag.spelling.short ++ value ++ ", " ++ flag.spelling.long ++ value

/-- Parts on lines of a width: a line takes parts while they fit after its indent, and at least
one. The size of the line under way is given with its parts.
-/
def breakParts (width : Int) (indent : Nat)
    : Int → List String → List String → List (List String)
  | _, line, [] => if line.isEmpty then [] else [line]
  | size, line, part :: rest =>
      if width < size + 1 + part.length && !line.isEmpty then
        line :: breakParts width indent ((indent : Int) + part.length) [part] rest
      else
        breakParts width indent (size + 1 + part.length) (line ++ [part]) rest

/-- So many spaces. -/
def spaces (count : Nat) : String :=
  String.ofList (List.replicate count ' ')

/-- The lines of a list of parts; all but the first start with the indent. -/
def partLines (indent : Nat) (lines : List (List String)) : List String :=
  match lines.map (" ".intercalate ·) with
  | [] => []
  | first :: rest => first :: rest.map (spaces indent ++ ·)

/-- The synopsis of all flags. It is broken into lines if it is too wide; the lines start below
the first flag unless the name of the program takes most of the width.
-/
def synopsis (columns : Nat) : String :=
  let width := textWidth columns
  let parts := Flag.all.map synopsisPart
  let whole := heading ++ " ".intercalate (program :: parts)
  if (whole.length : Int) ≤ width then
    whole
  else if ((heading.length + program.length : Nat) : Int) * 4 ≤ 3 * width then
    let indent := heading.length + program.length + 1
    heading ++ "\n".intercalate (partLines indent
      (breakParts width indent ((heading.length : Int) - 1) [] (program :: parts)))
  else
    let indent := heading.length
    let lines := breakParts width indent ((indent : Int) - 1) [] parts
    heading ++ "\n".intercalate (program :: lines.map (spaces indent ++ " ".intercalate ·))

/-- The lines of a text filled to a width, but not to less than the least one. -/
def filled (width : Int) (text : String) : List String :=
  (Text.fill (max width leastWidth).toNat text.toList).map String.ofList

/-- The lines of a flag: its form, and its description from the column of descriptions on. -/
def flagLines (columns : Nat) (flag : Flag) : List String :=
  let column := helpColumn columns
  let form := "  " ++ invocation flag
  let lines := filled (textWidth columns - column) flag.description
  if (invocation flag).length + 4 ≤ column then
    match lines with
    | [] => [form]
    | first :: rest =>
        (form ++ spaces (column - form.length) ++ first) :: rest.map (spaces column ++ ·)
  else
    form :: lines.map (spaces column ++ ·)

/-- The lines of the usage of the mode. -/
def embeddedLines (columns : Nat) : List String :=
  [synopsis columns, ""] ++ filled (textWidth columns) summary ++ ["", "options:"]
    ++ Flag.all.flatMap (flagLines columns)

/-- The usage of the mode, with a line feed at its end. -/
def embedded (columns : Nat) : String :=
  "\n".intercalate (embeddedLines columns) ++ "\n"

/-- The usage of the program: its modes, with the usage of the one that is supported set in. -/
def client (columns : Nat) : String :=
  let inner := (Text.splitLines (embedded columns).toList).map fun line =>
    if line.isEmpty then "" else "    " ++ String.ofList line
  "\n".intercalate [
    CommandLine.programName ++ " [MODE] [OPTIONS]",
    "",
    "The following modes are available:",
    "",
    "Mode \"" ++ embeddedMode ++ "\" submits SQL statements from the local machine.",
    "",
    "  Syntax: " ++ embeddedMode ++ " [OPTIONS]",
    "\n".intercalate inner,
    "",
    "Mode \"" ++ gatewayMode ++ "\" is reserved and not supported yet.",
    ""
  ]

end SqlShell.Usage
