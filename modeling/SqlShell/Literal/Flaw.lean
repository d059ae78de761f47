/-!
Flaws of literal texts: why a text is no expression, from its characters up to the way its parts
are put together.
-/

namespace SqlShell.Literal

/-- The notations of numbers. -/
inductive NumberKind where
  | decimal
  | hexadecimal
  | octal
  | binary
  | imaginary
  deriving DecidableEq, Repr

/-- The name of a notation. -/
def NumberKind.label : NumberKind → String
  | .decimal => "decimal"
  | .hexadecimal => "hexadecimal"
  | .octal => "octal"
  | .binary => "binary"
  | .imaginary => "imaginary"

/-- A character in single quotes. -/
def quotedChar (c : Char) : String :=
  "'" ++ c.toString ++ "'"

/-- The number of a character in sixteens, with at least four digits. -/
def codePoint (c : Char) : String :=
  let digits := (Nat.toDigits 16 c.toNat).map Char.toUpper
  "U+" ++ String.ofList (List.replicate (4 - digits.length) '0' ++ digits)

/-- Flaws of the characters of a text, found where it is cut into tokens. -/
inductive ScanFlaw where
  | unmatched (closing : Char)
  | mismatched (closing opening : Char) (line : Option Nat)
  | tooDeep
  | unterminated (line : Nat)
  | unterminatedBlock (line : Nat)
  | badNumber (kind : NumberKind)
  | badDigit (digit : Char) (kind : NumberKind)
  | leadingZeros
  | foreign (c : Char)
  | unprintable (c : Char)
  deriving DecidableEq, Repr

/-- The wording of a flaw of characters. -/
def ScanFlaw.message : ScanFlaw → String
  | .unmatched closing => "unmatched " ++ quotedChar closing
  | .mismatched closing opening line =>
      "closing parenthesis " ++ quotedChar closing ++ " does not match opening parenthesis "
        ++ quotedChar opening ++ (match line with
          | none => ""
          | some line => " on line " ++ toString line)
  | .tooDeep => "too many nested parentheses"
  | .unterminated line =>
      "unterminated string literal (detected at line " ++ toString line ++ ")"
  | .unterminatedBlock line =>
      "unterminated triple-quoted string literal (detected at line " ++ toString line ++ ")"
  | .badNumber kind => "invalid " ++ kind.label ++ " literal"
  | .badDigit digit kind =>
      "invalid digit " ++ quotedChar digit ++ " in " ++ kind.label ++ " literal"
  | .leadingZeros =>
      "leading zeros in decimal integer literals are not permitted; use an 0o prefix for octal "
        ++ "integers"
  | .foreign c => "invalid character " ++ quotedChar c ++ " (" ++ codePoint c ++ ")"
  | .unprintable c => "invalid non-printable character " ++ codePoint c

/-- What a text lacks, or has too much of, where its tokens end early. -/
inductive EndFlaw where
  | unclosed (opening : Char)
  | strayBackslash
  | unexpectedEnd
  | unevenIndent
  | mixedIndent
  | deepIndent
  deriving DecidableEq, Repr

/-- The wording of an early end. -/
def EndFlaw.message : EndFlaw → String
  | .unclosed opening => quotedChar opening ++ " was never closed"
  | .strayBackslash => "unexpected character after line continuation character"
  | .unexpectedEnd => "unexpected EOF while parsing"
  | .unevenIndent => "unindent does not match any outer indentation level"
  | .mixedIndent => "inconsistent use of tabs and spaces in indentation"
  | .deepIndent => "too many levels of indentation"

/-- Flaws in the way tokens are put together. Descriptions tell what stands in the wrong place. -/
inductive Misuse where
  | invalid
  | indented
  | unindented
  | forgottenComma
  | missingElse
  | statementCall (name : List Char)
  | namedWith (description : String)
  | singleEquals
  | assignedHere (description : String)
  | assigned (description : String)
  | assignmentArgument
  | lateUnpacking
  | latePositional
  | positionalAfterUnpacking
  | bareGenerator
  | bareStar
  | starredHere
  | doubleStarredHere
  | unpackingComprehension
  | bareTarget
  | unpackingEntries
  | missingColon
  | starredValue
  | missingValue
  | noPositionalOnly
  | secondSlash
  | lateDefaultless
  | parenthesizedParameters
  | slashAfterStar
  | missingSlashComma
  | noNamedOnly
  | missingDefault
  | defaultOfRest
  | secondStar
  | defaultOfNamedRest
  | afterNamedRest
  deriving DecidableEq, Repr

/-- The wording of a misuse. -/
def Misuse.message : Misuse → String
  | .invalid => "invalid syntax"
  | .indented => "unexpected indent"
  | .unindented => "unexpected unindent"
  | .forgottenComma => "invalid syntax. Perhaps you forgot a comma?"
  | .missingElse => "expected 'else' after 'if' expression"
  | .statementCall name =>
      let name := String.ofList name
      "Missing parentheses in call to '" ++ name ++ "'. Did you mean " ++ name ++ "(...)?"
  | .namedWith description => "cannot use assignment expressions with " ++ description
  | .singleEquals => "invalid syntax. Maybe you meant '==' or ':=' instead of '='?"
  | .assignedHere description =>
      "cannot assign to " ++ description ++ " here. Maybe you meant '==' instead of '='?"
  | .assigned description => "cannot assign to " ++ description
  | .assignmentArgument =>
      "expression cannot contain assignment, perhaps you meant \"==\"?"
  | .lateUnpacking => "iterable argument unpacking follows keyword argument unpacking"
  | .latePositional => "positional argument follows keyword argument"
  | .positionalAfterUnpacking => "positional argument follows keyword argument unpacking"
  | .bareGenerator => "Generator expression must be parenthesized"
  | .bareStar => "Invalid star expression"
  | .starredHere => "cannot use starred expression here"
  | .doubleStarredHere => "cannot use double starred expression here"
  | .unpackingComprehension => "iterable unpacking cannot be used in comprehension"
  | .bareTarget => "did you forget parentheses around the comprehension target?"
  | .unpackingEntries => "dict unpacking cannot be used in dict comprehension"
  | .missingColon => "':' expected after dictionary key"
  | .starredValue => "cannot use a starred expression in a dictionary value"
  | .missingValue => "expression expected after dictionary key and ':'"
  | .noPositionalOnly => "at least one argument must precede /"
  | .secondSlash => "/ may appear only once"
  | .lateDefaultless => "non-default argument follows default argument"
  | .parenthesizedParameters => "Lambda expression parameters cannot be parenthesized"
  | .slashAfterStar => "/ must be ahead of *"
  | .missingSlashComma => "expected comma between / and *"
  | .noNamedOnly => "named arguments must follow bare *"
  | .missingDefault => "expected default value expression"
  | .defaultOfRest => "var-positional argument cannot have default value"
  | .secondStar => "* argument may appear only once"
  | .defaultOfNamedRest => "var-keyword argument cannot have default value"
  | .afterNamedRest => "arguments cannot follow var-keyword argument"

/-- Why a backslash in quoted text stands for no character. -/
inductive EscapeFlaw where
  | shortHex
  | shortUnicode
  | shortLong
  | tooLarge
  | badName
  | unknownName
  deriving DecidableEq, Repr

/-- The wording of a flawed escape. -/
def EscapeFlaw.message : EscapeFlaw → String
  | .shortHex => "truncated \\xXX escape"
  | .shortUnicode => "truncated \\uXXXX escape"
  | .shortLong => "truncated \\UXXXXXXXX escape"
  | .tooLarge => "illegal Unicode character"
  | .badName => "malformed \\N character escape"
  | .unknownName => "unknown Unicode character name"

/-- Flaws of the content of constants. -/
inductive ContentFlaw where
  | zeroByte
  | longInteger (digits : Nat)
  | mixedBytes
  | foreignByte
  | escape (start stop : Nat) (flaw : EscapeFlaw)
  | byteEscape (position : Nat)
  deriving DecidableEq, Repr

/-- The number of decimal digits that an integer may have. -/
def longestInteger : Nat := 4300

/-- The wording of a flaw of content. -/
def ContentFlaw.message : ContentFlaw → String
  | .zeroByte => "source code string cannot contain null bytes"
  | .longInteger digits =>
      "Exceeds the limit (" ++ toString longestInteger
        ++ " digits) for integer string conversion: value has " ++ toString digits
        ++ " digits; use sys.set_int_max_str_digits() to increase the limit - Consider hexadecimal "
        ++ "for huge integer literals to avoid decimal conversion limits."
  | .mixedBytes => "cannot mix bytes and nonbytes literals"
  | .foreignByte => "bytes can only contain ASCII literal characters"
  | .escape start stop flaw =>
      "(unicode error) 'unicodeescape' codec can't decode bytes in position " ++ toString start
        ++ "-" ++ toString (stop - 1) ++ ": " ++ flaw.message
  | .byteEscape position => "(value error) invalid \\x escape at position " ++ toString position

/-- Flaws of the braces in a template, and of the parts between them. -/
inductive TemplateFlaw where
  | singleBrace
  | tooDeep
  | backslash
  | comment
  | unterminated
  | manyParentheses
  | unmatched (c : Char)
  | mismatched (closing opening : Char)
  | empty
  | missingBefore (c : Char)
  | badConversion
  | unclosed
  deriving DecidableEq, Repr

/-- The wording of a flaw of a template, after the word for one. -/
def TemplateFlaw.message : TemplateFlaw → String
  | .singleBrace => ": single '\x7d' is not allowed"
  | .tooDeep => ": expressions nested too deeply"
  | .backslash => " expression part cannot include a backslash"
  | .comment => " expression part cannot include '#'"
  | .unterminated => ": unterminated string"
  | .manyParentheses => ": too many nested parenthesis"
  | .unmatched c => ": unmatched " ++ quotedChar c
  | .mismatched closing opening =>
      ": closing parenthesis " ++ quotedChar closing ++ " does not match opening parenthesis "
        ++ quotedChar opening
  | .empty => ": empty expression not allowed"
  | .missingBefore c => ": expression required before " ++ quotedChar c
  | .badConversion => ": invalid conversion character: expected 's', 'r', or 'a'"
  | .unclosed => ": expecting '\x7d'"

/-- Why a text is no expression. A flaw of an expression inside a template is told as such, unless
it is one of characters.
-/
inductive Flaw where
  | scan (flaw : ScanFlaw)
  | ending (flaw : EndFlaw)
  | misuse (flaw : Misuse)
  | content (flaw : ContentFlaw)
  | template (flaw : TemplateFlaw)
  | inTemplate (flaw : Flaw)
  deriving DecidableEq, Repr

/-- What announces a flaw of a template. -/
def templateLabel : String := "f-string"

namespace Flaw

/-- The flaw is one of characters, perhaps in a template. -/
def isOfCharacters : Flaw → Bool
  | scan _ => true
  | inTemplate flaw => flaw.isOfCharacters
  | _ => false

/-- The wording of a flaw. -/
def message : Flaw → String
  | scan flaw => flaw.message
  | ending flaw => flaw.message
  | misuse flaw => flaw.message
  | content flaw => flaw.message
  | template flaw => templateLabel ++ flaw.message
  | inTemplate flaw => (if flaw.isOfCharacters then "" else templateLabel ++ ": ") ++ flaw.message

end Flaw

end SqlShell.Literal
