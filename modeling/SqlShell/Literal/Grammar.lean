import SqlShell.Literal.Content
import SqlShell.Literal.Parser
import SqlShell.Literal.Template

/-!
The grammar of expressions. Each rule is a parser that is given the parsers of all rules, so that
rules may contain each other. Where misuses are looked for, some alternatives only serve to tell
what is wrong with a text; they stand where the mistakes that they know of are made.
-/

namespace SqlShell.Literal

/-- The parsers of all rules. -/
abbrev Rules := Rule → Parser Expr

namespace Grammar

open SqlShell.Literal.Parser

variable (rules : Rules)

/-- A name with a value by a sign that makes it one. -/
def naming : Parser Expr := do
  let line ← line
  let _ ← name <* sign ":="
  let _ ← rules .expression
  return .other line .naming

/-- An expression that may be given a name. -/
def named : Parser Expr :=
  firstOf [
    naming rules,
    whenStrict (rules .namingMisuse),
    rules .expression <* notAhead (sign ":=")
  ]

/-- An expression whose items are unpacked, or one that may be given a name. -/
def starNamed : Parser Expr :=
  firstOf [
    do return .starred (← line) (← sign "*" *> rules .bitOr),
    named rules
  ]

/-- Such expressions with commas between them, and perhaps one after them. -/
def starNameds : Parser (List Expr) :=
  commas (starNamed rules) <* optional (sign ",")

/-- Several expressions by one rule make a tuple, and a comma after a single one does so too. -/
def tupleOf (item : Parser Expr) : Parser Expr := do
  let line ← line
  let first ← item
  match ← many (sign "," *> item) with
  | [] =>
      match ← optional (sign ",") with
      | none => return first
      | some _ => return .tuple line [first]
  | rest =>
      let _ ← optional (sign ",")
      return .tuple line (first :: rest)

/-- Expressions without unpacking. -/
def expressions : Parser Expr :=
  tupleOf (rules .expression)

/-- Expressions with unpacking. -/
def starExpressions : Parser Expr :=
  tupleOf (rules .starExpression)

/-- What a function hands out on its way. -/
def yielded : Parser Expr := do
  let line ← line
  let _ ← keyword "yield"
  firstOf [
    do let _ ← keyword "from" *> rules .expression; return .other line .yieldedFrom,
    do let _ ← optional (starExpressions rules); return .other line .yielded
  ]

/-- An expression by a condition. -/
def conditional : Parser Expr := do
  let line ← line
  let _ ← rules .disjunction <* keyword "if"
  let _ ← rules .disjunction <* keyword "else"
  let _ ← rules .expression
  return .other line .conditional

/-- A name in a list of parameters; a comma or the colon at their end follows it. -/
def parameterEnd : Parser Unit :=
  firstOf [do let _ ← sign ","; return, ahead (sign ":")]

/-- The value that a parameter has by default. -/
def byDefault : Parser Unit :=
  firstOf [
    do let _ ← sign "=" *> rules .expression,
    whenStrict do
      let _ ← sign "="
      ahead (firstOf [sign ")", sign ","])
      misuse .missingDefault
  ]

/-- A parameter without a default. -/
def plainParameter : Parser Unit := do
  let _ ← name
  parameterEnd

/-- A parameter with a default. -/
def defaultParameter : Parser Unit := do
  let _ ← name
  byDefault rules
  parameterEnd

/-- A parameter that may have a default. -/
def anyParameter : Parser Unit := do
  let _ ← name
  let _ ← optional (byDefault rules)
  parameterEnd

/-- The end of the parameters that have no names for their callers. -/
def slash : Parser Unit := do
  let _ ← sign "/"
  parameterEnd

/-- Parameters without defaults up to a slash. -/
def plainSlash : Parser Unit := do
  let _ ← several plainParameter
  slash

/-- Parameters up to a slash, the last of which have defaults. -/
def defaultSlash : Parser Unit := do
  let _ ← many plainParameter
  let _ ← several (defaultParameter rules)
  slash

/-- Wrong uses of two stars among parameters. -/
def namedRestMisuse : Parser Unit := do
  let _ ← sign "**" *> name
  firstOf [
    sign "=" *> misuse .defaultOfNamedRest,
    do
      let _ ← sign ","
      firstOf [
        name *> misuse .afterNamedRest,
        firstOf [sign "*", sign "**", sign "/"] *> misuse .afterNamedRest
      ]
  ]

/-- The parameter that takes all arguments with names. -/
def namedRest : Parser Unit :=
  firstOf [
    whenStrict namedRestMisuse,
    sign "**" *> plainParameter
  ]

/-- A star with a parameter, or one alone. -/
def starParameter : Parser Unit :=
  firstOf [plainParameter, do let _ ← sign ","]

/-- Wrong uses of a star among parameters. -/
def restMisuse : Parser Unit :=
  firstOf [
    do
      let _ ← sign "*"
      let _ ← firstOf [
        sign ":",
        sign "," *> firstOf [sign ":", sign "**"]
      ]
      misuse .noNamedOnly,
    do
      let _ ← sign "*" *> name <* sign "="
      misuse .defaultOfRest,
    do
      let _ ← sign "*" *> starParameter
      let _ ← many (anyParameter rules)
      let _ ← sign "*" *> starParameter
      misuse .secondStar
  ]

/-- The parameters from a star on. -/
def rest : Parser Unit :=
  firstOf [
    whenStrict (restMisuse rules),
    do
      let _ ← sign "*" *> plainParameter
      let _ ← many (anyParameter rules)
      let _ ← optional namedRest,
    do
      let _ ← sign "*" *> sign ","
      let _ ← several (anyParameter rules)
      let _ ← optional namedRest,
    namedRest
  ]

/-- Wrong lists of parameters. -/
def parametersMisuse : Parser Unit :=
  let slashed : Parser Unit := firstOf [plainSlash, defaultSlash rules]
  firstOf [
    do
      let _ ← many plainParameter
      firstOf [defaultSlash rules, do let _ ← several (defaultParameter rules)]
      plainParameter
      misuse .lateDefaultless,
    do
      let _ ← many plainParameter
      let _ ← sign "(" *> commas name
      let _ ← optional (sign ",") <* sign ")"
      misuse .parenthesizedParameters,
    do
      let _ ← sign "/" *> sign ","
      misuse .noPositionalOnly,
    do
      let _ ← slashed
      let _ ← many (anyParameter rules)
      let _ ← sign "/"
      misuse .secondSlash,
    do
      let _ ← optional slashed
      let _ ← many (anyParameter rules)
      let _ ← sign "*" *> firstOf [do let _ ← sign ",", plainParameter]
      let _ ← many (anyParameter rules)
      let _ ← sign "/"
      misuse .slashAfterStar,
    do
      let _ ← several (anyParameter rules)
      let _ ← sign "/" *> sign "*"
      misuse .missingSlashComma
  ]

/-- The parameters of a function. -/
def parameters : Parser Unit :=
  firstOf [
    whenStrict (parametersMisuse rules),
    do
      plainSlash
      let _ ← many plainParameter
      let _ ← many (defaultParameter rules)
      let _ ← optional (rest rules),
    do
      defaultSlash rules
      let _ ← many (defaultParameter rules)
      let _ ← optional (rest rules),
    do
      let _ ← several plainParameter
      let _ ← many (defaultParameter rules)
      let _ ← optional (rest rules),
    do
      let _ ← several (defaultParameter rules)
      let _ ← optional (rest rules),
    rest rules
  ]

/-- A function without a name. -/
def function : Parser Expr := do
  let line ← line
  let _ ← keyword "lambda"
  let _ ← optional (parameters rules)
  let _ ← sign ":" *> rules .expression
  return .other line .function

/-- Names of statements that look like calls. -/
def statementNames : List String :=
  ["print", "exec"]

/-- The name of a statement that an expression is, if it is one. -/
def statementName? (expr : Expr) : Option (List Char) :=
  expr.name?.filter fun name => statementNames.contains (String.ofList name)

/-- Words of the notation that are names in most places. -/
def softKeywords : List String :=
  ["_", "case", "match"]

/-- The name is the start of such a word, or all of it. -/
def startsSoftKeyword (name : List Char) : Bool :=
  softKeywords.any fun word => name.isPrefixOf word.toList

/-- An expression without a look for misuses. -/
def lenientExpression : Parser Expr :=
  lenient (firstOf [conditional rules, rules .disjunction, function rules])

/-- Wrong expressions: two of them beside each other, where parentheses make a comma likely, and a
condition without its other case.
-/
def expressionMisuse : Parser Expr :=
  decided [
    do
      notAhead (firstOf [
        do let _ ← name; kind .quoted,
        token fun token => token.kind = .name && startsSoftKeyword token.text
      ])
      let first ← rules .disjunction
      let _ ← lenientExpression rules
      if (statementName? first).isSome || (← last).level = 0 then return none
      else misuse .forgottenComma,
    do
      let _ ← rules .disjunction <* keyword "if"
      let _ ← rules .disjunction
      notAhead (firstOf [do let _ ← keyword "else", do let _ ← sign ":"])
      misuse .missingElse
  ]

/-- A statement that looks like a call without parentheses. -/
def statementMisuse : Parser Expr := do
  let first ← name
  notAhead (sign "(")
  let _ ← starExpressions rules
  if (statementName? (.name first.line first.text)).isSome then misuse (.statementCall first.text)
  else absent

/-- An expression. -/
def expression : Parser Expr :=
  firstOf [
    whenStrict (expressionMisuse rules),
    whenStrict (statementMisuse rules),
    conditional rules,
    rules .disjunction,
    function rules
  ]

/-- An expression whose items are unpacked, or any other one. -/
def starExpression : Parser Expr :=
  firstOf [
    do return .starred (← line) (← sign "*" *> rules .bitOr),
    rules .expression
  ]

/-- Expressions that a word joins. -/
def joined (word : String) (item : Parser Expr) : Parser Expr := do
  let line ← line
  let first ← item
  match ← many (keyword word *> item) with
  | [] => return first
  | _ => return .other line .joined

/-- An expression that may be turned around. -/
def inversion : Parser Expr :=
  firstOf [
    do return .unary (← line) .other (← keyword "not" *> rules .inversion),
    do
      let line ← line
      let left ← rules .bitOr
      match ← many comparand with
      | [] => return left
      | isMembership :: _ => return .comparison line isMembership left
  ]
where
  /-- A sign or word that compares, and what is compared with; tells whether it asks for membership.
  -/
  comparand : Parser Bool := do
    let isMembership ← firstOf [
      do let _ ← firstOf (["==", "!=", "<=", "<", ">=", ">"].map sign); return false,
      do let _ ← keyword "not" *> keyword "in"; return false,
      do let _ ← keyword "in"; return true,
      do let _ ← keyword "is" *> optional (keyword "not"); return false
    ]
    let _ ← rules .bitOr
    return isMembership

/-- Two expressions with one of some signs between them, or the second kind alone. -/
def operation (signs : List (String × Sign)) (left right : Rule) : Parser Expr :=
  firstOf (signs.map step ++ [rules right])
where
  /-- The expressions around one of the signs. -/
  step (entry : String × Sign) : Parser Expr := do
    let line ← line
    let first ← rules left
    let second ← sign entry.1 *> rules right
    return .binary line entry.2 first second

/-- An expression with a sign before it, or a power. -/
def factor : Parser Expr :=
  firstOf [
    do return .unary (← line) .plus (← sign "+" *> rules .factor),
    do return .unary (← line) .minus (← sign "-" *> rules .factor),
    do return .unary (← line) .other (← sign "~" *> rules .factor),
    do
      let line ← line
      let base ← rules .awaited
      match ← optional (sign "**" *> rules .factor) with
      | none => return base
      | some exponent => return .binary line .other base exponent
  ]

/-- What a comprehension is called where its items are what each of many things is called. -/
def wrongTargets (expr : Expr) : Parser Unit :=
  match expr.wrongTarget? with
  | some wrong => misuse (.assigned wrong.description)
  | none => absent

/-- A tuple of targets. -/
def targets : Parser Unit :=
  firstOf [
    do
      let _ ← rules .target
      notAhead (sign ","),
    do
      let _ ← commas (rules .target)
      let _ ← optional (sign ",")
  ]

/-- One clause of a comprehension. Once its targets are known, what follows has to fit. -/
def forClause : Parser Unit :=
  decided [
    do
      let _ ← keyword "async" *> keyword "for"
      clauseEnd,
    do
      let _ ← keyword "for"
      clauseEnd,
    do
      whenStrict do
        let _ ← optional (keyword "async")
        let _ ← keyword "for"
        wrongTargets (← starExpressions rules)
        return none
  ]
where
  /-- The rest of a clause from its targets on. -/
  clauseEnd : Parser (Option Unit) := do
    targets rules
    let _ ← keyword "in"
    optional do
      let _ ← rules .disjunction
      let _ ← many (keyword "if" *> rules .disjunction)

/-- The clauses of a comprehension. -/
def forClauses : Parser Unit := do
  let _ ← several (forClause rules)

/-- An expression whose items are unpacked as arguments. -/
def starred : Parser Expr := do
  let line ← line
  let _ ← sign "*"
  firstOf [
    do return .starred line (← rules .expression),
    misuse .bareStar
  ]

/-- Wrong comprehensions in parentheses that open with one of some signs. -/
def comprehensionMisuse : Parser Expr :=
  firstOf [
    do
      let _ ← firstOf [sign "(", sign "\x7b"] *> starred rules
      forClauses rules
      misuse .unpackingComprehension,
    do
      let _ ← sign "\x7b" *> starNamed rules <* sign ","
      let _ ← starNameds rules
      forClauses rules
      misuse .bareTarget,
    do
      let _ ← sign "\x7b" *> starNamed rules <* sign ","
      forClauses rules
      misuse .bareTarget
  ]

/-- A tuple in parentheses. -/
def tuple : Parser Expr := do
  let line ← line
  let _ ← sign "("
  let items ← optional do
    let first ← starNamed rules <* sign ","
    return first :: ((← optional (starNameds rules)).getD [])
  let _ ← sign ")"
  return .tuple line (items.getD [])

/-- An expression in parentheses. -/
def group : Parser Expr :=
  firstOf [
    sign "(" *> firstOf [yielded rules, named rules] <* sign ")",
    whenStrict do
      let _ ← sign "("
      firstOf [
        do
          let _ ← starred rules <* sign ")"
          misuse .starredHere,
        do
          let _ ← sign "**" *> rules .expression <* sign ")"
          misuse .doubleStarredHere
      ]
  ]

/-- An expression for each of many things, in parentheses. -/
def generator : Parser Expr :=
  firstOf [
    do
      let line ← line
      let _ ← sign "("
      let _ ← firstOf [naming rules, rules .expression <* notAhead (sign ":=")]
      forClauses rules
      let _ ← sign ")"
      return .other line .generator,
    whenStrict (comprehensionMisuse rules)
  ]

/-- A key and its value. -/
def entry : Parser (Expr × Expr) := do
  let key ← rules .expression <* sign ":"
  return (key, ← rules .expression)

/-- A key and its value, or entries that are unpacked. -/
def anyEntry : Parser (Option Expr × Expr) :=
  firstOf [
    do return (none, ← sign "**" *> rules .bitOr),
    do
      let (key, value) ← entry rules
      return (some key, value)
  ]

/-- Wrong values after keys. -/
def valueMisuses : List (Parser Unit) := [
  do
    let _ ← rules .expression <* sign ":"
    let _ ← sign "*" *> rules .bitOr
    misuse .starredValue,
  do
    let _ ← rules .expression <* sign ":"
    ahead (firstOf [sign "\x7d", sign ","])
    misuse .missingValue
]

/-- Wrong entries. -/
def entriesMisuse : Parser Unit :=
  firstOf ([
    do
      let _ ← commas (anyEntry rules) <* sign ","
      firstOf ([
        do
          let _ ← rules .expression
          notAhead (sign ":")
          misuse .missingColon
      ] ++ valueMisuses rules)
  ] ++ valueMisuses rules)

/-- Entries in braces. Wrong ones are told wherever they stand. -/
def dict : Parser Expr :=
  firstOf [
    do
      let line ← line
      let _ ← sign "\x7b"
      let entries ← optional (commas (anyEntry rules) <* optional (sign ","))
      let _ ← sign "\x7d"
      return .dict line (entries.getD []),
    do
      let _ ← sign "\x7b"
      entriesMisuse rules
      let _ ← sign "\x7d"
      absent
  ]

/-- A set in braces. -/
def set : Parser Expr := do
  let line ← line
  return .set line (← sign "\x7b" *> starNameds rules <* sign "\x7d")

/-- Entries for each of many things. -/
def dictOfEach : Parser Expr :=
  firstOf [
    do
      let line ← line
      let _ ← sign "\x7b" *> entry rules
      forClauses rules
      let _ ← sign "\x7d"
      return .other line .dictOfEach,
    whenStrict do
      let _ ← sign "\x7b" *> sign "**" *> rules .bitOr
      forClauses rules
      let _ ← sign "\x7d"
      misuse .unpackingEntries
  ]

/-- A set of what there is for each of many things. -/
def setOfEach : Parser Expr :=
  firstOf [
    do
      let line ← line
      let _ ← sign "\x7b" *> named rules
      forClauses rules
      let _ ← sign "\x7d"
      return .other line .setOfEach,
    whenStrict (comprehensionMisuse rules)
  ]

/-- The constant that a number stands for. -/
def numberConstant (text : List Char) : Except ContentFlaw Constant :=
  let digits := (text.filter (· != '_')).map Char.toLower
  let valueIn (base : Nat) (digits : List Char) : Nat :=
    digits.foldl (fun value c => base * value + hexValue [c]) 0
  match digits with
  | '0' :: 'x' :: digits => .ok (.integer (valueIn 16 digits))
  | '0' :: 'o' :: digits => .ok (.integer (valueIn 8 digits))
  | '0' :: 'b' :: digits => .ok (.integer (valueIn 2 digits))
  | _ =>
      if digits.contains 'j' then .ok .imaginary
      else if digits.contains '.' || digits.contains 'e' then .ok .decimal
      else if longestInteger < digits.length then .error (.longInteger digits.length)
      else .ok (.integer (valueIn 10 digits))

/-- A number. -/
def number : Parser Expr := do
  let token ← kind .number
  match numberConstant token.text with
  | .ok value => return .constant token.line value
  | .error flaw => flawed (.content flaw)

/-- Checks a quoted text, given whether the one before it holds bytes. -/
def checkQuoted (previous : Option Bool) (token : Token) : Parser Unit :=
  fun setting =>
    let text := QuotedText.ofToken token.text
    let isMixed := previous.any (· != text.isBytes)
    if text.isTemplate then
      if isMixed then flawed (.content .mixedBytes) setting
      else
        match Template.check (setting.checkInner · token.line) text.isRaw text.content with
        | .ok _ => found () setting
        | .error flaw => flawed flaw setting
    else
      match text.flaw? with
      | some flaw => flawed (.content flaw) setting
      | none => if isMixed then flawed (.content .mixedBytes) setting else found () setting

/-- Quoted texts one after another, which make a single one. -/
def quoted : Parser Expr := do
  let line ← line
  let tokens ← several (kind .quoted)
  let texts := tokens.map (QuotedText.ofToken ·.text)
  let previous := none :: texts.map (some ·.isBytes)
  let _ ← (previous.zip tokens).mapM fun (previous, token) => checkQuoted previous token
  if texts.any (·.isTemplate) then return .other line .template
  else return .constant line (if texts.any (·.isBytes) then .bytes else .text)

/-- A constant by its word. -/
def constantWord (word : String) (value : Constant) : Parser Expr :=
  do return .constant (← keyword word).line value

/-- An expression that nothing can come between. -/
def atom : Parser Expr :=
  firstOf [
    do
      let token ← name
      return .name token.line token.text,
    constantWord "True" (.truth true),
    constantWord "False" (.truth false),
    constantWord "None" .nothing,
    rules .quoted,
    number,
    do
      ahead (sign "(")
      firstOf [tuple rules, group rules, generator rules],
    do
      ahead (sign "\x7b")
      firstOf [dict rules, set rules, dictOfEach rules, setOfEach rules],
    do return .constant (← sign "...").line .dots
  ]

/-- The call of a function with arguments. -/
def callOf (line : Nat) (function : Expr) (arguments : Option Expr) : Expr :=
  match arguments with
  | some (.call _ _ count others) => .call line function.name? count others
  | _ => .call line function.name? 0 []

/-- An expression with what is asked of it: a part, or a call. Where `follow` says so, more has to
follow; so it is with what is given a value in turn.
-/
def asked (self : Rule) (follow : Parser Unit) : Parser Expr :=
  firstOf [
    do
      let line ← line
      let _ ← rules self <* sign "." <* name
      follow
      return .other line .attribute,
    do
      let line ← line
      let function ← rules self
      let _ ← generator rules
      follow
      return .call line function.name? 1 [],
    do
      let line ← line
      let function ← rules self <* sign "("
      let arguments ← optional (rules .arguments) <* sign ")"
      follow
      return callOf line function arguments,
    do
      let atom ← atom rules
      follow
      return atom
  ]

/-- What shows that more is asked of an expression. -/
def askingSign : Parser Token :=
  firstOf [sign "(", sign "."]

/-- What a thing is called in turn: a name, a part of something, or several of these. -/
def targetAtom : Parser Expr :=
  firstOf [
    do
      let line ← line
      let _ ← rules .targetPrimary <* sign "." <* name
      notAhead askingSign
      return .other line .attribute,
    do
      let token ← name
      return .name token.line token.text,
    sign "(" *> rules .targetAtom <* sign ")",
    do
      let line ← line
      let _ ← sign "("
      let items ← optional tupleTargets
      let _ ← sign ")"
      return .tuple line (items.getD [])
  ]
where
  /-- Targets of a tuple. -/
  tupleTargets : Parser (List Expr) :=
    firstOf [
      do
        let first ← rules .target
        let others ← several (sign "," *> rules .target)
        let _ ← optional (sign ",")
        return first :: others,
      do
        let first ← rules .target <* sign ","
        return [first]
    ]

/-- A target, which may take all items that are left. -/
def target : Parser Expr :=
  firstOf [
    do
      let line ← line
      let _ ← sign "*"
      notAhead (sign "*")
      return .starred line (← rules .target),
    rules .targetAtom
  ]

/-- Wrong arguments with names. -/
def keywordMisuse : Parser (Expr × Bool) :=
  firstOf [
    do
      let word ← firstOf (["True", "False", "None"].map keyword) <* sign "="
      misuse (.assigned (String.ofList word.text)),
    do
      let _ ← name *> sign "=" *> rules .expression
      forClauses rules
      misuse .singleEquals,
    do
      notAhead (name *> sign "=")
      let _ ← rules .expression <* sign "="
      misuse .assignmentArgument
  ]

/-- An argument with a name. -/
def keywordArgument : Parser Bool := do
  let _ ← name *> sign "=" *> rules .expression
  return false

/-- The names of arguments, of which the unpacked ones count without a name. -/
structure Arguments where
  count : Nat := 0
  others : List Bool := []

/-- Arguments after the first one with a name: `none` for one whose items are unpacked. -/
def keywordArguments : Parser Arguments :=
  let starredOrNamed : Parser (Option Bool) :=
    firstOf [
      whenStrict (do let _ ← keywordMisuse rules; return none),
      do return some (← keywordArgument rules),
      do
        let _ ← starred rules
        return none
    ]
  let unpackedOrNamed : Parser (Option Bool) :=
    firstOf [
      whenStrict (do let _ ← keywordMisuse rules; return none),
      do return some (← keywordArgument rules),
      do
        let _ ← sign "**" *> rules .expression
        return some true
    ]
  do
    let found ← firstOf [
      do return (← commas starredOrNamed <* sign ",") ++ (← commas unpackedOrNamed),
      commas starredOrNamed,
      commas unpackedOrNamed
    ]
    return { count := (found.filter (·.isNone)).length, others := found.filterMap id }

/-- An argument without a name. -/
def plainArgument : Parser Unit := do
  let _ ← firstOf [
    starred rules,
    do
      let value ← firstOf [naming rules, rules .expression <* notAhead (sign ":=")]
      notAhead (sign "=")
      return value
  ]

/-- Arguments. -/
def allArguments : Parser Expr := do
  let line ← line
  firstOf [
    do
      let plain ← commas (plainArgument rules)
      let named := (← optional (sign "," *> keywordArguments rules)).getD {}
      return .call line none (plain.length + named.count) named.others,
    do
      let named ← keywordArguments rules
      return .call line none named.count named.others
  ]

/-- Wrong arguments. -/
def argumentsMisuse : Parser Expr :=
  decided [
    do
      let _ ← firstOf [
        commas (plainArgument rules) *> sign "," *> keywordArguments rules,
        keywordArguments rules
      ]
      let _ ← sign "," *> commas (starred rules <* notAhead (sign "="))
      misuse .lateUnpacking,
    do
      let _ ← rules .expression
      forClauses rules
      let _ ← sign ","
      let _ ← optional (firstOf [
        do let _ ← allArguments rules,
        do
          let _ ← rules .expression
          forClauses rules
      ])
      misuse .bareGenerator,
    do
      let _ ← name *> sign "=" *> rules .expression
      forClauses rules
      misuse .singleEquals,
    do
      let arguments ← allArguments rules
      forClauses rules
      match arguments with
      | .call _ _ count _ => if count ≤ 1 then return none else misuse .bareGenerator
      | _ => return none,
    do
      let _ ← allArguments rules <* sign ","
      let _ ← rules .expression
      forClauses rules
      misuse .bareGenerator,
    do
      let arguments ← allArguments rules <* sign ","
      let _ ← allArguments rules
      match arguments with
      | .call _ _ _ others =>
          if others.any id then misuse .positionalAfterUnpacking else misuse .latePositional
      | _ => return none
  ]

/-- Arguments up to the parenthesis that closes them. -/
def arguments : Parser Expr :=
  firstOf [
    do
      let arguments ← allArguments rules
      let _ ← optional (sign ",")
      ahead (sign ")")
      return arguments,
    whenStrict (argumentsMisuse rules)
  ]

/-- Wrong uses of signs that give names or values. -/
def namingMisuse : Parser Expr :=
  firstOf [
    do
      let wrong ← rules .expression <* sign ":="
      let _ ← rules .expression
      misuse (.namedWith wrong.description),
    do
      let _ ← name *> sign "=" *> rules .bitOr
      notAhead anotherSign
      misuse .singleEquals,
    do
      notAhead (firstOf [
        tuple rules, generator rules, constantWord "True" (.truth true),
        constantWord "None" .nothing, constantWord "False" (.truth false)
      ])
      let wrong ← rules .bitOr <* sign "="
      let _ ← rules .bitOr
      notAhead anotherSign
      misuse (.assignedHere wrong.description)
  ]
where
  /-- A sign that gives a value. -/
  anotherSign : Parser Token :=
    firstOf [sign "=", sign ":="]

/-- How a rule uses what is remembered: it is tried once at a place, or grown. -/
def remembered (rule : Rule) : Parser Expr → Parser Expr :=
  match rule with
  | .bitOr | .bitXor | .bitAnd | .shift | .sum | .term | .primary | .targetPrimary =>
      grown rule
  | _ => once rule

/-- What each rule reads. -/
def body : Rule → Parser Expr
  | .expression => expression rules
  | .starExpression => starExpression rules
  | .disjunction => joined "or" (rules .conjunction)
  | .conjunction => joined "and" (rules .inversion)
  | .inversion => inversion rules
  | .bitOr => operation rules [("|", .other)] .bitOr .bitXor
  | .bitXor => operation rules [("^", .other)] .bitXor .bitAnd
  | .bitAnd => operation rules [("&", .other)] .bitAnd .shift
  | .shift => operation rules [("<<", .other), (">>", .other)] .shift .sum
  | .sum => operation rules [("+", .plus), ("-", .minus)] .sum .term
  | .term =>
      operation rules
        [("*", .other), ("/", .other), ("//", .other), ("%", .other), ("@", .other)] .term .factor
  | .factor => factor rules
  | .awaited =>
      firstOf [
        do
          let line ← line
          let _ ← keyword "await" *> rules .primary
          return .other line .awaited,
        rules .primary
      ]
  | .primary => asked rules .primary (pure ())
  | .arguments => arguments rules
  | .quoted => quoted
  | .target => target rules
  | .targetAtom => targetAtom rules
  | .targetPrimary => asked rules .targetPrimary (ahead askingSign)
  | .namingMisuse => namingMisuse rules

end Grammar

end SqlShell.Literal
