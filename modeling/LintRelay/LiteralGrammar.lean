import LintRelay.LiteralReader
import LintRelay.LiteralText

/-!
# The grammar of literals

Literals are read by the grammar of expressions: conditions, comparisons, arithmetic, calls, tuples,
sets, mappings and comprehensions, without square brackets. Shapes that are known to be mistaken
have rules of their own, which find nothing and refuse the literal with the mistake.
-/
namespace LintRelay.Literal.Grammar

open Reader

variable (self : Rule → Reader Tree)

abbrev ignored {α : Type} (r : Reader α) : Reader Unit := do let _ ← r

def unfinished : Reader Unit := fail

/-! Expressions -/

def assignment : Reader Tree := do
  ignored name
  mark ":="
  ignored (self .expression)
  return .other "named expression"

/-- An expression that a colon and an equals sign do not follow. -/
def unnamed : Reader Tree := do
  let e ← self .expression
  notAhead (mark ":=")
  return e

def named : Reader Tree :=
  assignment self <|> do
    strictly (ignored (self .mistakenNamed))
    unnamed self

def starredBits : Reader Tree := do
  mark "*"
  return .starred (← self .bitOr)

def starredExpression : Reader Tree := do
  mark "*"
  return .starred (← self .expression)

def starExpression : Reader Tree := starredBits self <|> self .expression

def starNamed : Reader Tree := starredBits self <|> named self

/-- Items between commas, of which the last may have a comma behind it. -/
def series (r : Reader Tree) : Reader (List Tree) := do
  let items ← listed r
  ignored (optional (mark ","))
  return items

def starNameds : Reader (List Tree) := series (starNamed self)

/-- A single item without a comma is itself, all else a tuple. -/
def tupled (r : Reader Tree) : Reader Tree := do
  let first ← r
  let more ← many (do mark ","; r)
  let comma ← optional (mark ",")
  return if more.isEmpty && comma.isNone then first else .tuple (first :: more)

def starExpressions : Reader Tree := tupled (self .starExpression)

def yielding : Reader Tree := do
  mark "yield"
  (do mark "from"; ignored (self .expression)) <|> ignored (optional (starExpressions self))
  return .other "yield expression"

def conditional (value : Tree) : Reader Tree :=
  (do
    mark "if"
    ignored (self .disjunction)
    mark "else"
    ignored (self .expression)
    return .other "conditional expression") <|> give value

/-! Parameters of functions without a name -/

def byDefault : Reader Unit :=
  (do mark "="; ignored (self .expression)) <|> do
    strictly do
      mark "="
      ahead (mark ")" <|> mark ",")
      refuse .missingDefault
    unfinished

/-- A parameter ends with a comma or before the colon. -/
def parameterEnd : Reader Unit := mark "," <|> ahead (mark ":")

def required : Reader Unit := do ignored name; parameterEnd

def withDefault : Reader Unit := do ignored name; byDefault self; parameterEnd

def anyParameter : Reader Unit := do
  ignored name
  ignored (optional (byDefault self))
  parameterEnd

def slashEnd : Reader Unit := do mark "/"; parameterEnd

def slashRequired : Reader Unit := do
  ignored (several required)
  slashEnd

def slashWithDefault : Reader Unit := do
  ignored (many required)
  ignored (several (withDefault self))
  slashEnd

def mistakenDoubleStar : Reader Unit :=
  (do mark "**"; ignored name; mark "="; refuse .doubleStarWithDefault) <|>
  (do mark "**"; ignored name; mark ","; ignored name; refuse .afterDoubleStar) <|>
  (do
    mark "**"
    ignored name
    mark ","
    mark "*" <|> mark "**" <|> mark "/"
    refuse .afterDoubleStar)

def doubleStar : Reader Unit := do
  strictly mistakenDoubleStar
  mark "**"
  required

def mistakenStar : Reader Unit :=
  (do
    mark "*"
    mark ":" <|> (do mark ","; mark ":" <|> mark "**")
    refuse .nothingAfterStar) <|>
  (do mark "*"; ignored name; mark "="; refuse .starWithDefault) <|>
  (do
    mark "*"
    required <|> mark ","
    ignored (many (anyParameter self))
    mark "*"
    required <|> mark ","
    refuse .secondStar)

def starParameters : Reader Unit := do
  strictly (mistakenStar self)
  (do
      mark "*"
      required
      ignored (many (anyParameter self))
      ignored (optional doubleStar)) <|>
    (do
      mark "*"
      mark ","
      ignored (several (anyParameter self))
      ignored (optional doubleStar)) <|>
    doubleStar

def mistakenParameters : Reader Unit :=
  (do
    ignored (many required)
    slashWithDefault self <|> ignored (several (withDefault self))
    required
    refuse .requiredAfterOptional) <|>
  (do
    ignored (many required)
    mark "("
    ignored (listed name)
    ignored (optional (mark ","))
    mark ")"
    refuse .bracketedParameters) <|>
  (do mark "/"; mark ","; refuse .nothingBeforeSlash) <|>
  (do
    slashRequired <|> slashWithDefault self
    ignored (many (anyParameter self))
    mark "/"
    refuse .secondSlash) <|>
  (do
    ignored (optional (slashRequired <|> slashWithDefault self))
    ignored (many (anyParameter self))
    mark "*"
    mark "," <|> required
    ignored (many (anyParameter self))
    mark "/"
    refuse .slashAfterStar) <|>
  (do ignored (several (anyParameter self)); mark "/"; mark "*"; refuse .slashThenStar)

def parameters : Reader Unit := do
  strictly (mistakenParameters self)
  let rest := ignored (optional (starParameters self))
  (do
      slashRequired
      ignored (many required)
      ignored (many (withDefault self))
      rest) <|>
    (do slashWithDefault self; ignored (many (withDefault self)); rest) <|>
    (do ignored (several required); ignored (many (withDefault self)); rest) <|>
    (do ignored (several (withDefault self)); rest) <|>
    starParameters self

def nameless : Reader Tree := do
  mark "lambda"
  ignored (optional (parameters self))
  mark ":"
  ignored (self .expression)
  return .other "lambda"

/-- Statements that were once written without brackets. -/
def isOldStatement (id : String) : Bool := id = "print" || id = "exec"

def plainExpression : Reader Tree :=
  (do conditional self (← self .disjunction)) <|> nameless self

/-- Words that are names and yet may begin a statement. -/
def statementWords : List String := ["_", "case", "match"]

/-- Whether a name may become such a word as one writes on. -/
def beginsStatementWord (name : String) : Bool :=
  statementWords.any fun word => name.toList.isPrefixOf word.toList

/-- Two expressions in a row. -/
def neighbours : Reader Tree := do
  notAhead
    ((do ignored name; ignored (token fun t => t.kind = .text)) <|>
      ignored (token fun t => t.kind = .name && beginsStatementWord t.written))
  let first ← self .disjunction
  ignored (leniently (plainExpression self))
  return first

def mistakenExpression : Reader Unit := do
  match ← optional (neighbours self) with
  | some first =>
    let inside := (← depth) != 0
    match first with
    | .name id => if isOldStatement id || !inside then fail else refuse .forgottenComma
    | _ => if inside then refuse .forgottenComma else fail
  | none =>
    ignored (self .disjunction)
    mark "if"
    ignored (self .disjunction)
    notAhead (mark "else" <|> mark ":")
    refuse .missingElse

def oldStatement : Reader Unit := do
  let id ← name
  notAhead (mark "(")
  ignored (starExpressions self)
  if isOldStatement id then refuse (.missingCallBrackets id) else fail

def expression : Reader Tree := do
  strictly (mistakenExpression self)
  strictly (oldStatement self)
  plainExpression self

/-! Operators -/

def disjunction : Reader Tree := do
  let first ← self .conjunction
  let more ← many (do mark "or"; self .conjunction)
  return if more.isEmpty then first else .other "expression"

def conjunction : Reader Tree := do
  let first ← self .inversion
  let more ← many (do mark "and"; self .inversion)
  return if more.isEmpty then first else .other "expression"

def comparisonOperator : Reader String :=
  anyMark ["==", "!=", "<=", "<", ">=", ">"] <|>
    (do mark "not"; mark "in"; return "not in") <|>
    (do mark "in"; return "in") <|>
    (do mark "is"; mark "not"; return "is not") <|>
    (do mark "is"; return "is")

def comparison : Reader Tree := do
  let first ← self .bitOr
  let more ← many (do let operator ← comparisonOperator; ignored (self .bitOr); return operator)
  match more with
  | operator :: _ => return .comparison operator first
  | [] => return first

def inversion : Reader Tree :=
  (do mark "not"; return .unary "not" (← self .inversion)) <|> comparison self

/-- Operands with operators between them, taken together from the left. -/
def chain (operand : Reader Tree) (operators : List String) : Reader Tree := do
  let first ← operand
  let more ← many (do let operator ← anyMark operators; return (operator, ← operand))
  return more.foldl (fun left p => .binary p.1 left p.2) first

def factor : Reader Tree :=
  (do let operator ← anyMark ["+", "-", "~"]; return .unary operator (← self .factor)) <|> do
    let base ← self .awaited
    (do mark "**"; return .binary "**" base (← self .factor)) <|> give base

def awaited : Reader Tree :=
  (do mark "await"; ignored (self .primary); return .other "await expression") <|> self .primary

/-! Comprehensions -/

def starTargets : Reader Unit := do
  ignored (listed (self .starTarget))
  ignored (optional (mark ","))

def starTarget : Reader Tree :=
  (do mark "*"; notAhead (mark "*"); self .starTarget) <|> self .target

def behindTarget : Reader Unit := ahead (mark "(" <|> mark "[" <|> mark ".")

/-- Several targets in brackets, or one with a comma behind it. -/
def targetTuple : Reader Unit :=
  (do
    ignored (self .starTarget)
    ignored (several (do mark ","; self .starTarget))
    ignored (optional (mark ","))) <|>
  (do ignored (self .starTarget); mark ",")

def targetAtom : Reader Tree :=
  (do return .name (← name)) <|>
    (do mark "("; let t ← self .target; mark ")"; return t) <|>
    (do mark "("; ignored (optional (targetTuple self)); mark ")"; return .tuple [])

def target : Reader Tree :=
  (do
    ignored (self .targetPrimary)
    mark "."
    ignored name
    notAhead behindTarget
    return .member) <|> targetAtom self

def mistakenTarget : Reader Unit := do
  ignored (optional (mark "async"))
  mark "for"
  let targets ← starExpressions self
  match targets.badTarget? with
  | some t => refuse (.assigned t.word)
  | none => fail

/-- Once its targets are complete, a clause cannot be anything else. -/
def clause : Reader Unit := do
  let head ← optional do
    ignored (optional (mark "async"))
    mark "for"
    starTargets self
    mark "in"
  match head with
  | some _ =>
    ignored (self .disjunction)
    ignored (many (do mark "if"; self .disjunction))
  | none =>
    strictly (mistakenTarget self)
    unfinished

def clauses : Reader Unit := ignored (several (clause self))

def opening (marks : List String) : Reader Unit := ignored (anyMark marks)

def mistakenComprehension : Reader Unit :=
  (do
    opening ["[", "(", "\x7b"]
    ignored (starredExpression self)
    clauses self
    refuse .unpackedElement) <|>
  (do
    opening ["[", "\x7b"]
    ignored (starNamed self)
    mark ","
    ignored (starNameds self)
    clauses self
    refuse .bareTarget) <|>
  (do
    opening ["[", "\x7b"]
    ignored (starNamed self)
    mark ","
    clauses self
    refuse .bareTarget)

/-! Brackets -/

def bracketed {α : Type} (first last : String) (r : Reader α) : Reader α := do
  mark first
  let a ← r
  mark last
  return a

def tuple : Reader Tree :=
  bracketed "(" ")" do
    let items ← optional do
      let first ← starNamed self
      mark ","
      return first :: ((← optional (starNameds self)).getD [])
    return .tuple (items.getD [])

def mistakenGroup : Reader Unit :=
  (do ignored (bracketed "(" ")" (starredExpression self)); refuse .starred) <|>
  (do
    ignored (bracketed "(" ")" (do mark "**"; self .expression))
    refuse .doubleStarred)

def group : Reader Tree :=
  bracketed "(" ")" (yielding self <|> named self) <|> do
    strictly (mistakenGroup self)
    fail

def generator : Reader Tree :=
  bracketed "(" ")" (do
    ignored (assignment self <|> unnamed self)
    clauses self
    return .other "generator expression") <|> do
    strictly (mistakenComprehension self)
    fail

def pair : Reader Tree := do
  let key ← self .expression
  mark ":"
  return .pair key (← self .expression)

def entry : Reader Tree := (do mark "**"; return .unpacked (← self .bitOr)) <|> pair self

def mistakenPair : Reader Unit :=
  (do
    ignored (self .expression)
    notAhead (mark ":")
    refuse .missingColon) <|>
  (do
    ignored (self .expression)
    mark ":"
    mark "*"
    ignored (self .bitOr)
    refuse .starredValue) <|>
  (do
    ignored (self .expression)
    mark ":"
    ahead (mark "\x7d" <|> mark ",")
    refuse .missingValue)

def mistakenEntries : Reader Unit :=
  (do ignored (listed (entry self)); mark ","; mistakenPair self) <|>
  (do
    ignored (self .expression)
    mark ":"
    mark "*"
    ignored (self .bitOr)
    refuse .starredValue) <|>
  (do
    ignored (self .expression)
    mark ":"
    ahead (mark "\x7d" <|> mark ",")
    refuse .missingValue)

/-- Mistaken entries are looked for on every reading. -/
def mapping : Reader Tree :=
  bracketed "\x7b" "\x7d" (do return .mapping ((← optional (series (entry self))).getD [])) <|> do
    mark "\x7b"
    mistakenEntries self
    fail

def set : Reader Tree := bracketed "\x7b" "\x7d" do return .set (← starNameds self)

def mistakenMapping : Reader Unit := do
  bracketed "\x7b" "\x7d" do
    mark "**"
    ignored (self .bitOr)
    clauses self
  refuse .unpackedEntry

def mappingComprehension : Reader Tree :=
  bracketed "\x7b" "\x7d" (do
    ignored (pair self)
    clauses self
    return .other "dict comprehension") <|> do
    strictly (mistakenMapping self)
    fail

def setComprehension : Reader Tree :=
  bracketed "\x7b" "\x7d" (do
    ignored (named self)
    clauses self
    return .other "set comprehension") <|> do
    strictly (mistakenComprehension self)
    fail

/-! Atoms -/

def isImaginary (number : String) : Bool :=
  match number.toList.reverse with
  | c :: rest => (c = 'j' || c = 'J') && !rest.isEmpty
  | [] => false

def number : Reader Tree := do
  let t ← token fun t => t.kind = .number
  return .constant (if isImaginary t.written then .imaginary else .real)

/-- Texts in a row are one text. -/
def texts (inner : List Char → Except Mistake Unit) : Reader Tree := do
  let ts ← several (token fun t => t.kind = .text)
  match checkTexts inner none (ts.map Token.written) with
  | .error mistake => refuse mistake
  | .ok _ =>
    let parts := ts.map fun t => TextParts.ofToken t.written
    return if parts.any TextParts.isFormatted then .other "f-string expression"
      else if parts.any TextParts.isBytes then .constant .bytes
      else .constant .text

def constant (written : String) (c : Constant) : Reader Tree := do
  mark written
  return .constant c

def atom : Reader Tree :=
  (do return .name (← name)) <|>
    constant "True" .yes <|> constant "False" .no <|> constant "None" .nothing <|>
    self .texts <|> number <|>
    (do ahead (mark "("); tuple self <|> group self <|> generator self) <|>
    (do
      ahead (mark "\x7b")
      mapping self <|> set self <|> mappingComprehension self <|> setComprehension self) <|>
    constant "..." .ellipsis

/-! Calls -/

/-- Arguments that stand for places, by unpacking or not. -/
def placed : Reader Unit :=
  ignored (starredExpression self) <|> do
    ignored (assignment self <|> unnamed self)
    notAhead (mark "=")

def mistakenNamedArgument : Reader Unit :=
  (do
    let t ← token fun t => t.kind = .keyword && t.written ∈ ["True", "False", "None"]
    mark "="
    refuse (.assigned t.written)) <|>
  (do
    ignored name
    mark "="
    ignored (self .expression)
    clauses self
    refuse .oneEqualsSign) <|>
  (do
    notAhead (do ignored name; mark "=")
    ignored (self .expression)
    mark "="
    refuse .assignedArgument)

def namedArgument : Reader Unit := do
  strictly (mistakenNamedArgument self)
  ignored name
  mark "="
  ignored (self .expression)

/-- A named argument or unpacked items, which stand for a place. -/
def namedOrStarred : Reader Bool :=
  (do namedArgument self; return false) <|>
    (do ignored (starredExpression self); return true)

/-- A named argument or an unpacked mapping. -/
def namedOrUnpacked : Reader Bool :=
  (do namedArgument self; return false) <|>
    (do mark "**"; ignored (self .expression); return true)

def counted (starred unpacked : List Bool) : Nat × Bool :=
  (starred.countP id, unpacked.any id)

def namedArguments : Reader (Nat × Bool) :=
  (do
    let starred ← listed (namedOrStarred self)
    mark ","
    return counted starred (← listed (namedOrUnpacked self))) <|>
  (do return counted (← listed (namedOrStarred self)) []) <|>
  (do return counted [] (← listed (namedOrUnpacked self)))

def argumentList : Reader (Nat × Bool) :=
  (do
    let places ← listed (placed self)
    let more ← optional (do mark ","; namedArguments self)
    return (places.length + (more.map Prod.fst).getD 0, (more.map Prod.snd).getD false)) <|>
  namedArguments self

def mistakenArguments : Reader Unit :=
  (do
    ignored (argumentList self)
    mark ","
    mark "*"
    refuse .starAfterDoubleStar) <|>
  (do
    ignored (self .expression)
    clauses self
    mark ","
    ignored (optional (ignored (argumentList self) <|> do
      ignored (self .expression)
      clauses self))
    refuse .bareGenerator) <|>
  (do
    ignored name
    mark "="
    ignored (self .expression)
    clauses self
    refuse .oneEqualsSign) <|> do
    match ← optional (do let p ← argumentList self; clauses self; return p) with
    | some p => if 1 < p.1 then refuse .bareGenerator else fail
    | none =>
      (do
        ignored (argumentList self)
        mark ","
        ignored (self .expression)
        clauses self
        refuse .bareGenerator) <|> do
        let p ← argumentList self
        mark ","
        ignored (argumentList self)
        refuse (if p.2 then .positionalAfterUnpacking else .positionalAfterNamed)

def arguments : Reader Tree :=
  (do
    let p ← argumentList self
    ignored (optional (mark ","))
    ahead (mark ")")
    return .arguments p.1 p.2) <|> do
    strictly (mistakenArguments self)
    fail

/-- What may follow a function or an object. -/
def suffix (t : Tree) : Reader Tree :=
  (do mark "."; ignored name; return .member) <|>
    (do ignored (generator self); return .call t true) <|>
    (do
      let given ← bracketed "(" ")" (optional (self .arguments))
      return .call t given.isSome)

/-- Suffixes as long as there are any, but no more than a number. -/
def suffixes (allowed : Reader Unit) : Nat → Tree → Reader Tree
  | 0, t => give t
  | n + 1, t => do
    match ← optional (do let u ← suffix self t; allowed; return u) with
    | some u => suffixes allowed n u
    | none => give t

def primary : Reader Tree := fun setting =>
  (do suffixes self (give ()) setting.tokens.size (← atom self)) setting

def targetPrimary : Reader Tree := fun setting =>
  (do
    let t ← atom self
    behindTarget
    suffixes self behindTarget setting.tokens.size t) setting

def mistakenNamed : Reader Tree :=
  (do
    let target ← self .expression
    mark ":="
    ignored (self .expression)
    refuse (.namedTarget target.word)) <|>
  (do
    ignored name
    mark "="
    ignored (self .bitOr)
    notAhead (mark "=" <|> mark ":=")
    refuse .oneEqualsSign) <|>
  (do
    notAhead (ignored (tuple self) <|> ignored (generator self) <|> mark "True" <|>
      mark "None" <|> mark "False")
    let target ← self .bitOr
    mark "="
    ignored (self .bitOr)
    notAhead (mark "=" <|> mark ":=")
    refuse (.assignedHere target.word))

/-- What each rule reads, given how the rules it refers to are read. -/
def rule (inner : List Char → Except Mistake Unit) : Rule → Reader Tree
  | .expression => expression self
  | .starExpression => starExpression self
  | .disjunction => disjunction self
  | .conjunction => conjunction self
  | .inversion => inversion self
  | .bitOr => chain (self .bitXor) ["|"]
  | .bitXor => chain (self .bitAnd) ["^"]
  | .bitAnd => chain (self .shift) ["&"]
  | .shift => chain (self .sum) ["<<", ">>"]
  | .sum => chain (self .term) ["+", "-"]
  | .term => chain (self .factor) ["*", "/", "//", "%", "@"]
  | .factor => factor self
  | .awaited => awaited self
  | .primary => primary self
  | .arguments => arguments self
  | .starTarget => starTarget self
  | .target => target self
  | .targetPrimary => targetPrimary self
  | .texts => texts inner
  | .mistakenNamed => mistakenNamed self

/-- The rules to a depth. -/
def reader (inner : List Char → Except Mistake Unit) : Nat → Rule → Reader Tree
  | 0, _ => fail
  | n + 1, r => remembered r (rule (reader inner n) inner r)

/-- A literal is a row of expressions that nothing follows. -/
def whole : Reader Tree := do
  let t ← tupled (self .expression)
  ignored (many (token fun t => t.kind = .lineBreak))
  ignored (token fun t => t.kind = .finish)
  return t

/-- The mistake that counts where a reader stopped among some tokens. A mistake within a later token
comes first, and then a bracket that stays open, if it was opened on an earlier line than the reader
came to. -/
def foremost (ts : Tokens) (reached : Nat) (mistake : Mistake) : Mistake :=
  match ts.broken with
  | some broken => broken
  | none =>
    match ts.unclosed, ts.tokens[reached - 1]? with
    | some (opening, line), some last => if line < last.line then .neverClosed opening else mistake
    | _, _ => mistake

/-- The mistake where tokens are refused. One that is seen only at the end of the text stands. -/
def refusal (ts : Tokens) (reached : Nat) (mistake : Mistake) : Mistake :=
  if ts.broken.isNone && (ts.tokens[reached - 1]?).any Token.meetsEnd then mistake
  else foremost ts reached mistake

/-- The mistake where nothing is found. -/
def unexpected (ts : Tokens) (reached : Nat) (last : Option Token) : Mistake :=
  match last.map Token.kind with
  | some .indent => .unexpectedIndent
  | some .dedent => .unexpectedDedent
  | _ => foremost ts reached .invalid

/-- Read tokens, once as they are and, if that finds nothing, once strictly. No rule refers to
itself at one place, so that the depth is bounded by the rules and the places. -/
def readTokens (inner : List Char → Except Mistake Unit)
    (start : (Rule → Reader Tree) → Reader Tree) (ts : Tokens) : Except Mistake Tree :=
  let setting : Setting := ⟨ts.tokens.toArray, (ts.broken.or ts.ending).getD .invalid⟩
  let r := start (reader inner (24 * (ts.tokens.length + 2)))
  match r setting ⟨0, 0, false, ∅⟩ with
  | (.found t, _) => .ok t
  | (.refused mistake, p) => .error (refusal ts p.reached mistake)
  | (.nothing, p) =>
    match r setting ⟨0, p.reached, true, ∅⟩ with
    | (.refused mistake, q) => .error (refusal ts q.reached mistake)
    | (_, q) => .error (unexpected ts q.reached ts.tokens[p.reached - 1]?)

/-- Check an expression between braces, in which braces may once more hold expressions to a depth.
Mistakes in its tokens are told as they are. -/
def checkInner : Nat → List Char → Except Mistake Unit
  | 0, _ => .error .deepBraces
  | n + 1, cs => do
    let ts := tokens cs
    match readTokens (checkInner n) starExpressions ts with
    | .ok _ => return ()
    | .error mistake => throw (if ts.broken.isSome then mistake else .inBraces mistake)

/-- The literal that some characters write. -/
def read (cs : List Char) : Except Mistake Tree :=
  readTokens (checkInner cs.length) whole (tokens cs)

end LintRelay.Literal.Grammar
