import LintRelay.LiteralMistake
import LintRelay.WordTables

/-!
# Tokens of literals

The names, numbers, texts and operators of a literal. Line breaks within brackets and behind a
backslash are no tokens, and neither are comments and lines without anything else. A change of the
margin is a token. Some mistakes are only met by a reader that comes to the place where they stand.
-/
namespace LintRelay.Literal

inductive TokenKind where
  | name
  | keyword
  | number
  | text
  | operator
  | lineBreak
  | indent
  | dedent
  | finish
  deriving DecidableEq, Repr

/-- A token as it is written, with its line, the number of brackets that are open behind it, and
whether the end of the text was met in looking for the token's own end. -/
structure Token where
  kind : TokenKind
  written : String
  line : Nat
  depth : Nat
  meetsEnd : Bool

/-- Tokens up to a mistake within a token, if there is one. Where there is an ending, a reader that
goes beyond the last token makes that mistake. The innermost bracket that stays open is known with
its line. -/
structure Tokens where
  tokens : List Token
  broken : Option Mistake
  ending : Option Mistake
  unclosed : Option (Char × Nat)

/-- The text that is still to come, with its line; the open brackets, the innermost first; the
margins of the blocks it stands in, each for two widths of tabs; the margin tokens still to come,
where ends of blocks count down; and whether a line begins. -/
structure Scanner where
  rest : List Char
  line : Nat
  brackets : List (Char × Nat)
  margins : List (Nat × Nat)
  pending : Int
  fresh : Bool

inductive Step where
  | token (t : Token) (s : Scanner)
  | again (s : Scanner)
  | ended (mistake : Option Mistake) (s : Scanner)

def keywords : List String :=
  ["False", "None", "True", "and", "as", "assert", "async", "await", "break", "class", "continue",
   "def", "del", "elif", "else", "except", "finally", "for", "from", "global", "if", "import",
   "in", "is", "lambda", "nonlocal", "not", "or", "pass", "raise", "return", "try", "while", "with",
   "yield"]

def continuesWord (c : Char) : Bool := c.isAlphanum || c = '_' || 128 ≤ c.toNat

/-! Numbers. Each function gives what follows. -/

def digitGroups (kind : NumberKind) (isDigit : Char → Bool) :
    List Char → Except Mistake (List Char)
  | [] => .ok []
  | c :: rest =>
    if isDigit c then digitGroups kind isDigit rest
    else if c = '_' then
      match rest with
      | d :: rest =>
        if isDigit d then digitGroups kind isDigit rest
        else if d.isDigit && kind != .hexadecimal then .error (.digit d kind)
        else .error (.number kind)
      | [] => .error (.number kind)
    else .ok (c :: rest)

def decimalDigits : List Char → Except Mistake (List Char) := digitGroups .decimal Char.isDigit

def isBehindNumber (cs : List Char) : Bool :=
  ["and", "else", "for", "or", "not"].any (fun word =>
      word.toList.isPrefixOf cs && !(cs.drop word.length).head?.any continuesWord) ||
    ["if", "in", "is"].any fun word => word.toList.isPrefixOf cs

/-- A number runs into no name; letters outside ASCII begin a name of their own. -/
def numberEnd (kind : NumberKind) (cs : List Char) : Except Mistake (List Char) :=
  if cs.head?.any (fun c => c.isAlphanum || c = '_') && !isBehindNumber cs then
    .error (.number kind)
  else .ok cs

def imaginaryEnd (cs : List Char) : Except Mistake (List Char) :=
  match cs with
  | c :: rest => if c = 'j' || c = 'J' then numberEnd .imaginary rest else numberEnd .decimal cs
  | [] => .ok []

/-- An `e` without digits behind it is not part of the number. -/
def exponentEnd (cs : List Char) : Except Mistake (List Char) :=
  match cs with
  | e :: rest =>
    if e = 'e' || e = 'E' then
      match rest with
      | c :: digits =>
        if c = '+' || c = '-' then
          if digits.head?.any Char.isDigit then (decimalDigits digits).bind imaginaryEnd
          else .error (.number .decimal)
        else if c.isDigit then (decimalDigits rest).bind imaginaryEnd
        else numberEnd .decimal cs
      | [] => numberEnd .decimal cs
    else imaginaryEnd cs
  | [] => .ok []

def fraction (cs : List Char) : Except Mistake (List Char) :=
  if cs.head?.any Char.isDigit then (decimalDigits cs).bind exponentEnd else exponentEnd cs

def fractionEnd (cs : List Char) : Except Mistake (List Char) :=
  match cs with
  | '.' :: rest => fraction rest
  | _ => exponentEnd cs

def basedNumber (kind : NumberKind) (isDigit : Char → Bool) (cs : List Char) :
    Except Mistake (List Char) := do
  let rest ← digitGroups kind isDigit ('_' :: if cs.head? = some '_' then cs.tail else cs)
  if rest.head?.any Char.isDigit then .error (.digit (rest.head?.getD '0') kind)
  else numberEnd kind rest

def behindZeros : List Char → Except Mistake (List Char)
  | '0' :: rest => behindZeros rest
  | '_' :: d :: rest => if d.isDigit then behindZeros (d :: rest) else .error (.number .decimal)
  | '_' :: [] => .error (.number .decimal)
  | rest => .ok rest

/-- A zero may be followed by zeros; other digits need a point, an exponent or an imaginary unit
behind them. -/
def zeroNumber (cs : List Char) : Except Mistake (List Char) := do
  let behind ← behindZeros cs
  if behind.head?.any Char.isDigit then
    let rest ← decimalDigits behind
    if rest.head?.any fun c => c = '.' || c = 'e' || c = 'E' || c = 'j' || c = 'J' then
      fractionEnd rest
    else .error .leadingZeros
  else fractionEnd behind

def isOctalDigit (c : Char) : Bool := '0' ≤ c && c ≤ '7'

def isBinaryDigit (c : Char) : Bool := c = '0' || c = '1'

def isHexDigit (c : Char) : Bool :=
  c.isDigit || ('a' ≤ c && c ≤ 'f') || ('A' ≤ c && c ≤ 'F')

def numberRest (c : Char) (rest : List Char) : Except Mistake (List Char) :=
  if c = '0' then
    match rest with
    | b :: digits =>
      if b = 'x' || b = 'X' then basedNumber .hexadecimal isHexDigit digits
      else if b = 'o' || b = 'O' then basedNumber .octal isOctalDigit digits
      else if b = 'b' || b = 'B' then basedNumber .binary isBinaryDigit digits
      else zeroNumber rest
    | [] => .ok []
  else (decimalDigits rest).bind fractionEnd

/-! Texts -/

/-- The letters that may stand before a text, in any case and order of letters. -/
def textMarks : List String := ["b", "u", "r", "f", "br", "rb", "fr", "rf"]

def lineBreaks (cs : List Char) : Nat := cs.count '\n'

/-- What a text holds up to the quotes that end it, and what follows them. A character behind a
backslash ends nothing; a short text ends on its line. -/
def untilQuotes (quotes : List Char) : List Char → Option (List Char × List Char)
  | [] => none
  | c :: rest =>
    if quotes.isPrefixOf (c :: rest) then some ([], (c :: rest).drop quotes.length)
    else if c = '\\' then
      match rest with
      | d :: rest => (untilQuotes quotes rest).map fun p => (c :: d :: p.1, p.2)
      | [] => none
    else if c = '\n' ∧ quotes.length = 1 then none
    else (untilQuotes quotes rest).map fun p => (c :: p.1, p.2)

def lostLine (line : Nat) : List Char → Nat
  | '\\' :: '\n' :: rest => lostLine (if rest.isEmpty then line else line + 1) rest
  | '\\' :: _ :: rest => lostLine line rest
  | '\n' :: _ => line
  | _ :: rest => lostLine line rest
  | [] => line

def textRest (line : Nat) (quote : Char) (rest : List Char) :
    Except Mistake (List Char × List Char) :=
  match rest with
  | a :: b :: inner =>
    if a = quote ∧ b = quote then
      match untilQuotes [quote, quote, quote] inner with
      | some (content, rest) => .ok (quote :: a :: b :: content ++ [quote, quote, quote], rest)
      | none => .error (.unterminatedLongText (line + lineBreaks inner))
    else if a = quote then .ok ([quote, a], b :: inner)
    else short
  | _ => short
where
  short : Except Mistake (List Char × List Char) :=
    match untilQuotes [quote] rest with
    | some (content, rest) => .ok (quote :: content ++ [quote], rest)
    | none => .error (.unterminatedText (lostLine line rest))

/-! Operators -/

def longOperators : List String := ["**=", "//=", ">>=", "<<=", "..."]

def twoCharOperators : List String :=
  ["!=", "%=", "&=", "**", "*=", "+=", "-=", "->", "//", "/=", ":=", "<<", "<=", "<>", "==", ">=",
   ">>", "@=", "^=", "|="]

def operatorLength (cs : List Char) : Nat :=
  if longOperators.any (·.toList.isPrefixOf cs) then 3
  else if twoCharOperators.any (·.toList.isPrefixOf cs) then 2
  else 1

def closes : Char → Char → Bool
  | '(', ')' | '[', ']' | '{', '}' => true
  | _, _ => false

def bracketsAfter (line : Nat) (c : Char) (brackets : List (Char × Nat)) :
    Except Mistake (List (Char × Nat)) :=
  if c = '(' ∨ c = '[' ∨ c = '{' then
    if 200 ≤ brackets.length then .error .tooManyBrackets else .ok ((c, line) :: brackets)
  else if c = ')' ∨ c = ']' ∨ c = '}' then
    match brackets with
    | [] => .error (.unmatched c)
    | (opening, openedAt) :: rest =>
      if closes opening c then .ok rest
      else .error (.mismatched c opening (if openedAt = line then none else some openedAt))
  else if CharacterTables.isPrintable c then .ok brackets
  else .error (.character c)

namespace Scanner

def cutOff (s : Scanner) : Step :=
  .ended (some ((s.brackets.head?.map fun b => .neverClosed b.1).getD .unexpectedEnd)) s

def continued (s : Scanner) (rest : List Char) : Step :=
  match rest with
  | '\n' :: [] => cutOff { s with rest := [] }
  | '\n' :: rest => .again { s with rest := rest, line := s.line + 1 }
  | _ => .ended (some .afterContinuation) s

/-- The margin of a line for two widths of tabs, and the rest of the line. A form feed begins the
margin anew; behind a backslash it goes on, but the first one settles it. -/
def margin : List Char → Nat × Nat → Nat → Nat → (Nat × Nat) × Nat × List Char
  | [], column, settled, lines => (if settled = 0 then column else (settled, settled), lines, [])
  | c :: rest, (wide, narrow), settled, lines =>
    if c = ' ' then margin rest (wide + 1, narrow + 1) settled lines
    else if c = '\t' then margin rest ((wide / 8 + 1) * 8, narrow + 1) settled lines
    else if c = '\x0c' then margin rest (0, 0) settled lines
    else if c = '\\' then
      match rest with
      | '\n' :: d :: rest =>
        margin (d :: rest) (wide, narrow) (if settled = 0 then wide else settled) (lines + 1)
      | rest => (if settled = 0 then (wide, narrow) else (settled, settled), lines, c :: rest)
    else (if settled = 0 then (wide, narrow) else (settled, settled), lines, c :: rest)

/-- The blocks that a margin leaves open, and how many it opens or closes. -/
def adjusted (margins : List (Nat × Nat)) (column : Nat × Nat) :
    Option (List (Nat × Nat) × Int) :=
  match margins with
  | [] => some ([], 0)
  | m :: outer =>
    if column.1 = m.1 then if column.2 = m.2 then some (margins, 0) else none
    else if m.1 < column.1 then
      if column.2 ≤ m.2 then none else some (column :: margins, 1)
    else (adjusted outer column).bind fun p => if 0 < p.2 then none else some (p.1, p.2 - 1)

/-- Begin a line. Lines without anything but blanks and a comment do not count. -/
def beginLine (s : Scanner) : Step :=
  let (column, lines, rest) := margin s.rest (0, 0) 0 0
  let s := { s with rest := rest, line := s.line + lines, fresh := false }
  match rest with
  | '\n' :: rest => .again { s with rest := rest, line := s.line + 1, fresh := true }
  | '#' :: rest =>
    match rest.dropWhile (· ≠ '\n') with
    | _ :: rest => .again { s with rest := rest, line := s.line + 1, fresh := true }
    | [] => .again { s with rest := [] }
  | '\\' :: rest => continued s rest
  | _ =>
    if s.brackets.isEmpty then
      match adjusted s.margins column with
      | some (margins, pending) => .again { s with margins := margins, pending := pending }
      | none => .ended none s
    else .again s

/-- A token that one looks behind to see that it ends; only the longest operators need no look. -/
def make (s : Scanner) (kind : TokenKind) (written rest : List Char) : Step :=
  .token ⟨kind, String.ofList written, s.line, s.brackets.length,
      rest.isEmpty && (kind != .operator || written.length != 3)⟩
    { s with rest := rest }

/-- A quoted text. One looks behind two quotes to see that there is no third. -/
def scanText (s : Scanner) (marks : List Char) (quote : Char) (rest : List Char) :
    Except Mistake Step := do
  let (written, rest) ← textRest s.line quote rest
  return .token ⟨.text, String.ofList (marks ++ written), s.line, s.brackets.length,
      rest.isEmpty && written.length == 2⟩
    { s with rest := rest, line := s.line + lineBreaks written }

def scanWord (s : Scanner) (cs : List Char) : Except Mistake Step :=
  let word := cs.takeWhile continuesWord
  let rest := cs.drop word.length
  let letters := String.ofList (word.map Char.toLower)
  match rest with
  | c :: behind =>
    if (c = '"' ∨ c = '\'') ∧ letters ∈ textMarks then scanText s word c behind else plain word rest
  | [] => plain word rest
where
  plain (word rest : List Char) : Except Mistake Step :=
    let wrong := word.find? (!WordTables.continuesName ·)
    match (word.head?.filter (!WordTables.beginsName ·)).or wrong with
    | some c => .error (.character c)
    | none =>
      let written := String.ofList word
      .ok (s.make (if written ∈ keywords then .keyword else .name) word rest)

def scanNumber (s : Scanner) (cs rest : List Char) : Except Mistake Step :=
  .ok (s.make .number (cs.take (cs.length - rest.length)) rest)

def scan (s : Scanner) : Except Mistake Step :=
  match s.rest.dropWhile fun c => c = ' ' || c = '\t' || c = '\x0c' with
  | [] =>
    .ok (if s.brackets.isEmpty then s.make .finish [] [] else cutOff s)
  | '#' :: rest => .ok (.again { s with rest := rest.dropWhile (· ≠ '\n') })
  | '\n' :: rest =>
    let next := { s with rest := rest, line := s.line + 1, fresh := true }
    if s.brackets.isEmpty then
      .ok (.token ⟨.lineBreak, "", s.line, 0, false⟩ next)
    else .ok (.again next)
  | '\\' :: rest => .ok (continued s rest)
  | c :: rest =>
    if c.isDigit then (numberRest c rest).bind (s.scanNumber (c :: rest))
    else if c = '.' ∧ rest.head?.any Char.isDigit then
      (fraction rest).bind (s.scanNumber (c :: rest))
    else if continuesWord c then s.scanWord (c :: rest)
    else if c = '"' ∨ c = '\'' then s.scanText [] c rest
    else
      let n := operatorLength (c :: rest)
      let written := (c :: rest).take n
      (if n = 1 then bracketsAfter s.line c s.brackets else .ok s.brackets).map fun brackets =>
        { s with brackets := brackets }.make .operator written ((c :: rest).drop n)

def step (s : Scanner) : Except Mistake Step :=
  if s.fresh then .ok s.beginLine
  else if 0 < s.pending then
    .ok (.token ⟨.indent, "", s.line, 0, false⟩ { s with pending := s.pending - 1 })
  else if s.pending < 0 then
    .ok (.token ⟨.dedent, "", s.line, 0, false⟩ { s with pending := s.pending + 1 })
  else s.scan

def run : Nat → Scanner → Tokens
  | 0, s => ⟨[], none, none, s.brackets.head?⟩
  | n + 1, s =>
    match s.step with
    | .error mistake => ⟨[], some mistake, none, none⟩
    | .ok (.again s) => run n s
    | .ok (.ended mistake s) => ⟨[], none, mistake, s.brackets.head?⟩
    | .ok (.token t s) =>
      if t.kind = .finish then ⟨[t], none, none, none⟩
      else
        let later := run n s
        { later with tokens := t :: later.tokens }

end Scanner

def withLineFeeds : List Char → List Char
  | '\r' :: '\n' :: rest => '\n' :: withLineFeeds rest
  | '\r' :: rest => '\n' :: withLineFeeds rest
  | c :: rest => c :: withLineFeeds rest
  | [] => []

/-- A character makes at most four steps: it may end a line, begin one, and open or close blocks. -/
def tokens (cs : List Char) : Tokens :=
  let cs := withLineFeeds cs
  Scanner.run (4 * cs.length + 8) ⟨cs, 1, [], [(0, 0)], 0, true⟩

end LintRelay.Literal
