import LintRelay.JsonToken
import LintRelay.LiteralToken

/-!
# Texts in literals

What may stand between the quotes of a text. Escapes that give a character by its code need all
their digits. A text marked with `f` holds expressions between braces, perhaps with a conversion
and a format, which may hold expressions once more; a doubled brace stands for itself.
-/
namespace LintRelay.Literal

/-- The letters before a text, in lower case, and what stands between its quotes. -/
structure TextParts where
  marks : List Char
  content : List Char

namespace TextParts

def isQuote (c : Char) : Bool := c = '"' || c = '\''

def ofToken (written : String) : TextParts :=
  let cs := written.toList
  let marks := cs.takeWhile (!isQuote ·)
  let rest := cs.drop marks.length
  let n := if 6 ≤ rest.length ∧ rest[1]? = rest[0]? ∧ rest[2]? = rest[0]? then 3 else 1
  ⟨marks.map Char.toLower, ((rest.drop n).reverse.drop n).reverse⟩

def isBytes (t : TextParts) : Bool := 'b' ∈ t.marks

def isRaw (t : TextParts) : Bool := 'r' ∈ t.marks

def isFormatted (t : TextParts) : Bool := 'f' ∈ t.marks

end TextParts

def codeEscape? : Char → Option (Escape × Nat)
  | 'x' => some (.short, 2)
  | 'u' => some (.middle, 4)
  | 'U' => some (.long, 8)
  | _ => none

/-- The places that some characters take when those beyond ASCII are written as long escapes, and so
is a backslash before one of them. -/
def width : List Char → Nat
  | [] => 0
  | '\\' :: c :: rest => (if c.toNat < 128 then 2 else 16) + width rest
  | c :: rest => (if c.toNat < 128 then 1 else 10) + width rest

/-- Names of characters are not looked up; what is written in capitals passes for one. -/
def isCharacterName (cs : List Char) : Bool :=
  cs.all fun c => c.isUpper || c.isDigit || c = ' ' || c = '-'

def checkCode (position : Nat) (escape : Escape) (size : Nat) (cs : List Char) :
    Except Mistake Unit :=
  let digits := (cs.take size).takeWhile isHexDigit
  if digits.length < size then .error (.textEscape escape position (position + 1 + digits.length))
  else if 0x10ffff < digits.foldl (fun n c => 16 * n + (Json.hexValue? c).getD 0) 0 then
    .error (.textEscape .beyond position (position + 1 + size))
  else .ok ()

def checkName (position : Nat) : List Char → Except Mistake Unit
  | '{' :: rest =>
    let name := rest.takeWhile (· ≠ '}')
    let last := position + 2 + width name
    if rest.length = name.length ∨ name = [] then .error (.textEscape .malformedName position last)
    else if isCharacterName name then .ok ()
    else .error (.textEscape .unknownName position (last + 1))
  | _ => .error (.textEscape .malformedName position (position + 1))

def checkEscapes : Nat → List Char → Except Mistake Unit
  | _, [] => .ok ()
  | position, '\\' :: c :: rest =>
    if 128 ≤ c.toNat then checkEscapes (position + 16) rest
    else do
      match codeEscape? c with
      | some (escape, size) => checkCode position escape size rest
      | none => if c = 'N' then checkName position rest else .ok ()
      checkEscapes (position + 2) rest
  | position, c :: rest => checkEscapes (position + if c.toNat < 128 then 1 else 10) rest

def checkByteEscapes : Nat → List Char → Except Mistake Unit
  | _, [] => .ok ()
  | position, '\\' :: c :: rest =>
    if c = 'x' && ((rest.take 2).takeWhile isHexDigit).length < 2 then
      .error (.bytesEscape position)
    else checkByteEscapes (position + 2) rest
  | position, _ :: rest => checkByteEscapes (position + 1) rest

/-! Expressions between braces -/

/-- What stands before the next single brace, the rest that begins with it, and whether a doubled
brace was met instead, behind which the rest begins. Only on the outer level braces are doubled.
The first argument counts characters that are taken as they are. -/
def untilBrace (outer raw : Bool) : Nat → List Char → Except Mistake (List Char × Bool × List Char)
  | _, [] => .ok ([], false, [])
  | taken + 1, c :: rest => (untilBrace outer raw taken rest).map fun p => (c :: p.1, p.2)
  | 0, c :: rest =>
    if c = '{' ∨ c = '}' then
      if outer && rest.head? = some c then .ok ([c], true, rest.tail)
      else if outer && c = '}' then .error .invalidBrace
      else .ok ([], false, c :: rest)
    else
      let taken :=
        if c = '\\' && !raw then
          match rest with
          | 'N' :: '{' :: name => 3 + (name.takeWhile (· ≠ '}')).length
          | 'N' :: _ :: _ => 2
          | d :: _ => if d = '{' ∨ d = '}' then 0 else 1
          | [] => 0
        else 0
      (untilBrace outer raw taken rest).map fun p => (c :: p.1, p.2)

abbrev Quote := Char × Bool

/-- An expression up to what ends it between braces, and the rest. The open quote and the open
brackets are known, and how many characters are taken as they are. -/
def expressionUntil : Nat → Option Quote → List Char → List Char →
    Except Mistake (List Char × List Char)
  | _, some _, _, [] => .error .braceText
  | _, none, opening :: _, [] => .error (.braceUnmatched opening)
  | _, none, [], [] => .ok ([], [])
  | taken + 1, quote, brackets, c :: rest =>
    (expressionUntil taken quote brackets rest).map fun p => (c :: p.1, p.2)
  | 0, quote, brackets, c :: rest =>
    let go (taken : Nat) (quote : Option Quote) (brackets : List Char) :=
      (expressionUntil taken quote brackets rest).map fun p => (c :: p.1, p.2)
    let tripled := [c, c].isPrefixOf rest
    if c = '\\' then .error .braceBackslash
    else
      match quote with
      | some (q, isTripled) =>
        if c = q && (!isTripled || tripled) then go (if isTripled then 2 else 0) none brackets
        else go 0 quote brackets
      | none =>
        if TextParts.isQuote c then go (if tripled then 2 else 0) (some (c, tripled)) brackets
        else if c = '(' ∨ c = '[' ∨ c = '{' then go 0 none (c :: brackets)
        else if c = '#' then .error .braceComment
        else if brackets = [] ∧ c ∈ ['!', '=', '<', '>'] ∧ rest.head? = some '=' then go 1 none []
        else if brackets = [] ∧ c ∈ ['!', ':', '}', '='] then .ok ([], c :: rest)
        else if c = ')' ∨ c = ']' ∨ c = '}' then
          match brackets with
          | [] => .error (.braceUnmatched c)
          | opening :: outer =>
            if closes opening c then go 0 none outer else .error (.braceMismatched c opening)
        else go 0 none brackets

def isPlainBlank (c : Char) : Bool := c = ' ' || c = '\t' || c = '\n' || c = '\x0c'

def checkExpression (inner : List Char → Except Mistake Unit) (cs rest : List Char) :
    Except Mistake Unit :=
  match rest with
  | [] => .error .openBrace
  | c :: _ =>
    if cs.all isPlainBlank then
      .error (if c = '}' then .braceEmpty else .braceNothingBefore c)
    else inner ('(' :: cs ++ [')'])

/-- Behind an expression an equals sign may ask for its text, and a letter for a conversion. -/
def behindConversion (rest : List Char) : Except Mistake (List Char) :=
  let rest := if rest.head? = some '=' then rest.tail else rest
  match rest with
  | '!' :: c :: rest => if c ∈ ['s', 'r', 'a'] then .ok rest else .error .braceConversion
  | '!' :: [] => .error .openBrace
  | rest => .ok rest

/-- Check a text with expressions, given how expressions are checked; the result is what it leaves.
Within a format it ends before a closing brace. Each step takes at least one character. -/
def checkFormatted (inner : List Char → Except Mistake Unit) (raw : Bool) :
    Nat → Nat → List Char → Except Mistake (List Char)
  | 0, _, rest => .ok rest
  | steps + 1, level, cs => do
    let (literal, doubled, rest) ← untilBrace (level = 0) raw 0 cs
    if raw then .ok () else checkEscapes 0 literal
    if doubled then checkFormatted inner raw steps level rest
    else
      match rest with
      | '{' :: rest =>
        if 2 ≤ level then .error .deepBraces
        else
          let (expression, rest) ← expressionUntil 0 none [] rest
          checkExpression inner expression rest
          let rest ← behindConversion rest
          let rest ←
            match rest with
            | ':' :: [] => .error .openBrace
            | ':' :: format => checkFormatted inner raw steps (level + 1) format
            | rest => .ok rest
          match rest with
          | '}' :: rest => checkFormatted inner raw steps level rest
          | _ => .error .openBrace
      | rest => if level ≠ 0 ∧ rest = [] then .error .openBrace else .ok rest

def checkText (inner : List Char → Except Mistake Unit) (before : Option Bool) (written : String) :
    Except Mistake Bool := do
  let t := TextParts.ofToken written
  if t.isBytes ∧ t.content.any (128 ≤ ·.toNat) then .error .bytesNotAscii
  else if t.isRaw ∨ t.isFormatted then .ok ()
  else if t.isBytes then checkByteEscapes 0 t.content
  else checkEscapes 0 t.content
  if before.any (· ≠ t.isBytes) then .error .mixedTexts
  else if t.isFormatted then
    let _ ← checkFormatted inner t.isRaw (t.content.length + 1) 0 t.content
  return t.isBytes

def checkTexts (inner : List Char → Except Mistake Unit) :
    Option Bool → List String → Except Mistake Unit
  | _, [] => .ok ()
  | before, t :: rest => do checkTexts inner (some (← checkText inner before t)) rest

end LintRelay.Literal
