import LintRelay.EmojiNames
import LintRelay.Handler
import LintRelay.StyleName

/-!
# Markup

Printed text may carry style tags in square brackets. A tag begins with a small letter or one of
three marks; with a slash in front it closes the innermost open tag of its name, or, without a name,
the innermost open tag. A tag that names a handler may give it parameters, which are read when the
tag is closed. Backslashes before a tag are halved, and an odd one makes it plain text.
In the text between tags emoji may be written by their names. Text that must not be read as markup
is escaped first.
-/
namespace LintRelay.Markup

/-- A piece of markup: the text between tags, text that comes from escapes, or a tag, which is known
with the place where it begins. -/
inductive Piece where
  | plain (cs : List Char)
  | escaped (cs : List Char)
  | tag (position : Nat) (content : List Char)
  deriving DecidableEq

def beginsTag (c : Char) : Bool :=
  ('a' ≤ c && c ≤ 'z') || c = '#' || c = '/' || c = '@'

def tagContent? : List Char → Option (List Char)
  | '[' :: c :: rest =>
    let content := rest.takeWhile fun c => c ≠ '[' ∧ c ≠ ']'
    if beginsTag c ∧ rest[content.length]? = some ']' then some (c :: content) else none
  | _ => none

def backslashes (n : Nat) : List Char := List.replicate n '\\'

def escapedTag (position slashes : Nat) (content : List Char) : List Piece :=
  let kept := slashes / 2
  let before := if kept = 0 then [] else [.escaped (backslashes kept)]
  if slashes % 2 = 1 then before ++ [.escaped ('[' :: content ++ [']'])]
  else before ++ [.tag (position + slashes) content]

def addPlain (c : Char) : List Piece → List Piece
  | .plain cs :: rest => .plain (c :: cs) :: rest
  | pieces => .plain [c] :: pieces

/-- The pieces of a text from a place on. The first argument counts characters already used. A
backslash before a bracket that begins no tag is dropped. -/
def pieces : Nat → Nat → List Char → List Piece
  | _, _, [] => []
  | skip + 1, position, _ :: rest => pieces skip (position + 1) rest
  | 0, position, c :: rest =>
    let slashes := ((c :: rest).takeWhile (· = '\\')).length
    match tagContent? ((c :: rest).drop slashes) with
    | some content =>
      escapedTag position slashes content ++
        pieces (slashes + content.length + 1) (position + 1) rest
    | none =>
      if c = '\\' ∧ rest.head? = some '[' then pieces 0 (position + 1) rest
      else addPlain c (pieces 0 (position + 1) rest)

def nameOf (content : List Char) : List Char := content.takeWhile (· ≠ '=')

/-- Characters that move the cursor are not shown. -/
def isShown (c : Char) : Bool := c.toNat ∉ [7, 8, 11, 12, 13]

structure OpenTag where
  name : String
  parameters : List Char

/-- The parameters of a handler must be readable when its tag is closed. -/
def OpenTag.checkClosing (t : OpenTag) : Except Fault Unit :=
  if t.name.toList.head? = some '@' then Handler.check t.parameters else .ok ()

def closeNamed? (name : String) : List OpenTag → Option (OpenTag × List OpenTag)
  | [] => none
  | t :: rest =>
    if t.name = name then some (t, rest) else (closeNamed? name rest).map fun p => (p.1, t :: p.2)

def afterTag (position : Nat) (content : List Char) (opened : List OpenTag) :
    Except Fault (List OpenTag) := do
  match nameOf content with
  | '/' :: name =>
    let (closed, rest) ←
      if CharacterTables.trim name = [] then
        match opened with
        | [] => .error (.closesNothing position)
        | t :: rest => .ok (t, rest)
      else
        match closeNamed? (← StyleName.normal (CharacterTables.trim name)) opened with
        | none => .error (.closesUnopened (String.ofList content) position)
        | some p => .ok p
    closed.checkClosing
    return rest
  | name => return ⟨← StyleName.normal name, content.drop (name.length + 1)⟩ :: opened

def textOf : List Piece → List OpenTag → Except Fault (List Char)
  | [], _ => .ok []
  | .plain cs :: rest, opened | .escaped cs :: rest, opened =>
    (textOf rest opened).map (EmojiNames.replaced 0 cs ++ ·)
  | .tag position content :: rest, opened =>
    (afterTag position content opened).bind (textOf rest)

def shown (markup : String) : Except Fault String :=
  (textOf (pieces 0 0 markup.toList) []).map fun cs => String.ofList (cs.filter isShown)

def escapeTags : Nat → List Char → List Char
  | _, [] => []
  | skip + 1, c :: rest => c :: escapeTags skip rest
  | 0, c :: rest =>
    let slashes := ((c :: rest).takeWhile (· = '\\')).length
    match tagContent? ((c :: rest).drop slashes) with
    | some content =>
      backslashes (slashes + 1) ++ c :: escapeTags (slashes + content.length + 1) rest
    | none => c :: escapeTags 0 rest

/-- A single backslash at the end is doubled, so that it does not escape what follows. -/
def escape (text : String) : String :=
  let cs := escapeTags 0 text.toList
  match cs.reverse with
  | '\\' :: '\\' :: _ => String.ofList cs
  | '\\' :: _ => String.ofList (cs ++ ['\\'])
  | _ => String.ofList cs

def styled (style markup : String) : String := s!"[{style}]{markup}[/{style}]"

end LintRelay.Markup
