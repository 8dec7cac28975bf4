import LintRelay.HostTables
import LintRelay.Punycode
import LintRelay.ValueText

/-!
# Host names

A host name is a row of labels between points. A label with other than plain characters is folded
and then written with plain ones behind a mark; what is written so can be read back. Labels are
neither empty nor too long, except that the last one may be empty.
-/
namespace LintRelay.HostName

inductive Problem where
  | labelLength
  | labelTooLong
  | prohibited (n : Nat)
  /-- Letters that are written from the left stand among others that are written from the right. -/
  | mixedDirections
  /-- A label with letters that are written from the right neither begins nor ends otherwise. -/
  | directionAtEnds
  /-- A label that is not plain begins with the mark. -/
  | marked
  | code (problem : Punycode.Problem)
  /-- A label is not what writing its meaning would make of it. -/
  | otherwiseWritten (label written : List Char)
  deriving DecidableEq

namespace Problem

def hex (n : Nat) : String := String.ofList (Nat.toDigits 16 n)

def isSurrogate (n : Nat) : Bool := 0xd800 ≤ n && n ≤ 0xdfff

def shown (n : Nat) : String :=
  if isSurrogate n then s!"'\\u{hex n}'" else quoted (String.singleton (Char.ofNat n))

def codeWords : Punycode.Problem → String
  | .unfinished => "incomplete punicode string"
  | .noDigit c => s!"Invalid extended code point '{c}'"
  | .tooGreat n => s!"Invalid character U+{hex n}"

def words : Problem → String
  | labelLength => "label empty or too long"
  | labelTooLong => "label too long"
  | prohibited n => s!"Invalid character {shown n}"
  | mixedDirections => "Violation of BIDI requirement 2"
  | directionAtEnds => "Violation of BIDI requirement 3"
  | marked => "Label starts with ACE prefix"
  | code problem => s!"decoding with 'punycode' codec failed (UnicodeError: {codeWords problem})"
  | otherwiseWritten _ _ => "IDNA does not round-trip"

def message (activity : String) : Problem → String
  | otherwiseWritten label written =>
    let label := quoted (String.ofList label)
    let written := quoted (String.ofList written)
    s!"('IDNA does not round-trip', b{label}, b{written})"
  | problem => s!"{activity} with 'idna' codec failed (UnicodeError: {words problem})"

end Problem

/-- A mark moves behind the marks of lesser classes that follow it. -/
def place (n : Nat) : List Nat → List Nat
  | [] => [n]
  | m :: rest =>
    let c := HostTables.markClass m
    if c ≠ 0 ∧ c < HostTables.markClass n then m :: place n rest else n :: m :: rest

def ordered (ns : List Nat) : List Nat := ns.foldr place []

/-- Join what follows to a code point, as far as nothing stands between. The class of a mark that
was passed is known. -/
def absorb : Nat → Nat → List Nat → Nat × List Nat
  | n, _, [] => (n, [])
  | n, passed, m :: rest =>
    let c := HostTables.markClass m
    if passed ≠ 0 ∧ c = 0 then (n, m :: rest)
    else if passed ≠ 0 ∧ c ≤ passed then
      let (n, rest) := absorb n passed rest
      (n, m :: rest)
    else
      match HostTables.joined? n m with
      | some joined => absorb joined passed rest
      | none =>
        if c = 0 then (n, m :: rest)
        else
          let (n, rest) := absorb n c rest
          (n, m :: rest)

/-- Join code points from the left, each at most once. -/
def joined : Nat → List Nat → List Nat
  | 0, ns => ns
  | _, [] => []
  | steps + 1, n :: rest =>
    let (n, rest) := absorb n 0 rest
    n :: joined steps rest

/-- One folded form for all ways of writing a label. -/
def folded (ns : List Nat) : List Nat :=
  let ns := ordered ((ns.filter (!HostTables.isDropped ·)).flatMap HostTables.folded)
  joined ns.length ns

def checkDirections (ns : List Nat) : Except Problem Unit :=
  if ns.any HostTables.isRightToLeft then
    if ns.any HostTables.isLeftToRight then .error .mixedDirections
    else if ns.head?.all HostTables.isRightToLeft && ns.getLast?.all HostTables.isRightToLeft then
      .ok ()
    else .error .directionAtEnds
  else .ok ()

def prepared (ns : List Nat) : Except Problem (List Nat) :=
  let ns := folded ns
  match ns.find? HostTables.isProhibited with
  | some n => .error (.prohibited n)
  | none => (checkDirections ns).map fun _ => ns

def mark : List Char := "xn--".toList

def checkLength (label : List Char) : Except Problem (List Char) :=
  if label.isEmpty || 64 ≤ label.length then .error .labelLength else .ok label

def encodeLabel (ns : List Nat) : Except Problem (List Char) :=
  if ns.all Punycode.isPlain then checkLength (ns.map Char.ofNat)
  else do
    let ns ← prepared ns
    if ns.all Punycode.isPlain then checkLength (ns.map Char.ofNat)
    else if (mark.map Char.toNat).isPrefixOf ns then .error .marked
    else checkLength (mark ++ Punycode.encode ns)

def decodeLabel (label : List Char) : Except Problem (List Char) :=
  if mark.isPrefixOf label then
    match Punycode.decode (label.drop mark.length) with
    | .error problem => .error (.code problem)
    | .ok ns => do
      let written ← encodeLabel ns
      if label.map Char.toLower = written then .ok (ns.map Char.ofNat)
      else .error (.otherwiseWritten label written)
  else .ok label

def joinedLabels : List (List Char) → List Char
  | [] => []
  | [label] => label
  | label :: rest => label ++ '.' :: joinedLabels rest

/-- Labels without a last one that is empty, and the point that it leaves. -/
def splitEnd (labels : List (List Char)) : List (List Char) × List Char :=
  if labels.getLast? = some [] then (labels.dropLast, ['.']) else (labels, [])

def isPoint (c : Char) : Bool := c = '.' || c = '。' || c = '．' || c = '｡'

/-- Only the last label of a plain name may be empty. -/
def checkPlain : List (List Char) → Except Problem Unit
  | [] => .ok ()
  | [label] => if 64 ≤ label.length then .error .labelTooLong else .ok ()
  | label :: rest => do
    let _ ← checkLength label
    checkPlain rest

def encode (host : List Char) : Except Problem (List Char) :=
  if host.all (·.toNat < 128) then (checkPlain (piecesAt (· = '.') host)).map fun _ => host
  else do
    let (labels, point) := splitEnd (piecesAt isPoint host)
    return joinedLabels (← labels.mapM fun label => encodeLabel (label.map Char.toNat)) ++ point

def holdsMark : List Char → Bool
  | [] => false
  | c :: rest => mark.isPrefixOf (c :: rest) || holdsMark rest

def decode (host : List Char) : Except Problem (List Char) :=
  if holdsMark host then do
    let (labels, point) := splitEnd (piecesAt (· = '.') host)
    return joinedLabels (← labels.mapM decodeLabel) ++ point
  else .ok host

end LintRelay.HostName
