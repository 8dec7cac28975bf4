import LintRelay.Separated
import LintRelay.ValueText

/-!
# Authorities of addresses

What may stand between the two slashes and the path of an address. A host in square brackets is an
address of version 6 or one of a later version; no character may stand for a delimiter once
compatible characters are replaced.
-/
namespace LintRelay.Authority

inductive Defect where
  | brackets
  | laterVersion
  | bracketedVersion4
  | noAddress (host : String)
  | hiddenDelimiter (authority : String)
  deriving DecidableEq, Repr

def Defect.message : Defect → String
  | brackets => "Invalid IPv6 URL"
  | laterVersion => "IPvFuture address is invalid"
  | bracketedVersion4 => "An IPv4 address cannot be in brackets"
  | noAddress host => s!"{quoted host} does not appear to be an IPv4 or IPv6 address"
  | hiddenDelimiter authority =>
    s!"netloc '{authority}' contains invalid characters under NFKC normalization"

/-- A number of up to three digits, without a needless zero in front. -/
def isOctet (cs : List Char) : Bool :=
  !cs.isEmpty && cs.length ≤ 3 && cs.all Char.isDigit &&
    (cs.length = 1 || cs.head? != some '0') &&
    cs.foldl (fun n c => 10 * n + (c.toNat - 48)) 0 ≤ 255

def isVersion4 (cs : List Char) : Bool :=
  let octets := piecesAt (· = '.') cs
  octets.length = 4 && octets.all isOctet

def isHexDigit (c : Char) : Bool :=
  c.isDigit || ('a' ≤ c && c ≤ 'f') || ('A' ≤ c && c ≤ 'F')

def isGroup (cs : List Char) : Bool := !cs.isEmpty && cs.length ≤ 4 && cs.all isHexDigit

/-- The number of groups on one side of a gap; a side without groups is one empty piece. -/
def groupCount? (side : List (List Char)) : Option Nat :=
  if side = [[]] then some 0 else if side.all isGroup then some side.length else none

def areGroups (pieces : List (List Char)) : Bool :=
  let inner := (pieces.drop 1).dropLast
  match inner.countP List.isEmpty with
  | 0 => pieces.length = 8 && pieces.all isGroup
  | 1 =>
    let gap := inner.idxOf [] + 1
    match groupCount? (pieces.take gap), groupCount? (pieces.drop (gap + 1)) with
    | some m, some n => m + n ≤ 7
    | _, _ => false
  | _ => false

/-- The last piece may be an address of version 4, which counts as two groups. -/
def isGrouped (cs : List Char) : Bool :=
  let pieces := piecesAt (· = ':') cs
  let last := (pieces.getLast?).getD []
  3 ≤ pieces.length &&
    (if '.' ∈ last then isVersion4 last && areGroups (pieces.dropLast ++ [['0'], ['0']])
     else areGroups pieces)

/-- An address of version 6 may name its zone behind a percent sign. -/
def isVersion6 (cs : List Char) : Bool :=
  let zone := cs.dropWhile (· ≠ '%')
  isGrouped (cs.takeWhile (· ≠ '%')) &&
    (zone.isEmpty || (1 < zone.length && '%' ∉ zone.tail))

def isLaterVersion : List Char → Bool
  | 'v' :: cs =>
    let version := cs.takeWhile isHexDigit
    match cs.drop version.length with
    | '.' :: rest => !version.isEmpty && !rest.isEmpty
    | _ => false
  | _ => false

def checkBracketed (host : List Char) : Except Defect Unit :=
  if host.head? = some 'v' then
    if isLaterVersion host then .ok () else .error .laterVersion
  else if isVersion4 host then .error .bracketedVersion4
  else if isVersion6 host then .ok ()
  else .error (.noAddress (String.ofList host))

/-- Where there are brackets, the host behind the last at sign stands in them, alone or with a port
behind a colon. -/
def checkBrackets (authority : List Char) : Except Defect Unit :=
  let host := (authority.reverse.takeWhile (· ≠ '@')).reverse
  if '[' ∈ authority ∧ ']' ∈ authority then
    if '[' ∈ host then
      let inner := (host.dropWhile (· ≠ '[')).tail
      let behind := (inner.dropWhile (· ≠ ']')).tail
      if host.head? = some '[' ∧ (behind.isEmpty ∨ behind.head? = some ':') then
        checkBracketed (inner.takeWhile (· ≠ ']'))
      else .error .brackets
    else checkBracketed (host.takeWhile (· ≠ ':'))
  else if '[' ∈ authority ∨ ']' ∈ authority then .error .brackets
  else .ok ()

def hidingDelimiters : List Char :=
  ['⁇', '⁈', '⁉', '℀', '℁', '℅', '℆', '⩴', '︓', '︖', '﹕', '﹖', '﹟', '﹫', '＃', '／', '：', '？', '＠']

def check (authority : List Char) : Except Defect Unit :=
  (checkBrackets authority).bind fun _ =>
    if authority.any (· ∈ hidingDelimiters) then
      .error (.hiddenDelimiter (String.ofList authority))
    else .ok ()

end LintRelay.Authority
