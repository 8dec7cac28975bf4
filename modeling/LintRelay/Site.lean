import LintRelay.HostName
import LintRelay.LetterCase
import LintRelay.Uri

/-!
# Sites

Where a request is sent: the authority of its address, by user, host and port. An authority is
brought into a plain form, in which the host is encoded and the user's name escaped, and into a
readable form, in which both are decoded as far as nothing is mistaken for a delimiter.
-/
namespace LintRelay

structure Site where
  user : List Char
  secret : List Char
  host : List Char
  port : List Char

namespace Site

def cut (separator : Char) (cs : List Char) : List Char × List Char :=
  let before := cs.takeWhile (· ≠ separator)
  (before, cs.drop (before.length + 1))

/-- A host in brackets may hold colons; a zone behind a percent sign keeps its case. -/
def ofAuthority (authority : List Char) : Site :=
  let behind := (authority.reverse.takeWhile (· ≠ '@')).reverse
  let (user, secret) := cut ':' (authority.take (authority.length - behind.length - 1))
  let bracketed := (cut '[' behind).2
  let (host, port) :=
    if '[' ∈ behind then ((cut ']' bracketed).1, (cut ':' (cut ']' bracketed).2).2)
    else cut ':' behind
  let named := host.takeWhile (· ≠ '%')
  ⟨user, secret, (LetterCase.lower (String.ofList named)).toList ++ host.drop named.length, port⟩

/-- A port is a number in plain digits that fits in sixteen bits. -/
def portNumber (port : List Char) : Except Fault Nat :=
  if !port.all Char.isDigit then .error (.portText (String.ofList port))
  else if Fault.mostDigits < port.length then .error (.tooManyDigits port.length)
  else
    let n := port.foldl (fun n c => 10 * n + (c.toNat - 48)) 0
    if n ≤ 65535 then .ok n else .error .portRange

def escaped (kept : List Char) (bytes : List UInt8) : List Char :=
  bytes.flatMap fun b =>
    let c := Char.ofNat b.toNat
    if b < 128 && (c.isAlphanum || c ∈ ['_', '.', '-', '~'] || c ∈ kept) then [c]
    else '%' :: (QuotedText.hexDigits 2 b.toNat).map Char.toUpper

def userMarks : List Char := ['%', '!', '$', '&', '\'', '(', ')', '*', '+', ',', ';', '=']

/-- Escapes of controls, blanks, percent signs and delimiters stay. -/
def staysEscaped (n : Nat) : Bool :=
  n ≤ 0x20 || n = 0x7f || n = 0x25 || n = 0x3a || n = 0x40 || n = 0x2f || n = 0x3f || n = 0x23

/-- The bytes of a text with its other escapes decoded. The first argument counts characters that
an escape has already used. -/
def unescapedBytes : Nat → List Char → List UInt8
  | _, [] => []
  | skip + 1, _ :: rest => unescapedBytes skip rest
  | 0, c :: rest =>
    match c, rest with
    | '%', a :: b :: _ =>
      match Json.hexValue? a, Json.hexValue? b with
      | some x, some y =>
        if staysEscaped (16 * x + y) then 37 :: unescapedBytes 0 rest
        else UInt8.ofNat (16 * x + y) :: unescapedBytes 2 rest
      | _, _ => 37 :: unescapedBytes 0 rest
    | _, _ => String.utf8EncodeChar c ++ unescapedBytes 0 rest

def unescaped (cs : List Char) : List Char :=
  let bytes := unescapedBytes 0 cs
  (Utf8.pieces .between 0 bytes).flatMap fun
    | .ok c => [c]
    | .error f => escaped [] ((bytes.drop f.first).take (f.last + 1 - f.first))

/-- An authority from a host, a port, which is left out if it is 0, and a user, if there is one. -/
def render (user secret host : List Char) (port : Nat) : List Char :=
  let host := if ':' ∈ host then '[' :: host ++ [']'] else host
  let host := if port = 0 then host else host ++ ':' :: (toString port).toList
  if user.isEmpty then host
  else if secret.isEmpty then user ++ '@' :: host
  else user ++ ':' :: secret ++ '@' :: host

def escapedUser (cs : List Char) : List Char := escaped userMarks (Utf8.encode cs)

def plain (authority : List Char) : Except Fault (List Char) := do
  let s := ofAuthority authority
  let host ← (HostName.encode s.host).mapError Fault.hostEncoding
  return render (escapedUser s.user) (escapedUser s.secret) host (← portNumber s.port)

def readable (authority : List Char) : Except Fault (List Char) := do
  let s := ofAuthority authority
  let host ← (HostName.decode s.host).mapError Fault.hostDecoding
  return render (unescaped s.user) (unescaped s.secret) host (← portNumber s.port)

end Site

end LintRelay
