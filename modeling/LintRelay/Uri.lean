import LintRelay.Fault
import LintRelay.JsonToken

/-!
# Document addresses

The path that an editor's document address stands for: its path part, without scheme, authority,
parameters, query and fragment, with percent escapes decoded. An authority of a file address is kept
in front, and a drive letter loses its slash. An address whose authority is not one stands for
nothing.
-/
namespace LintRelay.Uri

/-- Percent escapes as bytes, everything else as the bytes of its characters. The first argument
counts characters that an escape has already used. -/
def escapedBytes : Nat → List Char → List UInt8
  | _, [] => []
  | skip + 1, _ :: rest => escapedBytes skip rest
  | 0, c :: rest =>
    match c, rest with
    | '%', a :: b :: _ =>
      match Json.hexValue? a, Json.hexValue? b with
      | some x, some y => UInt8.ofNat (16 * x + y) :: escapedBytes 2 rest
      | _, _ => String.utf8EncodeChar c ++ escapedBytes 0 rest
    | _, _ => String.utf8EncodeChar c ++ escapedBytes 0 rest

def decoded (cs : List Char) : List Char := Utf8.decodeLenient (escapedBytes 0 cs)

/-- Addresses are read without controls and spaces in front and without line breaks and tabs. -/
def cleaned (cs : List Char) : List Char :=
  (cs.dropWhile fun c => c.toNat ≤ 32).filter fun c => c != '\t' && c != '\n' && c != '\r'

def isSchemeChar (c : Char) : Bool := c.isAlphanum || c = '+' || c = '-' || c = '.'

/-- The scheme before the first colon, in lower case, and what follows; no scheme where what stands
before the colon is none. -/
def splitScheme (cs : List Char) : List Char × List Char :=
  let before := cs.takeWhile (· ≠ ':')
  match before, cs.drop before.length with
  | c :: _, _ :: rest =>
    if c.isAlpha ∧ before.all isSchemeChar then (before.map Char.toLower, rest) else ([], cs)
  | _, _ => ([], cs)

def endsAuthority (c : Char) : Bool := c = '/' || c = '?' || c = '#'

def splitAuthority : List Char → List Char × List Char
  | '/' :: '/' :: rest =>
    (rest.takeWhile (!endsAuthority ·), rest.dropWhile (!endsAuthority ·))
  | cs => ([], cs)

/-- Schemes whose last path component may carry parameters behind a semicolon. -/
def schemesWithParameters : List String :=
  ["", "ftp", "hdl", "prospero", "http", "imap", "https", "shttp", "rtsp", "rtspu", "sip", "sips",
   "mms", "sftp", "tel"]

def withoutParameters (cs : List Char) : List Char :=
  let last := (cs.reverse.takeWhile (· ≠ '/')).reverse
  cs.take (cs.length - last.length) ++ last.takeWhile (· ≠ ';')

def hasDrive : List Char → Bool
  | '/' :: c :: ':' :: _ => c.isAlpha
  | _ => false

/-- An address in its parts, still with escapes; query and fragment are left out. -/
structure Parts where
  scheme : List Char
  authority : List Char
  path : List Char
  deriving DecidableEq

def checkAuthority (authority : List Char) : Except Fault Unit :=
  (Authority.check authority).mapError Fault.authority

def split (address : List Char) : Except Fault Parts :=
  let (scheme, rest) := splitScheme (cleaned address)
  let (authority, rest) := splitAuthority rest
  (checkAuthority authority).map fun _ =>
    ⟨scheme, authority, (rest.takeWhile (· ≠ '#')).takeWhile (· ≠ '?')⟩

def pathOf (parts : Parts) : List Char :=
  let path :=
    if String.ofList parts.scheme ∈ schemesWithParameters then withoutParameters parts.path
    else parts.path
  let path := decoded path
  let authority := decoded parts.authority
  if !authority.isEmpty && !path.isEmpty && parts.scheme = "file".toList then
    '/' :: '/' :: authority ++ path
  else if hasDrive path then
    match path with
    | _ :: c :: rest => c.toLower :: rest
    | _ => path
  else path

def path (uri : String) : Except Fault String :=
  (split uri.toList).map fun parts => String.ofList (pathOf parts)

end LintRelay.Uri
