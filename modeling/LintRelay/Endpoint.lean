import LintRelay.Dispatch
import LintRelay.JsonBytes
import LintRelay.Site

/-!
# Serving over HTTP

Requests to inspect a text, to open a project, to see the options in force and to change the
preferences. A request that lacks what it needs is refused; a fault that a handler does not expect
is an internal error. A request whose target or header cannot be sent at all reaches no handler.
-/
namespace LintRelay

/-- A request without a body has no content type either. -/
structure Request where
  method : String
  target : String
  contentType : String
  body : List UInt8

structure Response where
  status : Nat
  json : Option Value
  deriving DecidableEq

namespace Response

def ok (fields : Fields) : Response := ⟨200, some (.object (("success", .bool true) :: fields))⟩

def refused (status : Nat) (reason : String) : Response :=
  ⟨status, some (.object [("success", .bool false), ("error", .str reason)])⟩

def bare (status : Nat) : Response := ⟨status, none⟩

def notFound : Response := refused 404 "Endpoint not found"

def internalError : Response := refused 500 "Internal server error"

end Response

namespace Request

def isPlainBlank (c : Char) : Bool := c = ' ' || c = '\t'

/-- The media type without its parameters and without spaces and tabs around it, in lower case. -/
def mediaType (r : Request) : List Char :=
  let cs := (r.contentType.toList.takeWhile (· ≠ ';')).dropWhile isPlainBlank
  (cs.reverse.dropWhile isPlainBlank).reverse.map Char.toLower

def isJson (r : Request) : Bool :=
  r.mediaType = "application/json".toList ||
    ("application/".toList.isPrefixOf r.mediaType && "+json".toList.isSuffixOf r.mediaType)

/-- The request's data; a body that holds nothing counts as an empty object. -/
def data (room : Nat) (r : Request) : Except Fault Fields := do
  let v ← if r.isJson then JsonBytes.valueOrNull room r.body else .ok .null
  if v.isTruthy then
    match v with
    | .object fields => .ok fields
    | v => .error (.noMember v.kind "get")
  else .ok []

def joinedPath (authority : List Char) (parts : Uri.Parts) : List Char :=
  let path := if authority.isEmpty then parts.path else '/' :: '/' :: authority ++ parts.path
  if parts.scheme.isEmpty then path else parts.scheme ++ ':' :: path

/-- The path a request asks for, without query, with its escapes decoded and with a single slash in
front. What is sent as the path of an address may once more look like an address, and so may the
path of that one, which then keeps its authority. -/
def path (r : Request) : Except Fault String := do
  let sent ← Uri.split r.target.toList
  let asked ← Uri.split sent.path
  let inner ← Uri.split asked.path
  let authority ← Site.plain inner.authority
  let path := Uri.decoded (joinedPath authority inner)
  return String.ofList ('/' :: path.dropWhile (· = '/'))

def scheme (r : Request) : Except Fault String := do
  let sent ← Uri.split r.target.toList
  return if sent.scheme.isEmpty then "http" else String.ofList sent.scheme

def plainPort (scheme : String) : Option String :=
  if scheme = "http" ∨ scheme = "ws" then some ":80"
  else if scheme = "https" ∨ scheme = "wss" then some ":443"
  else none

def authority (r : Request) : Except Fault (List Char) := do
  let sent ← Uri.split r.target.toList
  let plain ←
    Site.plain (if sent.authority.isEmpty then "localhost".toList else sent.authority)
  Uri.checkAuthority plain
  return plain

/-- The authority without a port that need not be told. -/
def host (r : Request) : Except Fault (List Char) := do
  let authority ← r.authority
  match plainPort (← r.scheme) with
  | some port =>
    return if port.toList.isSuffixOf authority then
        authority.take (authority.length - port.length)
      else authority
  | none => return authority

/-- The host must have a readable form, which is an authority again. -/
def checkHost (r : Request) : Except Fault Unit := do
  let host ← r.host
  Uri.checkAuthority host
  Uri.checkAuthority (← Site.readable host)

def hasHostName (r : Request) : Except Fault Bool := do
  let host ← r.host
  return (HostName.encode (host.takeWhile (· ≠ ':'))).isOk

/-- A target may ask for a lasting connection, which no route offers. -/
def asksForSocket (r : Request) : Except Fault Bool := do
  let scheme ← r.scheme
  return scheme = "ws" || scheme = "wss"

/-- Methods are known in any case of their letters. -/
def methodName (r : Request) : String := LetterCase.plainUpper r.method

def checkHeader (r : Request) : Except Fault Unit :=
  if '\n' ∈ r.contentType.toList ∨ '\r' ∈ r.contentType.toList then .error .headerLineBreak
  else .ok ()

end Request

inductive Route where
  | inspect
  | project
  | options
  | preferences
  | asset
  deriving DecidableEq, Repr

namespace Route

/-- A file name may hold slashes, but begins with none, and holds no line feed behind its first
character. -/
def isFileName : List Char → Bool
  | [] => false
  | c :: rest => c != '/' && '\n' ∉ rest

def assetFolder : List Char := "/static/".toList

def ofPath (path : String) : Option Route :=
  if path = "/api/inspect" then some inspect
  else if path = "/api/project" then some project
  else if path = "/api/options" then some options
  else if path = "/api/preferences" then some preferences
  else if assetFolder.isPrefixOf path.toList ∧ isFileName (path.toList.drop assetFolder.length) then
    some asset
  else none

def methods : Route → List String
  | inspect | project | preferences => ["POST", "OPTIONS"]
  | options | asset => ["GET", "HEAD", "OPTIONS"]

def mergedSlashes (path : String) : String :=
  String.ofList (path.toList.foldr
    (fun c rest => if c = '/' ∧ rest.head? = some '/' then rest else c :: rest) [])

end Route

namespace Action

/-- Where nobody serves an editor, a run that is asked for is only recorded. -/
def recordRerun (provider : String) : Action Unit := emit (.rerunAsked provider)

def requestedLanguage (data : Fields) (path : Value) : Except Fault Value :=
  let named := Value.fieldOrNull "language" data
  if named.isTruthy then .ok named
  else (Language.ofPathValue path).map fun language => (language.map Value.str).getD .null

def resultFields (results : Entries (Option Inspection)) : Fields :=
  results.map fun p => (p.1, Inspection.optionToValue p.2)

def serveInspect (data : Fields) : Action Response := do
  let path := Value.fieldOrNull "path" data
  let text := Value.fieldOrNull "text" data
  if !path.isTruthy || text.isNull then return .refused 400 "Path and text are required"
  else do
    let language ← ofExcept (requestedLanguage data path)
    let name ← ofExcept (Registry.lookupName language)
    if ← isProvided name then
      match ← attempt (inspect name text path) with
      | .error fault => return .refused 500 fault.message
      | .ok results =>
        return .ok [("language", language), ("results", .object (resultFields results))]
    else return .refused 400 s!"No inspection provider for {path.text}"

/-- A whole number of 32 bits stands for an open file, which is no folder. -/
def namesOpenFile : Value → Bool
  | .bool _ => true
  | .int n => -2147483648 ≤ n && n ≤ 2147483647
  | _ => false

def serveProject (data : Fields) : Action Response := do
  let root := Value.fieldOrNull "root" data
  if !root.isTruthy then return .refused 400 "Project root is required"
  else
    match root with
    | .str root => do
      let h ← host
      if h.disk.isFolder root then do
        openProject (.str root)
        let h ← host
        let config := h.inspector.config
        return .ok
          [("config_path", .str ((config.path.map PathName.text).getD "None")),
           ("config", Value.ofFields? config.loaded)]
      else return .refused 400 "Project root does not exist"
    | v =>
      if namesOpenFile v then return .refused 400 "Project root does not exist"
      else fail (.pathKind v.kind)

def serveOptions : Action Response := do
  let h ← host
  let options ← ofExcept h.inspector.effectiveOptions
  return .ok [("options", .object options)]

def servePreferences (data : Fields) : Action Response := do
  let options := Value.fieldOrNull "options" data
  match options with
  | .null | .object _ => do
    setPreferences recordRerun options
    return .ok [("options", options)]
  | _ => return .refused 400 "Options must be an object"

def requestData (r : Request) : Action Fields := do
  let h ← host
  ofExcept (r.data h.disk.room)

def serveRoute (r : Request) : Route → Action Response
  | .inspect => do serveInspect (← requestData r)
  | .project => do serveProject (← requestData r)
  | .options => serveOptions
  | .preferences => do servePreferences (← requestData r)
  | .asset => pure .notFound

/-- The answer to a request for only the head of a response has no body. -/
def withoutBody (r : Request) (response : Response) : Response :=
  if r.method = "HEAD" then { response with json := none } else response

def serveMethod (r : Request) (route : Route) : Action Response := do
  if r.methodName ∉ route.methods then return .bare 405
  else if ← ofExcept r.asksForSocket then return .bare 400
  else if r.methodName = "OPTIONS" then return .bare 200
  else
    match ← attempt (serveRoute r route) with
    | .ok response => return withoutBody r response
    | .error _ => return withoutBody r .internalError

/-- A path that only repeated slashes keep from a route is answered by pointing to the route. -/
def redirect (r : Request) (path : String) : Action Response := do
  match Route.ofPath (Route.mergedSlashes path) with
  | none => return withoutBody r .notFound
  | some route =>
    if r.methodName ∉ route.methods then return .bare 405
    else return .bare (if ← ofExcept r.asksForSocket then 400 else 308)

/-- Answer a request. What keeps it from being sent is found in the order in which its parts are
put together. -/
def respond (r : Request) : Action Response := do
  let path ← ofExcept r.path
  let _ ← ofExcept r.authority
  ofExcept r.checkHeader
  ofExcept r.checkHost
  if ← ofExcept r.hasHostName then
    match Route.ofPath path with
    | some route => serveMethod r route
    | none => redirect r path
  else return .bare 400

end Action

namespace Host

def endpoint (disk : Disk) (tool : Nat → Launch → Outcome) (inspector : Inspector) : Host :=
  (Action.register (new disk tool inspector (Registry.new true))).2

end Host

end LintRelay
