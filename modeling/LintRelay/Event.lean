import LintRelay.Diagnostic
import LintRelay.Engine
import LintRelay.ProjectConfig

/-!
# Events

What the program does, in the order in which it does it: what can be seen from outside, and the
options that each inspection with the linter takes up.
-/
namespace LintRelay

inductive MessageKind where
  | error
  | log
  deriving DecidableEq, Repr

def MessageKind.number : MessageKind → Nat
  | .error => 1
  | .log => 4

/-- The settings in force at one moment. -/
structure Overview where
  enabled : Bool
  configEnabled : Bool
  configPath : Option PathName
  config : Option Fields
  preferences : Value
  lastRun : Value
  indent : Int
  executable : Value
  deriving DecidableEq

structure ProblemTable where
  rows : List (List String)
  styles : List String
  deriving DecidableEq

inductive Event where
  | inspecting (path options : Value)
  | launched (launch : Launch)
  | complained (text : String)
  | rerunAsked (provider : String)
  | toggled (enabled : Bool)
  | scanned (provider : String) (text path : Value)
  | published (uri : String) (diagnostics : List Diagnostic)
  | told (kind : MessageKind) (text : String)
  | printed (text : String) (style : Option String)
  | panel (title text : String)
  | table (title : String) (columns : List String) (content : ProblemTable)
  | servedEditor (address : Option (String × Int))
  | servedWeb (host : String) (port : Int) (debug : Bool)
  | overview (o : Overview)
  deriving DecidableEq

end LintRelay
