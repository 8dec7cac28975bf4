import LintRelay.Fault

/-!
# Command line flags

Options become flags in their order: a true one names itself, a false one is denied, a list is
given item by item, null is left out, and anything else is given by its text.
-/
namespace LintRelay.Flags

def assignment (name : String) (v : Value) : String := "--" ++ name ++ "=" ++ v.text

def ofOption (name : String) : Value → List String
  | .null => []
  | .bool true => ["--" ++ name]
  | .bool false => ["--no-" ++ name]
  | .list items => items.map (assignment name)
  | v => [assignment name v]

def ofFields (fields : Fields) : List String := fields.flatMap fun p => ofOption p.1 p.2

def ofOptions : Value → Except Fault (List String)
  | .object fields => .ok (ofFields fields)
  | v => .error (.noMember v.kind "items")

end LintRelay.Flags
