import LintRelay.Fault

/-!
# Lint options

The options object the linter runs with: the user's options, with the editor's indentation where
none is given and the browser environment where none is declared.
-/
namespace LintRelay.LintOptions

def environments : List String := ["browser", "node", "couch", "rhino"]

def hasEnvironment (fields : Fields) : Bool := environments.any fun name => Entries.has name fields

def occurs (part : List Char) : List Char → Bool
  | [] => part.isEmpty
  | c :: rest => part.isPrefixOf (c :: rest) || occurs part rest

/-- Whether a value of any kind names an environment: as a member, as an item, or within a text. -/
def namesEnvironment : Value → Except Fault Bool
  | .object fields => .ok (hasEnvironment fields)
  | .list items => .ok (environments.any fun name => Value.str name ∈ items)
  | .str s => .ok (environments.any fun name => occurs name.toList s.toList)
  | v => .error (.containerKind v.kind)

/-- An indentation that does not count as true is replaced in its place. -/
def withIndent (indent : Value) (fields : Fields) : Fields :=
  if (Value.fieldOrNull "indent" fields).isTruthy then fields
  else Entries.put "indent" indent fields

def withEnvironment (fields : Fields) : Fields :=
  if hasEnvironment fields then fields else Entries.put "browser" (.bool true) fields

def complete (indent : Value) (fields : Fields) : Fields :=
  withEnvironment (withIndent indent fields)

/-- The fields of an options value; one that does not count as true has none. -/
def fieldsOf (options : Value) : Except Fault Fields :=
  if options.isTruthy then
    match options with
    | .object fields => .ok fields
    | v => .error (.noMember v.kind "get")
  else .ok []

def normalize (options indent : Value) : Except Fault Fields :=
  (fieldsOf options).map (complete indent)

end LintRelay.LintOptions
