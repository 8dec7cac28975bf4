import LintRelay.Binary64
import LintRelay.Entries

/-!
# Values

The dynamic values that option objects, settings, request bodies and lint reports are made of, and
the questions asked of all of them: what kind a value is, and whether it counts as true. Equality of
values is decided by their structure; what options say is compared elsewhere.
-/
namespace LintRelay

inductive Value where
  | null
  | bool (b : Bool)
  | int (n : Int)
  | float (x : Binary64)
  | str (s : String)
  | list (items : List Value)
  | object (fields : List (String × Value))
  deriving Inhabited

abbrev Fields := Entries Value

inductive Kind where
  | null
  | bool
  | int
  | float
  | str
  | list
  | object
  deriving DecidableEq, Repr

def Kind.word : Kind → String
  | .null => "NoneType"
  | .bool => "bool"
  | .int => "int"
  | .float => "float"
  | .str => "str"
  | .list => "list"
  | .object => "dict"

namespace Value

def kind : Value → Kind
  | null => .null
  | bool _ => .bool
  | int _ => .int
  | float _ => .float
  | str _ => .str
  | list _ => .list
  | object _ => .object

/-- Null, false, the zeros and whatever is empty do not count as true. -/
def isTruthy : Value → Bool
  | null => false
  | bool b => b
  | int n => n != 0
  | float x => !x.isZero
  | str s => s != ""
  | list items => !items.isEmpty
  | object fields => !fields.isEmpty

def isNull : Value → Bool
  | null => true
  | _ => false

mutual

def isEqual : Value → Value → Bool
  | null, null => true
  | bool a, bool b => a == b
  | int a, int b => a == b
  | float a, float b => a == b
  | str a, str b => a == b
  | list a, list b => itemsEqual a b
  | object a, object b => fieldsEqual a b
  | _, _ => false

def itemsEqual : List Value → List Value → Bool
  | [], [] => true
  | a :: as, b :: bs => isEqual a b && itemsEqual as bs
  | _, _ => false

def fieldsEqual : List (String × Value) → List (String × Value) → Bool
  | [], [] => true
  | (m, a) :: as, (n, b) :: bs => m == n && isEqual a b && fieldsEqual as bs
  | _, _ => false

end

mutual

theorem isEqual_iff : ∀ a b : Value, isEqual a b = true ↔ a = b
  | null, b => by cases b <;> simp [isEqual]
  | bool a, b => by cases b <;> simp [isEqual]
  | int a, b => by cases b <;> simp [isEqual]
  | float a, b => by cases b <;> simp [isEqual]
  | str a, b => by cases b <;> simp [isEqual]
  | list a, b => by cases b <;> simp [isEqual, itemsEqual_iff a]
  | object a, b => by cases b <;> simp [isEqual, fieldsEqual_iff a]

theorem itemsEqual_iff : ∀ a b : List Value, itemsEqual a b = true ↔ a = b
  | [], b => by cases b <;> simp [itemsEqual]
  | v :: rest, b => by cases b <;> simp [itemsEqual, isEqual_iff v, itemsEqual_iff rest]

theorem fieldsEqual_iff : ∀ a b : List (String × Value), fieldsEqual a b = true ↔ a = b
  | [], b => by cases b <;> simp [fieldsEqual]
  | (n, v) :: rest, b => by
    cases b <;> simp [fieldsEqual, Prod.ext_iff, isEqual_iff v, fieldsEqual_iff rest]

end

instance : DecidableEq Value := fun a b => decidable_of_iff _ (isEqual_iff a b)

def fieldOrNull (name : String) (fields : Fields) : Value := (Entries.get? name fields).getD null

def ofFields? : Option Fields → Value
  | some fields => object fields
  | none => null

end Value

end LintRelay
