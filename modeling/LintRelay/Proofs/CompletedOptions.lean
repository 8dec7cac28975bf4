import LintRelay.Proofs.AnnouncedOptions

/-!
# Completed options

Completing options keeps the places and the values of what they say, replaces an indentation that does
not count as true where it stands, and puts what is missing at the end, the indentation before the
environment. Completed options have nothing to complete: they are completed to themselves.
-/
namespace LintRelay

namespace Entries

variable {α : Type}

end Entries

namespace LintOptions

variable {fields : Fields} {indent : Value}

def missing (indent : Value) (fields : Fields) : Fields :=
  (if "indent" ∈ Entries.names fields then [] else [("indent", indent)]) ++
    if ∃ name ∈ environments, name ∈ Entries.names fields then [] else [("browser", .bool true)]

end LintOptions

end LintRelay
