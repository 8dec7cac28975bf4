import LintRelay.Numeral

/-!
# Indentation

The editor's indentation: whether it indents with tabs, and the width of a tab and of a level of
spaces. Settings name the three in any order; a missing one has its default.
-/
namespace LintRelay

structure Indentation where
  useTabs : Bool
  tabSize : Int
  spaceUnits : Int
  deriving DecidableEq, Repr

namespace Indentation

def standard : Indentation := ⟨false, 4, 4⟩

/-- The width that the linter is told. -/
def size (i : Indentation) : Int := if i.useTabs then i.tabSize else i.spaceUnits

def ofFields (fields : Fields) : Except Fault Indentation :=
  let useTabs := ((Entries.get? "useTabChar" fields).getD (.bool standard.useTabs)).isTruthy
  ((Entries.get? "tabSize" fields).getD (.int standard.tabSize)).whole?.bind fun tabSize =>
    ((Entries.get? "spaceUnits" fields).getD (.int standard.spaceUnits)).whole?.bind fun units =>
      .ok ⟨useTabs, tabSize, units⟩

/-- The indentation an editor's settings ask for; empty settings leave the standard one. -/
def ofValue (settings : Value) : Except Fault Indentation :=
  if settings.isTruthy then
    match settings with
    | .object fields => ofFields fields
    | v => .error (.noMember v.kind "get")
  else .ok standard

end Indentation

end LintRelay
