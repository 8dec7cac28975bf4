import LintRelay.Resemblance
import LintRelay.ValueText

/-!
# Scanning command line words

Words that begin with a dash are options, in a long form with an optional value behind an equals
sign or in short forms written together; two dashes end the options. An option that takes a value
takes the next word where none is attached, whatever that word is. For a long form or a command that
is not known, the known ones that resemble it are suggested.
-/
namespace LintRelay

inductive UsageFault where
  | missingCommand
  | noSuchCommand (name : String) (suggestions : List String)
  | noSuchOption (form : String) (suggestions : List String)
  | needsValue (form : String)
  | takesNoValue (form : String)
  | invalidValue (parameter reason : String)
  | missingArgument (parameter : String)
  | extraArguments (words : List String)
  deriving DecidableEq, Repr

namespace UsageFault

def spaced : List String → String
  | [] => ""
  | [word] => word
  | word :: rest => word ++ " " ++ spaced rest

def listed : List String → String
  | [] => ""
  | [word] => quoted word
  | word :: rest => quoted word ++ ", " ++ listed rest

def question : List String → String
  | [] => ""
  | [word] => s!" Did you mean {quoted word}?"
  | words => s!" (Did you mean one of: {listed words}?)"

def message : UsageFault → String
  | missingCommand => "Missing command."
  | noSuchCommand name suggestions =>
    s!"No such command {quoted name}.{question suggestions}"
  | noSuchOption form suggestions =>
    s!"No such option {quoted form}.{question suggestions}"
  | needsValue form => s!"Option {quoted form} requires an argument."
  | takesNoValue form => s!"Option {quoted form} does not take a value."
  | invalidValue parameter reason => s!"Invalid value for {parameter}: {reason}"
  | missingArgument parameter => s!"Missing argument {parameter}."
  | extraArguments [word] => s!"Got unexpected extra argument ({word})"
  | extraArguments words => s!"Got unexpected extra arguments ({spaced words})"

end UsageFault

structure OptionForm where
  name : String
  long : String
  short : Option Char
  takesValue : Bool
  deriving DecidableEq

/-- The options given, in the order of their first mention and with their last value, and the words
that are no options. -/
structure Given where
  options : Entries String
  arguments : List String

namespace OptionScan

/-- Options read from one word, in order, and the number of words used behind it. -/
abbrev Reading := Except UsageFault (List (String × String) × Nat)

def valueFor (written name : String) (attached next : Option String) : Reading :=
  match attached, next with
  | some v, _ => .ok ([(name, v)], 0)
  | none, some v => .ok ([(name, v)], 1)
  | none, none => .error (.needsValue written)

def readLong (forms : List OptionForm) (word : List Char) (next : Option String) : Reading :=
  let head := word.takeWhile (· ≠ '=')
  let attached :=
    if '=' ∈ word then some (String.ofList (word.drop (head.length + 1))) else none
  let written := String.ofList head
  match forms.find? fun f => f.long = written with
  | none => .error (.noSuchOption written (Resemblance.suggestions written
      (forms.map OptionForm.long)))
  | some f =>
    if f.takesValue then valueFor written f.name attached next
    else
      match attached with
      | some _ => .error (.takesNoValue written)
      | none => .ok ([(f.name, "")], 0)

/-- Short forms behind one dash; the first that takes a value takes what is left of the word. -/
def readShort (forms : List OptionForm) (next : Option String) : List Char → Reading
  | [] => .ok ([], 0)
  | c :: rest =>
    let written := String.ofList ['-', c]
    match forms.find? fun f => f.short = some c with
    | none => .error (.noSuchOption written [])
    | some f =>
      if f.takesValue then
        valueFor written f.name (if rest.isEmpty then none else some (String.ofList rest)) next
      else (readShort forms next rest).map fun r => ((f.name, "") :: r.1, r.2)

def readWord (forms : List OptionForm) (word : List Char) (next : Option String) : Reading :=
  match word with
  | '-' :: '-' :: _ => readLong forms word next
  | _ => readShort forms next word.tail

def isOptionWord (word : List Char) : Bool := word.head? = some '-' && 1 < word.length

/-- The options and arguments of a list of words. Where options do not mix with arguments, the first
argument ends the scan. The count is of words that belong to an option already read. -/
def scan (forms : List OptionForm) (mixed : Bool) : Nat → List String →
    Except UsageFault (List (String × String) × List String)
  | _, [] => .ok ([], [])
  | skip + 1, _ :: rest => scan forms mixed skip rest
  | 0, word :: rest =>
    if word = "--" then .ok ([], rest)
    else if isOptionWord word.toList then
      match readWord forms word.toList rest.head? with
      | .error e => .error e
      | .ok (options, used) =>
        (scan forms mixed used rest).map fun r => (options ++ r.1, r.2)
    else if mixed then (scan forms mixed 0 rest).map fun r => (r.1, word :: r.2)
    else .ok ([], word :: rest)

def given (forms : List OptionForm) (mixed : Bool) (words : List String) :
    Except UsageFault Given :=
  (scan forms mixed 0 words).map fun r => ⟨Entries.ofList r.1, r.2⟩

end OptionScan

end LintRelay
