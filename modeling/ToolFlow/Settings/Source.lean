import ToolFlow.Breakdown
import ToolFlow.Settings.Basic
import ToolFlow.Settings.EnvFile
import ToolFlow.Text.LetterCase
import ToolFlow.Text.Utf8

/-!
# Sources of settings

Settings come from named values, from the variables of the surroundings, and from a file of
variables, in this order of precedence. Names are compared without regard to case.

Precedence is decided for each setting and not for each name: a setting that has a value under any
of its names in one source does not take one from the next. Where names differ in case only, the one
that appeared last counts.
-/

namespace ToolFlow.Settings

/-- The named variables, the latest of each name first. -/
abbrev Variables := EnvFile.Bound

/-- Where settings come from. -/
structure Sources where
  given : Fields := []
  surroundings : List (String × String) := []
  /-- What the file of variables holds. -/
  file : Option (List UInt8) := none

/-! ### Given values -/

/-- Whether two names differ in case at most. -/
def sameName (a b : String) : Bool :=
  Text.lower a == Text.lower b

/-- The value that is given for a setting with these names, under the name it is given by when that
is one of them, else under the one that it is like. -/
def givenFor? (given : Fields) (names : List String) : Option (String × Value) :=
  names.findSome? fun name =>
    (given.find? fun field => sameName field.1 name).map fun field =>
      (if names.contains field.1 then field.1 else name, field.2)

/-! ### Variables -/

/-- The names of variables, the one that was bound last for the first time first. -/
def namesOf (bound : Variables) : List String :=
  (bound.map Prod.fst).reverse.eraseDups.reverse

/-- Variables by their names in lower case. Each has its latest value; of several names that only
differ in case, the one that appeared last counts. -/
def byName (bound : Variables) : Variables :=
  (namesOf bound).map fun name => (Text.lower name, (bound.lookup name).join)

/-- The names of the variables of a setting with these names, in lower case. -/
def variableNames : List String → List String
  | [name] => [variableLead ++ name]
  | names => (names.take 2).map Text.lower

/-- The value that variables give for a setting with these names, under the first of them. -/
def boundFor? (bound : Variables) (names : List String) : Option (String × Value) :=
  ((variableNames names).findSome? fun name => (bound.lookup name).join).map fun value =>
    (names.headD "", .text value)

/-! ### All sources -/

/-- The named values of given values and two sets of variables: for each setting the one of the
first source that has one. -/
def combined (given : Fields) (outer inner : Variables) : Fields :=
  namesOfEach.filterMap fun names =>
    (givenFor? given names).orElse fun _ =>
      (boundFor? outer names).orElse fun _ => boundFor? inner names

/-- The variables of a file, given those of the surroundings. -/
def fileVariables (outer : Variables) : Option (List UInt8) → Except Breakdown Variables
  | none => .ok []
  | some data =>
    match Utf8.decode data with
    | .ok text => .ok (EnvFile.bound outer text)
    | .error flaw => .error (.raised "UnicodeDecodeError" flaw.text)

/-- All named values of the sources. -/
def Sources.fields (sources : Sources) : Except Breakdown Fields := do
  let outer : Variables := (sources.surroundings.map fun v => (v.1, some v.2)).reverse
  let inner ← fileVariables outer sources.file
  return combined sources.given (byName outer) (byName inner)

/-- The settings of the sources. -/
def ofSources (sources : Sources) : Except Breakdown (Checked Settings) :=
  sources.fields.map ofFields

/-- The settings of given values alone. -/
def ofGiven (given : Fields) : Checked Settings :=
  ofFields (combined given [] [])

end ToolFlow.Settings
