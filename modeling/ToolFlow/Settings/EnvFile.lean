import ToolFlow.Text.Blank
import ToolFlow.Text.Search

/-!
# Files of variables

A file of variables has one binding of a name to a value a line. Values may stand between quotes,
may then go over several lines, and may hold references to variables bound before. A line that is no
binding is passed over.

Bindings are read first (`EnvFile.bindingsWithin`) and put together afterwards (`EnvFile.bound`),
where a reference has the value that its name has at this place of the file, or else in the
surroundings, or else the default that is written in it.
-/

namespace ToolFlow.EnvFile

/-! ### Characters -/

/-- Whether a character is blank but ends no line. -/
def isGap (c : Char) : Bool :=
  Text.isBlank c && c != '\n' && c != '\r'

/-- Whether a character can stand in a name without quotes. -/
def isNameChar (c : Char) : Bool :=
  c != '=' && c != '#' && !Text.isBlank c

/-- The characters after a line and its end. -/
def afterLine (cs : List Char) : List Char :=
  (cs.dropWhile (· != '\n')).drop 1

/-! ### Names -/

/-- The characters after the word that may stand before a name. -/
def afterExport (cs : List Char) : List Char :=
  match cs with
  | 'e' :: 'x' :: 'p' :: 'o' :: 'r' :: 't' :: c :: rest =>
    if isGap c then rest.dropWhile isGap else cs
  | _ => cs

/-- A name and what follows it. -/
def name? (cs : List Char) : Option (List Char × List Char) :=
  match cs with
  | '\'' :: rest =>
    match rest.span (· != '\'') with
    | ([], _) => none
    | (_, []) => none
    | (name, _ :: rest) => some (name, rest)
  | _ =>
    match cs.span isNameChar with
    | ([], _) => none
    | (name, rest) => some (name, rest)

/-! ### Values -/

/-- The characters of a quoted value and those after it. The character after a backslash belongs to
the value, also when it is a quote. -/
def quotedValue (quote : Char) : List Char → Option (List Char × List Char)
  | [] => none
  | '\\' :: c :: rest =>
    (quotedValue quote rest).map fun (value, after) => ('\\' :: c :: value, after)
  | c :: rest =>
    if c == quote then some ([], rest)
    else (quotedValue quote rest).map fun (value, after) => (c :: value, after)

/-- The characters that a backslash and a character stand for between quotation marks. -/
def doubleEscapes : List (Char × Char) :=
  [('\\', '\\'), ('\'', '\''), ('"', '"'), ('a', '\x07'), ('b', '\x08'), ('f', '\x0c'),
    ('n', '\n'), ('r', '\r'), ('t', '\t'), ('v', '\x0b')]

/-- The characters that a backslash and a character stand for between apostrophes. -/
def singleEscapes : List (Char × Char) :=
  [('\\', '\\'), ('\'', '\'')]

/-- The characters with their escapes replaced. -/
def unescape (escapes : List (Char × Char)) : List Char → List Char
  | [] => []
  | '\\' :: c :: rest =>
    match escapes.lookup c with
    | some d => d :: unescape escapes rest
    | none => '\\' :: unescape escapes (c :: rest)
  | c :: rest => c :: unescape escapes rest

/-- A value without quotes, up to a comment. -/
def uncommented : List Char → List Char
  | [] => []
  | c :: rest =>
    if Text.isBlank c && ((c :: rest).dropWhile Text.isBlank).head? == some '#' then []
    else c :: uncommented rest

/-- The characters without the blank ones at the end. -/
def trimEnd (cs : List Char) : List Char :=
  (cs.reverse.dropWhile Text.isBlank).reverse

/-- A value and what follows it, from the end of the equals sign on. A comment may take its
place. -/
def value? (cs : List Char) : Option (List Char × List Char) :=
  match cs.dropWhile isGap with
  | '\'' :: rest =>
    (quotedValue '\'' rest).map fun (value, after) => (unescape singleEscapes value, after)
  | '"' :: rest =>
    (quotedValue '"' rest).map fun (value, after) => (unescape doubleEscapes value, after)
  | _ =>
    let (value, after) := cs.span (· != '\n')
    some (trimEnd ((uncommented value).dropWhile isGap), after)

/-! ### Lines -/

/-- What a place in a file comes to: a binding or nothing, and what follows. -/
structure Line where
  name : Option String
  value : Option String
  rest : List Char

/-- What follows a binding, when nothing but a comment is left on its line. -/
def lineEnd? (cs : List Char) : Option (List Char) :=
  let rest := cs.dropWhile isGap
  let rest := if rest.head? == some '#' then rest.dropWhile (· != '\n') else rest
  match rest with
  | [] => some []
  | '\n' :: rest => some rest
  | _ => none

/-- The line with a binding, passed over when something else is left on it. -/
def ended (name value : Option (List Char)) (cs : List Char) : Line :=
  match lineEnd? cs with
  | some rest => ⟨name.map String.ofList, value.map String.ofList, rest⟩
  | none => ⟨none, none, afterLine cs⟩

/-- The line after a name. -/
def lineAfterName (name : Option (List Char)) (cs : List Char) : Line :=
  match cs.dropWhile isGap with
  | '=' :: rest =>
    match value? rest with
    | some (value, after) => ended name (some value) after
    | none => ⟨none, none, afterLine rest⟩
  | rest => ended name none rest

/-- The line at the first character that is not blank. -/
def line (cs : List Char) : Line :=
  let cs := afterExport (cs.dropWhile Text.isBlank)
  if cs.head? == some '#' then lineAfterName none cs
  else
    match name? cs with
    | some (name, rest) => lineAfterName (some name) rest
    | none => ⟨none, none, afterLine cs⟩

/-- The bindings of a file, at most so many lines of it. -/
def bindingsWithin : Nat → List Char → List (String × Option String)
  | 0, _ => []
  | fuel + 1, cs =>
    if (cs.dropWhile Text.isBlank).isEmpty then []
    else
      let line := line cs
      match line.name with
      | some name => (name, line.value) :: bindingsWithin fuel line.rest
      | none => bindingsWithin fuel line.rest

/-! ### References -/

/-- What the environment knows of a name. -/
abbrev Bound := List (String × Option String)

/-- The reference that follows a dollar sign and a brace: its value and what comes after it. -/
def reference? (bound : Bound) (cs : List Char) : Option (List Char × List Char) :=
  let (name, rest) := cs.span fun c => c != '}' && c != ':'
  let valueOr (default : List Char) : List Char :=
    match bound.lookup (String.ofList name) with
    | some value => (value.getD "").toList
    | none => default
  match rest with
  | '}' :: rest => some (valueOr [], rest)
  | ':' :: '-' :: rest =>
    match rest.span (· != '}') with
    | (_, []) => none
    | (default, _ :: rest) => some (valueOr default, rest)
  | _ => none

/-- A value with its references replaced, at most so many of its parts. -/
def expandWithin (bound : Bound) : Nat → List Char → List Char
  | 0, cs => cs
  | _, [] => []
  | fuel + 1, '$' :: '\x7b' :: rest =>
    match reference? bound rest with
    | some (value, rest) => value ++ expandWithin bound fuel rest
    | none => '$' :: expandWithin bound fuel ('\x7b' :: rest)
  | fuel + 1, c :: rest => c :: expandWithin bound fuel rest

/-- A value with its references replaced. -/
def expand (bound : Bound) (value : String) : String :=
  String.ofList (expandWithin bound value.length value.toList)

/-- The characters without a byte order mark in front. -/
def withoutMark (cs : List Char) : List Char :=
  if cs.head? == some (Char.ofNat 0xFEFF) then cs.drop 1 else cs

/-- A binding put before those that it overrides. -/
def bind (outer sofar : Bound) (binding : String × Option String) : Bound :=
  (binding.1, binding.2.map (expand (sofar ++ outer))) :: sofar

/-- The variables of a file, the latest binding of each first, given the variables of the
surroundings. -/
def bound (outer : Bound) (text : String) : Bound :=
  let cs := Text.universalNewlines (withoutMark text.toList)
  (bindingsWithin (cs.length + 1) cs).foldl (bind outer) []

end ToolFlow.EnvFile
