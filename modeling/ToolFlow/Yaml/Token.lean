import ToolFlow.Text.Utf8

/-!
# Tokens of YAML

What the text of a stream consists of: directives, the marks of documents, the indicators of
collections, properties of nodes and scalars. Beside them stands why a text is not read.
-/

namespace ToolFlow.Yaml

/-- What a directive at the start of a document says. -/
inductive Directive where
  /-- The version of YAML, by its major number. -/
  | version (major : Nat)
  /-- The start of the tags that a handle abbreviates. -/
  | tagHandle (handle start : String)
  | other

/-- A token of a YAML text. -/
inductive Token where
  | directive (d : Directive)
  | documentStart
  | documentEnd
  | streamEnd
  | blockSequenceStart
  | blockMappingStart
  | blockEnd
  | flowSequenceStart
  | flowSequenceEnd
  | flowMappingStart
  | flowMappingEnd
  | flowEntry
  | blockEntry
  | key
  | value
  | alias (name : String)
  | anchor (name : String)
  | tag (handle : Option String) (suffix : String)
  /-- A scalar; it is plain when it is neither quoted nor a block. -/
  | scalar (text : String) (isPlain : Bool)

/-- Why a YAML text is not read. -/
inductive Obstacle where
  /-- The text is not YAML. -/
  | malformed
  /-- An escape names no character: it is beyond the last one, or even beyond a machine word. -/
  | noCharacter (code : Nat)
  | notInteger (base : Nat) (text : String)
  | emptyNumber
  | tooManyDigits (count : Nat)
  | notFloat (text : String)
  /-- A power of sixty is beyond the floating-point numbers. -/
  | beyondFloat
  | notBoolean (word : String)
  | notTimestamp
  /-- A mapping stands where the text of a timestamp should. -/
  | timestampMapping
  | impossibleDate (reason : String)
  /-- A mapping gives itself as its default value. -/
  | endlessDefault
  /-- A collection contains itself. -/
  | selfContaining
  /-- An integer among the keys has too many digits to be written. -/
  | overlongKey
  /-- Bytes are not the text that they should be. -/
  | undecodable (flaw : Utf8.Flaw)
  deriving DecidableEq

end ToolFlow.Yaml
