import ToolFlow.Breakdown
import ToolFlow.Json.Reader
import ToolFlow.Value.Literal

/-!
# Responses of tools

A response is a value with content blocks. Its text is that of the first text block, and its result
is the value that this text denotes as JSON, or the text itself when it is not JSON.

Responses come from outside and may be anything. Fields are looked up without asking what the
response is, so one that has no fields has no content; a content that is no list is gone through
like one where this is possible, and is an error where it is not (`Response.itemsOf`). What a text
block holds as its text is shown as a text whatever it is.

Two things can go wrong, and both are breakdowns: a content without items, and an integer in the
place of the text that has too many digits to be shown.

Whether the call failed is said by a field beside the content (`Response.isError`). Any value counts
there, by whether something is in it, and a response without the field did not fail.
-/

namespace ToolFlow.Response

/-- The items of a value that is gone through one by one: those of a list, the characters of a
text, the names of an object. -/
def itemsOf : Value → Except Breakdown (List Value)
  | .list items => .ok items
  | .text s => .ok (s.toList.map fun c => .text (String.ofList [c]))
  | .object fields => .ok ((Fields.names fields).map .text)
  | v => .error (.notIterable v.typeName)

/-- The content blocks of a response; none when there is no content. -/
def blocks (response : Value) : Except Breakdown (List Value) :=
  let content := response.field "content"
  if content.isVacant then .ok [] else itemsOf content

/-- A value as plain text, unless it would show an integer with too many digits. -/
def plainText (v : Value) : Except Breakdown String :=
  if v.isOverlong then .error .overlongInteger else .ok v.display

/-- The text of a content block, if it is a text block that has one. -/
def blockText? (block : Value) : Except Breakdown (Option String) :=
  match block.field "type", block.field "text" with
  | .text "text", .null => .ok none
  | .text "text", v => (plainText v).map some
  | _, _ => .ok none

/-- The text of the first text block of some blocks. -/
def firstTextOf : List Value → Except Breakdown (Option String)
  | [] => .ok none
  | block :: rest =>
    match blockText? block with
    | .ok none => firstTextOf rest
    | outcome => outcome

/-- The text of the first text block of a response. -/
def firstText (response : Value) : Except Breakdown (Option String) := do
  firstTextOf (← blocks response)

/-- Whether a response says that the call failed. -/
def isError (response : Value) : Bool :=
  !((response.field? "isError").getD (.bool false)).isVacant

/-- The value that a text denotes as JSON, or the text itself. -/
def decodeText (text : String) : Value :=
  (Json.decode? text).getD (.text text)

/-- The result of a response, none when it has no text. -/
def result (response : Value) : Except Breakdown (Option Value) := do
  return (← firstText response).map decodeText

end ToolFlow.Response
