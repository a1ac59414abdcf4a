import ToolFlow.Commentary
import ToolFlow.Fault
import ToolFlow.Response
import ToolFlow.Settings.Basic
import ToolFlow.Text.Blank

/-!
# Completions

Asking a model to complete a prompt: who can be asked, what is sent, and the text of the answer.

A model can be asked when it has a name and there is a connection or a key for one; what is missing
is reported as a fault of the configuration. The answer comes in blocks, whose texts are joined and
trimmed, and an answer that is empty then is an error.
-/

namespace ToolFlow.Completion

/-- The fault of a missing part of the configuration. -/
def missing (name : String) : Fault :=
  { kind := .completionConfig, message := s!"Missing {name}." }

/-- The model that can be asked, given a connection or a key for one. -/
def model (name key : Option String) (connected : Bool) : Except Fault String :=
  match Commentary.nonEmpty? name with
  | none => .error (missing "ANTHROPIC_MODEL")
  | some name =>
    if !connected && (Commentary.nonEmpty? key).isNone then .error (missing "ANTHROPIC_API_KEY")
    else .ok name

/-- The model that settings name. -/
def modelOfSettings (settings : Settings) : Except Fault String :=
  model settings.model settings.apiKey false

/-- How a completion is asked for when nothing is said about it. -/
def defaultOptions : CompletionOptions :=
  { temperature := Commentary.temperature, maxTokens := .int 200 }

/-- What is sent to the model. -/
def request (model prompt : String) (options : CompletionOptions) : Value :=
  let message := Value.object [("role", .text "user"), ("content", .text prompt)]
  let system := match Commentary.nonEmpty? options.system with
    | some system => [("system", Value.text system)]
    | none => []
  .object ([("model", Value.text model), ("max_tokens", .number options.maxTokens),
    ("temperature", .number options.temperature), ("messages", .list [message])] ++ system)

/-- The attribute of an entity, null in its absence; nothing else has attributes. -/
def attributeOf (name : String) : Value → Value
  | .entity _ attributes => (attributes.lookup name).getD .null
  | _ => .null

/-- The text of a block, if it is a text block; a vacant text is empty. -/
def blockText? (block : Value) : Option Value :=
  match attributeOf "type" block with
  | .text "text" =>
    let text := attributeOf "text" block
    some (if text.isVacant then .text "" else text)
  | _ => none

/-- Texts joined from a position on. -/
def joined : Nat → List Value → Except Breakdown String
  | _, [] => .ok ""
  | position, .text s :: rest => (joined (position + 1) rest).map (s ++ ·)
  | position, v :: _ =>
    .error (.raised "TypeError"
      s!"sequence item {position}: expected str instance, {v.typeName} found")

/-- The text of a message with the given content. -/
def messageText (content : Value) : Except Breakdown String := do
  let blocks ← if content.isVacant then pure [] else Response.itemsOf content
  return Text.trim (← joined 0 (blocks.filterMap blockText?))

/-- The text that a model answered; an empty one is none. -/
def answer (content : Value) : Except Breakdown String := do
  let text ← messageText content
  if text.isEmpty then throw (.raised "RuntimeError" "Anthropic returned empty content.")
  else return text

end ToolFlow.Completion
