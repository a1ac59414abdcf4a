import ToolFlow.Fault
import ToolFlow.Navigation
import ToolFlow.Path.Grammar
import ToolFlow.Response
import ToolFlow.Result.Basic

/-!
# Evaluation of assertions

An assertion is checked against the result of a response. Without a response, a readable path or a
text in the response it fails.

The three are looked for in this order, and the first that is lacking gives the reason. An assertion
that is checked at last fails with its own message if it has one, and otherwise with the name of its
condition. The own message is also given when there is no response at all, and never when the path
cannot be read or the response has no text.

An absent value is checked like any other, so that an assertion can ask for absence. It is recorded
as null.

## Main definitions

* `Assertion.checked`: what is recorded of an assertion on a value.
* `Assertion.evaluate`: an assertion on a response, with the ways in which no value is reached.
* `evaluateAll`: assertions in order. An error that is none of the library's own ends this.
-/

namespace ToolFlow

/-- What a response without text is said to be. -/
def Response.noTextMessage : String := "Response has no text content"

namespace Assertion

/-- What is said of an assertion when there is no response. -/
def noResponseMessage : String := "No response to assert against"

/-- The message of the assertion, or another one when it has none. -/
def messageOr (assertion : Assertion) (other : String) : String :=
  match assertion.message with
  | some "" => other
  | some message => message
  | none => other

/-- A failed assertion whose value could not be reached. -/
def unreached (assertion : Assertion) (reason : String) : AssertionResult :=
  { assertion, passed := false
    message := some s!"Failed to extract path {assertion.path}: {reason}" }

/-- The outcome of the condition on the value that the path leads to. -/
def checked (assertion : Assertion) (actual : Value) : AssertionResult :=
  let passed := assertion.condition.holds actual assertion.value
  { assertion, passed
    actual := if actual.isMissing then .null else actual
    message :=
      if passed then none
      else some (assertion.messageOr s!"Assertion failed: {assertion.condition.name}") }

/-- Evaluates one assertion against a response. -/
def evaluate (assertion : Assertion) (response : Value) : Except Breakdown AssertionResult :=
  if response.isNull then
    .ok { assertion, passed := false, message := some (assertion.messageOr noResponseMessage) }
  else
    match Path.parse assertion.path with
    | .error failure =>
      match failure.forPath (.text assertion.path) with
      | .fault fault => .ok (assertion.unreached fault.message)
      | .breakdown b => .error b
    | .ok segments => do
      match ← Response.result response with
      | none => .ok (assertion.unreached Response.noTextMessage)
      | some result => .ok (assertion.checked (result.navigate segments))

end Assertion

/-- Evaluates assertions in order. -/
def evaluateAll (assertions : List Assertion) (response : Value) :
    Except Breakdown (List AssertionResult) :=
  assertions.mapM fun assertion => assertion.evaluate response

end ToolFlow
