import ToolFlow.Fault
import ToolFlow.Text.Search

/-!
# Errors that collaborators raise

An error has a class name and arguments. Most show their one argument as plain text, or all of them
between parentheses; look-up errors quote their key, system errors show a number before the text,
and the library's own faults show what they were about. A system error of a general class becomes
one of the class that stands for its number.

Of an error the library records its text, by which it is known to the answers of collaborators. Not
every error has one (`Raised.text`): a fault whose message is no text cannot be shown, and this is a
breakdown of its own.

Errors can come in groups, and groups in groups (`Trouble`). What is reported of a group are its
errors in order.
-/

namespace ToolFlow

/-- An error that a collaborator raises. -/
structure Raised where
  label : String
  args : List Value
  context : Value := .null

namespace Raised

/-! ### Classes -/

/-- The class names of system errors. -/
def systemLabels : List String :=
  ["OSError", "BlockingIOError", "ChildProcessError", "ConnectionError", "BrokenPipeError",
    "ConnectionAbortedError", "ConnectionRefusedError", "ConnectionResetError", "FileExistsError",
    "FileNotFoundError", "InterruptedError", "IsADirectoryError", "NotADirectoryError",
    "PermissionError", "ProcessLookupError", "TimeoutError"]

/-- Other names of the general class of system errors. -/
def generalSystemAliases : List String := ["IOError", "EnvironmentError"]

/-- The general class of system errors. -/
def generalSystemLabel : String := "OSError"

/-- The classes of system errors that stand for numbers. -/
def classOfNumber : List (Int × String) :=
  [(1, "PermissionError"), (2, "FileNotFoundError"), (3, "ProcessLookupError"),
    (4, "InterruptedError"), (10, "ChildProcessError"), (11, "BlockingIOError"),
    (13, "PermissionError"), (17, "FileExistsError"), (20, "NotADirectoryError"),
    (21, "IsADirectoryError"), (32, "BrokenPipeError"), (103, "ConnectionAbortedError"),
    (104, "ConnectionResetError"), (108, "BrokenPipeError"), (110, "TimeoutError"),
    (111, "ConnectionRefusedError"), (114, "BlockingIOError"), (115, "BlockingIOError")]

/-- The class of system errors whose third argument may be a count instead of a file. -/
def blockingLabel : String := "BlockingIOError"

/-- The class of errors that say that a time limit was exceeded. -/
def timeoutLabel : String := "TimeoutError"

/-- Whether arguments are those of a system error with a number and a text. -/
def isNumbered (args : List Value) : Bool :=
  2 ≤ args.length && args.length ≤ 5

/-- The class of a general system error with these arguments. -/
def systemLabel (args : List Value) : String :=
  let named : Option String := match args.head? with
    | some (.number (.int n)) => classOfNumber.lookup n
    | some (.bool b) => classOfNumber.lookup (if b then 1 else 0)
    | _ => none
  if isNumbered args then named.getD generalSystemLabel else generalSystemLabel

/-- What is raised in place of a system error whose third argument is to be a count, if that is no
count. -/
def countProblem? (args : List Value) : Option Raised :=
  match args with
  | _ :: _ :: .number (.float _) :: _ =>
    some ⟨"TypeError", [.text "'float' object cannot be interpreted as an integer"], .null⟩
  | _ :: _ :: .number (.int n) :: _ =>
    if -(2 ^ 63) ≤ n ∧ n < 2 ^ 63 then none
    else some ⟨"ValueError", [.text "cannot fit 'int' into an index-sized integer"], .null⟩
  | _ => none

/-- The error of a class name and arguments. -/
def of (label : String) (args : List Value) (context : Value := .null) : Raised :=
  let label := if generalSystemAliases.contains label then generalSystemLabel else label
  let label := if label == generalSystemLabel then systemLabel args else label
  if label == blockingLabel && isNumbered args then (countProblem? args).getD ⟨label, args, context⟩
  else ⟨label, args, context⟩

/-- The kind of fault that an error is, if it is one. -/
def kind? (raised : Raised) : Option Fault.Kind :=
  Fault.Kind.ofName? raised.label

/-- Whether an error says that a time limit was exceeded. -/
def isTimeout (raised : Raised) : Bool :=
  raised.label == timeoutLabel

/-- What an error that ends a call becomes: none may say that items have run out. -/
def endingCall (raised : Raised) : Raised :=
  if raised.label == "StopIteration" then
    .of "RuntimeError" [.text "coroutine raised StopIteration"]
  else raised

/-- The class name of an error, that of a fault after where it is defined. -/
def fullLabel (raised : Raised) : String :=
  match raised.kind? with
  | some kind => "chainprobe.core.exceptions." ++ kind.name
  | none => raised.label

/-! ### Texts -/

/-- Arguments as most errors show them. -/
def plainText : List Value → String
  | [] => ""
  | [v] => v.display
  | args => "(" ++ commaSeparated (Value.literals args) ++ ")"

/-- The file that a system error names, and the one it was to become. -/
def filesText (label : String) : List Value → String
  | [] => ""
  | file :: others =>
    let isCount := label == blockingLabel && file.asNumber?.isSome
    if file.isNull || isCount then ""
    else
      match others with
      | [_, .null] => s!": {file.literal}"
      | [_, target] => s!": {file.literal} -> {target.literal}"
      | _ => s!": {file.literal}"

/-- Arguments as system errors show them. -/
def systemText (label : String) (args : List Value) : String :=
  match isNumbered args, args with
  | true, number :: text :: files =>
    s!"[Errno {number.display}] {text.display}" ++ filesText label files
  | _, _ => plainText args

/-- The message of a fault: its first argument. -/
def message (raised : Raised) : Value :=
  raised.args.headD (.text "")

/-- The text of a fault, which needs a text for its message unless it shows its context too. -/
def faultText (raised : Raised) : Except Breakdown String :=
  match raised.context.isVacant, raised.message with
  | true, .text s => .ok s
  | true, v =>
    .error (.raised "TypeError" s!"__str__ returned non-string (type {v.typeName})")
  | false, v => .ok (Fault.withContext v.display raised.context)

/-- The text of an error. -/
def text (raised : Raised) : Except Breakdown String :=
  if raised.kind?.isSome then raised.faultText
  else if systemLabels.contains raised.label then .ok (systemText raised.label raised.args)
  else
    match raised.label, raised.args with
    | "KeyError", [key] => .ok key.literal
    | _, args => .ok (plainText args)

/-- What is shown of an error that has no text. -/
def unshowableText : String := "<exception str() failed>"

/-- The lines that report an error. -/
def reportLines (raised : Raised) : List String :=
  let text := raised.text.toOption.getD unshowableText
  Text.lines (raised.fullLabel ++ if text.isEmpty then "" else ": " ++ text)

/-- The error as what ends an attempt: a fault of its kind, or a breakdown. -/
def stop (raised : Raised) : Stop :=
  match raised.kind? with
  | some kind =>
    .fault { kind, message := raised.message.display, context := raised.context }
  | none =>
    match raised.text with
    | .ok text => .breakdown (.raised raised.label text)
    | .error b => .breakdown b

end Raised

/-! ### Groups -/

/-- Trouble: one error, or a group of troubles. -/
inductive Trouble where
  | single (error : Raised)
  | group (message : String) (items : List Trouble)

namespace Trouble

/-- A group of troubles, which has to have some, or the error that stands in its place. -/
def ofGroup (message : String) (items : List Trouble) : Except Raised Trouble :=
  if items.isEmpty then
    .error (.of "ValueError" [.text "second argument (exceptions) must be a non-empty sequence"])
  else .ok (group message items)

mutual

/-- The errors of a trouble in order. -/
def errors : Trouble → List Raised
  | single error => [error]
  | group _ items => errorsOfAll items

/-- The errors of troubles in order. -/
def errorsOfAll : List Trouble → List Raised
  | [] => []
  | trouble :: rest => errors trouble ++ errorsOfAll rest

end

/-- The errors of a trouble, each with its class name. -/
def text (trouble : Trouble) : Except Breakdown String :=
  (trouble.errors.mapM fun (error : Raised) =>
    error.text.map fun text => s!"{error.label}: {text}").map
    (String.intercalate "; ")

end Trouble

end ToolFlow
