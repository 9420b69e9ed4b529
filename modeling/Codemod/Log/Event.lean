import Codemod.Text.Literal

set_option autoImplicit false

/-! # Log events

An event has a level, a target, a message and fields. Each level has its own form of line: messages
for the user come bare or with one word in front, those for developers with their level and a time
stamp. -/

namespace Codemod.Log

/-- How important an event is. -/
inductive Level where
  | trace
  | debug
  | info
  | warn
  | error
deriving DecidableEq, Repr

/-- The value of a field. -/
inductive FieldValue where
  | integer (n : Int)
  | text (s : String)
deriving DecidableEq, Repr

/-- Something to tell. -/
structure Event where
  level : Level
  message : String
  target : String := ""
  fields : List (String × FieldValue) := []
deriving DecidableEq, Repr

namespace Level

/-- The levels from the most to the least important. -/
def rank : Level → Nat
  | .error => 1
  | .warn => 2
  | .info => 3
  | .debug => 4
  | .trace => 5

/-- The name of a level. -/
def name : Level → String
  | .trace => "TRACE"
  | .debug => "DEBUG"
  | .info => "INFO"
  | .warn => "WARN"
  | .error => "ERROR"

/-- What stands before the message; `stamp` is the time. -/
def lead (level : Level) (stamp : String) : String :=
  match level with
  | .info => ""
  | .warn => "Warning: "
  | .error => "Error: "
  | level => "[" ++ level.name ++ "] " ++ stamp ++ " "

end Level

/-! ## Escapes -/

/-- A character of a message: control characters that could steer a terminal are written out. -/
def escapeControl (c : Char) : List Char :=
  let n := c.toNat
  if n == 0x1B then "\\x1b".toList
  else if n == 7 then "\\x07".toList
  else if n == 8 then "\\x08".toList
  else if n == 12 then "\\x0c".toList
  else if n == 0x7F then "\\x7f".toList
  else if 0x80 ≤ n && n ≤ 0x9F then Text.codePointEscape c
  else [c]

/-- A message as it is written. -/
def escapeMessage (s : String) : String :=
  String.ofList (s.toList.flatMap escapeControl)

/-! ## Lines -/

/-- The text of a field. -/
def FieldValue.shown : FieldValue → String
  | .integer n => toString n
  | .text s => Text.literal s

/-- The line of an event, with its end. -/
def Event.line (e : Event) (stamp : String) : String :=
  let fields := e.fields.map fun f => " " ++ f.1 ++ "=" ++ f.2.shown
  e.level.lead stamp ++ escapeMessage e.message ++ String.join fields ++ "\n"

end Codemod.Log
