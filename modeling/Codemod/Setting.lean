import Codemod.Indentation
import Codemod.Linesep
import Codemod.Number.Numeral
import Codemod.Task
import Codemod.Text.Blank
import Codemod.Text.Quoted

set_option autoImplicit false

/-! # Settings given as text

Readers for the values that users give to a tool on its command line or in its environment: counts,
switches, line separators and indentations. Where a value may be left out, the empty text means that
it was. -/

namespace Codemod

/-- Why a value is refused. -/
inductive SettingError where
  | notAnInteger (given : String)
  | notPositive (value : Int)
  | countOutOfRange (value : Int)
  | notASwitch (given : String)
  | notALinesep (given : String)
  | notAnIndentation (given : String)
deriving DecidableEq, Repr

namespace SettingError

/-- The text of a refusal. -/
def message : SettingError → String
  | .notAnInteger given => "expect an integer value, got " ++ Text.quoted given
  | .notPositive value => "expect integer value to be positive, got " ++ toString value
  | .countOutOfRange value => "integer value out of range, got " ++ toString value
  | .notASwitch given => "invalid boolean state value " ++ Text.quoted given
  | .notALinesep given => "invalid linesep value " ++ Text.quoted given
  | .notAnIndentation given => "invalid indentation value " ++ Text.quoted given

end SettingError

namespace Setting

/-- The width of the words that numerals are read into. -/
def numeralBits : Nat := 128

/-- The width of a count. -/
def countBits : Nat := 64

/-- An integer with blanks around it, if a word of `numeralBits` bits holds it. -/
def integer? (s : String) : Option Int :=
  Numeral.signed? numeralBits (Text.trim s.toList)

/-! ## Counts and switches -/

/-- A positive count, or nothing from the empty text. -/
def readCount (s : String) : Except SettingError (Option Nat) :=
  if s.isEmpty then .ok none
  else
    match integer? s with
    | none => .error (.notAnInteger s)
    | some value =>
      if value ≤ 0 then .error (.notPositive value)
      else if value < Nat.pow 2 countBits then .ok (some value.toNat)
      else .error (.countOutOfRange value)

/-- The words that turn a switch on, in lower case. -/
def onWords : List String := ["1", "yes", "y", "true", "on"]

/-- The words that turn a switch off, in lower case. -/
def offWords : List String := ["0", "no", "n", "false", "off"]

/-- The state of a switch, in any case. -/
def readSwitch (s : String) : Except SettingError Bool :=
  let word := Text.lowerAscii s
  if onWords.contains word then .ok true
  else if offWords.contains word then .ok false
  else .error (.notASwitch s)

/-! ## Layout -/

/-- A line separator, as its own text or as its name in any case, or nothing from the empty text. -/
def readLinesep (s : String) : Except SettingError (Option Linesep) :=
  if s.isEmpty then .ok none
  else
    let word := Text.lowerAscii s
    match Linesep.all.find? fun sep => word == sep.text || word == sep.name with
    | some sep => .ok (some sep)
    | none => .error (.notALinesep s)

/-- A line separator where one must be given. -/
def requireLinesep (s : String) : Except SettingError Linesep := do
  match ← readLinesep s with
  | some sep => .ok sep
  | none => .error (.notALinesep s)

/-- The words for a tab, in lower case. -/
def tabWords : List String := ["t", "tab", "\t"]

/-- An indentation, or nothing from the empty text: a word for a tab in any case, the spaces
themselves, or their positive number. -/
def readIndentation (s : String) : Except SettingError (Option Indentation) :=
  if s.isEmpty then .ok none
  else if tabWords.contains (Text.lowerAscii s) then .ok (some .tab)
  else if s.toList.all (· == ' ') then .ok (some (.spaces s.toList.length))
  else
    match integer? s with
    | some value =>
      if 0 < value ∧ value < Nat.pow 2 countBits then .ok (some (.spaces value.toNat))
      else .error (.notAnIndentation s)
    | none => .error (.notAnIndentation s)

/-- What the program says when it ends because a text would be too large. -/
def overflow : String := "capacity overflow"

/-- What becomes of the request to write down the indentation that a setting gives. It is written at
once, which ends in a panic if no text can be so large. -/
def indentationText (s : String) : Outcome (Option String) :=
  match readIndentation s with
  | .error e => .failed [e.message]
  | .ok none => .returned none
  | .ok (some indent) =>
    if indent.Representable then .returned (some indent.text) else .panicked (some overflow)

end Setting

end Codemod
