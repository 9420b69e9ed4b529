import Codemod.Config.Environment
import Codemod.Json.Mismatch
import Codemod.Log.Event
import Codemod.Setting
import Codemod.Strategy
import Codemod.Toml.Parser

set_option autoImplicit false

/-! # The configuration of a session

How many jobs, whether they share something, and whether they may run in parallel. Each setting
comes from the highest layer that names it; numbers and words are read the same way in all of them.
-/

namespace Codemod

/-- The configuration of a session. -/
structure DispatchConfig where
  /-- The number of workers; nothing stands for one on each processor. -/
  jobs : Option Nat := none
  /-- Whether the tasks write to something that needs a lock. -/
  shared : Bool := false
  /-- Whether threads may be used. -/
  parallel : Bool := true
deriving DecidableEq, Repr

namespace Config

/-- The name of the file with the configuration. -/
def fileName : String := "bpc.toml"

/-! ## Settings -/

/-- What a setting is read from, whatever notation it was written in. -/
inductive Scalar where
  | absent
  | integer (n : Int)
  | bool (b : Bool)
  | text (s : String)
  | other
deriving DecidableEq, Repr

/-- Why a setting is refused. -/
inductive Refusal where
  /-- Its value is of a kind that is never accepted. -/
  | kind (expected : String)
  | setting (error : SettingError)
  /-- A number stands where a switch should be. -/
  | notASwitch (n : Int)
deriving DecidableEq, Repr

/-- What may stand for a number of jobs. -/
def expectedJobs : String := "a positive worker count, 0 or an empty string"

/-- What may stand for a switch. -/
def expectedSwitch : String := "a boolean state such as true, yes, on, 1, false, no, off or 0"

/-- A number of jobs as a setting: none is the same as nothing. -/
def normalJobs (n : Nat) : Option Nat :=
  if n = 0 then none else some n

/-- Read a number of jobs. -/
def readJobs : Scalar → Except Refusal (Option Nat)
  | .absent => .ok none
  | .integer n =>
    if n < 0 then .error (.setting (.notPositive n)) else .ok (normalJobs n.toNat)
  | .text s =>
    let s := Text.trimString s
    if s = "0" then .ok none else (Setting.readCount s).mapError .setting
  | .bool _ | .other => .error (.kind expectedJobs)

/-- Read a switch. -/
def readSwitch : Scalar → Except Refusal Bool
  | .bool b => .ok b
  | .integer n =>
    if n = 0 then .ok false else if n = 1 then .ok true else .error (.notASwitch n)
  | .text s => (Setting.readSwitch (Text.trimString s)).mapError .setting
  | .absent | .other => .error (.kind expectedSwitch)

/-- The text of a refusal, given how the value is described where it stands. -/
def Refusal.message (describe : String → String) : Refusal → String
  | .kind expected => describe expected
  | .setting e => e.message
  | .notASwitch n => "invalid boolean state value " ++ toString n

/-! ## Layered sources -/

/-- What a value of a source is to a setting. -/
def Value.scalar : Value → Scalar
  | .text s => .text s
  | .bool b => .bool b
  | .integer n => .integer n
  | .float _ | .sequence | .table _ => .other

/-- What a value of a source is, in words. -/
def Value.described : Value → String
  | .text s => "string " ++ Text.literal s
  | .bool b => "bool " ++ toString b
  | .integer n => "signed int `" ++ toString n ++ "`"
  | .float x => "float `" ++ x.text ++ "`"
  | .sequence => "sequence"
  | .table _ => "map"

/-- Why there is no configuration. -/
inductive Error where
  /-- A document cannot be read, or is none. -/
  | source
  /-- The value of a key is refused. -/
  | value (key : String) (found : Value) (refusal : Refusal)

/-- The text for a refused value. -/
def refusedText (found : Value) (refusal : Refusal) : String :=
  refusal.message fun expected =>
    "invalid type: found " ++ found.described ++ ", expected " ++ expected

/-- Read the setting of a key, if the key is there. -/
def field {α : Type} (ms : Members) (key : String) (standard : α)
    (read : Scalar → Except Refusal α) : Except Error α :=
  match ms.get? key with
  | none => .ok standard
  | some v => (read v.scalar).mapError (.value key v)

/-- The configuration in a table. Keys that mean nothing are passed over, and of several faults the
one with the first key counts. -/
def ofMembers (ms : Members) : Except Error DispatchConfig := do
  let jobs ← field ms "jobs" none readJobs
  let parallel ← field ms "parallel" true readSwitch
  let shared ← field ms "shared" false readSwitch
  return { jobs, shared, parallel }

/-- The lowest layer. -/
def defaults : Members := [("shared", .bool false), ("parallel", .bool true)]

/-- The table of a document. -/
def ofDocument (text : List Char) : Except Error Members :=
  match Toml.parse? text with
  | some ms => .ok (ofTomlMembers ms)
  | none => .error .source

/-- Put documents over the lowest layer one by one, or under it if what is there first wins. -/
def layered (firstWins : Bool) (documents : List (List Char)) : Except Error Members :=
  documents.foldlM (fun ms text => do
    let more ← ofDocument text
    return if firstWins then overMembers ms more else overMembers more ms) defaults

/-- The configuration from a document, if there is one, and an environment. -/
def load (document : Option (Except Error (List Char))) (env : List (String × String)) :
    Except Error DispatchConfig := do
  let ms ← match document with
    | none => pure []
    | some text => text.bind ofDocument
  let ms := overMembers ms defaults
  ofMembers (overMembers (Environment.settings env) ms)

/-! ## Stored configurations -/

/-- What a JSON value is to a setting. -/
def scalarOf : Json → Scalar
  | .null => .absent
  | .bool b => .bool b
  | .number (.natural n) => .integer n
  | .number (.negative n) => .integer (-(n : Int))
  | .string s => .text s
  | .number (.double _) | .array _ | .object _ => .other

/-- Read a setting from a JSON value, if there is one. -/
def stored {α : Type} (value : Option Json) (standard : α) (read : Scalar → Except Refusal α) :
    Except Json.Mismatch α :=
  match value with
  | none => .ok standard
  | some j =>
    (read (scalarOf j)).mapError fun
      | .kind expected => .kind j expected
      | refusal => .content (refusal.message id)

/-- The configuration that a JSON value stands for: an object with the settings by name, or an array
with the first settings in order. -/
def ofJson : Json → Except Json.Mismatch DispatchConfig
  | .object ms => do
    let jobs ← stored (Json.find? ms "jobs") none readJobs
    let parallel ← stored (Json.find? ms "parallel") true readSwitch
    let shared ← stored (Json.find? ms "shared") false readSwitch
    return { jobs, shared, parallel }
  | .array items => do
    let jobs ← stored items[0]? none readJobs
    let shared ← stored items[1]? false readSwitch
    let parallel ← stored items[2]? true readSwitch
    if 3 < items.length then .error (.surplus items.length)
    else return { jobs, shared, parallel }
  | j => .error (.kind j "struct DispatchConfig")

/-- The JSON value that a configuration is stored as. -/
def toJson (c : DispatchConfig) : Json :=
  .object
    [("jobs", match c.jobs with | some n => .ofNat n | none => .null),
      ("shared", .bool c.shared), ("parallel", .bool c.parallel)]

/-! ## Use -/

/-- The options of a session on a host. -/
def options (c : DispatchConfig) (capabilities : Capabilities) : DispatchOptions :=
  { jobs := c.jobs, shared := c.shared, parallel := c.parallel, capabilities }

/-- The form in which a configuration is shown. -/
def shown (c : DispatchConfig) : String :=
  "DispatchConfig \x7b jobs: " ++ shownCount c.jobs ++ ", shared: " ++ toString c.shared ++
    ", parallel: " ++ toString c.parallel ++ " \x7d"

/-- What the log is told about a configuration. -/
def announced (c : DispatchConfig) : Log.Event :=
  { level := .trace, message := "dispatch config: " ++ shown c }

end Config

end Codemod
