import Codemod.Encoding.Utf8
import Codemod.Log.Event
import Codemod.Stream

set_option autoImplicit false

/-! # Text sources

One handle over a text or a seekable stream, for transformations that read their input and stage
their output. A stream is rewound when the handle is opened and put back to the place where it was
found when the handle ends, whichever way it ends; a text is copied and never touched. -/

namespace Codemod

/-! ## Errors -/

/-- Why a source cannot be opened or read as a whole. -/
inductive SourceError where
  /-- The stream cannot be put to its start; the text says why. -/
  | unsupported (reason : String)
  | invalidText (fault : Encoding.Utf8.Fault)
  | io (text : String)
deriving DecidableEq, Repr

namespace SourceError

/-- The text of an error. -/
def message : SourceError → String
  | .unsupported reason => "unsupported source kind: " ++ reason
  | .invalidText fault => "source content is not valid UTF-8: " ++ fault.message
  | .io text => "source I/O failed: " ++ text

/-- The texts of an error and of its cause, outermost first. -/
def chain : SourceError → List String
  | .unsupported reason => [message (.unsupported reason)]
  | .invalidText fault => [message (.invalidText fault), fault.message]
  | .io text => [message (.io text), text]

end SourceError

/-- Why a read fails. -/
inductive ReadError where
  | notFilled
  | invalidText
  | io (text : String)
deriving DecidableEq, Repr

/-- The text of a failed read. -/
def ReadError.message : ReadError → String
  | .notFilled => "failed to fill whole buffer"
  | .invalidText => "stream did not contain valid UTF-8"
  | .io text => text

/-! ## Handles -/

/-- What a caller hands over to be read. -/
inductive SourceInput where
  | text (s : String)
  | stream (s : Stream)
deriving DecidableEq, Repr

/-- What a handle reads from. -/
inductive Medium where
  /-- The bytes of a text, with a cursor of their own. -/
  | buffer (bytes : Stream)
  /-- A stream of the caller, where it was found, and whether it was put back. -/
  | stream (s : Stream) (origin : Nat) (restored : Bool)
deriving DecidableEq, Repr

/-- A handle: what it reads from, and the output so far. -/
structure TextSource where
  medium : Medium
  staged : String := ""
deriving DecidableEq, Repr

/-- The form in which an input is shown. -/
def SourceInput.shown : SourceInput → String
  | .text s => "Text(" ++ toString s.utf8ByteSize ++ ")"
  | .stream _ => "Stream"

namespace TextSource

/-- An action on a handle that can fail. The handle is kept in both cases. -/
abbrev Action (ε α : Type) := ExceptT ε (StateM TextSource) α

/-! ## Opening -/

/-- Note where a stream is, and rewind it. -/
def rewind : Stream.Step Nat := do
  let origin ← (ExceptT.adapt ("stream is not seekable: " ++ ·) Stream.tell)
  ExceptT.adapt ("stream cannot be rewound: " ++ ·) (Stream.seek 0)
  return origin

/-- Open a handle. If this fails there is none, and a stream is given back as it then is. -/
def openInput : SourceInput → Except (SourceError × Stream) TextSource
  | .text s => .ok { medium := .buffer (.ofBytes (Encoding.Utf8.encode s.toList) 0) }
  | .stream s =>
    match rewind.run.run s with
    | (.ok origin, s) => .ok { medium := .stream s origin false }
    | (.error reason, s) => .error (.unsupported reason, s)

/-! ## What a handle knows -/

/-- Whether the handle reads from a stream of the caller. -/
def isStream (source : TextSource) : Bool :=
  match source.medium with
  | .buffer _ => false
  | .stream .. => true

/-- The place where a stream was found. -/
def origin (source : TextSource) : Option Nat :=
  match source.medium with
  | .buffer _ => none
  | .stream _ origin _ => some origin

/-- The bytes that are read from. -/
def bytes (source : TextSource) : Stream :=
  match source.medium with
  | .buffer s => s
  | .stream s _ _ => s

/-- The stream that a handle reads from, if it is one of the caller's. -/
def stream? (source : TextSource) : Option Stream :=
  if source.isStream then some source.bytes else none

/-- The form in which a handle is shown. -/
def shown (source : TextSource) : String :=
  let origin := match source.origin with | some n => "Some(" ++ toString n ++ ")" | none => "None"
  "TextSource \x7b stream: " ++ toString source.isStream ++ ", origin: " ++ origin ++ ", staged: "
    ++ toString source.staged.utf8ByteSize ++ " \x7d"

/-! ## Reading -/

/-- Put other bytes in the place of those that are read from. -/
def withBytes (source : TextSource) (bytes : Stream) : TextSource :=
  match source.medium with
  | .buffer _ => { source with medium := .buffer bytes }
  | .stream _ origin restored => { source with medium := .stream bytes origin restored }

/-- A step on the bytes as an action on the handle. -/
def onBytes {ε α : Type} (wrap : String → ε) (step : Stream.Step α) : Action ε α := do
  let source ← get
  let (result, bytes) := step.run.run source.bytes
  set (source.withBytes bytes)
  match result with
  | .ok a => return a
  | .error text => throw (wrap text)

/-- One read of at most `n` bytes. -/
def read (n : Nat) : Action ReadError (List UInt8) :=
  onBytes .io (Stream.read n)

/-- Read `n` bytes, or fail if there are fewer. -/
def readExact (n : Nat) : Action ReadError (List UInt8) := do
  let bytes ← onBytes .io (do Stream.readSome (n + 1) n [])
  if bytes.length < n then throw .notFilled else return bytes

/-- Read all that is left. -/
def readToEnd : Action ReadError (List UInt8) :=
  onBytes .io Stream.readToEnd

/-- Read all that is left as text. -/
def readToString : Action ReadError String := do
  match Encoding.Utf8.decode (← readToEnd) with
  | .ok chars => return String.ofList chars
  | .error _ => throw .invalidText

/-! ## Snapshots -/

/-- Read a stream from its start, and put the cursor back. A failure to put it back counts before a
failure to read. -/
def snapshotStep : Stream.Step (List UInt8) := do
  let cursor ← Stream.tell
  Stream.seek 0
  let result ← tryCatch (Except.ok <$> Stream.readToEnd) (fun text => return .error text)
  Stream.seek cursor
  match result with
  | .ok bytes => return bytes
  | .error text => throw text

/-- The whole content; the cursor stays where it is. -/
def snapshotBytes : Action SourceError (List UInt8) := do
  match (← get).medium with
  | .buffer s => return s.content
  | .stream .. => onBytes .io snapshotStep

/-- The whole content as text. -/
def snapshot : Action SourceError String := do
  match Encoding.Utf8.decode (← snapshotBytes) with
  | .ok chars => return String.ofList chars
  | .error fault => throw (.invalidText fault)

/-! ## Output -/

/-- Add to the staged output. -/
def write (source : TextSource) (text : String) : TextSource :=
  { source with staged := source.staged ++ text }

/-! ## Ending -/

/-- Put a stream back where it was found, unless that was tried before. -/
def restore : Action String Unit := do
  let source ← get
  match source.medium with
  | .stream s origin false =>
    set { source with medium := .stream s origin true }
    onBytes id (Stream.seek origin)
  | _ => return ()

/-- What is told when a stream cannot be put back at the end of a handle. -/
def restoreWarning (text : String) : Log.Event :=
  { level := .warn, message := "failed to restore stream position: " ++ text }

/-- Let go of a handle. A stream that cannot be put back is only warned about. -/
def drop (source : TextSource) : TextSource × List Log.Event :=
  match restore.run.run source with
  | (.ok (), source) => (source, [])
  | (.error text, source) => (source, [restoreWarning text])

/-- Let go of a handle and take its output. -/
def intoOutput (source : TextSource) : String × TextSource × List Log.Event :=
  (source.staged, source.drop)

/-- Put a stream back and take the output; here a stream that cannot be put back is an error. -/
def close (source : TextSource) : Except SourceError String × TextSource × List Log.Event :=
  match restore.run.run source with
  | (.ok (), source) => (.ok source.staged, source.drop)
  | (.error text, source) => (.error (.io text), source.drop)

/-! ## Scopes -/

/-- Run a transformation inside a scope. The handle is let go of afterwards, whatever the
transformation comes to; that it panics is one of the things it can come to. -/
def within {α : Type} (input : SourceInput) (body : StateM TextSource α) :
    Except (SourceError × Stream) (α × TextSource × List Log.Event) :=
  match openInput input with
  | .error e => .error e
  | .ok source =>
    let (a, source) := body.run source
    .ok (a, source.drop)

end TextSource

end Codemod
