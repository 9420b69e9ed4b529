import Codemod.Encoding.Declaration
import Codemod.Indentation
import Codemod.Linesep
import Codemod.TextSource

set_option autoImplicit false

/-! # Detection on inputs

What a transformation wants to know about its input before it starts. A stream is decoded with the
encoding that it declares and is left where it was found; a text is used as it is. -/

namespace Codemod

/-- Why nothing can be detected. -/
inductive DetectionError where
  | source (e : SourceError)
  | fault (f : Encoding.SourceFault)
deriving DecidableEq, Repr

/-- The texts of an error and of its causes, outermost first. -/
def DetectionError.chain : DetectionError → List String
  | .source e => e.chain
  | .fault f => f.chain

/-- What came of a detection: the answer, the stream afterwards, and what was told. -/
structure Detected (α : Type) where
  answer : Except DetectionError α
  stream : Option Stream
  log : List Log.Event
deriving Repr

namespace Detection

/-- The text behind a handle. -/
def textOf : TextSource.Action DetectionError (List Char) := do
  if (← get).isStream then
    let bytes ← ExceptT.adapt .source TextSource.snapshotBytes
    match Encoding.decodeSource bytes with
    | .ok chars => return chars
    | .error fault => throw (.fault fault)
  else
    let text ← ExceptT.adapt .source TextSource.snapshot
    return text.toList

/-- Answer a question about the text of an input. -/
def ask {α : Type} (question : List Char → α) (input : SourceInput) : Detected α :=
  match TextSource.openInput input with
  | .error (e, stream) => { answer := .error (.source e), stream := some stream, log := [] }
  | .ok source =>
    let (result, source) := textOf.run.run source
    let (source, log) := source.drop
    { answer := result.map question, stream := source.stream?, log }

/-- The separator that an input uses. -/
def linesep (input : SourceInput) : Detected Linesep :=
  ask Linesep.detect input

/-- The indentation that an input uses. -/
def indentation (input : SourceInput) : Detected Indentation :=
  ask Indentation.detect input

end Detection

end Codemod
