import Codemod.TextSource

set_option autoImplicit false

/-! # Operations on a text source

What a transformation does with a handle as data: one operation after another, each with an answer,
and then one of the ways in which the handle ends. `Session.run` is the whole life of a handle. -/

namespace Codemod.TextSource

/-! ## Operations -/

/-- What can be done with a handle. -/
inductive Operation where
  | isStream
  | origin
  | snapshot
  | snapshotBytes
  /-- One read of at most `n` bytes. -/
  | read (n : Nat)
  | readExact (n : Nat)
  | readToEnd
  | readToString
  | write (text : String)
  /-- Look at the staged output. -/
  | output
  | describe
deriving DecidableEq, Repr

/-- What an operation answers. -/
inductive Answer where
  | done
  | flag (b : Bool)
  | place (origin : Option Nat)
  | text (s : String)
  | bytes (bytes : List UInt8)
  | sourceFailure (e : SourceError)
  | readFailure (e : ReadError)
deriving DecidableEq, Repr

/-- Do something that can fail, and answer in either case. -/
def answering {ε α : Type} (success : α → Answer) (failure : ε → Answer) (action : Action ε α) :
    StateM TextSource Answer := do
  match ← action.run with
  | .ok a => return success a
  | .error e => return failure e

/-- Do one operation. -/
def perform : Operation → StateM TextSource Answer
  | .isStream => return .flag (← get).isStream
  | .origin => return .place (← get).origin
  | .snapshot => answering .text .sourceFailure TextSource.snapshot
  | .snapshotBytes => answering .bytes .sourceFailure TextSource.snapshotBytes
  | .read n => answering .bytes .readFailure (TextSource.read n)
  | .readExact n => answering .bytes .readFailure (TextSource.readExact n)
  | .readToEnd => answering .bytes .readFailure TextSource.readToEnd
  | .readToString => answering .text .readFailure TextSource.readToString
  | .write text => do
    modify (·.write text)
    return .done
  | .output => return .text (← get).staged
  | .describe => return .text (← get).shown

/-- Do several operations, one after another. -/
def performAll : List Operation → StateM TextSource (List Answer)
  | [] => return []
  | op :: rest => do
    let answer ← perform op
    return answer :: (← performAll rest)

/-! ## Sessions -/

/-- How a handle ends. -/
inductive Ending where
  | drop
  | intoOutput
  | close
deriving DecidableEq, Repr

/-- How a body inside a scope ends. -/
inductive Finish where
  | returns
  | panics
deriving DecidableEq, Repr

/-- What is left of a handle. -/
structure Session (α : Type) where
  answers : List Answer
  result : α
  /-- The stream that was handed over, as it is afterwards. -/
  stream : Option Stream
  log : List Log.Event
deriving Repr

/-- End a handle: the staged output, if the ending asks for it. -/
def finish (source : TextSource) :
    Ending → Except SourceError (Option String) × TextSource × List Log.Event
  | .drop => (.ok none, source.drop)
  | .intoOutput =>
    let (output, rest) := source.intoOutput
    (.ok (some output), rest)
  | .close =>
    let (output, rest) := source.close
    (output.map some, rest)

namespace Session

/-- Open a handle, do some operations, and end it. -/
def run (input : SourceInput) (ops : List Operation) (ending : Ending) :
    Except (SourceError × Stream) (Session (Except SourceError (Option String))) :=
  match openInput input with
  | .error e => .error e
  | .ok source =>
    let (answers, source) := (performAll ops).run source
    let (result, source, log) := source.finish ending
    .ok { answers, result, stream := source.stream?, log }

/-- Do some operations inside a scope. A body that returns gives the size of the staged output. -/
def runWithin (input : SourceInput) (ops : List Operation) (finish : Finish) :
    Except (SourceError × Stream) (Session (Option Nat)) :=
  let body : StateM TextSource (List Answer × Option Nat) := do
    let answers ← performAll ops
    let size := (← get).staged.utf8ByteSize
    return (answers, match finish with | .returns => some size | .panics => none)
  (within input body).map fun ((answers, result), source, log) =>
    { answers, result, stream := source.stream?, log }

end Session

end Codemod.TextSource
