set_option autoImplicit false

/-! # Seekable streams

Bytes with a cursor that can be read and moved, and that come in pieces of any size. A stream may be
faulty: some of its seek calls fail, counted over its life, and reads fail from some place on. A
failing call does not move the cursor, and the content never changes. -/

namespace Codemod

/-- A stream. -/
structure Stream where
  content : List UInt8
  /-- The cursor, which may lie beyond the end. -/
  position : Nat := 0
  /-- How many seek calls were made. -/
  seekCalls : Nat := 0
  /-- The seek calls that fail, counted from one. -/
  failingSeeks : List Nat := []
  /-- The place from which on reads fail. -/
  failReadAt : Option Nat := none
  /-- The most bytes that one read gives. -/
  chunk : Option Nat := none
  /-- The places that no read goes past. -/
  stops : List Nat := []
  /-- The text of a failing seek. -/
  seekFault : String := "seek failed"
  /-- The text of a failing read. -/
  readFault : String := "read failed"
deriving DecidableEq, Repr

namespace Stream

/-- A step on a stream that can fail with a text. The stream is kept in both cases. -/
abbrev Step (α : Type) := ExceptT String (StateM Stream) α

/-- A stream without faults that gives as many bytes as it is asked for. -/
def ofBytes (content : List UInt8) (position : Nat) : Stream :=
  { content, position }

/-! ## Moving the cursor -/

/-- Count a seek call, and fail if it is one of those that do. -/
def countSeek : Step Unit := do
  let s ← get
  set { s with seekCalls := s.seekCalls + 1 }
  if s.failingSeeks.contains (s.seekCalls + 1) then throw s.seekFault

/-- The place of the cursor; asking for it is a seek call. -/
def tell : Step Nat := do
  countSeek
  return (← get).position

/-- Move the cursor. -/
def seek (position : Nat) : Step Unit := do
  countSeek
  modify fun s => { s with position }

/-! ## Reading -/

/-- The bytes that one read of at most `n` bytes gives at the cursor. -/
def available (s : Stream) (n : Nat) : List UInt8 :=
  let untilFault := match s.failReadAt with | some at' => at' - s.position | none => n
  let perRead := s.chunk.getD n
  let untilStop := (s.stops.filter (s.position < ·)).foldl (fun most stop =>
    min most (stop - s.position)) n
  (s.content.drop s.position).take (min untilStop (min untilFault perRead))

/-- Whether a read at the cursor fails. -/
def isFaulty (s : Stream) : Bool :=
  match s.failReadAt with
  | some at' => at' ≤ s.position
  | none => false

/-- One read of at most `n` bytes; no bytes at the end of the content. -/
def read (n : Nat) : Step (List UInt8) := do
  let s ← get
  if s.isFaulty then throw s.readFault
  let bytes := s.available n
  set { s with position := s.position + bytes.length }
  return bytes

/-- Read until a read gives nothing. The fuel bounds the number of reads. -/
def readAll : Nat → List UInt8 → Step (List UInt8)
  | 0, acc => return acc
  | fuel + 1, acc => do
    let bytes ← read ((← get).content.length + 1)
    if bytes.isEmpty then return acc else readAll fuel (acc ++ bytes)

/-- The bytes from the cursor to the end. -/
def readToEnd : Step (List UInt8) := do
  readAll ((← get).content.length + 1) []

/-- Read until there are `n` bytes or a read gives nothing. -/
def readSome : Nat → Nat → List UInt8 → Step (List UInt8)
  | 0, _, acc => return acc
  | _, 0, acc => return acc
  | fuel + 1, n, acc => do
    let bytes ← read n
    if bytes.isEmpty then return acc else readSome fuel (n - bytes.length) (acc ++ bytes)

end Stream

end Codemod
