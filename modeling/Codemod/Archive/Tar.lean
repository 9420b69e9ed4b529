import Codemod.Archive.Member
import Codemod.Archive.Source
import Codemod.Number.Numeral
import Codemod.Text.Blank

set_option autoImplicit false

/-! # Archives as rows of blocks

The tar format: each member has a header of one block, and its data fill whole blocks. Members can
be described by others before them, when a path is too long for a header. The archive ends with a
block of zeros or with its last byte. -/

namespace Codemod.Archive.Tar

/-! ## Headers -/

/-- The size of a block. -/
def blockSize : Nat := 512

/-- A part of a header. -/
def part (header : List UInt8) (start length : Nat) : List UInt8 :=
  (header.drop start).take length

/-- The bytes before the first zero. -/
def upToZero (bytes : List UInt8) : List UInt8 := bytes.takeWhile (· != 0)

/-- The value of a row of octal digits. -/
def octalValue (ds : List Char) : Option Nat :=
  if ds.isEmpty || !ds.all fun c => '0' ≤ c && c ≤ '7' then none
  else some (ds.foldl (fun n c => 8 * n + (c.toNat - '0'.toNat)) 0)

/-- The number in a field, in octal digits. -/
def octal? (field : List UInt8) : Option Nat :=
  match Encoding.Utf8.decode (upToZero field) with
  | .error _ => none
  | .ok s =>
    let n := octalValue (match Text.trim s with | '+' :: ds => ds | ds => ds)
    n.filter (· < 0x10000000000000000)

/-- The size in a field: octal digits, or the last bytes of the field if its first bit is set. -/
def size? (field : List UInt8) : Option Nat :=
  match field with
  | b :: _ =>
    if 0x80 ≤ b then some (bigEndian (field.drop (field.length - 8))) else octal? field
  | [] => none

/-- The sum of the bytes of a header, blanks in the place of the sum. -/
def sumOf (header : List UInt8) : Nat :=
  (header.take 148 ++ header.drop 156).foldr (fun b n => b.toNat + n) (8 * 0x20)

/-- Whether the sum in a header is right. -/
def hasRightSum (header : List UInt8) : Bool :=
  (octal? (part header 148 8)).map (· % 0x100000000) == some (sumOf header)

/-- Whether a header is of the standard form. -/
def isStandard (header : List UInt8) : Bool :=
  part header 257 8 == [0x75, 0x73, 0x74, 0x61, 0x72, 0, 0x30, 0x30]

/-- Whether a header is of the older form that has the same fields. -/
def isOlder (header : List UInt8) : Bool :=
  part header 257 8 == [0x75, 0x73, 0x74, 0x61, 0x72, 0x20, 0x20, 0]

/-- The mode in a header, if it is a number. -/
def mode? (header : List UInt8) : Option Nat := octal? (part header 100 8)

/-- The letter for the kind of a member. -/
def letter (header : List UInt8) : Char :=
  Char.ofNat ((part header 156 1).headD 0).toNat

/-- The path in a header; the standard form can have a part to go in front of it. -/
def ownPath (header : List UInt8) : List UInt8 :=
  let name := upToZero (part header 0 100)
  let front := upToZero (part header 345 155)
  if isStandard header && !front.isEmpty then front ++ Path.separator :: name else name

/-- The target of a link in a header. -/
def ownTarget (header : List UInt8) : List UInt8 := upToZero (part header 157 100)

/-! ## Descriptions -/

/-- What members have said about the one after them. -/
structure Description where
  path : Option (List UInt8) := none
  target : Option (List UInt8) := none
  records : Option (List UInt8) := none
deriving DecidableEq, Repr

/-- The number of decimal digits, if they are nothing else. -/
def decimal? (bytes : List UInt8) : Option Nat :=
  Numeral.unsigned? 64 (bytes.map fun b => Char.ofNat b.toNat)

/-- The key and the value of a record: its length with the end of the line, a blank, and both with
an equals sign between them. -/
def record? (line : List UInt8) : Option (List UInt8 × List UInt8) := do
  let length ← decimal? (line.takeWhile (· != 0x20))
  let pair := (line.dropWhile (· != 0x20)).drop 1
  let key := pair.takeWhile (· != 0x3D)
  if line.contains 0x20 && line.length + 1 == length && pair.contains 0x3D then
    some (key, pair.drop (key.length + 1))
  else none

/-- The records of a description, up to the first empty line; nothing stands for a faulty one. -/
def Description.lines (d : Description) : List (Option (List UInt8 × List UInt8)) :=
  ((Text.split 0x0A (d.records.getD [])).takeWhile (!·.isEmpty)).map record?

/-- The value of a key in the first record that has it, faulty ones being passed over. -/
def Description.value? (d : Description) (key : String) : Option (List UInt8) :=
  ((d.lines.filterMap id).find? fun r => r.1 == Name.ofString key).map (·.2)

/-- The size in a description, if no record before it is faulty. -/
def Description.size? (d : Description) : Option Nat :=
  match d.lines.find? fun r => r.all fun r => r.1 == Name.ofString "size" with
  | some (some (_, value)) => decimal? value
  | _ => none

/-- Bytes without one zero at their end. -/
def dropLastZero (bytes : List UInt8) : List UInt8 :=
  if bytes.getLast? = some 0 then bytes.dropLast else bytes

/-- The path of a member. -/
def pathOf (about : Description) (header : List UInt8) : Path :=
  ⟨match about.path with
    | some p => dropLastZero p
    | none => (about.value? "path").getD (ownPath header)⟩

/-- The target of a link. -/
def targetOf (about : Description) (header : List UInt8) : Path :=
  ⟨match about.target with
    | some p => dropLastZero p
    | none => (about.value? "linkpath").getD (ownTarget header)⟩

/-! ## Members -/

/-- The member with a header and data. Whatever is of no known kind is a file; in older archives a
path with a slash at its end is one of a directory. -/
def member (about : Description) (header data : List UInt8) : Member :=
  let path := pathOf about header
  let kind : Kind :=
    match letter header with
    | '1' => .sameAs (targetOf about header)
    | '2' => .link (targetOf about header)
    | '5' => .directory true (mode? header)
    | 'g' | 'x' | 'L' | 'K' => .remark
    | _ =>
      if !isStandard header && path.endsInSeparator then .directory false (mode? header)
      else .file (.bytes data) (mode? header)
  { path, kind }

/-- What is known about the next member after one that may describe it; nothing if it says what has
been said already. -/
def describe (about : Description) (header data : List UInt8) :
    Option (Description ⊕ Member) :=
  if isStandard header || isOlder header then
    match letter header with
    | 'L' => if about.path.isSome then none else some (.inl { about with path := some data })
    | 'K' => if about.target.isSome then none else some (.inl { about with target := some data })
    | 'x' => if about.records.isSome then none else some (.inl { about with records := some data })
    | _ => some (.inr (member about header data))
  else some (.inr (member about header data))

/-- The size of the data of a member. A size that was described before it counts for the member that
is described, and not for others that stand between. -/
def dataSize? (about : Description) (header : List UInt8) : Option Nat :=
  (size? (part header 124 12)).map fun n =>
    if "gxLK".toList.contains (letter header) then n else about.size?.getD n

/-- A size filled up to whole blocks. -/
def filled (n : Nat) : Nat := (n + blockSize - 1) / blockSize * blockSize

/-! ## Files with holes -/

/-- Where a run of data starts in a file, and its length. -/
structure Run where
  start : Nat
  length : Nat
deriving DecidableEq, Repr

/-- A number of runs, one after another. A run is not there if one of its fields is empty. -/
def runs? : Nat → List UInt8 → Option (List Run)
  | 0, _ => some []
  | n + 1, bytes => do
    let rest ← runs? n (bytes.drop 24)
    if bytes.head? = some 0 ∨ (bytes.drop 12).head? = some 0 then some rest
    else
      let start ← octal? (bytes.take 12)
      let length ← octal? ((bytes.drop 12).take 12)
      some (⟨start, length⟩ :: rest)

/-- How many more blocks with runs follow a header. Each one says whether there is a next one. -/
def furtherBlocks : Bool → Nat → List UInt8 → Nat
  | false, _, _ => 0
  | true, 0, _ => 0
  | true, fuel + 1, bytes =>
    1 + furtherBlocks ((bytes.drop 504).head? == some 1) fuel (bytes.drop blockSize)

/-- All runs of a file: four in its header, and those in the blocks after it. -/
def allRuns? (header : List UInt8) : Nat → List UInt8 → Option (List Run)
  | 0, _ => runs? 4 (header.drop 386)
  | n + 1, blocks => do
    let first ← allRuns? header n blocks
    let more ← runs? 21 (blocks.drop (n * blockSize))
    some (first ++ more)

/-- Put runs of data in their places, with zeros between them. Runs come in order, each one from the
start of a block, and the data are used up by them. -/
def spread : List Run → Nat → Nat → List UInt8 → Option (List UInt8)
  | [], _, _, data => if data.isEmpty then some [] else none
  | r :: rest, used, position, data =>
    if r.length ≠ 0 ∧ used % blockSize ≠ 0 ∨ r.start < position ∨ data.length < r.length then none
    else
      (spread rest (used + r.length) (r.start + r.length) (data.drop r.length)).map fun more =>
        List.replicate (r.start - position) 0 ++ data.take r.length ++ more

/-- How long a file with holes can be. -/
def holedLimit : Nat := 0x1000000

/-- The content of a file with holes and how many bytes it takes up after its header. The header
says how long the file is. -/
def holed? (header body : List UInt8) (size : Nat) : Option (List UInt8 × Nat) := do
  let length ← octal? (part header 483 12)
  let blocks := furtherBlocks ((header.drop 482).head? == some 1) (body.length + 1) body
  let runs ← allRuns? header blocks body
  let taken := blocks * blockSize + filled size
  let ends := runs.getLast?.elim 0 fun r => r.start + r.length
  if !isOlder header ∨ length ≠ ends ∨ holedLimit < length ∨ body.length < taken then none
  else
    let content ← spread runs 0 0 ((body.drop (blocks * blockSize)).take size)
    some (content, taken)

/-- The data of a member and how many bytes they take up after its header. -/
def data? (header body : List UInt8) (size : Nat) : Option (List UInt8 × Nat) :=
  if letter header = 'S' then holed? header body size
  else if body.length < filled size then none
  else some (body.take size, filled size)

/-- The members of an archive, if it is in order. -/
def membersFrom (about : Description) (s : Source) : Option (List Member) :=
  if s.bytes.isEmpty then
    if s.sound && about == {} then some [] else none
  else if _ : s.bytes.length < blockSize then none
  else
    let header := s.bytes.take blockSize
    if header.all (· == 0) then
      if about == {} then some [] else none
    else if !hasRightSum header then none
    else
      match dataSize? about header with
      | none => none
      | some size =>
        let body := s.bytes.drop blockSize
        match data? header body size with
        | none => none
        | some (data, taken) =>
          let rest := { s with bytes := body.drop taken }
          match describe about header data with
          | none => none
          | some (.inl about) => membersFrom about rest
          | some (.inr m) => (membersFrom {} rest).map (m :: ·)
termination_by s.bytes.length
decreasing_by
  all_goals
    simp only [List.length_drop, blockSize] at *
    omega

/-- The members of an archive, if it is in order. -/
def members (s : Source) : Option (List Member) := membersFrom {} s

end Codemod.Archive.Tar
