set_option autoImplicit false

/-! # Compressed data

Decompression of the deflate format. The input is a row of bits, each byte giving its lowest bit
first. Blocks hold bytes as they are, or symbols of prefix codes that stand for bytes and for
repetitions of what came before. -/

namespace Codemod.Archive.Inflate

/-! ## Bits -/

/-- The bits of a byte, the lowest first. -/
def bitsOf (b : UInt8) : List Bool :=
  (List.range 8).map fun i => b.toNat.testBit i

/-- The number that bits denote, the lowest first. -/
def number : List Bool → Nat
  | [] => 0
  | b :: rest => b.toNat + 2 * number rest

/-- The bytes of bits. Bits that make no whole byte are left out. -/
def bytesOf : List Bool → List UInt8
  | a :: b :: c :: d :: e :: f :: g :: h :: rest =>
    UInt8.ofNat (number [a, b, c, d, e, f, g, h]) :: bytesOf rest
  | _ => []

/-- Bits after which a whole number of bytes remains. -/
def align (bits : List Bool) : List Bool := bits.drop (bits.length % 8)

/-- Why decompression stops before its end. -/
inductive Stop where
  /-- The input ends too early. -/
  | truncated
  | corrupt
deriving DecidableEq, Repr

/-- Take a number of bits. -/
def take (n : Nat) (bits : List Bool) : Except Stop (Nat × List Bool) :=
  if (bits.take n).length < n then .error .truncated
  else .ok (number (bits.take n), bits.drop n)

/-! ## Prefix codes -/

/-- A prefix code as a tree: at each bit the way goes left or right. -/
inductive Code where
  | none
  | symbol (n : Nat)
  | branch (zero one : Code)
deriving Repr

namespace Code

/-- Put a symbol at the end of a way. -/
def insert (code : Code) (way : List Bool) (n : Nat) : Code :=
  match way with
  | [] => .symbol n
  | b :: rest =>
    let (zero, one) := match code with
      | .branch zero one => (zero, one)
      | _ => (.none, .none)
    if b then .branch zero (one.insert rest n) else .branch (zero.insert rest n) one

/-- The next symbol. -/
def decode : Code → List Bool → Except Stop (Nat × List Bool)
  | .none, _ => .error .corrupt
  | .symbol n, bits => .ok (n, bits)
  | .branch _ _, [] => .error .truncated
  | .branch zero one, b :: bits => if b then one.decode bits else zero.decode bits

/-- The bits of a number, the highest first. -/
def way (length n : Nat) : List Bool :=
  ((List.range length).map fun i => n.testBit i).reverse

/-- The longest way in a code. -/
def maxLength : Nat := 15

/-- Whether every row of bits starts with the way to a symbol. -/
def isFull (lengths : List Nat) : Bool :=
  (lengths.filter (0 < ·)).foldr (fun l n => Nat.pow 2 (maxLength - l) + n) 0 == Nat.pow 2 maxLength

/-- The code in which the symbols of each length are numbered in order, after all shorter ones. It
must be full, unless it has no symbol or only one, whose way is a single bit. -/
def ofLengths (lengths : List Nat) : Except Stop Code :=
  let used := lengths.filter (0 < ·)
  if !(isFull lengths || used.isEmpty || used == [1]) then .error .corrupt
  else
    let symbols := lengths.zipIdx
    let (code, _) := (List.range maxLength).foldl (fun (code, next) i =>
      let length := i + 1
      let (code, next) := symbols.foldl (fun (code, next) (l, n) =>
        if l = length then (insert code (way length next) n, next + 1) else (code, next))
        (code, 2 * next)
      (code, next)) (Code.none, 0)
    .ok code

end Code

/-! ## Symbols -/

/-- The smallest length of each symbol that stands for a repetition, and its number of extra
bits. -/
def lengthTable : List (Nat × Nat) :=
  [(3, 0), (4, 0), (5, 0), (6, 0), (7, 0), (8, 0), (9, 0), (10, 0), (11, 1), (13, 1), (15, 1),
    (17, 1), (19, 2), (23, 2), (27, 2), (31, 2), (35, 3), (43, 3), (51, 3), (59, 3), (67, 4),
    (83, 4), (99, 4), (115, 4), (131, 5), (163, 5), (195, 5), (227, 5), (258, 0)]

/-- The smallest distance of each symbol, and its number of extra bits. -/
def distanceTable : List (Nat × Nat) :=
  (1, 0) :: (2, 0) :: (3, 0) :: (4, 0) ::
    ((List.range 13).flatMap fun i =>
      [(2 * Nat.pow 2 (i + 1) + 1, i + 1), (3 * Nat.pow 2 (i + 1) + 1, i + 1)])

/-- A number of a table, with its extra bits. -/
def extended (table : List (Nat × Nat)) (symbol : Nat) (bits : List Bool) :
    Except Stop (Nat × List Bool) := do
  match table[symbol]? with
  | none => .error .corrupt
  | some (low, extra) =>
    let (n, bits) ← take extra bits
    .ok (low + n, bits)

/-- Repeat what came a distance before. Before the start there are zeros. -/
def repeatBack (out : Array UInt8) (distance : Nat) : Nat → Array UInt8
  | 0 => out
  | n + 1 =>
    let b := if distance ≤ out.size then out[out.size - distance]?.getD 0 else 0
    repeatBack (out.push b) distance n

/-- The symbol at which a block ends. -/
def endOfBlock : Nat := 256

/-- What has come out when decompression stops, and why it stops: the rest of the input, or an
error. -/
abbrev Progress := Array UInt8 × Except Stop (List Bool)

/-- The symbols of a block up to its end. -/
def symbols (literal distance : Code) : Nat → Array UInt8 → List Bool → Progress
  | 0, out, _ => (out, .error .truncated)
  | fuel + 1, out, bits =>
    match literal.decode bits with
    | .error e => (out, .error e)
    | .ok (n, rest) =>
      if n < endOfBlock then symbols literal distance fuel (out.push (UInt8.ofNat n)) rest
      else if n = endOfBlock then (out, .ok rest)
      else
        let repetition : Except Stop (Nat × Nat × List Bool) := do
          let (length, rest) ← extended lengthTable (n - endOfBlock - 1) rest
          let (d, rest) ← distance.decode rest
          let (back, rest) ← extended distanceTable d rest
          .ok (length, back, rest)
        match repetition with
        | .error e => (out, .error e)
        | .ok (length, back, rest) =>
          symbols literal distance fuel (repeatBack out back length) rest

/-! ## Blocks -/

/-- The lengths of the codes for literals in a block that gives no codes of its own. -/
def fixedLiterals : List Nat :=
  List.replicate 144 8 ++ List.replicate 112 9 ++ List.replicate 24 7 ++ List.replicate 8 8

/-- The lengths of the codes for distances in such a block. -/
def fixedDistances : List Nat := List.replicate 32 5

/-- The order in which the lengths of the code for lengths are given. -/
def lengthOrder : List Nat := [16, 17, 18, 0, 8, 7, 9, 6, 10, 5, 11, 4, 12, 3, 13, 2, 14, 1, 15]

/-- Take several numbers of three bits. -/
def triples : Nat → List Bool → Except Stop (List Nat × List Bool)
  | 0, bits => .ok ([], bits)
  | n + 1, bits => do
    let (x, bits) ← take 3 bits
    let (xs, bits) ← triples n bits
    .ok (x :: xs, bits)

/-- Read code lengths until there are `count`. The lengths so far are in reverse. -/
def lengths (code : Code) (count : Nat) : Nat → List Nat → List Bool →
    Except Stop (List Nat × List Bool)
  | 0, _, _ => .error .truncated
  | fuel + 1, found, bits =>
    if count ≤ found.length then
      if found.length = count then .ok (found.reverse, bits) else .error .corrupt
    else do
      let (symbol, bits) ← code.decode bits
      if symbol < 16 then lengths code count fuel (symbol :: found) bits
      else if symbol = 16 then
        match found with
        | [] => .error .corrupt
        | last :: _ =>
          let (n, bits) ← take 2 bits
          lengths code count fuel (List.replicate (n + 3) last ++ found) bits
      else
        let (extra, low) := if symbol = 17 then (3, 3) else (7, 11)
        let (n, bits) ← take extra bits
        lengths code count fuel (List.replicate (n + low) 0 ++ found) bits

/-- The codes that a block gives. The code for their lengths must be full. -/
def givenCodes (bits : List Bool) : Except Stop (Code × Code × List Bool) := do
  let (literals, bits) ← take 5 bits
  let (distances, bits) ← take 5 bits
  let (count, bits) ← take 4 bits
  let literals := literals + 257
  let distances := distances + 1
  if 286 < literals ∨ 30 < distances then .error .corrupt
  else
    let (given, bits) ← triples (count + 4) bits
    let pairs := lengthOrder.zip given
    let short := (List.range 19).map fun n => ((pairs.find? fun p => p.1 == n).map (·.2)).getD 0
    let code ← if Code.isFull short then Code.ofLengths short else .error .corrupt
    let total := literals + distances
    let (ls, bits) ← lengths code total (total + 1) [] bits
    let literal ← Code.ofLengths (ls.take literals)
    let distance ← Code.ofLengths (ls.drop literals)
    .ok (literal, distance, bits)

/-- A block of bytes as they are. -/
def stored (out : Array UInt8) (bits : List Bool) : Progress :=
  let sizes : Except Stop (Nat × Nat × List Bool) := do
    let (n, bits) ← take 16 (align bits)
    let (complement, bits) ← take 16 bits
    .ok (n, complement, bits)
  match sizes with
  | .error e => (out, .error e)
  | .ok (n, complement, bits) =>
    if n + complement ≠ 0xFFFF then (out, .error .corrupt)
    else
      let bytes := bytesOf (bits.take (8 * n))
      let ended := if bytes.length < n then .error .truncated else .ok (bits.drop (8 * n))
      (out ++ bytes.toArray, ended)

/-- One block, of a kind. -/
def block (kind : Nat) (out : Array UInt8) (bits : List Bool) : Progress :=
  match kind with
  | 0 => stored out bits
  | 1 =>
    match Code.ofLengths fixedLiterals, Code.ofLengths fixedDistances with
    | .ok literal, .ok distance => symbols literal distance (bits.length + 1) out bits
    | _, _ => (out, .error .corrupt)
  | 2 =>
    match givenCodes bits with
    | .error e => (out, .error e)
    | .ok (literal, distance, bits) => symbols literal distance (bits.length + 1) out bits
  | _ => (out, .error .corrupt)

/-- All blocks up to the last one. -/
def blocks : Nat → Array UInt8 → List Bool → Progress
  | 0, out, _ => (out, .error .truncated)
  | fuel + 1, out, bits =>
    let header : Except Stop (Nat × Nat × List Bool) := do
      let (last, bits) ← take 1 bits
      let (kind, bits) ← take 2 bits
      .ok (last, kind, bits)
    match header with
    | .error e => (out, .error e)
    | .ok (last, kind, bits) =>
      match block kind out bits with
      | (out, .error e) => (out, .error e)
      | (out, .ok bits) => if last = 1 then (out, .ok bits) else blocks fuel out bits

/-- Decompress: what comes out, and the bytes after the compressed data or why there are none. -/
def inflate (input : List UInt8) : List UInt8 × Except Stop (List UInt8) :=
  let bits := input.flatMap bitsOf
  let (out, ended) := blocks (bits.length + 1) #[] bits
  (out.toList, ended.map fun bits => bytesOf (align bits))

end Codemod.Archive.Inflate
