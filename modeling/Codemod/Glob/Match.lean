import Codemod.Glob

set_option autoImplicit false

/-! # Which paths a pattern stands for

Patterns are compared with the bytes of a path. Each token takes some bytes from the front; as it
can often take more or fewer, `Token.rests` gives everything that can be left over, and a path
matches if nothing can be. -/

namespace Codemod.Glob

/-! ## Single bytes -/

/-- Whether a byte lies in a range of single bytes. -/
def inByteRange (b low high : UInt8) : Bool := low ≤ b && b ≤ high

/-- Whether a byte is in a range of a class. Characters stand for their bytes, so of the bytes of a
range only the last of its first and the first of its last character are its ends. -/
def inRange (b : UInt8) (range : Char × Char) : Bool :=
  let low := Encoding.Utf8.encodeChar range.1
  let high := Encoding.Utf8.encodeChar range.2
  if range.1 = range.2 then low.contains b
  else
    low.dropLast.contains b || high.tail.contains b ||
      inByteRange b (low.getLast?.getD 0) (high.head?.getD 0)

/-! ## What can be left over -/

/-- The text after some bytes at its start. -/
def after? : List UInt8 → List UInt8 → Option (List UInt8)
  | [], s => some s
  | _ :: _, [] => none
  | a :: as, b :: s => if a = b then after? as s else none

/-- A text and all its ends. -/
def ends : List UInt8 → List (List UInt8)
  | [] => [[]]
  | b :: s => (b :: s) :: ends s

/-- What is left when some bytes that are no slashes are taken away. -/
def endsOfName : List UInt8 → List (List UInt8)
  | [] => [[]]
  | b :: s => if b = Path.separator then [b :: s] else (b :: s) :: endsOfName s

/-- What stands after each slash. -/
def afterSlashes : List UInt8 → List (List UInt8)
  | [] => []
  | b :: s => if b = Path.separator then s :: afterSlashes s else afterSlashes s

mutual

/-- Whether a token takes nothing, whatever the text. -/
def Token.isVoid : Token → Bool
  | .alternatives branches => allVoid branches
  | _ => false

/-- Whether the tokens of a branch all take nothing. -/
def branchVoid : List Token → Bool
  | [] => true
  | t :: rest => t.isVoid && branchVoid rest

/-- Whether all branches take nothing. -/
def allVoid : List (List Token) → Bool
  | [] => true
  | branch :: rest => branchVoid branch && allVoid rest

end

mutual

/-- What a token can leave of a text. -/
def Token.rests : Token → List UInt8 → List (List UInt8)
  | .literal c, s => (after? (Encoding.Utf8.encodeChar c) s).toList
  | .one, s =>
    match s with
    | b :: rest => if b = Path.separator then [] else [rest]
    | [] => []
  | .many, s => endsOfName s
  | .anyStart, s => s :: (after? [Path.separator] s).toList ++ afterSlashes s
  | .anyEnd, s =>
    match after? [Path.separator] s with
    | some rest => ends rest
    | none => []
  | .anyMiddle, s =>
    match after? [Path.separator] s with
    | some rest => rest :: afterSlashes rest
    | none => []
  | .oneOf negated ranges, s =>
    match s with
    | b :: rest => if ranges.any (inRange b) != negated then [rest] else []
    | [] => []
  | .alternatives branches, s => if allVoid branches then [s] else restsOfAny branches s

/-- What the tokens of a branch can leave of a text. -/
def restsOfAll : List Token → List UInt8 → List (List UInt8)
  | [], s => [s]
  | t :: rest, s => ((t.rests s).eraseDups.flatMap (restsOfAll rest)).eraseDups

/-- What one of several branches can leave of a text. A branch that takes nothing does not count. -/
def restsOfAny : List (List Token) → List UInt8 → List (List UInt8)
  | [], _ => []
  | branch :: rest, s =>
    (if branchVoid branch then [] else restsOfAll branch s) ++ restsOfAny rest s

end

/-- Whether a pattern stands for some bytes. Two stars alone stand for everything. -/
def Pattern.matches (tokens : List Token) (s : List UInt8) : Bool :=
  match tokens with
  | [.anyStart] => true
  | tokens => (restsOfAll tokens s).contains []

/-- Whether a pattern stands for a path, written with a dot at its start or without it. -/
def matchesPath (tokens : List Token) (p : Path) : Bool :=
  Pattern.matches tokens p.bytes ||
    match p.stripHere? with
    | some rest => Pattern.matches tokens rest.bytes
    | none => false

end Codemod.Glob
