import Codemod.Encoding.Codec
import Codemod.Text.Property

set_option autoImplicit false

/-! # Encoding declarations

How a source file says what it is encoded in: by a byte order mark, or by a comment with a *cookie*
such as `coding: latin-1` in one of its first two lines. -/

namespace Codemod.Encoding

/-- The first fault that a source file has. -/
inductive SourceFault where
  /-- A line that may hold a cookie is not UTF-8. -/
  | undeclared
  /-- A cookie with a name that no codec has. -/
  | unknown (name : String)
  /-- A byte order mark together with a cookie for another codec. -/
  | conflict
  /-- Bytes that the declared encoding does not allow. -/
  | invalid (name : String) (fault : Option Utf8.Fault)
deriving DecidableEq, Repr

/-- The texts of a fault and of what caused it, outermost first. -/
def SourceFault.chain : SourceFault → List String
  | .undeclared => ["invalid or missing encoding declaration"]
  | .unknown name => ["unknown encoding: " ++ name]
  | .conflict => ["encoding problem: utf-8"]
  | .invalid name fault =>
    ("source is not valid " ++ name) :: (fault.map Utf8.Fault.message).toList

/-! ## Cookies -/

/-- A character that may stand before a comment. -/
def isIndent (c : Char) : Bool :=
  c == ' ' || c == '\t' || c == '\x0c'

/-- A character of the name in a cookie. -/
def isNameChar (c : Char) : Bool :=
  c == '-' || c == '.' || Text.isWordChar c

/-- The name at the start of a text that follows the word `coding`. -/
def nameAfter? : List Char → Option (List Char)
  | c :: rest =>
    if c == ':' || c == '=' then
      let name := (rest.dropWhile fun c => c == ' ' || c == '\t').takeWhile isNameChar
      if name.isEmpty then none else some name
    else none
  | [] => none

/-- The name in the first cookie of a comment. -/
def cookieIn? : List Char → Option (List Char)
  | [] => none
  | c :: rest =>
    let here :=
      if "coding".toList.isPrefixOf (c :: rest) then nameAfter? ((c :: rest).drop 6) else none
    here.orElse fun _ => cookieIn? rest

/-- The name in the cookie of a line, if the line is a comment with one. -/
def cookie? (line : List Char) : Option (List Char) :=
  match line.dropWhile isIndent with
  | '#' :: comment => cookieIn? comment
  | _ => none

/-- A line that is blank or holds only a comment, so that a cookie may follow on the next one. -/
def isBlankLine (line : List UInt8) : Bool :=
  match line.dropWhile fun b => isIndent (asciiChar b) with
  | [] => true
  | b :: _ => [35, 10, 13].contains b.toNat

/-! ## Detection -/

/-- The mark at the start of some files in UTF-8. -/
def byteOrderMark : List UInt8 := [0xEF, 0xBB, 0xBF]

/-- Whether there is a byte order mark, and the bytes after it. -/
def splitMark : List UInt8 → Bool × List UInt8
  | 0xEF :: 0xBB :: 0xBF :: rest => (true, rest)
  | bytes => (false, bytes)

/-- The bytes up to the first line feed, and those after it. -/
def splitLine : List UInt8 → List UInt8 × List UInt8
  | [] => ([], [])
  | b :: rest =>
    if b == 10 then ([b], rest)
    else
      let (line, later) := splitLine rest
      (b :: line, later)

/-- The canonical name that a line declares; the line must be UTF-8. -/
def declared? (line : List UInt8) : Except SourceFault (Option (List Char)) :=
  match Utf8.decode line with
  | .error _ => .error .undeclared
  | .ok chars => .ok ((cookie? chars).map normalise)

/-- The canonical name that the first two lines declare. The second one is looked at only if the
first one is blank or a comment. -/
def declaration? (bytes : List UInt8) : Except SourceFault (Option (List Char)) := do
  let (first, rest) := splitLine bytes
  if first.isEmpty then return none
  match ← declared? first with
  | some name => return some name
  | none =>
    if !isBlankLine first then return none
    let (second, _) := splitLine rest
    if second.isEmpty then return none
    declared? second

/-- The name of the encoding of a source file. -/
def detect (bytes : List UInt8) : Except SourceFault String := do
  let (marked, body) := splitMark bytes
  match ← declaration? body with
  | none => return if marked then "utf-8-sig" else "utf-8"
  | some name =>
    if (Codec.ofName? name).isNone then throw (.unknown (String.ofList name))
    if !marked then return String.ofList name
    if name == "utf-8".toList then return "utf-8-sig"
    throw .conflict

/-! ## Decoding -/

/-- The text of a source file, in the encoding that it declares, without a byte order mark in
UTF-8. -/
def decodeSource (bytes : List UInt8) : Except SourceFault (List Char) := do
  let name ← detect bytes
  match Codec.ofName? name.toList with
  | none => throw (.unknown name)
  | some .utf8 =>
    match Utf8.decode (splitMark bytes).2 with
    | .ok chars => return chars
    | .error fault => throw (.invalid name (some fault))
  | some .latin1 => return bytes.map asciiChar
  | some (.charset set) =>
    match set.decode bytes with
    | some chars => return chars
    | none => throw (.invalid name none)

end Codemod.Encoding
