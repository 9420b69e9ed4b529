set_option autoImplicit false

/-! # Points in time

A local time with its distance from universal time, and the forms in which it is written: one for
readers of a log, and one of digits alone for names of files. -/

namespace Codemod

/-- A local time. The distance from universal time is in minutes. -/
structure Moment where
  year : Nat
  month : Nat
  day : Nat
  hour : Nat
  minute : Nat
  second : Nat
  microsecond : Nat
  offset : Int
deriving DecidableEq, Repr

namespace Moment

/-- The pattern of the form for a log. -/
def pattern : String := "%Y-%m-%d %H:%M:%S%.6f%z"

/-- A number with zeros in front. -/
def padded (width n : Nat) : String :=
  let ds := toString n
  String.ofList (List.replicate (width - ds.length) '0') ++ ds

/-- The distance from universal time, in hours and minutes. -/
def offsetText (offset : Int) : String :=
  let minutes := offset.natAbs
  (if offset < 0 then "-" else "+") ++ padded 2 (minutes / 60) ++ padded 2 (minutes % 60)

/-- The form for a log. -/
def text (m : Moment) : String :=
  padded 4 m.year ++ "-" ++ padded 2 m.month ++ "-" ++ padded 2 m.day ++ " " ++
    padded 2 m.hour ++ ":" ++ padded 2 m.minute ++ ":" ++ padded 2 m.second ++ "." ++
    padded 6 m.microsecond ++ offsetText m.offset

/-- The form of digits alone, without parts of a second. -/
def compact (m : Moment) : String :=
  padded 4 m.year ++ padded 2 m.month ++ padded 2 m.day ++ padded 2 m.hour ++
    padded 2 m.minute ++ padded 2 m.second

end Moment

end Codemod
