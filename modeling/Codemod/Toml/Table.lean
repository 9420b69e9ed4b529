import Codemod.Number.Binary64

set_option autoImplicit false

/-! # The tables of a configuration document

A document is a tree of tables. A table can be defined once: by a header, by a value, or bit by bit
by keys with dots. Which of these it was decides what may still be added to it, so the tree keeps it
in mind while a document is read. -/

namespace Codemod.Toml

/-- How a table came to be. -/
inductive Origin where
  /-- By a header or a value of its own. -/
  | defined
  /-- By the header of a table below it. -/
  | implied
  /-- By a key with dots. -/
  | dotted
deriving DecidableEq, Repr

/-- A value of a document. -/
inductive Value where
  | string (s : String)
  | integer (n : Int)
  | float (x : Binary64)
  | bool (b : Bool)
  /-- A date, a time or both. -/
  | moment
  | array (items : List Value)
  /-- A table in braces. -/
  | inline (origin : Origin) (members : List (String × Value))
  | table (origin : Origin) (members : List (String × Value))
  /-- A row of tables, each with a header of its own, the last one first. -/
  | tables (rows : List (List (String × Value)))
deriving Repr

/-- The members of a table. -/
abbrev Members := List (String × Value)

namespace Members

/-- The value of a key. -/
def get? (ms : Members) (key : String) : Option Value :=
  (ms.find? fun m => m.1 == key).map (·.2)

/-- Give a key a value, in its place if it has one already. -/
def put (ms : Members) (key : String) (value : Value) : Members :=
  if ms.any fun m => m.1 == key then
    ms.map fun m => if m.1 == key then (key, value) else m
  else ms ++ [(key, value)]

/-! ## Going down -/

/-- Change the table at the end of a path, given its origin and its members. Tables that are missing
are made. Keys with dots must not lead into a table that was defined in another way. -/
def modify (dotted : Bool) (change : Origin → Members → Option Members) :
    List String → Origin → Members → Option Members
  | [], origin, ms => change origin ms
  | key :: path, _, ms =>
    match ms.get? key with
    | none => do
      let origin := if dotted then Origin.dotted else Origin.implied
      let made ← modify dotted change path origin []
      some (ms.put key (.table origin made))
    | some (.table origin below) =>
      if dotted && origin == .defined then none
      else do
        let made ← modify dotted change path origin below
        some (ms.put key (.table origin made))
    | some (.tables (last :: rows)) => do
      let made ← modify dotted change path .defined last
      some (ms.put key (.tables (made :: rows)))
    | some _ => none

/-- The same inside a table in braces. -/
def modifyInline (change : Origin → Members → Option Members) :
    List String → Origin → Members → Option Members
  | [], origin, ms => change origin ms
  | key :: path, _, ms =>
    match ms.get? key with
    | none => do
      let made ← modifyInline change path .dotted []
      some (ms.put key (.inline .dotted made))
    | some (.inline .dotted below) => do
      let made ← modifyInline change path .dotted below
      some (ms.put key (.inline .dotted made))
    | some _ => none

/-- Add a member to a table in which a key must not be there yet. A key with dots adds to a table
that such keys made, and a key without dots to one that they did not make. -/
def add (withDots : Bool) (key : String) (value : Value) (origin : Origin) (ms : Members) :
    Option Members :=
  if withDots != (origin == .dotted) then none
  else if (ms.get? key).isSome then none
  else some (ms ++ [(key, value)])

/-- Add a member under a key with dots. -/
def insert (inline : Bool) (origin : Origin) (ms : Members) (path : List String) (value : Value) :
    Option Members :=
  match path.reverse with
  | [] => none
  | key :: back =>
    let change := add (!back.isEmpty) key value
    if inline then modifyInline change back.reverse origin ms
    else modify true change back.reverse origin ms

end Members

/-! ## Documents -/

/-- A document that is being read: the tree so far, and the table whose lines are being read, with
its path and whether it is a row of a row of tables. -/
structure Document where
  root : Members := []
  path : List String := []
  isRow : Bool := false
  current : Members := []

namespace Document

/-- Put the table that was being read into the tree. -/
def close (d : Document) : Option Members :=
  match d.path.reverse with
  | [] => some d.current
  | key :: back =>
    let place : Origin → Members → Option Members := fun _ ms =>
      if d.isRow then
        match ms.get? key with
        | none => some (ms.put key (.tables [d.current]))
        | some (.tables rows) => some (ms.put key (.tables (d.current :: rows)))
        | some _ => none
      else
        match ms.get? key with
        | none | some (.table .implied _) => some (ms.put key (.table .defined d.current))
        | some _ => none
    Members.modify false place back.reverse .defined d.root

/-- Start the table of a header. What headers of tables below it have made is kept. -/
def header (d : Document) (path : List String) (isRow : Bool) : Option Document := do
  let root ← d.close
  match path.reverse with
  | [] => none
  | key :: back =>
    let parent ← Members.modify false (fun _ ms => some ms) back.reverse .defined root
    let found := lookup back.reverse parent |>.bind (·.get? key)
    let current ← match found, isRow with
      | none, _ => some []
      | some (.tables _), true => some []
      | some (.table .implied ms), false => some ms
      | some _, _ => none
    some { root := parent, path, isRow, current }
where
  /-- The members of the table at the end of a path. -/
  lookup : List String → Members → Option Members
    | [], ms => some ms
    | key :: path, ms =>
      match ms.get? key with
      | some (.table _ below) => lookup path below
      | some (.tables (last :: _)) => lookup path last
      | _ => none

/-- Add a line to the table that is being read. -/
def assign (d : Document) (path : List String) (value : Value) : Option Document := do
  let current ← Members.insert false .defined d.current path value
  some { d with current }

end Document

end Codemod.Toml
