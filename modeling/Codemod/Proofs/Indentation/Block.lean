import Codemod.Indentation
import Codemod.Linesep

set_option autoImplicit false

/-! # Block-structured sources

Statements are simple lines, or headers with a block of statements below them. Written down, they
are rows, each at the depth of the block that it stands in: row by row the depth falls at will but
climbs by one at most (`climbs_rowsOf`), since only a header opens a block, and it is a row of its
own. Some row stands deeper than the first ones exactly if there is a block (`any_deeper_rowsOf`). -/

namespace Codemod.Indentation

/-! ## Statements -/

/-- A character that says nothing on where a logical line ends. -/
def isPlain (c : Char) : Bool :=
  !(Scanner.isOpening c || Scanner.isClosing c || Text.isLineEnd c
    || c == '\'' || c == '"' || c == '\\' || c == '#')

/-- The code of a line, without its indentation and its terminator. -/
structure Code where
  first : Char
  rest : List Char
  starts : isIndentChar first = false
  plain : ∀ c ∈ first :: rest, isPlain c = true

/-- The characters of the code. -/
def Code.chars (code : Code) : List Char := code.first :: code.rest

/-- A statement: one line, or a header with the block below it, which is never empty. -/
inductive Statement where
  | line (code : Code)
  | block (header : Code) (first : Statement) (rest : List Statement)

/-- Whether a statement has a block. -/
def Statement.isBlock : Statement → Bool
  | .line _ => false
  | .block .. => true

/-! ## Rows -/

/-- A line of code and the number of blocks that it stands in. -/
structure Row where
  depth : Nat
  code : Code

mutual

/-- The rows of a statement that stands in so many blocks. -/
def Statement.rows (depth : Nat) : Statement → List Row
  | .line code => [⟨depth, code⟩]
  | .block header first rest =>
    ⟨depth, header⟩ :: (first.rows (depth + 1) ++ rowsOf (depth + 1) rest)

/-- The rows of statements that follow each other in one block. -/
def rowsOf (depth : Nat) : List Statement → List Row
  | [] => []
  | statement :: rest => statement.rows depth ++ rowsOf depth rest

end

/-- Coming from a row at some depth, no row is deeper than the one before it by more than one. -/
def Climbs : Nat → List Row → Prop
  | _, [] => True
  | last, row :: rows => row.depth ≤ last + 1 ∧ Climbs row.depth rows

mutual

/-- Whatever climbs on from the rows of the block that a statement stands in climbs on from the
statement as well. -/
theorem Statement.climbs_rows_append (statement : Statement) {depth last : Nat} {rows : List Row}
    (hdepth : depth ≤ last + 1) (hrows : ∀ last, depth ≤ last → Climbs last rows) :
    Climbs last (statement.rows depth ++ rows) := by
  cases statement with
  | line code => exact ⟨hdepth, hrows depth (Nat.le_refl depth)⟩
  | block header first rest =>
    have hblock : Climbs depth (first.rows (depth + 1) ++ (rowsOf (depth + 1) rest ++ rows)) :=
      first.climbs_rows_append (Nat.le_refl _) fun last hlast =>
        climbs_rowsOf_append rest hlast fun last hlast => hrows last (by omega)
    rw [Statement.rows, List.cons_append, List.append_assoc]
    exact ⟨hdepth, hblock⟩

theorem climbs_rowsOf_append (statements : List Statement) {depth last : Nat} {rows : List Row}
    (hdepth : depth ≤ last) (hrows : ∀ last, depth ≤ last → Climbs last rows) :
    Climbs last (rowsOf depth statements ++ rows) := by
  cases statements with
  | nil => exact hrows last hdepth
  | cons statement rest =>
    rw [rowsOf, List.append_assoc]
    exact statement.climbs_rows_append (by omega) fun last hlast =>
      climbs_rowsOf_append rest hlast hrows

end

/-- The rows of a source climb from the outermost block. -/
theorem climbs_rowsOf (source : List Statement) : Climbs 0 (rowsOf 0 source) := by
  have h : Climbs 0 (rowsOf 0 source ++ []) :=
    climbs_rowsOf_append source (Nat.le_refl 0) fun _ _ => trivial
  rwa [List.append_nil] at h

/-- The first row of a statement stands where the statement stands. -/
theorem Statement.exists_row (statement : Statement) (depth : Nat) :
    ∃ row ∈ statement.rows depth, row.depth = depth := by
  cases statement with
  | line code => exact ⟨⟨depth, code⟩, List.mem_cons_self, rfl⟩
  | block header first rest => exact ⟨⟨depth, header⟩, List.mem_cons_self, rfl⟩

/-- A row is deeper than the outermost ones exactly if there is a block. -/
theorem any_deeper_rowsOf (source : List Statement) :
    (rowsOf 0 source).any (0 < ·.depth) = source.any (·.isBlock) := by
  induction source with
  | nil => rfl
  | cons statement rest ih =>
    rw [rowsOf, List.any_append, List.any_cons, ih]
    congr 1
    cases statement with
    | line code => rfl
    | block header first rest =>
      obtain ⟨row, hmem, hdepth⟩ := first.exists_row 1
      have hdeeper : 0 < row.depth := by omega
      refine List.any_eq_true.mpr ⟨row, ?_, decide_eq_true hdeeper⟩
      exact List.mem_cons_of_mem _ (List.mem_append_left _ hmem)

/-! ## Texts -/

/-- The blanks in front of a row. -/
def Row.indent (unit : Indentation) (row : Row) : List Char :=
  (List.replicate row.depth unit.chars).flatten

/-- A row without its terminator. -/
def Row.body (unit : Indentation) (row : Row) : List Char :=
  row.indent unit ++ row.code.chars

/-- The text of a source that is indented by copies of `unit`, each line ended by `sep`. -/
def render (unit : Indentation) (sep : Linesep) (source : List Statement) : List Char :=
  (rowsOf 0 source).flatMap fun row => row.body unit ++ sep.chars

end Codemod.Indentation
