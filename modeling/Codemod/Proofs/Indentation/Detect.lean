import Codemod.Proofs.Detection
import Codemod.Proofs.Indentation.Block
import Codemod.Proofs.Text.Line

set_option autoImplicit false

/-! # Detecting the indentation that a source was written with

The lines of a source that is indented by copies of one unit are its rows, and all of them count: no
line of plain code is silent or continues another one. A poll on the rows keeps the widths of the
blocks that the last row stands in (`ladder`), and each row that opens a block votes for a multiple
of the unit; the first such row stands in one block, so the unit itself is among the votes. The main
statement is `indentation_of_rendered`. -/

namespace Codemod.Indentation

variable {unit : Indentation} {sep : Linesep}

/-! ## Lines of rows -/

theorem mem_chars_of_mem_indent {row : Row} {c : Char} (hc : c ∈ row.indent unit) :
    c ∈ unit.chars := by
  obtain ⟨chars, hchars, hc⟩ := List.mem_flatten.mp hc
  rwa [List.eq_of_mem_replicate hchars] at hc

theorem eq_of_mem_chars {c : Char} (hc : c ∈ unit.chars) : c = ' ' ∨ c = '\t' := by
  cases unit with
  | spaces n => exact .inl (List.eq_of_mem_replicate hc)
  | tab => exact .inr (List.mem_singleton.mp hc)

theorem isIndentChar_of_mem_indent {row : Row} {c : Char} (hc : c ∈ row.indent unit) :
    isIndentChar c = true := by
  rcases eq_of_mem_chars (mem_chars_of_mem_indent hc) with rfl | rfl <;> decide

theorem isPlain_of_mem_indent {row : Row} {c : Char} (hc : c ∈ row.indent unit) :
    isPlain c = true := by
  rcases eq_of_mem_chars (mem_chars_of_mem_indent hc) with rfl | rfl <;> decide

theorem isPlain_of_mem_body {row : Row} {c : Char} (hc : c ∈ row.body unit) : isPlain c = true := by
  rcases List.mem_append.mp hc with hc | hc
  · exact isPlain_of_mem_indent hc
  · exact row.code.plain c hc

theorem Row.isBody (unit : Indentation) (row : Row) : Text.IsBody (row.body unit) := by
  intro c hc
  have hplain := isPlain_of_mem_body hc
  simp only [isPlain, Bool.not_eq_true', Bool.or_eq_false_iff] at hplain
  exact hplain.1.1.1.1.2

theorem leading_line (row : Row) (sep : Linesep) :
    leading (row.body unit ++ sep.chars) = row.indent unit := by
  have hindent : ∀ c ∈ row.indent unit, isIndentChar c = true := fun _ hc =>
    isIndentChar_of_mem_indent hc
  rw [leading, Row.body, Code.chars, List.append_assoc, List.takeWhile_append_of_pos hindent,
    List.cons_append, List.takeWhile_cons_of_neg (by simp [row.code.starts]), List.append_nil]

/-- A row holds code. -/
theorem isSilent_line (row : Row) (sep : Linesep) :
    isSilent (row.body unit ++ sep.chars) = false := by
  have hindent : ∀ c ∈ row.indent unit, isIndentChar c = true := fun _ hc =>
    isIndentChar_of_mem_indent hc
  have hplain := row.code.plain row.code.first List.mem_cons_self
  simp only [isPlain, Bool.not_eq_true', Bool.or_eq_false_iff] at hplain
  rw [isSilent, Row.body, Code.chars, List.append_assoc, List.dropWhile_append_of_pos hindent,
    List.cons_append, List.dropWhile_cons_of_neg (by simp [row.code.starts])]
  simp only [hplain.2, List.all_cons, hplain.1.1.1.1.2, Bool.false_and, Bool.or_self]

/-! ## Scanning rows -/

/-- Outside of literals a scanner takes no notice of plain characters and of line ends. -/
theorem Scanner.scanChars_of_plain {chars : List Char}
    (h : ∀ c ∈ chars, isPlain c = true ∨ Text.isLineEnd c = true) :
    Scanner.scanChars {} chars = {} := by
  induction chars with
  | nil => rw [Scanner.scanChars]
  | cons c chars ih =>
    have hrest := ih fun d hd => h d (List.mem_cons_of_mem c hd)
    have hinert : c ≠ '#' ∧ c ≠ '\'' ∧ c ≠ '"' ∧ isOpening c = false ∧ isClosing c = false ∧
        c ≠ '\\' := by
      rcases h c List.mem_cons_self with hc | hc
      · simp only [isPlain, Bool.not_eq_true', Bool.or_eq_false_iff, beq_eq_false_iff_ne] at hc
        exact ⟨hc.2, hc.1.1.1.2, hc.1.1.2, hc.1.1.1.1.1.1, hc.1.1.1.1.1.2, hc.1.2⟩
      · simp only [Text.isLineEnd, Bool.or_eq_true, beq_iff_eq] at hc
        rcases hc with rfl | rfl <;> decide
    obtain ⟨hcomment, hquote, hdouble, hopening, hclosing, hbackslash⟩ := hinert
    rw [Scanner.scanChars.eq_def]
    simp only [hcomment, hquote, hdouble, hopening, hclosing, hbackslash, or_self, if_false,
      Bool.false_eq_true, hrest]

theorem Scanner.scan_line (row : Row) (sep : Linesep) :
    Scanner.scan {} (row.body unit ++ sep.chars) = {} := by
  refine Scanner.scanChars_of_plain fun c hc => ?_
  rcases List.mem_append.mp hc with hc | hc
  · exact .inl (isPlain_of_mem_body hc)
  · refine .inr ?_
    cases sep <;> simp only [Linesep.chars, List.mem_cons, List.not_mem_nil, or_false] at hc
    · rw [hc]; decide
    · rcases hc with rfl | rfl <;> decide
    · rw [hc]; decide

/-- All rows count. -/
theorem counted_lines (sep : Linesep) (rows : List Row) :
    counted {} (rows.map fun row => row.body unit ++ sep.chars) =
      rows.map fun row => row.body unit ++ sep.chars := by
  induction rows with
  | nil => rfl
  | cons row rows ih =>
    rw [List.map_cons, counted, Scanner.scan_line, isSilent_line, ih]
    rfl

/-! ## Widths and votes of rows -/

/-- The number of columns of one level. -/
def columns : Indentation → Nat
  | .spaces n => n
  | .tab => 8

theorem foldl_width_spaces (column n : Nat) :
    (List.replicate n ' ').foldl
      (fun column c => if c == '\t' then (column / 8 + 1) * 8 else column + 1) column =
      column + n := by
  induction n generalizing column with
  | zero => rfl
  | succ n ih =>
    rw [List.replicate_succ, List.foldl_cons, ih]
    exact Nat.add_right_comm column 1 n

/-- Each level adds its columns: a tab after tabs goes on by a whole multiple of eight. -/
theorem width_indent (row : Row) : width (row.indent unit) = row.depth * unit.columns := by
  have hlevels : ∀ depth, width (List.replicate depth unit.chars).flatten =
      depth * unit.columns := by
    intro depth
    induction depth with
    | zero => rw [List.replicate_zero, List.flatten_nil, Nat.zero_mul]; rfl
    | succ depth ih =>
      rw [width] at ih
      rw [width, List.replicate_succ', List.flatten_append, List.foldl_append, ih,
        List.flatten_singleton]
      cases unit with
      | spaces n => rw [chars, foldl_width_spaces, columns, Nat.succ_mul]
      | tab =>
        simp only [chars, columns, List.foldl_cons, List.foldl_nil, BEq.rfl, if_true]
        omega
  exact hlevels row.depth

/-- What a row that opens a block votes for. -/
def voteAt (depth : Nat) : Indentation → Vote
  | .spaces n => .spaces (depth * n)
  | .tab => .tab

theorem vote_indent (row : Row) (hdepth : 0 < row.depth) :
    vote? (row.indent unit) = some (unit.voteAt row.depth) := by
  cases unit with
  | spaces n =>
    have htab : ¬ (row.indent (.spaces n)).contains '\t' = true := fun htab => by
      have hmem := mem_chars_of_mem_indent (List.contains_iff_mem.mp htab)
      exact absurd (List.eq_of_mem_replicate hmem) (by decide)
    have hlength : (row.indent (.spaces n)).length = row.depth * n := by
      simp only [Row.indent, chars, List.length_flatten, List.map_replicate, List.length_replicate,
        List.sum_replicate_nat]
    rw [vote?, if_neg htab, hlength, voteAt]
  | tab =>
    have htab : (row.indent .tab).contains '\t' = true := by
      refine List.contains_iff_mem.mpr (List.mem_flatten.mpr ⟨['\t'], ?_, List.mem_cons_self⟩)
      exact List.mem_replicate.mpr ⟨by omega, rfl⟩
    have hspace : ¬ (row.indent .tab).contains ' ' = true := fun hspace => by
      have hmem := mem_chars_of_mem_indent (List.contains_iff_mem.mp hspace)
      exact absurd (List.mem_singleton.mp hmem) (by decide)
    rw [vote?, if_pos htab, if_neg hspace, voteAt]

/-! ## Polls on rows -/

/-- The widths of the blocks that a row at the given depth stands in. -/
def ladder (columns : Nat) : Nat → List Nat
  | 0 => [0]
  | depth + 1 => (depth + 1) * columns :: ladder columns depth

theorem headD_ladder (columns depth : Nat) : (ladder columns depth).headD 0 = depth * columns := by
  cases depth with
  | zero => rw [Nat.zero_mul]; rfl
  | succ depth => rfl

/-- Closing blocks down to the width of an outer one leaves the blocks up to there. -/
theorem closeTo_ladder {columns : Nat} (hcolumns : 0 < columns) {outer depth : Nat}
    (h : outer ≤ depth) : Poll.closeTo (outer * columns) (ladder columns depth) =
      ladder columns outer := by
  induction depth with
  | zero =>
    obtain rfl : outer = 0 := by omega
    rfl
  | succ depth ih =>
    obtain ⟨top, rest, hcons⟩ : ∃ top rest, ladder columns depth = top :: rest := by
      cases depth with
      | zero => exact ⟨0, [], rfl⟩
      | succ depth => exact ⟨_, _, rfl⟩
    rw [ladder, hcons, Poll.closeTo, ← hcons]
    rcases Nat.lt_or_ge depth outer with hlt | hle
    · obtain rfl : outer = depth + 1 := by omega
      rw [if_neg (Nat.lt_irrefl _), ladder]
    · have hwidth : outer * columns < (depth + 1) * columns :=
        Nat.mul_lt_mul_of_pos_right (by omega) hcolumns
      rw [if_pos hwidth, ih hle]

/-- A poll that only knows of votes for a unit, some of them for exactly this unit. -/
def Poll.Supports (unit : Indentation) (poll : Poll) : Prop :=
  match unit with
  | .spaces n => poll.tabs = 0 ∧ 0 < poll.spaces ∧ poll.narrowest = some n
  | .tab => poll.spaces = 0 ∧ 0 < poll.tabs

theorem Poll.Supports.result_eq {poll : Poll} (h : poll.Supports unit) : poll.result = unit := by
  cases unit with
  | spaces n =>
    obtain ⟨htabs, hspaces, hnarrowest⟩ := h
    rw [Poll.result, htabs, if_pos hspaces, hnarrowest]
  | tab =>
    obtain ⟨hspaces, htabs⟩ := h
    rw [Poll.result, hspaces, if_neg (by omega), if_pos htabs]

/-- Votes for a multiple of the unit do not change what is supported. -/
theorem Poll.Supports.count {poll : Poll} (h : poll.Supports unit) {depth : Nat}
    (hdepth : 0 < depth) : (poll.count (some (unit.voteAt depth))).Supports unit := by
  cases unit with
  | spaces n =>
    obtain ⟨htabs, hspaces, hnarrowest⟩ := h
    have hmin : min n (depth * n) = n := Nat.min_eq_left (Nat.le_mul_of_pos_left n hdepth)
    exact ⟨htabs, Nat.succ_pos _, by simp only [voteAt, Poll.count, hnarrowest, hmin]⟩
  | tab =>
    obtain ⟨hspaces, htabs⟩ := h
    exact ⟨hspaces, Nat.succ_pos _⟩

/-- The first vote comes from a row that stands in one block. -/
theorem Poll.supports_count_first (levels : List Nat) :
    (Poll.count { levels } (some (unit.voteAt 1))).Supports unit := by
  cases unit with
  | spaces n => exact ⟨rfl, Nat.one_pos, congrArg some (Nat.one_mul n)⟩
  | tab => exact ⟨rfl, Nat.one_pos⟩

/-- A poll after rows of which the last one stands at the given depth, and whether a block was
opened on the way. -/
inductive Poll.Follows (unit : Indentation) : Bool → Nat → Poll → Prop where
  | outermost : Follows unit false 0 {}
  | opened {depth : Nat} {poll : Poll} (levels : poll.levels = ladder unit.columns depth)
      (votes : poll.Supports unit) : Follows unit true depth poll

theorem Poll.Follows.levels_eq {opened : Bool} {depth : Nat} {poll : Poll}
    (h : poll.Follows unit opened depth) : poll.levels = ladder unit.columns depth := by
  cases h with
  | outermost => rfl
  | opened levels votes => exact levels

theorem Poll.levels_count (poll : Poll) (vote : Option Vote) :
    (poll.count vote).levels = poll.levels := by
  rcases vote with - | ⟨n⟩ | - <;> rfl

/-- A row that is deeper than the last one opens a block, and votes. -/
theorem Poll.addLine_of_opens {poll : Poll} {last : Nat} (hcolumns : 0 < unit.columns)
    (hlevels : poll.levels = ladder unit.columns last) {row : Row} (hrow : row.depth = last + 1) :
    poll.addLine (row.indent unit) =
      Poll.count { poll with levels := ladder unit.columns (last + 1) }
        (some (unit.voteAt (last + 1))) := by
  have hdeeper : last * unit.columns < (last + 1) * unit.columns :=
    Nat.mul_lt_mul_of_pos_right (Nat.lt_succ_self last) hcolumns
  rw [Poll.addLine, Poll.current, hlevels, headD_ladder, width_indent,
    vote_indent row (by omega), hrow, if_pos hdeeper, ladder]

/-- Another row closes the blocks that it does not stand in. -/
theorem Poll.addLine_of_stays {poll : Poll} {last : Nat} (hcolumns : 0 < unit.columns)
    (hlevels : poll.levels = ladder unit.columns last) {row : Row} (hrow : row.depth ≤ last) :
    poll.addLine (row.indent unit) = { poll with levels := ladder unit.columns row.depth } := by
  have hdeeper : ¬ last * unit.columns < row.depth * unit.columns :=
    Nat.not_lt.mpr (Nat.mul_le_mul_right _ hrow)
  rw [Poll.addLine, Poll.current, hlevels, headD_ladder, width_indent, if_neg hdeeper,
    closeTo_ladder hcolumns hrow]

theorem Poll.Follows.addLine {opened : Bool} {last : Nat} {poll : Poll}
    (h : poll.Follows unit opened last) (hcolumns : 0 < unit.columns) {row : Row}
    (hrow : row.depth ≤ last + 1) :
    (poll.addLine (row.indent unit)).Follows unit (opened || 0 < row.depth) row.depth := by
  rcases Nat.lt_or_ge last row.depth with hopens | hstays
  · have hdepth : row.depth = last + 1 := by omega
    have hnow : (opened || decide (0 < row.depth)) = true := by
      rw [decide_eq_true (by omega), Bool.or_true]
    rw [addLine_of_opens hcolumns h.levels_eq hdepth, hnow, hdepth]
    refine .opened (levels_count _ _) ?_
    cases h with
    | outermost => exact supports_count_first _
    | opened levels votes =>
      have hvotes : Poll.Supports unit { poll with levels := ladder unit.columns (last + 1) } :=
        votes
      exact hvotes.count (Nat.succ_pos last)
  · rw [addLine_of_stays hcolumns h.levels_eq hstays]
    cases h with
    | outermost =>
      have hdepth : row.depth = 0 := by omega
      rw [hdepth]
      exact .outermost
    | opened levels votes => exact .opened rfl votes

theorem Poll.Follows.foldl_addLine (hcolumns : 0 < unit.columns) (rows : List Row) {opened : Bool}
    {last : Nat} {poll : Poll} (h : poll.Follows unit opened last) (hrows : Climbs last rows) :
    ∃ depth, (rows.foldl (fun (poll : Poll) row => poll.addLine (row.indent unit)) poll).Follows
      unit (opened || rows.any (0 < ·.depth)) depth := by
  induction rows generalizing opened last poll with
  | nil => exact ⟨last, by rwa [List.any_nil, Bool.or_false]⟩
  | cons row rows ih =>
    obtain ⟨hrow, hrows⟩ := hrows
    rw [List.any_cons, ← Bool.or_assoc]
    exact ih (h.addLine hcolumns hrow) hrows

theorem Poll.Follows.result_eq {opened : Bool} {depth : Nat} {poll : Poll}
    (h : poll.Follows unit opened depth) :
    poll.result = if opened then unit else standard := by
  cases h with
  | outermost => rfl
  | opened levels votes => rw [votes.result_eq, if_pos rfl]

/-! ## Sources -/

theorem columns_pos (hunit : unit ≠ .spaces 0) : 0 < unit.columns := by
  rcases unit with n | -
  · refine Nat.pos_of_ne_zero fun hn => hunit ?_
    rw [show n = 0 from hn]
  · decide

theorem detect_render (hunit : unit ≠ .spaces 0) (sep : Linesep) (source : List Statement) :
    detect (render unit sep source) =
      if source.any (·.isBlock) then unit else standard := by
  have hlines : Text.lines (render unit sep source) =
      (rowsOf 0 source).map fun row => row.body unit ++ sep.chars :=
    Text.lines_flatMap (Row.body unit) (Row.isBody unit) sep _
  obtain ⟨depth, hpoll⟩ := Poll.Follows.outermost.foldl_addLine (columns_pos hunit) _
    (climbs_rowsOf source)
  rw [Bool.false_or, any_deeper_rowsOf] at hpoll
  rw [detect, hlines, counted_lines]
  simp only [List.foldl_map, leading_line]
  exact hpoll.result_eq

/-- The indentation that a block-structured source was written with is detected, whatever its
statements and its separator are. A source without blocks does not show its indentation. -/
theorem indentation_of_rendered (hunit : unit ≠ .spaces 0) (sep : Linesep)
    (source : List Statement) :
    Detection.indentation (.text (String.ofList (render unit sep source))) =
      { answer := .ok (if source.any (·.isBlock) then unit else standard)
        stream := none
        log := [] } := by
  rw [Detection.indentation, Detection.ask_text, String.toList_ofList, detect_render hunit]

/-- A block within a block, and a line after each of them. -/
def nestedSource : List Statement :=
  [.block ⟨'i', "f a:".toList, by decide, List.all_eq_true.1 (by decide)⟩
    (.block ⟨'i', "f b:".toList, by decide, List.all_eq_true.1 (by decide)⟩
      (.line ⟨'f', [], by decide, List.all_eq_true.1 (by decide)⟩) [])
    [.line ⟨'g', [], by decide, List.all_eq_true.1 (by decide)⟩],
   .line ⟨'h', [], by decide, List.all_eq_true.1 (by decide)⟩]

theorem indentation_of_nestedSource :
    spaces 3 ≠ spaces 0 ∧
      Detection.indentation (.text "if a:\r   if b:\r      f\r   g\rh\r") =
        { answer := .ok (.spaces 3), stream := none, log := [] } := by
  have hunit : spaces 3 ≠ spaces 0 := by decide
  have htext : String.ofList (render (.spaces 3) .cr nestedSource) =
      "if a:\r   if b:\r      f\r   g\rh\r" := by decide
  refine ⟨hunit, ?_⟩
  rw [← htext]
  exact indentation_of_rendered hunit .cr nestedSource

end Codemod.Indentation
