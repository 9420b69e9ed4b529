import Codemod.Proofs.Indentation.Detect
import Mathlib.Data.List.Induction

set_option autoImplicit false

/-! # Open blocks while a text is read

A text is read line by line, and each line that counts opens a block or closes some (`Reading`). The
widths of the open blocks fall from the innermost one to the outermost one, which has width zero
(`IsStack`), and the innermost one is not wider than the last line that counted. It is as wide as
that line if no line falls back between two blocks (`DedentsToLevels`), so that the lines which open
a block are those that are wider than the line before (`levels_while_reading`). -/

namespace Codemod.Indentation

variable {levels : List Nat} {w last : Nat} {indent line : List Char} {poll : Poll}
  {lines : List (List Char)}

/-! ## Open blocks -/

/-- Widths of open blocks, the innermost one first. -/
structure IsStack (levels : List Nat) : Prop where
  outermost : levels.getLast? = some 0
  narrows : levels.Pairwise (· > ·)

theorem isStack_start : IsStack [0] := ⟨rfl, List.pairwise_singleton ..⟩

namespace IsStack

theorem ne_nil (h : IsStack levels) : levels ≠ [] := by
  rintro rfl
  cases h.outermost

theorem headD_mem (h : IsStack levels) : levels.headD 0 ∈ levels := by
  obtain ⟨top, rest, rfl⟩ := List.exists_cons_of_ne_nil h.ne_nil
  exact List.mem_cons_self

/-- No block is wider than the innermost one. -/
theorem le_headD (h : IsStack levels) (hw : w ∈ levels) : w ≤ levels.headD 0 := by
  obtain ⟨top, rest, rfl⟩ := List.exists_cons_of_ne_nil h.ne_nil
  rcases List.mem_cons.mp hw with rfl | hw
  · exact Nat.le_refl w
  · exact Nat.le_of_lt ((List.pairwise_cons.mp h.narrows).1 w hw)

/-- A wider block can be opened. -/
theorem cons (h : IsStack levels) (hw : levels.headD 0 < w) : IsStack (w :: levels) where
  outermost := by
    obtain ⟨top, rest, rfl⟩ := List.exists_cons_of_ne_nil h.ne_nil
    exact h.outermost
  narrows := by
    refine List.pairwise_cons.mpr ⟨fun v hv => ?_, h.narrows⟩
    exact Nat.lt_of_le_of_lt (h.le_headD hv) hw

theorem tail {outer : Nat} {rest : List Nat} (h : IsStack (w :: outer :: rest)) :
    IsStack (outer :: rest) :=
  ⟨h.outermost, (List.pairwise_cons.mp h.narrows).2⟩

theorem closeTo (h : IsStack levels) (w : Nat) : IsStack (Poll.closeTo w levels) := by
  fun_induction Poll.closeTo w levels with
  | case1 top outer rest hlt ih => exact ih h.tail
  | case2 top outer rest hle => exact h
  | case3 levels hshort => exact h

theorem headD_closeTo_le (h : IsStack levels) (w : Nat) :
    (Poll.closeTo w levels).headD 0 ≤ w := by
  fun_induction Poll.closeTo w levels with
  | case1 top outer rest hlt ih => exact ih h.tail
  | case2 top outer rest hle => exact Nat.le_of_not_lt hle
  | case3 levels hshort =>
    rcases levels with - | ⟨top, - | ⟨outer, rest⟩⟩
    · exact absurd rfl h.ne_nil
    · obtain rfl : top = 0 := Option.some_inj.mp h.outermost
      exact Nat.zero_le w
    · exact absurd rfl (hshort top outer rest)

/-- Falling back to the width of an open block closes the blocks inside of it. -/
theorem headD_closeTo (h : IsStack levels) (hw : w ∈ levels) :
    (Poll.closeTo w levels).headD 0 = w := by
  refine Nat.le_antisymm (h.headD_closeTo_le w) ?_
  refine (h.closeTo w).le_headD ?_
  fun_induction Poll.closeTo w levels with
  | case1 top outer rest hlt ih =>
    exact ih h.tail ((List.mem_cons.mp hw).resolve_left (Nat.ne_of_lt hlt))
  | case2 top outer rest hle => exact hw
  | case3 levels hshort => exact hw

end IsStack

theorem closeTo_suffix (w : Nat) (levels : List Nat) : Poll.closeTo w levels <:+ levels := by
  fun_induction Poll.closeTo w levels with
  | case1 top outer rest hlt ih => exact ih.trans (List.suffix_cons ..)
  | case2 top outer rest hle => exact List.suffix_rfl
  | case3 levels hshort => exact List.suffix_rfl

namespace Poll

theorem addLine_of_lt (h : poll.current < width indent) :
    poll.addLine indent =
      count { poll with levels := width indent :: poll.levels } (vote? indent) :=
  if_pos h

theorem addLine_of_le (h : width indent ≤ poll.current) :
    poll.addLine indent = { poll with levels := closeTo (width indent) poll.levels } :=
  if_neg (Nat.not_lt.mpr h)

/-- A line that is wider than the innermost block opens one, and no other line does. -/
theorem levels_addLine_eq_cons_iff :
    (poll.addLine indent).levels = width indent :: poll.levels ↔ poll.current < width indent := by
  constructor
  · intro h
    by_contra hle
    rw [addLine_of_le (Nat.le_of_not_lt hle)] at h
    -- closing leaves at most the blocks that there were, so none of them is new
    have hlength := (closeTo_suffix (width indent) poll.levels).length_le
    rw [show closeTo (width indent) poll.levels = _ from h, List.length_cons] at hlength
    omega
  · intro h
    rw [addLine_of_lt h, levels_count]

theorem isStack_addLine (h : IsStack poll.levels) (indent : List Char) :
    IsStack (poll.addLine indent).levels := by
  rcases Nat.lt_or_ge poll.current (width indent) with hlt | hle
  · rw [addLine_of_lt hlt, levels_count]
    exact h.cons hlt
  · rw [addLine_of_le hle]
    exact h.closeTo _

/-- After a line the innermost block is not wider than the line. -/
theorem current_addLine_le (h : IsStack poll.levels) (indent : List Char) :
    (poll.addLine indent).current ≤ width indent := by
  rcases Nat.lt_or_ge poll.current (width indent) with hlt | hle
  · rw [addLine_of_lt hlt, current, levels_count]
    exact Nat.le_refl _
  · rw [addLine_of_le hle]
    exact h.headD_closeTo_le _

/-- A line that falls back to an open block, if it falls back at all, is in the innermost block
after it. -/
theorem current_addLine (h : IsStack poll.levels)
    (hdedent : width indent < poll.current → width indent ∈ poll.levels) :
    (poll.addLine indent).current = width indent := by
  rcases Nat.lt_or_ge poll.current (width indent) with hlt | hle
  · rw [addLine_of_lt hlt, current, levels_count]
    rfl
  · rw [addLine_of_le hle]
    refine h.headD_closeTo ?_
    rcases Nat.lt_or_eq_of_le hle with hlt | heq
    · exact hdedent hlt
    · rw [heq]
      exact h.headD_mem

/-- What becomes of a poll with a line that counts, given the width of the line before it: if the
line is wider then it opens a block and has a vote, and otherwise it closes blocks. -/
structure Follow (last : Nat) (indent : List Char) (poll next : Poll) : Prop where
  opens_iff : next.levels = width indent :: poll.levels ↔ last < width indent
  opens : last < width indent →
    next = count { poll with levels := width indent :: poll.levels } (vote? indent)
  closes : width indent ≤ last →
    next = { poll with levels := closeTo (width indent) poll.levels }

theorem follow_addLine (poll : Poll) (indent : List Char) :
    Follow poll.current indent poll (poll.addLine indent) :=
  ⟨levels_addLine_eq_cons_iff, addLine_of_lt, addLine_of_le⟩

end Poll

/-! ## Reading -/

/-- What is known of a text when some of its lines have been read. -/
structure Reading where
  scanner : Scanner := {}
  poll : Poll := {}

namespace Reading

/-- Whether a line counts that comes next. -/
def counts (r : Reading) (line : List Char) : Bool :=
  !(r.scanner.inLogicalLine || isSilent line)

/-- Read the next line. -/
def step (r : Reading) (line : List Char) : Reading where
  scanner := r.scanner.scan line
  poll := if r.counts line then r.poll.addLine (leading line) else r.poll

/-- Read lines from the first one on. -/
def ofLines (lines : List (List Char)) : Reading := lines.foldl step {}

theorem ofLines_concat (lines : List (List Char)) (line : List Char) :
    ofLines (lines ++ [line]) = (ofLines lines).step line :=
  List.foldl_concat ..

theorem scanner_foldl (r : Reading) (lines : List (List Char)) :
    (lines.foldl step r).scanner = lines.foldl Scanner.scan r.scanner := by
  induction lines generalizing r with
  | nil => rfl
  | cons line lines ih => exact ih (r.step line)

/-- The lines that count are taken into account one after another. -/
theorem poll_foldl (r : Reading) (lines : List (List Char)) :
    (lines.foldl step r).poll =
      (counted r.scanner lines).foldl (fun poll line => poll.addLine (leading line)) r.poll := by
  induction lines generalizing r with
  | nil => rfl
  | cons line lines ih =>
    rw [List.foldl_cons, ih, counted, step, counts]
    cases r.scanner.inLogicalLine || isSilent line <;> rfl

end Reading

open Reading

theorem detect_eq (text : List Char) :
    detect text = (ofLines (Text.lines text)).poll.result := by
  rw [detect, ofLines, poll_foldl]

theorem counted_append (s : Scanner) (lines after : List (List Char)) :
    counted s (lines ++ after) = counted s lines ++ counted (lines.foldl Scanner.scan s) after := by
  induction lines generalizing s with
  | nil => rfl
  | cons line lines ih =>
    simp only [List.cons_append, counted, ih, List.foldl_cons]
    split <;> rfl

/-- The width of the last line that counted, or zero if none did. -/
def lastWidth (lines : List (List Char)) : Nat :=
  ((counted {} lines).getLast?.map fun line => width (leading line)).getD 0

theorem lastWidth_concat (lines : List (List Char)) (line : List Char) :
    lastWidth (lines ++ [line]) =
      if (ofLines lines).counts line then width (leading line) else lastWidth lines := by
  rw [lastWidth, counted_append, counts, ofLines, scanner_foldl, counted, counted]
  cases (lines.foldl Scanner.scan {}).inLogicalLine || isSilent line with
  | true => simp [lastWidth]
  | false => simp

/-- A line that counts and is narrower than the last one that counted has the width of a block that
is open. -/
def DedentsToLevels (lines : List (List Char)) : Prop :=
  ∀ k (hk : k < lines.length), (ofLines (lines.take k)).counts lines[k] = true →
    width (leading lines[k]) < lastWidth (lines.take k) →
    width (leading lines[k]) ∈ (ofLines (lines.take k)).poll.levels

instance : DecidablePred DedentsToLevels := fun lines =>
  Nat.decidableBallLT lines.length fun k hk =>
    (ofLines (lines.take k)).counts lines[k] = true →
    width (leading lines[k]) < lastWidth (lines.take k) →
    width (leading lines[k]) ∈ (ofLines (lines.take k)).poll.levels

theorem dedentsToLevels_concat (h : DedentsToLevels (lines ++ [line])) :
    DedentsToLevels lines ∧
      ((ofLines lines).counts line = true → width (leading line) < lastWidth lines →
        width (leading line) ∈ (ofLines lines).poll.levels) := by
  constructor
  · intro k hk
    have hthis := h k (by simp; omega)
    rwa [List.take_append_of_le_length (Nat.le_of_lt hk), List.getElem_append_left hk] at hthis
  · have hlast := h lines.length (by simp)
    rwa [List.take_left, List.getElem_concat_length rfl] at hlast

/-- Whatever was read, the open blocks fall from the innermost to the outermost one, and the
innermost one is not wider than the last line that counted. -/
theorem isStack_ofLines (lines : List (List Char)) :
    IsStack (ofLines lines).poll.levels ∧ (ofLines lines).poll.current ≤ lastWidth lines := by
  induction lines using List.reverseRecOn with
  | nil => exact ⟨isStack_start, Nat.le_refl 0⟩
  | append_singleton lines line ih =>
    rw [ofLines_concat, lastWidth_concat, step]
    cases (ofLines lines).counts line with
    | false => exact ih
    | true => exact ⟨Poll.isStack_addLine ih.1 _, Poll.current_addLine_le ih.1 _⟩

/-- If no line falls back between two blocks, the innermost block is as wide as the last line that
counted. -/
theorem DedentsToLevels.current_eq (h : DedentsToLevels lines) :
    (ofLines lines).poll.current = lastWidth lines := by
  -- by the last line, because what it may fall back to depends on all lines before it
  induction lines using List.reverseRecOn with
  | nil => rfl
  | append_singleton lines line ih =>
    obtain ⟨hbefore, hline⟩ := dedentsToLevels_concat h
    have hcurrent := ih hbefore
    rw [ofLines_concat, lastWidth_concat, step]
    cases hcounts : (ofLines lines).counts line with
    | false => exact hcurrent
    | true =>
      refine Poll.current_addLine (isStack_ofLines lines).1 fun hlt => hline hcounts ?_
      rwa [← hcurrent]

/-- While a text is read, the widths of the open blocks fall from the innermost one to the outermost
one, which has width zero, and the innermost one is not wider than the last line that counted. If
each line so far that counts and is narrower than the one before it falls back to the width of an
open block, then the innermost block is exactly as wide as the last line that counted: a line that
counts opens a block, and has a vote, if and only if it is wider than the one before it. -/
theorem levels_while_reading (text : List Char) :
    detect text = (ofLines (Text.lines text)).poll.result ∧
      ∀ k, let before := (Text.lines text).take k
        let poll := (ofLines before).poll
        IsStack poll.levels ∧ poll.current ≤ lastWidth before ∧
        (DedentsToLevels before → poll.current = lastWidth before ∧
          ∀ line ∈ (Text.lines text)[k]?, (ofLines before).counts line = true →
            Poll.Follow (lastWidth before) (leading line) poll
              (ofLines ((Text.lines text).take (k + 1))).poll) := by
  refine ⟨detect_eq text, fun k => ?_⟩
  intro before poll
  obtain ⟨hstack, hle⟩ := isStack_ofLines before
  refine ⟨hstack, hle, fun hdedents => ⟨hdedents.current_eq, ?_⟩⟩
  intro line hline hcounts
  have htake : (Text.lines text).take (k + 1) = before ++ [line] := by
    rw [List.take_add_one, hline]
    rfl
  rw [htake, ofLines_concat, step, hcounts, if_pos rfl, ← hdedents.current_eq]
  exact Poll.follow_addLine _ _

/-- A block in a block, and a line behind each of them. -/
def nestedText : String := "if a:\n    if b:\n\tc = (\n1)\n    d\ne\n"

theorem levels_while_reading_nestedText :
    let lines := Text.lines nestedText.toList
    DedentsToLevels (lines.take 4) ∧ (ofLines (lines.take 4)).counts "    d\n".toList = true ∧
      (ofLines (lines.take 4)).poll.current = 8 ∧
      (ofLines (lines.take 5)).poll.levels = Poll.closeTo 4 [8, 4, 0] := by
  intro lines
  have hdedents : DedentsToLevels (lines.take 4) := by decide +kernel
  have hcounts : (ofLines (lines.take 4)).counts "    d\n".toList = true := by decide +kernel
  obtain ⟨hcurrent, hnext⟩ := ((levels_while_reading nestedText.toList).2 4).2.2 hdedents
  have hcloses := (hnext "    d\n".toList (by decide +kernel) hcounts).closes (by decide +kernel)
  refine ⟨hdedents, hcounts, hcurrent.trans (by decide +kernel), ?_⟩
  exact (congrArg Poll.levels hcloses).trans (by decide +kernel)

/-- After a line that falls back between two blocks, a narrower line can open one. -/
example :
    let lines := Text.lines "if a:\n    b\n  c\n d\n".toList
    ¬ DedentsToLevels lines ∧ lastWidth (lines.take 3) = 2 ∧
      (ofLines lines).poll.levels = [1, 0] := by
  decide +kernel

end Codemod.Indentation
