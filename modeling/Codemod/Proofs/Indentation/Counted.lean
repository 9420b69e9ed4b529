import Codemod.Proofs.Indentation.Separator

set_option autoImplicit false

/-! # Lines that do not count

Only the lines that count decide on the indentation. A line that continues another one does not,
and the blanks in front of it are passed over by the scanner (`Scanner.scanChars_append_indent`),
so that nothing comes of changing them. A blank line or a comment does not count either, and where
nothing is open it leaves nothing open (`scan_silent`), so that it can be put anywhere else. The
main statement is `indentation_of_uncounted`. -/

namespace Codemod.Indentation

variable {s : Scanner} {lx : Lexer} {indent chars body rest : List Char}
  {before after after' : List (List Char)} {sep : Linesep}

/-! ## Blanks and comments -/

/-- A scanner passes over blanks, inside of literals and outside. -/
theorem Scanner.scanChars_append_indent (hs : s.IsSound)
    (hindent : ∀ c ∈ indent, isIndentChar c = true) (chars : List Char) :
    s.scanChars (indent ++ chars) = s.scanChars chars := by
  induction indent with
  | nil => rfl
  | cons c indent ih =>
    obtain ⟨hc, hindent⟩ := List.forall_mem_cons.mp hindent
    rw [List.cons_append, ← ih hindent]
    simp only [isIndentChar, Bool.or_eq_true, beq_iff_eq] at hc
    -- a blank is none of the characters that the scanner looks for
    cases hliteral : s.literal with
    | none =>
      rw [scanChars_outside hliteral]
      rcases hc with (rfl | rfl) | rfl <;> rfl
    | some lit =>
      rw [scanChars_inside hliteral, startsWithQuotes_succ_cons]
      obtain ⟨q, triple⟩ := lit
      rcases hs _ hliteral with rfl | rfl <;> cases triple <;>
        rcases hc with (rfl | rfl) | rfl <;> rfl

/-- The code of a line that holds none: nothing at all, or a comment. -/
inductive IsComment : List Char → Prop where
  | blank : IsComment []
  | comment (text : List Char) (htext : Text.IsBody text) : IsComment ('#' :: text)

theorem IsComment.isBody {comment : List Char} (h : IsComment comment) : Text.IsBody comment := by
  cases h with
  | blank => exact Text.isBody_nil
  | comment text htext => exact Text.isBody_cons.mpr ⟨rfl, htext⟩

theorem isBody_of_isIndentChar (hindent : ∀ c ∈ indent, isIndentChar c = true) :
    Text.IsBody indent := by
  intro c hc
  have hblank := hindent c hc
  simp only [isIndentChar, Bool.or_eq_true, beq_iff_eq] at hblank
  rcases hblank with (rfl | rfl) | rfl <;> decide

theorem IsComment.isSilent {comment : List Char} (h : IsComment comment)
    (hindent : ∀ c ∈ indent, isIndentChar c = true) : isSilent (indent ++ comment) = true := by
  rw [Indentation.isSilent, List.dropWhile_append_of_pos hindent]
  cases h <;> rfl

/-- Where nothing is open, a blank line or a comment leaves nothing open. -/
theorem scan_silent {comment : List Char} (h : IsComment comment)
    (hindent : ∀ c ∈ indent, isIndentChar c = true) (sep : Linesep) :
    Scanner.scan {} (indent ++ comment ++ sep.chars) = {} := by
  rw [Scanner.scan, List.append_assoc,
    Scanner.scanChars_append_indent Scanner.isSound_start hindent]
  cases h with
  | blank => exact Scanner.scanChars_sep_of_none rfl sep
  | comment text htext => exact Scanner.scanChars_outside rfl _ _

/-! ## Texts with one separator -/

/-- Scanner and lexer meet behind lines that are ended by the same separator. -/
theorem Meets.foldl_bodies (h : Meets s lx (before.flatMap (· ++ sep.chars) ++ rest))
    (hbefore : ∀ body ∈ before, Text.IsBody body) (hrest : sep = .cr → rest.head? ≠ some '\n') :
    Meets ((before.map (· ++ sep.chars)).foldl Scanner.scan s)
      (lx.read (before.flatMap (· ++ sep.chars))) rest := by
  induction before generalizing s lx with
  | nil => exact h
  | cons body before ih =>
    obtain ⟨hbody, hbefore⟩ := List.forall_mem_cons.mp hbefore
    rw [List.flatMap_cons, List.append_assoc] at h
    rw [List.map_cons, List.foldl_cons, List.flatMap_cons, Lexer.read_append]
    exact ih (h.scan hbody (Text.head?_flatMap_append hbefore hrest)) hbefore

/-- What stands in front of the lines that count depends on later lines only from there on. -/
theorem indents_append_congr (hbefore : ∀ body ∈ before, Text.IsBody body)
    (hafter : ∀ body ∈ after, Text.IsBody body) (hafter' : ∀ body ∈ after', Text.IsBody body)
    (h : indents ((before.map (· ++ sep.chars)).foldl Scanner.scan s) sep after =
      indents ((before.map (· ++ sep.chars)).foldl Scanner.scan s) sep after') :
    indents s sep (before ++ after) = indents s sep (before ++ after') := by
  induction before generalizing s with
  | nil => exact h
  | cons body before ih =>
    obtain ⟨hbody, hbefore⟩ := List.forall_mem_cons.mp hbefore
    have hall : ∀ body ∈ before ++ after, Text.IsBody body :=
      List.forall_mem_append.mpr ⟨hbefore, hafter⟩
    have hall' : ∀ body ∈ before ++ after', Text.IsBody body :=
      List.forall_mem_append.mpr ⟨hbefore, hafter'⟩
    rw [List.cons_append, List.cons_append, indents_cons s sep hbody hall,
      indents_cons s sep hbody hall', ih hbefore h]

/-- A line that continues another one counts for what it leaves open only. -/
theorem indents_cons_of_inLogicalLine (hopen : s.inLogicalLine = true) (hs : s.IsSound)
    (hindent : ∀ c ∈ indent, isIndentChar c = true) (hrest : Text.IsBody rest)
    (hafter : ∀ body ∈ after, Text.IsBody body) :
    indents s sep ((indent ++ rest) :: after) = indents (s.scan (rest ++ sep.chars)) sep after := by
  have hbody : Text.IsBody (indent ++ rest) :=
    Text.isBody_append.mpr ⟨isBody_of_isIndentChar hindent, hrest⟩
  have hsound : Scanner.IsSound { s with continued := false } := hs
  have hscan : s.scan (indent ++ rest ++ sep.chars) = s.scan (rest ++ sep.chars) := by
    rw [List.append_assoc]
    exact Scanner.scanChars_append_indent hsound hindent _
  rw [indents_cons s sep hbody hafter, hopen, Bool.true_or, if_pos rfl, hscan]

/-- A blank line or a comment counts for nothing where nothing is open. -/
theorem indents_cons_of_isComment {comment : List Char} (h : IsComment comment)
    (hindent : ∀ c ∈ indent, isIndentChar c = true) (hafter : ∀ body ∈ after, Text.IsBody body) :
    indents {} sep ((indent ++ comment) :: after) = indents {} sep after := by
  have hbody : Text.IsBody (indent ++ comment) :=
    Text.isBody_append.mpr ⟨isBody_of_isIndentChar hindent, h.isBody⟩
  rw [indents_cons {} sep hbody hafter, h.isSilent hindent, Bool.or_true, if_pos rfl,
    scan_silent h hindent]

theorem Scanner.eq_start_of_not_inLogicalLine (h : s.inLogicalLine = false) : s = {} := by
  obtain ⟨depth, literal, continued⟩ := s
  simp only [inLogicalLine, Bool.or_eq_false_iff, decide_eq_false_iff_not, Nat.not_lt,
    Nat.le_zero, Option.isSome_eq_false_iff, Option.isNone_iff_eq_none] at h
  obtain ⟨⟨rfl, rfl⟩, rfl⟩ := h
  rfl

/-- Only lines that count have a say in the indentation of a text whose lines are joined by one
separator. Where a lexer that has read the text up to a line is in an open bracket, in a literal or
behind a backslash that ended the line before, the blanks in front of the line may be any. Where it
is not, a blank line or a comment, with any blanks in front of it, may be put before the line. -/
theorem indentation_of_uncounted (sep : Linesep) (hbefore : ∀ body ∈ before, Text.IsBody body)
    (hafter : ∀ body ∈ after, Text.IsBody body) :
    ((Lexer.read {} (before.flatMap (· ++ sep.chars))).isOpen = true →
      ∀ indent indent' rest : List Char, (∀ c ∈ indent, isIndentChar c = true) →
        (∀ c ∈ indent', isIndentChar c = true) → Text.IsBody rest →
        joinedIndentation sep (before ++ (indent ++ rest) :: after) =
          joinedIndentation sep (before ++ (indent' ++ rest) :: after)) ∧
    ((Lexer.read {} (before.flatMap (· ++ sep.chars))).isOpen = false →
      ∀ indent comment body : List Char, (∀ c ∈ indent, isIndentChar c = true) →
        IsComment comment → Text.IsBody body →
        joinedIndentation sep (before ++ (indent ++ comment) :: body :: after) =
          joinedIndentation sep (before ++ body :: after)) := by
  have hmeets : Meets ((before.map (· ++ sep.chars)).foldl Scanner.scan {})
      (Lexer.read {} (before.flatMap (· ++ sep.chars))) [] :=
    (meets_start _).foldl_bodies hbefore fun _ => by rintro ⟨⟩
  rw [Lexer.isOpen_eq, hmeets.scanner]
  simp only [joinedIndentation_eq]
  constructor
  · intro hopen indent indent' rest hindent hindent' hrest
    have hsound : Scanner.IsSound ((before.map (· ++ sep.chars)).foldl Scanner.scan {}) :=
      fun lit hlit => (hmeets.agrees.inside lit hlit).1
    have hline : Text.IsBody (indent ++ rest) :=
      Text.isBody_append.mpr ⟨isBody_of_isIndentChar hindent, hrest⟩
    have hline' : Text.IsBody (indent' ++ rest) :=
      Text.isBody_append.mpr ⟨isBody_of_isIndentChar hindent', hrest⟩
    rw [indents_append_congr hbefore (List.forall_mem_cons.mpr ⟨hline, hafter⟩)
      (List.forall_mem_cons.mpr ⟨hline', hafter⟩)]
    rw [indents_cons_of_inLogicalLine hopen hsound hindent hrest hafter,
      indents_cons_of_inLogicalLine hopen hsound hindent' hrest hafter]
  · intro hclosed indent comment body hindent hcomment hbody
    have hrest : ∀ line ∈ body :: after, Text.IsBody line :=
      List.forall_mem_cons.mpr ⟨hbody, hafter⟩
    have hline : Text.IsBody (indent ++ comment) :=
      Text.isBody_append.mpr ⟨isBody_of_isIndentChar hindent, hcomment.isBody⟩
    rw [indents_append_congr hbefore (List.forall_mem_cons.mpr ⟨hline, hrest⟩) hrest]
    rw [Scanner.eq_start_of_not_inLogicalLine hclosed,
      indents_cons_of_isComment hcomment hindent hrest]

/-- The blanks in front of a line in a literal in a bracket are changed; and a comment that would
open a bracket and a literal is put into a block. -/
theorem indentation_of_uncounted_of_openCall :
    ((Lexer.read {} (["s = f('''a".toList].flatMap (· ++ Linesep.crlf.chars))).isOpen = true ∧
      joinedIndentation .crlf
          (["s = f('''a".toList] ++ ("  ".toList ++ "b''')".toList) ::
            ["if s:".toList, "   t".toList, []]) =
        joinedIndentation .crlf
          (["s = f('''a".toList] ++ ("\t\x0c ".toList ++ "b''')".toList) ::
            ["if s:".toList, "   t".toList, []])) ∧
    ((Lexer.read {} (["if s:  # (".toList].flatMap (· ++ Linesep.cr.chars))).isOpen = false ∧
      joinedIndentation .cr
          (["if s:  # (".toList] ++ ("\t".toList ++ "# ['\\".toList) :: "   t".toList :: []) =
        joinedIndentation .cr (["if s:  # (".toList] ++ "   t".toList :: [])) := by
  have hopen : (Lexer.read {} (["s = f('''a".toList].flatMap (· ++ Linesep.crlf.chars))).isOpen =
      true := by decide +kernel
  have hclosed : (Lexer.read {} (["if s:  # (".toList].flatMap (· ++ Linesep.cr.chars))).isOpen =
      false := by decide +kernel
  have hcall : ∀ body ∈ ["s = f('''a".toList], Text.IsBody body := by decide +kernel
  have hcallAfter : ∀ body ∈ ["if s:".toList, "   t".toList, []], Text.IsBody body := by
    decide +kernel
  have hblock : ∀ body ∈ ["if s:  # (".toList], Text.IsBody body := by decide +kernel
  refine ⟨⟨hopen, ?_⟩, ⟨hclosed, ?_⟩⟩
  · exact (indentation_of_uncounted .crlf hcall hcallAfter).1 hopen _ _ _
      (List.all_eq_true.mp rfl) (List.all_eq_true.mp rfl) (by decide +kernel)
  · exact (indentation_of_uncounted .cr hblock (List.forall_mem_nil _)).2 hclosed _ _ _
      (List.all_eq_true.mp rfl) (.comment _ (by decide +kernel)) (by decide +kernel)

end Codemod.Indentation
