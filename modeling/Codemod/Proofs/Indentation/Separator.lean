import Codemod.Proofs.Detection
import Codemod.Proofs.Indentation.Lexer

set_option autoImplicit false

/-! # Indentation and line separators

What a line leaves open does not depend on how it is ended: from wherever a lexer is at the end of a
body, any separator takes it to a place that a scanner remembers in the same way (`scan_sep`). Nor
do separators tell which lines are silent or what stands in front of them. So from bodies that are
joined by one separator the same lines count, whichever it is. The main statement is
`indentation_of_join`. -/

namespace Codemod.Indentation

variable {s : Scanner} {lx : Lexer} {lit : Literal} {c : Char} {body : List Char}
  {after : List (List Char)} {sep : Linesep}

/-! ## Places at the end of a body -/

/-- A place that is not behind a line end, and in no literal that anything but a quote opened. -/
def Place.IsSettled : Place → Prop
  | .code | .comment | .backslash => True
  | .joined _ | .escapedReturn _ => False
  | .quote q | .quotes q => IsQuote q
  | .inside lit _ | .escape lit => IsQuote lit.quote

theorem Lexer.isSettled_outside (lx : Lexer) (c : Char) : (lx.outside c).place.IsSettled := by
  unfold Lexer.outside
  split
  · trivial
  split
  · assumption
  split
  · trivial
  split
  · trivial
  split <;> trivial

theorem Lexer.isSettled_inside (lx : Lexer) (hquote : IsQuote lit.quote) (run : Nat) (c : Char) :
    (lx.inside lit run c).place.IsSettled := by
  unfold Lexer.inside
  split
  · exact hquote
  split
  · split
    · show Place.IsSettled (if run = 2 then .code else .inside lit (run + 1))
      split
      · trivial
      · exact hquote
    · exact hquote
  split
  · trivial
  · exact hquote

/-- Only a line end is the way to a place behind one. -/
theorem Place.IsSettled.step (h : lx.place.IsSettled) (hc : Text.isLineEnd c = false) :
    (lx.step c).place.IsSettled := by
  have hend : ¬ Text.isLineEnd c = true := by simp [hc]
  have hreturn : c ≠ '\r' := (Text.ne_of_isLineEnd rfl hc).symm
  obtain ⟨depth, place⟩ := lx
  cases place with
  | code => exact Lexer.isSettled_outside _ _
  | comment =>
    rw [show Lexer.step ⟨depth, .comment⟩ c = _ from if_neg hend]
    trivial
  | backslash =>
    rw [show Lexer.step ⟨depth, .backslash⟩ c = _ from if_neg hend]
    exact Lexer.isSettled_outside _ _
  | joined half => exact h.elim
  | quote q =>
    have hquote : IsQuote (Literal.mk q false).quote := h
    show (if c = q then _ else _ : Lexer).place.IsSettled
    split
    · exact h
    · exact Lexer.isSettled_inside _ hquote _ _
  | quotes q =>
    show (if c = q then _ else _ : Lexer).place.IsSettled
    split
    · exact h
    · exact Lexer.isSettled_outside _ _
  | inside lit run => exact Lexer.isSettled_inside _ h _ _
  | escape lit =>
    rw [Lexer.step_escape depth lit hreturn]
    exact h
  | escapedReturn lit => exact h.elim

theorem Place.IsSettled.read (h : lx.place.IsSettled) (hbody : Text.IsBody body) :
    (lx.read body).place.IsSettled := by
  induction body generalizing lx with
  | nil => exact h
  | cons c body ih =>
    obtain ⟨hc, hbody⟩ := Text.isBody_cons.mp hbody
    exact ih (h.step hc) hbody

/-- What a scanner remembers of a lexer behind a separator is the same for each of them. -/
theorem Place.IsSettled.scanner_read_sep (h : lx.place.IsSettled) (sep : Linesep) :
    (lx.read sep.chars).scanner = (lx.read Linesep.lf.chars).scanner := by
  obtain ⟨depth, place⟩ := lx
  cases place with
  | code => cases sep <;> rfl
  | comment => cases sep <;> rfl
  | backslash => cases sep <;> rfl
  | joined half => exact h.elim
  | quote q => rcases h with rfl | rfl <;> cases sep <;> rfl
  -- the second of two quotes has closed a literal, whatever comes now
  | quotes q => rcases h with rfl | rfl <;> cases sep <;> rfl
  | inside lit run =>
    obtain ⟨q, triple⟩ := lit
    rcases h with rfl | rfl <;> cases triple <;> cases sep <;> rfl
  | escape lit => cases sep <;> rfl
  | escapedReturn lit => exact h.elim

/-! ## Scanners -/

/-- A scanner that is in no literal that anything but a quote opened. -/
def Scanner.IsSound (s : Scanner) : Prop := ∀ lit, s.literal = some lit → IsQuote lit.quote

theorem Scanner.isSound_start : Scanner.IsSound {} := by
  rintro lit ⟨⟩

/-- A lexer that agrees with a scanner when a line begins. -/
def Scanner.lexer (s : Scanner) : Lexer where
  depth := s.depth
  place := match s.literal with
    | none => .code
    | some lit => .inside lit 0

theorem Scanner.IsSound.agrees (hs : s.IsSound) (rest : List Char) :
    Agrees { s with continued := false } s.lexer rest := by
  obtain ⟨depth, - | lit, continued⟩ := s
  · exact .of_none rfl rfl rfl (Lexer.isOutside_code _ _)
  · exact .of_some rfl rfl rfl (hs lit rfl) (Lexer.isInside_zero _ _ _)

theorem Scanner.IsSound.isSettled_lexer (hs : s.IsSound) : s.lexer.place.IsSettled := by
  obtain ⟨depth, - | lit, continued⟩ := s
  · trivial
  · exact hs lit rfl

theorem Scanner.IsSound.meets_scan (hs : s.IsSound) (hbody : Text.IsBody body) (sep : Linesep) :
    Meets (s.scan (body ++ sep.chars)) (s.lexer.read (body ++ sep.chars)) [] :=
  ends_of_agrees hbody (fun _ => by rintro ⟨⟩) (hs.agrees _)

theorem Scanner.IsSound.scan (hs : s.IsSound) (hbody : Text.IsBody body) (sep : Linesep) :
    (s.scan (body ++ sep.chars)).IsSound :=
  fun lit hlit => ((hs.meets_scan hbody sep).agrees.inside lit hlit).1

/-- A line leaves the same open whatever ends it. -/
theorem scan_sep (hs : s.IsSound) (hbody : Text.IsBody body) (sep sep' : Linesep) :
    s.scan (body ++ sep.chars) = s.scan (body ++ sep'.chars) := by
  have hsettled := hs.isSettled_lexer.read hbody
  rw [← (hs.meets_scan hbody sep).scanner, ← (hs.meets_scan hbody sep').scanner,
    Lexer.read_append, Lexer.read_append, hsettled.scanner_read_sep sep,
    hsettled.scanner_read_sep sep']

/-! ## Lines that count -/

theorem leading_append_sep (body : List Char) (sep : Linesep) :
    leading (body ++ sep.chars) = leading body := by
  induction body with
  | nil => cases sep <;> rfl
  | cons c body ih =>
    rw [leading] at ih ⊢
    rw [List.cons_append, List.takeWhile_cons, ih, leading, leading, List.takeWhile_cons]

theorem isSilent_cons (c : Char) (rest : List Char) :
    isSilent (c :: rest) =
      if isIndentChar c then isSilent rest else c == '#' || (c :: rest).all Text.isLineEnd := by
  by_cases hc : isIndentChar c = true
  · rw [isSilent, List.dropWhile_cons_of_pos hc, if_pos hc, isSilent]
  · rw [isSilent, List.dropWhile_cons_of_neg hc, if_neg hc]

theorem isSilent_append_sep (hbody : Text.IsBody body) (sep : Linesep) :
    isSilent (body ++ sep.chars) = isSilent body := by
  induction body with
  | nil => cases sep <;> rfl
  | cons c body ih =>
    obtain ⟨hc, hbody⟩ := Text.isBody_cons.mp hbody
    rw [List.cons_append, isSilent_cons, isSilent_cons, ih hbody, List.all_cons, List.all_cons, hc,
      Bool.false_and, Bool.false_and]

/-- What stands in front of the lines that count, where bodies are joined. -/
def indents (s : Scanner) (sep : Linesep) (bodies : List (List Char)) : List (List Char) :=
  (counted s (Text.lines (Text.join sep bodies))).map leading

/-- What is detected in a text whose lines are joined by a separator. -/
def joinedIndentation (sep : Linesep) (bodies : List (List Char)) : Detected Indentation :=
  Detection.indentation (.text (String.ofList (Text.join sep bodies)))

/-- An indentation is detected from what stands in front of the lines that count. -/
theorem joinedIndentation_eq (sep : Linesep) (bodies : List (List Char)) :
    joinedIndentation sep bodies =
      { answer := .ok ((indents {} sep bodies).foldl Poll.addLine {}).result
        stream := none
        log := [] } := by
  rw [joinedIndentation, Detection.indentation, Detection.ask_text, String.toList_ofList, detect,
    indents, List.foldl_map]

theorem indents_nil (s : Scanner) (sep : Linesep) : indents s sep [] = [] := rfl

theorem indents_cons (s : Scanner) (sep : Linesep) (hbody : Text.IsBody body)
    (hafter : ∀ body ∈ after, Text.IsBody body) :
    indents s sep (body :: after) =
      if s.inLogicalLine || isSilent body then indents (s.scan (body ++ sep.chars)) sep after
      else leading body :: indents (s.scan (body ++ sep.chars)) sep after := by
  by_cases hne : after = []
  · subst hne
    -- the last line has no separator; there is no such line if its body is empty
    rw [indents, Text.join, List.intercalate_singleton, indents_nil]
    cases body with
    | nil => rw [show isSilent [] = true from rfl, Bool.or_true]; rfl
    | cons c body =>
      rw [Text.lines_body hbody (List.cons_ne_nil c body), counted]
      split <;> rfl
  · rw [indents, Text.lines_join_cons sep hbody hafter hne, counted, isSilent_append_sep hbody,
      ← leading_append_sep body sep]
    split <;> rfl

/-- The same lines count, whichever separator bodies are joined by. -/
theorem indents_sep (hs : s.IsSound) {bodies : List (List Char)}
    (hbodies : ∀ body ∈ bodies, Text.IsBody body) (sep sep' : Linesep) :
    indents s sep bodies = indents s sep' bodies := by
  induction bodies generalizing s with
  | nil => rfl
  | cons body after ih =>
    obtain ⟨hbody, hafter⟩ := List.forall_mem_cons.mp hbodies
    rw [indents_cons s sep hbody hafter, indents_cons s sep' hbody hafter,
      ih (hs.scan hbody sep) hafter, scan_sep hs hbody sep sep']

/-- The indentation that is detected does not depend on the separator that lines are joined by. -/
theorem indentation_of_join {bodies : List (List Char)}
    (hbodies : ∀ body ∈ bodies, Text.IsBody body) (sep sep' : Linesep) :
    joinedIndentation sep bodies = joinedIndentation sep' bodies := by
  rw [joinedIndentation_eq, joinedIndentation_eq,
    indents_sep Scanner.isSound_start hbodies sep sep']

/-- A literal with an escaped line end, a bracket over two lines, a backslash at the end of a line,
a literal over two lines, and a block. -/
def openLines : List (List Char) :=
  ["s = 'a\\".toList, "  b' + f(1,".toList, "   2) \\".toList, " + '''".toList,
    "     '''".toList, "if s:".toList, "\tpass".toList, []]

theorem indentation_of_join_openLines :
    (∀ body ∈ openLines, Text.IsBody body) ∧
      joinedIndentation .crlf openLines = joinedIndentation .cr openLines := by
  have hbodies : ∀ body ∈ openLines, Text.IsBody body := by decide +kernel
  exact ⟨hbodies, indentation_of_join hbodies .crlf .cr⟩

end Codemod.Indentation
