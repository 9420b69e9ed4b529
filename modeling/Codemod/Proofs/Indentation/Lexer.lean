import Codemod.Indentation
import Codemod.Proofs.Indentation.Scan
import Codemod.Proofs.Text.Line

set_option autoImplicit false

/-! # A lexer that reads a text in one pass

The scanner goes from line to line, looks ahead in each, and jumps over what belongs together. The
lexer here takes a whole text one character at a time and never looks ahead: what it has to know of
the characters before is its place (`Place`). It knows nothing of lines, only that some characters
end comments, one-quote literals and backslashes. Between any two lines both are at the same point
(`Agrees`, carried through a line by `ends_of_agrees`), so the scanner tells the lines apart that
continue another one just as the lexer does. The main statement is `inLogicalLine_eq_isOpen`. -/

namespace Codemod.Indentation

open Scanner (isOpening isClosing startsWithQuotes)

/-! ## The lexer -/

/-- Where in a text a lexer is. -/
inductive Place where
  /-- Outside of literals and comments. -/
  | code
  /-- In a comment. -/
  | comment
  /-- Outside of literals and comments, right after a backslash. -/
  | backslash
  /-- Right after a backslash and a line end. It is `half` a line end if it is a carriage return so
  far, which a line feed may follow. -/
  | joined (half : Bool)
  /-- Right after the quote that opened a literal. -/
  | quote (q : Char)
  /-- Right after two quotes: an empty literal, unless there is a third one. -/
  | quotes (q : Char)
  /-- In a literal, right after so many of the three quotes that would close it. -/
  | inside (lit : Literal) (run : Nat)
  /-- In a literal, right after a backslash. -/
  | escape (lit : Literal)
  /-- In a literal, right after an escaped carriage return, which a line feed may follow. -/
  | escapedReturn (lit : Literal)
deriving DecidableEq, Repr

namespace Place

/-- The literal that a place is in. -/
def literal? : Place → Option Literal
  | .code | .comment | .backslash | .joined _ | .quotes _ => none
  | .quote q => some ⟨q, false⟩
  | .inside lit _ | .escape lit | .escapedReturn lit => some lit

/-- Whether a backslash ended the line before. -/
def isJoined : Place → Bool
  | .joined _ => true
  | _ => false

end Place

/-- A lexer: the brackets that are open, and the place it is at. -/
structure Lexer where
  depth : Nat := 0
  place : Place := .code
deriving DecidableEq, Repr

namespace Lexer

/-- A character outside of literals and comments. There are never fewer than no brackets open. -/
def outside (lx : Lexer) (c : Char) : Lexer :=
  if c = '#' then { lx with place := .comment }
  else if c = '\'' ∨ c = '"' then { lx with place := .quote c }
  else if isOpening c then { depth := lx.depth + 1, place := .code }
  else if isClosing c then { depth := lx.depth - 1, place := .code }
  else if c = '\\' then { lx with place := .backslash }
  else { lx with place := .code }

/-- A character in a literal, after so many of the quotes that would close it. A line end closes it
as its quote does, unless three quotes are needed. -/
def inside (lx : Lexer) (lit : Literal) (run : Nat) (c : Char) : Lexer :=
  if c = '\\' then { lx with place := .escape lit }
  else if lit.triple then
    if c = lit.quote then { lx with place := if run = 2 then .code else .inside lit (run + 1) }
    else { lx with place := .inside lit 0 }
  else if c = lit.quote ∨ Text.isLineEnd c then { lx with place := .code }
  else { lx with place := .inside lit 0 }

/-- Take one character. -/
def step (lx : Lexer) (c : Char) : Lexer :=
  match lx.place with
  | .code => lx.outside c
  | .comment => if Text.isLineEnd c then { lx with place := .code } else lx
  | .backslash =>
    if Text.isLineEnd c then { lx with place := .joined (c == '\r') } else lx.outside c
  | .joined half => if half ∧ c = '\n' then { lx with place := .joined false } else lx.outside c
  | .quote q => if c = q then { lx with place := .quotes q } else lx.inside ⟨q, false⟩ 0 c
  | .quotes q => if c = q then { lx with place := .inside ⟨q, true⟩ 0 } else lx.outside c
  | .inside lit run => lx.inside lit run c
  | .escape lit =>
    { lx with place := if c = '\r' then .escapedReturn lit else .inside lit 0 }
  | .escapedReturn lit =>
    if c = '\n' then { lx with place := .inside lit 0 } else lx.inside lit 0 c

/-- Take the characters of a text one by one. -/
def read (lx : Lexer) (text : List Char) : Lexer :=
  text.foldl step lx

/-- Whether something is open: a bracket, a literal, or a line that a backslash ended. -/
def isOpen (lx : Lexer) : Bool :=
  0 < lx.depth || lx.place.literal?.isSome || lx.place.isJoined

theorem read_cons (lx : Lexer) (c : Char) (text : List Char) :
    lx.read (c :: text) = (lx.step c).read text := rfl

theorem read_append (lx : Lexer) (text rest : List Char) :
    lx.read (text ++ rest) = (lx.read text).read rest :=
  List.foldl_append

theorem step_quote_self (depth : Nat) (q : Char) :
    step ⟨depth, .quote q⟩ q = ⟨depth, .quotes q⟩ := if_pos rfl

theorem step_quotes_self (depth : Nat) (q : Char) :
    step ⟨depth, .quotes q⟩ q = ⟨depth, .inside ⟨q, true⟩ 0⟩ := if_pos rfl

theorem step_escape (depth : Nat) (lit : Literal) {c : Char} (hc : c ≠ '\r') :
    step ⟨depth, .escape lit⟩ c = ⟨depth, .inside lit 0⟩ :=
  congrArg (Lexer.mk depth) (if_neg hc)

/-! ## Agreement -/

/-- What a scanner has to remember of a lexer. -/
def scanner (lx : Lexer) : Scanner :=
  { depth := lx.depth, literal := lx.place.literal?, continued := lx.place.isJoined }

theorem isOpen_eq (lx : Lexer) : lx.isOpen = lx.scanner.inLogicalLine := rfl

/-- A lexer that goes on as it does outside of literals. -/
def IsOutside (lx : Lexer) (rest : List Char) : Prop :=
  ∀ c ∈ rest.head?, lx.step c = lx.outside c

/-- A lexer that goes on as it does in a literal. If some of three quotes come before, then the rest
of them does not follow. -/
def IsInside (lx : Lexer) (lit : Literal) (rest : List Char) : Prop :=
  ∃ run < 3, (∀ c ∈ rest.head?, lx.step c = lx.inside lit run c) ∧
    (run ≠ 0 → startsWithQuotes (3 - run) lit.quote rest = false)

end Lexer

/-- A character that opens a literal. -/
def IsQuote (c : Char) : Prop := c = '\'' ∨ c = '"'

theorem IsQuote.not_lineEnd {c : Char} (h : IsQuote c) : Text.isLineEnd c = false := by
  rcases h with rfl | rfl <;> decide

theorem IsQuote.ne_backslash {c : Char} (h : IsQuote c) : c ≠ '\\' := by
  rcases h with rfl | rfl <;> decide

/-- A scanner in a line and a lexer, if they are at the same point. -/
structure Agrees (s : Scanner) (lx : Lexer) (rest : List Char) : Prop where
  depth : lx.depth = s.depth
  continued : s.continued = false
  outside : s.literal = none → lx.IsOutside rest
  inside : ∀ lit, s.literal = some lit → IsQuote lit.quote ∧ lx.IsInside lit rest

variable {s s' : Scanner} {lx lx' : Lexer} {lit : Literal} {c : Char}
  {body chars chars' line rest : List Char} {sep : Linesep}

/-- Outside of literals a scanner agrees with a lexer that is at the same depth. -/
theorem Agrees.of_none (hliteral : s.literal = none) (hcontinued : s.continued = false)
    (hdepth : lx.depth = s.depth) (h : lx.IsOutside rest) : Agrees s lx rest :=
  ⟨hdepth, hcontinued, fun _ => h, fun lit hlit => by rw [hliteral] at hlit; cases hlit⟩

theorem Agrees.of_some (hliteral : s.literal = some lit) (hcontinued : s.continued = false)
    (hdepth : lx.depth = s.depth) (hquote : IsQuote lit.quote) (h : lx.IsInside lit rest) :
    Agrees s lx rest := by
  refine ⟨hdepth, hcontinued, fun hnone => ?_, fun lit' hlit' => ?_⟩
  · rw [hliteral] at hnone
    cases hnone
  · rw [hliteral] at hlit'
    cases hlit'
    exact ⟨hquote, h⟩

/-- A lexer that is in code goes on as such. -/
theorem Lexer.isOutside_code (depth : Nat) (rest : List Char) :
    Lexer.IsOutside ⟨depth, .code⟩ rest := fun _ _ => rfl

theorem Lexer.isInside_zero (depth : Nat) (lit : Literal) (rest : List Char) :
    Lexer.IsInside ⟨depth, .inside lit 0⟩ lit rest :=
  ⟨0, by omega, fun _ _ => rfl, fun h => absurd rfl h⟩

/-- A scanner and a lexer between two lines: the scanner is what it has to remember of the lexer,
and agrees with it when the next line begins. -/
structure Meets (s : Scanner) (lx : Lexer) (rest : List Char) : Prop where
  scanner : lx.scanner = s
  agrees : Agrees { s with continued := false } lx rest

/-- The scanner and the lexer meet when they have taken the same characters, the last ones of a
line. -/
def Ends (s : Scanner) (lx : Lexer) (line rest : List Char) : Prop :=
  Meets (s.scanChars line) (lx.read line) rest

theorem Ends.of_eq (h : Ends s' lx' chars' rest) (hscan : s.scanChars chars = s'.scanChars chars')
    (hread : lx.read chars = lx'.read chars') : Ends s lx chars rest := by
  rw [Ends, hscan, hread]
  exact h

/-- A line has ended if the scanner remembers the place that the lexer is at. -/
theorem Ends.of_place {place : Place} (hscan : s.scanChars chars = s')
    (hread : lx.read chars = ⟨s'.depth, place⟩) (hliteral : place.literal? = s'.literal)
    (hcontinued : place.isJoined = s'.continued)
    (hagrees : Agrees { s' with continued := false } ⟨s'.depth, place⟩ rest) :
    Ends s lx chars rest := by
  rw [Ends, hscan, hread]
  exact ⟨by rw [Lexer.scanner, hliteral, hcontinued], hagrees⟩

/-! ## Line ends -/

theorem Lexer.outside_of_lineEnd (lx : Lexer) (hc : Text.isLineEnd c = true) :
    lx.outside c = { lx with place := .code } := by
  simp only [Text.isLineEnd, Bool.or_eq_true, beq_iff_eq] at hc
  rcases hc with rfl | rfl <;> rfl

theorem Lexer.inside_of_lineEnd (lx : Lexer) (run : Nat) (hquote : IsQuote lit.quote)
    (hc : Text.isLineEnd c = true) :
    lx.inside lit run c = { lx with place := if lit.triple then .inside lit 0 else .code } := by
  have hne : c ≠ lit.quote := Text.ne_of_isLineEnd hc hquote.not_lineEnd
  have hbackslash : c ≠ '\\' := Text.ne_of_isLineEnd hc rfl
  have hcloses : c = lit.quote ∨ Text.isLineEnd c = true := .inr hc
  rw [Lexer.inside, if_neg hbackslash, if_neg hne, if_pos hcloses]
  split <;> rfl

theorem Lexer.read_sep_of_outside (h : lx.IsOutside sep.chars) :
    lx.read sep.chars = ⟨lx.depth, .code⟩ := by
  cases sep with
  | lf => exact (h _ rfl).trans (lx.outside_of_lineEnd rfl)
  | crlf =>
    show (lx.step '\r').step '\n' = _
    rw [h _ rfl, lx.outside_of_lineEnd rfl]
    rfl
  | cr => exact (h _ rfl).trans (lx.outside_of_lineEnd rfl)

theorem Lexer.read_sep_of_inside (hquote : IsQuote lit.quote) (h : lx.IsInside lit sep.chars) :
    lx.read sep.chars = ⟨lx.depth, if lit.triple then .inside lit 0 else .code⟩ := by
  obtain ⟨run, -, hstep, -⟩ := h
  cases sep with
  | lf => exact (hstep _ rfl).trans (lx.inside_of_lineEnd run hquote rfl)
  | crlf =>
    show (lx.step '\r').step '\n' = _
    rw [hstep _ rfl, lx.inside_of_lineEnd run hquote rfl]
    cases htriple : lit.triple with
    | true =>
      rw [if_pos rfl]
      refine (Lexer.inside_of_lineEnd _ 0 hquote rfl).trans ?_
      rw [htriple, if_pos rfl]
    | false => rfl
  | cr => exact (hstep _ rfl).trans (lx.inside_of_lineEnd run hquote rfl)

theorem Scanner.scanChars_lineEnd_of_none (hs : s.literal = none)
    (hc : Text.isLineEnd c = true) (chars : List Char) :
    s.scanChars (c :: chars) = s.scanChars chars := by
  rw [Scanner.scanChars_outside hs]
  simp only [Text.isLineEnd, Bool.or_eq_true, beq_iff_eq] at hc
  rcases hc with rfl | rfl <;> rfl

theorem Scanner.scanChars_sep_of_none (hs : s.literal = none) (sep : Linesep) :
    s.scanChars sep.chars = s := by
  cases sep with
  | lf => rw [Linesep.chars, scanChars_lineEnd_of_none hs rfl, scanChars_nil]
  | crlf =>
    rw [Linesep.chars, scanChars_lineEnd_of_none hs rfl, scanChars_lineEnd_of_none hs rfl,
      scanChars_nil]
  | cr => rw [Linesep.chars, scanChars_lineEnd_of_none hs rfl, scanChars_nil]

theorem Scanner.scanChars_lineEnd_of_some (hs : s.literal = some lit) (hquote : IsQuote lit.quote)
    (hc : Text.isLineEnd c = true) (chars : List Char) :
    s.scanChars (c :: chars) =
      if lit.triple then s.scanChars chars
      else Scanner.scanChars { s with literal := none } chars := by
  have hne : lit.quote ≠ c := (Text.ne_of_isLineEnd hc hquote.not_lineEnd).symm
  have hbackslash : c ≠ '\\' := Text.ne_of_isLineEnd hc rfl
  have hcloses : c = lit.quote ∨ Text.isLineEnd c = true := .inr hc
  rw [Scanner.scanChars_inside hs, if_neg hbackslash, Scanner.startsWithQuotes_succ_cons,
    beq_false_of_ne hne, Bool.false_and, if_neg Bool.false_ne_true, if_pos hcloses]

theorem Scanner.scanChars_sep_of_some (hs : s.literal = some lit) (hquote : IsQuote lit.quote)
    (sep : Linesep) :
    s.scanChars sep.chars = if lit.triple then s else { s with literal := none } := by
  have hclosed : ∀ chars, Scanner.scanChars { s with literal := none } ('\n' :: chars) =
      Scanner.scanChars { s with literal := none } chars :=
    fun chars => scanChars_lineEnd_of_none rfl rfl chars
  cases sep with
  | lf => rw [Linesep.chars, scanChars_lineEnd_of_some hs hquote rfl, scanChars_nil, scanChars_nil]
  | crlf =>
    rw [Linesep.chars, scanChars_lineEnd_of_some hs hquote rfl,
      scanChars_lineEnd_of_some hs hquote rfl, hclosed, scanChars_nil, scanChars_nil]
    split <;> rfl
  | cr => rw [Linesep.chars, scanChars_lineEnd_of_some hs hquote rfl, scanChars_nil, scanChars_nil]

/-- Nothing but a separator is left of the line. -/
theorem ends_sep (h : Agrees s lx sep.chars) (rest : List Char) : Ends s lx sep.chars rest := by
  cases hs : s.literal with
  | none =>
    have hread := Lexer.read_sep_of_outside (h.outside hs)
    rw [h.depth] at hread
    exact .of_place (Scanner.scanChars_sep_of_none hs sep) hread hs.symm h.continued.symm
      (.of_none hs rfl rfl (Lexer.isOutside_code _ _))
  | some lit =>
    obtain ⟨hquote, hinside⟩ := h.inside lit hs
    have hscan := Scanner.scanChars_sep_of_some hs hquote sep
    have hread := Lexer.read_sep_of_inside hquote hinside
    rw [h.depth] at hread
    cases htriple : lit.triple with
    | true =>
      rw [htriple, if_pos rfl] at hscan hread
      exact .of_place hscan hread hs.symm h.continued.symm
        (.of_some hs rfl rfl hquote (Lexer.isInside_zero _ _ _))
    | false =>
      rw [htriple, if_neg Bool.false_ne_true] at hscan hread
      exact .of_place hscan hread rfl h.continued.symm
        (.of_none rfl rfl rfl (Lexer.isOutside_code _ _))

theorem Lexer.step_inside_quote {run : Nat} {depth : Nat} (htriple : lit.triple = true)
    (hquote : IsQuote lit.quote) :
    Lexer.step ⟨depth, .inside lit run⟩ lit.quote =
      ⟨depth, if run = 2 then .code else .inside lit (run + 1)⟩ := by
  refine (if_neg hquote.ne_backslash).trans ?_
  rw [if_pos htriple, if_pos rfl]

/-! ## Lines -/

theorem Lexer.read_comment (hbody : Text.IsBody body) (depth : Nat) :
    Lexer.read ⟨depth, .comment⟩ (body ++ sep.chars) = ⟨depth, .code⟩ := by
  induction body with
  | nil => cases sep <;> rfl
  | cons c body ih =>
    obtain ⟨hc, hbody⟩ := Text.isBody_cons.mp hbody
    have hstep : Lexer.step ⟨depth, .comment⟩ c = ⟨depth, .comment⟩ := by
      simp only [Lexer.step, hc, Bool.false_eq_true, if_false]
    rw [List.cons_append, Lexer.read_cons, hstep, ih hbody]

/-- A separator does not begin with a quote, so quotes that come next stand before it. -/
theorem exists_of_startsWithQuotes {q : Char} (hquote : IsQuote q) {n : Nat}
    (h : startsWithQuotes n q (body ++ sep.chars) = true) :
    ∃ body', body = List.replicate n q ++ body' := by
  induction n generalizing body with
  | zero => exact ⟨body, rfl⟩
  | succ n ih =>
    cases body with
    | nil =>
      cases sep <;>
        · rw [List.nil_append, Linesep.chars, Scanner.startsWithQuotes_succ_cons,
            Bool.and_eq_true, beq_iff_eq] at h
          have hend := hquote.not_lineEnd
          rw [h.1] at hend
          exact absurd hend (by decide)
    | cons c body =>
      rw [List.cons_append, Scanner.startsWithQuotes_succ_cons, Bool.and_eq_true, beq_iff_eq] at h
      obtain ⟨rfl, h⟩ := h
      obtain ⟨body', rfl⟩ := ih h
      exact ⟨body', rfl⟩

theorem startsWithQuotes_of_le {q : Char} {m n : Nat} (hmn : m ≤ n)
    (h : startsWithQuotes n q chars = true) : startsWithQuotes m q chars = true := by
  obtain ⟨k, rfl⟩ := Nat.exists_eq_add_of_le hmn
  obtain ⟨rest, rfl⟩ := List.isPrefixOf_iff_prefix.mp h
  refine List.isPrefixOf_iff_prefix.mpr ⟨List.replicate k q ++ rest, ?_⟩
  rw [← List.append_assoc, List.replicate_append_replicate]

/-- What is to be shown of a line holds of all shorter ends of it. -/
def EndsBelow (body : List Char) (sep : Linesep) (rest : List Char) : Prop :=
  ∀ ⦃body' : List Char⦄ ⦃s' : Scanner⦄ ⦃lx' : Lexer⦄, body'.length ≤ body.length →
    Text.IsBody body' → Agrees s' lx' (body' ++ sep.chars) → Ends s' lx' (body' ++ sep.chars) rest

/-- The scanner takes one character, and goes on in agreement with the lexer. -/
theorem EndsBelow.cons (ih : EndsBelow body sep rest) (hbody : Text.IsBody body)
    (hscan : s.scanChars (c :: (body ++ sep.chars)) = s'.scanChars (body ++ sep.chars))
    (hstep : lx.step c = lx') (h : Agrees s' lx' (body ++ sep.chars)) :
    Ends s lx (c :: (body ++ sep.chars)) rest := by
  refine (ih (Nat.le_refl _) hbody h).of_eq hscan ?_
  rw [Lexer.read_cons, hstep]

/-- A quote outside of literals. -/
theorem ends_quote (hs : s.literal = none) (hcontinued : s.continued = false)
    (hdepth : lx.depth = s.depth) (hquote : IsQuote c) (hbody : Text.IsBody body)
    (ih : EndsBelow body sep rest) (hstep : lx.step c = lx.outside c) :
    Ends s lx (c :: (body ++ sep.chars)) rest := by
  have hcomment : c ≠ '#' := by rcases hquote with rfl | rfl <;> decide
  have hopens : c = '\'' ∨ c = '"' := hquote
  have hlexer : lx.step c = ⟨s.depth, .quote c⟩ := by
    rw [hstep, Lexer.outside, if_neg hcomment, if_pos hopens, hdepth]
  have hscan := Scanner.scanChars_outside hs c (body ++ sep.chars)
  rw [if_neg hcomment, if_pos hopens] at hscan
  by_cases htriple : startsWithQuotes 2 c (body ++ sep.chars) = true
  · -- three quotes: the lexer takes them one by one
    rw [if_pos htriple] at hscan
    obtain ⟨body, rfl⟩ := exists_of_startsWithQuotes hquote htriple
    have hread : lx.read (c :: (List.replicate 2 c ++ body ++ sep.chars)) =
        Lexer.read ⟨s.depth, .inside ⟨c, true⟩ 0⟩ (body ++ sep.chars) := by
      show lx.read (c :: c :: c :: (body ++ sep.chars)) = _
      rw [Lexer.read_cons, hlexer, Lexer.read_cons, Lexer.step_quote_self, Lexer.read_cons,
        Lexer.step_quotes_self]
    rw [Text.isBody_append] at hbody
    have hshorter : body.length ≤ (List.replicate 2 c ++ body).length := by
      rw [List.length_append]
      exact Nat.le_add_left _ _
    refine (ih hshorter hbody.2 ?_).of_eq hscan hread
    exact .of_some rfl hcontinued rfl hquote (Lexer.isInside_zero _ _ _)
  rw [if_neg htriple] at hscan
  by_cases hempty : ∃ body', body = c :: body'
  · -- two quotes: the scanner takes another turn, in which the literal ends
    obtain ⟨body, rfl⟩ := hempty
    have hread : lx.read (c :: (c :: body ++ sep.chars)) =
        Lexer.read ⟨s.depth, .quotes c⟩ (body ++ sep.chars) := by
      rw [Lexer.read_cons, hlexer, List.cons_append, Lexer.read_cons, Lexer.step_quote_self]
    have hcloses : c = c ∨ Text.isLineEnd c = true := .inl rfl
    have hopened : Scanner.literal { s with literal := some ⟨c, false⟩ } = some ⟨c, false⟩ := rfl
    rw [List.cons_append, Scanner.scanChars_inside hopened, if_neg hquote.ne_backslash,
      if_neg Bool.false_ne_true, if_pos hcloses, ← hs] at hscan
    have hnext : Lexer.IsOutside ⟨s.depth, .quotes c⟩ (body ++ sep.chars) := by
      intro d hd
      refine if_neg ?_
      rintro rfl
      obtain ⟨chars, hchars⟩ := List.head?_eq_some_iff.mp hd
      rw [List.cons_append, hchars, Scanner.startsWithQuotes_succ_cons,
        Scanner.startsWithQuotes_succ_cons, Scanner.startsWithQuotes_zero, BEq.rfl] at htriple
      exact htriple rfl
    refine (ih (by simp) (Text.isBody_cons.mp hbody).2 ?_).of_eq hscan hread
    exact .of_none hs hcontinued rfl hnext
  · -- one quote
    refine ih.cons hbody hscan hlexer ?_
    refine .of_some rfl hcontinued rfl hquote ⟨0, by omega, fun d hd => if_neg ?_, fun h =>
      absurd rfl h⟩
    rintro rfl
    cases body with
    | nil =>
      have hend := hquote.not_lineEnd
      cases sep <;> cases hd <;> exact absurd hend (by decide)
    | cons d body =>
      cases hd
      exact hempty ⟨body, rfl⟩

/-- A backslash outside of literals. -/
theorem ends_backslash (hs : s.literal = none) (hdepth : lx.depth = s.depth)
    (hbody : Text.IsBody body) (ih : EndsBelow body sep rest)
    (hstep : lx.step '\\' = lx.outside '\\') (hrest : sep = .cr → rest.head? ≠ some '\n') :
    Ends s lx ('\\' :: (body ++ sep.chars)) rest := by
  have hlexer : lx.step '\\' = ⟨s.depth, .backslash⟩ := by
    rw [hstep, ← hdepth]
    rfl
  have hscan : s.scanChars ('\\' :: (body ++ sep.chars)) =
      Scanner.scanChars { s with continued := (body ++ sep.chars).all Text.isLineEnd }
        (body ++ sep.chars) :=
    Scanner.scanChars_outside hs _ _
  cases body with
  | nil =>
    -- the backslash ends the line
    have hall : sep.chars.all Text.isLineEnd = true := by cases sep <;> decide
    rw [List.nil_append, hall] at hscan
    have hlast : Scanner.scanChars { s with continued := true } sep.chars =
        { s with continued := true } :=
      Scanner.scanChars_sep_of_none (s := { s with continued := true }) hs sep
    have hread : lx.read ('\\' :: sep.chars) = ⟨s.depth, .joined (sep == .cr)⟩ := by
      rw [Lexer.read_cons, hlexer]
      cases sep <;> rfl
    refine .of_place (hscan.trans hlast) hread hs.symm rfl
      (.of_none hs rfl rfl fun c hc => if_neg ?_)
    rintro ⟨hhalf, rfl⟩
    cases sep with
    | lf => cases hhalf
    | crlf => cases hhalf
    | cr => exact hrest rfl hc
  | cons c body =>
    obtain ⟨hc, -⟩ := Text.isBody_cons.mp hbody
    rw [List.cons_append, List.all_cons, hc, Bool.false_and] at hscan
    refine ih.cons hbody hscan hlexer ?_
    refine .of_none hs rfl rfl fun d hd => ?_
    cases hd
    exact if_neg (by rw [hc]; exact Bool.false_ne_true)

/-- A character outside of literals, and what comes after it in the line. -/
theorem ends_outside (h : Agrees s lx (c :: (body ++ sep.chars))) (hs : s.literal = none)
    (hbody : Text.IsBody body) (ih : EndsBelow body sep rest)
    (hrest : sep = .cr → rest.head? ≠ some '\n') : Ends s lx (c :: (body ++ sep.chars)) rest := by
  have hstep := h.outside hs c rfl
  have hscan := Scanner.scanChars_outside hs c (body ++ sep.chars)
  have houtside := Lexer.outside.eq_1 lx c
  by_cases hcomment : c = '#'
  · rw [if_pos hcomment] at hscan houtside
    have hread : lx.read (c :: (body ++ sep.chars)) = ⟨s.depth, .code⟩ := by
      rw [Lexer.read_cons, hstep, houtside, Lexer.read_comment hbody, h.depth]
    exact .of_place hscan hread hs.symm h.continued.symm
      (.of_none hs rfl rfl (Lexer.isOutside_code _ _))
  by_cases hquote : c = '\'' ∨ c = '"'
  · exact ends_quote hs h.continued h.depth hquote hbody ih hstep
  by_cases hbackslash : c = '\\'
  · subst hbackslash
    exact ends_backslash hs h.depth hbody ih hstep hrest
  -- whatever else there is changes the depth at most
  rw [if_neg hcomment, if_neg hquote, if_neg hbackslash] at hscan houtside
  rw [h.depth] at houtside
  have hgoesOn : ∀ n, Agrees { s with depth := n } ⟨n, .code⟩ (body ++ sep.chars) := fun n =>
    .of_none hs h.continued rfl (Lexer.isOutside_code _ _)
  split at hscan
  · rename_i hopening
    rw [if_pos hopening] at houtside
    exact ih.cons hbody hscan (hstep.trans houtside) (hgoesOn _)
  rename_i hopening
  rw [if_neg hopening] at houtside
  split at hscan
  · rename_i hclosing
    rw [if_pos hclosing] at houtside
    exact ih.cons hbody hscan (hstep.trans houtside) (hgoesOn _)
  · rename_i hclosing
    rw [if_neg hclosing] at houtside
    exact ih.cons hbody hscan (hstep.trans houtside) (hgoesOn _)

/-- A backslash in a literal. -/
theorem ends_escape (hs : s.literal = some lit) (hcontinued : s.continued = false)
    (hquote : IsQuote lit.quote) (hbody : Text.IsBody body) (ih : EndsBelow body sep rest)
    (hstep : lx.step '\\' = ⟨s.depth, .escape lit⟩)
    (hrest : sep = .cr → rest.head? ≠ some '\n') :
    Ends s lx ('\\' :: (body ++ sep.chars)) rest := by
  have hscan := Scanner.scanChars_inside hs '\\' (body ++ sep.chars)
  rw [if_pos rfl] at hscan
  cases body with
  | nil =>
    -- the line end is escaped, so that nothing is left of the line
    have hnothing : sep.chars.drop (Scanner.escapedLength sep.chars) = [] := by
      cases sep <;> rfl
    rw [List.nil_append, hnothing, Scanner.scanChars_nil] at hscan
    have hagrees : Agrees { s with continued := false } ⟨s.depth, .inside lit 0⟩ rest :=
      .of_some hs rfl rfl hquote (Lexer.isInside_zero _ _ _)
    cases sep with
    | lf =>
      have hread : lx.read ('\\' :: Linesep.lf.chars) = ⟨s.depth, .inside lit 0⟩ := by
        rw [Lexer.read_cons, hstep]
        rfl
      exact .of_place hscan hread hs.symm hcontinued.symm hagrees
    | crlf =>
      have hread : lx.read ('\\' :: Linesep.crlf.chars) = ⟨s.depth, .inside lit 0⟩ := by
        rw [Lexer.read_cons, hstep]
        rfl
      exact .of_place hscan hread hs.symm hcontinued.symm hagrees
    | cr =>
      have hread : lx.read ('\\' :: Linesep.cr.chars) = ⟨s.depth, .escapedReturn lit⟩ := by
        rw [Lexer.read_cons, hstep]
        rfl
      refine .of_place hscan hread hs.symm hcontinued.symm
        (.of_some hs rfl rfl hquote ⟨0, by omega, fun d hd => if_neg ?_, fun h => absurd rfl h⟩)
      rintro rfl
      exact hrest rfl hd
  | cons d body =>
    obtain ⟨hd, hbody⟩ := Text.isBody_cons.mp hbody
    have hreturn : d ≠ '\r' := (Text.ne_of_isLineEnd rfl hd).symm
    have hsingle : Scanner.escapedLength (d :: body ++ sep.chars) = 1 := by
      simp [Scanner.escapedLength, hreturn.symm]
    rw [hsingle] at hscan
    have hread : lx.read ('\\' :: (d :: body ++ sep.chars)) =
        Lexer.read ⟨s.depth, .inside lit 0⟩ (body ++ sep.chars) := by
      rw [Lexer.read_cons, hstep, List.cons_append, Lexer.read_cons,
        Lexer.step_escape _ _ hreturn]
    refine (ih (by simp) hbody ?_).of_eq hscan hread
    exact .of_some hs hcontinued rfl hquote (Lexer.isInside_zero _ _ _)

/-- Three quotes that close a literal: the lexer takes them one by one. -/
theorem ends_delimiter (hs : s.literal = some lit) (hcontinued : s.continued = false)
    (hquote : IsQuote lit.quote) (htriple : lit.triple = true) (hbody : Text.IsBody body)
    (ih : EndsBelow body sep rest)
    (hthree : startsWithQuotes 3 lit.quote (c :: (body ++ sep.chars)) = true)
    (hstep : lx.step c = ⟨s.depth, .inside lit 1⟩) : Ends s lx (c :: (body ++ sep.chars)) rest := by
  have hscan := Scanner.scanChars_inside hs c (body ++ sep.chars)
  rw [if_pos htriple, if_pos hthree] at hscan
  rw [Scanner.startsWithQuotes_succ_cons, Bool.and_eq_true, beq_iff_eq] at hthree
  obtain ⟨rfl, htwo⟩ := hthree
  obtain ⟨body, rfl⟩ := exists_of_startsWithQuotes hquote htwo
  rw [if_neg hquote.ne_backslash] at hscan
  have hread : lx.read (lit.quote :: (List.replicate 2 lit.quote ++ body ++ sep.chars)) =
      Lexer.read ⟨s.depth, .code⟩ (body ++ sep.chars) := by
    show lx.read (lit.quote :: lit.quote :: lit.quote :: (body ++ sep.chars)) = _
    rw [Lexer.read_cons, hstep, Lexer.read_cons, Lexer.step_inside_quote htriple hquote,
      Lexer.read_cons]
    exact congrArg (Lexer.read · _) (Lexer.step_inside_quote htriple hquote)
  have hshorter : body.length ≤ (List.replicate 2 lit.quote ++ body).length := by
    rw [List.length_append]
    exact Nat.le_add_left _ _
  refine (ih hshorter (Text.isBody_append.mp hbody).2 ?_).of_eq hscan hread
  exact .of_none rfl hcontinued rfl (Lexer.isOutside_code _ _)

/-- A character of a literal that three quotes close. -/
theorem ends_triple {run : Nat} (hs : s.literal = some lit) (hcontinued : s.continued = false)
    (hdepth : lx.depth = s.depth) (hquote : IsQuote lit.quote) (htriple : lit.triple = true)
    (hbackslash : c ≠ '\\') (hbody : Text.IsBody body) (ih : EndsBelow body sep rest)
    (hrun : run < 3) (hstep : lx.step c = lx.inside lit run c)
    (hopen : run ≠ 0 → startsWithQuotes (3 - run) lit.quote (c :: (body ++ sep.chars)) = false) :
    Ends s lx (c :: (body ++ sep.chars)) rest := by
  have hscan := Scanner.scanChars_inside hs c (body ++ sep.chars)
  rw [if_neg hbackslash, if_pos htriple] at hscan
  rw [Lexer.inside, if_neg hbackslash, if_pos htriple, hdepth] at hstep
  by_cases hthree : startsWithQuotes 3 lit.quote (c :: (body ++ sep.chars)) = true
  · refine ends_delimiter hs hcontinued hquote htriple hbody ih hthree ?_
    -- the lexer has not come past any of these quotes
    have hzero : run = 0 := by
      refine Nat.eq_zero_of_not_pos fun hpos => ?_
      have hmissing := hopen (Nat.ne_of_gt hpos)
      rw [startsWithQuotes_of_le (Nat.sub_le 3 run) hthree] at hmissing
      cases hmissing
    rw [Scanner.startsWithQuotes_succ_cons, Bool.and_eq_true, beq_iff_eq] at hthree
    rw [hstep, if_pos hthree.1.symm, hzero]
    rfl
  rw [if_neg hthree] at hscan
  refine ih.cons hbody hscan hstep ?_
  by_cases hc : c = lit.quote
  · -- one quote more, and there is still one missing
    have hmissing : startsWithQuotes (3 - run) lit.quote (c :: (body ++ sep.chars)) = false := by
      by_cases hzero : run = 0
      · rw [hzero]
        exact Bool.eq_false_iff.mpr hthree
      · exact hopen hzero
    have hless : startsWithQuotes (2 - run) lit.quote (body ++ sep.chars) = false := by
      rw [show 3 - run = (2 - run) + 1 by omega, Scanner.startsWithQuotes_succ_cons, hc, BEq.rfl,
        Bool.true_and] at hmissing
      exact hmissing
    have hlast : run ≠ 2 := by
      rintro rfl
      rw [Scanner.startsWithQuotes_zero] at hless
      cases hless
    rw [if_pos hc, if_neg hlast]
    refine .of_some hs hcontinued rfl hquote ⟨run + 1, by omega, fun _ _ => rfl, fun _ => ?_⟩
    rw [show 3 - (run + 1) = 2 - run by omega]
    exact hless
  · rw [if_neg hc]
    exact .of_some hs hcontinued rfl hquote (Lexer.isInside_zero _ _ _)

/-- A character in a literal, and what comes after it in the line. -/
theorem ends_inside (h : Agrees s lx (c :: (body ++ sep.chars))) (hs : s.literal = some lit)
    (hc : Text.isLineEnd c = false) (hbody : Text.IsBody body) (ih : EndsBelow body sep rest)
    (hrest : sep = .cr → rest.head? ≠ some '\n') : Ends s lx (c :: (body ++ sep.chars)) rest := by
  obtain ⟨hquote, run, hrun, hgoesOn, hopen⟩ := h.inside lit hs
  have hstep := hgoesOn c rfl
  by_cases hbackslash : c = '\\'
  · subst hbackslash
    refine ends_escape hs h.continued hquote hbody ih ?_ hrest
    rw [hstep, ← h.depth]
    rfl
  cases htriple : lit.triple with
  | true =>
    exact ends_triple hs h.continued h.depth hquote htriple hbackslash hbody ih hrun hstep hopen
  | false =>
    have hscan := Scanner.scanChars_inside hs c (body ++ sep.chars)
    rw [if_neg hbackslash, htriple, if_neg Bool.false_ne_true, hc] at hscan
    rw [Lexer.inside, if_neg hbackslash, htriple, if_neg Bool.false_ne_true, hc, h.depth] at hstep
    by_cases hcloses : c = lit.quote ∨ false = true
    · rw [if_pos hcloses] at hscan hstep
      exact ih.cons hbody hscan hstep
        (.of_none rfl h.continued rfl (Lexer.isOutside_code _ _))
    · rw [if_neg hcloses] at hscan hstep
      exact ih.cons hbody hscan hstep
        (.of_some hs h.continued rfl hquote (Lexer.isInside_zero _ _ _))

/-- Scanner and lexer go through a line together. -/
theorem ends_of_agrees (hbody : Text.IsBody body) (hrest : sep = .cr → rest.head? ≠ some '\n')
    (h : Agrees s lx (body ++ sep.chars)) : Ends s lx (body ++ sep.chars) rest := by
  -- the scanner may take up to three characters of the line in one turn
  induction hn : body.length using Nat.strongRecOn generalizing body s lx with
  | ind n ih =>
    cases body with
    | nil => exact ends_sep h rest
    | cons c body =>
      obtain ⟨hc, hbody⟩ := Text.isBody_cons.mp hbody
      have hbelow : EndsBelow body sep rest := by
        intro body' s' lx' hle hbody' h'
        refine ih body'.length ?_ hbody' h' rfl
        rw [← hn, List.length_cons]
        omega
      cases hs : s.literal with
      | none => exact ends_outside h hs hbody hbelow hrest
      | some lit => exact ends_inside h hs hc hbody hbelow hrest

/-! ## Texts -/

/-- A line goes on as the text that it begins does. -/
theorem Agrees.of_append (h : Agrees s lx (line ++ rest)) (hne : line ≠ []) :
    Agrees s lx line := by
  obtain ⟨first, line, rfl⟩ := List.exists_cons_of_ne_nil hne
  refine ⟨h.depth, h.continued, fun hs c hc => h.outside hs c hc, fun lit hs => ?_⟩
  obtain ⟨hquote, run, hrun, hstep, hopen⟩ := h.inside lit hs
  refine ⟨hquote, run, hrun, fun c hc => hstep c hc, fun hpast => Bool.eq_false_iff.mpr ?_⟩
  intro hquotes
  obtain ⟨chars, hchars⟩ := List.isPrefixOf_iff_prefix.mp hquotes
  refine Bool.eq_false_iff.mp (hopen hpast) (List.isPrefixOf_iff_prefix.mpr ⟨chars ++ rest, ?_⟩)
  rw [← List.append_assoc, hchars]

theorem meets_start (text : List Char) : Meets {} {} text :=
  ⟨rfl, .of_none rfl rfl rfl (Lexer.isOutside_code _ _)⟩

/-- Scanner and lexer meet after a line if they do before it. -/
theorem Meets.scan (h : Meets s lx (body ++ sep.chars ++ rest)) (hbody : Text.IsBody body)
    (hrest : sep = .cr → rest.head? ≠ some '\n') :
    Meets (s.scan (body ++ sep.chars)) (lx.read (body ++ sep.chars)) rest := by
  have hne : body ++ sep.chars ≠ [] := by
    cases sep <;> exact List.append_ne_nil_of_right_ne_nil _ (List.cons_ne_nil _ _)
  exact ends_of_agrees hbody hrest (h.agrees.of_append hne)

/-- Scanner and lexer meet before every line of a text. -/
theorem Meets.foldl_scan {text : List Char} {before after : List (List Char)} (h : Meets s lx text)
    (hlines : Text.lines text = before ++ line :: after) :
    ∃ rest, Meets (before.foldl Scanner.scan s) (lx.read before.flatten) rest := by
  induction before generalizing text s lx with
  | nil => exact ⟨text, h⟩
  | cons first before ih =>
    rcases Text.of_lines_eq_cons hlines with
      ⟨-, hlast⟩ | ⟨body, sep, rest, hbody, hrest, rfl, rfl, hlater⟩
    · exact absurd hlast (List.append_ne_nil_of_right_ne_nil _ (List.cons_ne_nil _ _))
    · rw [List.foldl_cons, List.flatten_cons, Lexer.read_append]
      exact ih (h.scan hbody hrest) hlater.symm

/-- Before every line of a text, the scanner, which goes from line to line, reports that the line
continues another one exactly if a lexer that has read the text up to there in one pass is in an
open bracket, in a literal, or behind a backslash that ended the line before. And no scan of a line
ever asks for a place that the line does not have. -/
theorem inLogicalLine_eq_isOpen {text : List Char} {before after : List (List Char)}
    (hlines : Text.lines text = before ++ line :: after) :
    text = before.flatten ++ (line ++ after.flatten) ∧
      (before.foldl Scanner.scan {}).inLogicalLine = (Lexer.read {} before.flatten).isOpen ∧
      ∀ (s : Scanner) (line : List Char), s.scanPlaces? line = some (s.scan line) := by
  refine ⟨?_, ?_, Scanner.scanPlaces?_eq⟩
  · rw [← Text.flatten_lines text, hlines, List.flatten_append, List.flatten_cons]
  · obtain ⟨rest, hmeets⟩ := (meets_start text).foldl_scan hlines
    rw [Lexer.isOpen_eq, hmeets.scanner]

/-- A literal over two lines, a bracket that is closed on another line than it was opened on, a
comment with a bracket in it, and a backslash before a carriage return. -/
def joinedText : String := "s = '''a\\\r\n''' + [ # (\r\n1] \\\r  2\n"

theorem inLogicalLine_eq_isOpen_joinedText :
    let before := ["s = '''a\\\r\n".toList, "''' + [ # (\r\n".toList, "1] \\\r".toList]
    let line := "  2\n".toList
    Text.lines joinedText.toList = before ++ line :: [] ∧
      joinedText.toList = before.flatten ++ (line ++ [].flatten) ∧
      (before.foldl Scanner.scan {}).inLogicalLine = (Lexer.read {} before.flatten).isOpen ∧
      ∀ (s : Scanner) (line : List Char), s.scanPlaces? line = some (s.scan line) := by
  have hlines : Text.lines joinedText.toList =
      ["s = '''a\\\r\n".toList, "''' + [ # (\r\n".toList, "1] \\\r".toList] ++
        "  2\n".toList :: [] := by
    decide +kernel
  exact ⟨hlines, inLogicalLine_eq_isOpen hlines⟩

end Codemod.Indentation
