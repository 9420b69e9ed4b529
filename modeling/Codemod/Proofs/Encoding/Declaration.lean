import Codemod.Indentation
import Codemod.Proofs.Encoding.Cookie
import Codemod.Proofs.Encoding.Decode

set_option autoImplicit false

/-! # The encoding that a source file declares

A source file without a byte order mark is asked line by line, and a line can say four things
(`Reads`): that it is not UTF-8, the name in a cookie, nothing but that a second line may be asked,
or nothing at all, since it holds code. At most two lines are asked, and the last one of them gives
the answer (`Answers`). A line goes on to a line feed here, but a carriage return behind the blanks
in front of a line passes for the end of a blank line, whatever comes after it
(`detect_returnedCode`). The main statement is `detect_iff_answers`. -/

namespace Codemod.Encoding

variable {bytes line later : List UInt8} {chars : List Char}

/-! ## Lines -/

/-- The first line of some bytes, with its line feed if it has one, and the bytes after it. -/
inductive FirstLine : List UInt8 → List UInt8 → List UInt8 → Prop where
  | ended (body later : List UInt8) (hbody : 10 ∉ body) :
    FirstLine (body ++ 10 :: later) (body ++ [10]) later
  | unended (body : List UInt8) (hbody : 10 ∉ body) : FirstLine body body []

theorem splitLine_cons (b : UInt8) (bytes : List UInt8) :
    splitLine (b :: bytes) =
      if b == 10 then ([b], bytes) else (b :: (splitLine bytes).1, (splitLine bytes).2) := rfl

theorem splitLine_cons_of_ne {b : UInt8} (hb : b ≠ 10) (bytes : List UInt8) :
    splitLine (b :: bytes) = (b :: (splitLine bytes).1, (splitLine bytes).2) := by
  rw [splitLine_cons, if_neg]
  rw [beq_iff_eq]
  exact hb

theorem splitLine_of_ended {body : List UInt8} (hbody : 10 ∉ body) (later : List UInt8) :
    splitLine (body ++ 10 :: later) = (body ++ [10], later) := by
  induction body with
  | nil => rfl
  | cons b body ih =>
    obtain ⟨hb, hbody⟩ := not_or.mp (mt List.mem_cons.mpr hbody)
    rw [List.cons_append, splitLine_cons_of_ne (Ne.symm hb), ih hbody, List.cons_append]

theorem splitLine_of_unended {body : List UInt8} (hbody : 10 ∉ body) :
    splitLine body = (body, []) := by
  induction body with
  | nil => rfl
  | cons b body ih =>
    obtain ⟨hb, hbody⟩ := not_or.mp (mt List.mem_cons.mpr hbody)
    rw [splitLine_cons_of_ne (Ne.symm hb), ih hbody]

theorem FirstLine.splitLine_eq (h : FirstLine bytes line later) :
    splitLine bytes = (line, later) := by
  cases h with
  | ended body later hbody => exact splitLine_of_ended hbody later
  | unended body hbody => exact splitLine_of_unended hbody

theorem firstLine_splitLine (bytes : List UInt8) :
    FirstLine bytes (splitLine bytes).1 (splitLine bytes).2 := by
  by_cases hfeed : 10 ∈ bytes
  · obtain ⟨body, later, rfl, hbody⟩ := List.eq_append_cons_of_mem hfeed
    rw [splitLine_of_ended hbody]
    exact .ended body later hbody
  · rw [splitLine_of_unended hfeed]
    exact .unended bytes hfeed

/-! ## What a line says -/

/-- A line that is blank or a comment, or begins like a blank one that ends in a carriage return. -/
def IsBlank (line : List Char) : Prop :=
  ∃ indent rest, line = indent ++ rest ∧ (∀ c ∈ indent, isIndent c = true) ∧
    ∀ c ∈ rest.head?, c = '#' ∨ c = '\n' ∨ c = '\r'

/-- What a line can say on the encoding. -/
inductive Reading where
  /-- The line is not UTF-8. -/
  | invalid
  /-- The first cookie of the line. -/
  | cookie (name : List Char)
  /-- The line holds no cookie and no code. -/
  | blank
  /-- The line holds no cookie, but code. -/
  | code
deriving DecidableEq, Repr

/-- The answer that a reading leads to, if no other line is asked: a cookie stands for the codec
that has its canonical name, and where there is no cookie it is UTF-8. -/
def Reading.answer : Reading → Except SourceFault String
  | .invalid => .error .undeclared
  | .cookie name =>
    if (Codec.ofName? (normalise name)).isSome then .ok (String.ofList (normalise name))
    else .error (.unknown (String.ofList (normalise name)))
  | .blank | .code => .ok "utf-8"

/-- What the bytes of a line say. -/
inductive Reads : List UInt8 → Reading → Prop where
  | invalid (line : List UInt8) (h : ∀ chars, line ≠ Utf8.encode chars) : Reads line .invalid
  | cookie (chars name : List Char) (h : HasCookie chars name) :
    Reads (Utf8.encode chars) (.cookie name)
  | blank (chars : List Char) (hcookie : ∀ name, ¬ HasCookie chars name) (h : IsBlank chars) :
    Reads (Utf8.encode chars) .blank
  | code (chars : List Char) (hcookie : ∀ name, ¬ HasCookie chars name) (h : ¬ IsBlank chars) :
    Reads (Utf8.encode chars) .code

/-- The answer that some bytes give: that of their first line, unless it is blank, in which case the
second line is asked as well. -/
inductive Answers : List UInt8 → Except SourceFault String → Prop where
  | first {bytes line later : List UInt8} {reading : Reading} (hline : FirstLine bytes line later)
    (h : Reads line reading) (hne : reading ≠ .blank) : Answers bytes reading.answer
  | second {bytes line later line' later' : List UInt8} {reading : Reading}
    (hline : FirstLine bytes line later) (h : Reads line .blank)
    (hline' : FirstLine later line' later') (h' : Reads line' reading) :
    Answers bytes reading.answer

/-! ## Blank lines -/

theorem Utf8.encodeChar_ne_nil (c : Char) : Utf8.encodeChar c ≠ [] := by
  unfold Utf8.encodeChar
  dsimp only
  split
  · exact List.cons_ne_nil _ _
  split
  · exact List.cons_ne_nil _ _
  split <;> exact List.cons_ne_nil _ _

theorem isBlank_nil : IsBlank [] :=
  ⟨[], [], rfl, (by rintro c ⟨⟩), by rintro c ⟨⟩⟩

theorem isBlank_cons {c : Char} :
    IsBlank (c :: chars) ↔
      if isIndent c then IsBlank chars else c = '#' ∨ c = '\n' ∨ c = '\r' := by
  have hends : isIndent '#' = false ∧ isIndent '\n' = false ∧ isIndent '\r' = false := by decide
  constructor
  · rintro ⟨indent, rest, hline, hindent, hrest⟩
    cases indent with
    | nil =>
      rw [List.nil_append] at hline
      subst hline
      have hc := hrest c rfl
      have hnot : isIndent c = false := by
        rcases hc with rfl | rfl | rfl
        · exact hends.1
        · exact hends.2.1
        · exact hends.2.2
      rw [hnot, if_neg Bool.false_ne_true]
      exact hc
    | cons d indent =>
      obtain ⟨rfl, rfl⟩ := List.cons_eq_cons.mp hline
      obtain ⟨hc, hindent⟩ := List.forall_mem_cons.mp hindent
      rw [if_pos hc]
      exact ⟨indent, rest, rfl, hindent, hrest⟩
  · intro h
    split at h
    · rename_i hc
      obtain ⟨indent, rest, rfl, hindent, hrest⟩ := h
      exact ⟨c :: indent, rest, rfl, List.forall_mem_cons.mpr ⟨hc, hindent⟩, hrest⟩
    · refine ⟨[], c :: chars, rfl, (by rintro d ⟨⟩), ?_⟩
      rintro d ⟨⟩
      exact h

/-- The bytes that may come behind the blanks in front of a blank line. -/
theorem contains_endings {n : Nat} :
    [35, 10, 13].contains n = true ↔ n = 35 ∨ n = 10 ∨ n = 13 := by
  simp only [List.contains_cons, List.contains_nil, Bool.or_false, Bool.or_eq_true, beq_iff_eq]

theorem isBlankLine_cons (b : UInt8) (bytes : List UInt8) :
    isBlankLine (b :: bytes) =
      if isIndent (asciiChar b) then isBlankLine bytes else [35, 10, 13].contains b.toNat := by
  rw [isBlankLine, List.dropWhile_cons]
  cases isIndent (asciiChar b) <;> rfl

theorem lt_of_isIndent {c : Char} (h : isIndent c = true) : c.toNat < 0x80 := by
  simp only [isIndent, Bool.or_eq_true, beq_iff_eq] at h
  rcases h with (rfl | rfl) | rfl <;> decide

/-- The bytes of a line show whether it is blank. -/
theorem isBlankLine_encode (chars : List Char) :
    isBlankLine (Utf8.encode chars) = true ↔ IsBlank chars := by
  induction chars with
  | nil => exact ⟨fun _ => isBlank_nil, fun _ => rfl⟩
  | cons c chars ih =>
    rw [Utf8.encode_cons, isBlank_cons]
    by_cases hascii : c.toNat < 0x80
    · have hbyte : (UInt8.ofNat c.toNat).toNat = c.toNat := Utf8.toNat_ofNat (by omega)
      have hchar : asciiChar (UInt8.ofNat c.toNat) = c := by
        rw [asciiChar, hbyte, Char.ofNat_toNat]
      rw [Utf8.encodeChar_of_lt hascii, List.singleton_append, isBlankLine_cons, hchar, hbyte]
      split
      · exact ih
      · rw [contains_endings, ← Char.toNat_inj, ← Char.toNat_inj, ← Char.toNat_inj]
        rfl
    · -- no byte of such a character is one of those that are looked for
      have hindent : isIndent c = false :=
        Bool.eq_false_iff.mpr fun h => hascii (lt_of_isIndent h)
      obtain ⟨b, bytes, hbytes⟩ := List.exists_cons_of_ne_nil (Utf8.encodeChar_ne_nil c)
      have hb : ¬ b.toNat < 0x80 := by
        intro hlt
        have hc := Utf8.toNat_of_mem_encodeChar (hbytes ▸ List.mem_cons_self) hlt
        exact hascii (by omega)
      have hbyte : isIndent (asciiChar b) = false := by
        refine Bool.eq_false_iff.mpr fun h => hb ?_
        rw [← toNat_asciiChar b]
        exact lt_of_isIndent h
      rw [hbytes, List.cons_append, isBlankLine_cons, hbyte, hindent, if_neg Bool.false_ne_true,
        if_neg Bool.false_ne_true]
      constructor
      · intro h
        rw [contains_endings] at h
        omega
      · rintro (rfl | rfl | rfl) <;> exact absurd hascii (by decide)

/-! ## Readings -/

/-- What a line is found to say. -/
def readingOf (line : List UInt8) : Reading :=
  match Utf8.decode line with
  | .error _ => .invalid
  | .ok chars =>
    match cookie? chars with
    | some name => .cookie name
    | none => if isBlankLine line then .blank else .code

theorem readingOf_encode (chars : List Char) :
    readingOf (Utf8.encode chars) =
      match cookie? chars with
      | some name => .cookie name
      | none => if isBlankLine (Utf8.encode chars) then .blank else .code := by
  rw [readingOf, Utf8.decode_encode]

theorem reads_readingOf (line : List UInt8) : Reads line (readingOf line) := by
  cases hdecode : Utf8.decode line with
  | error fault =>
    rw [readingOf, hdecode]
    refine .invalid line ?_
    rintro chars rfl
    rw [Utf8.decode_encode] at hdecode
    cases hdecode
  | ok chars =>
    obtain rfl := Utf8.encode_of_decode hdecode
    rw [readingOf_encode]
    cases hcookie : cookie? chars with
    | some name => exact .cookie chars name (cookie?_eq_some_iff.mp hcookie)
    | none =>
      have hnot := cookie?_eq_none_iff.mp hcookie
      by_cases hblank : isBlankLine (Utf8.encode chars) = true
      · rw [hblank]
        exact .blank chars hnot ((isBlankLine_encode chars).mp hblank)
      · rw [Bool.eq_false_iff.mpr hblank]
        exact .code chars hnot fun h => hblank ((isBlankLine_encode chars).mpr h)

/-- A line says one thing only. -/
theorem Reads.eq_readingOf {reading : Reading} (h : Reads line reading) :
    reading = readingOf line := by
  cases h with
  | invalid line h =>
    rw [readingOf]
    cases hdecode : Utf8.decode line with
    | error fault => rfl
    | ok chars => exact absurd (Utf8.encode_of_decode hdecode).symm (h chars)
  | cookie chars name h => rw [readingOf_encode, cookie?_eq_some_iff.mpr h]
  | blank chars hcookie h =>
    rw [readingOf_encode, cookie?_eq_none_iff.mpr hcookie, (isBlankLine_encode chars).mpr h]
    rfl
  | code chars hcookie h =>
    have hcode := Bool.eq_false_iff.mpr (mt (isBlankLine_encode chars).mp h)
    rw [readingOf_encode, cookie?_eq_none_iff.mpr hcookie, hcode]
    rfl

theorem declared?_eq (line : List UInt8) :
    declared? line =
      match readingOf line with
      | .invalid => .error .undeclared
      | .cookie name => .ok (some (normalise name))
      | .blank | .code => .ok none := by
  rw [declared?, readingOf]
  cases Utf8.decode line with
  | error fault => rfl
  | ok chars =>
    dsimp only
    cases cookie? chars with
    | some name => rfl
    | none => cases isBlankLine line <;> rfl

theorem isBlankLine_of_readingOf_blank (h : readingOf line = .blank) : isBlankLine line = true := by
  have hreads := reads_readingOf line
  rw [h] at hreads
  cases hreads with
  | blank chars hcookie hblank => exact (isBlankLine_encode chars).mpr hblank

theorem isBlankLine_of_readingOf_code (h : readingOf line = .code) : isBlankLine line = false := by
  have hreads := reads_readingOf line
  rw [h] at hreads
  cases hreads with
  | code chars hcookie hcode =>
    exact Bool.eq_false_iff.mpr (mt (isBlankLine_encode chars).mp hcode)

theorem eq_nil_of_splitLine (h : (splitLine bytes).1 = []) : bytes = [] := by
  cases bytes with
  | nil => rfl
  | cons b bytes =>
    rw [splitLine_cons] at h
    split at h <;> cases h

/-- A line that is not there is no different from one that says nothing. -/
theorem declaration?_eq (bytes : List UInt8) :
    declaration? bytes =
      if readingOf (splitLine bytes).1 = .blank then declared? (splitLine (splitLine bytes).2).1
      else declared? (splitLine bytes).1 := by
  rw [declaration?]
  dsimp only
  by_cases hfirst : (splitLine bytes).1 = []
  · obtain rfl := eq_nil_of_splitLine hfirst
    rfl
  rw [if_neg (mt List.isEmpty_iff.mp hfirst), declared?_eq (splitLine bytes).1]
  cases hreading : readingOf (splitLine bytes).1 with
  | invalid => rfl
  | cookie name => rfl
  | code =>
    simp only [bind, Except.bind, isBlankLine_of_readingOf_code hreading]
    rfl
  | blank =>
    simp only [bind, Except.bind, isBlankLine_of_readingOf_blank hreading, Bool.not_true,
      Bool.false_eq_true, if_false, if_true]
    by_cases hsecond : (splitLine (splitLine bytes).2).1 = []
    · rw [hsecond]
      rfl
    · rw [if_neg (mt List.isEmpty_iff.mp hsecond)]

/-- Without a mark the answer is that of the last line that is asked. -/
theorem detect_eq (hmark : ¬ byteOrderMark <+: bytes) :
    detect bytes =
      if readingOf (splitLine bytes).1 = .blank then
        (readingOf (splitLine (splitLine bytes).2).1).answer
      else (readingOf (splitLine bytes).1).answer := by
  have hanswer : ∀ line, declaration? bytes = declared? line →
      detect bytes = (readingOf line).answer := by
    intro line hline
    rw [detect_of_splitMark (splitMark_of_not_mark hmark), hline, declared?_eq]
    cases readingOf line with
    | invalid => rfl
    | blank => rfl
    | code => rfl
    | cookie name =>
      rw [Reading.answer]
      simp only [Except.bind, resolve]
      cases Codec.ofName? (normalise name) <;> rfl
  have hdeclaration := declaration?_eq bytes
  split
  · rename_i hblank
    rw [if_pos hblank] at hdeclaration
    exact hanswer _ hdeclaration
  · rename_i hblank
    rw [if_neg hblank] at hdeclaration
    exact hanswer _ hdeclaration

/-! ## Answers -/

theorem detect_eq_iff (hmark : ¬ byteOrderMark <+: bytes) {answer : Except SourceFault String} :
    detect bytes = answer ↔ Answers bytes answer := by
  constructor
  · rintro rfl
    rw [detect_eq hmark]
    have hline := firstLine_splitLine bytes
    have hreads := reads_readingOf (splitLine bytes).1
    split
    · rename_i hblank
      rw [hblank] at hreads
      exact .second hline hreads (firstLine_splitLine _) (reads_readingOf _)
    · rename_i hblank
      exact .first hline hreads hblank
  · intro h
    rw [detect_eq hmark]
    cases h with
    | first hline h hne =>
      obtain rfl := h.eq_readingOf
      rw [hline.splitLine_eq, if_neg hne]
    | second hline h hline' h' =>
      obtain rfl := h'.eq_readingOf
      rw [hline.splitLine_eq, if_pos h.eq_readingOf.symm, hline'.splitLine_eq]

/-- What does not hold an element can only come before the first one. -/
theorem prefix_append_cons_iff {α : Type} {start first : List α} {a : α} (hstart : a ∉ start)
    (later : List α) : start <+: first ++ a :: later ↔ start <+: first := by
  induction start generalizing first with
  | nil => exact ⟨fun _ => List.nil_prefix, fun _ => List.nil_prefix⟩
  | cons b start ih =>
    obtain ⟨hb, hstart⟩ := not_or.mp (mt List.mem_cons.mpr hstart)
    cases first with
    | nil =>
      constructor
      · intro h
        exact absurd (List.cons_prefix_cons.mp h).1.symm hb
      · intro h
        exact absurd (List.prefix_nil.mp h) (List.cons_ne_nil b start)
    | cons d first =>
      rw [List.cons_append, List.cons_prefix_cons, List.cons_prefix_cons, ih hstart]

/-- Whether there is a mark shows before the first line feed. -/
theorem not_mark_of_append_feed {first later : List UInt8}
    (hmark : ¬ byteOrderMark <+: first ++ 10 :: later) (later' : List UInt8) :
    ¬ byteOrderMark <+: first ++ 10 :: later' := by
  have hfeed : 10 ∉ byteOrderMark := by decide
  rw [prefix_append_cons_iff hfeed] at hmark ⊢
  exact hmark

/-- The encoding of bytes without a byte order mark is the one that their first line declares, or,
if that line is blank or a comment without a cookie, their second one, and UTF-8 if the last line
that is asked has no cookie; the line must be UTF-8, and the name in its cookie must be that of a
codec. What comes after the second line feed has no say, and unless the first line is blank or a
comment without a cookie, neither has what comes after the first one. -/
theorem detect_iff_answers (hmark : ¬ byteOrderMark <+: bytes) :
    (∀ answer, detect bytes = answer ↔ Answers bytes answer) ∧
      (∀ first second later later' : List UInt8, 10 ∉ first → 10 ∉ second →
        bytes = first ++ 10 :: (second ++ 10 :: later) →
        detect (first ++ 10 :: (second ++ 10 :: later')) = detect bytes) ∧
      (∀ first later later' : List UInt8, 10 ∉ first → bytes = first ++ 10 :: later →
        ¬ Reads (first ++ [10]) .blank → detect (first ++ 10 :: later') = detect bytes) := by
  refine ⟨fun answer => detect_eq_iff hmark, ?_, ?_⟩
  · rintro first second later later' hfirst hsecond rfl
    have hmark' := not_mark_of_append_feed hmark (second ++ 10 :: later')
    rw [detect_eq hmark, detect_eq hmark', splitLine_of_ended hfirst, splitLine_of_ended hfirst,
      splitLine_of_ended hsecond, splitLine_of_ended hsecond]
  · rintro first later later' hfirst rfl hnot
    have hmark' := not_mark_of_append_feed hmark later'
    have hread : readingOf (first ++ [10]) ≠ .blank := by
      intro hblank
      have hreads := reads_readingOf (first ++ [10])
      rw [hblank] at hreads
      exact hnot hreads
    rw [detect_eq hmark, detect_eq hmark', splitLine_of_ended hfirst, splitLine_of_ended hfirst,
      if_neg hread, if_neg hread]

/-- A comment, and below it one with the word `coding` twice, of which only the second one has a
name after it. -/
def declaredScript : List UInt8 :=
  Utf8.encode "#!/bin/x\n\t# coding=; coding: \tUTF_8-x?\n".toList

theorem detect_iff_answers_declaredScript :
    ¬ byteOrderMark <+: declaredScript ∧ Answers declaredScript (.ok "utf-8") ∧
      detect (declaredScript ++ [0xFF]) = detect declaredScript ∧
      ¬ byteOrderMark <+: Utf8.encode "x = 1\n".toList ∧
      detect (Utf8.encode "x = 1\n# coding: latin-1".toList) =
        detect (Utf8.encode "x = 1\n".toList) := by
  have hmark : ¬ byteOrderMark <+: declaredScript := by decide +kernel
  have hmark' : ¬ byteOrderMark <+: Utf8.encode "x = 1\n".toList := by decide +kernel
  have hcode : ¬ Reads (Utf8.encode "x = 1".toList ++ [10]) .blank := by
    intro hblank
    have hreading : readingOf (Utf8.encode "x = 1".toList ++ [10]) = .code := by decide +kernel
    have heq := hblank.eq_readingOf
    rw [hreading] at heq
    cases heq
  refine ⟨hmark, ((detect_iff_answers hmark).1 _).mp (by decide +kernel), ?_, hmark', ?_⟩
  · exact (detect_iff_answers hmark).2.1 (Utf8.encode "#!/bin/x".toList)
      (Utf8.encode "\t# coding=; coding: \tUTF_8-x?".toList) [] [0xFF] (by decide +kernel)
      (by decide +kernel) (by decide +kernel)
  · exact (detect_iff_answers hmark').2.2 (Utf8.encode "x = 1".toList) []
      (Utf8.encode "# coding: latin-1".toList) (by decide +kernel) (by decide +kernel) hcode

/-- A line that holds code behind a carriage return passes for a blank one, so that the cookie below
it counts. -/
theorem detect_returnedCode :
    let line := Utf8.encode "\rx = 1\n".toList
    let later := Utf8.encode "# coding: latin-1\n".toList
    FirstLine (line ++ later) line later ∧ Indentation.isSilent "\rx = 1\n".toList = false ∧
      (∀ name, ¬ HasCookie "\rx = 1\n".toList name) ∧
      detect (line ++ later) = .ok "iso-8859-1" ∧ detect line = .ok "utf-8" := by
  intro line later
  refine ⟨?_, by decide +kernel, cookie?_eq_none_iff.mp (by decide +kernel), by decide +kernel,
    by decide +kernel⟩
  have hline := firstLine_splitLine (line ++ later)
  rwa [show splitLine (line ++ later) = (line, later) by decide +kernel] at hline

end Codemod.Encoding
