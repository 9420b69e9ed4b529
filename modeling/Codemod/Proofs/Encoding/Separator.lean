import Codemod.Proofs.Encoding.Declaration
import Codemod.Proofs.Text.Line

set_option autoImplicit false

/-! # Declarations and line separators

The two lines that may declare an encoding end at line feeds, so that it makes no difference whether
a carriage return stands in front of each of them: a cookie does not go on over a line end, and a
line end says nothing itself. Between carriage returns alone there are no lines here, but only one,
in which a comment goes on behind each of its returns, and all of which has to be UTF-8. So a cookie
that is far below the second line counts there if the first one is a comment, one below a blank line
does not, and bytes anywhere that are not UTF-8 are a fault (`detect_returns`). Where the lines say
the same in both ways (`ReadAlike`), carriage returns are like line feeds, too; other lines that are
UTF-8 have another cookie then (`cookiesAlike_iff`). The main statement is `detect_join`. -/

namespace Codemod.Encoding

variable {text rest name : List Char} {e : Char} {sep : Linesep}

/-! ## Cookies behind line ends -/

theorem isEnd_cases (he : Text.isLineEnd e = true) : e = '\n' ∨ e = '\r' := by
  rw [Text.isLineEnd, Bool.or_eq_true, beq_iff_eq, beq_iff_eq] at he
  exact he

/-- A line end is none of the characters that a cookie is made of, and stands in front of none. -/
theorem not_of_isLineEnd (he : Text.isLineEnd e = true) :
    isGap e = false ∧ isNameChar e = false ∧ isIndent e = false ∧ e ∉ "coding".toList ∧
      e ≠ '#' ∧ e ≠ ':' ∧ e ≠ '=' := by
  rcases isEnd_cases he with rfl | rfl
  · decide +kernel
  · decide +kernel

theorem dropWhile_append_cons {p : Char → Bool} (hp : p e = false) (text rest : List Char) :
    (text ++ e :: rest).dropWhile p = text.dropWhile p ++ e :: rest := by
  rw [List.dropWhile_append, List.dropWhile_cons_of_neg (by rw [hp]; exact Bool.false_ne_true)]
  split
  · rename_i hempty
    rw [List.isEmpty_iff.mp hempty, List.nil_append]
  · rfl

theorem takeWhile_append_cons {p : Char → Bool} (hp : p e = false) (text rest : List Char) :
    (text ++ e :: rest).takeWhile p = text.takeWhile p := by
  rw [List.takeWhile_append, List.takeWhile_cons_of_neg (by rw [hp]; exact Bool.false_ne_true),
    List.append_nil]
  split
  · rename_i hlength
    exact (List.takeWhile_prefix p).eq_of_length hlength |>.symm
  · rfl

theorem nameAfter?_append_lineEnd (he : Text.isLineEnd e = true) (text rest : List Char) :
    nameAfter? (text ++ e :: rest) = nameAfter? text := by
  obtain ⟨hgap, hname, -, -, -, hcolon, hequals⟩ := not_of_isLineEnd he
  cases text with
  | nil =>
    rw [List.nil_append, nameAfter?_cons, if_neg]
    · rfl
    · rw [Bool.or_eq_true, beq_iff_eq, beq_iff_eq]
      exact not_or.mpr ⟨hcolon, hequals⟩
  | cons c text =>
    rw [List.cons_append, nameAfter?_cons, nameAfter?_cons, dropWhile_append_cons hgap,
      takeWhile_append_cons hname]

/-- No cookie goes on over a line end. -/
theorem cookieHere?_append_lineEnd (he : Text.isLineEnd e = true) (text rest : List Char) :
    cookieHere? (text ++ e :: rest) = cookieHere? text := by
  have hnot := (not_of_isLineEnd he).2.2.2.1
  have hword :
      "coding".toList.isPrefixOf (text ++ e :: rest) = "coding".toList.isPrefixOf text := by
    rw [Bool.eq_iff_iff, List.isPrefixOf_iff_prefix, List.isPrefixOf_iff_prefix,
      prefix_append_cons_iff hnot]
  rw [cookieHere?, cookieHere?, hword]
  split
  · rename_i hprefix
    obtain ⟨later, rfl⟩ := List.isPrefixOf_iff_prefix.mp hprefix
    exact nameAfter?_append_lineEnd he later rest
  · rfl

/-- The cookies of a text are those in front of a line end and those behind it. -/
theorem cookieIn?_append_lineEnd (he : Text.isLineEnd e = true) (text rest : List Char) :
    cookieIn? (text ++ e :: rest) = (cookieIn? text).or (cookieIn? rest) := by
  induction text with
  | nil =>
    have hhere : cookieHere? ([] ++ e :: rest) = none := cookieHere?_append_lineEnd he [] rest
    rw [List.nil_append] at hhere ⊢
    rw [cookieIn?_cons, hhere]
    rfl
  | cons c text ih =>
    rw [List.cons_append, cookieIn?_cons, cookieIn?_cons, ← List.cons_append,
      cookieHere?_append_lineEnd he, ih, Option.orElse_eq_or, Option.orElse_eq_or, Option.or_assoc]

/-- Whether a line is a comment, with blanks in front of it at most. -/
def isComment (line : List Char) : Bool :=
  (line.dropWhile isIndent).head? == some '#'

theorem cookie?_eq (line : List Char) :
    cookie? line = if isComment line then cookieIn? (line.dropWhile isIndent).tail else none := by
  rw [cookie?, isComment]
  split
  · rename_i comment hcomment
    rw [hcomment]
    rfl
  · rename_i hnot
    cases hline : line.dropWhile isIndent with
    | nil => rfl
    | cons c comment =>
      rw [if_neg]
      rw [List.head?_cons, beq_iff_eq, Option.some.injEq]
      rintro rfl
      exact hnot comment hline

theorem isComment_append_lineEnd (he : Text.isLineEnd e = true) (text rest : List Char) :
    isComment (text ++ e :: rest) = isComment text := by
  obtain ⟨-, -, hindent, -, hhash, -, -⟩ := not_of_isLineEnd he
  rw [isComment, dropWhile_append_cons hindent, isComment]
  cases text.dropWhile isIndent with
  | nil =>
    rw [List.nil_append, List.head?_cons, List.head?_nil, beq_eq_false_iff_ne.mpr]
    · rfl
    · rintro ⟨⟩
      exact hhash rfl
  | cons c comment => rfl

/-- Behind the line end of a comment the comment goes on. -/
theorem cookie?_append_lineEnd (he : Text.isLineEnd e = true) (text rest : List Char) :
    cookie? (text ++ e :: rest) =
      (cookie? text).or (if isComment text then cookieIn? rest else none) := by
  obtain ⟨-, -, hindent, -, -, -, -⟩ := not_of_isLineEnd he
  rw [cookie?_eq, cookie?_eq, isComment_append_lineEnd he, dropWhile_append_cons hindent]
  cases hcomment : isComment text with
  | false => rfl
  | true =>
    rw [isComment] at hcomment
    cases htext : text.dropWhile isIndent with
    | nil =>
      rw [htext] at hcomment
      cases hcomment
    | cons c comment => exact cookieIn?_append_lineEnd he comment rest

theorem cookie?_append_sep (text : List Char) (sep : Linesep) :
    cookie? (text ++ sep.chars) = cookie? text := by
  have hnone : ∀ e rest, Text.isLineEnd e = true → cookieIn? rest = none →
      cookie? (text ++ e :: rest) = cookie? text := by
    intro e rest he hrest
    rw [cookie?_append_lineEnd he, hrest, ite_self, Option.or_none]
  cases sep with
  | lf => exact hnone '\n' [] rfl rfl
  | crlf => exact hnone '\r' ['\n'] rfl rfl
  | cr => exact hnone '\r' [] rfl rfl

/-! ## Readings -/

/-- The bytes of a separator. -/
def sepBytes (sep : Linesep) : List UInt8 :=
  Utf8.encode sep.chars

theorem sepBytes_eq_cons (sep : Linesep) :
    ∃ b after, sepBytes sep = b :: after ∧ b.toNat < 0x80 ∧ (b = 10 ∨ b = 13) := by
  cases sep with
  | lf => exact ⟨10, [], rfl, by decide, .inl rfl⟩
  | crlf => exact ⟨13, [10], rfl, by decide, .inr rfl⟩
  | cr => exact ⟨13, [], rfl, by decide, .inr rfl⟩

theorem isBlankLine_append_sep (line : List UInt8) (sep : Linesep) :
    isBlankLine (line ++ sepBytes sep) = isBlankLine line := by
  induction line with
  | nil => cases sep <;> decide +kernel
  | cons b line ih => rw [List.cons_append, isBlankLine_cons, isBlankLine_cons, ih]

/-- What a line says does not depend on the separator that ends it. -/
theorem readingOf_append_sep (line : List UInt8) (sep : Linesep) :
    readingOf (line ++ sepBytes sep) = readingOf line := by
  by_cases hvalid : ∃ chars, line = Utf8.encode chars
  · obtain ⟨chars, rfl⟩ := hvalid
    have hblank := isBlankLine_append_sep (Utf8.encode chars) sep
    rw [sepBytes, ← Utf8.encode_append] at hblank ⊢
    rw [readingOf_encode, readingOf_encode, cookie?_append_sep, hblank]
  · obtain ⟨b, after, hsep, hb, -⟩ := sepBytes_eq_cons sep
    have hinvalid : ∀ chars, line ++ sepBytes sep ≠ Utf8.encode chars := by
      intro chars hchars
      rw [hsep] at hchars
      obtain ⟨start, -, hstart, -⟩ := Utf8.exists_of_encode_eq hb hchars.symm
      exact hvalid ⟨start, hstart.symm⟩
    rw [← (Reads.invalid line (not_exists.mp hvalid)).eq_readingOf,
      ← (Reads.invalid _ hinvalid).eq_readingOf]

/-! ## Joined lines -/

/-- The bytes of a line whose terminator is left away. -/
def IsByteBody (body : List UInt8) : Prop :=
  10 ∉ body ∧ 13 ∉ body

instance : DecidablePred IsByteBody := fun _ =>
  inferInstanceAs (Decidable (_ ∧ _))

/-- Lines with a separator between any two of them. -/
def joinBytes (sep : Linesep) (bodies : List (List UInt8)) : List UInt8 :=
  (sepBytes sep).intercalate bodies

theorem joinBytes_singleton (sep : Linesep) (body : List UInt8) : joinBytes sep [body] = body :=
  List.intercalate_singleton

theorem joinBytes_cons (sep : Linesep) (body : List UInt8) {after : List (List UInt8)}
    (hne : after ≠ []) :
    joinBytes sep (body :: after) = body ++ (sepBytes sep ++ joinBytes sep after) := by
  obtain ⟨next, after, rfl⟩ := List.exists_cons_of_ne_nil hne
  rw [joinBytes, List.intercalate_cons_cons, List.append_assoc]
  rfl

/-- The first line of joined lines is what it is, and what comes behind it is joined as well. -/
theorem splitLine_joinBytes (hsep : sep ≠ .cr) {bodies : List (List UInt8)}
    (hbodies : ∀ body ∈ bodies, IsByteBody body) :
    readingOf (splitLine (joinBytes sep bodies)).1 = readingOf (bodies.headD []) ∧
      (splitLine (joinBytes sep bodies)).2 = joinBytes sep bodies.tail := by
  cases bodies with
  | nil => exact ⟨rfl, rfl⟩
  | cons body after =>
    obtain ⟨⟨hfeed, hreturn⟩, -⟩ := List.forall_mem_cons.mp hbodies
    by_cases hne : after = []
    · subst hne
      rw [joinBytes_singleton, splitLine_of_unended hfeed]
      exact ⟨rfl, rfl⟩
    · have hsplit : splitLine (joinBytes sep (body :: after)) =
          (body ++ sepBytes sep, joinBytes sep after) := by
        rw [joinBytes_cons sep body hne]
        cases sep with
        | lf => exact splitLine_of_ended hfeed _
        | crlf =>
          have hended : 10 ∉ body ++ [13] := by
            rw [List.mem_append]
            exact not_or.mpr ⟨hfeed, by decide⟩
          have h := splitLine_of_ended hended (joinBytes .crlf after)
          rwa [List.append_assoc, List.append_assoc] at h
        | cr => exact absurd rfl hsep
      rw [hsplit]
      exact ⟨readingOf_append_sep body sep, rfl⟩

/-- What two lines declare. -/
def declaredByLine (bodies : List (List UInt8)) : Except SourceFault (Option (List Char)) :=
  if readingOf (bodies.headD []) = .blank then declared? (bodies.tail.headD [])
  else declared? (bodies.headD [])

theorem declared?_congr {line line' : List UInt8} (h : readingOf line = readingOf line') :
    declared? line = declared? line' := by
  rw [declared?_eq, declared?_eq, h]

/-- Joined lines are asked one by one, if each of them has a line feed. -/
theorem declaration?_joinBytes (hsep : sep ≠ .cr) {bodies : List (List UInt8)}
    (hbodies : ∀ body ∈ bodies, IsByteBody body) :
    declaration? (joinBytes sep bodies) = declaredByLine bodies := by
  have htail : ∀ body ∈ bodies.tail, IsByteBody body := fun body hbody =>
    hbodies body (List.mem_of_mem_tail hbody)
  obtain ⟨hfirst, hlater⟩ := splitLine_joinBytes hsep hbodies
  obtain ⟨hsecond, -⟩ := splitLine_joinBytes hsep htail
  rw [declaration?_eq, hlater, hfirst, declared?_congr hfirst, declared?_congr hsecond,
    declaredByLine]

/-! ## Marks -/

/-- Lines without the mark in front of them. -/
def unmarked : List (List UInt8) → List (List UInt8)
  | [] => []
  | first :: later => (splitMark first).2 :: later

/-- A mark in front of joined lines is one in front of the first of them. -/
theorem splitMark_joinBytes (sep : Linesep) (bodies : List (List UInt8)) :
    splitMark (joinBytes sep bodies) =
      ((splitMark (bodies.headD [])).1, joinBytes sep (unmarked bodies)) := by
  cases bodies with
  | nil => rfl
  | cons first later =>
    by_cases hne : later = []
    · subst hne
      rw [joinBytes_singleton, unmarked, joinBytes_singleton]
      rfl
    · rw [unmarked, joinBytes_cons sep first hne, joinBytes_cons sep _ hne, List.headD_cons]
      rcases splitMark_cases first with ⟨body, rfl, hsplit⟩ | ⟨hmark, hsplit⟩
      · rw [hsplit]
        rfl
      · rw [hsplit]
        obtain ⟨b, after, hsep, -, hb⟩ := sepBytes_eq_cons sep
        have hnot : b ∉ byteOrderMark := by
          rcases hb with rfl | rfl
          · decide
          · decide
        have hmark' : ¬ byteOrderMark <+: first ++ (sepBytes sep ++ joinBytes sep later) := by
          rw [hsep, List.cons_append, prefix_append_cons_iff hnot]
          exact hmark
        exact splitMark_of_not_mark hmark'

theorem isByteBody_of_mem_unmarked {bodies : List (List UInt8)}
    (hbodies : ∀ body ∈ bodies, IsByteBody body) : ∀ body ∈ unmarked bodies, IsByteBody body := by
  cases bodies with
  | nil => exact hbodies
  | cons first later =>
    obtain ⟨hfirst, hlater⟩ := List.forall_mem_cons.mp hbodies
    refine List.forall_mem_cons.mpr ⟨?_, hlater⟩
    rcases splitMark_cases first with ⟨body, rfl, hsplit⟩ | ⟨-, hsplit⟩
    · rw [hsplit]
      exact ⟨fun h => hfirst.1 (List.mem_append_right _ h),
        fun h => hfirst.2 (List.mem_append_right _ h)⟩
    · rw [hsplit]
      exact hfirst

/-! ## Carriage returns -/

theorem declared?_encode (chars : List Char) :
    declared? (Utf8.encode chars) = .ok ((cookie? chars).map normalise) := by
  rw [declared?, Utf8.decode_encode]

/-- What holds no line feed is one line. -/
theorem declaration?_of_unended {bytes : List UInt8} (hfeed : 10 ∉ bytes) :
    declaration? bytes = declared? bytes := by
  rw [declaration?_eq, splitLine_of_unended hfeed]
  split
  · rename_i hblank
    rw [declared?_eq bytes, hblank]
    rfl
  · rfl

theorem feed_not_mem_joinBytes {bodies : List (List UInt8)}
    (hbodies : ∀ body ∈ bodies, IsByteBody body) : 10 ∉ joinBytes .cr bodies := by
  induction bodies with
  | nil => exact List.not_mem_nil
  | cons body after ih =>
    obtain ⟨⟨hfeed, -⟩, hafter⟩ := List.forall_mem_cons.mp hbodies
    by_cases hne : after = []
    · rwa [hne, joinBytes_singleton]
    · rw [joinBytes_cons .cr body hne, List.mem_append, List.mem_append]
      exact not_or.mpr ⟨hfeed, not_or.mpr ⟨by decide, ih hafter⟩⟩

theorem joinBytes_map_encode (sep : Linesep) (texts : List (List Char)) :
    joinBytes sep (texts.map Utf8.encode) = Utf8.encode (Text.join sep texts) := by
  induction texts with
  | nil => rfl
  | cons text texts ih =>
    by_cases hne : texts = []
    · subst hne
      rw [List.map_singleton, joinBytes_singleton, Text.join, List.intercalate_singleton]
    · have hmap : texts.map Utf8.encode ≠ [] := mt List.map_eq_nil_iff.mp hne
      rw [List.map_cons, joinBytes_cons sep _ hmap, ih, Text.join_cons sep text hne,
        Utf8.encode_append, Utf8.encode_append, List.append_assoc, sepBytes]

/-- The cookies of lines that are joined by carriage returns are those of the lines. -/
theorem cookieIn?_join (texts : List (List Char)) :
    cookieIn? (Text.join .cr texts) = texts.findSome? cookieIn? := by
  induction texts with
  | nil => rfl
  | cons text texts ih =>
    by_cases hne : texts = []
    · subst hne
      rw [Text.join, List.intercalate_singleton, List.findSome?_singleton]
    · rw [Text.join_cons .cr text hne, Linesep.chars, List.append_assoc, List.singleton_append,
        cookieIn?_append_lineEnd rfl, ih, List.findSome?_cons]
      cases cookieIn? text <;> rfl

theorem cookie?_join (line : List Char) (later : List (List Char)) :
    cookie? (Text.join .cr (line :: later)) =
      (cookie? line).or (if isComment line then later.findSome? cookieIn? else none) := by
  by_cases hne : later = []
  · subst hne
    rw [Text.join, List.intercalate_singleton, List.findSome?_nil, ite_self, Option.or_none]
  · rw [Text.join_cons .cr line hne, Linesep.chars, List.append_assoc, List.singleton_append,
      cookie?_append_lineEnd rfl, cookieIn?_join]

/-- The cookie that is found line by line: that of the first line or, below a blank one, of the
second. -/
def cookieByLine? : List (List Char) → Option (List Char)
  | [] => none
  | line :: later =>
    (cookie? line).or (if isBlankLine (Utf8.encode line) then cookie? (later.headD []) else none)

theorem declaredByLine_encode (texts : List (List Char)) :
    declaredByLine (texts.map Utf8.encode) = .ok ((cookieByLine? texts).map normalise) := by
  cases texts with
  | nil => rfl
  | cons line later =>
    have hnext : (later.map Utf8.encode).headD [] = Utf8.encode (later.headD []) := by
      cases later <;> rfl
    rw [declaredByLine, List.map_cons, List.headD_cons, List.tail_cons, hnext, declared?_encode,
      declared?_encode, readingOf_encode, cookieByLine?]
    cases cookie? line with
    | some name => rfl
    | none =>
      cases isBlankLine (Utf8.encode line) with
      | true => rfl
      | false => rfl

/-! ## Lines that are read alike -/

theorem cookieIn?_cons_of_ne {c : Char} (hc : c ≠ 'c') (text : List Char) :
    cookieIn? (c :: text) = cookieIn? text := by
  have hhere : cookieHere? (c :: text) = none := by
    rw [cookieHere?, if_neg]
    rw [List.isPrefixOf_iff_prefix]
    rintro ⟨rest, hrest⟩
    exact hc (List.cons_eq_cons.mp hrest).1.symm
  rw [cookieIn?_cons, hhere]
  rfl

/-- The cookie of a comment is the first one of the whole line. -/
theorem cookieIn?_of_cookie? {line : List Char} (h : cookie? line = some name) :
    cookieIn? line = some name := by
  induction line with
  | nil => cases h
  | cons c line ih =>
    rw [cookie?] at h
    by_cases hc : isIndent c = true
    · have hne : c ≠ 'c' := by
        rintro rfl
        exact absurd hc (by decide)
      rw [List.dropWhile_cons_of_pos hc] at h
      rw [cookieIn?_cons_of_ne hne]
      exact ih h
    · rw [List.dropWhile_cons_of_neg hc] at h
      split at h
      · rename_i comment heq
        obtain ⟨rfl, rfl⟩ := List.cons_eq_cons.mp heq
        rwa [cookieIn?_cons_of_ne (by decide)]
      · cases h

/-- A comment passes for a blank line. -/
theorem isBlank_of_isComment {line : List Char} (h : isComment line = true) : IsBlank line := by
  rw [isComment, beq_iff_eq] at h
  refine ⟨line.takeWhile isIndent, line.dropWhile isIndent, ?_, ?_, ?_⟩
  · rw [List.takeWhile_append_dropWhile]
  · exact List.all_eq_true.mp List.all_takeWhile
  · intro c hc
    rw [h] at hc
    cases hc
    exact .inl rfl

/-- Lines in which the same cookie is found, be they asked one by one or as one line. -/
inductive CookiesAlike : List (List Char) → Prop where
  | nil : CookiesAlike []
  /-- The first line has a cookie, or holds code: no other line is asked. -/
  | first (line : List Char) (later : List (List Char))
    (h : (∃ name, HasCookie line name) ∨ ¬ IsBlank line) : CookiesAlike (line :: later)
  /-- The first line is a comment, and the second one has a cookie. -/
  | second (line next : List Char) (later : List (List Char)) (hline : isComment line = true)
    (h : ∃ name, HasCookie next name) : CookiesAlike (line :: next :: later)
  /-- Nothing below the first line passes for a cookie. -/
  | single (line : List Char) (later : List (List Char))
    (h : ∀ text ∈ later, ∀ name, ¬ FirstCookie text name) : CookiesAlike (line :: later)
  /-- The first line is no comment, and the second one has no cookie. -/
  | blank (line : List Char) (later : List (List Char)) (hline : isComment line = false)
    (h : ∀ next ∈ later.head?, ∀ name, ¬ HasCookie next name) : CookiesAlike (line :: later)

/-- Lines that say the same, be they asked one by one or as one line: a line that is asked is not
UTF-8, or all of them are UTF-8 and the same cookie is found in them. -/
inductive ReadAlike : List (List UInt8) → Prop where
  | first (line : List UInt8) (later : List (List UInt8)) (h : Reads line .invalid) :
    ReadAlike (line :: later)
  | second (line next : List UInt8) (later : List (List UInt8)) (hline : Reads line .blank)
    (h : Reads next .invalid) : ReadAlike (line :: next :: later)
  | cookies (texts : List (List Char)) (h : CookiesAlike texts) :
    ReadAlike (texts.map Utf8.encode)

theorem cookie?_headD_eq_none_iff {later : List (List Char)} :
    cookie? (later.headD []) = none ↔ ∀ next ∈ later.head?, ∀ name, ¬ HasCookie next name := by
  cases later with
  | nil => exact ⟨fun _ next hnext => absurd hnext (Option.not_mem_none next), fun _ => rfl⟩
  | cons next later =>
    rw [List.headD_cons, cookie?_eq_none_iff, List.head?_cons]
    exact ⟨fun h _ hnext => Option.some.inj hnext ▸ h, fun h => h next rfl⟩

theorem CookiesAlike.cookie?_eq {texts : List (List Char)} (h : CookiesAlike texts) :
    cookie? (Text.join .cr texts) = cookieByLine? texts := by
  cases h with
  | nil => rfl
  | first line later h =>
    rw [cookie?_join, cookieByLine?]
    cases hcookie : cookie? line with
    | some name => rfl
    | none =>
      have hcode := h.resolve_left (not_exists.mpr (cookie?_eq_none_iff.mp hcookie))
      rw [if_neg (mt isBlank_of_isComment hcode), if_neg (mt (isBlankLine_encode line).mp hcode)]
  | second line next later hline h =>
    obtain ⟨name, h⟩ := h
    have hblank := (isBlankLine_encode line).mpr (isBlank_of_isComment hline)
    have hnext := cookie?_eq_some_iff.mpr h
    rw [cookie?_join, cookieByLine?, if_pos hline, if_pos hblank, List.findSome?_cons,
      cookieIn?_of_cookie? hnext, List.headD_cons, hnext]
  | single line later h =>
    have hnone : ∀ text ∈ later, cookieIn? text = none := fun text htext =>
      Option.eq_none_iff_forall_ne_some.mpr fun name hname =>
        h text htext name (cookieIn?_eq_some_iff.mp hname)
    have hnext : ∀ next ∈ later.head?, ∀ name, ¬ HasCookie next name := by
      intro next hnext name hname
      have hcookie := cookieIn?_of_cookie? (cookie?_eq_some_iff.mpr hname)
      rw [hnone next (List.mem_of_mem_head? hnext)] at hcookie
      cases hcookie
    rw [cookie?_join, cookieByLine?, List.findSome?_eq_none_iff.mpr hnone,
      cookie?_headD_eq_none_iff.mpr hnext, ite_self, ite_self]
  | blank line later hline h =>
    rw [cookie?_join, cookieByLine?, hline, cookie?_headD_eq_none_iff.mpr h, ite_self,
      if_neg Bool.false_ne_true]

theorem cookiesAlike_of_cookie?_eq {texts : List (List Char)}
    (h : cookie? (Text.join .cr texts) = cookieByLine? texts) : CookiesAlike texts := by
  cases texts with
  | nil => exact .nil
  | cons line later =>
    by_cases hfirst : (∃ name, HasCookie line name) ∨ ¬ IsBlank line
    · exact .first line later hfirst
    obtain ⟨hcookie, hblank⟩ := not_or.mp hfirst
    rw [cookie?_join, cookieByLine?, cookie?_eq_none_iff.mpr (not_exists.mp hcookie),
      Option.none_or, Option.none_or,
      if_pos ((isBlankLine_encode line).mpr (not_not.mp hblank))] at h
    cases hline : isComment line with
    | false =>
      rw [hline, if_neg Bool.false_ne_true] at h
      exact .blank line later hline (cookie?_headD_eq_none_iff.mp h.symm)
    | true =>
      rw [hline, if_pos rfl] at h
      cases hfound : later.findSome? cookieIn? with
      | none =>
        refine .single line later fun text htext name hname => ?_
        have hnone := List.findSome?_eq_none_iff.mp hfound text htext
        rw [cookieIn?_eq_some_iff.mpr hname] at hnone
        cases hnone
      | some name =>
        rw [hfound] at h
        cases later with
        | nil => cases hfound
        | cons next later =>
          exact .second line next later hline ⟨name, cookie?_eq_some_iff.mp h.symm⟩

/-- No other lines have the same cookie in both ways. -/
theorem cookiesAlike_iff {texts : List (List Char)} :
    CookiesAlike texts ↔ cookie? (Text.join .cr texts) = cookieByLine? texts :=
  ⟨CookiesAlike.cookie?_eq, cookiesAlike_of_cookie?_eq⟩

/-- What is UTF-8 as a whole is so line by line. -/
theorem exists_encode_of_joinBytes_cr {bodies : List (List UInt8)} {chars : List Char}
    (h : joinBytes .cr bodies = Utf8.encode chars) :
    ∀ body ∈ bodies, ∃ text, body = Utf8.encode text := by
  induction bodies generalizing chars with
  | nil => exact fun body hbody => absurd hbody List.not_mem_nil
  | cons body after ih =>
    by_cases hne : after = []
    · subst hne
      rw [joinBytes_singleton] at h
      exact List.forall_mem_singleton.mpr ⟨chars, h⟩
    · rw [joinBytes_cons .cr body hne] at h
      obtain ⟨start, rest, hstart, hrest⟩ :=
        Utf8.exists_of_encode_eq (b := 13) (by decide) h.symm
      exact List.forall_mem_cons.mpr ⟨⟨start, hstart.symm⟩, ih hrest.symm⟩

theorem declared?_of_invalid {line : List UInt8} (h : Reads line .invalid) :
    declared? line = .error .undeclared := by
  rw [declared?_eq, ← h.eq_readingOf]

theorem declared?_joinBytes_cr_of_invalid {bodies : List (List UInt8)} {body : List UInt8}
    (hbody : body ∈ bodies) (h : Reads body .invalid) :
    declared? (joinBytes .cr bodies) = .error .undeclared := by
  refine declared?_of_invalid (.invalid _ fun chars hchars => ?_)
  obtain ⟨text, htext⟩ := exists_encode_of_joinBytes_cr hchars body hbody
  cases h with
  | invalid _ hnot => exact hnot text htext

/-- Lines that are read alike declare the same where they are joined by carriage returns. -/
theorem declaration?_joinBytes_cr {bodies : List (List UInt8)}
    (hbodies : ∀ body ∈ bodies, IsByteBody body) (halike : ReadAlike bodies) :
    declaration? (joinBytes .cr bodies) = declaredByLine bodies := by
  rw [declaration?_of_unended (feed_not_mem_joinBytes hbodies)]
  cases halike with
  | first line later h =>
    rw [declared?_joinBytes_cr_of_invalid List.mem_cons_self h, declaredByLine, List.headD_cons,
      ← h.eq_readingOf, if_neg Reading.noConfusion, declared?_of_invalid h]
  | second line next later hline h =>
    have hnext : next ∈ line :: next :: later := List.mem_cons_of_mem line List.mem_cons_self
    rw [declared?_joinBytes_cr_of_invalid hnext h, declaredByLine, List.headD_cons,
      ← hline.eq_readingOf, if_pos rfl, List.tail_cons, List.headD_cons, declared?_of_invalid h]
  | cookies texts h =>
    rw [joinBytes_map_encode, declared?_encode, cookiesAlike_iff.mp h, declaredByLine_encode]

/-! ## Detection -/

theorem detect_joinBytes (sep : Linesep) (bodies : List (List UInt8)) :
    detect (joinBytes sep bodies) =
      (declaration? (joinBytes sep (unmarked bodies))).bind
        (resolve (splitMark (bodies.headD [])).1) :=
  detect_of_splitMark (splitMark_joinBytes sep bodies)

/-- The mark in front of lines, and what they declare, shows in the first two of them. -/
theorem declaredByLine_unmarked_take (bodies : List (List UInt8)) :
    (splitMark ((bodies.take 2).headD [])).1 = (splitMark (bodies.headD [])).1 ∧
      declaredByLine (unmarked (bodies.take 2)) = declaredByLine (unmarked bodies) := by
  cases bodies with
  | nil => exact ⟨rfl, rfl⟩
  | cons first later =>
    cases later with
    | nil => exact ⟨rfl, rfl⟩
    | cons second later => exact ⟨rfl, rfl⟩

/-- The answer where each line has a line feed. -/
theorem detect_joinBytes_of_ne_cr (hsep : sep ≠ .cr) {bodies : List (List UInt8)}
    (hbodies : ∀ body ∈ bodies, IsByteBody body) :
    detect (joinBytes sep bodies) =
      (declaredByLine (unmarked (bodies.take 2))).bind
        (resolve (splitMark ((bodies.take 2).headD [])).1) := by
  obtain ⟨hmark, hdeclared⟩ := declaredByLine_unmarked_take bodies
  rw [detect_joinBytes, declaration?_joinBytes hsep (isByteBody_of_mem_unmarked hbodies), hmark,
    hdeclared]

/-- The same lines declare the same encoding whether line feeds or pairs of a carriage return and a
line feed stand between them, and the lines from the third one on have no say in it, be they UTF-8
or not. Carriage returns alone change nothing where the lines are read alike: then the only line
that there is says what its first two parts say. -/
theorem detect_join {bodies : List (List UInt8)} (hbodies : ∀ body ∈ bodies, IsByteBody body) :
    detect (joinBytes .crlf bodies) = detect (joinBytes .lf bodies) ∧
      (∀ (sep : Linesep) (others : List (List UInt8)), sep ≠ .cr →
        (∀ body ∈ others, IsByteBody body) → others.take 2 = bodies.take 2 →
        detect (joinBytes sep others) = detect (joinBytes sep bodies)) ∧
      (ReadAlike (unmarked bodies) →
        detect (joinBytes .cr bodies) = detect (joinBytes .lf bodies)) := by
  refine ⟨?_, ?_, ?_⟩
  · rw [detect_joinBytes_of_ne_cr Linesep.noConfusion hbodies,
      detect_joinBytes_of_ne_cr Linesep.noConfusion hbodies]
  · intro sep others hsep hothers htake
    rw [detect_joinBytes_of_ne_cr hsep hothers, detect_joinBytes_of_ne_cr hsep hbodies, htake]
  · intro halike
    have hunmarked := isByteBody_of_mem_unmarked hbodies
    rw [detect_joinBytes, detect_joinBytes, declaration?_joinBytes_cr hunmarked halike,
      declaration?_joinBytes Linesep.noConfusion hunmarked]
/-- A comment and a cookie behind a mark, and below them another cookie or bytes that are not
UTF-8. -/
def markedLines (third : List UInt8) : List (List UInt8) :=
  [byteOrderMark ++ Utf8.encode "#!/bin/x".toList, Utf8.encode "# coding: UTF-8".toList, third]

theorem detect_join_markedLines :
    let cookie := Utf8.encode "# coding: koi8-r".toList
    (∀ body ∈ markedLines cookie, IsByteBody body) ∧
      (∀ body ∈ markedLines [0xFF], IsByteBody body) ∧
      ReadAlike (unmarked (markedLines cookie)) ∧
      detect (joinBytes .lf (markedLines cookie)) = .ok "utf-8-sig" ∧
      detect (joinBytes .crlf (markedLines cookie)) =
        detect (joinBytes .lf (markedLines cookie)) ∧
      detect (joinBytes .crlf (markedLines [0xFF])) =
        detect (joinBytes .crlf (markedLines cookie)) ∧
      detect (joinBytes .cr (markedLines cookie)) =
        detect (joinBytes .lf (markedLines cookie)) := by
  intro cookie
  have hbodies : ∀ body ∈ markedLines cookie, IsByteBody body := by decide +kernel
  have hothers : ∀ body ∈ markedLines [0xFF], IsByteBody body := by decide +kernel
  have halike : ReadAlike (unmarked (markedLines cookie)) := by
    have hcookie : HasCookie "# coding: UTF-8".toList "UTF-8".toList :=
      cookie?_eq_some_iff.mp (by decide +kernel)
    exact .cookies ["#!/bin/x".toList, "# coding: UTF-8".toList, "# coding: koi8-r".toList]
      (.second _ _ _ (by decide +kernel) ⟨_, hcookie⟩)
  obtain ⟨hpairs, hlater, hreturns⟩ := detect_join hbodies
  exact ⟨hbodies, hothers, halike, by decide +kernel, hpairs,
    hlater .crlf (markedLines [0xFF]) Linesep.noConfusion hothers rfl, hreturns halike⟩

/-- Between carriage returns a cookie on the third line counts, and bytes below code that are not
UTF-8 are a fault. -/
theorem detect_returns :
    let script := ["#", "#", "# coding: latin-1", ""].map fun line => Utf8.encode line.toList
    let code := ["x = 1", "y = 2"].map (fun line => Utf8.encode line.toList) ++ [[0xFF]]
    (∀ body ∈ script ++ code, IsByteBody body) ∧
      detect (joinBytes .lf script) = .ok "utf-8" ∧
      detect (joinBytes .cr script) = .ok "iso-8859-1" ∧
      detect (joinBytes .lf code) = .ok "utf-8" ∧
      detect (joinBytes .cr code) = .error .undeclared := by
  decide +kernel

end Codemod.Encoding
