import Codemod.Linesep

set_option autoImplicit false

/-! # Lines and what they are put together from

A line is a body and, unless it is the last one, a separator (`of_lines_eq_cons`). Nothing is lost
when a text is cut into lines (`flatten_lines`), and a text that is put together from bodies, each
of them ended by the same separator, is cut into these lines again (`lines_flatMap_append`): a
carriage return is never followed by a line feed there. -/

namespace Codemod.Text

theorem ne_of_isLineEnd {c d : Char} (hc : isLineEnd c = true) (hd : isLineEnd d = false) :
    c ≠ d := by
  rintro rfl
  rw [hc] at hd
  cases hd

/-- The characters of a line whose terminator is left away. -/
def IsBody (body : List Char) : Prop := ∀ c ∈ body, isLineEnd c = false

instance : DecidablePred IsBody := fun body =>
  List.decidableBAll (fun c => isLineEnd c = false) body

theorem isBody_nil : IsBody [] := by
  intro c hc
  cases hc

theorem isBody_cons {c : Char} {body : List Char} :
    IsBody (c :: body) ↔ isLineEnd c = false ∧ IsBody body :=
  List.forall_mem_cons

theorem isBody_append {body rest : List Char} :
    IsBody (body ++ rest) ↔ IsBody body ∧ IsBody rest :=
  List.forall_mem_append

/-! ## Cutting -/

theorem lines_cons_of_not_lineEnd {c : Char} (hc : isLineEnd c = false) (rest : List Char) :
    lines (c :: rest) = consFirst c (lines rest) := by
  have hne : c ≠ '\r' := (ne_of_isLineEnd rfl hc).symm
  rw [lines, hc]
  · simp only [Bool.false_eq_true, if_false]
  · rintro rest' rfl
    exact absurd rfl hne

/-- After a separator a new line begins. Only a carriage return looks at what comes after it. -/
theorem lines_sep (sep : Linesep) {rest : List Char} (hrest : sep = .cr → rest.head? ≠ some '\n') :
    lines (sep.chars ++ rest) = sep.chars :: lines rest := by
  cases sep with
  | lf =>
    rw [Linesep.chars, List.cons_append, List.nil_append, lines]
    · rfl
    · intro rest' heq
      exact absurd heq (by decide)
  | crlf => simp only [Linesep.chars, List.cons_append, List.nil_append, lines]
  | cr =>
    rw [Linesep.chars, List.cons_append, List.nil_append, lines]
    · rfl
    · intro rest' _ heq
      exact hrest rfl (by rw [heq, List.head?_cons])

theorem lines_body_sep {body : List Char} (hbody : IsBody body) (sep : Linesep) {rest : List Char}
    (hrest : sep = .cr → rest.head? ≠ some '\n') :
    lines (body ++ sep.chars ++ rest) = (body ++ sep.chars) :: lines rest := by
  induction body with
  | nil => exact lines_sep sep hrest
  | cons c body ih =>
    obtain ⟨hc, hbody⟩ := isBody_cons.mp hbody
    have htail : lines (body ++ sep.chars ++ rest) = (body ++ sep.chars) :: lines rest := ih hbody
    rw [List.cons_append, List.cons_append, lines_cons_of_not_lineEnd hc, htail, consFirst]

/-- What holds no separator is one line, unless there is nothing at all. -/
theorem lines_body {body : List Char} (hbody : IsBody body) (hne : body ≠ []) :
    lines body = [body] := by
  induction body with
  | nil => exact absurd rfl hne
  | cons c body ih =>
    obtain ⟨hc, hbody⟩ := isBody_cons.mp hbody
    rw [lines_cons_of_not_lineEnd hc]
    cases body with
    | nil => rfl
    | cons d body => rw [ih hbody (List.cons_ne_nil d body), consFirst]

theorem flatten_consFirst (c : Char) (ls : List (List Char)) :
    (consFirst c ls).flatten = c :: ls.flatten := by
  cases ls <;> rfl

/-- The lines put together are the text. -/
theorem flatten_lines (text : List Char) : (lines text).flatten = text := by
  fun_induction lines text with
  | case1 => rfl
  | case2 rest ih => rw [List.flatten_cons, ih]; rfl
  | case3 c rest _ hc ih => rw [List.flatten_cons, ih]; rfl
  | case4 c rest _ hc ih => rw [flatten_consFirst, ih]

theorem ne_nil_of_mem_consFirst {c : Char} {ls : List (List Char)} (h : ∀ line ∈ ls, line ≠ []) :
    ∀ line ∈ consFirst c ls, line ≠ [] := by
  cases ls with
  | nil => simp [consFirst]
  | cons first ls =>
    intro line hline
    rcases List.mem_cons.mp hline with rfl | hline
    · exact List.cons_ne_nil _ _
    · exact h line (List.mem_cons_of_mem _ hline)

/-- No line is empty. -/
theorem ne_nil_of_mem_lines (text : List Char) : ∀ line ∈ lines text, line ≠ [] := by
  fun_induction lines text with
  | case1 => simp
  | case2 rest ih => exact List.forall_mem_cons.mpr ⟨List.cons_ne_nil _ _, ih⟩
  | case3 c rest _ hc ih => exact List.forall_mem_cons.mpr ⟨List.cons_ne_nil _ _, ih⟩
  | case4 c rest _ hc ih => exact ne_nil_of_mem_consFirst ih

/-- Whatever is no body has a first separator. -/
theorem isBody_or_exists_sep (text : List Char) :
    IsBody text ∨ ∃ body sep rest, IsBody body ∧ (sep = Linesep.cr → rest.head? ≠ some '\n') ∧
      text = body ++ sep.chars ++ rest := by
  induction text with
  | nil => exact .inl isBody_nil
  | cons c text ih =>
    cases hc : isLineEnd c with
    | true =>
      simp only [isLineEnd, Bool.or_eq_true, beq_iff_eq] at hc
      rcases hc with rfl | rfl
      · exact .inr ⟨[], .lf, text, isBody_nil, (by intro h; cases h), rfl⟩
      · by_cases hfeed : text.head? = some '\n'
        · obtain ⟨rest, rfl⟩ := List.head?_eq_some_iff.mp hfeed
          exact .inr ⟨[], .crlf, rest, isBody_nil, (by intro h; cases h), rfl⟩
        · exact .inr ⟨[], .cr, text, isBody_nil, fun _ => hfeed, rfl⟩
    | false =>
      rcases ih with hbody | ⟨body, sep, rest, hbody, hrest, rfl⟩
      · exact .inl (isBody_cons.mpr ⟨hc, hbody⟩)
      · exact .inr ⟨c :: body, sep, rest, isBody_cons.mpr ⟨hc, hbody⟩, hrest, rfl⟩

/-- The first line is the last one as well and has no separator, or the lines after it are those of
the rest of the text. -/
theorem of_lines_eq_cons {text line : List Char} {later : List (List Char)}
    (h : lines text = line :: later) :
    (IsBody line ∧ later = []) ∨
      ∃ body sep rest, IsBody body ∧ (sep = Linesep.cr → rest.head? ≠ some '\n') ∧
        line = body ++ sep.chars ∧ text = line ++ rest ∧ later = lines rest := by
  rcases isBody_or_exists_sep text with hbody | ⟨body, sep, rest, hbody, hrest, rfl⟩
  · have hne : text ≠ [] := by
      rintro rfl
      rw [lines] at h
      cases h
    rw [lines_body hbody hne] at h
    cases h
    exact .inl ⟨hbody, rfl⟩
  · rw [lines_body_sep hbody sep hrest] at h
    cases h
    exact .inr ⟨body, sep, rest, hbody, hrest, rfl, rfl, rfl⟩

/-! ## Putting together -/

theorem head?_body_append {body rest : List Char} (hbody : IsBody body)
    (hrest : rest.head? ≠ some '\n') : (body ++ rest).head? ≠ some '\n' := by
  cases body with
  | nil => exact hrest
  | cons c body =>
    rintro ⟨⟩
    exact absurd (isBody_cons.mp hbody).1 (by decide)

/-- Lines that are ended by carriage returns do not begin with a line feed. -/
theorem head?_flatMap_append {sep : Linesep} {bodies : List (List Char)}
    (hbodies : ∀ body ∈ bodies, IsBody body) {rest : List Char}
    (hrest : sep = .cr → rest.head? ≠ some '\n') :
    sep = .cr → (bodies.flatMap (· ++ sep.chars) ++ rest).head? ≠ some '\n' := by
  rintro rfl
  cases bodies with
  | nil => exact hrest rfl
  | cons body bodies =>
    rw [List.flatMap_cons, List.append_assoc, List.append_assoc]
    exact head?_body_append (hbodies body List.mem_cons_self) (by rintro ⟨⟩)

/-- Bodies that are ended by the same separator are found again, and what comes after them is cut
as if nothing came before it. -/
theorem lines_flatMap_append (sep : Linesep) {bodies : List (List Char)}
    (hbodies : ∀ body ∈ bodies, IsBody body) {rest : List Char}
    (hrest : sep = .cr → rest.head? ≠ some '\n') :
    lines (bodies.flatMap (· ++ sep.chars) ++ rest) =
      bodies.map (· ++ sep.chars) ++ lines rest := by
  induction bodies with
  | nil => rfl
  | cons body bodies ih =>
    obtain ⟨hbody, hbodies⟩ := List.forall_mem_cons.mp hbodies
    rw [List.flatMap_cons, List.append_assoc,
      lines_body_sep hbody sep (head?_flatMap_append hbodies hrest), ih hbodies, List.map_cons,
      List.cons_append]

/-- Lines that are put together are found again. -/
theorem lines_flatMap {α : Type} (body : α → List Char) (hbody : ∀ a, IsBody (body a))
    (sep : Linesep) (as : List α) :
    lines (as.flatMap fun a => body a ++ sep.chars) = as.map fun a => body a ++ sep.chars := by
  have hbodies : ∀ b ∈ as.map body, IsBody b := by
    intro b hb
    obtain ⟨a, _, rfl⟩ := List.mem_map.mp hb
    exact hbody a
  have hlines : lines ((as.map body).flatMap (· ++ sep.chars) ++ []) = _ :=
    lines_flatMap_append sep hbodies fun _ => by rintro ⟨⟩
  rwa [List.append_nil, lines, List.append_nil, List.flatMap_map, List.map_map] at hlines

/-! ## Joining -/

/-- Lines with a separator between any two of them. The last one has none, so a text whose last
line is ended by one has an empty body at the end. -/
def join (sep : Linesep) (bodies : List (List Char)) : List Char :=
  sep.chars.intercalate bodies

theorem join_cons (sep : Linesep) (body : List Char) {after : List (List Char)}
    (hne : after ≠ []) : join sep (body :: after) = body ++ sep.chars ++ join sep after := by
  obtain ⟨next, after, rfl⟩ := List.exists_cons_of_ne_nil hne
  exact List.intercalate_cons_cons

theorem head?_join {bodies : List (List Char)} (hbodies : ∀ body ∈ bodies, IsBody body) :
    (join .cr bodies).head? ≠ some '\n' := by
  cases bodies with
  | nil => rintro ⟨⟩
  | cons body after =>
    have hbody := hbodies body List.mem_cons_self
    by_cases hne : after = []
    · subst hne
      rw [join, List.intercalate_singleton, ← List.append_nil body]
      exact head?_body_append hbody (by rintro ⟨⟩)
    · rw [join_cons .cr body hne, List.append_assoc]
      exact head?_body_append hbody (by rintro ⟨⟩)

/-- All lines but the last one have the separator. -/
theorem lines_join_cons (sep : Linesep) {body : List Char} {after : List (List Char)}
    (hbody : IsBody body) (hafter : ∀ body ∈ after, IsBody body) (hne : after ≠ []) :
    lines (join sep (body :: after)) = (body ++ sep.chars) :: lines (join sep after) := by
  rw [join_cons sep body hne]
  refine lines_body_sep hbody sep ?_
  rintro rfl
  exact head?_join hafter

end Codemod.Text
