import Codemod.Proofs.Encoding.Utf8
import Codemod.Proofs.Text.Line
import Mathlib.Data.List.Chain

set_option autoImplicit false

/-! # Cutting a text by its bytes

A text is stored as UTF-8, and its lines can be found by going from byte to byte: on to the next
line feed or carriage return, with one look at the byte behind a carriage return (`lineStop`). What
is between two such places is then taken out of the text, which fails if one of them is in the
middle of a character (`slice?`). It never is, because no byte of a longer character is taken for a
terminator, so the bytes are cut into the lines of the text (`linesFrom?_encode`). What these lines
are is said without cutting anything (`IsCut`), and they are the only ones (`cut_by_bytes`). -/

namespace Codemod.Text

open Encoding.Utf8

variable {bytes before after : List UInt8} {b : UInt8} {i : Nat} {text rest line : List Char}
  {later ls : List (List Char)}

/-! ## Going from byte to byte -/

/-- The byte of a line feed. -/
def feed : UInt8 := 0x0A

/-- The byte of a carriage return. -/
def carriage : UInt8 := 0x0D

/-- Whether a place is between two characters, or at either end of the text. -/
def isBoundary (bytes : List UInt8) (i : Nat) : Bool :=
  i == 0 ||
    match bytes[i]? with
    | some b => !isContinuation b
    | none => i == bytes.length

/-- The bytes between two places, neither of which may be in the middle of a character. -/
def slice? (bytes : List UInt8) (start stop : Nat) : Option (List UInt8) :=
  if start ≤ stop ∧ isBoundary bytes start ∧ isBoundary bytes stop then
    some ((bytes.take stop).drop start)
  else none

/-- Where the line ends that has come to a place: behind the next terminator, or with the text. -/
def lineStop (bytes : List UInt8) (i : Nat) : Nat :=
  if h : i < bytes.length then
    if bytes[i] = feed then i + 1
    else if bytes[i] = carriage then
      if bytes[i + 1]? = some feed then i + 2 else i + 1
    else lineStop bytes (i + 1)
  else i
termination_by bytes.length - i

theorem le_lineStop (bytes : List UInt8) (i : Nat) : i ≤ lineStop bytes i := by
  fun_induction lineStop bytes i <;> omega

/-- A line that begins in the text has a byte. -/
theorem lt_lineStop (h : i < bytes.length) : i < lineStop bytes i := by
  rw [lineStop, dif_pos h]
  split
  · exact Nat.lt_succ_self i
  · split
    · split <;> omega
    · exact le_lineStop bytes (i + 1)

/-- The lines from a place on. There are none if one of them cannot be taken out of the text. -/
def linesFrom? (bytes : List UInt8) (start : Nat) : Option (List (List UInt8)) :=
  if _h : start < bytes.length then do
    let line ← slice? bytes start (lineStop bytes start)
    let later ← linesFrom? bytes (lineStop bytes start)
    return line :: later
  else some []
termination_by bytes.length - start
decreasing_by
  have hstop := lt_lineStop _h
  omega

/-! ## Where lines end -/

theorem lineStop_end (bytes : List UInt8) : lineStop bytes bytes.length = bytes.length := by
  rw [lineStop, dif_neg (Nat.lt_irrefl _)]

theorem lineStop_feed (before after : List UInt8) :
    lineStop (before ++ feed :: after) before.length = before.length + 1 := by
  rw [lineStop]
  simp

theorem lineStop_carriage (before after : List UInt8) :
    lineStop (before ++ carriage :: after) before.length =
      if after.head? = some feed then before.length + 2 else before.length + 1 := by
  have hnext : (before ++ carriage :: after)[before.length + 1]? = after.head? := by
    rw [List.getElem?_append_right (by omega), Nat.add_sub_cancel_left, List.getElem?_cons_succ,
      List.head?_eq_getElem?]
  have hne : carriage ≠ feed := by decide
  rw [lineStop]
  simp [hne, hnext]

/-- Bytes that end no line are passed over. -/
theorem lineStop_body {body : List UInt8} (hbody : ∀ b ∈ body, b ≠ feed ∧ b ≠ carriage)
    (before after : List UInt8) :
    lineStop (before ++ body ++ after) before.length =
      lineStop (before ++ body ++ after) (before ++ body).length := by
  induction body generalizing before with
  | nil => rw [List.append_nil]
  | cons b body ih =>
    obtain ⟨⟨hfeed, hcarriage⟩, hbody⟩ := List.forall_mem_cons.mp hbody
    have hlater := ih hbody (before ++ [b])
    rw [List.length_append, List.length_singleton, List.append_assoc before,
      List.singleton_append] at hlater
    rw [lineStop, ← hlater]
    simp [hfeed, hcarriage]

/-! ## Bytes and characters -/

/-- The first byte of a character does not continue one. -/
theorem exists_encodeChar_eq_cons (c : Char) :
    ∃ b more, encodeChar c = b :: more ∧ isContinuation b = false := by
  have hvalid := toNat_valid c
  have hfirst : ∀ n, n < 256 → (n < 0x80 ∨ 0xBF < n) →
      isContinuation (UInt8.ofNat n) = false := by
    intro n hlt hn
    rw [← Bool.not_eq_true, isContinuation_iff, toNat_ofNat hlt]
    omega
  rw [encodeChar]
  split
  · exact ⟨_, _, rfl, hfirst _ (by omega) (by omega)⟩
  · split
    · exact ⟨_, _, rfl, hfirst _ (by omega) (by omega)⟩
    · split
      · exact ⟨_, _, rfl, hfirst _ (by omega) (by omega)⟩
      · exact ⟨_, _, rfl, hfirst _ (by omega) (by omega)⟩

/-- Behind some characters of a text is a place between characters. -/
theorem isBoundary_encode (text rest : List Char) :
    isBoundary (encode (text ++ rest)) (encode text).length = true := by
  rw [isBoundary, encode_append, List.getElem?_append_right (Nat.le_refl _), Nat.sub_self]
  cases rest with
  | nil => simp [encode]
  | cons c rest =>
    obtain ⟨b, more, hc, hb⟩ := exists_encodeChar_eq_cons c
    simp [encode_cons, hc, hb]

theorem length_encode_pos (hne : text ≠ []) : 0 < (encode text).length := by
  obtain ⟨c, rest, rfl⟩ := List.exists_cons_of_ne_nil hne
  obtain ⟨b, more, hc, -⟩ := exists_encodeChar_eq_cons c
  rw [encode_cons, hc, List.cons_append, List.length_cons]
  exact Nat.succ_pos _

theorem slice?_encode (text line rest : List Char) :
    slice? (encode (text ++ line ++ rest)) (encode text).length (encode (text ++ line)).length =
      some (encode line) := by
  have hstart : isBoundary (encode (text ++ line ++ rest)) (encode text).length = true := by
    rw [List.append_assoc]
    exact isBoundary_encode text (line ++ rest)
  have hstop := isBoundary_encode (text ++ line) rest
  have hle : (encode text).length ≤ (encode (text ++ line)).length := by
    rw [encode_append, List.length_append]
    exact Nat.le_add_right _ _
  rw [slice?, if_pos ⟨hle, hstart, hstop⟩, encode_append (text ++ line), List.take_left,
    encode_append, List.drop_left]

/-- No byte of a body is one of a terminator. -/
theorem ne_of_mem_encode {body : List Char} (hbody : IsBody body) (hb : b ∈ encode body) :
    b ≠ feed ∧ b ≠ carriage := by
  have hne : ∀ c : Char, isLineEnd c = true → c.toNat < 0x80 → b ≠ UInt8.ofNat c.toNat := by
    rintro c hc hlt rfl
    have hcode : (UInt8.ofNat c.toNat).toNat = c.toNat := toNat_ofNat (by omega)
    obtain ⟨d, hd, hcd⟩ := exists_of_mem_encode hb (by rwa [hcode])
    obtain rfl : d = c := Char.toNat_inj.mp (hcd.trans hcode)
    rw [hbody d hd] at hc
    cases hc
  exact ⟨hne '\n' rfl (by decide), hne '\r' rfl (by decide)⟩

theorem head?_encode_ne (hrest : rest.head? ≠ some '\n') : (encode rest).head? ≠ some feed := by
  cases rest with
  | nil => simp [encode]
  | cons c rest =>
    obtain ⟨b, more, hc, -⟩ := exists_encodeChar_eq_cons c
    intro hfeed
    rw [encode_cons, hc, List.cons_append, List.head?_cons, Option.some_inj] at hfeed
    have hmem : feed ∈ encodeChar c := by simp [hc, hfeed]
    have hcode : c.toNat = feed.toNat := toNat_of_mem_encodeChar hmem (by decide)
    exact hrest (congrArg some (Char.toNat_inj.mp hcode))

theorem lineStop_sep (sep : Linesep) (before : List UInt8)
    (hrest : sep = .cr → rest.head? ≠ some '\n') :
    lineStop (before ++ encode sep.chars ++ encode rest) before.length =
      (before ++ encode sep.chars).length := by
  rw [List.append_assoc, List.length_append]
  cases sep with
  | lf => exact lineStop_feed before (encode rest)
  | crlf => exact (lineStop_carriage before (feed :: encode rest)).trans (if_pos rfl)
  | cr =>
    have hhead := head?_encode_ne (hrest rfl)
    exact (lineStop_carriage before (encode rest)).trans (if_neg hhead)

/-- The first line of the rest of a text ends where the bytes say. -/
theorem lineStop_encode (h : lines rest = line :: later) (text : List Char) :
    ∃ rest', rest = line ++ rest' ∧ later = lines rest' ∧
      lineStop (encode (text ++ rest)) (encode text).length = (encode (text ++ line)).length := by
  rcases of_lines_eq_cons h with
    ⟨hbody, rfl⟩ | ⟨body, sep, rest', hbody, hrest, rfl, rfl, rfl⟩
  · have hrest : rest = line := by
      rw [← flatten_lines rest, h, List.flatten_singleton]
    subst hrest
    refine ⟨[], (List.append_nil rest).symm, by rw [lines], ?_⟩
    have hstop := lineStop_body (fun _ => ne_of_mem_encode hbody) (encode text) []
    rw [List.append_nil, lineStop_end] at hstop
    rwa [encode_append]
  · refine ⟨rest', rfl, rfl, ?_⟩
    have hstop := lineStop_body (fun _ => ne_of_mem_encode hbody) (encode text)
      (encode (sep.chars ++ rest'))
    rw [encode_append sep.chars, ← List.append_assoc, lineStop_sep sep _ hrest] at hstop
    simpa [encode_append] using hstop

/-- From the end of some characters on, the bytes of a text are cut into the lines that the rest of
its characters are cut into. -/
theorem linesFrom?_encode (text rest : List Char) :
    linesFrom? (encode (text ++ rest)) (encode text).length = some ((lines rest).map encode) := by
  -- by the lines of the rest: each of them is one turn of the loop, whatever its length
  induction hlines : lines rest generalizing text rest with
  | nil =>
    have hrest : rest = [] := by
      rw [← flatten_lines rest, hlines, List.flatten_nil]
    rw [hrest, List.append_nil, linesFrom?, dif_neg (Nat.lt_irrefl _), List.map_nil]
  | cons line later ih =>
    have hne : line ≠ [] := ne_nil_of_mem_lines rest line (hlines ▸ List.mem_cons_self)
    obtain ⟨rest', rfl, rfl, hstop⟩ := lineStop_encode hlines text
    have hlater := ih (text ++ line) rest' rfl
    have hmore : (encode text).length < (encode (text ++ (line ++ rest'))).length := by
      have hline := length_encode_pos hne
      simp only [encode_append, List.length_append]
      omega
    rw [linesFrom?, dif_pos hmore, hstop, ← List.append_assoc, slice?_encode, hlater]
    rfl

/-! ## What a text is cut into -/

/-- A line that has its terminator, and no other one in front of that. -/
def IsTerminated (line : List Char) : Prop :=
  ∃ body sep, IsBody body ∧ line = body ++ Linesep.chars sep

/-- A text is cut into lines: nothing is lost or empty, every line has one terminator at its end,
which only the last one may lack, and the two halves of a pair stay together. -/
structure IsCut (text : List Char) (ls : List (List Char)) : Prop where
  flatten : ls.flatten = text
  ne_nil : ∀ line ∈ ls, line ≠ []
  terminated : ∀ line ∈ ls.dropLast, IsTerminated line
  last : ∀ line ∈ ls.getLast?, IsTerminated line ∨ IsBody line
  unsplit : ls.IsChain fun line next => line.getLast? = some '\r' → next.head? ≠ some '\n'

theorem getLast?_body_sep (body : List Char) (sep : Linesep) :
    (body ++ sep.chars).getLast? = some '\r' ↔ sep = .cr := by
  cases sep <;> simp [Linesep.chars]

/-- A text that ends with its first line. -/
theorem isCut_singleton (hne : line ≠ []) (hline : IsTerminated line ∨ IsBody line) :
    IsCut line [line] where
  flatten := List.flatten_singleton
  ne_nil := by simpa using hne
  terminated := by simp
  last := by simpa using hline
  unsplit := List.isChain_singleton line

/-- A terminated line comes before a text that is cut, unless they share a pair. -/
theorem IsCut.cons (h : IsCut rest ls) {body : List Char} (hbody : IsBody body) (sep : Linesep)
    (hrest : sep = .cr → rest.head? ≠ some '\n') :
    IsCut (body ++ sep.chars ++ rest) ((body ++ sep.chars) :: ls) where
  flatten := by rw [List.flatten_cons, h.flatten]
  ne_nil := by
    refine List.forall_mem_cons.mpr ⟨?_, h.ne_nil⟩
    cases sep <;> simp [Linesep.chars]
  terminated := by
    cases ls with
    | nil => simp
    | cons next ls =>
      rw [List.dropLast_cons_cons]
      exact List.forall_mem_cons.mpr ⟨⟨body, sep, hbody, rfl⟩, h.terminated⟩
  last := by
    cases ls with
    | nil => simpa using .inl ⟨body, sep, hbody, rfl⟩
    | cons next ls =>
      rw [List.getLast?_cons_cons]
      exact h.last
  unsplit := by
    refine List.isChain_cons.mpr ⟨fun next hnext hlast => ?_, h.unsplit⟩
    obtain ⟨later, rfl⟩ := List.head?_eq_some_iff.mp hnext
    have hhead := hrest ((getLast?_body_sep body sep).mp hlast)
    rwa [← h.flatten, List.flatten_cons,
      List.head?_append_of_ne_nil _ (h.ne_nil next List.mem_cons_self)] at hhead

/-- What comes after the first line is cut into the lines after it. -/
theorem IsCut.tail (h : IsCut text (line :: ls)) (hne : ls ≠ []) : IsCut ls.flatten ls := by
  obtain ⟨next, later, rfl⟩ := List.exists_cons_of_ne_nil hne
  have hterminated := h.terminated
  have hlast := h.last
  rw [List.dropLast_cons_cons] at hterminated
  rw [List.getLast?_cons_cons] at hlast
  exact {
    flatten := rfl
    ne_nil := (List.forall_mem_cons.mp h.ne_nil).2
    terminated := (List.forall_mem_cons.mp hterminated).2
    last := hlast
    unsplit := (List.isChain_cons.mp h.unsplit).2 }

theorem isCut_lines (text : List Char) : IsCut text (lines text) := by
  induction hlines : lines text generalizing text with
  | nil =>
    rw [← flatten_lines text, hlines]
    exact ⟨rfl, by simp, by simp, by simp, .nil⟩
  | cons line later ih =>
    rcases of_lines_eq_cons hlines with
      ⟨hbody, rfl⟩ | ⟨body, sep, rest, hbody, hrest, rfl, rfl, rfl⟩
    · rw [← flatten_lines text, hlines, List.flatten_singleton]
      exact isCut_singleton (ne_nil_of_mem_lines text line (by simp [hlines])) (.inr hbody)
    · exact (ih rest rfl).cons hbody sep hrest

/-- There is no other way to cut a text. -/
theorem IsCut.eq_lines (h : IsCut text ls) : ls = lines text := by
  induction ls generalizing text with
  | nil => rw [← h.flatten, List.flatten_nil, lines]
  | cons line later ih =>
    have htext := h.flatten
    rw [List.flatten_cons] at htext
    subst htext
    by_cases hlater : later = []
    · subst hlater
      rw [List.flatten_nil, List.append_nil]
      rcases h.last line rfl with ⟨body, sep, hbody, rfl⟩ | hbody
      · have hnext : sep = .cr → ([] : List Char).head? ≠ some '\n' := by simp
        have hlines := lines_body_sep hbody sep hnext
        rw [List.append_nil, lines] at hlines
        exact hlines.symm
      · exact (lines_body hbody (h.ne_nil line List.mem_cons_self)).symm
    · have hrest := h.tail hlater
      obtain ⟨next, rest, rfl⟩ := List.exists_cons_of_ne_nil hlater
      obtain ⟨body, sep, hbody, rfl⟩ := h.terminated line (by simp)
      -- what follows a carriage return is the head of the next line, which is not empty
      have hsep : sep = .cr → (next :: rest).flatten.head? ≠ some '\n' := by
        intro hcr
        rw [List.flatten_cons, List.head?_append_of_ne_nil _ (hrest.ne_nil next List.mem_cons_self)]
        exact (List.isChain_cons.mp h.unsplit).1 next rfl ((getLast?_body_sep body sep).mpr hcr)
      rw [lines_body_sep hbody sep hsep, ← ih hrest]

/-- A text can be cut by its bytes: this ends, never asks for a part of a character, and comes to
lines that are a cut of the text. It is the only one. -/
theorem cut_by_bytes (text : List Char) :
    linesFrom? (encode text) 0 = some ((lines text).map encode) ∧
      ∀ ls, IsCut text ls ↔ ls = lines text := by
  refine ⟨linesFrom?_encode [] text, fun ls => ⟨IsCut.eq_lines, ?_⟩⟩
  rintro rfl
  exact isCut_lines text

end Codemod.Text
