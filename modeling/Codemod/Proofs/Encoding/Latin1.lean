import Codemod.Proofs.Encoding.Declaration
import Codemod.Proofs.Encoding.Label

set_option autoImplicit false

/-! # Names of ISO-8859-1

ISO-8859-1 has a character for each byte, with the number of the byte. The names that begin with one
of the common spellings are decoded in this way. All other names of ISO-8859-1 are labels of
windows-1252 (`ofName?_of_mem_latin1Labels`), a set that has printable characters in the place of
most control characters of the upper half, so that a source file that uses such a name is decoded to
another text if one of these bytes is in it (`decodeSource_euro`). The main statement is
`decodeSource_of_latin1Name`. -/

namespace Codemod.Encoding

variable {bytes body : List UInt8} {chars name : List Char}

/-! ## Names -/

/-- A common spelling of ISO-8859-1, with or without a suffix. -/
def IsLatin1Spelling (name : List Char) : Prop :=
  ∃ stem ∈ latin1Stems, isNamed stem (fold name) = true

/-- The other names of ISO-8859-1, in lower case. -/
def latin1Labels : List String :=
  ["cp819", "csisolatin1", "ibm819", "iso-ir-100", "iso-ir_100", "iso_ir-100", "iso_ir_100",
    "iso8859-1", "iso8859_1", "iso88591", "l1", "latin1"]

/-- A name of ISO-8859-1 that is the name of a codec. -/
def IsLatin1Name (name : List Char) : Prop :=
  IsLatin1Spelling name ∨ String.ofList (name.map Char.toLower) ∈ latin1Labels

theorem isPrefix_of_isNamed {stem : String} {folded : List Char} (h : isNamed stem folded = true) :
    stem.toList <+: folded := by
  rw [isNamed, Bool.or_eq_true, beq_iff_eq, List.isPrefixOf_iff_prefix] at h
  rcases h with rfl | h
  · exact List.prefix_rfl
  · exact (List.prefix_append _ _).trans h

/-- No spelling of ISO-8859-1 begins like one of UTF-8. -/
theorem IsLatin1Spelling.normalise_eq (h : IsLatin1Spelling name) :
    normalise name = "iso-8859-1".toList := by
  obtain ⟨stem, hstem, hnamed⟩ := h
  rcases normalise_cases name with ⟨hutf8, -⟩ | ⟨-, -, hname⟩ | ⟨-, hnone, -⟩
  · have hhead : ∀ stem ∈ latin1Stems, (stem.toList.take 1).length = 1 ∧
        stem.toList.take 1 ≠ ['u'] := by
      decide
    have hu : ['u'] <+: fold name := List.IsPrefix.trans (by decide) (isPrefix_of_isNamed hutf8)
    have hother := (List.take_prefix 1 stem.toList).trans (isPrefix_of_isNamed hnamed)
    obtain ⟨hlength, hne⟩ := hhead stem hstem
    rw [List.prefix_iff_eq_take] at hu hother
    rw [hlength] at hother
    exact absurd (hother.trans hu.symm) hne
  · exact hname
  · have hany : latin1Stems.any (isNamed · (fold name)) = true :=
      List.any_eq_true.mpr ⟨stem, hstem, hnamed⟩
    rw [hnone] at hany
    cases hany

/-- Nor is any of the labels a common spelling, and all of them are labels of windows-1252. -/
theorem ofName?_of_mem_latin1Labels (h : String.ofList (name.map Char.toLower) ∈ latin1Labels) :
    normalise name = name ∧ Codec.ofName? name = some (.charset .windows1252) := by
  have hall : ∀ label ∈ latin1Labels, label.toList.map Char.toLower = label.toList ∧
      isNamed "utf-8" (fold label.toList) = false ∧
      latin1Stems.any (isNamed · (fold label.toList)) = false ∧
      Codec.ofName? label.toList = some (.charset .windows1252) := by
    decide +kernel
  obtain ⟨hlower, hutf8, hlatin1, hcodec⟩ := hall _ h
  rw [String.toList_ofList] at hlower hutf8 hlatin1 hcodec
  rw [← fold_congr hlower.symm] at hutf8 hlatin1
  rw [← ofName?_congr hlower.symm] at hcodec
  refine ⟨?_, hcodec⟩
  rw [normalise, hutf8, hlatin1, if_neg Bool.false_ne_true, if_neg Bool.false_ne_true]

/-! ## Windows-1252 -/

/-- The bytes that stand for a printable character in windows-1252 and for a control character in
ISO-8859-1. -/
def IsReplaced (b : UInt8) : Prop :=
  0x80 ≤ b ∧ b ≤ 0x9F ∧ b ∉ [0x81, 0x8D, 0x8F, 0x90, 0x9D]

instance : DecidablePred IsReplaced := fun _ =>
  inferInstanceAs (Decidable (_ ∧ _))

/-- The numbers of the characters of windows-1252 from `0x80` to `0xFF`. Behind the first two rows
they are the numbers of the bytes. -/
def westernNumbers : List Nat :=
  [0x20AC, 0x81, 0x201A, 0x0192, 0x201E, 0x2026, 0x2020, 0x2021, 0x02C6, 0x2030, 0x0160, 0x2039,
    0x0152, 0x8D, 0x017D, 0x8F, 0x90, 0x2018, 0x2019, 0x201C, 0x201D, 0x2022, 0x2013, 0x2014,
    0x02DC, 0x2122, 0x0161, 0x203A, 0x0153, 0x9D, 0x017E, 0x0178] ++ List.range' 0xA0 96

/-- The blanks in front of a line of the table. -/
def margin : List Char :=
  ['\n', ' ', ' ', ' ', ' ']

set_option maxRecDepth 4000 in
/-- The table has two lines. -/
theorem windows1252_eq : Table.windows1252 = String.ofList
    (margin ++ (westernNumbers.take 63).map Char.ofNat ++ margin ++
      (westernNumbers.drop 63).map Char.ofNat) := rfl

theorem cells_windows1252 :
    Table.cells Table.windows1252 = (westernNumbers.map Char.ofNat).toArray := by
  rw [Table.cells, windows1252_eq, String.toList_ofList]
  rfl

/-- The character of a byte in windows-1252. -/
def westernChar (b : UInt8) : Char :=
  if b < 0x80 then asciiChar b else Char.ofNat (westernNumbers.getD (b.toNat - 0x80) 0)

theorem forall_byte {p : UInt8 → Prop} (h : ∀ n < 256, p (UInt8.ofNat n)) (b : UInt8) : p b := by
  have hb := h b.toNat b.toNat_lt
  rwa [UInt8.ofNat_toNat] at hb

theorem char?_windows1252 (b : UInt8) :
    SingleByte.char? (Table.cells Table.windows1252) b = some (westernChar b) := by
  rw [cells_windows1252]
  refine forall_byte (p := fun b =>
    SingleByte.char? (westernNumbers.map Char.ofNat).toArray b = some (westernChar b)) ?_ b
  decide +kernel

theorem westernChar_eq_iff (b : UInt8) : westernChar b = asciiChar b ↔ ¬ IsReplaced b := by
  refine forall_byte (p := fun b => westernChar b = asciiChar b ↔ ¬ IsReplaced b) ?_ b
  decide +kernel

/-! ## Decoding -/

/-- Where every byte has a character the text is that of the characters. -/
theorem Machine.decode_bytewise {char? : UInt8 → Option Char} {char : UInt8 → Char}
    (h : ∀ b, char? b = some (char b)) (bytes : List UInt8) :
    (Machine.bytewise char?).decode bytes = some (bytes.map char) := by
  rw [Machine.decode]
  induction bytes with
  | nil => rfl
  | cons b bytes ih =>
    -- what is fed first, and what is run after it
    change (((char? b).map fun c => ((), [c])).bind fun fed =>
      ((Machine.bytewise char?).run fed.1 bytes).bind fun later => some (fed.2 ++ later)) = _
    rw [h]
    change ((Machine.bytewise char?).run (Machine.bytewise char?).start bytes).bind
      (fun later => some ([char b] ++ later)) = _
    rw [ih]
    rfl

theorem decode_windows1252 (bytes : List UInt8) :
    Charset.windows1252.decode bytes = some (bytes.map westernChar) :=
  Machine.decode_bytewise char?_windows1252 bytes

theorem decodeSource_charset {name : String} {set : Charset} {text : List Char}
    (h : detect bytes = .ok name) (hcodec : Codec.ofName? name.toList = some (.charset set))
    (hdecode : set.decode bytes = some text) : decodeSource bytes = .ok text := by
  simp only [decodeSource, h, hcodec, bind, Except.bind, hdecode]
  rfl

theorem FirstLine.eq_append {line later : List UInt8} (h : FirstLine bytes line later) :
    bytes = line ++ later := by
  cases h with
  | ended body later hbody => rw [List.append_assoc, List.singleton_append]
  | unended body hbody => rw [List.append_nil]

/-- A cookie in the first line decides alone. -/
theorem detect_of_cookie (hmark : ¬ byteOrderMark <+: bytes)
    (hline : FirstLine bytes (Utf8.encode chars) body) (hcookie : HasCookie chars name)
    {codec : Codec} (hcodec : Codec.ofName? (normalise name) = some codec) :
    detect bytes = .ok (String.ofList (normalise name)) := by
  have hanswer := (detect_eq_iff hmark).mpr (.first hline (.cookie chars name hcookie) nofun)
  rw [hanswer, Reading.answer, hcodec]
  rfl

theorem decodeSource_of_spelling (hmark : ¬ byteOrderMark <+: bytes)
    (hline : FirstLine bytes (Utf8.encode chars) body) (hcookie : HasCookie chars name)
    (hname : IsLatin1Spelling name) : decodeSource bytes = .ok (bytes.map asciiChar) := by
  have hdetect : detect bytes = .ok "iso-8859-1" := by
    have hcodec : Codec.ofName? (normalise name) = some .latin1 := by
      rw [hname.normalise_eq]
      exact ofName?_latin1
    rw [detect_of_cookie hmark hline hcookie hcodec, hname.normalise_eq]
    rfl
  exact decodeSource_latin1 hdetect ofName?_latin1

theorem decodeSource_of_label (hmark : ¬ byteOrderMark <+: bytes)
    (hline : FirstLine bytes (Utf8.encode chars) body) (hcookie : HasCookie chars name)
    (hname : String.ofList (name.map Char.toLower) ∈ latin1Labels) :
    decodeSource bytes = .ok (bytes.map westernChar) := by
  obtain ⟨hcanonical, hcodec⟩ := ofName?_of_mem_latin1Labels hname
  have hdetect : detect bytes = .ok (String.ofList name) := by
    rw [detect_of_cookie hmark hline hcookie (hcanonical.symm ▸ hcodec), hcanonical]
  exact decodeSource_charset hdetect (by rwa [String.toList_ofList]) (decode_windows1252 bytes)

/-- **All names of ISO-8859-1 decode alike, except for the bytes that are replaced.** Whatever
stands below a cookie with such a name, decoding succeeds and gives a character for each byte. Under
a common spelling every character has the number of its byte, and under any other name every
character but those of the bytes that windows-1252 has replaced. -/
theorem decodeSource_of_latin1Name (hmark : ¬ byteOrderMark <+: bytes)
    (hline : FirstLine bytes (Utf8.encode chars) body) (hcookie : HasCookie chars name)
    (hname : IsLatin1Name name) :
    ∃ decoded : UInt8 → Char,
      decodeSource bytes = .ok ((Utf8.encode chars).map decoded ++ body.map decoded) ∧
      ∀ b, (decoded b).toNat = b.toNat ↔ IsLatin1Spelling name ∨ ¬ IsReplaced b := by
  have hparts : ∀ decoded : UInt8 → Char,
      (Utf8.encode chars).map decoded ++ body.map decoded = bytes.map decoded := by
    intro decoded
    rw [← List.map_append, ← hline.eq_append]
  simp only [hparts]
  by_cases hspelling : IsLatin1Spelling name
  · refine ⟨asciiChar, decodeSource_of_spelling hmark hline hcookie hspelling, fun b => ?_⟩
    exact ⟨fun _ => .inl hspelling, fun _ => toNat_asciiChar b⟩
  · have hlabel := hname.resolve_left hspelling
    refine ⟨westernChar, decodeSource_of_label hmark hline hcookie hlabel, fun b => ?_⟩
    rw [or_iff_right hspelling, ← westernChar_eq_iff, ← toNat_asciiChar b, Char.toNat_inj]

/-- A comment with a common spelling, and all bytes from `0x80` to `0x9F` below it. -/
theorem decodeSource_of_latin1Name_suffixed :
    let line := "# coding: ISO_Latin-1-unix\n".toList
    let row := (List.range' 0x80 32).map UInt8.ofNat
    ¬ byteOrderMark <+: Utf8.encode line ++ row ∧
      FirstLine (Utf8.encode line ++ row) (Utf8.encode line) row ∧
      HasCookie line "ISO_Latin-1-unix".toList ∧ IsLatin1Name "ISO_Latin-1-unix".toList ∧
      ∃ decoded : UInt8 → Char,
        decodeSource (Utf8.encode line ++ row) =
          .ok ((Utf8.encode line).map decoded ++ row.map decoded) ∧
        ∀ b, (decoded b).toNat = b.toNat := by
  intro line row
  have hmark : ¬ byteOrderMark <+: Utf8.encode line ++ row := by decide +kernel
  have hline : FirstLine (Utf8.encode line ++ row) (Utf8.encode line) row := by
    have hsplit := firstLine_splitLine (Utf8.encode line ++ row)
    rwa [show splitLine (Utf8.encode line ++ row) = (Utf8.encode line, row) by decide +kernel]
      at hsplit
  have hcookie : HasCookie line "ISO_Latin-1-unix".toList :=
    cookie?_eq_some_iff.mp (by decide +kernel)
  have hspelling : IsLatin1Spelling "ISO_Latin-1-unix".toList :=
    ⟨"iso-latin-1", by decide, by decide +kernel⟩
  obtain ⟨decoded, hdecoded, hchars⟩ :=
    decodeSource_of_latin1Name hmark hline hcookie (.inl hspelling)
  exact ⟨hmark, hline, hcookie, .inl hspelling, decoded, hdecoded, fun b =>
    (hchars b).mpr (.inl hspelling)⟩

/-- The byte `0x80` is a control character under a common spelling, and a euro sign under another
name of ISO-8859-1. -/
theorem decodeSource_euro :
    let line := "# coding: latin1\n".toList
    FirstLine (Utf8.encode line ++ [0x80]) (Utf8.encode line) [0x80] ∧
      HasCookie line "latin1".toList ∧ IsLatin1Name "latin1".toList ∧
      decodeSource (Utf8.encode line ++ [0x80]) = .ok (line ++ ['\u20AC']) ∧
      decodeSource (Utf8.encode "# coding: latin-1\n".toList ++ [0x80]) =
        .ok ("# coding: latin-1\n".toList ++ ['\x80']) := by
  intro line
  have hmark : ¬ byteOrderMark <+: Utf8.encode line ++ [0x80] := by decide +kernel
  have hline : FirstLine (Utf8.encode line ++ [0x80]) (Utf8.encode line) [0x80] := by
    have hsplit := firstLine_splitLine (Utf8.encode line ++ [0x80])
    rwa [show splitLine (Utf8.encode line ++ [0x80]) = (Utf8.encode line, [0x80]) by
      decide +kernel] at hsplit
  have hcookie : HasCookie line "latin1".toList := cookie?_eq_some_iff.mp (by decide +kernel)
  have hlabel : String.ofList ("latin1".toList.map Char.toLower) ∈ latin1Labels := by
    decide +kernel
  refine ⟨hline, hcookie, .inr hlabel, ?_, by decide +kernel⟩
  rw [decodeSource_of_label hmark hline hcookie hlabel]
  decide +kernel

end Codemod.Encoding
