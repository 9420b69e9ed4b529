import Codemod.Proofs.Encoding.Declaration
import Codemod.Proofs.Encoding.Label

set_option autoImplicit false

/-! # Marks in front of source files

A byte order mark says that a source file is UTF-8, which its cookie may say as well. What is
detected behind a mark follows from what is detected without one (`detect_append_mark`): the name
`utf-8` becomes `utf-8-sig`, and every other name is taken for a conflict. That is right for the
common spellings of UTF-8, which all have this name, and for the names of other codecs. But UTF-8 is
among the character sets, too, and has labels there that are no common spellings, like `utf8`: a
name of this kind is taken for a conflict where it is none (`detect_markedUtf8`). The main statement
is `mark_transparent`. -/

namespace Codemod.Encoding

variable {bytes : List UInt8} {name : String} {codec : Codec}

/-- A codec that decodes UTF-8. -/
def Codec.IsUtf8 (codec : Codec) : Prop :=
  codec = .utf8 ∨ codec = .charset .utf8

/-- The labels of UTF-8 that are no common spellings of it. -/
def utf8Labels : List String :=
  ["unicode-1-1-utf-8", "unicode11utf8", "unicode20utf8", "utf8", "x-unicode20utf8"]

/-- A name that asks for UTF-8 by one of these labels, in any case, with underscores or hyphens. -/
def IsUtf8Label (name : String) : Prop :=
  String.ofList (foldLabel name.toList) ∈ utf8Labels

instance (name : String) : Decidable (IsUtf8Label name) :=
  inferInstanceAs (Decidable (_ ∈ _))

/-! ## Names of UTF-8 -/

/-- Every label of UTF-8 is one of these, or a common spelling. -/
theorem mem_utf8Labels {label : String} (h : IsLabelOf .utf8 label) :
    String.ofList (label.toList.map hyphen) ∈ utf8Labels ∨ label = "utf-8" := by
  have hall : ∀ entry ∈ Charset.labels, entry.1 = .utf8 → ∀ label ∈ entry.2,
      String.ofList (label.toList.map hyphen) ∈ utf8Labels ∨ label = "utf-8" := by
    decide +kernel
  obtain ⟨known, hentry, hlabel⟩ := h
  exact hall _ hentry rfl label hlabel

theorem isUtf8Label_of_ofName? (h : Codec.ofName? name.toList = some (.charset .utf8)) :
    IsUtf8Label name := by
  obtain ⟨hspelling, label, hlabel, hfold⟩ := exists_label_of_ofName? h
  rcases mem_utf8Labels hlabel with hmem | rfl
  · rw [IsUtf8Label, hfold]
    exact hmem
  · -- the whole name would be a common spelling
    rw [fold_eq_take, hfold] at hspelling
    exact absurd hspelling (by decide)

/-- Without a label of this kind only the canonical name is one of UTF-8. -/
theorem eq_utf8_of_not_label (hname : normalise name.toList = name.toList)
    (hcodec : Codec.ofName? name.toList = some codec) (hutf8 : codec.IsUtf8)
    (hlabel : ¬ IsUtf8Label name) : name = "utf-8" := by
  rcases hutf8 with rfl | rfl
  · rw [Codec.ofName?, hname] at hcodec
    dsimp only at hcodec
    split at hcodec
    · rename_i heq
      exact String.toList_inj.mp (beq_iff_eq.mp heq)
    · split at hcodec
      · cases hcodec
      · obtain ⟨_, -, hset⟩ := Option.map_eq_some_iff.mp hcodec
        cases hset
  · exact absurd (isUtf8Label_of_ofName? hcodec) hlabel

/-! ## What a mark changes -/

theorem splitMark_append_mark (bytes : List UInt8) :
    splitMark (byteOrderMark ++ bytes) = (true, bytes) := rfl

/-- What is detected behind a mark, given what is detected without it. -/
theorem detect_append_mark (hmark : ¬ byteOrderMark <+: bytes) :
    detect (byteOrderMark ++ bytes) =
      (detect bytes).bind fun name =>
        if name = "utf-8" then .ok "utf-8-sig" else .error .conflict := by
  rw [detect_of_splitMark (splitMark_append_mark bytes),
    detect_of_splitMark (splitMark_of_not_mark hmark)]
  rcases declaration? bytes with fault | _ | name
  · rfl
  · rfl
  · simp only [Except.bind, resolve]
    cases Codec.ofName? name with
    | none => rfl
    | some codec =>
      have hname : String.ofList name = "utf-8" ↔ name = "utf-8".toList := by
        rw [← String.toList_inj, String.toList_ofList]
      simp only [Option.isNone_some, Bool.not_true, Bool.not_false, Bool.false_eq_true, if_false,
        if_true, hname]

/-- A name that is detected without a mark is canonical. -/
theorem normalise_of_detect (hmark : ¬ byteOrderMark <+: bytes) (h : detect bytes = .ok name) :
    normalise name.toList = name.toList := by
  rw [detect_of_splitMark (splitMark_of_not_mark hmark)] at h
  rcases hdeclared : declaration? bytes with fault | _ | declared
  · rw [hdeclared] at h
    cases h
  · rw [hdeclared] at h
    cases h
    decide
  · rw [hdeclared] at h
    simp only [Except.bind, resolve, Bool.not_false, if_true] at h
    split at h
    · cases h
    · cases h
      obtain ⟨spelling, rfl⟩ := declaration?_eq_ok_some hdeclared
      rw [String.toList_ofList]
      exact normalise_normalise spelling

/-! ## Conflicts -/

theorem declared?_eq_error {line : List UInt8} {fault : SourceFault}
    (h : declared? line = .error fault) : fault = .undeclared := by
  rw [declared?] at h
  split at h
  · cases h
    rfl
  · cases h

theorem declaration?_eq_error {fault : SourceFault} (h : declaration? bytes = .error fault) :
    fault = .undeclared := by
  rw [declaration?_eq] at h
  split at h
  · exact declared?_eq_error h
  · exact declared?_eq_error h

theorem exists_of_resolve_eq_conflict {marked : Bool} {declared : Option (List Char)}
    (h : resolve marked declared = .error .conflict) :
    marked = true ∧ ∃ found codec, declared = some found ∧ Codec.ofName? found = some codec ∧
      found ≠ "utf-8".toList := by
  cases declared with
  | none => cases h
  | some found =>
    rw [resolve] at h
    cases hcodec : Codec.ofName? found with
    | none =>
      rw [hcodec] at h
      cases h
    | some codec =>
      rw [hcodec] at h
      cases marked with
      | false => cases h
      | true =>
        simp only [Option.isNone_some, Bool.not_true, Bool.false_eq_true, if_false] at h
        split at h
        · cases h
        · rename_i hne
          exact ⟨rfl, found, codec, rfl, hcodec, hne⟩

/-- A conflict is found only behind a mark, and only over another name than the canonical one of
UTF-8. -/
theorem exists_of_conflict (h : detect bytes = .error .conflict) :
    ∃ body found codec, bytes = byteOrderMark ++ body ∧
      declaration? body = .ok (some found) ∧ Codec.ofName? found = some codec ∧
      found ≠ "utf-8".toList := by
  have hresolve : ∀ marked body, splitMark bytes = (marked, body) →
      ∃ declared, declaration? body = .ok declared ∧
        resolve marked declared = .error .conflict := by
    intro marked body hsplit
    rw [detect_of_splitMark hsplit] at h
    rcases hdeclared : declaration? body with fault | declared
    · rw [hdeclared] at h
      cases h
      exact absurd (declaration?_eq_error hdeclared) (by decide)
    · rw [hdeclared] at h
      exact ⟨declared, rfl, h⟩
  rcases splitMark_cases bytes with ⟨body, hbytes, hsplit⟩ | ⟨-, hsplit⟩
  · obtain ⟨declared, hdeclared, hconflict⟩ := hresolve true body hsplit
    obtain ⟨-, found, codec, rfl, hcodec, hne⟩ := exists_of_resolve_eq_conflict hconflict
    exact ⟨body, found, codec, hbytes, hdeclared, hcodec, hne⟩
  · obtain ⟨declared, -, hconflict⟩ := hresolve false bytes hsplit
    exact absurd (exists_of_resolve_eq_conflict hconflict).1 (by decide)

/-! ## Transparent marks -/

theorem toOption_decodeSource_utf8 {marked : Bool} {body : List UInt8}
    (hsplit : splitMark bytes = (marked, body)) (h : detect bytes = .ok name)
    (hcodec : Codec.ofName? name.toList = some .utf8) :
    (decodeSource bytes).toOption = (Utf8.decode body).toOption := by
  rw [decodeSource_utf8 h hcodec, hsplit]
  cases Utf8.decode body <;> rfl

/-- The canonical name of UTF-8 goes together with a mark. -/
theorem mark_transparent_of_utf8 (hmark : ¬ byteOrderMark <+: bytes)
    (h : detect bytes = .ok "utf-8") :
    detect (byteOrderMark ++ bytes) = .ok "utf-8-sig" ∧
      (decodeSource (byteOrderMark ++ bytes)).toOption = (decodeSource bytes).toOption := by
  have hmarked : detect (byteOrderMark ++ bytes) = .ok "utf-8-sig" := by
    rw [detect_append_mark hmark, h]
    rfl
  refine ⟨hmarked, ?_⟩
  rw [toOption_decodeSource_utf8 (splitMark_append_mark bytes) hmarked ofName?_utf8Sig,
    toOption_decodeSource_utf8 (splitMark_of_not_mark hmark) h ofName?_utf8]

/-- **A mark is transparent for UTF-8.** Where a source file without a mark is decoded as UTF-8, be
it by a common spelling or because nothing is declared, a mark in front of it changes the detected
name to `utf-8-sig`, and neither whether the file can be decoded nor its text. Only a label of UTF-8
that is no common spelling is taken for a conflict with the mark. A conflict is found nowhere else
than behind a mark and over a cookie with such a label or for another codec. -/
theorem mark_transparent (bytes : List UInt8) :
    (∀ name codec, ¬ byteOrderMark <+: bytes → detect bytes = .ok name →
      Codec.ofName? name.toList = some codec → codec.IsUtf8 →
      if IsUtf8Label name then detect (byteOrderMark ++ bytes) = .error .conflict
      else
        detect (byteOrderMark ++ bytes) = .ok "utf-8-sig" ∧
          (decodeSource (byteOrderMark ++ bytes)).toOption = (decodeSource bytes).toOption) ∧
    (detect bytes = .error .conflict → ∃ body found codec,
      bytes = byteOrderMark ++ body ∧ declaration? body = .ok (some found) ∧
        Codec.ofName? found = some codec ∧ (codec.IsUtf8 → IsUtf8Label (String.ofList found))) := by
  refine ⟨fun name codec hmark h hcodec hutf8 => ?_, fun h => ?_⟩
  · split
    · rename_i hlabel
      have hne : name ≠ "utf-8" := by
        rintro rfl
        exact absurd hlabel (by decide)
      rw [detect_append_mark hmark, h]
      exact if_neg hne
    · rename_i hlabel
      obtain rfl := eq_utf8_of_not_label (normalise_of_detect hmark h) hcodec hutf8 hlabel
      exact mark_transparent_of_utf8 hmark h
  · obtain ⟨body, found, codec, hbytes, hdeclared, hcodec, hne⟩ := exists_of_conflict h
    refine ⟨body, found, codec, hbytes, hdeclared, hcodec, fun hutf8 => ?_⟩
    obtain ⟨spelling, rfl⟩ := declaration?_eq_ok_some hdeclared
    by_contra hlabel
    refine hne ?_
    have hcanonical : normalise (String.ofList (normalise spelling)).toList =
        (String.ofList (normalise spelling)).toList := by
      rw [String.toList_ofList, normalise_normalise]
    have hname :=
      eq_utf8_of_not_label hcanonical (by rwa [String.toList_ofList]) hutf8 hlabel
    rw [← hname, String.toList_ofList]

/-- A comment with a common spelling of UTF-8, and a letter of two bytes below it. -/
def spelledScript : List UInt8 := Utf8.encode "# vim: fileencoding=UTF_8-unix\ns = 'é'\n".toList

theorem mark_transparent_spelledScript :
    ¬ byteOrderMark <+: spelledScript ∧ detect (byteOrderMark ++ spelledScript) = .ok "utf-8-sig" ∧
      (decodeSource (byteOrderMark ++ spelledScript)).toOption =
        some "# vim: fileencoding=UTF_8-unix\ns = 'é'\n".toList ∧
      ∃ body found codec,
        byteOrderMark ++ declaredLatin1 = byteOrderMark ++ body ∧
          declaration? body = .ok (some found) ∧ Codec.ofName? found = some codec ∧
          (codec.IsUtf8 → IsUtf8Label (String.ofList found)) := by
  have hmark : ¬ byteOrderMark <+: spelledScript := by decide +kernel
  have hdetect : detect spelledScript = .ok "utf-8" := by decide +kernel
  have hkept :=
    (mark_transparent spelledScript).1 "utf-8" .utf8 hmark hdetect ofName?_utf8 (.inl rfl)
  rw [if_neg (by decide)] at hkept
  refine ⟨hmark, hkept.1, ?_, (mark_transparent _).2 (by decide +kernel)⟩
  rw [hkept.2]
  decide +kernel

/-- The shortest label of UTF-8 is taken for a conflict with a mark, and the file, which could be
decoded without the mark, no longer can. -/
theorem detect_markedUtf8 :
    let bytes := Utf8.encode "# coding: utf8\n".toList
    ¬ byteOrderMark <+: bytes ∧ detect bytes = .ok "utf8" ∧
      Codec.ofName? "utf8".toList = some (.charset .utf8) ∧
      (decodeSource bytes).toOption = some "# coding: utf8\n".toList ∧
      detect (byteOrderMark ++ bytes) = .error .conflict ∧
      (decodeSource (byteOrderMark ++ bytes)).toOption = none := by
  decide +kernel

end Codemod.Encoding
