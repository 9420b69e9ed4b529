import Codemod.Encoding.Declaration
import Codemod.Proofs.Encoding.Utf8

set_option autoImplicit false

/-! # Source files in the encoding they declare

A name that is detected is the name of a codec: it comes from a cookie whose name was looked up, or
it is one of the two names for UTF-8 (`detect_eq_ok`). So decoding fails only over bytes that the
codec does not allow. The two codecs with spellings of their own can be undone byte by byte. The main
statement is `decodeSource_of_detect`. -/

namespace Codemod.Encoding

variable {bytes body : List UInt8} {name : String}

/-! ## Names -/

theorem ofName?_utf8 : Codec.ofName? "utf-8".toList = some .utf8 := by decide +kernel

theorem ofName?_utf8Sig : Codec.ofName? "utf-8-sig".toList = some .utf8 := by decide +kernel

theorem ofName?_latin1 : Codec.ofName? "iso-8859-1".toList = some .latin1 := by decide +kernel

/-- The name that stands for a byte order mark is no canonical name, so that no cookie gives it. -/
theorem normalise_ne_utf8Sig (s : List Char) : normalise s ≠ "utf-8-sig".toList := by
  intro h
  simp only [normalise] at h
  split at h
  · exact absurd h (by decide)
  · rename_i hnot
    split at h
    · exact absurd h (by decide)
    · rw [h] at hnot
      exact hnot (by decide)

/-- What a line declares is canonical. -/
theorem declared?_eq_ok_some {line : List UInt8} {n : List Char}
    (h : declared? line = .ok (some n)) : ∃ s, n = normalise s := by
  rw [declared?] at h
  split at h
  · cases h
  · rename_i chars _
    rcases hcookie : cookie? chars with _ | s
    · rw [hcookie] at h
      cases h
    · rw [hcookie] at h
      cases h
      exact ⟨s, rfl⟩

theorem declaration?_eq_ok_some {n : List Char} (h : declaration? body = .ok (some n)) :
    ∃ s, n = normalise s := by
  rw [declaration?] at h
  dsimp only at h
  split at h
  · cases h
  · rcases hfirst : declared? (splitLine body).1 with fault | _ | n'
    · rw [hfirst] at h
      cases h
    · rw [hfirst] at h
      dsimp only [bind, Except.bind] at h
      split at h
      · cases h
      · split at h
        · cases h
        · exact declared?_eq_ok_some h
    · rw [hfirst] at h
      cases h
      exact declared?_eq_ok_some hfirst

/-! ## Marks -/

/-- The bytes after a byte order mark, if there is one. -/
theorem splitMark_cases (bytes : List UInt8) :
    (∃ body, bytes = byteOrderMark ++ body ∧ splitMark bytes = (true, body)) ∨
      ¬ byteOrderMark <+: bytes ∧ splitMark bytes = (false, bytes) := by
  unfold splitMark
  split
  · exact .inl ⟨_, rfl, rfl⟩
  · rename_i hnot
    refine .inr ⟨?_, rfl⟩
    rintro ⟨body, rfl⟩
    exact hnot body rfl

theorem splitMark_of_not_mark (hmark : ¬ byteOrderMark <+: bytes) :
    splitMark bytes = (false, bytes) := by
  rcases splitMark_cases bytes with ⟨body, hbytes, -⟩ | ⟨-, hsplit⟩
  · exact absurd ⟨body, hbytes.symm⟩ hmark
  · exact hsplit

/-! ## Detected names -/

/-- The name that is detected, given what is declared, in a file with or without a mark. -/
def resolve (marked : Bool) : Option (List Char) → Except SourceFault String
  | none => .ok (if marked then "utf-8-sig" else "utf-8")
  | some name =>
    if (Codec.ofName? name).isNone then .error (.unknown (String.ofList name))
    else if !marked then .ok (String.ofList name)
    else if name = "utf-8".toList then .ok "utf-8-sig" else .error .conflict

theorem detect_of_splitMark {marked : Bool} (hsplit : splitMark bytes = (marked, body)) :
    detect bytes = (declaration? body).bind (resolve marked) := by
  simp only [detect, hsplit]
  rcases declaration? body with fault | _ | name
  · rfl
  · rfl
  · simp only [bind, Except.bind, resolve, beq_iff_eq]
    cases Codec.ofName? name with
    | none => rfl
    | some codec => rfl

/-- A mark is always told by the name that stands for it. Without one the name is that of a codec,
and not the one that stands for a mark. -/
theorem detect_eq_ok (h : detect bytes = .ok name) :
    (∃ body, bytes = byteOrderMark ++ body ∧ splitMark bytes = (true, body) ∧
      name = "utf-8-sig") ∨
    ¬ byteOrderMark <+: bytes ∧ splitMark bytes = (false, bytes) ∧ name ≠ "utf-8-sig" ∧
      ∃ codec, Codec.ofName? name.toList = some codec := by
  rcases splitMark_cases bytes with ⟨body, hbytes, hmark⟩ | ⟨hbytes, hmark⟩
  · refine .inl ⟨body, hbytes, hmark, ?_⟩
    rw [detect_of_splitMark hmark] at h
    rcases hdeclared : declaration? body with fault | _ | n
    all_goals simp only [hdeclared, Except.bind, resolve] at h
    · cases h
    · cases h
      rfl
    · simp only [Bool.not_true, Bool.false_eq_true, if_false] at h
      split at h
      · cases h
      · split at h
        · cases h
          rfl
        · cases h
  · refine .inr ⟨hbytes, hmark, ?_⟩
    rw [detect_of_splitMark hmark] at h
    rcases hdeclared : declaration? bytes with fault | _ | n
    all_goals simp only [hdeclared, Except.bind, resolve] at h
    · cases h
    · cases h
      exact ⟨by decide, _, ofName?_utf8⟩
    · split at h
      · cases h
      · rename_i hknown
        obtain ⟨codec, hcodec⟩ := Option.ne_none_iff_exists'.1 (mt Option.isNone_iff_eq_none.2 hknown)
        obtain ⟨s, hn⟩ := declaration?_eq_ok_some hdeclared
        obtain rfl : String.ofList n = name := Except.ok.inj h
        refine ⟨fun hname => normalise_ne_utf8Sig s ?_, codec, ?_⟩
        · rw [← hn, ← hname, String.toList_ofList]
        · rwa [String.toList_ofList]

/-! ## Decoding -/

theorem decodeSource_utf8 (h : detect bytes = .ok name)
    (hcodec : Codec.ofName? name.toList = some .utf8) :
    decodeSource bytes =
      (Utf8.decode (splitMark bytes).2).mapError fun fault => .invalid name (some fault) := by
  simp only [decodeSource, h, hcodec, bind, Except.bind]
  cases Utf8.decode (splitMark bytes).2 <;> rfl

theorem decodeSource_latin1 (h : detect bytes = .ok name)
    (hcodec : Codec.ofName? name.toList = some .latin1) :
    decodeSource bytes = .ok (bytes.map asciiChar) := by
  simp only [decodeSource, h, hcodec, bind, Except.bind]
  rfl

/-- Only bytes that the codec does not allow are held against a source file whose encoding was
detected. -/
theorem decodeSource_eq_error (h : detect bytes = .ok name) {fault : SourceFault}
    (hfault : decodeSource bytes = .error fault) : ∃ cause, fault = .invalid name cause := by
  have hcodec : ∃ codec, Codec.ofName? name.toList = some codec := by
    rcases detect_eq_ok h with ⟨-, -, -, rfl⟩ | ⟨-, -, -, hcodec⟩
    · exact ⟨_, ofName?_utf8Sig⟩
    · exact hcodec
  obtain ⟨codec, hcodec⟩ := hcodec
  cases codec with
  | utf8 =>
    rw [decodeSource_utf8 h hcodec] at hfault
    cases hdecoded : Utf8.decode (splitMark bytes).2 with
    | error cause =>
      rw [hdecoded] at hfault
      cases hfault
      exact ⟨_, rfl⟩
    | ok text =>
      rw [hdecoded] at hfault
      cases hfault
  | latin1 =>
    rw [decodeSource_latin1 h hcodec] at hfault
    cases hfault
  | charset set =>
    simp only [decodeSource, h, hcodec, bind, Except.bind] at hfault
    split at hfault
    · cases hfault
    · cases hfault
      exact ⟨_, rfl⟩

/-- The bytes after a mark, if the name is the one that stands for it. -/
theorem exists_body_of_detect (h : detect bytes = .ok name)
    (hname : name = "utf-8" ∨ name = "utf-8-sig") :
    ∃ body, (name = "utf-8-sig" ∧ bytes = byteOrderMark ++ body ∨
      name = "utf-8" ∧ ¬ byteOrderMark <+: bytes ∧ bytes = body) ∧
      decodeSource bytes = (Utf8.decode body).mapError fun fault => .invalid name (some fault) := by
  have hcodec : Codec.ofName? name.toList = some .utf8 := by
    rcases hname with rfl | rfl
    · exact ofName?_utf8
    · exact ofName?_utf8Sig
  have hdecoded := decodeSource_utf8 h hcodec
  rcases detect_eq_ok h with ⟨body, hbytes, hmark, hsig⟩ | ⟨hbytes, hmark, hsig, -⟩
  · exact ⟨body, .inl ⟨hsig, hbytes⟩, by rw [hdecoded, hmark]⟩
  · exact ⟨bytes, .inr ⟨hname.resolve_right hsig, hbytes, rfl⟩, by rw [hdecoded, hmark]⟩

/-! ## Encoding -/

/-- The bytes of a text in ISO-8859-1, if all its characters have one. -/
def latin1Encode? (text : List Char) : Option (List UInt8) :=
  text.mapM fun c => if c.toNat < 256 then some (UInt8.ofNat c.toNat) else none

theorem toNat_asciiChar (b : UInt8) : (asciiChar b).toNat = b.toNat :=
  Utf8.toNat_charOfNat (.inl (by have := b.toNat_lt; omega))

/-- Every byte is the number of its character. -/
theorem latin1Encode?_map (bytes : List UInt8) :
    latin1Encode? (bytes.map asciiChar) = some bytes := by
  induction bytes with
  | nil => rfl
  | cons b bytes ih =>
    have hb : (if (asciiChar b).toNat < 256 then some (UInt8.ofNat (asciiChar b).toNat) else none) =
        some b := by
      rw [toNat_asciiChar, if_pos b.toNat_lt, UInt8.ofNat_toNat]
    simp only [latin1Encode?] at ih
    simp only [latin1Encode?, List.map_cons, List.mapM_cons, hb, ih]
    rfl

/-- **Decoding goes by the name that is detected.** Where a name is detected decoding fails only over
bytes that are not valid under that name. In UTF-8 it succeeds exactly if the bytes after the mark, of
which only the name `utf-8-sig` tells, are valid, and these are the bytes of the text. In ISO-8859-1
it always succeeds: there is one character for each byte, with the number of the byte, so that
encoding the text gives the bytes back. -/
theorem decodeSource_of_detect (h : detect bytes = .ok name) :
    (∀ fault, decodeSource bytes = .error fault →
      (∃ cause, fault = .invalid name cause) ∧
        fault.chain.head? = some ("source is not valid " ++ name)) ∧
    (name = "utf-8" ∨ name = "utf-8-sig" → ∃ body,
      (name = "utf-8-sig" ∧ bytes = byteOrderMark ++ body ∨
        name = "utf-8" ∧ ¬ byteOrderMark <+: bytes ∧ bytes = body) ∧
      ((∃ text, decodeSource bytes = .ok text) ↔ body.toByteArray.IsValidUTF8) ∧
      ∀ text, decodeSource bytes = .ok text →
        (String.ofList text).toUTF8 = body.toByteArray ∧ Utf8.encode text = body) ∧
    (name = "iso-8859-1" → ∃ text, decodeSource bytes = .ok text ∧ text.length = bytes.length ∧
      text.map Char.toNat = bytes.map UInt8.toNat ∧ latin1Encode? text = some bytes) := by
  refine ⟨fun fault hfault => ?_, fun hname => ?_, fun hname => ?_⟩
  · obtain ⟨cause, rfl⟩ := decodeSource_eq_error h hfault
    exact ⟨⟨cause, rfl⟩, rfl⟩
  · obtain ⟨body, hbody, hdecoded⟩ := exists_body_of_detect h hname
    refine ⟨body, hbody, ?_, fun text htext => ?_⟩
    · rw [← Utf8.exists_decode_iff, hdecoded]
      rcases Utf8.decode body with fault | text
      · constructor
        · rintro ⟨_, ⟨⟩⟩
        · rintro ⟨_, ⟨⟩⟩
      · exact ⟨fun _ => ⟨text, rfl⟩, fun _ => ⟨text, rfl⟩⟩
    · have hvalid : Utf8.decode body = .ok text := by
        rw [hdecoded] at htext
        cases hbody : Utf8.decode body with
        | error cause =>
          rw [hbody] at htext
          cases htext
        | ok text' =>
          rw [hbody] at htext
          cases htext
          rfl
      have hencoded := Utf8.encode_of_decode hvalid
      refine ⟨?_, hencoded⟩
      rw [String.toUTF8, String.toByteArray_ofList, ← Utf8.toByteArray_encode, hencoded]
  · subst hname
    refine ⟨_, decodeSource_latin1 h ofName?_latin1, List.length_map _, ?_, latin1Encode?_map bytes⟩
    rw [List.map_map]
    exact List.map_congr_left fun b _ => toNat_asciiChar b

/-- A comment that asks for Latin-1, and a letter that is not ASCII. -/
def declaredLatin1 : List UInt8 := Utf8.encode "# coding: latin-1\n".toList ++ [0xE9]

theorem decodeSource_of_detect_declaredLatin1 :
    detect declaredLatin1 = .ok "iso-8859-1" ∧ ∃ text, decodeSource declaredLatin1 = .ok text ∧
      text.length = 19 ∧ latin1Encode? text = some declaredLatin1 := by
  have hdetect : detect declaredLatin1 = .ok "iso-8859-1" := by decide +kernel
  obtain ⟨text, hdecoded, hlength, -, hencoded⟩ := (decodeSource_of_detect hdetect).2.2 rfl
  exact ⟨hdetect, text, hdecoded, hlength, hencoded⟩

/-- A byte order mark with bytes behind it that are not UTF-8. -/
example : (decodeSource (byteOrderMark ++ [0x68, 0xFF])).toOption = none := by decide +kernel

end Codemod.Encoding
