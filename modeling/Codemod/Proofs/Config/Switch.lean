import Codemod.Proofs.Config.Literal
import Codemod.Proofs.Config.Number

set_option autoImplicit false

/-! # Switches in variables

A document gives a switch by one of its words, with blanks around it. So does a variable, but its
text is taken for a value first, and then a switch has more spellings (`Spells`): numerals with a
sign or with zeros in front, strings between double quotes with whatever escapes, and letters between
single quotes. There are no others (`switch_spellings`). -/

namespace Codemod.Config

variable {k : Key} {v : String} {state : Bool}

/-- A text of nothing but blanks of ASCII. -/
def IsAsciiGap (s : List Char) : Prop := ∀ c ∈ s, Text.isAsciiBlank c = true

/-- The texts of a variable that give a state. -/
inductive Spells (v : String) : Bool → Prop where
  | word {state : Bool} (h : Setting.readSwitch (Text.trimString v) = .ok state) : Spells v state
  | zero (h : Setting.Denotes v 0) : Spells v false
  | one (h : Setting.Denotes v 1) : Spells v true
  | string {before inner text after : List Char} {state : Bool}
    (hv : v.toList = before ++ '"' :: (inner ++ '"' :: after))
    (hbefore : IsAsciiGap before) (hafter : IsAsciiGap after)
    (hinner : Notation.Literal inner text)
    (h : Setting.readSwitch (Text.trimString (String.ofList text)) = .ok state) : Spells v state
  | character {before after : List Char} {c : Char} {state : Bool}
    (hv : v.toList = before ++ '\'' :: c :: '\'' :: after)
    (hbefore : IsAsciiGap before) (hafter : IsAsciiGap after)
    (h : Setting.readSwitch (Text.trimString (String.singleton c)) = .ok state) : Spells v state

/-! ## Values that are switches -/

theorem readSwitch_text_eq_ok_iff :
    readSwitch (.text v) = .ok state ↔ Setting.readSwitch (Text.trimString v) = .ok state := by
  rw [readSwitch]
  cases Setting.readSwitch (Text.trimString v) with
  | error e =>
    constructor
    · intro h
      cases h
    · intro h
      cases h
  | ok b =>
    change Except.ok b = _ ↔ _
    rw [Except.ok.injEq, Except.ok.injEq]

theorem readSwitch_integer_eq_ok {n : Int} (h : readSwitch (.integer n) = .ok state) :
    n = 0 ∧ state = false ∨ n = 1 ∧ state = true := by
  have hread := readSwitch_integer n
  rw [h, switchOfNumber] at hread
  split_ifs at hread with hzero hone
  · cases hread
    exact .inl ⟨hzero, rfl⟩
  · cases hread
    exact .inr ⟨hone, rfl⟩
  · cases hread

/-- A word has no character but those of the words. -/
theorem not_mem_of_readSwitch (h : Setting.readSwitch (Text.trimString v) = .ok state) {c : Char}
    (hblank : Text.isBlank c = false)
    (hc : ∀ word ∈ Setting.onWords ++ Setting.offWords, c.toLower ∉ word.toList) : c ∉ v.toList := by
  intro hmem
  have htrim : c ∈ (Text.trimString v).toList := by
    rw [Text.trimString, String.toList_ofList]
    exact Text.mem_trim hmem hblank
  obtain ⟨word, hword, hmem⟩ := Setting.exists_word_of_readSwitch h htrim
  exact hc word hword hmem

/-- What stands after blanks of ASCII is what is read. -/
theorem skip_append {before rest : List Char} {c : Char} (hbefore : IsAsciiGap before)
    (hc : Text.isAsciiBlank c = false) : Notation.skip (before ++ c :: rest) = c :: rest := by
  rw [Notation.skip, List.dropWhile_append_of_pos hbefore, List.dropWhile_cons_of_neg (by simp [hc])]

theorem exists_eq_append_skip (s : List Char) : ∃ before, s = before ++ Notation.skip s ∧
    IsAsciiGap before :=
  ⟨s.takeWhile Text.isAsciiBlank, List.takeWhile_append_dropWhile.symm,
    fun _ hc => List.mem_takeWhile_imp hc⟩

theorem skip_eq_nil_iff {s : List Char} : Notation.skip s = [] ↔ IsAsciiGap s :=
  List.dropWhile_eq_nil_iff

/-- A word with nothing but blanks around it. -/
theorem trimString_of_skip {word rest : List Char} (hword : ∀ c ∈ word, Text.isBlank c = false)
    (h : Notation.skip v.toList = word ++ rest) (hrest : Notation.skip rest = []) :
    Text.trimString v = String.ofList word := by
  have hgap : Text.IsGap rest := fun c hc =>
    Notation.isBlank_of_isAsciiBlank (skip_eq_nil_iff.mp hrest c hc)
  have hnone : Text.IsGap [] := fun _ hc => nomatch hc
  rw [Text.trimString, ← Notation.trim_skip, h]
  exact congrArg String.ofList (Text.trim_append hnone hgap (.of_forall hword))

theorem readSwitch_of_bool {b : Bool} {rest : List Char}
    (h : Notation.skip v.toList = (toString b).toList ++ rest) (hrest : Notation.skip rest = []) :
    Setting.readSwitch (Text.trimString v) = .ok b := by
  have hword : ∀ c ∈ (toString b).toList, Text.isBlank c = false := by
    cases b <;> exact Text.forall_mem_of_all (by decide)
  rw [trimString_of_skip hword h hrest]
  cases b <;> decide +kernel

theorem trimString_trimString (v : String) :
    Text.trimString (String.ofList (Text.trim v.toList)) = Text.trimString v := by
  rw [Text.trimString, Text.trimString, String.toList_ofList, Text.trim_trim]

/-- What is a word for a state is one as a value of a variable. -/
theorem readSwitch_value_of_word (h : Setting.readSwitch (Text.trimString v) = .ok state) :
    readSwitch (Notation.value v).scalar = .ok state := by
  have htext : readSwitch (Value.text v).scalar = .ok state := readSwitch_text_eq_ok_iff.mpr h
  cases Notation.starts (Notation.skip v.toList) with
  | bool b rest hstart =>
    rw [Notation.value_of_bool hstart]
    split_ifs with hrest
    · rw [readSwitch_of_bool hstart hrest] at h
      cases h
      rfl
    · exact htext
  | opening c rest hc hstart =>
    -- No word has such a character in it.
    have hnone : ∀ c ∈ ['\x7b', '[', '"', '\''], Text.isBlank c = false ∧
        ∀ word ∈ Setting.onWords ++ Setting.offWords, c.toLower ∉ word.toList :=
      Text.forall_mem_of_all (by decide)
    have hmem : c ∈ v.toList := (List.dropWhile_sublist _).subset (hstart ▸ List.mem_cons_self)
    exact absurd hmem (not_mem_of_readSwitch h (hnone c hc).1 (hnone c hc).2)
  | word hstart =>
    have hseparator : ¬ v.toList.any Notation.isSeparator = true := by
      have hnone : ∀ c ∈ [',', '\x7b', '\x7d', '[', ']'], Text.isBlank c = false ∧
          ∀ word ∈ Setting.onWords ++ Setting.offWords, c.toLower ∉ word.toList :=
        Text.forall_mem_of_all (by decide)
      rw [List.any_eq_true]
      rintro ⟨c, hmem, hsep⟩
      have hc := hnone c (Notation.mem_of_isSeparator hsep)
      exact not_mem_of_readSwitch h hc.1 hc.2 hmem
    rw [Notation.value_of_isWord hstart, if_neg hseparator]
    rcases Notation.word_cases v.toList with ⟨x, -, hpoint⟩ | ⟨n, hn, hwrites⟩ | htrimmed
    · exact absurd (Text.mem_of_mem_trim hpoint)
        (not_mem_of_readSwitch h (by decide) (by decide +kernel))
    · rw [← String.toList_ofList (l := Text.trim v.toList)] at hwrites
      rw [hn, Setting.eq_of_readSwitch_of_writes h hwrites]
      cases state <;> rfl
    · rw [htrimmed]
      refine readSwitch_text_eq_ok_iff.mpr ?_
      rw [trimString_trimString]
      exact h

/-- A text that is no value of its own has to be a word for a state. -/
theorem spells_of_text (h : readSwitch (Value.text v).scalar = .ok state) : Spells v state :=
  .word (readSwitch_text_eq_ok_iff.mp h)

/-- What a value of a variable gives is spelled by its text. -/
theorem spells_of_readSwitch_value (h : readSwitch (Notation.value v).scalar = .ok state) :
    Spells v state := by
  obtain ⟨before, hv, hbefore⟩ := exists_eq_append_skip v.toList
  cases Notation.starts (Notation.skip v.toList) with
  | bool b rest hstart =>
    rw [Notation.value_of_bool hstart] at h
    split_ifs at h with hrest
    · cases h
      exact .word (readSwitch_of_bool hstart hrest)
    · exact spells_of_text h
  | opening c rest hc hstart =>
    rw [hstart] at hv
    simp only [List.mem_cons, List.not_mem_nil, or_false] at hc
    rcases hc with rfl | rfl | rfl | rfl
    · -- A table is no state.
      rcases Notation.value_of_table hstart with htext | ⟨ms, htable⟩
      · rw [htext] at h
        exact spells_of_text h
      · rw [htable] at h
        cases h
    · -- Nor is a list.
      rcases Notation.value_of_sequence hstart with htext | hsequence
      · rw [htext] at h
        exact spells_of_text h
      · rw [hsequence] at h
        cases h
    · rw [Notation.value_of_string hstart] at h
      split at h
      case h_1 text after hstring =>
        split_ifs at h with hafter
        · obtain ⟨inner, rfl, hinner⟩ := Notation.string?_eq_some_iff.mp hstring
          exact .string hv hbefore (skip_eq_nil_iff.mp hafter) hinner (readSwitch_text_eq_ok_iff.mp h)
        · exact spells_of_text h
      case h_2 => exact spells_of_text h
    · by_cases hcharacter : ∃ c after, rest = c :: '\'' :: after
      · obtain ⟨c, after, rfl⟩ := hcharacter
        rw [Notation.value_of_character hstart] at h
        split_ifs at h with hafter
        · exact .character hv hbefore (skip_eq_nil_iff.mp hafter) (readSwitch_text_eq_ok_iff.mp h)
        · exact spells_of_text h
      · rw [Notation.value_of_apostrophe hstart fun c after hrest => hcharacter ⟨c, after, hrest⟩] at h
        exact spells_of_text h
  | word hstart =>
    rw [Notation.value_of_isWord hstart] at h
    split_ifs at h with hseparator
    · exact spells_of_text h
    · rcases Notation.word_cases v.toList with ⟨x, hx, -⟩ | ⟨n, hn, hwrites⟩ | htrimmed
      · rw [hx] at h
        cases h
      · rw [hn] at h
        rcases readSwitch_integer_eq_ok h with ⟨rfl, rfl⟩ | ⟨rfl, rfl⟩
        · exact .zero (Setting.denotes_iff.mpr hwrites)
        · exact .one (Setting.denotes_iff.mpr hwrites)
      · rw [htrimmed] at h
        refine .word ?_
        rw [← trimString_trimString]
        exact readSwitch_text_eq_ok_iff.mp h

/-- A variable gives a state exactly if its text spells it. -/
theorem readSwitch_value_iff : readSwitch (Notation.value v).scalar = .ok state ↔ Spells v state := by
  refine ⟨spells_of_readSwitch_value, fun h => ?_⟩
  cases h with
  | word h => exact readSwitch_value_of_word h
  | zero h =>
    rw [Notation.value_of_writes (Setting.denotes_iff.mp h)]
    rfl
  | one h =>
    rw [Notation.value_of_writes (Setting.denotes_iff.mp h)]
    rfl
  | @string before inner text after _ hv hbefore hafter hinner h =>
    have hstart : Notation.skip v.toList = '"' :: (inner ++ '"' :: after) := by
      rw [hv, skip_append hbefore (by decide)]
    rw [Notation.value_of_string hstart, hinner.string?]
    dsimp only
    rw [if_pos (skip_eq_nil_iff.mpr hafter)]
    exact readSwitch_text_eq_ok_iff.mpr h
  | @character before after c _ hv hbefore hafter h =>
    have hstart : Notation.skip v.toList = '\'' :: c :: '\'' :: after := by
      rw [hv, skip_append hbefore (by decide)]
    rw [Notation.value_of_character hstart, if_pos (skip_eq_nil_iff.mpr hafter)]
    exact readSwitch_text_eq_ok_iff.mpr h

/-! ## Configurations with a switch -/

/-- Where the other settings are accepted, the configuration has the state that is read, and there is
none if none is read. -/
theorem Answers.switch {said : Key → Option Scalar} {answer : Except Error DispatchConfig} {x : Scalar}
    (hk : k ≠ .jobs) (hsaid : said k = some x) (h : Answers said answer.toOption)
    (hothers : OthersAccepted k said) :
    (∀ state, answer.toOption.map (k.get ·) = some (.bool state) ↔ readSwitch x = .ok state) ∧
      ((∃ c, answer = .ok c) ↔ ∃ state, readSwitch x = .ok state) := by
  have hread : answer.toOption.map (k.get ·) = (readSwitch x).toOption.map .bool := by
    rw [h.map_get hothers, hsaid, Key.read_switch hk]
  constructor
  · intro state
    rw [hread, Option.map_eq_some_iff]
    simp only [toOption_eq_some_iff, Scalar.bool.injEq, exists_eq_right]
  · have hsome := congrArg Option.isSome hread
    simp only [Option.isSome_map] at hsome
    simp only [← toOption_eq_some_iff, ← Option.isSome_iff_exists, hsome]

/-- **What a switch can be spelled as.** In a document a switch is one of its words, with blanks
around it. In a variable it is that too, and else a numeral for zero or one, or a word between double
quotes or a letter or digit between single quotes, with blanks around it and inside; and nothing
else. -/
theorem switch_spellings {d : Disk} {env : List (String × String)} {p : Path} {ms : Members}
    (hk : k ≠ .jobs) (hfile : FileGives d p ms)
    (hothers : OthersAccepted k (sourceSaid [Environment.settings env, ms, defaults])) :
    (∀ v, Environment.Sets env k.name v →
      (∀ state, (loadFrom d env p).toOption.map (k.get ·) = some (.bool state) ↔ Spells v state) ∧
        ((∃ c, loadFrom d env p = .ok c) ↔ ∃ state, Spells v state)) ∧
    ∀ v, (∀ e ∈ env, ¬ Environment.Names e.1 k.name) → ms.get? k.name = some (.text v) →
      (∀ state, (loadFrom d env p).toOption.map (k.get ·) = some (.bool state) ↔
        Setting.readSwitch (Text.trimString v) = .ok state) ∧
        ((∃ c, loadFrom d env p = .ok c) ↔
          ∃ state, Setting.readSwitch (Text.trimString v) = .ok state) := by
  have hanswers := (hfile.readFrom env).answers
  constructor
  · intro v hsets
    simp only [← readSwitch_value_iff]
    exact hanswers.switch hk (sourceSaid_of_sets hsets _) hothers
  · intro v hunset hv
    have hsaid : sourceSaid [Environment.settings env, ms, defaults] k = some (.text v) := by
      rw [sourceSaid_cons_of_none _ (Environment.get?_settings_eq_none hunset)]
      exact sourceSaid_cons_of_some _ (congrArg (Option.map Value.scalar) hv)
    simp only [← readSwitch_text_eq_ok_iff]
    exact hanswers.switch hk hsaid hothers

/-- A numeral, a string and a character that are no words for a state, and give one. -/
theorem shared_of_numeral_and_quotes :
    ((Setting.readSwitch (Text.trimString "01")).toOption = none ∧
      (loadFrom {} [("BPC_SHARED", "01")] (.ofString fileName)).toOption.map (·.shared) = some true) ∧
    ((Setting.readSwitch (Text.trimString "\"yes\"")).toOption = none ∧
      (loadFrom {} [("BPC_SHARED", "\"yes\"")] (.ofString fileName)).toOption.map (·.shared) =
        some true) ∧
    (Setting.readSwitch (Text.trimString "'y'")).toOption = none ∧
      (loadFrom {} [("BPC_SHARED", "'y'")] (.ofString fileName)).toOption.map (·.shared) =
        some true := by
  decide +kernel

theorem switch_spellings_of_numeral :
    Key.shared ≠ .jobs ∧ FileGives {} (.ofString fileName) [] ∧
      Environment.Sets [("BPC_SHARED", " -0 ")] "shared" " -0 " ∧
      (loadFrom {} [("BPC_SHARED", " -0 ")] (.ofString fileName)).toOption.map (Key.get · .shared) =
        some (.bool false) := by
  have hsets : Environment.Sets [("BPC_SHARED", " -0 ")] "shared" " -0 " :=
    ⟨[], "BPC_SHARED", [], rfl, by decide +kernel, fun _ hv => (nomatch hv)⟩
  have hwrites : Numeral.Writes ['-', '0'] 0 := .minus ⟨by decide, Text.forall_mem_of_all (by decide)⟩
  have hzero : Setting.Denotes " -0 " 0 := Setting.denotes_iff.mpr hwrites
  have hothers : OthersAccepted .shared (sourceSaid
      [Environment.settings [("BPC_SHARED", " -0 ")], [], defaults]) := by
    intro k' hk'
    cases k' with
    | jobs => decide +kernel
    | shared => exact absurd rfl hk'
    | parallel => decide +kernel
  have hspelled := (switch_spellings (by decide) fileGives_nothing hothers).1 " -0 " hsets
  exact ⟨by decide, fileGives_nothing, hsets, (hspelled.1 false).mpr (.zero hzero)⟩

end Codemod.Config
