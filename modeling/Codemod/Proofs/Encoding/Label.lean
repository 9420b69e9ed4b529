import Codemod.Proofs.Encoding.Decode

set_option autoImplicit false

/-! # Spellings and labels

A name is compared with the common spellings by its first twelve characters, and with the labels of
the character sets as a whole. In both cases the letter case is nothing (`ofName?_congr`). An
underscore is as good as a hyphen in a common spelling, and in a label it may stand for one, but not
the other way round. So a name that stands for a character set has the same folded form as one of
the labels of the set (`exists_label_of_ofName?`). -/

namespace Codemod.Encoding

variable {name : List Char} {set : Charset}

/-! ## Folding -/

/-- A hyphen in the place of an underscore. -/
def hyphen (c : Char) : Char :=
  if c == '_' then '-' else c

/-- A character in lower case, with a hyphen for an underscore. -/
def foldChar (c : Char) : Char :=
  if c == '_' then '-' else c.toLower

/-- A whole name in lower case, with hyphens. -/
def foldLabel (name : List Char) : List Char :=
  name.map foldChar

theorem fold_eq_take (name : List Char) : fold name = (foldLabel name).take significantLength :=
  List.map_take

/-- Nothing else has the underscore for its lower case. -/
theorem eq_underscore_of_toLower {c : Char} (h : c.toLower = '_') : c = '_' := by
  delta Char.toLower at h
  split at h
  · rename_i hupper
    have hval : (c.val + ('a'.val - 'A'.val)).toNat = 95 :=
      congrArg (fun d : Char => d.val.toNat) h
    have hlow : 65 ≤ c.val.toNat := hupper.1
    have hhigh : c.val.toNat ≤ 90 := hupper.2
    rw [UInt32.toNat_add] at hval
    change (c.val.toNat + 32) % 2 ^ 32 = 95 at hval
    omega
  · exact h

theorem hyphen_toLower (c : Char) : hyphen c.toLower = foldChar c := by
  by_cases hc : c = '_'
  · subst hc
    rfl
  · have hlower : c.toLower ≠ '_' := mt eq_underscore_of_toLower hc
    rw [hyphen, foldChar, if_neg (mt beq_iff_eq.mp hlower), if_neg (mt beq_iff_eq.mp hc)]

theorem toLower_hyphen (c : Char) : (hyphen c).toLower = foldChar c := by
  rw [hyphen, foldChar]
  split <;> rfl

/-- It makes no difference whether the letters are lowered or the underscores replaced first. -/
theorem map_hyphen_map_toLower (name : List Char) :
    (name.map Char.toLower).map hyphen = foldLabel name := by
  rw [List.map_map, foldLabel]
  exact List.map_congr_left fun c _ => hyphen_toLower c

theorem map_toLower_map_hyphen (name : List Char) :
    (name.map hyphen).map Char.toLower = foldLabel name := by
  rw [List.map_map, foldLabel]
  exact List.map_congr_left fun c _ => toLower_hyphen c

theorem hyphen_hyphen (c : Char) : hyphen (hyphen c) = hyphen c := by
  by_cases hc : c = '_'
  · subst hc
    rfl
  · have hkept : hyphen c = c := if_neg (mt beq_iff_eq.mp hc)
    rw [hkept, hkept]

theorem map_hyphen_foldLabel (name : List Char) : (foldLabel name).map hyphen = foldLabel name := by
  rw [← map_hyphen_map_toLower, List.map_map]
  exact List.map_congr_left fun c _ => hyphen_hyphen c

/-! ## Canonical names -/

theorem normalise_cases (name : List Char) :
    isNamed "utf-8" (fold name) = true ∧ normalise name = "utf-8".toList ∨
      isNamed "utf-8" (fold name) = false ∧ (latin1Stems.any (isNamed · (fold name))) = true ∧
        normalise name = "iso-8859-1".toList ∨
      isNamed "utf-8" (fold name) = false ∧ (latin1Stems.any (isNamed · (fold name))) = false ∧
        normalise name = name := by
  rw [normalise]
  cases isNamed "utf-8" (fold name) with
  | true => exact .inl ⟨rfl, rfl⟩
  | false =>
    cases latin1Stems.any (isNamed · (fold name)) with
    | true => exact .inr (.inl ⟨rfl, rfl, rfl⟩)
    | false => exact .inr (.inr ⟨rfl, rfl, rfl⟩)

/-- A canonical name stays what it is. -/
theorem normalise_normalise (name : List Char) : normalise (normalise name) = normalise name := by
  rcases normalise_cases name with ⟨-, h⟩ | ⟨-, -, h⟩ | ⟨-, -, h⟩
  · rw [h]
    decide
  · rw [h]
    decide
  · rw [h, h]

/-! ## Labels -/

/-- A name that is no common spelling is looked up among the labels, as it is and with hyphens. -/
theorem ofName?_of_not_spelling (hutf8 : isNamed "utf-8" (fold name) = false)
    (hlatin1 : latin1Stems.any (isNamed · (fold name)) = false) :
    Codec.ofName? name =
      ((Charset.ofLabel? (String.ofList name)).orElse fun _ =>
        Charset.ofLabel? (String.ofList (name.map hyphen))).map .charset := by
  have hname : normalise name = name := by
    rcases normalise_cases name with ⟨h, -⟩ | ⟨-, h, -⟩ | ⟨-, -, h⟩
    · rw [hutf8] at h
      cases h
    · rw [hlatin1] at h
      cases h
    · exact h
  have hne : name ≠ "utf-8".toList := by
    rintro rfl
    exact absurd hutf8 (by decide)
  have hne' : name ≠ "iso-8859-1".toList := by
    rintro rfl
    exact absurd hlatin1 (by decide)
  rw [Codec.ofName?, hname]
  dsimp only
  rw [if_neg (mt beq_iff_eq.mp hne), if_neg (mt beq_iff_eq.mp hne')]
  rfl

/-- A label of a set, as it is written in the table of labels. -/
def IsLabelOf (set : Charset) (label : String) : Prop :=
  ∃ known, (set, known) ∈ Charset.labels ∧ label ∈ known

theorem isLabelOf_of_ofLabel? {label : String} (h : Charset.ofLabel? label = some set) :
    IsLabelOf set (String.ofList (label.toList.map Char.toLower)) := by
  rw [Charset.ofLabel?] at h
  obtain ⟨⟨found, known⟩, hfound, rfl⟩ := Option.map_eq_some_iff.mp h
  exact ⟨known, List.mem_of_find?_eq_some hfound, by simpa using List.find?_some hfound⟩

/-- A name that stands for a set is no common spelling, and folds to a label of the set. -/
theorem exists_label_of_ofName? (h : Codec.ofName? name = some (.charset set)) :
    isNamed "utf-8" (fold name) = false ∧
      ∃ label, IsLabelOf set label ∧ foldLabel name = label.toList.map hyphen := by
  rcases normalise_cases name with ⟨-, hname⟩ | ⟨-, -, hname⟩ | ⟨hutf8, hlatin1, -⟩
  · rw [Codec.ofName?, hname] at h
    cases h
  · rw [Codec.ofName?, hname] at h
    cases h
  refine ⟨hutf8, ?_⟩
  rw [ofName?_of_not_spelling hutf8 hlatin1] at h
  obtain ⟨found, hlabel, hfound⟩ := Option.map_eq_some_iff.mp h
  cases hfound
  rcases hdirect : Charset.ofLabel? (String.ofList name) with _ | direct
  · -- it is known with hyphens only
    rw [hdirect] at hlabel
    refine ⟨_, isLabelOf_of_ofLabel? hlabel, ?_⟩
    rw [String.toList_ofList, String.toList_ofList, map_toLower_map_hyphen, map_hyphen_foldLabel]
  · rw [hdirect] at hlabel
    cases hlabel
    refine ⟨_, isLabelOf_of_ofLabel? hdirect, ?_⟩
    rw [String.toList_ofList, String.toList_ofList, map_hyphen_map_toLower]

/-! ## Letter case -/

theorem fold_congr {other : List Char} (h : name.map Char.toLower = other.map Char.toLower) :
    fold name = fold other := by
  rw [fold_eq_take, fold_eq_take, ← map_hyphen_map_toLower, ← map_hyphen_map_toLower, h]

theorem ofLabel?_congr {name other : List Char}
    (h : name.map Char.toLower = other.map Char.toLower) :
    Charset.ofLabel? (String.ofList name) = Charset.ofLabel? (String.ofList other) := by
  rw [Charset.ofLabel?, Charset.ofLabel?, String.toList_ofList, String.toList_ofList, h]

/-- The letter case of a name does not matter. -/
theorem ofName?_congr {other : List Char} (h : name.map Char.toLower = other.map Char.toLower) :
    Codec.ofName? name = Codec.ofName? other := by
  have hfold := fold_congr h
  rcases normalise_cases name with ⟨hutf8, hname⟩ | ⟨hutf8, hlatin1, hname⟩ | ⟨hutf8, hlatin1, -⟩
  · have hother : normalise other = "utf-8".toList := by
      rw [hfold] at hutf8
      rw [normalise, hutf8, if_pos rfl]
    rw [Codec.ofName?, Codec.ofName?, hname, hother]
  · have hother : normalise other = "iso-8859-1".toList := by
      rw [hfold] at hutf8 hlatin1
      rw [normalise, hutf8, hlatin1, if_neg Bool.false_ne_true, if_pos rfl]
    rw [Codec.ofName?, Codec.ofName?, hname, hother]
  · have hhyphens : (name.map hyphen).map Char.toLower = (other.map hyphen).map Char.toLower := by
      rw [map_toLower_map_hyphen, map_toLower_map_hyphen, ← map_hyphen_map_toLower,
        ← map_hyphen_map_toLower, h]
    rw [ofName?_of_not_spelling hutf8 hlatin1,
      ofName?_of_not_spelling (hfold ▸ hutf8) (hfold ▸ hlatin1), ofLabel?_congr h,
      ofLabel?_congr hhyphens]

end Codemod.Encoding
