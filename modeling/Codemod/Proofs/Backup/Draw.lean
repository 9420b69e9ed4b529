import Codemod.Backup.Archive
import Codemod.Proofs.Archive.Unpack
import Codemod.Proofs.Encoding.Utf8
import Codemod.Proofs.Uuid

set_option autoImplicit false

/-! # Names that are drawn

The names of members, of archives and of unfinished archives are names of entries, and no member has
the name of the table (`Draw.IsFair`, `isPlain_memberName`, `isPart_archiveName`). -/

namespace Codemod

/-! ## Identifiers -/

namespace Uuid

theorem mem_dashed {c : Char} {groups : List Nat} {ds : List Char} (h : c ∈ dashed groups ds) :
    c = '-' ∨ c ∈ ds := by
  induction groups, ds using dashed.induct with
  | case1 ds => cases h
  | case2 n ds => exact .inr (List.mem_of_mem_take h)
  | case3 n rest ds hne ih =>
    rw [dashed] at h
    · rcases List.mem_append.1 h with h | h
      · exact .inr (List.mem_of_mem_take h)
      · rcases List.mem_cons.1 h with h | h
        · exact .inl h
        · exact (ih h).imp_right List.mem_of_mem_drop
    · exact hne

theorem length_dashed_groups {ds : List Char} (h : ds.length = 32) :
    (dashed groups ds).length = 36 := by
  simp only [groups, dashed, List.length_append, List.length_cons, List.length_take,
    List.length_drop, h]
  rfl

/-- A character that can stand in any name: of one byte, and neither a slash nor a zero. -/
def IsHarmless (c : Char) : Prop := c.toNat < 0x80 ∧ c ≠ '/' ∧ c.toNat ≠ 0

instance (c : Char) : Decidable (IsHarmless c) := inferInstanceAs (Decidable (_ ∧ _ ∧ _))

theorem isHarmless_hexDigit {n : Nat} (h : n < 16) : IsHarmless (Numeral.hexDigit n) := by
  have hall : ∀ m : Fin 16, IsHarmless (Numeral.hexDigit m) := by decide
  exact hall ⟨n, h⟩

theorem isHarmless_text (u : Uuid) {c : Char} (h : c ∈ (u.text true).toList) : IsHarmless c := by
  rw [text, if_pos rfl, String.toList_ofList] at h
  rcases mem_dashed h with rfl | h
  · decide
  · obtain ⟨i, -, rfl⟩ := List.mem_map.1 h
    exact isHarmless_hexDigit (Nat.mod_lt _ (by decide))

theorem length_text (u : Uuid) : (u.text true).toList.length = 36 := by
  rw [text, if_pos rfl, String.toList_ofList, length_dashed_groups u.length_digits]

end Uuid

/-! ## Texts as names -/

theorem Name.ofString_injective : Function.Injective Name.ofString := fun _ _ h =>
  String.toList_inj.1 (Encoding.Utf8.encode_injective h)

/-- The separator is the byte of a slash and of no other character. -/
theorem Name.separator_mem_ofString {s : String} :
    Path.separator ∈ Name.ofString s ↔ '/' ∈ s.toList := by
  constructor
  · intro h
    obtain ⟨c, hc, hcode⟩ := Encoding.Utf8.exists_of_mem_encode h (by decide)
    obtain rfl : c = '/' := Char.toNat_inj.1 hcode
    exact hc
  · intro h
    exact List.mem_flatMap.2 ⟨'/', h, by decide⟩

theorem Name.isPart_ofString {s : String} (hne : s ≠ "") (h : '/' ∉ s.toList) :
    (Name.ofString s).IsPart := by
  refine ⟨fun hnil => hne (Name.ofString_injective hnil), fun hsep => ?_⟩
  exact h (Name.separator_mem_ofString.1 hsep)

namespace Backup

open Archive Disk

/-- A text of a few harmless characters is the name of a plain member. -/
theorem isPlain_ofString {s : String} (h : ∀ c ∈ s.toList, Uuid.IsHarmless c)
    (hlong : 2 < s.toList.length) (hshort : s.toList.length ≤ plainLimit) :
    IsPlain (Name.ofString s) := by
  have hlength : (Name.ofString s).length = s.toList.length :=
    Encoding.Utf8.length_encode fun c hc => (h c hc).1
  have hne : ∀ n : Name, n.length ≤ 2 → Name.ofString s ≠ n := by
    rintro n hn rfl
    omega
  exact {
    ne_here := hne _ (by decide)
    ne_above := hne _ (by decide)
    length_le := by rw [hlength]; exact hshort.trans (by decide)
    isPart := Name.isPart_ofString (by rintro rfl; simp at hlong) fun hc => (h _ hc).2.1 rfl
    zero_notMem := by
      intro hzero
      obtain ⟨c, hc, hcode⟩ := Encoding.Utf8.exists_of_mem_encode hzero (by decide)
      exact (h c hc).2.2 hcode
    length_le_limit := by rw [hlength]; exact hshort }

/-! ## Draws -/

/-- What chance gives to an archive of some files in a tree: every member has the text of an
identifier for a name, no two of them the same; the drawn parts of names are no paths, and nothing
has the name of the archive yet. -/
structure Draw.IsFair (draw : Draw) (d : Disk) (count : Nat) : Prop where
  member : ∀ i < count, ∃ u : Uuid, draw.member i = u.text true
  distinct : ∀ i < count, ∀ j < count, draw.member i = draw.member j → i = j
  tag : '/' ∉ draw.tag.toList
  suffix : '/' ∉ draw.suffix.toList
  fresh : ∀ e ∈ d.entries, e.1.getLast? ≠ some (Name.ofString draw.archiveName)

theorem isPlain_memberName {draw : Draw} {i : Nat} {u : Uuid} (h : draw.member i = u.text true) :
    IsPlain (Name.ofString (draw.memberName i)) := by
  have htext : (draw.memberName i).toList = (u.text true).toList ++ ['.', 'p', 'y'] := by
    rw [Draw.memberName, h, String.toList_append]
    rfl
  have hlength : (draw.memberName i).toList.length = 39 := by
    rw [htext, List.length_append, u.length_text]
    rfl
  refine isPlain_ofString (fun c hc => ?_) (by omega) (by rw [hlength]; decide)
  rw [htext] at hc
  rcases List.mem_append.1 hc with hc | hc
  · exact u.isHarmless_text hc
  · simp only [List.mem_cons, List.not_mem_nil, or_false] at hc
    rcases hc with rfl | rfl | rfl <;> decide

/-- No member has the name of the table. -/
theorem memberName_ne_fileName (draw : Draw) (i : Nat) : draw.memberName i ≠ Lookup.fileName := by
  intro h
  have hlast := congrArg (fun s => s.toList.getLast?) h
  rw [Draw.memberName, String.toList_append, List.getLast?_append_of_ne_nil _ (by decide)] at hlast
  exact absurd hlast (by decide)

theorem memberName_injective {draw : Draw} {i j : Nat}
    (h : draw.memberName i = draw.memberName j) : draw.member i = draw.member j := by
  have hlists := congrArg String.toList h
  rw [Draw.memberName, Draw.memberName, String.toList_append, String.toList_append] at hlists
  exact String.toList_inj.1 (List.append_cancel_right hlists)

/-- There is no slash in a number. -/
theorem slash_notMem_padded (width n : Nat) : '/' ∉ (Moment.padded width n).toList := by
  rw [Moment.padded, String.toList_append, String.toList_ofList, List.mem_append, not_or]
  refine ⟨fun h => absurd (List.eq_of_mem_replicate h) (by decide), fun h => ?_⟩
  have hdigit : '/'.isDigit = true := Nat.isDigit_of_mem_toDigits (by decide) (by decide)
    ((Nat.toList_repr (n := n)) ▸ h)
  exact absurd hdigit (by decide)

theorem isPart_archiveName {draw : Draw} (h : '/' ∉ draw.tag.toList) :
    (Name.ofString draw.archiveName).IsPart := by
  refine Name.isPart_ofString (fun hnil => ?_) ?_
  · have hlists := congrArg String.toList hnil
    simp [Draw.archiveName] at hlists
  · have hmoment : '/' ∉ draw.moment.compact.toList := by
      simp [Moment.compact, slash_notMem_padded]
    simp [Draw.archiveName, hmoment, h]

theorem isPart_unfinishedName {draw : Draw} (h : '/' ∉ draw.suffix.toList) :
    (Name.ofString draw.unfinishedName).IsPart := by
  refine Name.isPart_ofString (fun hnil => ?_) ?_
  · have hlists := congrArg String.toList hnil
    simp [Draw.unfinishedName] at hlists
  · simp [Draw.unfinishedName, h]

theorem Draw.archiveName_ne (draw : Draw) :
    Name.ofString draw.archiveName ≠ Path.here ∧ Name.ofString draw.archiveName ≠ Path.above := by
  have hne : ∀ s : String, s.toList.head? = some '.' →
      Name.ofString draw.archiveName ≠ Name.ofString s := by
    intro s hs h
    rw [← Name.ofString_injective h] at hs
    simp [Draw.archiveName] at hs
  exact ⟨hne "." rfl, hne ".." rfl⟩

theorem Draw.unfinishedName_ne (draw : Draw) :
    Name.ofString draw.unfinishedName ≠ Path.here ∧
      Name.ofString draw.unfinishedName ≠ Path.above := by
  have hne : ∀ s : String, s.toList.length ≤ 2 →
      Name.ofString draw.unfinishedName ≠ Name.ofString s := by
    intro s hs h
    rw [← Name.ofString_injective h] at hs
    simp [Draw.unfinishedName] at hs
  exact ⟨hne "." (by decide), hne ".." (by decide)⟩

/-- An archive is not called what it was called before it was finished. -/
theorem archiveName_ne_unfinishedName (draw : Draw) :
    Name.ofString draw.archiveName ≠ Name.ofString draw.unfinishedName := by
  intro h
  have hlists := congrArg String.toList (Name.ofString_injective h)
  simp [Draw.archiveName, Draw.unfinishedName] at hlists

end Backup

end Codemod
