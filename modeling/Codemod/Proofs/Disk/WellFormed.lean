import Codemod.Proofs.Disk.Resolve
import Mathlib.Data.List.Induction

set_option autoImplicit false

/-! # Trees in good form

Every entry has one place, a name that a path can name, and a directory above it (`WellFormed`). The
empty tree is in good form and whatever is done to one leaves it in good form. In such a tree
the path of a place leads to it (`place?_path`), and a path leads to places that are there. -/

namespace Codemod.Disk

/-- A name that a path can give to an entry. -/
structure IsEntryName (name : Name) : Prop extends IsOrdinary name where
  isPart : name.IsPart

/-- Entries lie in directories, each at a place of its own. -/
structure WellFormed (d : Disk) : Prop where
  nodup : (d.entries.map (·.1)).Nodup
  isEntryName : ∀ e ∈ d.entries, ∀ n ∈ e.1, IsEntryName n
  parent : ∀ e ∈ d.entries, d.hasDirectory e.1.dropLast = true
  /-- No file has the next number yet. -/
  fresh : ∀ e ∈ d.entries, ∀ key, e.2 = .file key → key < d.nextKey
  rights_fresh : ∀ r ∈ d.fileRights, r.1 < d.nextKey

instance (name : Name) : Decidable (IsEntryName name) :=
  decidable_of_iff
    (name ≠ Path.here ∧ name ≠ Path.above ∧ name.length ≤ nameLimit ∧ name ≠ [] ∧
      Path.separator ∉ name)
    ⟨fun h => ⟨⟨h.1, h.2.1, h.2.2.1⟩, h.2.2.2⟩,
      fun h => ⟨h.ne_here, h.ne_above, h.length_le, h.isPart⟩⟩

/-- The number of an entry, if it is a file. -/
def keyOf? : Entry → Option Nat
  | .file key => some key
  | .directory _ | .link _ => none

theorem keyOf?_eq_some_iff {entry : Entry} {key : Nat} :
    keyOf? entry = some key ↔ entry = .file key := by
  cases entry <;> simp [keyOf?]

instance (d : Disk) : Decidable d.WellFormed :=
  decidable_of_iff
    ((d.entries.map (·.1)).Nodup ∧ (∀ e ∈ d.entries, ∀ n ∈ e.1, IsEntryName n) ∧
      (∀ e ∈ d.entries, d.hasDirectory e.1.dropLast = true) ∧
      (∀ e ∈ d.entries, ∀ key ∈ keyOf? e.2, key < d.nextKey) ∧
      ∀ r ∈ d.fileRights, r.1 < d.nextKey)
    ⟨fun h => ⟨h.1, h.2.1, h.2.2.1,
        fun e he key hkey => h.2.2.2.1 e he key (keyOf?_eq_some_iff.2 hkey), h.2.2.2.2⟩,
      fun h => ⟨h.nodup, h.isEntryName, h.parent,
        fun e he key hkey => h.fresh e he key (keyOf?_eq_some_iff.1 hkey), h.rights_fresh⟩⟩

variable {d : Disk} {l m : Location} {entry : Entry}

namespace WellFormed

theorem empty : WellFormed {} := by decide

/-! ## What is there -/

theorem at?_of_mem (hd : d.WellFormed) (h : (l, entry) ∈ d.entries) (hl : l ≠ []) :
    d.at? l = some entry := by
  rcases hat : d.at? l with _ | found
  · rw [at?_of_ne_nil d hl, Option.map_eq_none_iff, List.find?_eq_none] at hat
    exact absurd (beq_self_eq_true l) (hat _ h)
  · have hsame := List.inj_on_of_nodup_map hd.nodup (mem_entries_of_at? hat hl) h rfl
    rw [(Prod.mk.inj hsame).2]

theorem mem_children_iff (hd : d.WellFormed) {name : Name} :
    (name, entry) ∈ d.children l ↔ d.at? (l ++ [name]) = some entry := by
  have hne : l ++ [name] ≠ [] := List.append_ne_nil_of_right_ne_nil _ (List.cons_ne_nil _ _)
  rw [mem_children]
  exact ⟨fun h => hd.at?_of_mem h hne, fun h => mem_entries_of_at? h hne⟩

theorem isEntryName_of_at? (hd : d.WellFormed) (h : d.at? l = some entry) {n : Name}
    (hn : n ∈ l) : IsEntryName n :=
  hd.isEntryName _ (mem_entries_of_at? h (List.ne_nil_of_mem hn)) n hn

theorem key_lt (hd : d.WellFormed) {key : Nat} (h : d.at? l = some (.file key)) :
    key < d.nextKey := by
  have hl : l ≠ [] := by
    rintro rfl
    cases h
  exact hd.fresh _ (mem_entries_of_at? h hl) key rfl

/-- Files that are still to come may be used in every way. -/
theorem rightsOf_of_le (hd : d.WellFormed) {key : Nat} (hkey : d.nextKey ≤ key) :
    d.rightsOf key = {} := by
  have hnone : (d.fileRights.find? fun r => r.1 == key) = none := by
    rw [List.find?_eq_none]
    intro r hr
    have hlt := hd.rights_fresh r hr
    simp only [beq_iff_eq]
    omega
  rw [Disk.rightsOf, hnone]
  rfl

theorem hasDirectory_dropLast (hd : d.WellFormed) (h : d.at? l = some entry) :
    d.hasDirectory l.dropLast = true := by
  by_cases hl : l = []
  · rw [hl]
    rfl
  · exact hd.parent _ (mem_entries_of_at? h hl)

/-- Everything above an entry is a directory. -/
theorem hasDirectory_above (hd : d.WellFormed) (h : d.at? l = some entry) (hm : m <+: l)
    (hne : m ≠ l) : d.hasDirectory m = true := by
  induction l using List.reverseRecOn generalizing entry with
  | nil => exact absurd (List.prefix_nil.1 hm) hne
  | append_singleton l n ih =>
    have hparent := hd.hasDirectory_dropLast h
    rw [List.dropLast_concat] at hparent
    rw [List.prefix_concat_iff] at hm
    rcases hm with rfl | hm
    · exact absurd rfl hne
    · by_cases hml : m = l
      · rw [hml]
        exact hparent
      · obtain ⟨rights, hat⟩ := hasDirectory_iff.1 hparent
        exact ih hat hm hml

/-- Everything above a place in a directory is a directory. -/
theorem hasDirectory_above_of_dropLast (hd : d.WellFormed)
    (hparent : d.hasDirectory m.dropLast = true) (h : l <+: m) (hne : l ≠ m) :
    d.hasDirectory l = true := by
  obtain ⟨rights, hat⟩ := hasDirectory_iff.1 hparent
  by_cases heq : l = m.dropLast
  · rw [heq]
    exact hparent
  · exact hd.hasDirectory_above hat (prefix_dropLast h hne) heq

/-- Only directories have something below them. -/
theorem at?_below (hd : d.WellFormed) (hl : d.hasDirectory l = false) (h : l <+: m)
    (hne : l ≠ m) : d.at? m = none := by
  rw [Option.eq_none_iff_forall_ne_some]
  intro entry hat
  rw [hd.hasDirectory_above hat h hne] at hl
  cases hl

/-! ## Following paths -/

/-- What names that mean directories lead to is a directory. -/
theorem hasDirectory_of_turn (hd : d.WellFormed) (hl : d.hasDirectory l = true) {name : Name}
    (h : d.turn l name = .ok (.place m)) : d.hasDirectory m = true := by
  rcases turn_cases d l name with ⟨hsearch, ⟨-, hturn⟩ | ⟨-, hturn⟩ | hname⟩ | hturn | hturn
  · cases hturn.symm.trans h
    exact hl
  · cases hturn.symm.trans h
    obtain ⟨rights, hat⟩ := hasDirectory_iff.1 hl
    exact hd.hasDirectory_dropLast hat
  · rw [turn_of_isOrdinary hsearch hname] at h
    rcases hat : d.at? (l ++ [name]) with _ | rights | key | target
    · rw [hat] at h
      cases h
    · rw [hat] at h
      cases h
      exact hasDirectory_of_at? hat
    · rw [hat] at h
      cases h
    · rw [hat] at h
      cases h
  · rw [hturn] at h
    cases h
  · rw [hturn] at h
    cases h

theorem hasDirectory_linkStart (hl : d.hasDirectory l = true) (target : Path) :
    d.hasDirectory (linkStart target l) = true := by
  rw [linkStart]
  split
  · rfl
  · exact hl

theorem hasDirectory_of_enter (hd : d.WellFormed) {links left : Nat} {names : List Name}
    (hl : d.hasDirectory l = true) (h : d.enter links l names = .ok (left, m)) :
    d.hasDirectory m = true := by
  induction links, l, names using enter.induct d with
  | case1 links l =>
    rw [enter] at h
    cases h
    exact hl
  | case2 links l n init e hturn =>
    simp only [enter, hturn, reduceCtorEq] at h
  | case3 links l n init m' hturn ih =>
    simp only [enter, hturn] at h
    exact ih (hd.hasDirectory_of_turn hl hturn) h
  | case4 l n init target hturn => simp only [enter, hturn, reduceCtorEq] at h
  | case5 l n init target hturn links ih =>
    simp only [enter, hturn] at h
    exact ih (hasDirectory_linkStart hl target) h

end WellFormed

/-- A name that is free in a directory. -/
structure IsFree (d : Disk) (l : Location) (name : Name) : Prop where
  hasDirectory : d.hasDirectory l = true
  isEntryName : IsEntryName name
  at?_eq_none : d.at? (l ++ [name]) = none

/-- What was found is there, or is free. -/
def Found.IsThere (d : Disk) : Found → Prop
  | .entry l => d.at? l ≠ none
  | .vacant l name => d.IsFree l name

namespace WellFormed

theorem isThere_of_chase (hd : d.WellFormed) {follow slash : Bool} {links : Nat}
    {names : List Name} (hl : d.hasDirectory l = true) (hnames : ∀ n ∈ names, Name.IsPart n)
    {found : Found} (h : d.chase follow links slash l names = .ok found) :
    found.IsThere d := by
  refine chase_induction (motive := fun _ _ l names found =>
    d.hasDirectory l = true → (∀ n ∈ names, Name.IsPart n) → found.IsThere d) ?done ?place ?link
    ?free ?file ?stop h hl hnames
  case done =>
    intro _ _ l hl _ hnone
    rw [hasDirectory, hnone] at hl
    cases hl
  case place =>
    intro _ _ l name rest m found hturn ih hl hnames
    exact ih (hd.hasDirectory_of_turn hl hturn) fun n hn => hnames n (List.mem_cons_of_mem _ hn)
  case link =>
    intro _ _ _ l name rest target found _ _ _ ih hl hnames
    refine ih (hasDirectory_linkStart hl target) fun n hn => ?_
    rcases List.mem_append.1 hn with hn | hn
    · exact Path.isPart_of_mem_segments hn
    · exact hnames n (List.mem_cons_of_mem _ hn)
  case free =>
    intro _ _ l name hturn hl hnames
    obtain ⟨-, hname, hat⟩ := at?_of_turn.1 hturn
    exact ⟨hl, ⟨hname, hnames name (List.mem_singleton_self name)⟩, hat⟩
  case file =>
    intro _ l name hturn _ _ hnone
    obtain ⟨-, key, hat⟩ := at?_of_turn.2.1 hturn
    rw [hat] at hnone
    cases hnone
  case stop =>
    intro _ l name target hturn _ _ _ hnone
    rw [(at?_of_turn.2.2 target hturn).2] at hnone
    cases hnone

/-- A path leads to something that is there or to a name that is free. -/
theorem isThere_of_locate (hd : d.WellFormed) {p : Path} {follow slash : Bool} {found : Found}
    (h : d.locate p follow slash = .ok found) : Found.IsThere d found := by
  obtain ⟨-, -, hstart, hchase⟩ := locate_eq_ok_iff.1 h
  exact hd.isThere_of_chase hstart (fun _ => Path.isPart_of_mem_segments) hchase

/-- Where nothing is, a path that leads there leads to a free name. -/
theorem vacant_of_at?_eq_none (hd : d.WellFormed) {p : Path} {follow slash : Bool} {found : Found}
    {name : Name} (h : d.locate p follow slash = .ok found) (hplace : found.place = m ++ [name])
    (hnone : d.at? (m ++ [name]) = none) : found = .vacant m name := by
  have hthere := hd.isThere_of_locate h
  cases found with
  | entry place =>
    rw [Found.place] at hplace
    exact absurd hnone (hplace ▸ hthere)
  | vacant directory name' =>
    rw [Found.place] at hplace
    obtain ⟨rfl, hname⟩ := List.append_inj' hplace rfl
    rw [(List.cons.inj hname).1]

/-- Links at the end are followed: what names lead to then is a file or a directory. -/
theorem file_or_directory_of_chase (hd : d.WellFormed) {slash : Bool} {links : Nat}
    {names : List Name} (hl : d.hasDirectory l = true)
    (h : d.chase true links slash l names = .ok (.entry m)) :
    (∃ key, d.at? m = some (.file key)) ∨ d.hasDirectory m = true := by
  refine chase_induction (motive := fun _ _ l _ found => found = .entry m →
    d.hasDirectory l = true → (∃ key, d.at? m = some (.file key)) ∨ d.hasDirectory m = true)
    ?done ?place ?link ?free ?file ?stop h rfl hl
  case done =>
    rintro _ _ l ⟨⟩ hl
    exact .inr hl
  case place =>
    intro _ _ l name rest m' found hturn ih hfound hl
    exact ih hfound (hd.hasDirectory_of_turn hl hturn)
  case link =>
    intro _ _ _ l name rest target found _ _ _ ih hfound hl
    exact ih hfound (hasDirectory_linkStart hl target)
  case free =>
    intro _ _ l name _ hfound
    cases hfound
  case file =>
    rintro _ l name hturn ⟨⟩ _
    exact .inl (at?_of_turn.2.1 hturn).2
  case stop =>
    intro _ l name target _ hfollow
    cases hfollow

theorem file_or_directory (hd : d.WellFormed) {p : Path} (h : d.place? p = .ok l) :
    (∃ key, d.at? l = some (.file key)) ∨ d.hasDirectory l = true := by
  obtain ⟨-, -, hstart, hchase⟩ := place?_eq_ok_iff.1 h
  exact hd.file_or_directory_of_chase hstart hchase

/-! ## Paths of places -/

/-- From the root on, places lead to themselves if what is above them can be searched. -/
theorem enter_self (hd : d.WellFormed) (links : Nat) {ns : List Name}
    (hl : d.hasDirectory (l ++ ns) = true)
    (hsearch : ∀ m, l <+: m → m <+: l ++ ns → m ≠ l ++ ns → (d.rightsAt m).searchable = true) :
    d.enter links l ns = .ok (links, l ++ ns) := by
  induction ns generalizing l with
  | nil => rw [enter, List.append_nil]
  | cons n ns ih =>
    have happend : l ++ n :: ns = l ++ [n] ++ ns := by
      rw [List.append_assoc, List.singleton_append]
    obtain ⟨rights, hat⟩ := hasDirectory_iff.1 hl
    have hname : IsEntryName n := hd.isEntryName_of_at? hat (by simp)
    have hnext : d.hasDirectory (l ++ [n]) = true := by
      by_cases hns : l ++ [n] = l ++ n :: ns
      · rw [hns]
        exact hl
      · exact hd.hasDirectory_above hat (happend ▸ List.prefix_append ..) hns
    have hturn : d.turn l n = .ok (.place (l ++ [n])) := by
      obtain ⟨rights, hat⟩ := hasDirectory_iff.1 hnext
      rw [turn_of_isOrdinary (hsearch l List.prefix_rfl (List.prefix_append ..) (by simp))
        hname.toIsOrdinary, hat]
    rw [happend] at hl hsearch ⊢
    simp only [enter, hturn]
    exact ih hl fun m hm => hsearch m ((List.prefix_append ..).trans hm)

/-- The path of a place leads to it. -/
theorem place?_path (hd : d.WellFormed) (hat : d.at? l = some entry)
    (hlink : ∀ target, entry ≠ .link target) (hpass : isPassable l.path = true)
    (hsearch : ∀ m, m <+: l → m ≠ l → (d.rightsAt m).searchable = true) (follow : Bool) :
    d.place? l.path follow = .ok l := by
  have hparts : ∀ n ∈ l, Name.IsPart n := fun n hn => (hd.isEntryName_of_at? hat hn).isPart
  have habsolute : l.path.isAbsolute = true := by
    rw [Location.path_eq_under]
    exact Path.isAbsolute_under rfl hparts
  have hstart : d.startOf l.path = [] := if_pos habsolute
  have hsegments : l.path.segments = l := by
    rw [Location.path_eq_under, Path.segments_under _ hparts, Path.segments_root, List.nil_append]
  rw [place?_eq_ok_iff, hstart, hsegments]
  refine ⟨?_, hpass, hasDirectory_root d, ?_⟩
  · rw [Location.path_eq_under]
    exact Path.bytes_under_ne_nil (List.cons_ne_nil _ _) hparts
  · induction l using List.reverseRecOn with
    | nil => exact chase_nil ..
    | append_singleton init n _ =>
      have hends : (Location.path (init ++ [n])).endsInSeparator = false := by
        rw [Location.path_eq_under]
        exact Path.endsInSeparator_under _ hparts (by simp)
      have henter : d.enter linkLimit [] init = .ok (linkLimit, init) := by
        refine hd.enter_self linkLimit (l := []) ?_ fun m _ hm _ => ?_
        · exact hd.hasDirectory_above hat (List.prefix_append ..) (by simp)
        · refine hsearch m (hm.trans (List.prefix_append ..)) ?_
          rintro rfl
          have hlength := hm.length_le
          rw [List.length_append, List.length_singleton] at hlength
          exact absurd hlength (Nat.not_succ_le_self _)
      rw [chase_append _ _ _ _ _ _ (List.cons_ne_nil _ _), henter, hends]
      have hname : IsEntryName n := hd.isEntryName_of_at? hat (by simp)
      dsimp only
      rw [chase_singleton, turn_of_isOrdinary (hsearch init (List.prefix_append ..) (by simp))
        hname.toIsOrdinary, hat]
      rcases entry with rights | key | target
      · rfl
      · rfl
      · exact absurd rfl (hlink target)

end WellFormed

end Codemod.Disk
