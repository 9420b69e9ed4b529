import Codemod.Proofs.Disk.Way

set_option autoImplicit false

/-! # Trees that keep their ways

Where directories and links stay what they are, paths lead where they led (`Extends.place?`), however
files come and go. -/

namespace Codemod.Disk

variable {d d' : Disk} {l m : Location} {ns : List Name} {n : Name}

/-- Directories and links stay where they are. -/
structure Extends (d d' : Disk) : Prop where
  workingDirectory : d'.workingDirectory = d.workingDirectory
  directory : ∀ m rights, d.at? m = some (.directory rights) →
    d'.at? m = some (.directory rights)
  link : ∀ m target, d.at? m = some (.link target) → d'.at? m = some (.link target)

namespace Extends

theorem refl (d : Disk) : d.Extends d := ⟨rfl, fun _ _ h => h, fun _ _ h => h⟩

theorem trans {d₁ d₂ : Disk} (h₁ : d.Extends d₁) (h₂ : d₁.Extends d₂) : d.Extends d₂ where
  workingDirectory := h₂.workingDirectory.trans h₁.workingDirectory
  directory := fun m rights h => h₂.directory m rights (h₁.directory m rights h)
  link := fun m target h => h₂.link m target (h₁.link m target h)

theorem hasDirectory (h : d.Extends d') (hl : d.hasDirectory l = true) :
    d'.hasDirectory l = true := by
  obtain ⟨rights, hat⟩ := hasDirectory_iff.1 hl
  exact hasDirectory_of_at? (h.directory l rights hat)

theorem rightsAt (h : d.Extends d') (hl : d.hasDirectory l = true) :
    d'.rightsAt l = d.rightsAt l := by
  obtain ⟨rights, hat⟩ := hasDirectory_iff.1 hl
  rw [Disk.rightsAt, Disk.rightsAt, hat, h.directory l rights hat]

theorem turn {t : Turn} (h : d.Extends d') (hl : d.hasDirectory l = true)
    (hturn : d.turn l n = .ok t) : d'.turn l n = .ok t := by
  rcases turn_cases d l n with ⟨hsearch, hname⟩ | hno | hno
  · have hsearch' : (d'.rightsAt l).searchable = true := by rw [h.rightsAt hl, hsearch]
    rcases hname with ⟨rfl, hhere⟩ | ⟨rfl, habove⟩ | hname
    · rw [← hturn, hhere, Disk.turn, if_neg (by simpa using hsearch'), if_pos rfl]
    · rw [← hturn, habove, Disk.turn, if_neg (by simpa using hsearch'), if_neg (by decide),
        if_pos rfl]
    · rw [turn_of_isOrdinary hsearch hname] at hturn
      rw [turn_of_isOrdinary hsearch' hname]
      rcases hat : d.at? (l ++ [n]) with _ | rights | key | target
      · rw [hat] at hturn
        cases hturn
      · rw [hat] at hturn
        rw [h.directory _ _ hat]
        exact hturn
      · rw [hat] at hturn
        cases hturn
      · rw [hat] at hturn
        rw [h.link _ _ hat]
        exact hturn
  · rw [hno] at hturn
    cases hturn
  · rw [hno] at hturn
    cases hturn

theorem enter (h : d.Extends d') (hd : d.WellFormed) {links left : Nat}
    (hl : d.hasDirectory l = true) (henter : d.enter links l ns = .ok (left, m)) :
    d'.enter links l ns = .ok (left, m) := by
  induction links, l, ns using enter.induct d with
  | case1 links l =>
    rw [Disk.enter] at henter ⊢
    exact henter
  | case2 links l n init e hturn => simp only [Disk.enter, hturn, reduceCtorEq] at henter
  | case3 links l n init m' hturn ih =>
    simp only [Disk.enter, hturn] at henter
    simp only [Disk.enter, h.turn hl hturn]
    exact ih (hd.hasDirectory_of_turn hl hturn) henter
  | case4 l n init target hturn => simp only [Disk.enter, hturn, reduceCtorEq] at henter
  | case5 l n init target hturn links ih =>
    simp only [Disk.enter, hturn] at henter
    simp only [Disk.enter, h.turn hl hturn]
    exact ih (WellFormed.hasDirectory_linkStart hl target) henter

theorem leveled (h : d.Extends d') (hl : d.Leveled l ns) : d'.Leveled l ns := by
  intro init hinit
  obtain ⟨rights, hat, hsearch⟩ := hl init hinit
  exact ⟨rights, h.directory _ _ hat, hsearch⟩

/-- What names lead to is still there, if it is still of the same kind. -/
theorem chase (h : d.Extends d') (hd : d.WellFormed) {follow slash : Bool} {links : Nat}
    (hl : d.hasDirectory l = true)
    (hfile : ∀ key, d.at? m = some (.file key) → ∃ key', d'.at? m = some (.file key'))
    (hchase : d.chase follow links slash l ns = .ok (.entry m)) :
    d'.chase follow links slash l ns = .ok (.entry m) := by
  refine chase_induction (motive := fun links slash l ns found => found = .entry m →
    d.hasDirectory l = true → d'.chase follow links slash l ns = .ok (.entry m))
    ?done ?place ?link ?free ?file ?stop hchase rfl hl
  case done =>
    rintro links slash l ⟨⟩ _
    exact chase_nil ..
  case place =>
    intro links slash l n rest k found hturn ih hfound hl
    rw [chase_of_place (h.turn hl hturn)]
    exact ih hfound (hd.hasDirectory_of_turn hl hturn)
  case link =>
    rintro links slash _ l n rest target found hturn hgo rfl ih hfound hl
    rw [chase_of_link (h.turn hl hturn) hgo]
    exact ih hfound (WellFormed.hasDirectory_linkStart hl target)
  case free =>
    intro _ _ l n _ hfound
    cases hfound
  case file =>
    rintro links l n hturn ⟨⟩ hl
    obtain ⟨hname, key, hat⟩ := at?_of_turn.2.1 hturn
    obtain ⟨key', hat'⟩ := hfile key hat
    have hsearch : (d'.rightsAt l).searchable = true := by
      rw [h.rightsAt hl]
      exact searchable_of_turn (by rw [hturn]; simp)
    rw [chase_singleton, turn_of_isOrdinary hsearch hname, hat']
    rfl
  case stop =>
    rintro links l n target hturn hfollow ⟨⟩ hl
    rw [chase_singleton, h.turn hl hturn, hfollow]
    rfl

theorem startOf (h : d.Extends d') (p : Path) : d'.startOf p = d.startOf p := by
  rw [Disk.startOf, Disk.startOf, h.workingDirectory]

theorem place? (h : d.Extends d') (hd : d.WellFormed) {p : Path} {follow : Bool}
    (hfile : ∀ key, d.at? m = some (.file key) → ∃ key', d'.at? m = some (.file key'))
    (hplace : d.place? p follow = .ok m) : d'.place? p follow = .ok m := by
  obtain ⟨hne, hpass, hstart, hchase⟩ := place?_eq_ok_iff.1 hplace
  rw [place?_eq_ok_iff, h.startOf]
  exact ⟨hne, hpass, h.hasDirectory hstart, h.chase hd hstart hfile hchase⟩

/-- A path whose last name was free leads to the file or directory that has the name now. With a
slash at its end only a directory will do. -/
theorem place?_of_vacant (h : d.Extends d') (hd : d.WellFormed) {p : Path} {entry : Entry}
    (hslash : p.endsInSeparator = true → isDirectoryEntry entry = true)
    (hfree : d.resolveName p = .ok (.vacant l n)) (hat : d'.at? (l ++ [n]) = some entry)
    (hentry : ∀ target, entry ≠ .link target) (follow : Bool) :
    d'.place? p follow = .ok (l ++ [n]) := by
  obtain ⟨hne, hpass, hstart, hchase⟩ := locate_eq_ok_iff.1 hfree
  obtain ⟨init, left, hsegments, henter, hturn⟩ := exists_enter_of_vacant hchase
  obtain ⟨hsearch, hname, -⟩ := at?_of_turn.1 hturn
  have hsearch' : (d'.rightsAt l).searchable = true := by
    rw [h.rightsAt (hd.hasDirectory_of_enter hstart henter), hsearch]
  rw [place?_eq_ok_iff, h.startOf, hsegments, chase_append _ _ _ _ _ _ (List.cons_ne_nil _ _),
    h.enter hd hstart henter]
  refine ⟨hne, hpass, h.hasDirectory hstart, ?_⟩
  dsimp only
  rw [chase_singleton, turn_of_isOrdinary hsearch' hname, hat]
  rcases entry with rights | key | target
  · rfl
  · cases hends : p.endsInSeparator
    · rfl
    · cases hslash hends
  · exact absurd rfl (hentry target)

/-- A path whose name was free leads to the file that has the name now, if it leads anywhere: a link
on the way may ask for a directory. -/
theorem resolve_of_vacant_file (h : d.Extends d') (hd : d.WellFormed) {p : Path} {key : Nat}
    {found : Found} (hfree : d.resolve p true = .ok (.vacant l n))
    (hat : d'.at? (l ++ [n]) = some (.file key)) (hfound : d'.resolve p true = .ok found) :
    found = .entry (l ++ [n]) := by
  obtain ⟨-, -, hstart, hchase⟩ := locate_eq_ok_iff.1 hfree
  obtain ⟨-, -, -, hchase'⟩ := locate_eq_ok_iff.1 hfound
  rw [h.startOf] at hchase'
  refine chase_induction (motive := fun links slash l' ns there => there = .vacant l n →
    d.hasDirectory l' = true → d'.chase true links slash l' ns = .ok found →
      found = .entry (l ++ [n]))
    ?done ?place ?link ?free ?file ?stop hchase rfl hstart hchase'
  case done =>
    intro _ _ _ hthere
    cases hthere
  case place =>
    intro links slash l' name rest k there hturn ih hthere hl hrest
    rw [Disk.chase_of_place (h.turn hl hturn)] at hrest
    exact ih hthere (hd.hasDirectory_of_turn hl hturn) hrest
  case link =>
    rintro links slash _ l' name rest target there hturn hgo rfl ih hthere hl hrest
    rw [chase_of_link (h.turn hl hturn) hgo] at hrest
    exact ih hthere (WellFormed.hasDirectory_linkStart hl target) hrest
  case free =>
    rintro links slash l' name hturn ⟨⟩ hl hrest
    obtain ⟨hsearch, hname, -⟩ := at?_of_turn.1 hturn
    have hsearch' : (d'.rightsAt l).searchable = true := by rw [h.rightsAt hl, hsearch]
    rw [chase_singleton, turn_of_isOrdinary hsearch' hname, hat] at hrest
    dsimp only at hrest
    split at hrest
    · cases hrest
    · cases hrest
      rfl
  case file =>
    intro _ _ _ _ hthere
    cases hthere
  case stop =>
    intro _ _ _ _ _ hfollow
    cases hfollow

/-- Directories and links stay if everything stays that is no file. -/
theorem of_stays (hdirectory : d'.workingDirectory = d.workingDirectory)
    (hstays : ∀ m entry, (∀ key, entry ≠ .file key) → d.at? m = some entry →
      d'.at? m = some entry) : d.Extends d' where
  workingDirectory := hdirectory
  directory := fun m rights => hstays m (.directory rights) (by simp)
  link := fun m target => hstays m (.link target) (by simp)

theorem stays (h : d.Extends d') {entry : Entry} (hentry : ∀ key, entry ≠ .file key)
    (hat : d.at? m = some entry) : d'.at? m = some entry := by
  cases entry with
  | directory rights => exact h.directory m rights hat
  | link target => exact h.link m target hat
  | file key => exact absurd rfl (hentry key)

/-- Where entries are the same, only files can be others. -/
theorem of_at?_eq (hdirectory : d'.workingDirectory = d.workingDirectory)
    (hat : ∀ m, d'.at? m = d.at? m) : d.Extends d' :=
  ⟨hdirectory, fun m _ h => by rw [hat, h], fun m _ h => by rw [hat, h]⟩

/-- What is taken away was in the way of nothing. -/
theorem of_cut (d : Disk) (l : Location) : (d.cut l).Extends d := by
  refine .of_stays rfl fun m entry _ hat => ?_
  rw [at?_cut] at hat
  split at hat
  · cases hat
  · exact hat

/-- What stays in a tree stays in what is left of it. -/
theorem cut (h : d.Extends d') (l : Location) : (d.cut l).Extends (d'.cut l) := by
  refine .of_stays h.workingDirectory fun m entry hentry hat => ?_
  rw [at?_cut] at hat ⊢
  split at hat
  · cases hat
  · rename_i hm
    rw [if_neg hm, h.stays hentry hat]

end Extends

/-- A file that gets another name is in the way of nothing. -/
theorem WellFormed.extends_carry_new (hd : d.WellFormed) {source : Location} {key : Nat}
    (hsource : d.at? source = some (.file key)) (htarget : d.IsFree l n) :
    d.Extends (d.carry source (l ++ [n])) := by
  refine .of_stays rfl fun m entry hentry hat => ?_
  have hnew : m ≠ l ++ [n] := by
    rintro rfl
    rw [htarget.at?_eq_none] at hat
    cases hat
  have hold : m ≠ source := by
    rintro rfl
    exact hentry key (Option.some.inj (hat.symm.trans hsource))
  rw [hd.at?_carry_new hsource htarget, if_neg hnew, if_neg hold, hat]

/-! ## Reading -/

theorem read_of_place? {p : Path} (h : d.place? p = .ok l) :
    d.read p =
      match d.at? l with
      | some (.file key) =>
        if (d.rightsOf key).readable then .ok (d.contentOf key) else .error .denied
      | _ => .error .isADirectory := by
  rw [read, h]
  rfl

/-- A path is read if it leads to a file that can be read. -/
theorem read_eq_ok_iff {p : Path} {content : Content} :
    d.read p = .ok content ↔
      ∃ l key, d.place? p = .ok l ∧ d.at? l = some (.file key) ∧
        (d.rightsOf key).readable = true ∧ d.contentOf key = content := by
  rcases hplace : d.place? p with e | l
  · rw [read, hplace]
    constructor
    · rintro ⟨⟩
    · rintro ⟨_, _, ⟨⟩, _⟩
  · rw [read_of_place? hplace]
    constructor
    · intro h
      split at h
      · rename_i key hkey
        split at h
        · rename_i hread
          cases h
          exact ⟨l, key, rfl, hkey, hread, rfl⟩
        · cases h
      · cases h
    · rintro ⟨_, key, ⟨⟩, hkey, hread, rfl⟩
      rw [hkey]
      exact if_pos hread

/-- All of a tree is in another one. -/
structure Within (d d' : Disk) : Prop where
  workingDirectory : d'.workingDirectory = d.workingDirectory
  at? : ∀ m entry, d.at? m = some entry → d'.at? m = some entry
  contentOf : ∀ key < d.nextKey, d'.contentOf key = d.contentOf key
  rightsOf : ∀ key < d.nextKey, d'.rightsOf key = d.rightsOf key
  nextKey_le : d.nextKey ≤ d'.nextKey

namespace Within

theorem trans {d₁ d₂ : Disk} (h₁ : d.Within d₁) (h₂ : d₁.Within d₂) : d.Within d₂ where
  workingDirectory := h₂.workingDirectory.trans h₁.workingDirectory
  at? := fun m entry h => h₂.at? m entry (h₁.at? m entry h)
  contentOf := fun key hkey => (h₂.contentOf key (hkey.trans_le h₁.nextKey_le)).trans
    (h₁.contentOf key hkey)
  rightsOf := fun key hkey => (h₂.rightsOf key (hkey.trans_le h₁.nextKey_le)).trans
    (h₁.rightsOf key hkey)
  nextKey_le := h₁.nextKey_le.trans h₂.nextKey_le

theorem isExtended (h : d.Within d') : d.Extends d' :=
  ⟨h.workingDirectory, fun m _ => h.at? m _, fun m _ => h.at? m _⟩

theorem place? (h : d.Within d') (hd : d.WellFormed) {p : Path} {follow : Bool}
    (hplace : d.place? p follow = .ok m) : d'.place? p follow = .ok m :=
  h.isExtended.place? hd (fun key hkey => ⟨key, h.at? m _ hkey⟩) hplace

theorem read (h : d.Within d') (hd : d.WellFormed) {p : Path} {content : Content}
    (hread : d.read p = .ok content) : d'.read p = .ok content := by
  obtain ⟨l, key, hplace, hkey, hreadable, hcontent⟩ := read_eq_ok_iff.1 hread
  have hlt := hd.key_lt hkey
  exact read_eq_ok_iff.2 ⟨l, key, h.place? hd hplace, h.at? l _ hkey,
    by rw [h.rightsOf key hlt, hreadable], by rw [h.contentOf key hlt, hcontent]⟩

end Within

theorem Grown.isWithin {made : Location → Prop} (h : d.Grown made d') : d.Within d' where
  workingDirectory := h.sameFiles.workingDirectory
  at? := fun _ _ => h.at?_of_some
  contentOf := fun key _ => h.sameFiles.contentOf key
  rightsOf := fun key _ => h.sameFiles.rightsOf key
  nextKey_le := h.sameFiles.nextKey.ge

theorem Grown.isExtended {made : Location → Prop} (h : d.Grown made d') : d.Extends d' :=
  h.isWithin.isExtended

/-- Making directories adds some to what is there, and nothing else. -/
theorem keeps_grown (d : Disk) (p : Path) :
    Keeps (fun x => x.WellFormed ∧ d.Grown (fun _ => True) x) (makeDirectory p) := by
  rintro x ⟨hx, hgrown⟩
  rcases run_makeDirectory_cases p x with ⟨error, hrun⟩ | ⟨l, n, hfound, hrun⟩
  · rw [hrun]
    exact ⟨hx, hgrown⟩
  · rw [hrun]
    have hfree : x.IsFree l n := hx.isThere_of_locate hfound
    exact ⟨hx.putNew hfree fun key hkey => (nomatch hkey),
      hgrown.trans (.put hfree.at?_eq_none trivial)⟩

/-- A new entry comes to what is there. -/
theorem within_put (hl : d.at? l = none) (entry : Entry) : d.Within (d.put l entry) where
  workingDirectory := rfl
  at? := by
    intro m there hat
    rw [at?_put, if_neg, hat]
    rintro ⟨rfl, -⟩
    rw [hl] at hat
    cases hat
  contentOf := fun _ _ => rfl
  rightsOf := fun _ _ => rfl
  nextKey_le := Nat.le_refl _

/-- A new file is added to what is there. -/
theorem within_addFile (hl : d.at? l = none) (content : Content) :
    d.Within (d.addFile l content) where
  workingDirectory := rfl
  at? := by
    intro m entry hat
    rw [at?_addFile, if_neg, hat]
    rintro ⟨rfl, -⟩
    rw [hl] at hat
    cases hat
  contentOf := fun key hkey => by rw [contentOf_addFile, if_neg hkey.ne]
  rightsOf := fun _ _ => rfl
  nextKey_le := Nat.le_succ _

end Codemod.Disk
