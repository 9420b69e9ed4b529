import Codemod.Proofs.Disk.Slot

set_option autoImplicit false

/-! # Trees that are alike

Two trees may hold the same, some directories apart (`Alike`); the files need not be known by the
same numbers. If the names of these directories occur neither in a path nor in a link then the path
leads to the same in both trees (`Alike.locate`), and making directories for it comes to the same
(`agree_ensureDirectories`). -/

namespace Codemod.Disk

variable {d d' : Disk} {tops : List Location} {l m : Location} {ns : List Name} {n : Name}
  {p q : Path}

/-! ## Names apart -/

/-- A place in one of some directories. -/
def IsIn (tops : List Location) (m : Location) : Prop := ∃ top ∈ tops, top <+: m

/-- A name that none of some directories has. -/
def IsApart (tops : List Location) (n : Name) : Prop := ∀ top ∈ tops, top.getLast? ≠ some n

/-- The names of some directories do not occur in a path. -/
def Omits (tops : List Location) (p : Path) : Prop := ∀ n ∈ p.segments, IsApart tops n

instance (tops : List Location) (m : Location) : Decidable (IsIn tops m) :=
  inferInstanceAs (Decidable (∃ top ∈ tops, top <+: m))

instance (tops : List Location) (n : Name) : Decidable (IsApart tops n) :=
  inferInstanceAs (Decidable (∀ top ∈ tops, top.getLast? ≠ some n))

instance (tops : List Location) (p : Path) : Decidable (Omits tops p) :=
  inferInstanceAs (Decidable (∀ n ∈ p.segments, IsApart tops n))

theorem not_isIn_of_le (h : ¬ IsIn tops m) (hl : l <+: m) : ¬ IsIn tops l :=
  fun ⟨top, htop, hbelow⟩ => h ⟨top, htop, hbelow.trans hl⟩

theorem not_isIn_concat (h : ¬ IsIn tops l) (hn : IsApart tops n) : ¬ IsIn tops (l ++ [n]) := by
  rintro ⟨top, htop, hbelow⟩
  rcases List.prefix_concat_iff.1 hbelow with rfl | hbelow
  · exact hn _ htop List.getLast?_concat
  · exact h ⟨top, htop, hbelow⟩

theorem not_isIn_linkStart (h : ¬ IsIn tops l) (target : Path) :
    ¬ IsIn tops (linkStart target l) := by
  rw [linkStart]
  split
  · exact not_isIn_of_le h (List.nil_prefix)
  · exact h

/-! ## Parts of paths -/

/-- A part of a path is one of its names, unless it is the root. -/
theorem nameOf_mem_segments {c : Component} (hc : c ∈ p.components) (hroot : c ≠ .root) :
    Path.nameOf c ∈ p.segments := by
  rw [Path.components, List.mem_append] at hc
  rcases hc with hc | hc
  · split at hc
    · exact absurd (List.mem_singleton.1 hc) hroot
    · split at hc
      · rename_i hhead
        rw [List.mem_singleton.1 hc]
        exact List.mem_of_mem_head? hhead
      · cases hc
  · obtain ⟨n, hn, hcomponent⟩ := List.mem_filterMap.1 hc
    rwa [Path.nameOf_of_componentOf? hcomponent]

theorem segments_ofComponents_subset {cs : List Component} (hcs : cs <+: p.components) :
    (Path.ofComponents cs).segments ⊆ p.segments := by
  induction cs using List.reverseRecOn with
  | nil =>
    intro name hname
    cases hname
  | append_singleton cs c ih =>
    have hbefore := ih ((List.prefix_append ..).trans hcs)
    have hc : c ∈ p.components := hcs.subset (List.mem_append_right _ (List.mem_singleton_self c))
    have hjoin : Path.ofComponents (cs ++ [c]) =
        (Path.ofComponents cs).join ⟨Path.nameOf c⟩ := by
      rw [Path.ofComponents, List.foldl_append]
      rfl
    by_cases hroot : c = .root
    · subst hroot
      rw [hjoin, Path.join, if_pos (by rfl)]
      intro name hname
      cases hname
    · have hname := nameOf_mem_segments hc hroot
      rw [hjoin, Path.segments_join _ (Path.isPart_of_mem_segments hname)]
      exact List.append_subset.2 ⟨hbefore, by simpa using hname⟩

theorem Omits.of_atOrAbove (h : Omits tops p) (hq : AtOrAbove p q) : Omits tops q := by
  rcases hq with rfl | ⟨cs, hcs, rfl⟩
  · exact h
  · exact fun n hn => h n (segments_ofComponents_subset hcs hn)

/-! ## The same in both trees -/

/-- The same thing in two trees: a file has the same content and may be used in the same ways. -/
inductive SameThing (d d' : Disk) : Option Entry → Option Entry → Prop
  | none : SameThing d d' none none
  | directory (rights : Rights) :
    SameThing d d' (some (.directory rights)) (some (.directory rights))
  | link (target : Path) : SameThing d d' (some (.link target)) (some (.link target))
  | file {key key' : Nat} (contentOf : d'.contentOf key' = d.contentOf key)
      (rightsOf : d'.rightsOf key' = d.rightsOf key) :
    SameThing d d' (some (.file key)) (some (.file key'))

theorem SameThing.of_eq (h : d'.at? m = d.at? m)
    (hcontent : ∀ key, d.at? m = some (.file key) → d'.contentOf key = d.contentOf key)
    (hrights : ∀ key, d.at? m = some (.file key) → d'.rightsOf key = d.rightsOf key) :
    SameThing d d' (d.at? m) (d'.at? m) := by
  rw [h]
  rcases hat : d.at? m with _ | rights | key | target
  · exact .none
  · exact .directory rights
  · exact .file (hcontent key hat) (hrights key hat)
  · exact .link target

theorem SameThing.mono {x x' : Disk} {entry entry' : Option Entry}
    (h : SameThing d d' entry entry') (hcontent : ∀ key, x.contentOf key = d.contentOf key)
    (hcontent' : ∀ key, x'.contentOf key = d'.contentOf key)
    (hrights : ∀ key, x.rightsOf key = d.rightsOf key)
    (hrights' : ∀ key, x'.rightsOf key = d'.rightsOf key) : SameThing x x' entry entry' := by
  cases h with
  | none => exact .none
  | directory rights => exact .directory rights
  | link target => exact .link target
  | file contentOf rightsOf =>
    exact .file (by rw [hcontent, hcontent', contentOf]) (by rw [hrights, hrights', rightsOf])

theorem SameThing.symm {entry entry' : Option Entry} (h : SameThing d d' entry entry') :
    SameThing d' d entry' entry := by
  cases h with
  | none => exact .none
  | directory rights => exact .directory rights
  | link target => exact .link target
  | file contentOf rightsOf => exact .file contentOf.symm rightsOf.symm

theorem SameThing.trans {d'' : Disk} {entry entry' entry'' : Option Entry}
    (h : SameThing d d' entry entry') (h' : SameThing d' d'' entry' entry'') :
    SameThing d d'' entry entry'' := by
  cases h with
  | none =>
    cases h'
    exact .none
  | directory rights =>
    cases h'
    exact .directory rights
  | link target =>
    cases h'
    exact .link target
  | file contentOf rightsOf =>
    cases h' with
    | file contentOf' rightsOf' =>
      exact .file (contentOf'.trans contentOf) (rightsOf'.trans rightsOf)

/-- A tree in which the names of some directories occur neither on the way to the working directory
nor in the links, but for those in the directories themselves. -/
structure Ignores (d : Disk) (tops : List Location) : Prop where
  outside : ¬ IsIn tops d.workingDirectory
  link : ∀ m target, ¬ IsIn tops m → d.at? m = some (.link target) → Omits tops target

/-- Two trees with the same in them but for some directories, whose names do not occur elsewhere. -/
structure Alike (tops : List Location) (d d' : Disk) : Prop extends d.Ignores tops where
  workingDirectory : d'.workingDirectory = d.workingDirectory
  at? : ∀ m, ¬ IsIn tops m → SameThing d d' (d.at? m) (d'.at? m)

theorem SameThing.refl (d : Disk) (entry : Option Entry) : SameThing d d entry entry := by
  rcases entry with _ | rights | key | target
  · exact .none
  · exact .directory rights
  · exact .file rfl rfl
  · exact .link target

theorem Ignores.alike (h : d.Ignores tops) : Alike tops d d :=
  ⟨h, rfl, fun _ _ => .refl d _⟩

namespace Alike

variable (h : Alike tops d d')
include h

theorem hasDirectory (hl : ¬ IsIn tops l) : d'.hasDirectory l = d.hasDirectory l := by
  have hsame := h.at? l hl
  rw [Disk.hasDirectory, Disk.hasDirectory]
  generalize d.at? l = entry at hsame
  generalize d'.at? l = entry' at hsame
  cases hsame
  all_goals rfl

theorem rightsAt (hl : ¬ IsIn tops l) : d'.rightsAt l = d.rightsAt l := by
  have hsame := h.at? l hl
  rw [Disk.rightsAt, Disk.rightsAt]
  generalize d.at? l = entry at hsame
  generalize d'.at? l = entry' at hsame
  cases hsame with
  | file contentOf rightsOf => exact rightsOf
  | _ => rfl

/-- A name leads to the same in both trees, and not into the directories. -/
theorem turn (hl : ¬ IsIn tops l) (hn : IsApart tops n) :
    d'.turn l n = d.turn l n ∧ (∀ m, d.turn l n = .ok (.place m) → ¬ IsIn tops m) ∧
      ∀ target, d.turn l n = .ok (.link target) → Omits tops target := by
  have hnext := not_isIn_concat hl hn
  have hsame := h.at? _ hnext
  have hlink := h.link (l ++ [n])
  rw [Disk.turn, Disk.turn, h.rightsAt hl]
  split
  · simp
  split
  · simp [hl]
  split
  · simp [not_isIn_of_le hl (List.dropLast_prefix l)]
  split
  · simp
  generalize d.at? (l ++ [n]) = entry at hsame hlink
  generalize d'.at? (l ++ [n]) = entry' at hsame
  cases hsame with
  | none => simp
  | directory rights => simp [hnext]
  | link target => simp [hlink target hnext rfl]
  | file contentOf rightsOf => simp

/-- Names lead to the same in both trees, and not into the directories. -/
theorem chase (follow slash : Bool) (links : Nat) (hl : ¬ IsIn tops l)
    (hns : ∀ n ∈ ns, IsApart tops n) :
    d'.chase follow links slash l ns = d.chase follow links slash l ns ∧
      ∀ found, d.chase follow links slash l ns = .ok found → ¬ IsIn tops found.place := by
  induction links, l, ns using enter.induct d generalizing slash with
  | case1 links l =>
    rw [chase_nil, chase_nil]
    refine ⟨rfl, fun found hfound => ?_⟩
    cases hfound
    exact hl
  | case2 links l n rest e hturn =>
    rw [List.forall_mem_cons] at hns
    have hsame := (h.turn hl hns.1).1
    have hnext := not_isIn_concat hl hns.1
    rcases rest with _ | ⟨next, rest⟩
    · rw [chase_singleton, chase_singleton, hsame, hturn]
      cases e
      case notFound =>
        refine ⟨rfl, fun found hfound => ?_⟩
        cases hfound
        exact hnext
      case notADirectory =>
        refine ⟨rfl, fun found hfound => ?_⟩
        cases slash
        · cases hfound
          exact hnext
        · cases hfound
      all_goals exact ⟨rfl, by simp⟩
    · rw [chase_cons _ _ _ _ _ _ (List.cons_ne_nil _ _),
        chase_cons _ _ _ _ _ _ (List.cons_ne_nil _ _), hsame, hturn]
      exact ⟨rfl, by simp⟩
  | case3 links l n rest m hturn ih =>
    rw [List.forall_mem_cons] at hns
    obtain ⟨hsame, hplace, -⟩ := h.turn hl hns.1
    rw [chase_of_place hturn, chase_of_place (hsame.trans hturn)]
    exact ih slash (hplace m hturn) hns.2
  | case4 l n rest target hturn =>
    rw [List.forall_mem_cons] at hns
    have hsame := (h.turn hl hns.1).1
    rcases rest with _ | ⟨next, rest⟩
    · rw [chase_singleton, chase_singleton, hsame, hturn]
      refine ⟨rfl, fun found hfound => ?_⟩
      dsimp only at hfound
      split at hfound
      · cases hfound
      · cases hfound
        exact not_isIn_concat hl hns.1
    · rw [chase_cons _ _ _ _ _ _ (List.cons_ne_nil _ _),
        chase_cons _ _ _ _ _ _ (List.cons_ne_nil _ _), hsame, hturn]
      exact ⟨rfl, by simp⟩
  | case5 l n rest target hturn links ih =>
    rw [List.forall_mem_cons] at hns
    obtain ⟨hsame, -, hlink⟩ := h.turn hl hns.1
    have hstart := not_isIn_linkStart hl target
    have hnames : ∀ a ∈ target.segments ++ rest, IsApart tops a := by
      intro a ha
      rcases List.mem_append.1 ha with ha | ha
      · exact hlink target hturn a ha
      · exact hns.2 a ha
    by_cases hgo : rest = [] → (follow || slash) = true
    · rw [chase_of_link hturn hgo, chase_of_link (hsame.trans hturn) hgo]
      exact ih _ hstart hnames
    · obtain ⟨rfl, hstay⟩ := Classical.not_imp.1 hgo
      rw [chase_singleton, chase_singleton, hsame, hturn]
      dsimp only
      rw [if_neg hstay, if_neg hstay]
      refine ⟨rfl, fun found hfound => ?_⟩
      cases hfound
      exact not_isIn_concat hl hns.1

/-! ## Paths -/

section Paths

variable (hp : Omits tops p)
include hp

theorem locate (follow slash : Bool) :
    d'.locate p follow slash = d.locate p follow slash ∧
      ∀ found, d.locate p follow slash = .ok found → ¬ IsIn tops found.place := by
  have hstart : ¬ IsIn tops (d.startOf p) := by
    rw [startOf]
    split
    · exact not_isIn_of_le h.outside List.nil_prefix
    · exact h.outside
  have hsame : d'.startOf p = d.startOf p := by
    rw [startOf, startOf, h.workingDirectory]
  obtain ⟨hchase, hplace⟩ := h.chase follow slash linkLimit hstart hp
  constructor
  · rw [locate_eq, locate_eq, hsame, h.hasDirectory hstart, hchase]
  · exact fun found hfound => hplace found (locate_eq_ok_iff.1 hfound).2.2.2

theorem resolve (follow : Bool) : d'.resolve p follow = d.resolve p follow :=
  (h.locate hp follow _).1

theorem resolveName : d'.resolveName p = d.resolveName p := (h.locate hp false false).1

theorem place? (follow : Bool) :
    d'.place? p follow = d.place? p follow ∧
      ∀ l, d.place? p follow = .ok l → ¬ IsIn tops l := by
  refine ⟨by rw [Disk.place?, Disk.place?, h.resolve hp], fun l hl => ?_⟩
  exact (h.locate hp follow _).2 _ (place?_eq_ok_iff_resolve.1 hl)

theorem isDirectory : d'.isDirectory p = d.isDirectory p := by
  obtain ⟨hplace, hout⟩ := h.place? hp true
  rw [Disk.isDirectory, Disk.isDirectory, status?, status?, hplace]
  rcases hl : d.place? p with e | l
  · rfl
  · exact h.hasDirectory (hout l hl)

theorem read : d'.read p = d.read p := by
  obtain ⟨hplace, hout⟩ := h.place? hp true
  rw [Disk.read, Disk.read, hplace]
  rcases hl : d.place? p with e | l
  · rfl
  · have hsame := h.at? l (hout l hl)
    simp only [bind, Except.bind]
    generalize d.at? l = entry at hsame
    generalize d'.at? l = entry' at hsame
    cases hsame with
    | file contentOf rightsOf => simp only [contentOf, rightsOf]
    | _ => rfl

end Paths

end Alike

/-! ## Making directories -/

/-- A directory is made in both trees or in none of them. -/
theorem agree_makeDirectory (hp : Omits tops p) :
    Agree (Alike tops) (makeDirectory p) (makeDirectory p) := by
  intro d d' h
  obtain ⟨hfound, hout⟩ := h.locate hp false false
  change d'.resolveName p = d.resolveName p at hfound
  rw [run_makeDirectory, run_makeDirectory, hfound]
  rcases hname : d.resolveName p with e | l | ⟨l, n⟩
  · exact ⟨rfl, h⟩
  · exact ⟨rfl, h⟩
  have hplace : ¬ IsIn tops (l ++ [n]) := hout _ hname
  dsimp only
  rw [h.rightsAt (not_isIn_of_le hplace (List.prefix_append ..))]
  split
  · refine ⟨rfl, ⟨h.outside, fun m target hm hat => ?_⟩, h.workingDirectory, fun m hm => ?_⟩
    · rw [at?_put] at hat
      split at hat
      · cases hat
      · exact h.link m target hm hat
    · rw [at?_put, at?_put]
      split
      · exact .directory {}
      · exact (h.at? m hm).mono (fun _ => rfl) (fun _ => rfl) (fun _ => rfl) fun _ => rfl
  · exact ⟨rfl, h⟩

section Agree

variable {R : Disk → Disk → Prop}

theorem agree_makeOrFind (hmake : Agree R (makeDirectory p) (makeDirectory p))
    (hdirectory : ∀ x y, R x y → y.isDirectory p = x.isDirectory p) :
    Agree R (makeOrFind p) (makeOrFind p) := by
  intro d d' h
  rw [run_makeOrFind, run_makeOrFind]
  rcases hmake.run_cases h with ⟨e, x, y, hrun, hrun', hxy⟩ | ⟨⟨⟩, x, y, hrun, hrun', hxy⟩
  · rw [hrun, hrun']
    dsimp only
    rw [hdirectory x y hxy]
    exact ⟨rfl, hxy⟩
  · rw [hrun, hrun']
    exact ⟨rfl, hxy⟩

theorem agree_ensureDirectory (hmake : Agree R (makeDirectory p) (makeDirectory p))
    (hdirectory : ∀ x y, R x y → y.isDirectory p = x.isDirectory p) {above : Action Unit}
    (habove : Agree R above above) :
    Agree R (ensureDirectory p above) (ensureDirectory p above) := by
  intro d d' h
  have hlast := agree_makeOrFind hmake hdirectory
  have hiff : d.resolveName p = .error .notFound ↔ d'.resolveName p = .error .notFound := by
    rw [← run_makeDirectory_notFound_iff, ← run_makeDirectory_notFound_iff, (hmake d d' h).1]
  by_cases hmissing : d.resolveName p = .error .notFound
  · rw [run_ensureDirectory_of_notFound hmissing,
      run_ensureDirectory_of_notFound (hiff.1 hmissing)]
    rcases habove.run_cases h with ⟨e, x, y, hrun, hrun', hxy⟩ | ⟨⟨⟩, x, y, hrun, hrun', hxy⟩
    · rw [hrun, hrun']
      exact ⟨rfl, hxy⟩
    · rw [hrun, hrun']
      exact hlast x y hxy
  · rw [run_ensureDirectory_of_ne hmissing, run_ensureDirectory_of_ne (mt hiff.2 hmissing)]
    exact hlast d d' h

theorem agree_ensureParts {cs : List Component}
    (hmake : ∀ bs, bs <:+ cs → Agree R (makeDirectory (Path.ofComponents bs.reverse))
      (makeDirectory (Path.ofComponents bs.reverse)))
    (hdirectory : ∀ bs, bs <:+ cs → ∀ x y, R x y →
      y.isDirectory (Path.ofComponents bs.reverse) = x.isDirectory (Path.ofComponents bs.reverse)) :
    Agree R (ensureParts cs) (ensureParts cs) := by
  induction cs using ensureParts.induct with
  | case1 => exact .pure ()
  | case2 =>
    exact agree_ensureDirectory (hmake [.root] List.suffix_rfl) (hdirectory [.root] List.suffix_rfl)
      fun _ _ h => ⟨rfl, h⟩
  | case3 c back hne ih =>
    have hstep : ∀ {bs}, bs <:+ back → bs <:+ c :: back := fun h => h.trans (List.suffix_cons ..)
    rw [ensureParts]
    · exact agree_ensureDirectory (hmake _ List.suffix_rfl) (hdirectory _ List.suffix_rfl)
        (ih (fun bs hbs => hmake bs (hstep hbs)) fun bs hbs => hdirectory bs (hstep hbs))
    · exact hne

end Agree

/-- What is made for a path does not come into directories that the path does not know. -/
theorem keeps_ensureDirectories_outside (hp : Omits tops p) (d : Disk) :
    Keeps (fun x => x.WellFormed ∧ x.Ignores tops ∧ d.Grown (fun m => ¬ IsIn tops m) x)
      (ensureDirectories p) := by
  refine keeps_ensureDirectories fun q hq => ?_
  rintro x ⟨hx, hignores, hgrown⟩
  have hagree := agree_makeDirectory (hp.of_atOrAbove hq) x x hignores.alike
  rcases run_makeDirectory_cases q x with ⟨e, hrun⟩ | ⟨l, n, hfound, hrun⟩
  · rw [hrun]
    exact ⟨hx, hignores, hgrown⟩
  · have hfree : x.IsFree l n := hx.isThere_of_locate hfound
    have hout : ¬ IsIn tops (l ++ [n]) :=
      (hignores.alike.locate (hp.of_atOrAbove hq) false false).2 _ hfound
    rw [hrun] at hagree ⊢
    exact ⟨hx.putNew hfree (by simp), hagree.2.toIgnores,
      hgrown.trans (.put hfree.at?_eq_none hout)⟩

/-- Directories that are made for a path come to the same in both trees. -/
theorem agree_ensureDirectories (hp : Omits tops p) :
    Agree (Alike tops) (ensureDirectories p) (ensureDirectories p) := by
  have hmake : ∀ q, AtOrAbove p q → Agree (Alike tops) (makeDirectory q) (makeDirectory q) :=
    fun q hq => agree_makeDirectory (hp.of_atOrAbove hq)
  have hdirectory : ∀ q, AtOrAbove p q → ∀ x y, Alike tops x y →
      y.isDirectory q = x.isDirectory q := fun q hq x y h => h.isDirectory (hp.of_atOrAbove hq)
  rw [ensureDirectories]
  split
  · exact .pure ()
  · refine agree_ensureDirectory (hmake p (.inl rfl)) (hdirectory p (.inl rfl)) ?_
    split
    · exact fun _ _ h => ⟨rfl, h⟩
    · exact fun _ _ h => ⟨rfl, h⟩
    · rename_i c back _ hparts
      have hon : ∀ bs, bs <:+ back → AtOrAbove p (Path.ofComponents bs.reverse) := by
        intro bs hbs
        refine .inr ⟨bs.reverse, ?_, rfl⟩
        rw [← List.reverse_suffix, List.reverse_reverse, hparts]
        exact hbs.trans (List.suffix_cons ..)
      exact agree_ensureParts (fun bs hbs => hmake _ (hon bs hbs))
        fun bs hbs => hdirectory _ (hon bs hbs)

end Codemod.Disk
