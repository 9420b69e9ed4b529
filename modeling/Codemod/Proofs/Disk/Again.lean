import Codemod.Proofs.Disk.Slot

set_option autoImplicit false

/-! # Making directories again

Whether the directories of a path could be made or not, doing it again changes nothing, and comes
out the same way (`ensureDirectories_again`). -/

namespace Codemod

namespace Path

variable {p : Path} {cs : List Component}

/-- Parts at the start of a path: the root or the directory itself, if anything, and names. -/
theorem exists_names_of_prefix (hcs : cs <+: p.components) :
    ∃ ns : List Name, (∀ n ∈ ns, n.IsPart) ∧ here ∉ ns ∧ (cs = ns.filterMap componentOf? ∨
      cs = .root :: ns.filterMap componentOf? ∨ cs = .current :: ns.filterMap componentOf?) := by
  have hnames : ∀ bs, bs <+: p.segments.filterMap componentOf? →
      (∀ n ∈ bs.map nameOf, Name.IsPart n) ∧ here ∉ bs.map nameOf ∧
        bs = (bs.map nameOf).filterMap componentOf? := by
    intro bs hbs
    have hall : ∀ c ∈ bs, nameOf c ∈ p.segments ∧ componentOf? (nameOf c) = some c := by
      intro c hc
      obtain ⟨n, hn, hcomponent⟩ := List.mem_filterMap.1 (hbs.subset hc)
      rw [nameOf_of_componentOf? hcomponent]
      exact ⟨hn, hcomponent⟩
    refine ⟨?_, ?_, ?_⟩
    · rw [List.forall_mem_map]
      exact fun c hc => isPart_of_mem_segments (hall c hc).1
    · rw [List.mem_map]
      rintro ⟨c, hc, hhere⟩
      have hnone := componentOf?_eq_none_iff.2 hhere
      rw [(hall c hc).2] at hnone
      cases hnone
    · rw [List.filterMap_map]
      exact ((List.filterMap_congr fun c hc => (hall c hc).2).trans List.filterMap_some).symm
  rw [components] at hcs
  split at hcs
  · rcases cs with _ | ⟨c, bs⟩
    · exact ⟨[], by simp⟩
    · obtain ⟨rfl, hbs⟩ := List.cons_prefix_cons.1 hcs
      obtain ⟨hparts, hhere, heq⟩ := hnames bs hbs
      exact ⟨_, hparts, hhere, .inr (.inl (congrArg _ heq))⟩
  · split at hcs
    · rcases cs with _ | ⟨c, bs⟩
      · exact ⟨[], by simp⟩
      · obtain ⟨rfl, hbs⟩ := List.cons_prefix_cons.1 hcs
        obtain ⟨hparts, hhere, heq⟩ := hnames bs hbs
        exact ⟨_, hparts, hhere, .inr (.inr (congrArg _ heq))⟩
    · obtain ⟨hparts, hhere, heq⟩ := hnames cs hcs
      exact ⟨_, hparts, hhere, .inl heq⟩

/-- The path of such parts consists of them. -/
theorem components_ofComponents (hcs : cs <+: p.components) :
    (ofComponents cs).components = cs := by
  obtain ⟨ns, hns, hhere, rfl | rfl | rfl⟩ := exists_names_of_prefix hcs
  · rw [ofComponents_eq_under, map_nameOf_filterMap hhere]
    rcases ns with _ | ⟨n, ns⟩
    · rfl
    · obtain ⟨-, hrelative, hsegments, -⟩ := under_nil_spec hns (List.cons_ne_nil _ _)
      have hhead : n ≠ here := fun h => hhere (h ▸ List.mem_cons_self)
      rw [components, hrelative, hsegments, List.head?_cons,
        if_neg (by simp), if_neg (by simpa using hhead), List.nil_append]
  · rw [ofComponents_filterMap hhere, components_under_root hns]
  · rw [ofComponents_eq_under, List.map_cons, map_nameOf_filterMap hhere]
    have hboth : ∀ n ∈ here :: ns, Name.IsPart n :=
      List.forall_mem_cons.2 ⟨⟨by decide, by decide⟩, hns⟩
    obtain ⟨-, hrelative, hsegments, -⟩ := under_nil_spec hboth (List.cons_ne_nil _ _)
    rw [nameOf, components, hrelative, hsegments, List.head?_cons, if_neg (by simp), if_pos rfl,
      List.filterMap_cons_none (componentOf?_eq_none_iff.2 rfl)]
    rfl

/-- A part after the first one is a name. -/
theorem isPart_nameOf_of_prefix {c : Component} (hcs : cs ++ [c] <+: p.components) (hne : cs ≠ []) :
    Name.IsPart (nameOf c) := by
  obtain ⟨ns, hns, -, hparts⟩ := exists_names_of_prefix hcs
  have hmem : c ∈ ns.filterMap componentOf? := by
    obtain ⟨b, bs, rfl⟩ := List.exists_cons_of_ne_nil hne
    have hc : c ∈ bs ++ [c] := List.mem_append_right _ (List.mem_singleton_self c)
    rcases hparts with heq | heq | heq
    · rw [← heq]
      exact List.mem_cons_of_mem _ hc
    · exact (List.cons.inj heq).2 ▸ hc
    · exact (List.cons.inj heq).2 ▸ hc
  obtain ⟨n, hn, hcomponent⟩ := List.mem_filterMap.1 hmem
  rw [nameOf_of_componentOf? hcomponent]
  exact hns n hn

theorem ofComponents_concat (cs : List Component) (c : Component) :
    ofComponents (cs ++ [c]) = (ofComponents cs).join ⟨nameOf c⟩ := by
  rw [ofComponents, List.foldl_append]
  rfl

theorem bytes_ofComponents_ne_nil (hcs : cs <+: p.components) (hne : cs ≠ []) :
    (ofComponents cs).bytes ≠ [] := by
  intro hnil
  have hparts := components_ofComponents hcs
  rw [show ofComponents cs = ⟨[]⟩ from congrArg Path.mk hnil] at hparts
  exact hne hparts.symm

/-- The path above another one is made by all its parts but the last. -/
theorem exists_of_parent? {parent : Path} (h : p.parent? = some parent) :
    ∃ cs, cs <+: p.components ∧ parent = ofComponents cs := by
  rw [parent?] at h
  split at h
  · cases h
  · cases h
  · rename_i c rest _ hreverse
    cases h
    refine ⟨rest.reverse, ?_, rfl⟩
    rw [← List.reverse_reverse p.components, hreverse, List.reverse_cons]
    exact List.prefix_append ..

end Path

namespace Disk

variable {d x y : Disk} {p q : Path} {l m : Location} {n : Name} {found : Found}

/-! ## The directory before a name -/

/-- A path that a name can be put after can be handed to the system. -/
theorem isPassable_of_join (hn : n.IsPart) (h : isPassable (p.join ⟨n⟩) = true) :
    isPassable p = true := by
  have hinit : p.bytes <+: (p.join ⟨n⟩).bytes := by
    rw [Path.join_part hn]
    split
    · rename_i hnil
      rw [hnil]
      exact List.nil_prefix
    · split
      · exact List.prefix_append ..
      · exact List.prefix_append ..
  simp only [isPassable, Bool.and_eq_true, Bool.not_eq_true', List.contains_eq_mem,
    decide_eq_false_iff_not, decide_eq_true_eq] at h ⊢
  exact ⟨fun hzero => h.1 (hinit.subset hzero), hinit.length_le.trans h.2⟩

/-- If a name after a path leads to anything then the path leads to a directory. -/
theorem exists_directory_of_join (hd : d.WellFormed) (hn : n.IsPart) (hne : p.bytes ≠ [])
    (h : d.resolveName (p.join ⟨n⟩) = .ok found) :
    ∃ l, d.place? p = .ok l ∧ d.hasDirectory l = true ∧ ∀ m a, found = .vacant m a → m = l := by
  obtain ⟨-, hpass, hstart, hchase⟩ := locate_eq_ok_iff.1 h
  have hsame : d.startOf (p.join ⟨n⟩) = d.startOf p := by
    rw [startOf, startOf, Path.isAbsolute_join hne hn]
  rw [hsame] at hstart hchase
  rw [Path.segments_join p hn, chase_append _ _ _ _ _ _ (List.cons_ne_nil _ _)] at hchase
  rcases henter : d.enter linkLimit (d.startOf p) p.segments with e | ⟨left, l⟩
  · rw [henter] at hchase
    cases hchase
  refine ⟨l, place?_eq_ok_iff.2 ⟨hne, isPassable_of_join hn hpass, hstart, chase_of_enter henter _⟩,
    hd.hasDirectory_of_enter hstart henter, ?_⟩
  rintro m a rfl
  rw [henter] at hchase
  dsimp only at hchase
  rw [chase_singleton] at hchase
  rcases hturn : d.turn l n with e | k | target
  · rw [hturn] at hchase
    cases e
    all_goals cases hchase
    rfl
  · rw [hturn] at hchase
    cases hchase
  · rw [hturn] at hchase
    cases hchase

/-! ## Directories that are there -/

/-- A directory that was made is there. -/
theorem isDirectory_of_makeDirectory (hd : d.WellFormed)
    (h : (makeDirectory p).run.run d = (.ok (), y)) : y.isDirectory p = true := by
  rcases run_makeDirectory_cases p d with ⟨e, hrun⟩ | ⟨l, n, hfound, hrun⟩
  · cases hrun.symm.trans h
  · cases hrun.symm.trans h
    have hfree : d.IsFree l n := hd.isThere_of_locate hfound
    have hat : (d.put (l ++ [n]) (.directory {})).at? (l ++ [n]) = some (.directory {}) := by
      rw [at?_put, if_pos ⟨rfl, concat_ne_nil _ _⟩]
    exact isDirectory_iff.2 ⟨_, (within_put hfree.at?_eq_none _).isExtended.place?_of_vacant hd
      (fun _ => rfl) hfound hat (by simp) true, hasDirectory_of_at? hat⟩

/-- A directory that was made or found is there. -/
theorem isDirectory_of_makeOrFind (hd : d.WellFormed)
    (h : (makeOrFind p).run.run d = (.ok (), y)) : y.isDirectory p = true := by
  rw [run_makeOrFind] at h
  rcases hmake : (makeDirectory p).run.run d with ⟨e | ⟨⟩, z⟩
  · rw [hmake] at h
    dsimp only at h
    split at h
    · cases h
      assumption
    · cases h
  · rw [hmake] at h
    cases h
    exact isDirectory_of_makeDirectory hd hmake

theorem isDirectory_of_ensureDirectory {above : Action Unit} (hd : d.WellFormed)
    (habove : Keeps WellFormed above) (h : (ensureDirectory p above).run.run d = (.ok (), y)) :
    y.isDirectory p = true := by
  by_cases hmissing : d.resolveName p = .error .notFound
  · have hkept := habove d hd
    rw [run_ensureDirectory_of_notFound hmissing] at h
    rcases hrun : above.run.run d with ⟨e | ⟨⟩, w⟩
    · rw [hrun] at h
      cases h
    · rw [hrun] at h hkept
      exact isDirectory_of_makeOrFind hkept h
  · rw [run_ensureDirectory_of_ne hmissing] at h
    exact isDirectory_of_makeOrFind hd h

theorem isDirectory_of_ensureDirectories (hd : d.WellFormed)
    (h : (ensureDirectories p).run.run d = (.ok (), y)) :
    p.bytes = [] ∨ y.isDirectory p = true := by
  rw [ensureDirectories] at h
  split at h
  · rename_i hempty
    exact .inl (List.isEmpty_iff.1 hempty)
  · refine .inr (isDirectory_of_ensureDirectory hd ?_ h)
    split
    · exact .throw _
    · exact .throw _
    · exact keeps_ensureParts_wellFormed _

/-! ## Once more -/

/-- Doing it again changes nothing, and comes out the same way. -/
def Settles {ε : Type} (action : ExceptT ε (StateM Disk) Unit) : Prop :=
  ∀ x, x.WellFormed → ∀ answer y, action.run.run x = (answer, y) →
    ∃ answer', action.run.run y = (answer', y) ∧ (answer' = .ok () ↔ answer = .ok ())

/-- Only a directory that could be made is a change. -/
theorem run_makeOrFind_error {e : PathError}
    (h : (makeOrFind p).run.run x = (.error e, y)) : y = x := by
  rw [run_makeOrFind] at h
  rcases hmake : (makeDirectory p).run.run x with ⟨e' | ⟨⟩, z⟩
  · rw [hmake] at h
    obtain rfl : z = y := congrArg Prod.snd h
    exact run_makeDirectory_error hmake
  · rw [hmake] at h
    cases h

/-- Where neither the directory nor those above it can be made, nothing is made. -/
theorem run_ensureDirectory_of_stuck {above : Action Unit} {failure : PathError}
    (habove : above.run.run x = (.error failure, x))
    (hp : ∀ found, x.resolveName p ≠ .ok found) :
    ∃ e, (ensureDirectory p above).run.run x = (.error e, x) := by
  by_cases hmissing : x.resolveName p = .error .notFound
  · rw [run_ensureDirectory_of_notFound hmissing, habove]
    exact ⟨_, rfl⟩
  · have hnot : x.isDirectory p = false := by
      rw [Bool.eq_false_iff]
      intro hdir
      obtain ⟨l, hfound⟩ := exists_resolveName_of_isDirectory hdir
      exact hp _ hfound
    rw [run_ensureDirectory_of_ne hmissing, run_makeOrFind, run_makeDirectory]
    rcases hname : x.resolveName p with e | found
    · dsimp only
      rw [hnot]
      exact ⟨_, rfl⟩
    · exact absurd hname (hp found)

/-- Where all is there above, it comes down to one try. -/
theorem run_ensureDirectory_of_above {above : Action Unit}
    (habove : above.run.run x = (.ok (), x)) :
    (ensureDirectory p above).run.run x = (makeOrFind p).run.run x := by
  by_cases hmissing : x.resolveName p = .error .notFound
  · rw [run_ensureDirectory_of_notFound hmissing, habove]
  · exact run_ensureDirectory_of_ne hmissing above

/-- A directory is made again, those above it settling if the path leads anywhere. -/
theorem settles_ensureDirectory {above : Action Unit} (hsettles : Settles above)
    (hkeeps : Keeps WellFormed above)
    (habove : ∀ x, x.WellFormed → ∀ found, x.resolveName p = .ok found →
      above.run.run x = (.ok (), x)) : Settles (ensureDirectory p above) := by
  intro x hx answer y h
  rcases answer with e | ⟨⟩
  case ok =>
    have hdir := isDirectory_of_ensureDirectory hx hkeeps h
    exact ⟨_, run_ensureDirectory_of_isDirectory hdir above, Iff.rfl⟩
  by_cases hmissing : x.resolveName p = .error .notFound
  · have hrun := run_ensureDirectory_of_notFound hmissing above
    rw [h] at hrun
    rcases habv : above.run.run x with ⟨failure | ⟨⟩, w⟩
    · -- What stopped it then stops it now.
      rw [habv] at hrun
      cases hrun
      obtain ⟨answer', hstuck, hsame⟩ := hsettles x hx _ _ habv
      have hy : y.WellFormed := by
        have hkept := hkeeps x hx
        rwa [habv] at hkept
      rcases answer' with failure | ⟨⟩
      · have hp : ∀ found, y.resolveName p ≠ .ok found := by
          intro found hfound
          cases hstuck.symm.trans (habove y hy found hfound)
        obtain ⟨e', hagain⟩ := run_ensureDirectory_of_stuck hstuck hp
        exact ⟨_, hagain, by simp⟩
      · exact absurd (hsame.1 rfl) (by simp)
    · -- All is there above now, and the last try comes out as it did.
      rw [habv] at hrun
      obtain rfl := run_makeOrFind_error hrun.symm
      obtain ⟨answer', hdone, hsame⟩ := hsettles x hx _ _ habv
      obtain rfl := hsame.2 rfl
      exact ⟨_, (run_ensureDirectory_of_above hdone).trans hrun.symm, Iff.rfl⟩
  · have hrun := run_ensureDirectory_of_ne hmissing above
    obtain rfl := run_makeOrFind_error (hrun.symm.trans h)
    exact ⟨_, h, Iff.rfl⟩

theorem settles_of_run_eq {ε : Type} {action : ExceptT ε (StateM Disk) Unit}
    {answer : Except ε Unit}
    (h : ∀ x, action.run.run x = (answer, x)) : Settles action := by
  intro x _ answer' y hrun
  rw [h x] at hrun
  cases hrun
  exact ⟨_, h x, Iff.rfl⟩

theorem isDirectory_root (d : Disk) : d.isDirectory (Path.ofComponents [.root]) = true := by
  refine isDirectory_iff.2 ⟨[], place?_eq_ok_iff.2 ⟨by decide, by decide, rfl, ?_⟩, rfl⟩
  exact chase_nil ..

/-- The directory that some parts make is there, and so it need not be made. -/
theorem run_ensureParts_of_isDirectory {cs : List Component}
    (h : cs ≠ [] → x.isDirectory (Path.ofComponents cs.reverse) = true) :
    (ensureParts cs).run.run x = (.ok (), x) := by
  cases cs using ensureParts.induct with
  | case1 => rfl
  | case2 => exact run_ensureDirectory_of_isDirectory (isDirectory_root x) _
  | case3 c back hne _ =>
    rw [ensureParts]
    · exact run_ensureDirectory_of_isDirectory (h (List.cons_ne_nil _ _)) _
    · exact hne

theorem settles_ensureParts {cs : List Component} (hcs : cs.reverse <+: p.components) :
    Settles (ensureParts cs) := by
  induction cs using ensureParts.induct with
  | case1 => exact settles_of_run_eq fun _ => rfl
  | case2 =>
    exact settles_of_run_eq fun x => run_ensureDirectory_of_isDirectory (isDirectory_root x) _
  | case3 c back hne ih =>
    rw [List.reverse_cons] at hcs
    have hback := (List.prefix_append ..).trans hcs
    rw [ensureParts]
    · refine settles_ensureDirectory (ih hback) (keeps_ensureParts_wellFormed back)
        fun x hx found hfound => run_ensureParts_of_isDirectory fun hnil => ?_
      have hnil : back.reverse ≠ [] := by simpa using hnil
      rw [List.reverse_cons, Path.ofComponents_concat] at hfound
      obtain ⟨l, hplace, hl, -⟩ := exists_directory_of_join hx
        (Path.isPart_nameOf_of_prefix hcs hnil) (Path.bytes_ofComponents_ne_nil hback hnil) hfound
      exact isDirectory_iff.2 ⟨l, hplace, hl⟩
    · exact hne

/-- Making the directories that the first parts of a path make settles them. -/
theorem ensureDirectories_again {cs : List Component} (hcs : cs <+: p.components) :
    Settles (ensureDirectories (Path.ofComponents cs)) := by
  by_cases hnil : cs = []
  · subst hnil
    exact settles_of_run_eq fun _ => rfl
  have hbytes := Path.bytes_ofComponents_ne_nil hcs hnil
  by_cases hroot : cs = [.root]
  · subst hroot
    exact settles_of_run_eq fun x => run_ensureDirectories_of_isDirectory (isDirectory_root x)
  have hparts : ensureDirectories (Path.ofComponents cs) = ensureParts cs.reverse := by
    rw [ensureDirectories, if_neg (by simpa using hbytes), Path.components_ofComponents hcs]
    rcases hreverse : cs.reverse with _ | ⟨c, back⟩
    · exact absurd (List.reverse_eq_nil_iff.1 hreverse) hnil
    · have hcs' : cs = (c :: back).reverse := by rw [← hreverse, List.reverse_reverse]
      have hne : c :: back = [.root] → False := by
        intro heq
        rw [heq] at hcs'
        exact hroot hcs'
      rw [ensureParts, hcs']
      · congr 1
        split
        · contradiction
        · exact absurd ‹_› hne
        · rename_i heq
          cases heq
          rfl
      · rintro rfl rfl
        exact hne rfl
  rw [hparts]
  exact settles_ensureParts (by rwa [List.reverse_reverse])

end Disk

end Codemod
