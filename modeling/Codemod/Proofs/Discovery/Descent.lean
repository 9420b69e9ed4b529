import Codemod.Proofs.Discovery.Below

set_option autoImplicit false

/-! # What a walk comes to, name by name

A walk that passes over nothing but loops comes to a path if it can go down to it one directory after
another (`mem_paths_below_iff`). A walk that starts further down on the way comes to it as well: there
are fewer directories above it then (`Sees.drop`, `Sees.mono`). -/

namespace Codemod.Disk

/-- Names that a walk can go through from the directory at a place, down to something that it comes
to. `above` are the directories on the way there, and `p` is the path by which it got there. -/
inductive Sees (d : Disk) : List Location → Path → Location → List Name → Prop
  | last {above : List Location} {p : Path} {b : Location} {name : Name} {entry : Entry}
    (hread : (d.rightsAt b).readable = true) (hchild : (name, entry) ∈ d.children b)
    (hmeet : (d.meet above (p.join ⟨name⟩) (b ++ [name]) entry).path? = some (p.join ⟨name⟩)) :
    Sees d above p b [name]
  | step {above : List Location} {p : Path} {b c : Location} {name : Name} {names : List Name}
    {entry : Entry} (hread : (d.rightsAt b).readable = true)
    (hchild : (name, entry) ∈ d.children b)
    (hmeet : d.meet above (p.join ⟨name⟩) (b ++ [name]) entry = .directory (p.join ⟨name⟩) c)
    (hmore : Sees d (c :: above) (p.join ⟨name⟩) c names) : Sees d above p b (name :: names)

variable {d : Disk} {above above' : List Location} {b c : Location} {p p' q : Path} {name : Name}
  {names ms : List Name} {entry : Entry} {depth : Nat}

/-! ## Walks and names -/

/-- What a walk comes to by way of one entry of a directory. -/
def seenBy (d : Disk) (depth : Nat) (above : List Location) (p : Path) (b : Location)
    (e : Name × Entry) : List Visit :=
  match d.meet above (p.join ⟨e.1⟩) (b ++ [e.1]) e.2 with
  | .directory q c => .directory q c :: (d.below false depth (c :: above) [] q c).1
  | visit => [visit]

/-- What a walk that passes over nothing has come to after one more entry. -/
def comeToAll (d : Disk) (depth : Nat) (above : List Location) (p : Path) (b : Location)
    (reached : List Visit × List Location) (e : Name × Entry) : List Visit × List Location :=
  match d.meet above (p.join ⟨e.1⟩) (b ++ [e.1]) e.2 with
  | .directory q c =>
    let next := d.below false depth (c :: above) (c :: reached.2) q c
    (reached.1 ++ .directory q c :: next.1, next.2)
  | visit => (reached.1 ++ [visit], reached.2)

theorem below_false_succ (d : Disk) (depth : Nat) (above visited : List Location) (p : Path)
    (b : Location) :
    d.below false (depth + 1) above visited p b =
      if !(d.rightsAt b).readable then ([.fault (.path p .denied)], visited)
      else (d.sortedChildren b).foldl (d.comeToAll depth above p b) ([], visited) := by
  rw [below]
  rfl

theorem foldl_comeToAll
    (ih : ∀ above visited p b,
      (d.below false depth above visited p b).1 = (d.below false depth above [] p b).1)
    (es : List (Name × Entry)) (reached : List Visit × List Location) :
    (es.foldl (d.comeToAll depth above p b) reached).1 =
      reached.1 ++ es.flatMap (d.seenBy depth above p b) := by
  induction es generalizing reached with
  | nil => simp
  | cons e es ihes =>
    have hone : (d.comeToAll depth above p b reached e).1 =
        reached.1 ++ d.seenBy depth above p b e := by
      rw [comeToAll, seenBy]
      split
      · dsimp only
        rw [ih _ (_ :: reached.2)]
      · rfl
    rw [List.foldl_cons, ihes, hone, List.flatMap_cons, List.append_assoc]

/-- A walk that passes over nothing does not mind what has been visited. -/
theorem below_false_eq (d : Disk) (depth : Nat) (above visited : List Location) (p : Path)
    (b : Location) :
    (d.below false depth above visited p b).1 = (d.below false depth above [] p b).1 := by
  induction depth generalizing above visited p b with
  | zero => rfl
  | succ depth ih =>
    rw [below_false_succ, below_false_succ]
    split
    · rfl
    · rw [foldl_comeToAll ih, foldl_comeToAll ih]

theorem mem_below_false_succ {v : Visit} (hread : (d.rightsAt b).readable = true) :
    v ∈ (d.below false (depth + 1) above [] p b).1 ↔
      ∃ e ∈ d.children b, v ∈ d.seenBy depth above p b e := by
  rw [below_false_succ, if_neg (by simp [hread]), foldl_comeToAll (below_false_eq d depth),
    List.nil_append, List.mem_flatMap]
  simp only [sortedChildren, List.mem_mergeSort]

/-- Whatever is met is met under the path that was asked for. -/
theorem path?_meet {l : Location} (h : (d.meet above p l entry).path? = some q) : q = p := by
  cases entry with
  | directory rights =>
    simp only [meet] at h
    split at h <;> cases h <;> rfl
  | file key =>
    simp only [meet] at h
    split at h <;> cases h <;> rfl
  | link target =>
    simp only [meet] at h
    split at h
    · cases h
    · split at h
      · cases h
        rfl
      · split at h <;> cases h
        rfl

/-- The paths that a walk comes to are those it can go down to, as far as its depth allows. -/
theorem mem_paths_below_iff :
    (∃ v ∈ (d.below false depth above [] p b).1, v.path? = some q) ↔
      ∃ ns, d.Sees above p b ns ∧ ns.length ≤ depth ∧ q = p.under ns := by
  induction depth generalizing above p b with
  | zero =>
    constructor
    · rintro ⟨v, hv, -⟩
      cases hv
    · rintro ⟨ns, hsees, hlength, -⟩
      cases hsees <;> simp at hlength
  | succ depth ih =>
    constructor
    · rintro ⟨v, hv, hpath⟩
      cases hread : (d.rightsAt b).readable with
      | false =>
        rw [below_false_succ, if_pos (by simp [hread]), List.mem_singleton] at hv
        subst hv
        cases hpath
      | true =>
        obtain ⟨⟨name, entry⟩, hchild, hv⟩ := (mem_below_false_succ hread).1 hv
        have hlast : ∀ w, d.meet above (p.join ⟨name⟩) (b ++ [name]) entry = w →
            w.path? = some q → ∃ ns, d.Sees above p b ns ∧ ns.length ≤ depth + 1 ∧
              q = p.under ns := by
          rintro w rfl hw
          obtain rfl := path?_meet hw
          exact ⟨[name], .last hread hchild hw, by simp, rfl⟩
        rw [seenBy] at hv
        split at hv
        · rename_i q' c hmeet
          have hq' := path?_meet (q := q') (by rw [hmeet]; rfl)
          subst hq'
          rcases List.mem_cons.1 hv with rfl | hv
          · exact hlast _ hmeet hpath
          · obtain ⟨ns, hsees, hlength, rfl⟩ := ih.1 ⟨v, hv, hpath⟩
            exact ⟨name :: ns, .step hread hchild hmeet hsees, Nat.succ_le_succ hlength, rfl⟩
        · rw [List.mem_singleton] at hv
          exact hlast v hv.symm hpath
    · rintro ⟨ns, hsees, hlength, rfl⟩
      cases hsees with
      | @last _ _ _ name entry hread hchild hmeet =>
        refine ⟨d.meet above (p.join ⟨name⟩) (b ++ [name]) entry,
          (mem_below_false_succ hread).2 ⟨_, hchild, ?_⟩, hmeet⟩
        rw [seenBy]
        split
        · rename_i q c hq
          rw [hq]
          exact List.mem_cons_self ..
        · exact List.mem_singleton_self _
      | @step _ _ _ c name ns entry hread hchild hmeet hmore =>
        obtain ⟨v, hv, hpath⟩ := ih.2 ⟨ns, hmore, Nat.le_of_succ_le_succ hlength, rfl⟩
        refine ⟨v, (mem_below_false_succ hread).2 ⟨_, hchild, ?_⟩, hpath⟩
        rw [seenBy, hmeet]
        exact List.mem_cons_of_mem _ hv

/-- The same for a whole walk. -/
theorem mem_paths_walk_iff :
    q ∈ (d.walk p).filterMap Visit.path? ↔
      ∃ b ns, d.place? p = .ok b ∧ d.hasDirectory b = true ∧ d.Sees [b] p b ns ∧
        ns.length ≤ d.depthLimit ∧ q = p.under ns := by
  rw [List.mem_filterMap, walk]
  rcases d.place? p with e | b
  · simp
  · cases hdir : d.hasDirectory b with
    | false => simp [hdir]
    | true => simp [hdir, below_false_eq d d.depthLimit [b] [b], mem_paths_below_iff]

/-! ## Another start -/

/-- A path that leads to the same as another one wherever the system follows that one. -/
structure Serves (d : Disk) (p p' : Path) : Prop where
  isPassable : isPassable p = true → isPassable p' = true
  place? : ∀ c, d.place? p = .ok c → d.place? p' = .ok c

theorem serves_refl (d : Disk) (p : Path) : d.Serves p p := ⟨id, fun _ => id⟩

/-- What is met does not go away where fewer directories are above it. -/
theorem path?_meet_mono {l : Location} (habove : above' ⊆ above) (hserves : d.Serves p p')
    (h : (d.meet above p l entry).path? = some p) :
    (d.meet above' p' l entry).path? = some p' := by
  cases entry with
  | directory rights =>
    simp only [meet]
    split <;> rfl
  | file key =>
    simp only [meet]
    split <;> rfl
  | link target =>
    simp only [meet] at h ⊢
    cases hplace : d.place? p with
    | error e =>
      rw [hplace] at h
      cases h
    | ok c =>
      rw [hplace] at h
      rw [hserves.place? c hplace]
      dsimp only at h ⊢
      split
      · rfl
      · rename_i hdir
        rw [if_neg hdir] at h
        split at h
        · cases h
        · rename_i hnew
          rw [if_neg]
          · rfl
          · simp only [List.contains_eq_mem, decide_eq_true_eq] at hnew ⊢
            exact fun hmem => hnew (habove hmem)

/-- Nor does a directory. -/
theorem meet_mono {l : Location} (habove : above' ⊆ above) (hserves : d.Serves p p')
    (h : d.meet above p l entry = .directory p c) :
    d.meet above' p' l entry = .directory p' c := by
  cases entry with
  | directory rights =>
    simp only [meet] at h ⊢
    split at h
    · rename_i hreach
      rw [Bool.and_eq_true] at hreach
      cases h
      rw [if_pos (by rw [hreach.1, hserves.isPassable hreach.2]; rfl)]
    · cases h
  | file key =>
    simp only [meet] at h
    split at h <;> cases h
  | link target =>
    simp only [meet] at h ⊢
    cases hplace : d.place? p with
    | error e =>
      rw [hplace] at h
      cases h
    | ok c' =>
      rw [hplace] at h
      rw [hserves.place? c' hplace]
      dsimp only at h ⊢
      split at h
      · cases h
      · rename_i hdir
        split at h
        · cases h
        · rename_i hnew
          cases h
          rw [if_neg hdir, if_neg]
          simp only [List.contains_eq_mem, decide_eq_true_eq] at hnew ⊢
          exact fun hmem => hnew (habove hmem)

/-- A walk that got to a directory by a path that serves as well sees what one sees that has more
directories above it. -/
theorem Sees.mono (hserves : ∀ ns, (∀ n ∈ ns, Name.IsPart n) → d.Serves (p.under ns) (p'.under ns))
    (hd : d.WellFormed) (habove : above' ⊆ above) (h : d.Sees above p b names) :
    d.Sees above' p' b names := by
  induction h generalizing above' p' with
  | last hread hchild hmeet =>
    have hname := (hd.isEntryName_of_mem_children hchild).isPart
    exact .last hread hchild (path?_meet_mono habove (hserves [_] (by simpa using hname)) hmeet)
  | step hread hchild hmeet _ ih =>
    have hname := (hd.isEntryName_of_mem_children hchild).isPart
    refine .step hread hchild
      (meet_mono habove (hserves [_] (by simpa using hname)) hmeet)
      (ih (fun ns hns => ?_) (List.cons_subset_cons _ habove))
    exact hserves (_ :: ns) (List.forall_mem_cons.2 ⟨hname, hns⟩)

theorem Sees.ne_nil (h : d.Sees above p b names) : names ≠ [] := by
  cases h <;> exact List.cons_ne_nil _ _

theorem Sees.isEntryName (hd : d.WellFormed) (h : d.Sees above p b names) :
    ∀ n ∈ names, IsEntryName n := by
  induction h with
  | last _ hchild _ => simpa using hd.isEntryName_of_mem_children hchild
  | step _ hchild _ _ ih =>
    exact List.forall_mem_cons.2 ⟨hd.isEntryName_of_mem_children hchild, ih⟩

/-- On the way down a walk is in a directory after each name. -/
theorem Sees.drop (hd : d.WellFormed) (hplace : d.place? p = .ok b)
    (hdir : d.hasDirectory b = true) (hb : b ∈ above) (hne : ms ≠ [])
    (h : d.Sees above p b (names ++ ms)) :
    ∃ above' c, d.place? (p.under names) = .ok c ∧ d.hasDirectory c = true ∧ c ∈ above' ∧
      d.Sees above' (p.under names) c ms := by
  induction names generalizing above p b with
  | nil => exact ⟨above, b, hplace, hdir, hb, h⟩
  | cons n ns ih =>
    have hrest : ns ++ ms ≠ [] := List.append_ne_nil_of_right_ne_nil _ hne
    rw [List.cons_append] at h
    generalize hall : ns ++ ms = rest at h hrest
    cases h with
    | last => exact absurd rfl hrest
    | step hread hchild hmeet hmore =>
      subst hall
      have hmet := meet_met hd above hplace hdir hchild
      rw [hmeet] at hmet
      exact ih hmet.2.1 hmet.2.2 (List.mem_cons_self ..) hmore

end Codemod.Disk
