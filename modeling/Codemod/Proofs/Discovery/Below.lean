import Codemod.Proofs.Discovery.Trail
import Mathlib.Data.List.Count

set_option autoImplicit false

/-! # What a walk comes to

A walk that goes to every directory once comes only to files that can be reached from where it
starts (`isSound_of_mem_below`). It passes over a directory that it has been to before, but whatever
can be reached by way of that one it has come to, or will (`below_explored`): every directory that
is new among the visited ones is explored at the end. The bound on the depth never stops it, since
every step down leads to a directory that has not been visited (`unvisited`). -/

namespace Codemod.Disk

/-- What a walk has come to after one more entry of a directory. -/
def comeTo (d : Disk) (depth : Nat) (above : List Location) (p : Path) (b : Location)
    (reached : List Visit × List Location) (e : Name × Entry) : List Visit × List Location :=
  match d.meet above (p.join ⟨e.1⟩) (b ++ [e.1]) e.2 with
  | .directory q c =>
    if reached.2.contains c || !isPassable c.path then reached
    else
      let (more, visited) := d.below true depth (c :: above) (c :: reached.2) q c
      (reached.1 ++ .directory q c :: more, visited)
  | visit => (reached.1 ++ [visit], reached.2)

theorem below_succ (d : Disk) (depth : Nat) (above visited : List Location) (p : Path)
    (b : Location) :
    d.below true (depth + 1) above visited p b =
      if !(d.rightsAt b).readable then ([.fault (.path p .denied)], visited)
      else (d.sortedChildren b).foldl (d.comeTo depth above p b) ([], visited) := by
  rw [below]
  rfl

variable {d : Disk} {top b c : Location} {above visited : List Location} {p : Path} {name : Name}
  {entry : Entry} {depth : Nat}

theorem mem_sortedChildren : (name, entry) ∈ d.sortedChildren b ↔ (name, entry) ∈ d.children b :=
  List.mem_mergeSort

/-! ## Directories that have been visited -/

theorem subset_below (d : Disk) (depth : Nat) (above visited : List Location) (p : Path)
    (b : Location) : visited ⊆ (d.below true depth above visited p b).2 := by
  induction depth generalizing above visited p b with
  | zero => exact List.Subset.refl _
  | succ depth ih =>
    rw [below_succ]
    split
    · exact List.Subset.refl _
    · refine List.foldlRecOn (motive := fun (reached : List Visit × List Location) =>
        visited ⊆ reached.2) _ _
        (List.Subset.refl _) fun reached hreached e _ => ?_
      rw [comeTo]
      split
      · split
        · exact hreached
        · exact List.Subset.trans hreached
            (List.Subset.trans (List.subset_cons_self ..) (ih ..))
      · exact hreached

/-! ## Soundness -/

/-- A visit is to a file that an entry of a directory within reach leads to, under its name. -/
def Visit.IsSound (d : Disk) (top : Location) : Visit → Prop
  | .file q c => ∃ p b name, d.Reaches top b ∧ d.Leads b name c ∧ q = Path.join p ⟨name⟩ ∧
      ∃ key, d.at? c = some (.file key)
  | .directory .. | .closed _ | .fault _ => True

theorem Trail.reaches (hd : d.WellFormed) (h : d.Trail top above p b) : d.Reaches top b := by
  induction h with
  | start => exact .refl
  | step htrail hchild hplace hdir _ ih =>
    exact ih.tail ⟨hdir, _, leads_of_place?_join hd htrail.place? htrail.hasDirectory hchild hplace⟩

theorem isSound_of_mem_below (hd : d.WellFormed) (htrail : d.Trail top above p b)
    (habove : above ⊆ visited) :
    ∀ v ∈ (d.below true depth above visited p b).1, Visit.IsSound d top v := by
  induction depth generalizing above visited p b with
  | zero => exact fun v hv => nomatch hv
  | succ depth ih =>
    rw [below_succ]
    split
    · rintro v hv
      rw [List.mem_singleton.1 hv]
      trivial
    · refine (List.foldlRecOn (motive := fun (reached : List Visit × List Location) =>
        above ⊆ reached.2 ∧ ∀ v ∈ reached.1, Visit.IsSound d top v) _ _
        ⟨habove, List.forall_mem_nil _⟩ fun reached hreached e he => ?_).2
      obtain ⟨hsub, hsound⟩ := hreached
      have hchild := mem_sortedChildren.1 he
      have hmet := meet_met hd above htrail.place? htrail.hasDirectory hchild
      rw [comeTo]
      rcases hmeet : d.meet above (p.join ⟨e.1⟩) (b ++ [e.1]) e.2 with
        ⟨q, c⟩ | ⟨q, c⟩ | q | fault
      · rw [hmeet] at hmet
        obtain ⟨rfl, hplace, hfile⟩ := hmet
        have hleads := leads_of_place?_join hd htrail.place? htrail.hasDirectory hchild hplace
        refine ⟨hsub, ?_⟩
        simp only [List.forall_mem_append, List.forall_mem_singleton]
        exact ⟨hsound, p, b, e.1, htrail.reaches hd, hleads, rfl, hfile⟩
      · rw [hmeet] at hmet
        obtain ⟨rfl, hplace, hdir⟩ := hmet
        dsimp only
        split
        · exact ⟨hsub, hsound⟩
        · rename_i hnew
          rw [Bool.not_eq_true, Bool.or_eq_false_iff] at hnew
          have hcabove : c ∉ above := fun hc => by
            have hmem := hsub hc
            simp [hmem] at hnew
          have hstep := Trail.step htrail hchild hplace hdir hcabove
          refine ⟨List.Subset.trans hsub
            (List.Subset.trans (List.subset_cons_self ..) (subset_below ..)), ?_⟩
          simp only [List.forall_mem_append, List.forall_mem_cons]
          exact ⟨hsound, trivial, ih hstep (List.cons_subset_cons c hsub)⟩
      · refine ⟨hsub, ?_⟩
        simp only [List.forall_mem_append, List.forall_mem_singleton]
        exact ⟨hsound, trivial⟩
      · refine ⟨hsub, ?_⟩
        simp only [List.forall_mem_append, List.forall_mem_singleton]
        exact ⟨hsound, trivial⟩

/-! ## Completeness -/

/-- What an entry leads to is among what a walk has come to: as a file under its name, or as a
directory that has been visited. The system can be handed the path of the file. -/
def Covers (d : Disk) (seen : List Visit) (visited : List Location) (b : Location) (name : Name) :
    Prop :=
  ∀ c, d.Leads b name c →
    ((∃ key, d.at? c = some (.file key)) →
      isPassable c.path = true ∧ ∃ p, .file (Path.join p ⟨name⟩) c ∈ seen) ∧
    (d.hasDirectory c = true → c ∈ visited)

/-- A walk has come to all that the entries of a directory lead to. -/
def Explored (d : Disk) (seen : List Visit) (visited : List Location) (b : Location) : Prop :=
  ∀ name, d.Covers seen visited b name

theorem Covers.mono {seen seen' : List Visit} {visited visited' : List Location}
    (h : d.Covers seen visited b name) (hseen : seen ⊆ seen') (hvisited : visited ⊆ visited') :
    d.Covers seen' visited' b name := by
  intro c hc
  obtain ⟨hfile, hdir⟩ := h c hc
  exact ⟨fun hkey => ⟨(hfile hkey).1, (hfile hkey).2.imp fun _ hp => hseen hp⟩,
    fun h => hvisited (hdir h)⟩

theorem Explored.mono {seen seen' : List Visit} {visited visited' : List Location}
    (h : d.Explored seen visited b) (hseen : seen ⊆ seen') (hvisited : visited ⊆ visited') :
    d.Explored seen' visited' b := fun name => (h name).mono hseen hvisited

/-- The directories, as often as they have entries. -/
def directories (d : Disk) : List Location :=
  [] :: (d.entries.filter fun e => isDirectoryEntry e.2).map (·.1)

/-- How many directories have not been visited. -/
def unvisited (d : Disk) (visited : List Location) : Nat :=
  d.directories.countP fun l => l ∉ visited

theorem mem_directories (h : d.hasDirectory c = true) : c ∈ d.directories := by
  rw [directories, List.mem_cons]
  by_cases hc : c = []
  · exact .inl hc
  · obtain ⟨rights, hat⟩ := hasDirectory_iff.1 h
    exact .inr (List.mem_map.2 ⟨(c, .directory rights),
      List.mem_filter.2 ⟨mem_entries_of_at? hat hc, rfl⟩, rfl⟩)

theorem unvisited_le {visited' : List Location} (h : visited ⊆ visited') :
    d.unvisited visited' ≤ d.unvisited visited := by
  refine List.countP_mono_left fun l _ hl => ?_
  rw [decide_eq_true_iff] at hl ⊢
  exact fun hmem => hl (h hmem)

theorem unvisited_cons_lt (hc : d.hasDirectory c = true) (hnew : c ∉ visited) :
    d.unvisited (c :: visited) < d.unvisited visited := by
  obtain ⟨before, after, hsplit⟩ := List.append_of_mem (mem_directories hc)
  have hle : ∀ ls : List Location,
      ls.countP (fun l => l ∉ c :: visited) ≤ ls.countP (fun l => l ∉ visited) := fun ls =>
    List.countP_mono_left fun l _ hl => by simp_all
  rw [unvisited, unvisited, hsplit, List.countP_append, List.countP_append,
    List.countP_cons_of_neg (by simp), List.countP_cons_of_pos (by simpa using hnew)]
  have hbefore := hle before
  have hafter := hle after
  omega

/-- The bound on the depth is not reached: a way down comes to no directory twice. -/
theorem unvisited_lt_depthLimit (hc : d.hasDirectory c = true) (hvisited : c ∈ visited) :
    d.unvisited visited < d.depthLimit := by
  have hlt : d.unvisited visited < d.directories.length :=
    List.countP_lt_length_iff.2 ⟨c, mem_directories hc, by simpa using hvisited⟩
  have hlength : d.directories.length ≤ d.entries.length + 1 := by
    rw [directories, List.length_cons, List.length_map]
    exact Nat.succ_le_succ (List.length_filter_le ..)
  have hsquare : d.entries.length + 1 ≤ d.depthLimit := Nat.le_mul_self _
  omega

/-- An entry is covered once the walk has seen the file, or visited the directory, that is met there.
The system follows the longer path, so what is met is what the entry leads to. -/
theorem covers_of_meet (hd : d.WellFormed) (hread : d.Readable) (hfree : d.Unhindered top)
    (htrail : d.Trail top above p b) (hchild : (name, entry) ∈ d.children b) {seen : List Visit}
    (habove : above ⊆ visited)
    (hfile : ∀ c, d.meet above (p.join ⟨name⟩) (b ++ [name]) entry = .file (p.join ⟨name⟩) c →
      .file (Path.join p ⟨name⟩) c ∈ seen)
    (hdir : ∀ c, d.meet above (p.join ⟨name⟩) (b ++ [name]) entry = .directory (p.join ⟨name⟩) c →
      c ∈ visited) : d.Covers seen visited b name := by
  intro c hc
  obtain ⟨hshort, hpass⟩ := hfree above p b name c htrail hc
  obtain ⟨hmeetFile, hmeetDir⟩ :=
    meet_of_leads hd (hread.rightsAt htrail.hasDirectory).2 hchild hc hshort
  refine ⟨fun hkey => ⟨hpass, p, hfile c (hmeetFile hkey)⟩, fun h => ?_⟩
  rcases hmeetDir h with hmet | hmem
  · exact hdir c hmet
  · exact habove hmem

/-- What one more entry leads to is covered once it has been dealt with, and so is what lies in the
directories that are visited for it. -/
theorem comeTo_covers (hd : d.WellFormed) (hread : d.Readable) (hfree : d.Unhindered top)
    (ih : ∀ {above visited p c}, d.Trail top above p c → above ⊆ visited →
      d.unvisited visited < depth →
      ∀ l ∈ (d.below true depth above visited p c).2, l ∉ visited ∨ l = c →
        d.Explored (d.below true depth above visited p c).1
          (d.below true depth above visited p c).2 l)
    (htrail : d.Trail top above p b) (hchild : (name, entry) ∈ d.children b)
    {reached : List Visit × List Location} (habove : above ⊆ reached.2)
    (hdepth : d.unvisited reached.2 < depth + 1) :
    let next := d.comeTo depth above p b reached (name, entry)
    reached.1 ⊆ next.1 ∧ reached.2 ⊆ next.2 ∧ d.Covers next.1 next.2 b name ∧
      ∀ l ∈ next.2, l ∉ reached.2 → d.Explored next.1 next.2 l := by
  have hmet := meet_met hd above htrail.place? htrail.hasDirectory hchild
  have hold : ∀ seen : List Visit, ∀ l ∈ reached.2, l ∉ reached.2 → d.Explored seen reached.2 l :=
    fun _ l hl hnot => absurd hl hnot
  rw [comeTo]
  rcases hmeet : d.meet above (p.join ⟨name⟩) (b ++ [name]) entry with ⟨q, c⟩ | ⟨q, c⟩ | q | fault
  · refine ⟨List.subset_append_left .., List.Subset.refl _,
      covers_of_meet hd hread hfree htrail hchild habove (fun c' h => ?_) (fun c' h => ?_), hold _⟩
    · cases hmeet.symm.trans h
      exact List.mem_append_right _ (List.mem_singleton_self _)
    · cases hmeet.symm.trans h
  · rw [hmeet] at hmet
    obtain ⟨rfl, hplace, hdir⟩ := hmet
    have hleads := leads_of_place?_join hd htrail.place? htrail.hasDirectory hchild hplace
    have hpass := (hfree above p b name c htrail hleads).2
    dsimp only
    by_cases hnew : c ∈ reached.2
    · rw [if_pos (by simp [hnew])]
      refine ⟨List.Subset.refl _, List.Subset.refl _,
        covers_of_meet hd hread hfree htrail hchild habove (fun c' h => ?_) (fun c' h => ?_), hold _⟩
      · cases hmeet.symm.trans h
      · cases hmeet.symm.trans h
        exact hnew
    · rw [if_neg (by simp [hnew, hpass])]
      have hstep := Trail.step htrail hchild hplace hdir fun h => hnew (habove h)
      have hsub := subset_below d depth (c :: above) (c :: reached.2) (p.join ⟨name⟩) c
      have hsub' := List.Subset.trans (List.subset_cons_self ..) hsub
      have hlt := unvisited_cons_lt hdir hnew
      have hexplored := ih hstep (List.cons_subset_cons c habove) (by omega)
      refine ⟨List.subset_append_left .., hsub',
        covers_of_meet hd hread hfree htrail hchild (List.Subset.trans habove hsub')
          (fun c' h => ?_) (fun c' h => ?_), fun l hl hnot => ?_⟩
      · cases hmeet.symm.trans h
      · cases hmeet.symm.trans h
        exact hsub (List.mem_cons_self ..)
      · refine (hexplored l hl ?_).mono (fun v hv => ?_) (List.Subset.refl _)
        · by_cases hlc : l = c
          · exact .inr hlc
          · exact .inl fun h => hnot ((List.mem_cons.1 h).resolve_left hlc)
        · exact List.mem_append_right _ (List.mem_cons_of_mem _ hv)
  · refine ⟨List.subset_append_left .., List.Subset.refl _,
      covers_of_meet hd hread hfree htrail hchild habove (fun c' h => ?_) (fun c' h => ?_), hold _⟩
    · cases hmeet.symm.trans h
    · cases hmeet.symm.trans h
  · refine ⟨List.subset_append_left .., List.Subset.refl _,
      covers_of_meet hd hread hfree htrail hchild habove (fun c' h => ?_) (fun c' h => ?_), hold _⟩
    · cases hmeet.symm.trans h
    · cases hmeet.symm.trans h

/-- The same for several entries, one after another. -/
theorem foldl_comeTo_covers (hd : d.WellFormed) (hread : d.Readable) (hfree : d.Unhindered top)
    (ih : ∀ {above visited p c}, d.Trail top above p c → above ⊆ visited →
      d.unvisited visited < depth →
      ∀ l ∈ (d.below true depth above visited p c).2, l ∉ visited ∨ l = c →
        d.Explored (d.below true depth above visited p c).1
          (d.below true depth above visited p c).2 l)
    (htrail : d.Trail top above p b) (es : List (Name × Entry))
    (hes : ∀ e ∈ es, e ∈ d.children b) (reached : List Visit × List Location)
    (habove : above ⊆ reached.2) (hdepth : d.unvisited reached.2 < depth + 1) :
    let final := es.foldl (d.comeTo depth above p b) reached
    reached.1 ⊆ final.1 ∧ reached.2 ⊆ final.2 ∧ (∀ e ∈ es, d.Covers final.1 final.2 b e.1) ∧
      ∀ l ∈ final.2, l ∉ reached.2 → d.Explored final.1 final.2 l := by
  induction es generalizing reached with
  | nil =>
    exact ⟨List.Subset.refl _, List.Subset.refl _, List.forall_mem_nil _,
      fun l hl hnot => absurd hl hnot⟩
  | cons e es ihes =>
    rw [List.forall_mem_cons] at hes
    obtain ⟨hseen, hvisited, hcovers, hexplored⟩ :=
      comeTo_covers hd hread hfree ih htrail hes.1 habove hdepth
    obtain ⟨hseen', hvisited', hcovers', hexplored'⟩ :=
      ihes hes.2 _ (List.Subset.trans habove hvisited)
        (Nat.lt_of_le_of_lt (unvisited_le hvisited) hdepth)
    refine ⟨List.Subset.trans hseen hseen', List.Subset.trans hvisited hvisited', ?_,
      fun l hl hnot => ?_⟩
    · rw [List.forall_mem_cons]
      exact ⟨hcovers.mono hseen' hvisited', hcovers'⟩
    · by_cases hl' : l ∈ (d.comeTo depth above p b reached e).2
      · exact (hexplored l hl' hnot).mono hseen' hvisited'
      · exact hexplored' l hl hl'

/-- Whatever directory a walk has visited, it has come to all that the entries there lead to. -/
theorem below_explored (hd : d.WellFormed) (hread : d.Readable) (hfree : d.Unhindered top)
    (htrail : d.Trail top above p b) (habove : above ⊆ visited)
    (hdepth : d.unvisited visited < depth) :
    ∀ l ∈ (d.below true depth above visited p b).2, l ∉ visited ∨ l = b →
      d.Explored (d.below true depth above visited p b).1
        (d.below true depth above visited p b).2 l := by
  induction depth generalizing above visited p b with
  | zero => exact absurd hdepth (Nat.not_lt_zero _)
  | succ depth ih =>
    rw [below_succ, if_neg (by simp [(hread.rightsAt htrail.hasDirectory).1])]
    obtain ⟨-, -, hcovers, hexplored⟩ :=
      foldl_comeTo_covers hd hread hfree ih htrail (d.sortedChildren b)
        (fun e he => mem_sortedChildren.1 he) ([], visited) habove hdepth
    rintro l hl (hnew | rfl)
    · exact hexplored l hl hnew
    · intro name c hc
      obtain ⟨entry, hentry⟩ := hc.1
      exact hcovers (name, entry) (mem_sortedChildren.2 hentry) c hc

end Codemod.Disk
