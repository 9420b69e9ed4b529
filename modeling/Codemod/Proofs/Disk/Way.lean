import Codemod.Proofs.Disk.Run
import Mathlib.Data.List.Infix

set_option autoImplicit false

/-! # Ways without links

Where no links are met, names lead to places that can be read off them (`lexical`), as far as there
are directories. The directories that are missing on such a way can be made, and then every name on
it leads to a directory (`run_ensureDirectories`); nothing else changes. -/

namespace Codemod.Disk

variable {d : Disk} {l : Location} {ns : List Name} {n : Name}

/-- Where names lead from a place if there are no links. -/
def lexical (l : Location) (ns : List Name) : Location :=
  ns.foldl (fun l n => if n = Path.above then l.dropLast else l ++ [n]) l

theorem lexical_append (l : Location) (ns ms : List Name) :
    lexical l (ns ++ ms) = lexical (lexical l ns) ms := List.foldl_append

theorem lexical_cons (l : Location) (n : Name) (ns : List Name) :
    lexical l (n :: ns) = lexical (lexical l [n]) ns := rfl

theorem lexical_above (l : Location) : lexical l [Path.above] = l.dropLast := rfl

theorem lexical_singleton (l : Location) (hn : n ≠ Path.above) : lexical l [n] = l ++ [n] :=
  if_neg hn

theorem lexical_concat (l : Location) (ns : List Name) (hn : n ≠ Path.above) :
    lexical l (ns ++ [n]) = lexical l ns ++ [n] := by
  rw [lexical_append, lexical_singleton _ hn]

theorem lexical_of_ne_above (l : Location) (h : ∀ n ∈ ns, n ≠ Path.above) :
    lexical l ns = l ++ ns := by
  induction ns generalizing l with
  | nil => exact (List.append_nil l).symm
  | cons n ns ih =>
    rw [List.forall_mem_cons] at h
    rw [lexical_cons, lexical_singleton l h.1, ih _ h.2, List.append_assoc, List.singleton_append]

/-- Nothing comes into a place but the names that lead there. -/
theorem mem_lexical {m : Name} (h : m ∈ lexical l ns) : m ∈ l ∨ m ∈ ns := by
  induction ns generalizing l with
  | nil => exact .inl h
  | cons n ns ih =>
    rw [lexical_cons] at h
    rcases ih h with hl | hns
    · by_cases hn : n = Path.above
      · rw [hn, lexical_above] at hl
        exact .inl ((List.dropLast_sublist l).subset hl)
      · rw [lexical_singleton l hn, List.mem_append, List.mem_singleton] at hl
        rcases hl with hl | rfl
        · exact .inl hl
        · exact .inr (List.mem_cons_self ..)
    · exact .inr (List.mem_cons_of_mem _ hns)

/-- Names that stand for the directory above or for an entry. -/
def IsWay (ns : List Name) : Prop := ∀ n ∈ ns, n = Path.above ∨ IsEntryName n

namespace IsWay

theorem isPart (h : IsWay ns) : ∀ n ∈ ns, Name.IsPart n := by
  intro n hn
  rcases h n hn with rfl | hn
  · exact ⟨by decide, by decide⟩
  · exact hn.isPart

theorem here_notMem (h : IsWay ns) : Path.here ∉ ns := by
  intro hn
  rcases h _ hn with habove | hn
  · exact absurd habove (by decide)
  · exact hn.ne_here rfl

theorem tail (h : IsWay (n :: ns)) : IsWay ns := fun m hm => h m (List.mem_cons_of_mem _ hm)

theorem left {ms : List Name} (h : IsWay (ns ++ ms)) : IsWay ns :=
  fun n hn => h n (List.mem_append_left ms hn)

end IsWay

/-- All names on a way lead to directories that can be searched. -/
def Leveled (d : Disk) (l : Location) (ns : List Name) : Prop :=
  ∀ init, init <+: ns →
    ∃ rights, d.at? (lexical l init) = some (.directory rights) ∧ rights.searchable = true

/-- What is there on a way is a directory that can be searched, and written to if the next name is
missing. -/
def Open (d : Disk) (l : Location) (ns : List Name) : Prop :=
  ∀ init, init <+: ns → ∀ entry, d.at? (lexical l init) = some entry →
    ∃ rights, entry = .directory rights ∧ rights.searchable = true ∧
      ∀ n, init ++ [n] <+: ns → d.at? (lexical l (init ++ [n])) = none → rights.writable = true

/-- Whether a way is open can be found out step by step. -/
theorem open_iff :
    d.Open l ns ↔ ∀ init ∈ ns.inits, ∀ entry ∈ d.at? (lexical l init),
      isDirectoryEntry entry = true ∧ (d.rightsAt (lexical l init)).searchable = true ∧
        ∀ n ∈ ns, init ++ [n] <+: ns → d.at? (lexical l (init ++ [n])) = none →
          (d.rightsAt (lexical l init)).writable = true := by
  constructor
  · intro h init hinit entry hat
    obtain ⟨rights, rfl, hsearch, hwrite⟩ := h init ((List.mem_inits _ _).1 hinit) entry hat
    rw [Option.mem_def] at hat
    rw [rightsAt, hat]
    exact ⟨rfl, hsearch, fun n _ => hwrite n⟩
  · intro h init hinit entry hat
    obtain ⟨hdir, hsearch, hwrite⟩ := h init ((List.mem_inits _ _).2 hinit) entry hat
    rw [rightsAt, hat] at hsearch hwrite
    rcases entry with rights | key | target
    · exact ⟨rights, rfl, hsearch, fun n hn =>
        hwrite n (hn.subset (List.mem_append_right init (List.mem_singleton_self n))) hn⟩
    · cases hdir
    · cases hdir

instance (d : Disk) (l : Location) (ns : List Name) : Decidable (d.Open l ns) :=
  decidable_of_iff _ open_iff.symm

namespace Leveled

theorem nil {rights : Rights} (hat : d.at? l = some (.directory rights))
    (hsearch : rights.searchable = true) : d.Leveled l [] := by
  intro init hinit
  rw [List.prefix_nil.1 hinit]
  exact ⟨rights, hat, hsearch⟩

theorem cons {rights : Rights} (hat : d.at? l = some (.directory rights))
    (hsearch : rights.searchable = true) (h : d.Leveled (lexical l [n]) ns) :
    d.Leveled l (n :: ns) := by
  intro init hinit
  rcases init with _ | ⟨m, init⟩
  · exact ⟨rights, hat, hsearch⟩
  · obtain ⟨rfl, hinit'⟩ := List.cons_prefix_cons.1 hinit
    exact h init hinit'

theorem concat {rights : Rights} (h : d.Leveled l ns)
    (hat : d.at? (lexical l (ns ++ [n])) = some (.directory rights))
    (hsearch : rights.searchable = true) : d.Leveled l (ns ++ [n]) := by
  intro init hinit
  rcases List.prefix_concat_iff.1 hinit with rfl | hinit
  · exact ⟨rights, hat, hsearch⟩
  · exact h init hinit

theorem tail (h : d.Leveled l (n :: ns)) : d.Leveled (lexical l [n]) ns := by
  intro init hinit
  exact h (n :: init) (List.cons_prefix_cons.2 ⟨rfl, hinit⟩)

theorem upTo {ms : List Name} (h : d.Leveled l ns) (hms : ms <+: ns) : d.Leveled l ms :=
  fun init hinit => h init (hinit.trans hms)

theorem searchable (h : d.Leveled l ns) : (d.rightsAt (lexical l ns)).searchable = true := by
  obtain ⟨rights, hat, hsearch⟩ := h ns List.prefix_rfl
  rw [rightsAt, hat]
  exact hsearch

theorem hasDirectory (h : d.Leveled l ns) : d.hasDirectory (lexical l ns) = true := by
  obtain ⟨rights, hat, -⟩ := h ns List.prefix_rfl
  exact hasDirectory_of_at? hat

end Leveled

namespace Open

theorem upTo {ms : List Name} (h : d.Open l ns) (hms : ms <+: ns) : d.Open l ms := by
  intro init hinit entry hat
  obtain ⟨rights, heq, hsearch, hwrite⟩ := h init (hinit.trans hms) entry hat
  exact ⟨rights, heq, hsearch, fun n hn => hwrite n (hn.trans hms)⟩

theorem tail (h : d.Open l (n :: ns)) : d.Open (lexical l [n]) ns := by
  intro init hinit entry hat
  obtain ⟨rights, heq, hsearch, hwrite⟩ :=
    h (n :: init) (List.cons_prefix_cons.2 ⟨rfl, hinit⟩) entry hat
  exact ⟨rights, heq, hsearch, fun m hm => hwrite m (List.cons_prefix_cons.2 ⟨rfl, hm⟩)⟩

theorem head (h : d.Open l ns) (hl : d.hasDirectory l = true) :
    ∃ rights, d.at? l = some (.directory rights) ∧ rights.searchable = true := by
  obtain ⟨rights, hat⟩ := hasDirectory_iff.1 hl
  obtain ⟨_, heq, hsearch, -⟩ := h [] List.nil_prefix _ hat
  cases heq
  exact ⟨rights, hat, hsearch⟩

end Open

/-- A name leads where it should if there is a directory. -/
theorem turn_lexical (hsearch : (d.rightsAt l).searchable = true)
    (hn : n = Path.above ∨ IsEntryName n) (hdir : d.hasDirectory (lexical l [n]) = true) :
    d.turn l n = .ok (.place (lexical l [n])) := by
  rcases hn with rfl | hn
  · rw [turn, if_neg (by simpa using hsearch), if_neg (by decide), if_pos rfl]
    rfl
  · rw [lexical_singleton l hn.ne_above] at hdir ⊢
    obtain ⟨rights, hat⟩ := hasDirectory_iff.1 hdir
    rw [turn_of_isOrdinary hsearch hn.toIsOrdinary, hat]

/-- Names that lead into directories that can be searched are entered, dots among them or not. -/
theorem enter_of_leveled_filter (links : Nat) (hway : IsWay (ns.filter (· ≠ Path.here)))
    (h : d.Leveled l (ns.filter (· ≠ Path.here))) :
    d.enter links l ns = .ok (links, lexical l (ns.filter (· ≠ Path.here))) := by
  induction ns generalizing l with
  | nil => rw [enter]; rfl
  | cons n ns ih =>
    have hsearch := (h.upTo List.nil_prefix).searchable
    by_cases hn : n = Path.here
    · rw [List.filter_cons_of_neg (by simpa using hn)] at hway h ⊢
      have hturn : d.turn l n = .ok (.place l) := by
        rw [turn, if_neg (by simpa [lexical] using hsearch), if_pos hn]
      rw [enter, hturn]
      exact ih hway h
    · rw [List.filter_cons_of_pos (by simpa using hn)] at hway h ⊢
      have hturn : d.turn l n = .ok (.place (lexical l [n])) :=
        turn_lexical hsearch (hway n (List.mem_cons_self ..))
          (h.upTo (List.cons_prefix_cons.2 ⟨rfl, List.nil_prefix⟩)).hasDirectory
      rw [enter, hturn]
      exact ih hway.tail h.tail

theorem enter_of_leveled (links : Nat) (hway : IsWay ns) (h : d.Leveled l ns) :
    d.enter links l ns = .ok (links, lexical l ns) := by
  have hfilter : ns.filter (· ≠ Path.here) = ns :=
    List.filter_eq_self.2 fun n hn => decide_eq_true fun heq => hway.here_notMem (heq ▸ hn)
  have henter := enter_of_leveled_filter links (hfilter.symm ▸ hway) (hfilter.symm ▸ h)
  rwa [hfilter] at henter

/-- On an open way all names lead to directories, or the first one that is missing is reported. -/
theorem WellFormed.enter_cases (hd : d.WellFormed) (links : Nat) (hl : d.hasDirectory l = true)
    (hway : IsWay ns) (hopen : d.Open l ns) :
    d.Leveled l ns ∨ d.enter links l ns = .error .notFound := by
  induction ns generalizing l with
  | nil =>
    obtain ⟨rights, hat, hsearch⟩ := hopen.head hl
    exact .inl (.nil hat hsearch)
  | cons n ns ih =>
    obtain ⟨rights, hat, hsearch⟩ := hopen.head hl
    have hsearchable : (d.rightsAt l).searchable = true := by rw [rightsAt, hat]; exact hsearch
    have hn := hway n (List.mem_cons_self ..)
    by_cases hnext : d.hasDirectory (lexical l [n]) = true
    · rcases ih hnext hway.tail hopen.tail with h | h
      · exact .inl (h.cons hat hsearch)
      · right
        simp only [enter, turn_lexical hsearchable hn hnext]
        exact h
    · right
      rcases hn with rfl | hname
      · exact absurd (hd.hasDirectory_dropLast hat) hnext
      · have hnone : d.at? (l ++ [n]) = none := by
          rw [lexical_singleton l hname.ne_above] at hnext
          rw [Option.eq_none_iff_forall_ne_some]
          intro entry hentry
          obtain ⟨_, rfl, -⟩ := hopen [n] (List.cons_prefix_cons.2 ⟨rfl, List.nil_prefix⟩) entry
            (by rw [lexical_singleton l hname.ne_above]; exact hentry)
          exact hnext (hasDirectory_of_at? hentry)
        simp only [enter, turn_of_isOrdinary hsearchable hname.toIsOrdinary, hnone]

/-! ## Absolute paths -/

/-- With an absolute path the system can be handed the path of its first names. -/
theorem isPassable_under {p : Path} (hp : p.isAbsolute = true) (h : isPassable p = true)
    (hns : ns.Sublist p.segments) : isPassable (Path.root.under ns) = true := by
  by_cases hne : ns = []
  · subst hne
    decide
  · have hparts : ∀ n ∈ ns, Name.IsPart n := fun n hn =>
      Path.isPart_of_mem_segments (hns.subset hn)
    have hsub : (Path.root.under ns).bytes.Sublist p.bytes := by
      rw [Path.bytes_under_root hparts hne]
      exact (hns.flatMap _).trans (Path.flatMap_segments_sublist hp)
    rw [isPassable, Bool.and_eq_true, Bool.not_eq_true', decide_eq_true_iff] at h ⊢
    refine ⟨?_, hsub.length_le.trans h.2⟩
    rw [List.contains_eq_mem, decide_eq_false_iff_not] at h ⊢
    exact fun h0 => h.1 (hsub.subset h0)

/-- Looking up a path that leads from the root through some names. -/
theorem locate_of_segments {p : Path} (hp : p.isAbsolute = true) (hpass : isPassable p = true)
    (follow slash : Bool) :
    d.locate p follow slash = d.chase follow linkLimit slash [] p.segments := by
  have hne : p.bytes.isEmpty = false := by
    rw [Path.isAbsolute] at hp
    cases hbytes : p.bytes with
    | nil => rw [hbytes] at hp; cases hp
    | cons => rfl
  have hstart : d.startOf p = [] := if_pos hp
  rw [locate_eq, hne, hpass, hstart]
  rfl

theorem locate_under (hway : IsWay ns) (hpass : isPassable (Path.root.under ns) = true)
    (follow slash : Bool) :
    d.locate (Path.root.under ns) follow slash = d.chase follow linkLimit slash [] ns := by
  rw [locate_of_segments (Path.isAbsolute_under rfl hway.isPart) hpass,
    Path.segments_under _ hway.isPart, Path.segments_root, List.nil_append]

/-- The path of a way through directories leads to one. -/
theorem isDirectory_under (hway : IsWay ns) (hpass : isPassable (Path.root.under ns) = true)
    (h : d.Leveled [] ns) : d.isDirectory (Path.root.under ns) = true := by
  have hplace : d.place? (Path.root.under ns) = .ok (lexical [] ns) := by
    rw [place?, resolve, locate_under hway hpass,
      chase_of_enter (enter_of_leveled linkLimit hway h)]
  obtain ⟨rights, hat, -⟩ := h ns List.prefix_rfl
  simp [isDirectory, status?, hplace, Except.toOption, hat, isDirectoryEntry]

/-! ## Making what is missing -/

/-- Trees that differ in their entries alone. -/
def SameFiles (d d' : Disk) : Prop := d' = { d with entries := d'.entries }

namespace SameFiles

theorem refl (d : Disk) : d.SameFiles d := rfl

theorem trans {d₁ d₂ : Disk} (h₁ : d.SameFiles d₁) (h₂ : d₁.SameFiles d₂) : d.SameFiles d₂ := by
  rw [SameFiles, h₂, h₁]

variable {d' : Disk} (h : d.SameFiles d')
include h

theorem contentOf (key : Nat) : d'.contentOf key = d.contentOf key := by
  rw [h]
  rfl

theorem rightsOf (key : Nat) : d'.rightsOf key = d.rightsOf key := by
  rw [h]
  rfl

theorem nextKey : d'.nextKey = d.nextKey := by rw [h]

theorem workingDirectory : d'.workingDirectory = d.workingDirectory := by rw [h]

end SameFiles

/-- A tree in which directories have been made at some of the places where nothing was. -/
structure Grown (d : Disk) (made : Location → Prop) (d' : Disk) : Prop where
  sameFiles : d.SameFiles d'
  at?_cases : ∀ m, d'.at? m = d.at? m ∨
    d.at? m = none ∧ d'.at? m = some (.directory {}) ∧ made m

namespace Grown

variable {made : Location → Prop} {d₁ d₂ d' : Disk}

theorem refl (d : Disk) (made : Location → Prop) : d.Grown made d :=
  ⟨rfl, fun _ => .inl rfl⟩

theorem trans (h₁ : d.Grown made d₁) (h₂ : d₁.Grown made d₂) : d.Grown made d₂ where
  sameFiles := h₁.sameFiles.trans h₂.sameFiles
  at?_cases := by
    intro m
    rcases h₂.at?_cases m with h | ⟨hnone, hnew, hmade⟩
    · rw [h]
      exact h₁.at?_cases m
    · rcases h₁.at?_cases m with h | ⟨-, h, -⟩
      · exact .inr ⟨h ▸ hnone, hnew, hmade⟩
      · rw [hnone] at h
        cases h

theorem mono {made' : Location → Prop} (h : d.Grown made d') (hsub : ∀ m, made m → made' m) :
    d.Grown made' d' :=
  ⟨h.sameFiles, fun m => (h.at?_cases m).imp_right fun ⟨h₁, h₂, h₃⟩ => ⟨h₁, h₂, hsub m h₃⟩⟩

theorem at?_of_some (h : d.Grown made d') {m : Location} {entry : Entry}
    (hat : d.at? m = some entry) : d'.at? m = some entry := by
  rcases h.at?_cases m with h | ⟨hnone, -⟩
  · rw [h, hat]
  · rw [hat] at hnone
    cases hnone

theorem put {m : Location} (hm : d.at? m = none) (hmade : made m) :
    d.Grown made (d.put m (.directory {})) where
  sameFiles := rfl
  at?_cases := by
    intro m'
    rw [at?_put]
    split
    · rename_i h
      exact .inr ⟨h.1 ▸ hm, rfl, h.1 ▸ hmade⟩
    · exact .inl rfl

/-- What has been made is open. -/
theorem isOpen (h : d.Grown made d') (hopen : d.Open l ns) : d'.Open l ns := by
  intro init hinit entry hat
  rcases h.at?_cases (lexical l init) with hsame | ⟨-, hnew, -⟩
  · rw [hsame] at hat
    obtain ⟨rights, heq, hsearch, hwrite⟩ := hopen init hinit entry hat
    refine ⟨rights, heq, hsearch, fun n hn hnone => hwrite n hn ?_⟩
    rw [Option.eq_none_iff_forall_ne_some]
    intro e he
    rw [h.at?_of_some he] at hnone
    cases hnone
  · rw [hnew] at hat
    cases hat
    exact ⟨{}, rfl, rfl, fun _ _ _ => rfl⟩

theorem leveled (h : d.Grown made d') (hl : d.Leveled l ns) : d'.Leveled l ns := by
  intro init hinit
  obtain ⟨rights, hat, hsearch⟩ := hl init hinit
  exact ⟨rights, h.at?_of_some hat, hsearch⟩

end Grown

/-- A place on a way. -/
def OnWay (l : Location) (ns : List Name) (m : Location) : Prop :=
  ∃ init, init <+: ns ∧ m = lexical l init

theorem OnWay.mono {ms : List Name} {m : Location} (h : OnWay l ms m) (hms : ms <+: ns) :
    OnWay l ns m := by
  obtain ⟨init, hinit, rfl⟩ := h
  exact ⟨init, hinit.trans hms, rfl⟩

/-- Make the directory with some names from the root on, and those above it. -/
def ensureNames (ns : List Name) : Action Unit :=
  ensureParts (.root :: ns.filterMap Path.componentOf?).reverse

/-- The last name on a way gives the first part from behind. -/
theorem reverse_parts_concat (hway : IsWay (ns ++ [n])) :
    ∃ c, (Component.root :: (ns ++ [n]).filterMap Path.componentOf?).reverse =
      c :: (Component.root :: ns.filterMap Path.componentOf?).reverse := by
  obtain ⟨c, hc⟩ := Option.ne_none_iff_exists'.1 (mt Path.componentOf?_eq_none_iff.1
    fun h => hway.here_notMem (h ▸ List.mem_append_right ns (List.mem_singleton_self n)))
  refine ⟨c, ?_⟩
  rw [List.filterMap_append, List.filterMap_cons_some hc, List.filterMap_nil, ← List.cons_append,
    List.reverse_append]
  rfl

theorem ensureNames_nil :
    ensureNames [] = ensureDirectory Path.root (throw .notPossible) := by
  rw [ensureNames, List.filterMap_nil, List.reverse_singleton, ensureParts]
  rfl

theorem ensureNames_concat (hway : IsWay (ns ++ [n])) :
    ensureNames (ns ++ [n]) = ensureDirectory (Path.root.under (ns ++ [n])) (ensureNames ns) := by
  obtain ⟨c, hreverse⟩ := reverse_parts_concat hway
  rw [ensureNames, hreverse, ensureParts, ← hreverse, List.reverse_reverse,
    Path.ofComponents_filterMap hway.here_notMem]
  · rfl
  · -- The root is not the only part.
    intro _ hnil
    simp at hnil

theorem ensureDirectories_under (hway : IsWay ns) :
    ensureDirectories (Path.root.under ns) = ensureNames ns := by
  have hne : (Path.root.under ns).bytes.isEmpty = false := by
    rw [List.isEmpty_eq_false_iff]
    exact Path.bytes_under_ne_nil (List.cons_ne_nil _ _) hway.isPart
  rw [ensureDirectories, hne, Path.components_under_root hway.isPart]
  simp only [Bool.false_eq_true, if_false]
  rcases List.eq_nil_or_concat ns with rfl | ⟨ms, n, rfl⟩
  · exact ensureNames_nil.symm
  · rw [List.concat_eq_append] at hway ⊢
    obtain ⟨c, hreverse⟩ := reverse_parts_concat hway
    rw [ensureNames_concat hway, hreverse]
    split
    · rename_i hnil
      cases hnil
    · rename_i hroot
      simp at hroot
    · rename_i hback
      cases hback
      rfl

/-- The last directory on an open way is there already, or can be made. -/
theorem run_makeDirectory_under (hd : d.WellFormed) (hway : IsWay (ns ++ [n])) (hopen : d.Open [] (ns ++ [n]))
    (hpass : isPassable (Path.root.under (ns ++ [n])) = true) (h : d.Leveled [] ns) :
    (∃ d', (makeDirectory (Path.root.under (ns ++ [n]))).run.run d = (.ok (), d') ∧
        d'.Leveled [] (ns ++ [n]) ∧ d.Grown (OnWay [] (ns ++ [n])) d') ∨
      (makeDirectory (Path.root.under (ns ++ [n]))).run.run d = (.error .alreadyExists, d) ∧
        d.Leveled [] (ns ++ [n]) := by
  have hn := hway n (List.mem_append_right ns (List.mem_singleton_self n))
  have hlast : d.resolveName (Path.root.under (ns ++ [n])) =
      d.chase false linkLimit false (lexical [] ns) [n] := by
    rw [resolveName, locate_under hway hpass, chase_append _ _ _ _ _ _ (List.cons_ne_nil _ _),
      enter_of_leveled linkLimit hway.left h]
  have hthere : ∀ entry, d.at? (lexical [] (ns ++ [n])) = some entry →
      d.turn (lexical [] ns) n = .ok (.place (lexical [] (ns ++ [n]))) ∧
        d.Leveled [] (ns ++ [n]) := by
    intro entry hat
    obtain ⟨rights, rfl, hsearch, -⟩ := hopen (ns ++ [n]) List.prefix_rfl entry hat
    refine ⟨?_, h.concat hat hsearch⟩
    rw [lexical_append] at hat ⊢
    exact turn_lexical h.searchable hn (hasDirectory_of_at? hat)
  rw [run_makeDirectory, hlast, chase_singleton]
  rcases hat : d.at? (lexical [] (ns ++ [n])) with _ | entry
  · left
    obtain ⟨rights, hdir, -⟩ := h ns List.prefix_rfl
    have hname : IsEntryName n := by
      refine hn.resolve_left fun habove => ?_
      -- There is a directory above every directory.
      have habove' := hd.hasDirectory_dropLast hdir
      rw [← lexical_above, ← lexical_append, ← habove, hasDirectory, hat] at habove'
      cases habove'
    obtain ⟨_, heq, -, hwrite⟩ := hopen ns (List.prefix_append ..) _ hdir
    cases heq
    have hwritable : (d.rightsAt (lexical [] ns)).writable = true := by
      rw [rightsAt, hdir]
      exact hwrite n List.prefix_rfl hat
    have hlexical := lexical_concat [] ns hname.ne_above
    have hnone : d.at? (lexical [] ns ++ [n]) = none := hlexical ▸ hat
    have hgrown : d.Grown (OnWay [] (ns ++ [n])) (d.put (lexical [] ns ++ [n]) (.directory {})) :=
      .put hnone ⟨ns ++ [n], List.prefix_rfl, hlexical.symm⟩
    refine ⟨d.put (lexical [] ns ++ [n]) (.directory {}), ?_, ?_, hgrown⟩
    · simp only [turn_of_isOrdinary h.searchable hname.toIsOrdinary, hnone, hwritable, if_true]
    · have hnew : (d.put (lexical [] ns ++ [n]) (.directory {})).at? (lexical [] (ns ++ [n])) =
          some (.directory {}) := by
        rw [hlexical, at?_put, if_pos ⟨rfl, concat_ne_nil _ _⟩]
      exact (hgrown.leveled h).concat hnew rfl
  · right
    obtain ⟨hturn, hleveled⟩ := hthere entry hat
    rw [hturn]
    exact ⟨rfl, hleveled⟩

/-- The last directory on an open way is there after a try. -/
theorem run_makeOrFind_under (hd : d.WellFormed) (hway : IsWay (ns ++ [n]))
    (hopen : d.Open [] (ns ++ [n])) (hpass : isPassable (Path.root.under (ns ++ [n])) = true)
    (h : d.Leveled [] ns) :
    ∃ d', (makeOrFind (Path.root.under (ns ++ [n]))).run.run d = (.ok (), d') ∧
      d'.Leveled [] (ns ++ [n]) ∧ d.Grown (OnWay [] (ns ++ [n])) d' := by
  rcases run_makeDirectory_under hd hway hopen hpass h with ⟨d', hrun, hl', hgrown⟩ | ⟨-, hl'⟩
  · refine ⟨d', ?_, hl', hgrown⟩
    rw [run_makeOrFind, hrun]
  · exact ⟨d, run_makeOrFind_of_isDirectory (isDirectory_under hway hpass hl'), hl', .refl ..⟩

/-- The directories that are missing on an open way can be made. -/
theorem run_ensureNames (hd : d.WellFormed) (hway : IsWay ns) (hopen : d.Open [] ns)
    (hpass : isPassable (Path.root.under ns) = true) :
    ∃ d', (ensureNames ns).run.run d = (.ok (), d') ∧ d'.Leveled [] ns ∧
      d.Grown (OnWay [] ns) d' := by
  induction ns using List.reverseRecOn with
  | nil =>
    obtain ⟨rights, hat, hsearch⟩ := hopen.head (hasDirectory_root d)
    have hl : d.Leveled [] [] := .nil hat hsearch
    rw [ensureNames_nil]
    exact ⟨d, run_ensureDirectory_of_isDirectory (isDirectory_under hway hpass hl) _, hl, .refl ..⟩
  | append_singleton ns n ih =>
    have hsub : IsWay ns := hway.left
    have hopen' : d.Open [] ns := hopen.upTo (List.prefix_append ..)
    have hpass' : isPassable (Path.root.under ns) = true := by
      refine isPassable_under (Path.isAbsolute_under rfl hway.isPart) hpass ?_
      rw [Path.segments_under _ hway.isPart, Path.segments_root, List.nil_append]
      exact List.sublist_append_left ..
    rw [ensureNames_concat hway]
    by_cases hmissing : d.resolveName (Path.root.under (ns ++ [n])) = .error .notFound
    · obtain ⟨d₁, hrun₁, hl₁, hgrown₁⟩ := ih hsub hopen' hpass'
      have hgrown₁' := hgrown₁.mono fun m (h : OnWay [] ns m) => h.mono (List.prefix_append ns [n])
      have hd₁ : d₁.WellFormed := by
        have h := keeps_ensureParts_wellFormed
          (.root :: ns.filterMap Path.componentOf?).reverse d hd
        rw [← ensureNames, hrun₁] at h
        exact h
      obtain ⟨d', hrun, hl', hgrown⟩ :=
        run_makeOrFind_under hd₁ hway (hgrown₁.isOpen hopen) hpass hl₁
      rw [run_ensureDirectory_of_notFound hmissing]
      simp only [hrun₁]
      exact ⟨d', hrun, hl', hgrown₁'.trans hgrown⟩
    · rw [run_ensureDirectory_of_ne hmissing]
      rcases hd.enter_cases linkLimit (hasDirectory_root d) hsub hopen' with hl | hstopped
      · exact run_makeOrFind_under hd hway hopen hpass hl
      · refine absurd ?_ hmissing
        rw [resolveName, locate_under hway hpass, chase_append _ _ _ _ _ _ (List.cons_ne_nil _ _),
          hstopped]

/-- The directories that are missing on an open way can be made by the path of the way. -/
theorem run_ensureDirectories (hd : d.WellFormed) (hway : IsWay ns) (hopen : d.Open [] ns)
    (hpass : isPassable (Path.root.under ns) = true) :
    ∃ d', (ensureDirectories (Path.root.under ns)).run.run d = (.ok (), d') ∧
      d'.Leveled [] ns ∧ d.Grown (OnWay [] ns) d' := by
  rw [ensureDirectories_under hway]
  exact run_ensureNames hd hway hopen hpass

end Codemod.Disk
