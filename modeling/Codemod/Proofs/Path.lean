import Codemod.Path
import Mathlib.Data.List.Basic
import Mathlib.Data.List.Flatten
import Mathlib.Data.List.Induction

set_option autoImplicit false

/-! # Paths and their parts

A path that is put together from names has those names: each one that is joined on is looked up last
(`segments_join`), so a path that leads through names from another path is looked up through them
(`segments_under`). This is how the path of a place, the path above another one and an absolute path
are looked up (`Location.path_eq_under`, `parent?_of_segments`, `absolute_spec`). -/

namespace Codemod

/-! ## Names -/

/-- A name that can stand between slashes. -/
def Name.IsPart (n : Name) : Prop := n ≠ [] ∧ Path.separator ∉ n

namespace Path

/-! ## Names of a path -/

/-- A slash between two rows of bytes keeps their names apart. -/
theorem segments_append (a b : List UInt8) :
    segments ⟨a ++ separator :: b⟩ = segments ⟨a⟩ ++ segments ⟨b⟩ := by
  simp only [segments, Text.split_append, List.filter_append]

theorem segments_of_isPart {n : Name} (h : n.IsPart) : segments ⟨n⟩ = [n] := by
  have hne : n.isEmpty = false := by simpa using h.1
  simp only [segments, Text.split_of_notMem h.2, List.filter_cons, hne, Bool.not_false, if_true,
    List.filter_nil]

theorem isPart_of_mem_segments {p : Path} {n : Name} (h : n ∈ p.segments) : n.IsPart := by
  rw [segments, List.mem_filter] at h
  exact ⟨by simpa using h.2, Text.notMem_of_mem_split h.1⟩

theorem not_isAbsolute_of_isPart {n : Name} (h : n.IsPart) : isAbsolute ⟨n⟩ = false := by
  cases n with
  | nil => exact absurd rfl h.1
  | cons b n =>
    have hb : b ≠ separator := fun hb => h.2 (hb ▸ List.mem_cons_self ..)
    simpa [isAbsolute] using hb

/-- The path of a name after another path. -/
theorem join_part {n : Name} (hn : n.IsPart) (p : Path) :
    p.join ⟨n⟩ =
      if p.bytes = [] then ⟨n⟩
      else if p.endsInSeparator then ⟨p.bytes ++ n⟩ else ⟨p.bytes ++ separator :: n⟩ := by
  rw [join, not_isAbsolute_of_isPart hn]
  simp only [Bool.false_eq_true, if_false, List.isEmpty_iff]

theorem exists_bytes_of_endsInSeparator {p : Path} (h : p.endsInSeparator = true) :
    ∃ a, p = ⟨a ++ [separator]⟩ := by
  rw [endsInSeparator, beq_iff_eq, List.getLast?_eq_some_iff] at h
  obtain ⟨a, ha⟩ := h
  exact ⟨a, congrArg Path.mk ha⟩

theorem segments_nil : segments ⟨[]⟩ = [] := rfl

/-- A name after a path is looked up last. -/
theorem segments_join (p : Path) {n : Name} (hn : n.IsPart) :
    (p.join ⟨n⟩).segments = p.segments ++ [n] := by
  rw [join_part hn]
  split
  · rename_i hp
    rw [show p = ⟨[]⟩ from congrArg Path.mk hp, segments_nil, segments_of_isPart hn,
      List.nil_append]
  · split
    · rename_i hends
      obtain ⟨a, rfl⟩ := exists_bytes_of_endsInSeparator hends
      rw [List.append_assoc, List.singleton_append, segments_append, segments_append,
        segments_nil, List.append_nil, segments_of_isPart hn]
    · rw [segments_append, segments_of_isPart hn]

theorem endsInSeparator_append {n : Name} (hn : n.IsPart) (a : List UInt8) :
    endsInSeparator ⟨a ++ n⟩ = false := by
  rw [endsInSeparator, List.getLast?_append_of_ne_nil _ hn.1, beq_eq_false_iff_ne]
  exact fun h => hn.2 (List.mem_of_getLast? h)

theorem endsInSeparator_join (p : Path) {n : Name} (hn : n.IsPart) :
    (p.join ⟨n⟩).endsInSeparator = false := by
  rw [join_part hn]
  split
  · exact endsInSeparator_append hn []
  · split
    · exact endsInSeparator_append hn p.bytes
    · rw [← List.singleton_append, ← List.append_assoc]
      exact endsInSeparator_append hn _

theorem isAbsolute_join {p : Path} (hp : p.bytes ≠ []) {n : Name} (hn : n.IsPart) :
    (p.join ⟨n⟩).isAbsolute = p.isAbsolute := by
  have hhead : ∀ b, (p.bytes ++ b).head? = p.bytes.head? := fun b =>
    List.head?_append_of_ne_nil _ hp
  rw [join_part hn, if_neg hp]
  split
  · rw [isAbsolute, isAbsolute, hhead]
  · rw [isAbsolute, isAbsolute, hhead]

theorem bytes_join_ne_nil (p : Path) {n : Name} (hn : n.IsPart) : (p.join ⟨n⟩).bytes ≠ [] := by
  rw [join_part hn]
  split
  · exact hn.1
  · split
    · exact List.append_ne_nil_of_right_ne_nil _ hn.1
    · exact List.append_ne_nil_of_right_ne_nil _ (List.cons_ne_nil _ _)

/-! ## Paths below a path -/

/-- The path that leads through some names, one after another, from a path on. -/
def under (p : Path) (ns : List Name) : Path := ns.foldl (fun p n => p.join ⟨n⟩) p

/-- The path of the root. -/
def root : Path := ⟨[separator]⟩

theorem under_append (p : Path) (ns ms : List Name) :
    p.under (ns ++ ms) = (p.under ns).under ms := by
  rw [under, List.foldl_append, under, under]

theorem bytes_under_ne_nil {p : Path} (hp : p.bytes ≠ []) {ns : List Name}
    (hns : ∀ n ∈ ns, Name.IsPart n) : (p.under ns).bytes ≠ [] := by
  induction ns generalizing p with
  | nil => exact hp
  | cons n ns ih =>
    rw [List.forall_mem_cons] at hns
    exact ih (bytes_join_ne_nil p hns.1) hns.2

theorem segments_under (p : Path) {ns : List Name} (hns : ∀ n ∈ ns, Name.IsPart n) :
    (p.under ns).segments = p.segments ++ ns := by
  induction ns generalizing p with
  | nil => exact (List.append_nil _).symm
  | cons n ns ih =>
    rw [List.forall_mem_cons] at hns
    have h := ih (p.join ⟨n⟩) hns.2
    rw [segments_join p hns.1, List.append_assoc] at h
    exact h

theorem isAbsolute_under {p : Path} (hp : p.isAbsolute = true) {ns : List Name}
    (hns : ∀ n ∈ ns, Name.IsPart n) : (p.under ns).isAbsolute = true := by
  induction ns generalizing p with
  | nil => exact hp
  | cons n ns ih =>
    rw [List.forall_mem_cons] at hns
    have hne : p.bytes ≠ [] := by
      intro h
      rw [isAbsolute, h] at hp
      cases hp
    exact ih ((isAbsolute_join hne hns.1).trans hp) hns.2

theorem endsInSeparator_under (p : Path) {ns : List Name} (hns : ∀ n ∈ ns, Name.IsPart n)
    (hne : ns ≠ []) : (p.under ns).endsInSeparator = false := by
  obtain ⟨ms, n, rfl⟩ := (List.eq_nil_or_concat ns).resolve_left hne
  rw [List.concat_eq_append, under_append]
  exact endsInSeparator_join _ (hns n (by simp))

theorem not_isAbsolute_under {p : Path} (hne : p.bytes ≠ []) (hp : p.isAbsolute = false)
    {ns : List Name} (hns : ∀ n ∈ ns, Name.IsPart n) : (p.under ns).isAbsolute = false := by
  induction ns generalizing p with
  | nil => exact hp
  | cons n ns ih =>
    rw [List.forall_mem_cons] at hns
    exact ih (bytes_join_ne_nil p hns.1) ((isAbsolute_join hne hns.1).trans hp) hns.2

/-- Names after a path that does not end in a slash have slashes before them. -/
theorem bytes_under {p : Path} (hne : p.bytes ≠ []) (hends : p.endsInSeparator = false)
    {ns : List Name} (hns : ∀ n ∈ ns, Name.IsPart n) :
    (p.under ns).bytes = p.bytes ++ ns.flatMap (separator :: ·) := by
  induction ns generalizing p with
  | nil => exact (List.append_nil _).symm
  | cons n ns ih =>
    rw [List.forall_mem_cons] at hns
    have hjoin : (p.join ⟨n⟩).bytes = p.bytes ++ separator :: n := by
      rw [join_part hns.1, if_neg hne, if_neg (by simp [hends])]
    have h := ih (bytes_join_ne_nil p hns.1) (endsInSeparator_join p hns.1) hns.2
    rw [hjoin, List.append_assoc] at h
    exact h

/-- A path that leads from the root through names has them after slashes. -/
theorem bytes_under_root {ns : List Name} (hns : ∀ n ∈ ns, Name.IsPart n) (hne : ns ≠ []) :
    (root.under ns).bytes = ns.flatMap (separator :: ·) := by
  induction ns using List.reverseRecOn with
  | nil => exact absurd rfl hne
  | append_singleton ns n ih =>
    rw [List.forall_mem_append, List.forall_mem_singleton] at hns
    have hbytes : (root.under ns).bytes ≠ [] := bytes_under_ne_nil (List.cons_ne_nil _ _) hns.1
    have hjoin : root.under (ns ++ [n]) = (root.under ns).join ⟨n⟩ := under_append root ns [n]
    rw [hjoin, join_part hns.2, if_neg hbytes, List.flatMap_append, List.flatMap_singleton]
    by_cases hne : ns = []
    · subst hne
      rfl
    · rw [if_neg (by rw [endsInSeparator_under _ hns.1 hne]; decide), ih hns.1 hne]

/-- The names of an absolute path and the slashes before them are all in its bytes. -/
theorem flatMap_segments_sublist {p : Path} (hp : p.isAbsolute = true) :
    (p.segments.flatMap (separator :: ·)).Sublist p.bytes := by
  rcases p with ⟨_ | ⟨b, rest⟩⟩
  · cases hp
  · rw [isAbsolute, List.head?_cons, beq_iff_eq, Option.some.injEq] at hp
    subst hp
    have hsegments : segments ⟨separator :: rest⟩ =
        (Text.split separator rest).filter fun s => !s.isEmpty := by
      rw [segments, Text.split, if_pos rfl, List.filter_cons_of_neg (by simp)]
    rw [hsegments]
    exact (List.filter_sublist.flatMap _).trans (Text.flatMap_split separator rest ▸ .refl _)

/-! ## Components -/

theorem nameOf_of_componentOf? {n : Name} {c : Component} (h : componentOf? n = some c) :
    nameOf c = n := by
  rw [componentOf?] at h
  split at h
  · cases h
  · split at h
    · rename_i habove
      cases h
      exact habove.symm
    · cases h
      rfl

theorem componentOf?_eq_none_iff {n : Name} : componentOf? n = none ↔ n = here := by
  rw [componentOf?]
  split
  · simp_all
  · split <;> simp_all

theorem map_nameOf_filterMap {ns : List Name} (h : here ∉ ns) :
    (ns.filterMap componentOf?).map nameOf = ns := by
  induction ns with
  | nil => rfl
  | cons n ns ih =>
    rw [List.mem_cons, not_or] at h
    obtain ⟨c, hc⟩ := Option.ne_none_iff_exists'.1
      (mt componentOf?_eq_none_iff.1 (Ne.symm h.1))
    rw [List.filterMap_cons_some hc, List.map_cons, nameOf_of_componentOf? hc, ih h.2]

theorem components_of_isAbsolute {p : Path} (h : p.isAbsolute = true) :
    p.components = .root :: p.segments.filterMap componentOf? := by
  simp only [components, h, if_true, List.singleton_append]

/-- The last name of a path, if it does not mean a directory around it. -/
theorem fileName?_of_segments {p : Path} {ns : List Name} {n : Name}
    (hsegments : p.segments = ns ++ [n]) (hhere : n ≠ here) (habove : n ≠ above) :
    p.fileName? = some n := by
  have hn : componentOf? n = some (.normal n) := by
    rw [componentOf?, if_neg hhere, if_neg habove]
  rw [fileName?, components, hsegments, List.filterMap_append, List.filterMap_cons_some hn,
    List.filterMap_nil, ← List.append_assoc, List.getLast?_concat]

/-- The path with given components leads from the root through their names. -/
theorem ofComponents_root (cs : List Component) :
    ofComponents (.root :: cs) = root.under (cs.map nameOf) := by
  rw [ofComponents, List.foldl_cons, under, List.foldl_map]
  rfl

theorem ofComponents_filterMap {ns : List Name} (h : here ∉ ns) :
    ofComponents (.root :: ns.filterMap componentOf?) = root.under ns := by
  rw [ofComponents_root, map_nameOf_filterMap h]

theorem segments_root : root.segments = [] := rfl

theorem components_under_root {ns : List Name} (hns : ∀ n ∈ ns, Name.IsPart n) :
    (root.under ns).components = .root :: ns.filterMap componentOf? := by
  rw [components_of_isAbsolute (isAbsolute_under rfl hns), segments_under _ hns, segments_root,
    List.nil_append]

/-- The path above one that leads from the root through some names. -/
theorem parent?_of_segments {p : Path} (hp : p.isAbsolute = true) {ns : List Name} {n : Name}
    (hsegments : p.segments = ns ++ [n]) (hhere : here ∉ ns ++ [n]) :
    p.parent? = some (root.under ns) := by
  rw [List.mem_append, List.mem_singleton, not_or] at hhere
  obtain ⟨c, hc⟩ := Option.ne_none_iff_exists'.1
    (mt componentOf?_eq_none_iff.1 (Ne.symm hhere.2))
  have hcomponents : p.components = (.root :: ns.filterMap componentOf?) ++ [c] := by
    rw [components_of_isAbsolute hp, hsegments, List.filterMap_append, List.filterMap_cons_some hc,
      List.filterMap_nil]
    rfl
  rw [← ofComponents_filterMap hhere.1, parent?, hcomponents, List.reverse_append]
  split
  · rename_i h
    cases h
  · rename_i h
    -- The root stands last, so the list is never the root alone.
    have hlength := congrArg List.length h
    simp at hlength
  · rename_i h
    cases h
    exact congrArg (fun cs => some (ofComponents cs)) (List.reverse_reverse _)

/-! ## Bytes and names -/

/-- Every byte but a slash is in one of the names. -/
theorem exists_mem_segments {p : Path} {b : UInt8} (hb : b ∈ p.bytes) (hne : b ≠ separator) :
    ∃ n ∈ p.segments, b ∈ n := by
  have hsplit : b ∈ (Text.split separator p.bytes).flatMap (separator :: ·) := by
    rw [Text.flatMap_split]
    exact List.mem_cons_of_mem _ hb
  obtain ⟨n, hn, hmem⟩ := List.mem_flatMap.1 hsplit
  have hbn : b ∈ n := (List.mem_cons.1 hmem).resolve_left hne
  exact ⟨n, List.mem_filter.2 ⟨hn, by simpa using List.ne_nil_of_mem hbn⟩, hbn⟩

theorem mem_bytes_of_mem_segments {p : Path} {n : Name} {b : UInt8} (hn : n ∈ p.segments)
    (hb : b ∈ n) : b ∈ p.bytes := by
  have hne : b ≠ separator := fun h => (isPart_of_mem_segments hn).2 (h ▸ hb)
  have hsplit : b ∈ (Text.split separator p.bytes).flatMap (separator :: ·) :=
    List.mem_flatMap.2 ⟨n, List.mem_of_mem_filter hn, List.mem_cons_of_mem _ hb⟩
  rw [Text.flatMap_split] at hsplit
  exact (List.mem_cons.1 hsplit).resolve_left hne

theorem mem_segments_of_mem_components {p : Path} {n : Name} (h : .normal n ∈ p.components) :
    n ∈ p.segments := by
  rw [components, List.mem_append] at h
  rcases h with h | h
  · split at h
    · simp at h
    · split at h <;> simp at h
  · obtain ⟨m, hm, hcomponent⟩ := List.mem_filterMap.1 h
    obtain rfl : n = m := nameOf_of_componentOf? hcomponent
    exact hm

/-- The parts before a slash do not depend on what comes after it. -/
theorem components_append (a u : List UInt8) :
    components ⟨a ++ separator :: u⟩ =
      components ⟨a ++ [separator]⟩ ++ (segments ⟨u⟩).filterMap componentOf? := by
  have habsolute : isAbsolute ⟨a ++ separator :: u⟩ = isAbsolute ⟨a ++ [separator]⟩ := by
    cases a <;> rfl
  have hhead : isAbsolute ⟨a ++ [separator]⟩ = false →
      (segments ⟨a⟩ ++ segments ⟨u⟩).head? = (segments ⟨a⟩ ++ []).head? := by
    intro hrelative
    rcases a with _ | ⟨b, a⟩
    · cases hrelative
    · have hb : b ≠ separator := by simpa [isAbsolute] using hrelative
      obtain ⟨n, hn, -⟩ := exists_mem_segments (p := ⟨b :: a⟩) (List.mem_cons_self ..) hb
      rw [List.head?_append_of_ne_nil _ (List.ne_nil_of_mem hn), List.append_nil]
  rw [components, components, habsolute, segments_append, segments_append, segments_nil,
    List.filterMap_append, List.append_nil, ← List.append_assoc]
  cases h : isAbsolute ⟨a ++ [separator]⟩ with
  | true => rfl
  | false => rw [hhead h, List.append_nil]

/-- Bytes before the first slash belong to the first name. -/
theorem exists_segments_eq_cons {a : List UInt8} (ha : separator ∉ a) {b : UInt8}
    (hb : b ≠ separator) (u : List UInt8) :
    ∃ n ns, segments ⟨a ++ b :: u⟩ = n :: ns ∧ b ∈ n := by
  have hsplit : ∃ n ns, Text.split separator (a ++ b :: u) = n :: ns ∧ b ∈ n := by
    induction a with
    | nil =>
      obtain ⟨part, more, hmore⟩ := List.exists_cons_of_ne_nil (Text.split_ne_nil separator u)
      exact ⟨b :: part, more, by rw [List.nil_append, Text.split, if_neg hb, hmore],
        List.mem_cons_self ..⟩
    | cons c a ih =>
      rw [List.mem_cons, not_or] at ha
      obtain ⟨n, ns, hn, hmem⟩ := ih ha.2
      exact ⟨c :: n, ns, by rw [List.cons_append, Text.split, if_neg (Ne.symm ha.1), hn],
        List.mem_cons_of_mem _ hmem⟩
  obtain ⟨n, ns, hn, hmem⟩ := hsplit
  refine ⟨n, ns.filter (fun s => !s.isEmpty), ?_, hmem⟩
  rw [segments, hn, List.filter_cons_of_pos (by simpa using List.ne_nil_of_mem hmem)]

theorem segments_ne_nil {p : Path} (hne : p.bytes ≠ []) (hends : p.endsInSeparator = false) :
    p.segments ≠ [] := by
  obtain ⟨init, b, hbytes⟩ := (List.eq_nil_or_concat p.bytes).resolve_left hne
  rw [endsInSeparator, hbytes, List.concat_eq_append, List.getLast?_concat, beq_eq_false_iff_ne,
    ne_eq, Option.some.injEq] at hends
  obtain ⟨n, hn, -⟩ := exists_mem_segments (p := p) (b := b) (by simp [hbytes]) hends
  exact List.ne_nil_of_mem hn

/-- A path that starts with some bytes up to a slash has their names and parts first, and more after
them. -/
theorem exists_names_of_start {start : List UInt8} {p : Path}
    (hstart : start = [] ∨ ∃ init, start = init ++ [separator]) (hbegins : start <+: p.bytes)
    (hne : p.bytes ≠ []) (hends : p.endsInSeparator = false) :
    (∃ names, names ≠ [] ∧ p.segments = segments ⟨start⟩ ++ names) ∧
      components ⟨start⟩ <+: p.components := by
  obtain ⟨more, hbytes⟩ := hbegins
  have hp : p = ⟨start ++ more⟩ := congrArg Path.mk hbytes.symm
  subst hp
  rcases hstart with rfl | ⟨init, rfl⟩
  · exact ⟨⟨_, segments_ne_nil hne hends, rfl⟩, List.nil_prefix⟩
  · rw [List.append_assoc, List.singleton_append] at hends ⊢
    have hmore : segments ⟨more⟩ ≠ [] := by
      have hnil : more ≠ [] := by
        rintro rfl
        rw [endsInSeparator, List.getLast?_concat, beq_self_eq_true] at hends
        cases hends
      refine segments_ne_nil hnil ?_
      rw [endsInSeparator, List.getLast?_append_of_ne_nil _ (List.cons_ne_nil _ _),
        List.getLast?_cons_of_ne_nil hnil] at hends
      exact hends
    rw [segments_append, segments_append, segments_nil, List.append_nil]
    exact ⟨⟨_, hmore, rfl⟩, components_append init more ▸ List.prefix_append ..⟩

theorem isAbsolute_of_start {start : List UInt8} {p : Path} (hbegins : start <+: p.bytes)
    (hne : start ≠ []) : isAbsolute ⟨start⟩ = p.isAbsolute := by
  obtain ⟨more, hmore⟩ := hbegins
  rw [isAbsolute, isAbsolute, ← hmore, List.head?_append_of_ne_nil _ hne]

/-! ## Paths that consist of names -/

theorem ofComponents_eq_under (cs : List Component) :
    ofComponents cs = (⟨[]⟩ : Path).under (cs.map nameOf) := by
  rw [ofComponents, under, List.foldl_map]

/-- The names of the parts of a relative path are its names, if only the first one may be a dot. -/
theorem map_nameOf_components {p : Path} (hrelative : p.isAbsolute = false)
    (hhere : here ∉ p.segments.tail) : p.components.map nameOf = p.segments := by
  rw [components, hrelative, if_neg Bool.false_ne_true]
  rcases hsegments : p.segments with _ | ⟨n, ns⟩
  · rfl
  · rw [hsegments, List.tail_cons] at hhere
    by_cases hn : n = here
    · subst hn
      rw [List.head?_cons, if_pos rfl, List.filterMap_cons_none (componentOf?_eq_none_iff.2 rfl),
        List.map_append, map_nameOf_filterMap hhere]
      rfl
    · rw [List.head?_cons, if_neg (by simpa using hn), List.nil_append, map_nameOf_filterMap]
      rw [List.mem_cons, not_or]
      exact ⟨Ne.symm hn, hhere⟩

theorem under_nil_cons {n : Name} (hn : n.IsPart) (ns : List Name) :
    (⟨[]⟩ : Path).under (n :: ns) = (⟨n⟩ : Path).under ns := by
  rw [under, List.foldl_cons, join_part hn, if_pos rfl, under]

/-- A path that consists of names only. -/
theorem under_nil_spec {ns : List Name} (hns : ∀ n ∈ ns, Name.IsPart n) (hne : ns ≠ []) :
    ((⟨[]⟩ : Path).under ns).bytes ≠ [] ∧ isAbsolute ((⟨[]⟩ : Path).under ns) = false ∧
      ((⟨[]⟩ : Path).under ns).segments = ns ∧
      endsInSeparator ((⟨[]⟩ : Path).under ns) = false := by
  refine ⟨?_, ?_, segments_under _ hns, endsInSeparator_under _ hns hne⟩
  all_goals
    obtain ⟨n, ns, rfl⟩ := List.exists_cons_of_ne_nil hne
    rw [List.forall_mem_cons] at hns
    rw [under_nil_cons hns.1]
  · exact bytes_under_ne_nil hns.1.1 hns.2
  · exact not_isAbsolute_under hns.1.1 (not_isAbsolute_of_isPart hns.1) hns.2

/-- A path through names that starts with a dot. -/
theorem under_here_spec {ns : List Name} (hns : ∀ n ∈ ns, Name.IsPart n) (hne : ns ≠ []) :
    ((⟨here⟩ : Path).under ns).bytes = here ++ separator :: ((⟨[]⟩ : Path).under ns).bytes ∧
      isAbsolute ((⟨here⟩ : Path).under ns) = false ∧
      ((⟨here⟩ : Path).under ns).segments = here :: ns ∧
      endsInSeparator ((⟨here⟩ : Path).under ns) = false := by
  refine ⟨?_, not_isAbsolute_under (by decide) rfl hns, segments_under _ hns,
    endsInSeparator_under _ hns hne⟩
  obtain ⟨n, ns, rfl⟩ := List.exists_cons_of_ne_nil hne
  have hparts := List.forall_mem_cons.1 hns
  rw [under_nil_cons hparts.1, bytes_under (p := ⟨here⟩) (List.cons_ne_nil _ _) (by decide) hns,
    bytes_under hparts.1.1 (endsInSeparator_append hparts.1 []) hparts.2, List.flatMap_cons]
  rfl

/-- The same path without the dot. -/
theorem stripHere?_under {ns : List Name} (hns : ∀ n ∈ ns, Name.IsPart n) (hne : ns ≠ [])
    (hhere : here ∉ ns) :
    stripHere? ((⟨here⟩ : Path).under ns) = some ((⟨[]⟩ : Path).under ns) := by
  obtain ⟨-, hrelative, hsegments, -⟩ := under_here_spec hns hne
  have hcomponents : ((⟨here⟩ : Path).under ns).components =
      .current :: ns.filterMap componentOf? := by
    rw [components, hrelative, hsegments, List.head?_cons, if_pos rfl,
      List.filterMap_cons_none (componentOf?_eq_none_iff.2 rfl)]
    rfl
  rw [stripHere?, hcomponents]
  dsimp only
  rw [ofComponents_eq_under, map_nameOf_filterMap hhere]

/-! ## Absolute paths -/

/-- The names that lead from the root to what a path leads to from a directory. -/
def namesFrom (p : Path) (directory : Location) : List Name :=
  (if p.isAbsolute then [] else directory) ++ p.segments.filter (· ≠ here)

theorem partOf?_componentOf? (n : Name) :
    (componentOf? n).bind partOf? = if n = here then none else some ⟨n⟩ := by
  rw [componentOf?]
  split
  · rfl
  · split
    · rename_i habove
      rw [habove]
      rfl
    · rfl

theorem filterMap_components (p : Path) :
    p.components.filterMap partOf? = (p.segments.filter (· ≠ here)).map Path.mk := by
  have hsegments : (p.segments.filterMap componentOf?).filterMap partOf? =
      (p.segments.filter (· ≠ here)).map Path.mk := by
    rw [List.filterMap_filterMap]
    induction p.segments with
    | nil => rfl
    | cons n ns ih =>
      rw [List.filterMap_cons, partOf?_componentOf?, ih]
      by_cases hn : n = here
      · simp [hn]
      · simp [hn]
  rw [components, List.filterMap_append, hsegments]
  split
  · rfl
  · split
    · rfl
    · rfl

end Path

theorem Location.path_eq_under (l : Location) : l.path = Path.root.under l := by
  rw [Location.path, Path.ofComponents_root, List.map_map]
  exact congrArg Path.root.under (List.map_id'' (fun _ => rfl) l)

namespace Path

/-- An absolute path is put together from names, whatever comes before them. -/
theorem exists_absolute_eq_under {p : Path} (hends : p.endsInSeparator = false)
    (directory : Path) :
    ∃ start : Path, p.absolute directory = start.under (p.segments.filter (· ≠ here)) := by
  simp only [absolute, filterMap_components, List.foldl_map, hends, Bool.false_eq_true, if_false]
  exact ⟨_, rfl⟩

theorem endsInSeparator_absolute {p : Path} (hends : p.endsInSeparator = false)
    (hne : p.segments.filter (· ≠ here) ≠ []) (directory : Path) :
    (p.absolute directory).endsInSeparator = false := by
  obtain ⟨start, h⟩ := exists_absolute_eq_under hends directory
  rw [h]
  exact endsInSeparator_under start
    (fun n hn => isPart_of_mem_segments (List.mem_of_mem_filter hn)) hne

/-- For a path that starts at the root no directory matters. -/
theorem absolute_of_isAbsolute {p : Path} (h : p.isAbsolute = true) (directory other : Path) :
    p.absolute directory = p.absolute other := by
  simp only [absolute, h, if_true]

/-- An absolute path is looked up from the root, through the names of the directory first if the
path was a relative one. -/
theorem absolute_spec {p : Path} {directory : Location} (hends : p.endsInSeparator = false)
    (hdirectory : ∀ n ∈ directory, Name.IsPart n) :
    (p.absolute directory.path).isAbsolute = true ∧
      (p.absolute directory.path).segments = p.namesFrom directory := by
  have hnames : ∀ n ∈ p.segments.filter (· ≠ here), Name.IsPart n := fun n hn =>
    isPart_of_mem_segments (List.mem_of_mem_filter hn)
  have habsolute : ∀ start : Path, (p.segments.filter (· ≠ here)).foldl
      (fun p n => p.join ⟨n⟩) start = start.under (p.segments.filter (· ≠ here)) := fun _ => rfl
  simp only [absolute, filterMap_components, List.foldl_map, hends, Bool.false_eq_true, if_false,
    habsolute]
  split
  · rename_i htwo
    have hp : p.isAbsolute = true := by
      rw [beq_iff_eq] at htwo
      rcases hbytes : p.bytes with _ | ⟨b, rest⟩
      · rw [hbytes] at htwo
        cases htwo
      · rw [hbytes, List.takeWhile_cons] at htwo
        split at htwo
        · rename_i hb
          rw [isAbsolute, hbytes, List.head?_cons, eq_of_beq hb]
          rfl
        · cases htwo
    rw [namesFrom, segments_under _ hnames, hp, if_pos rfl]
    exact ⟨isAbsolute_under rfl hnames, rfl⟩
  · rw [namesFrom, segments_under _ hnames]
    split
    · exact ⟨isAbsolute_under rfl hnames, rfl⟩
    · rw [Location.path_eq_under, segments_under _ hdirectory, segments_root]
      exact ⟨isAbsolute_under (isAbsolute_under rfl hdirectory) hnames, rfl⟩

end Path

end Codemod
