import Codemod.Discovery
import Codemod.Proofs.Discovery.Descent
import Codemod.Proofs.Glob.Anchor

set_option autoImplicit false

/-! # Where the matches of a pattern are searched

The search for matches starts at the parts of a pattern that have no wildcards. Unless one of them has
a brace or a backslash, which mean something else in a pattern than in a path, nothing is lost by this:
whatever a search from the working directory or the root would come to is found from there
(`expand_of_mem_walk`). Otherwise it can be (`expand_forkedTree`). -/

namespace Codemod.Glob

open Codemod.Path Encoding

/-! ## The literal parts of a pattern -/

theorem hasWildcard_append (a b : List UInt8) :
    hasWildcard (a ++ b) = (hasWildcard a || hasWildcard b) := List.any_append

/-- A name with a wildcard is neither of the names with a dot. -/
theorem componentOf?_of_hasWildcard {n : Name} (h : hasWildcard n = true) :
    componentOf? n = some (.normal n) := by
  rw [componentOf?, if_neg, if_neg]
  · rintro rfl
    cases h
  · rintro rfl
    cases h

/-- The literal parts of a pattern are those before the last slash that comes before all wildcards. -/
theorem literalParts_append {a m u : List UInt8} {w : UInt8} (ha : hasWildcard a = false)
    (hslash : a = [] ∨ ∃ init, a = init ++ [separator]) (hm : separator ∉ m)
    (hw : hasWildcard [w] = true) : literalParts ⟨a ++ (m ++ w :: u)⟩ = components ⟨a⟩ := by
  have hws : w ≠ separator := by
    rintro rfl
    cases hw
  obtain ⟨n, ns, hsegments, hmem⟩ := exists_segments_eq_cons hm hws u
  have hn : hasWildcard n = true :=
    List.any_eq_true.2 ⟨w, hmem, by simpa [hasWildcard] using hw⟩
  have hparts : (segments ⟨m ++ w :: u⟩).filterMap componentOf? =
      .normal n :: ns.filterMap componentOf? := by
    rw [hsegments, List.filterMap_cons_some (componentOf?_of_hasWildcard hn)]
  rcases hslash with rfl | ⟨init, rfl⟩
  · have hrelative : isAbsolute ⟨m ++ w :: u⟩ = false := by
      rcases m with _ | ⟨b, m⟩
      · simpa [isAbsolute] using hws
      · simpa [isAbsolute] using Ne.symm (not_or.1 (List.mem_cons.not.1 hm)).1
    have hhere : n ≠ here := by
      rintro rfl
      cases hn
    rw [List.nil_append, literalParts, components, hrelative, hparts, hsegments, List.head?_cons,
      if_neg (by simp), if_neg (by simpa using hhere), List.nil_append,
      List.takeWhile_cons_of_neg (by simp [hn])]
    rfl
  · rw [List.append_assoc, List.singleton_append, literalParts, components_append, hparts,
      List.takeWhile_append_of_pos, List.takeWhile_cons_of_neg (by simp [hn]), List.append_nil]
    intro c hc
    cases c with
    | normal name =>
      rw [Bool.not_eq_true', hasWildcard, List.any_eq_false]
      intro b hb
      have hmem := mem_bytes_of_mem_segments (mem_segments_of_mem_components hc) hb
      exact List.any_eq_false.1 ha b hmem
    | _ => rfl


theorem exists_pieces {cs : List Char} (h : hasWildcard (Utf8.encode cs) = true) :
    ∃ pre mid w post, cs = pre ++ (mid ++ w :: post) ∧ EndsInSlash pre ∧
      hasWildcard (Utf8.encode pre) = false ∧ separator ∉ Utf8.encode mid ∧
      hasWildcard (Utf8.encodeChar w) = true := by
  induction cs with
  | nil => cases h
  | cons c cs ih =>
    cases hc : hasWildcard (Utf8.encodeChar c) with
    | true => exact ⟨[], [], c, cs, rfl, .inl rfl, rfl, List.not_mem_nil, hc⟩
    | false =>
      rw [Utf8.encode_cons, hasWildcard_append, hc, Bool.false_or] at h
      obtain ⟨pre, mid, w, post, rfl, hslash, hpre, hmid, hw⟩ := ih h
      have hcpre : hasWildcard (Utf8.encode (c :: pre)) = false := by
        rw [Utf8.encode_cons, hasWildcard_append, hc, hpre, Bool.or_false]
      rcases hslash with rfl | ⟨init, rfl⟩
      · by_cases hcs : c = '/'
        · subst hcs
          exact ⟨['/'], mid, w, post, rfl, .inr ⟨[], rfl⟩, hcpre, hmid, hw⟩
        · refine ⟨[], c :: mid, w, post, rfl, .inl rfl, rfl, ?_, hw⟩
          rw [Utf8.encode_cons, List.mem_append, not_or]
          exact ⟨fun hmem => hcs (Char.toNat_inj.1
            (Utf8.toNat_of_mem_encodeChar hmem (by decide))), hmid⟩
      · exact ⟨c :: (init ++ ['/']), mid, w, post, rfl, .inr ⟨c :: init, rfl⟩, hcpre, hmid, hw⟩

theorem encode_endsInSlash {pre : List Char} (h : EndsInSlash pre) :
    Utf8.encode pre = [] ∨ ∃ init, Utf8.encode pre = init ++ [separator] := by
  rcases h with rfl | ⟨init, rfl⟩
  · exact .inl rfl
  · refine .inr ⟨Utf8.encode init, ?_⟩
    rw [Utf8.encode, List.flatMap_append]
    rfl

/-- The literal parts of a pattern are read from its start up to a slash. -/
theorem exists_literalStart {cs : List Char}
    (h : hasWildcard (Utf8.encode cs) = true) :
    ∃ pre rest, cs = pre ++ rest ∧ EndsInSlash pre ∧
      hasWildcard (Utf8.encode pre) = false ∧
      literalParts ⟨Utf8.encode cs⟩ = components ⟨Utf8.encode pre⟩ := by
  obtain ⟨pre, mid, w, post, rfl, hslash, hpre, hmid, hw⟩ := exists_pieces h
  refine ⟨pre, mid ++ w :: post, rfl, hslash, hpre, ?_⟩
  obtain ⟨b, hb, hwild⟩ := List.any_eq_true.1 hw
  have hone : Utf8.encodeChar w = [b] := by
    refine Utf8.encodeChar_eq_singleton hb ?_
    simp only [Bool.or_eq_true, beq_iff_eq] at hwild
    rcases hwild with (rfl | rfl) | rfl <;> decide
  have hencode : Utf8.encode (pre ++ (mid ++ w :: post)) =
      Utf8.encode pre ++ (Utf8.encode mid ++ b :: Utf8.encode post) := by
    simp only [Utf8.encode, List.flatMap_append, List.flatMap_cons, hone,
      List.singleton_append]
  rw [hencode]
  exact literalParts_append hpre (encode_endsInSlash hslash) hmid (hone ▸ hw)

/-- A part of a pattern that means there what it means in a path. -/
def IsVerbatim (c : Component) : Prop := 0x7B ∉ nameOf c ∧ 0x5C ∉ nameOf c

theorem notMem_of_isVerbatim {p : Path} (h : ∀ c ∈ p.components, IsVerbatim c) {b : UInt8}
    (hb : b = 0x7B ∨ b = 0x5C) : b ∉ p.bytes := by
  intro hmem
  have hslash : b ≠ separator := by rcases hb with rfl | rfl <;> decide
  obtain ⟨n, hn, hbn⟩ := exists_mem_segments hmem hslash
  cases hc : componentOf? n with
  | none =>
    rw [componentOf?_eq_none_iff.1 hc] at hbn
    rcases hb with rfl | rfl <;> revert hbn <;> decide
  | some c =>
    have hname := nameOf_of_componentOf? hc
    obtain ⟨hbrace, hbackslash⟩ := h c (List.mem_append_right _ (List.mem_filterMap.2 ⟨n, hn, hc⟩))
    rw [hname] at hbrace hbackslash
    rcases hb with rfl | rfl
    · exact hbrace hbn
    · exact hbackslash hbn

theorem isFixed_of_isVerbatim {pre : List Char} (hwild : hasWildcard (Utf8.encode pre) = false)
    (h : ∀ c ∈ components ⟨Utf8.encode pre⟩, IsVerbatim c) : ∀ c ∈ pre, IsFixed c := by
  intro c hc
  have hmem : ∀ b ∈ Utf8.encodeChar c, b ∈ Utf8.encode pre := fun b hb =>
    List.mem_flatMap.2 ⟨c, hc, hb⟩
  rw [hasWildcard, List.any_eq_false] at hwild
  refine ⟨?_, ?_, ?_, ?_, ?_⟩
  · rintro rfl
    exact hwild 0x3F (hmem _ (by decide)) (by decide)
  · rintro rfl
    exact hwild 0x2A (hmem _ (by decide)) (by decide)
  · rintro rfl
    exact hwild 0x5B (hmem _ (by decide)) (by decide)
  · rintro rfl
    exact notMem_of_isVerbatim h (.inl rfl) (hmem _ (by decide))
  · rintro rfl
    exact notMem_of_isVerbatim h (.inr rfl) (hmem _ (by decide))

/-- Bytes that all matches of a pattern start with; the parts in them are the literal ones of the
pattern. -/
theorem exists_start_of_matches {pattern : String} {tokens : List Token}
    (hwild : hasWildcard (Path.ofString pattern).bytes = true)
    (hliteral : ∀ c ∈ literalParts (Path.ofString pattern), IsVerbatim c)
    (hparse : parse pattern = .ok tokens) :
    ∃ start, literalParts (Path.ofString pattern) = components ⟨start⟩ ∧
      (start = [] ∨ ∃ init, start = init ++ [separator]) ∧
      ∀ bytes, Pattern.matches tokens bytes = true → start <+: bytes := by
  obtain ⟨pre, rest, hpattern, hslash, hpre, hparts⟩ := exists_literalStart hwild
  have hparts' : literalParts (Path.ofString pattern) = components ⟨Utf8.encode pre⟩ := hparts
  rw [hparts'] at hliteral
  refine ⟨Utf8.encode pre, hparts', encode_endsInSlash hslash, fun bytes hmatches => ?_⟩
  exact encode_prefix_of_matches hpattern (isFixed_of_isVerbatim hpre hliteral) hslash hparse hmatches

end Codemod.Glob

namespace Codemod.Disk

open Codemod.Path

variable {d : Disk} {p q : Path} {names ms : List Name}

/-! ## Starting further down -/

/-- Further down on the way to a path a walk comes to the path as well. -/
theorem under_mem_walk (hd : d.WellFormed) (hne : ms ≠ [])
    (hparts : ∀ n ∈ names ++ ms, Name.IsPart n)
    (h : p.under (names ++ ms) ∈ (d.walk p).filterMap Visit.path?)
    (hserves : ∀ ns, (∀ n ∈ ns, Name.IsPart n) → d.Serves (p.under (names ++ ns)) (q.under ns)) :
    q.under ms ∈ (d.walk q).filterMap Visit.path? := by
  obtain ⟨b, ns, hplace, hdir, hsees, hlength, heq⟩ := mem_paths_walk_iff.1 h
  have hns : names ++ ms = ns := by
    have hsegments := congrArg segments heq
    rw [segments_under p hparts,
      segments_under p fun n hn => (hsees.isEntryName hd n hn).isPart] at hsegments
    exact List.append_cancel_left hsegments
  subst hns
  obtain ⟨above, c, hc, hcdir, hmem, hmore⟩ :=
    hsees.drop hd hplace hdir (List.mem_singleton_self b) hne
  refine mem_paths_walk_iff.2 ⟨c, ms, ?_, hcdir, ?_, ?_, rfl⟩
  · have := (hserves [] (by simp)).place? c
    rw [List.append_nil] at this
    exact this hc
  · refine hmore.mono (fun ns hns => ?_) hd (by simpa using hmem)
    rw [← under_append]
    exact hserves ns hns
  · rw [List.length_append] at hlength
    exact Nat.le_trans (Nat.le_add_left _ _) hlength

/-- A dot at the start of a path leads nowhere that the rest of the path does not lead to. -/
theorem serves_under_here (hns : ∀ n ∈ names, Name.IsPart n) (hne : names ≠ []) :
    d.Serves ((⟨here⟩ : Path).under names) ((⟨[]⟩ : Path).under names) := by
  obtain ⟨hbytes, hrelative, hsegments, hends⟩ := under_here_spec hns hne
  obtain ⟨hbytes', hrelative', hsegments', hends'⟩ := under_nil_spec hns hne
  have hpass : isPassable ((⟨here⟩ : Path).under names) = true →
      isPassable ((⟨[]⟩ : Path).under names) = true := by
    simp only [isPassable, hbytes, Bool.and_eq_true, Bool.not_eq_true', decide_eq_true_eq,
      List.contains_eq_mem, decide_eq_false_iff_not, List.mem_append, List.mem_cons, not_or,
      List.length_append, List.length_cons]
    exact fun h => ⟨h.1.2.2, by omega⟩
  refine ⟨hpass, fun c hc => ?_⟩
  rw [place?_eq_ok_iff, startOf, hrelative, hsegments, hends, chase_cons _ _ _ _ _ _ hne] at hc
  obtain ⟨-, hlong, hstart, hchase⟩ := hc
  rw [place?_eq_ok_iff, startOf, hrelative', hsegments', hends']
  refine ⟨hbytes', hpass hlong, hstart, ?_⟩
  rcases turn_cases d (if false = true then [] else d.workingDirectory) here with
    ⟨-, ⟨-, hturn⟩ | ⟨habove, -⟩ | hname⟩ | hturn | hturn
  · rw [hturn] at hchase
    exact hchase
  · cases habove
  · exact absurd rfl hname.ne_here
  · rw [hturn] at hchase
    cases hchase
  · rw [hturn] at hchase
    cases hchase

end Codemod.Disk

namespace Codemod.Glob

open Codemod.Path

variable {d : Disk} {pattern : String} {tokens : List Token} {start : List UInt8} {ns : List Name}

/-! ## All matches -/

/-- Where a search would start that knows no more of a pattern than whether it is absolute. -/
def widestBase (pattern : Path) : Path := if pattern.isAbsolute then root else ⟨here⟩

theorem expand_eq_ok (d : Disk) (hwild : hasWildcard (Path.ofString pattern).bytes = true)
    (hparse : parse pattern = .ok tokens) :
    expand d pattern = .ok ((((d.walk (literalBase (Path.ofString pattern))).filterMap
      Disk.Visit.path?).filter (matchesPath tokens)).mergeSort Path.le) := by
  rw [expand]
  dsimp only
  rw [if_neg (by simp [hwild]), hparse]
  rfl

theorem literalBase_eq {p : Path} (hparts : literalParts p = components ⟨start⟩)
    {names : List Name} (hnames : (components ⟨start⟩).map nameOf = names) :
    literalBase p = if names = [] then ⟨here⟩ else (⟨[]⟩ : Path).under names := by
  rw [literalBase, hparts, ← hnames]
  rcases hcomponents : components ⟨start⟩ with _ | ⟨c, cs⟩
  · rfl
  · dsimp only
    rw [ofComponents_eq_under, if_neg (by simp)]

/-- The names of the base of a relative pattern are the first ones of a path that it stands for. -/
theorem exists_names_of_relative {p : Path}
    (hstart : start = [] ∨ ∃ init, start = init ++ [separator]) (hbegins : start <+: p.bytes)
    (hne : p.bytes ≠ []) (hends : p.endsInSeparator = false) (hrelative : p.isAbsolute = false)
    (hhere : here ∉ p.segments.tail) :
    ∃ names more, more ≠ [] ∧ p.segments = names ++ more ∧
      (components ⟨start⟩).map nameOf = names := by
  obtain ⟨⟨more, hmore, hsegments⟩, -⟩ := exists_names_of_start hstart hbegins hne hends
  refine ⟨segments ⟨start⟩, more, hmore, hsegments, map_nameOf_components ?_ ?_⟩
  · by_cases hnil : start = []
    · subst hnil
      rfl
    · rw [isAbsolute_of_start hbegins hnil, hrelative]
  · rw [hsegments] at hhere
    rcases hnames : segments ⟨start⟩ with _ | ⟨n, names⟩
    · exact List.not_mem_nil
    · rw [hnames] at hhere
      exact fun hmem => hhere (List.mem_append_left _ hmem)

/-- A path that a search from the working directory comes to is found from the base of a relative
pattern, if the path or the one without the dot at its start begins as the pattern does. -/
theorem exists_mem_walk_literalBase {p : Path} (hd : d.WellFormed)
    (hparts : literalParts p = components ⟨start⟩)
    (hstart : start = [] ∨ ∃ init, start = init ++ [separator])
    (hq : (⟨here⟩ : Path).under ns ∈ (d.walk ⟨here⟩).filterMap Disk.Visit.path?)
    (hns : ∀ n ∈ ns, Name.IsPart n) (hne : ns ≠ []) (hhere : here ∉ ns) :
    (start <+: ((⟨here⟩ : Path).under ns).bytes →
      (⟨here⟩ : Path).under ns ∈ (d.walk (literalBase p)).filterMap Disk.Visit.path?) ∧
    (start <+: ((⟨[]⟩ : Path).under ns).bytes →
      (⟨here⟩ : Path).under ns ∈ (d.walk (literalBase p)).filterMap Disk.Visit.path? ∧
          components ⟨start⟩ = [] ∨
        (⟨[]⟩ : Path).under ns ∈ (d.walk (literalBase p)).filterMap Disk.Visit.path?) := by
  have hdot : Name.IsPart here := ⟨List.cons_ne_nil _ _, by decide⟩
  constructor
  · intro hbegins
    obtain ⟨hbytes, hrelative, hsegments, hends⟩ := under_here_spec hns hne
    obtain ⟨names, more, hmore, hsplit, hnames⟩ := exists_names_of_relative hstart hbegins
      (hbytes ▸ List.cons_ne_nil _ _) hends hrelative (by rwa [hsegments])
    rw [literalBase_eq hparts hnames]
    rw [hsegments] at hsplit
    rcases names with _ | ⟨n, names⟩
    · rwa [if_pos rfl]
    · rw [List.cons_append, List.cons.injEq] at hsplit
      obtain ⟨rfl, rfl⟩ := hsplit
      rw [if_neg (List.cons_ne_nil _ _), under_nil_cons hdot, under_append]
      refine Disk.under_mem_walk hd hmore hns hq fun ns _ => ?_
      rw [under_append]
      exact Disk.serves_refl d _
  · intro hbegins
    obtain ⟨hbytes, hrelative, hsegments, hends⟩ := under_nil_spec hns hne
    obtain ⟨names, more, hmore, hsplit, hnames⟩ := exists_names_of_relative hstart hbegins hbytes
      hends hrelative (by rw [hsegments]; exact fun hmem => hhere (List.mem_of_mem_tail hmem))
    rw [literalBase_eq hparts hnames]
    rw [hsegments] at hsplit
    by_cases hnil : names = []
    · subst hnil
      rw [if_pos rfl]
      exact .inl ⟨hq, List.map_eq_nil_iff.1 hnames⟩
    · subst hsplit
      rw [if_neg hnil, under_append ⟨[]⟩]
      refine .inr (Disk.under_mem_walk hd hmore hns hq fun ns hpart => ?_)
      rw [← under_append]
      refine Disk.serves_under_here (List.forall_mem_append.2 ⟨?_, hpart⟩)
        (List.append_ne_nil_of_left_ne_nil hnil _)
      exact fun n hn => hns n (List.mem_append_left _ hn)

theorem literalParts_of_isAbsolute {p : Path} (h : p.isAbsolute = true) : literalParts p ≠ [] := by
  rw [literalParts, components_of_isAbsolute h, List.takeWhile_cons_of_pos rfl]
  exact List.cons_ne_nil _ _

/-- A path that a search from the root comes to is found from the base of an absolute pattern, if it
begins as the pattern does. -/
theorem mem_walk_literalBase_of_isAbsolute {p : Path} (hd : d.WellFormed)
    (habsolute : p.isAbsolute = true) (hparts : literalParts p = components ⟨start⟩)
    (hstart : start = [] ∨ ∃ init, start = init ++ [separator])
    (hq : root.under ns ∈ (d.walk root).filterMap Disk.Visit.path?)
    (hns : ∀ n ∈ ns, Name.IsPart n) (hne : ns ≠ []) (hhere : here ∉ ns)
    (hbegins : start <+: (root.under ns).bytes) :
    root.under ns ∈ (d.walk (literalBase p)).filterMap Disk.Visit.path? := by
  have hnil : start ≠ [] := by
    rintro rfl
    exact literalParts_of_isAbsolute habsolute hparts
  have hroot : isAbsolute ⟨start⟩ = true :=
    (isAbsolute_of_start hbegins hnil).trans (isAbsolute_under rfl hns)
  obtain ⟨⟨more, hmore, hsegments⟩, -⟩ := exists_names_of_start hstart hbegins
    (bytes_under_ne_nil (List.cons_ne_nil _ _) hns) (endsInSeparator_under _ hns hne)
  rw [segments_under _ hns, segments_root, List.nil_append] at hsegments
  have hbase : literalBase p = root.under (segments ⟨start⟩) := by
    rw [literalBase, hparts, components_of_isAbsolute hroot]
    dsimp only
    rw [ofComponents_filterMap fun hmem => hhere (hsegments ▸ List.mem_append_left _ hmem)]
  rw [hbase]
  rw [hsegments] at hq hns ⊢
  rw [under_append]
  refine Disk.under_mem_walk hd hmore hns hq fun ns _ => ?_
  rw [under_append]
  exact Disk.serves_refl d _

/-- A pattern whose literal parts have no braces and no backslashes loses nothing by the search for its
matches starting at these parts: whatever a search from the working directory or the root would come
to and the pattern stands for is among the results, perhaps without the dot at its start, and the
literal parts are its first ones. -/
theorem expand_of_mem_walk (hd : d.WellFormed)
    (hwild : hasWildcard (Path.ofString pattern).bytes = true)
    (hliteral : ∀ c ∈ literalParts (Path.ofString pattern), IsVerbatim c)
    (hparse : parse pattern = .ok tokens) :
    ∃ paths, expand d pattern = .ok paths ∧
      ∀ q ∈ (d.walk (widestBase (Path.ofString pattern))).filterMap Disk.Visit.path?,
        matchesPath tokens q = true →
          ∃ q' ∈ paths, (q' = q ∨ q.stripHere? = some q') ∧
            literalParts (Path.ofString pattern) <+: q'.components := by
  obtain ⟨start, hparts, hstart, hbegins⟩ := exists_start_of_matches hwild hliteral hparse
  refine ⟨_, expand_eq_ok d hwild hparse, fun q hq hmatches => ?_⟩
  simp only [List.mem_mergeSort, List.mem_filter]
  rw [hparts]
  obtain ⟨b, ns, -, -, hsees, -, rfl⟩ := Disk.mem_paths_walk_iff.1 hq
  have hnames := hsees.isEntryName hd
  have hns : ∀ n ∈ ns, Name.IsPart n := fun n hn => (hnames n hn).isPart
  have hhere : here ∉ ns := fun hmem => (hnames _ hmem).ne_here rfl
  have hne : ns ≠ [] := hsees.ne_nil
  cases habsolute : (Path.ofString pattern).isAbsolute with
  | true =>
    rw [widestBase, habsolute, if_pos rfl] at hq hmatches ⊢
    have hstrip : stripHere? (root.under ns) = none := by
      rw [stripHere?, components_of_isAbsolute (isAbsolute_under rfl hns)]
    have hmatch : Pattern.matches tokens (root.under ns).bytes = true := by
      rw [matchesPath, hstrip, Bool.or_false] at hmatches
      exact hmatches
    exact ⟨_, ⟨mem_walk_literalBase_of_isAbsolute hd habsolute hparts hstart hq hns hne hhere
      (hbegins _ hmatch), hmatches⟩, .inl rfl, (exists_names_of_start hstart (hbegins _ hmatch)
        (bytes_under_ne_nil (List.cons_ne_nil _ _) hns) (endsInSeparator_under _ hns hne)).2⟩
  | false =>
    rw [widestBase, habsolute, if_neg Bool.false_ne_true] at hq hmatches ⊢
    have hstrip := stripHere?_under hns hne hhere
    obtain ⟨hwhole, hrest⟩ := exists_mem_walk_literalBase hd hparts hstart hq hns hne hhere
    obtain ⟨hbytes, -, -, hends⟩ := under_here_spec hns hne
    obtain ⟨hbytes', -, -, hends'⟩ := under_nil_spec hns hne
    have hcases := hmatches
    rw [matchesPath, hstrip, Bool.or_eq_true] at hcases
    rcases hcases with hmatch |
      (hmatch : Pattern.matches tokens ((⟨[]⟩ : Path).under ns).bytes = true)
    · exact ⟨_, ⟨hwhole (hbegins _ hmatch), hmatches⟩, .inl rfl, (exists_names_of_start hstart
        (hbegins _ hmatch) (hbytes ▸ List.cons_ne_nil _ _) hends).2⟩
    · rcases hrest (hbegins _ hmatch) with ⟨hfound, hnil⟩ | hfound
      · exact ⟨_, ⟨hfound, hmatches⟩, .inl rfl, hnil ▸ List.nil_prefix⟩
      · exact ⟨_, ⟨hfound, by rw [matchesPath, hmatch, Bool.true_or]⟩, .inr hstrip,
          (exists_names_of_start hstart (hbegins _ hmatch) hbytes' hends').2⟩

/-- A source file in a directory. -/
def forkedTree : Disk where
  entries :=
    [([.ofString "c"], .directory {}), ([.ofString "c", .ofString "x.py"], .file 0)]
  nextKey := 1

theorem expand_of_mem_walk_forkedTree :
    ∃ paths, expand forkedTree "c/*.py" = .ok paths ∧
      ∃ q ∈ paths, (q = .ofString "./c/x.py" ∨ (Path.ofString "./c/x.py").stripHere? = some q) ∧
        literalParts (.ofString "c/*.py") <+: q.components := by
  have hparse : parse "c/*.py" = .ok [.literal 'c', .literal '/', .many, .literal '.',
    .literal 'p', .literal 'y'] := rfl
  have hliteral : literalParts (.ofString "c/*.py") = [.normal [0x63]] := by decide
  have hverbatim : ∀ c ∈ literalParts (.ofString "c/*.py"), IsVerbatim c := by
    rw [hliteral]
    simp [IsVerbatim, nameOf]
  have hd : forkedTree.WellFormed := by decide +kernel
  obtain ⟨paths, hpaths, hall⟩ := expand_of_mem_walk hd (by decide +kernel) hverbatim hparse
  exact ⟨paths, hpaths, hall _ (by decide +kernel) (by decide +kernel)⟩

/-- With braces in a literal part the search starts in a directory with the braces in its name, and the
file that a search from the working directory comes to is lost. -/
theorem expand_forkedTree :
    forkedTree.WellFormed ∧ hasWildcard (Path.ofString "\x7ba,c\x7d/*.py").bytes = true ∧
      (∃ tokens, parse "\x7ba,c\x7d/*.py" = .ok tokens ∧
        matchesPath tokens (.ofString "./c/x.py") = true) ∧
      .ofString "./c/x.py" ∈
        (forkedTree.walk (widestBase (.ofString "\x7ba,c\x7d/*.py"))).filterMap Disk.Visit.path? ∧
      expand forkedTree "\x7ba,c\x7d/*.py" = .ok [] := by
  have hparse : parse "\x7ba,c\x7d/*.py" = .ok [.alternatives [[.literal 'a'], [.literal 'c']],
    .literal '/', .many, .literal '.', .literal 'p', .literal 'y'] := rfl
  have hwild : hasWildcard (Path.ofString "\x7ba,c\x7d/*.py").bytes = true := by decide +kernel
  have hwalk : forkedTree.walk (literalBase (.ofString "\x7ba,c\x7d/*.py")) = [] := by
    decide +kernel
  refine ⟨by decide +kernel, hwild, ⟨_, hparse, by decide +kernel⟩, by decide +kernel, ?_⟩
  rw [expand_eq_ok forkedTree hwild hparse, hwalk, List.filterMap_nil, List.filter_nil,
    List.mergeSort_nil]

end Codemod.Glob
