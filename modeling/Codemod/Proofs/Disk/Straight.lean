import Codemod.Proofs.Disk.Extends

set_option autoImplicit false

/-! # Paths without links

A path on which no link is met leads through directories alone, and where it leads can be read off
its names (`IsStraight.exists_enter`). Any other path through the same directories leads to the same
place, unless the system refuses to go there (`place?_of_laid`). -/

namespace Codemod.Disk

variable {d : Disk} {p : Path} {l m : Location} {ns : List Name} {n : Name}

/-! ## Ways through directories -/

/-- All names on a way lead to directories. -/
def Laid (d : Disk) (l : Location) (ns : List Name) : Prop :=
  ∀ init, init <+: ns → d.hasDirectory (lexical l init) = true

namespace Laid

theorem nil (hl : d.hasDirectory l = true) : d.Laid l [] := by
  intro init hinit
  rw [List.prefix_nil.1 hinit]
  exact hl

theorem cons (hl : d.hasDirectory l = true) (h : d.Laid (lexical l [n]) ns) :
    d.Laid l (n :: ns) := by
  intro init hinit
  rcases init with _ | ⟨n', init⟩
  · exact hl
  · obtain ⟨rfl, hinit'⟩ := List.cons_prefix_cons.1 hinit
    exact h init hinit'

theorem tail (h : d.Laid l (n :: ns)) : d.Laid (lexical l [n]) ns := fun init hinit =>
  h (n :: init) (List.cons_prefix_cons.2 ⟨rfl, hinit⟩)

theorem append {ms : List Name} (h : d.Laid l ns) (h' : d.Laid (lexical l ns) ms) :
    d.Laid l (ns ++ ms) := by
  intro init hinit
  rcases List.prefix_or_prefix_of_prefix hinit (List.prefix_append ns ms) with hfirst | hlast
  · exact h init hfirst
  · obtain ⟨rest, rfl⟩ := hlast
    rw [lexical_append]
    exact h' rest ((List.prefix_append_right_inj ns).1 hinit)

/-- Directories are in the way of nothing but permissions. -/
theorem enter (h : d.Laid l ns) (hway : IsWay ns) (links : Nat) :
    d.enter links l ns = .ok (links, lexical l ns) ∨ d.enter links l ns = .error .denied := by
  induction ns generalizing l with
  | nil =>
    left
    rw [Disk.enter]
    rfl
  | cons n ns ih =>
    by_cases hsearch : (d.rightsAt l).searchable = true
    · have hturn : d.turn l n = .ok (.place (lexical l [n])) :=
        turn_lexical hsearch (hway n (List.mem_cons_self ..)) (h.tail [] List.nil_prefix)
      rw [Disk.enter, hturn]
      exact ih h.tail hway.tail
    · right
      have hturn : d.turn l n = .error .denied := by rw [turn, if_pos (by simpa using hsearch)]
      rw [Disk.enter, hturn]

end Laid

/-- From the root on the names of a directory lead to it. -/
theorem WellFormed.laid (hd : d.WellFormed) (hl : d.hasDirectory l = true) :
    lexical [] l = l ∧ IsWay l ∧ d.Laid [] l := by
  obtain ⟨rights, hat⟩ := hasDirectory_iff.1 hl
  have hname : ∀ n ∈ l, IsEntryName n := fun n => hd.isEntryName_of_at? hat
  have hlexical : ∀ init, init <+: l → lexical [] init = init := fun init hinit =>
    lexical_of_ne_above [] fun n hn => (hname n (hinit.subset hn)).ne_above
  refine ⟨hlexical l List.prefix_rfl, fun n hn => .inr (hname n hn), fun init hinit => ?_⟩
  rw [hlexical init hinit]
  by_cases heq : init = l
  · rw [heq, hl]
  · exact hd.hasDirectory_above hat hinit heq

/-- A path through directories leads to the file at its end, if it leads anywhere. -/
theorem place?_of_laid {key : Nat} {follow : Bool} (habsolute : p.isAbsolute = true)
    (hsegments : p.segments = ns ++ [n]) (hway : IsWay ns) (hname : IsEntryName n)
    (hlaid : d.Laid [] ns) (hkey : d.at? (lexical [] ns ++ [n]) = some (.file key))
    (hplace : d.place? p follow = .ok m) : m = lexical [] ns ++ [n] := by
  have hstart : d.startOf p = [] := if_pos habsolute
  obtain ⟨-, -, -, hchase⟩ := place?_eq_ok_iff.1 hplace
  rw [hstart, hsegments, chase_append _ _ _ _ _ _ (List.cons_ne_nil _ _)] at hchase
  rcases hlaid.enter hway linkLimit with henter | henter
  · rw [henter] at hchase
    dsimp only at hchase
    by_cases hsearch : (d.rightsAt (lexical [] ns)).searchable = true
    · rw [chase_singleton, turn_of_isOrdinary hsearch hname.toIsOrdinary, hkey] at hchase
      dsimp only at hchase
      split at hchase
      · cases hchase
      · cases hchase
        rfl
    · rw [chase_singleton, turn, if_pos (by simpa using hsearch)] at hchase
      cases hchase
  · rw [henter] at hchase
    cases hchase

/-! ## Paths without links -/

/-- A path that leads to a place without any link on the way. -/
structure IsStraight (d : Disk) (p : Path) (l : Location) : Prop where
  place? : d.place? p = .ok l
  chase_zero : d.chase true 0 p.endsInSeparator (d.startOf p) p.segments = .ok (.entry l)

/-- Without links every name but a dot leads one directory further. -/
theorem laid_of_enter (hd : d.WellFormed) (hl : d.hasDirectory l = true)
    (hparts : ∀ n ∈ ns, Name.IsPart n) {left : Nat} (h : d.enter 0 l ns = .ok (left, m)) :
    IsWay (ns.filter (· ≠ Path.here)) ∧ m = lexical l (ns.filter (· ≠ Path.here)) ∧
      d.Laid l (ns.filter (· ≠ Path.here)) := by
  induction ns generalizing l with
  | nil =>
    rw [enter] at h
    cases h
    exact ⟨by simp [IsWay], rfl, .nil hl⟩
  | cons n ns ih =>
    rw [List.forall_mem_cons] at hparts
    rcases hturn : d.turn l n with e | k | target
    · simp only [enter, hturn, reduceCtorEq] at h
    · simp only [enter, hturn] at h
      obtain ⟨hway, hm, hlaid⟩ := ih (hd.hasDirectory_of_turn hl hturn) hparts.2 h
      rcases turn_cases d l n with ⟨hsearch, ⟨rfl, hhere⟩ | ⟨rfl, habove⟩ | hname⟩ | hno | hno
      · rw [hturn] at hhere
        cases hhere
        rw [List.filter_cons_of_neg (by simp)]
        exact ⟨hway, hm, hlaid⟩
      · rw [hturn] at habove
        cases habove
        rw [List.filter_cons_of_pos (by decide)]
        exact ⟨List.forall_mem_cons.2 ⟨.inl rfl, hway⟩, hm, .cons hl hlaid⟩
      · have hk : k = lexical l [n] := by
          rw [lexical_singleton l hname.ne_above]
          rw [turn_of_isOrdinary hsearch hname] at hturn
          split at hturn
          · cases hturn
          · cases hturn
            rfl
          · cases hturn
          · cases hturn
        rw [hk] at hm hlaid
        rw [List.filter_cons_of_pos (by simpa using hname.ne_here)]
        exact ⟨List.forall_mem_cons.2 ⟨.inr ⟨hname, hparts.1⟩, hway⟩, hm, .cons hl hlaid⟩
      · rw [hturn] at hno
        cases hno
      · rw [hturn] at hno
        cases hno
    · simp only [enter, hturn, reduceCtorEq] at h

/-- A path without links to a file: all names but the last one lead into directories. -/
theorem IsStraight.exists_enter (hd : d.WellFormed) (h : d.IsStraight p l) {key : Nat}
    (hkey : d.at? l = some (.file key)) :
    ∃ init n k, p.segments = init ++ [n] ∧ IsEntryName n ∧
      d.enter 0 (d.startOf p) init = .ok (0, k) ∧ l = k ++ [n] ∧ p.endsInSeparator = false := by
  obtain ⟨-, -, hstart, -⟩ := place?_eq_ok_iff.1 h.place?
  have hchase := h.chase_zero
  have hfile : d.hasDirectory l = false := by
    rw [hasDirectory, hkey]
    rfl
  rcases List.eq_nil_or_concat p.segments with hnil | ⟨init, n, hsegments⟩
  · rw [hnil, chase_nil] at hchase
    cases hchase
    rw [hstart] at hfile
    cases hfile
  · rw [List.concat_eq_append] at hsegments
    rw [hsegments, chase_append _ _ _ _ _ _ (List.cons_ne_nil _ _)] at hchase
    rcases henter : d.enter 0 (d.startOf p) init with e | ⟨left, k⟩
    · rw [henter] at hchase
      cases hchase
    · rw [henter] at hchase
      obtain rfl := Nat.le_zero.1 (left_le_of_enter henter)
      dsimp only at hchase
      rw [chase_singleton] at hchase
      have hk := hd.hasDirectory_of_enter hstart henter
      rcases hturn : d.turn k n with e | k' | target
      · rw [hturn] at hchase
        cases e with
        | notFound => cases hchase
        | notADirectory =>
          dsimp only at hchase
          split at hchase
          · cases hchase
          · rename_i hslash
            cases hchase
            have hpart : Name.IsPart n :=
              Path.isPart_of_mem_segments (p := p) (by rw [hsegments]; simp)
            exact ⟨init, n, k, hsegments, ⟨(at?_of_turn.2.1 hturn).1, hpart⟩, henter, rfl,
              by simpa using hslash⟩
        | _ => cases hchase
      · rw [hturn] at hchase
        cases hchase
        rw [hd.hasDirectory_of_turn hk hturn] at hfile
        cases hfile
      · rw [hturn] at hchase
        cases hchase

/-- A path without links to a file leads through directories, dots aside. -/
theorem IsStraight.exists_way (hd : d.WellFormed) (h : d.IsStraight p l) {key : Nat}
    (hkey : d.at? l = some (.file key)) :
    ∃ init n, p.segments = init ++ [n] ∧ IsEntryName n ∧ p.endsInSeparator = false ∧
      IsWay (init.filter (· ≠ Path.here)) ∧ d.Laid (d.startOf p) (init.filter (· ≠ Path.here)) ∧
      l = lexical (d.startOf p) (init.filter (· ≠ Path.here)) ++ [n] := by
  obtain ⟨-, -, hstart, -⟩ := place?_eq_ok_iff.1 h.place?
  obtain ⟨init, n, k, hsegments, hname, henter, rfl, hslash⟩ := h.exists_enter hd hkey
  have hinit : ∀ n ∈ init, Name.IsPart n := fun n hn =>
    Path.isPart_of_mem_segments (p := p) (by rw [hsegments]; exact List.mem_append_left _ hn)
  obtain ⟨hway, rfl, hlaid⟩ := laid_of_enter hd hstart hinit henter
  exact ⟨init, n, hsegments, hname, hslash, hway, hlaid, rfl⟩

end Codemod.Disk
