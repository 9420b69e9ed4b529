import Codemod.Proofs.Disk.Entries

set_option autoImplicit false

/-! # Where paths lead

All names of a path but the last one must lead into directories, through links or not. `enter` goes
through such names, one `turn` after another, and looking up a whole path is looking up its last
name from where the others lead (`chase_append`). -/

namespace Codemod.Disk

/-! ## One name -/

/-- Where a name leads that must lead to a directory: to a place, or to a link to be followed. -/
inductive Turn where
  | place (l : Location)
  | link (target : Path)

/-- Look up a name that must lead to a directory. -/
def turn (d : Disk) (l : Location) (name : Name) : Except PathError Turn :=
  if !(d.rightsAt l).searchable then .error .denied
  else if name = Path.here then .ok (.place l)
  else if name = Path.above then .ok (.place l.dropLast)
  else if nameLimit < name.length then .error .notPossible
  else
    match d.at? (l ++ [name]) with
    | none => .error .notFound
    | some (.directory _) => .ok (.place (l ++ [name]))
    | some (.file _) => .error .notADirectory
    | some (.link target) => .ok (.link target)

/-- A name that can be that of an entry. -/
structure IsOrdinary (name : Name) : Prop where
  ne_here : name ≠ Path.here
  ne_above : name ≠ Path.above
  length_le : name.length ≤ nameLimit

/-- What comes of a name that stands for an entry. -/
theorem turn_of_isOrdinary {d : Disk} {l : Location} {name : Name}
    (hsearch : (d.rightsAt l).searchable = true) (hname : IsOrdinary name) :
    d.turn l name =
      match d.at? (l ++ [name]) with
      | none => .error .notFound
      | some (.directory _) => .ok (.place (l ++ [name]))
      | some (.file _) => .error .notADirectory
      | some (.link target) => .ok (.link target) := by
  rw [turn, if_neg (by simp [hsearch]), if_neg hname.ne_here, if_neg hname.ne_above,
    if_neg (Nat.not_lt.2 hname.length_le)]

/-- A name means the directory itself, the one above it, or an entry; nothing else is ever said of
it if the directory can be searched and the name is not too long. -/
theorem turn_cases (d : Disk) (l : Location) (name : Name) :
    ((d.rightsAt l).searchable = true ∧
      (name = Path.here ∧ d.turn l name = .ok (.place l) ∨
        name = Path.above ∧ d.turn l name = .ok (.place l.dropLast) ∨
        IsOrdinary name)) ∨
      d.turn l name = .error .denied ∨ d.turn l name = .error .notPossible := by
  rw [turn]
  split
  · exact .inr (.inl rfl)
  · rename_i hsearch
    have hsearch : (d.rightsAt l).searchable = true := by simpa using hsearch
    split
    · rename_i hhere
      exact .inl ⟨hsearch, .inl ⟨hhere, rfl⟩⟩
    · rename_i hhere
      split
      · rename_i habove
        exact .inl ⟨hsearch, .inr (.inl ⟨habove, rfl⟩)⟩
      · rename_i habove
        split
        · exact .inr (.inr rfl)
        · rename_i hlong
          exact .inl ⟨hsearch, .inr (.inr ⟨hhere, habove, Nat.not_lt.1 hlong⟩)⟩

/-- What a lookup says of an entry, it says because of what is there. -/
theorem at?_of_turn {d : Disk} {l : Location} {name : Name} :
    (d.turn l name = .error .notFound →
      (d.rightsAt l).searchable = true ∧ IsOrdinary name ∧ d.at? (l ++ [name]) = none) ∧
    (d.turn l name = .error .notADirectory → IsOrdinary name ∧
      ∃ key, d.at? (l ++ [name]) = some (.file key)) ∧
    (∀ target, d.turn l name = .ok (.link target) →
      IsOrdinary name ∧ d.at? (l ++ [name]) = some (.link target)) := by
  rcases turn_cases d l name with ⟨hsearch, ⟨-, h⟩ | ⟨-, h⟩ | hname⟩ | h | h
  · simp [h]
  · simp [h]
  · rw [turn_of_isOrdinary hsearch hname]
    rcases d.at? (l ++ [name]) with _ | rights | key | target
    · simp [hsearch, hname]
    · simp
    · simp [hname]
    · simp [hname]
  · simp [h]
  · simp [h]

/-- Where the names of a link start. -/
def linkStart (target : Path) (l : Location) : Location := if target.isAbsolute then [] else l

@[simp]
theorem chase_nil (d : Disk) (follow : Bool) (links : Nat) (slash : Bool) (l : Location) :
    d.chase follow links slash l [] = .ok (.entry l) := by
  cases links <;> rfl

theorem chase_eq (d : Disk) (follow : Bool) (links : Nat) (slash : Bool) (l : Location)
    (names : List Name) :
    d.chase follow links slash l names =
      match d.advance follow slash l names with
      | .error e => .error e
      | .ok (.ends found) => .ok found
      | .ok (.link l target rest) =>
        match links with
        | 0 => .error .tooManyLinks
        | links + 1 =>
          d.chase follow links (slash || rest.isEmpty && target.endsInSeparator)
            (linkStart target l) (target.segments ++ rest) := by
  rw [chase.eq_def]
  dsimp only
  rcases d.advance follow slash l names with e | found | ⟨l, target, rest⟩
  · rfl
  · rfl
  · cases links <;> rfl

/-- What comes of a name that is not the last one. -/
theorem chase_cons (d : Disk) (follow : Bool) (links : Nat) (slash : Bool) (l : Location)
    (name : Name) {rest : List Name} (hrest : rest ≠ []) :
    d.chase follow links slash l (name :: rest) =
      match d.turn l name with
      | .error e => .error e
      | .ok (.place m) => d.chase follow links slash m rest
      | .ok (.link target) =>
        match links with
        | 0 => .error .tooManyLinks
        | links + 1 => d.chase follow links slash (linkStart target l) (target.segments ++ rest) := by
  obtain ⟨next, rest, rfl⟩ := List.exists_cons_of_ne_nil hrest
  rw [chase_eq, advance, turn]
  by_cases hsearch : (!(d.rightsAt l).searchable) = true
  · simp only [if_pos hsearch]
  simp only [if_neg hsearch]
  by_cases hhere : name = Path.here
  · simp only [if_pos hhere, ← chase_eq]
  simp only [if_neg hhere]
  by_cases habove : name = Path.above
  · simp only [if_pos habove, ← chase_eq]
  simp only [if_neg habove]
  by_cases hlong : nameLimit < name.length
  · simp only [if_pos hlong]
  simp only [if_neg hlong]
  rcases d.at? (l ++ [name]) with _ | rights | key | target
  · rfl
  · simp only [← chase_eq]
  · rfl
  · simp only [List.isEmpty_cons, Bool.false_and, Bool.or_false]

/-- What comes of the last name. -/
theorem chase_singleton (d : Disk) (follow : Bool) (links : Nat) (slash : Bool) (l : Location)
    (name : Name) :
    d.chase follow links slash l [name] =
      match d.turn l name with
      | .ok (.place m) => .ok (.entry m)
      | .ok (.link target) =>
        if follow || slash then
          match links with
          | 0 => .error .tooManyLinks
          | links + 1 =>
            d.chase follow links (slash || target.endsInSeparator) (linkStart target l)
              target.segments
        else .ok (.entry (l ++ [name]))
      | .error .notFound => .ok (.vacant l name)
      | .error .notADirectory =>
        if slash then .error .notADirectory else .ok (.entry (l ++ [name]))
      | .error e => .error e := by
  rw [chase_eq, advance, turn]
  by_cases hsearch : (!(d.rightsAt l).searchable) = true
  · simp only [if_pos hsearch]
  simp only [if_neg hsearch]
  by_cases hhere : name = Path.here
  · simp only [if_pos hhere, advance]
  simp only [if_neg hhere]
  by_cases habove : name = Path.above
  · simp only [if_pos habove, advance]
  simp only [if_neg habove]
  by_cases hlong : nameLimit < name.length
  · simp only [if_pos hlong]
  simp only [if_neg hlong]
  rcases d.at? (l ++ [name]) with _ | rights | key | target
  · rfl
  · simp only [advance]
  · cases slash <;> rfl
  · cases follow <;> cases slash <;>
      simp only [Bool.or_self, Bool.or_true, Bool.or_false, Bool.true_or, Bool.false_or, if_true,
        Bool.false_eq_true, if_false, List.append_nil, List.isEmpty_nil, Bool.true_and]

/-- A name that leads to a directory gives way to the names after it. -/
theorem chase_of_place {d : Disk} {l m : Location} {name : Name}
    (hturn : d.turn l name = .ok (.place m)) (follow : Bool) (links : Nat) (slash : Bool)
    (rest : List Name) :
    d.chase follow links slash l (name :: rest) = d.chase follow links slash m rest := by
  rcases rest with _ | ⟨next, rest⟩
  · rw [chase_singleton, hturn, chase_nil]
  · rw [chase_cons _ _ _ _ _ _ (List.cons_ne_nil _ _), hturn]

/-- A link that is followed gives way to its own names and to those after it. -/
theorem chase_of_link {d : Disk} {l : Location} {name : Name} {target : Path} {rest : List Name}
    {follow slash : Bool} (hturn : d.turn l name = .ok (.link target))
    (hgo : rest = [] → (follow || slash) = true) (links : Nat) :
    d.chase follow (links + 1) slash l (name :: rest) =
      d.chase follow links (slash || rest.isEmpty && target.endsInSeparator) (linkStart target l)
        (target.segments ++ rest) := by
  rcases rest with _ | ⟨next, rest⟩
  · rw [chase_singleton, hturn]
    simp only [hgo rfl, if_true, List.append_nil, List.isEmpty_nil, Bool.true_and]
  · rw [chase_cons _ _ _ _ _ _ (List.cons_ne_nil _ _), hturn, List.isEmpty_cons, Bool.false_and,
      Bool.or_false]

/-- A directory in which a name was looked up can be searched. -/
theorem searchable_of_turn {d : Disk} {l : Location} {name : Name}
    (h : d.turn l name ≠ .error .denied) : (d.rightsAt l).searchable = true := by
  by_contra hsearch
  exact h (by rw [turn, if_pos (by simpa using hsearch)])

/-! ## Names that lead into directories -/

/-- Go through names that must all lead into directories, following at most a number of links. What
is left of that number comes with the place. -/
def enter (d : Disk) : Nat → Location → List Name → Except PathError (Nat × Location)
  | links, l, [] => .ok (links, l)
  | links, l, name :: rest =>
    match d.turn l name with
    | .error e => .error e
    | .ok (.place m) => d.enter links m rest
    | .ok (.link target) =>
      match links with
      | 0 => .error .tooManyLinks
      | links + 1 => d.enter links (linkStart target l) (target.segments ++ rest)
termination_by links _ names => (links, names.length)

/-- The names before the last ones are entered. -/
theorem chase_append (d : Disk) (follow : Bool) (links : Nat) (slash : Bool) (l : Location)
    (init : List Name) {rest : List Name} (hrest : rest ≠ []) :
    d.chase follow links slash l (init ++ rest) =
      match d.enter links l init with
      | .error e => .error e
      | .ok (left, m) => d.chase follow left slash m rest := by
  have hne : ∀ names, names ++ rest ≠ [] := fun _ => List.append_ne_nil_of_right_ne_nil _ hrest
  induction links, l, init using enter.induct d with
  | case1 links l => simp only [enter, List.nil_append]
  | case2 links l n init e hturn =>
    simp only [enter, List.cons_append, chase_cons _ _ _ _ _ _ (hne init), hturn]
  | case3 links l n init m hturn ih =>
    simp only [enter, List.cons_append, chase_cons _ _ _ _ _ _ (hne init), hturn, ih]
  | case4 l n init target hturn =>
    simp only [enter, List.cons_append, chase_cons _ _ _ _ _ _ (hne init), hturn]
  | case5 l n init target hturn links ih =>
    simp only [enter, List.cons_append, chase_cons _ _ _ _ _ _ (hne init), hturn, ← ih,
      List.append_assoc]

/-- Names are entered one after another. -/
theorem enter_append (d : Disk) (links : Nat) (l : Location) (init rest : List Name) :
    d.enter links l (init ++ rest) =
      match d.enter links l init with
      | .error e => .error e
      | .ok (left, m) => d.enter left m rest := by
  induction links, l, init using enter.induct d with
  | case1 links l => simp only [enter, List.nil_append]
  | case2 links l n init e hturn => simp only [enter, List.cons_append, hturn]
  | case3 links l n init m hturn ih => simp only [enter, List.cons_append, hturn, ih]
  | case4 l n init target hturn => simp only [enter, List.cons_append, hturn]
  | case5 l n init target hturn links ih =>
    simp only [enter, List.cons_append, hturn, ← ih, List.append_assoc]

theorem left_le_of_enter {d : Disk} {links left : Nat} {l m : Location} {names : List Name}
    (h : d.enter links l names = .ok (left, m)) : left ≤ links := by
  induction links, l, names using enter.induct d with
  | case1 links l =>
    rw [enter] at h
    cases h
    exact Nat.le_refl _
  | case2 links l n init e hturn => simp only [enter, hturn, reduceCtorEq] at h
  | case3 links l n init m hturn ih =>
    simp only [enter, hturn] at h
    exact ih h
  | case4 l n init target hturn => simp only [enter, hturn, reduceCtorEq] at h
  | case5 l n init target hturn links ih =>
    simp only [enter, hturn] at h
    exact Nat.le_succ_of_le (ih h)

/-- Names that can be entered lead to where they were entered, links at the end being followed. -/
theorem chase_of_enter {d : Disk} {links left : Nat} {l m : Location} {names : List Name}
    (h : d.enter links l names = .ok (left, m)) (slash : Bool) :
    d.chase true links slash l names = .ok (.entry m) := by
  induction links, l, names using enter.induct d generalizing slash with
  | case1 links l =>
    simp only [enter, Except.ok.injEq, Prod.mk.injEq] at h
    rw [chase_nil, h.2]
  | case2 links l n init e hturn => simp only [enter, hturn, reduceCtorEq] at h
  | case3 links l n init m hturn ih =>
    simp only [enter, hturn] at h
    rcases init with _ | ⟨next, init⟩
    · simp only [chase_singleton, hturn]
      simpa using ih h slash
    · rw [chase_cons _ _ _ _ _ _ (List.cons_ne_nil _ _)]
      simp only [hturn]
      exact ih h slash
  | case4 l n init target hturn => simp only [enter, hturn, reduceCtorEq] at h
  | case5 l n init target hturn links ih =>
    simp only [enter, hturn] at h
    rcases init with _ | ⟨next, init⟩
    · rw [List.append_nil] at ih h
      simp only [chase_singleton, hturn, Bool.true_or, if_true]
      exact ih h _
    · rw [chase_cons _ _ _ _ _ _ (List.cons_ne_nil _ _)]
      simp only [hturn]
      exact ih h slash

/-! ## Names that lead to anything -/

/-- How names lead to what was found: one after another, up to the last one, which may be free or be
that of a file or of a link that is not followed. -/
theorem chase_induction {d : Disk} {follow : Bool}
    {motive : Nat → Bool → Location → List Name → Found → Prop}
    (done : ∀ links slash l, motive links slash l [] (.entry l))
    (place : ∀ links slash l name rest m found, d.turn l name = .ok (.place m) →
      motive links slash m rest found → motive links slash l (name :: rest) found)
    (link : ∀ links slash slash' l name rest target found, d.turn l name = .ok (.link target) →
      (rest = [] → (follow || slash) = true) →
      slash' = (slash || rest.isEmpty && target.endsInSeparator) →
      motive links slash' (linkStart target l) (target.segments ++ rest) found →
      motive (links + 1) slash l (name :: rest) found)
    (free : ∀ links slash l name, d.turn l name = .error .notFound →
      motive links slash l [name] (.vacant l name))
    (file : ∀ links l name, d.turn l name = .error .notADirectory →
      motive links false l [name] (.entry (l ++ [name])))
    (stop : ∀ links l name target, d.turn l name = .ok (.link target) → follow = false →
      motive links false l [name] (.entry (l ++ [name])))
    {links : Nat} {slash : Bool} {l : Location} {names : List Name} {found : Found}
    (h : d.chase follow links slash l names = .ok found) :
    motive links slash l names found := by
  induction links, l, names using enter.induct d generalizing slash with
  | case1 links l =>
    rw [chase_nil] at h
    cases h
    exact done links slash l
  | case2 links l n init e hturn =>
    rcases init with _ | ⟨next, init⟩
    · rw [chase_singleton, hturn] at h
      cases e with
      | notFound =>
        cases h
        exact free links slash l n hturn
      | notADirectory =>
        cases slash with
        | true => cases h
        | false =>
          cases h
          exact file links l n hturn
      | _ => cases h
    · rw [chase_cons _ _ _ _ _ _ (List.cons_ne_nil _ _), hturn] at h
      cases h
  | case3 links l n init m hturn ih =>
    rcases init with _ | ⟨next, init⟩
    · rw [chase_singleton, hturn] at h
      exact place links slash l n [] m found hturn (ih (by rw [chase_nil]; exact h))
    · rw [chase_cons _ _ _ _ _ _ (List.cons_ne_nil _ _), hturn] at h
      exact place links slash l n _ m found hturn (ih h)
  | case4 l n init target hturn =>
    rcases init with _ | ⟨next, init⟩
    · rw [chase_singleton, hturn] at h
      cases hboth : (follow || slash) with
      | true => simp only [hboth, if_true, reduceCtorEq] at h
      | false =>
        simp only [hboth, Bool.false_eq_true, if_false] at h
        obtain ⟨hfollow, rfl⟩ := Bool.or_eq_false_iff.1 hboth
        cases h
        exact stop 0 l n target hturn hfollow
    · rw [chase_cons _ _ _ _ _ _ (List.cons_ne_nil _ _), hturn] at h
      cases h
  | case5 l n init target hturn links ih =>
    rcases init with _ | ⟨next, init⟩
    · rw [chase_singleton, hturn] at h
      cases hboth : (follow || slash) with
      | true =>
        simp only [hboth, if_true] at h
        exact link links slash _ l n [] target found hturn (fun _ => hboth) rfl
          (ih (by rw [List.append_nil]; exact h))
      | false =>
        simp only [hboth, Bool.false_eq_true, if_false] at h
        obtain ⟨hfollow, rfl⟩ := Bool.or_eq_false_iff.1 hboth
        cases h
        exact stop (links + 1) l n target hturn hfollow
    · rw [chase_cons _ _ _ _ _ _ (List.cons_ne_nil _ _), hturn] at h
      exact link links slash _ l n _ target found hturn (fun hnil => nomatch hnil)
        (Bool.or_false slash).symm (ih h)

/-- Names that lead to a directory can be entered. -/
theorem enter_of_chase {d : Disk} {follow : Bool} {links : Nat} {slash : Bool} {l m : Location}
    {names : List Name} (h : d.chase follow links slash l names = .ok (.entry m))
    (hm : d.hasDirectory m = true) : ∃ left, d.enter links l names = .ok (left, m) := by
  refine chase_induction (motive := fun links _ l names found =>
    found = .entry m → ∃ left, d.enter links l names = .ok (left, m)) ?done ?place ?link ?free
    ?file ?stop h rfl
  case done =>
    rintro links slash l ⟨⟩
    exact ⟨links, by rw [enter]⟩
  case place =>
    intro links slash l name rest m' found hturn ih hfound
    simp only [enter, hturn]
    exact ih hfound
  case link =>
    intro links slash slash' l name rest target found hturn _ _ ih hfound
    simp only [enter, hturn]
    exact ih hfound
  case free =>
    intro links slash l name _ hfound
    cases hfound
  case file =>
    rintro links l name hturn ⟨⟩
    obtain ⟨-, key, hat⟩ := at?_of_turn.2.1 hturn
    rw [hasDirectory, hat] at hm
    cases hm
  case stop =>
    rintro links l name target hturn - ⟨⟩
    rw [hasDirectory, (at?_of_turn.2.2 target hturn).2] at hm
    cases hm

/-- Names that lead to anything are all there. -/
theorem enter_ne_notFound_of_chase {d : Disk} {links : Nat} {slash : Bool} {l m : Location}
    {names : List Name} (h : d.chase true links slash l names = .ok (.entry m)) :
    d.enter links l names ≠ .error .notFound := by
  refine chase_induction (motive := fun links _ l names found =>
    found = .entry m → d.enter links l names ≠ .error .notFound) ?done ?place ?link ?free ?file
    ?stop h rfl
  case done =>
    intro links slash l _
    simp [enter]
  case place =>
    intro links slash l name rest m' found hturn ih hfound
    simp only [enter, hturn]
    exact ih hfound
  case link =>
    intro links slash slash' l name rest target found hturn _ _ ih hfound
    simp only [enter, hturn]
    exact ih hfound
  case free =>
    intro links slash l name _ hfound
    cases hfound
  case file =>
    intro links l name hturn _
    simp [enter, hturn]
  case stop =>
    intro links l name target _ hfollow
    cases hfollow

/-- A name that is found to be free, with no link followed at the end, is the last one. -/
theorem exists_enter_of_vacant {d : Disk} {links : Nat} {l m : Location} {names : List Name}
    {name : Name} (h : d.chase false links false l names = .ok (.vacant m name)) :
    ∃ init left, names = init ++ [name] ∧ d.enter links l init = .ok (left, m) ∧
      d.turn m name = .error .notFound := by
  rcases List.eq_nil_or_concat names with rfl | ⟨init, last, rfl⟩
  · rw [chase_nil] at h
    cases h
  · rw [List.concat_eq_append, chase_append _ _ _ _ _ _ (List.cons_ne_nil _ _)] at h
    rcases henter : d.enter links l init with e | ⟨left, k⟩
    · rw [henter] at h
      cases h
    · rw [henter] at h
      dsimp only at h
      rw [chase_singleton] at h
      rcases hturn : d.turn k last with e | k' | target
      · rw [hturn] at h
        cases e with
        | notFound =>
          cases h
          exact ⟨init, left, List.concat_eq_append, henter, hturn⟩
        | _ => cases h
      · rw [hturn] at h
        cases h
      · rw [hturn] at h
        cases h

/-- Where no link is at the end, following it makes no difference. -/
theorem chase_of_not_link {d : Disk} {slash : Bool} {links : Nat} {l m : Location}
    {names : List Name} (h : d.chase false links slash l names = .ok (.entry m))
    (hm : ∀ target, d.at? m ≠ some (.link target)) :
    d.chase true links slash l names = .ok (.entry m) := by
  refine chase_induction (motive := fun links slash l names found =>
    found = .entry m → d.chase true links slash l names = .ok (.entry m)) ?done ?place ?link ?free
    ?file ?stop h rfl
  case done =>
    rintro links slash l ⟨⟩
    exact chase_nil ..
  case place =>
    intro links slash l name rest m' found hturn ih hfound
    rw [chase_of_place hturn]
    exact ih hfound
  case link =>
    rintro links slash _ l name rest target found hturn - rfl ih hfound
    rw [chase_of_link hturn fun _ => rfl]
    exact ih hfound
  case free =>
    intro links slash l name _ hfound
    cases hfound
  case file =>
    rintro links l name hturn ⟨⟩
    rw [chase_singleton, hturn]
    rfl
  case stop =>
    rintro links l name target hturn - ⟨⟩
    exact absurd (at?_of_turn.2.2 target hturn).2 (hm target)

/-- More links than are needed do no harm. -/
theorem chase_add {d : Disk} {follow slash : Bool} {links : Nat} {l : Location}
    {names : List Name} {found : Found} (h : d.chase follow links slash l names = .ok found)
    (more : Nat) : d.chase follow (links + more) slash l names = .ok found := by
  refine chase_induction (motive := fun links slash l names found =>
    d.chase follow (links + more) slash l names = .ok found) ?done ?place ?link ?free ?file ?stop h
  case done => exact fun links slash l => chase_nil ..
  case place =>
    intro links slash l name rest m found hturn ih
    rw [chase_of_place hturn, ih]
  case link =>
    rintro links slash _ l name rest target found hturn hgo rfl ih
    rw [Nat.succ_add, chase_of_link hturn hgo, ih]
  case free =>
    intro links slash l name hturn
    rw [chase_singleton, hturn]
  case file =>
    intro links l name hturn
    rw [chase_singleton, hturn]
    rfl
  case stop =>
    intro links l name target hturn hfollow
    rw [chase_singleton, hturn, hfollow]
    rfl

/-! ## Whole paths -/

/-- Where a path starts. -/
def startOf (d : Disk) (p : Path) : Location := if p.isAbsolute then [] else d.workingDirectory

theorem locate_eq (d : Disk) (p : Path) (follow slash : Bool) :
    d.locate p follow slash =
      if p.bytes.isEmpty then .error .notFound
      else if !isPassable p then .error .notPossible
      else if !d.hasDirectory (d.startOf p) then .error .notFound
      else d.chase follow linkLimit slash (d.startOf p) p.segments := rfl

/-- A path leads somewhere if it can be handed to the system and its names lead there. -/
theorem locate_eq_ok_iff {d : Disk} {p : Path} {follow slash : Bool} {found : Found} :
    d.locate p follow slash = .ok found ↔
      p.bytes ≠ [] ∧ isPassable p = true ∧ d.hasDirectory (d.startOf p) = true ∧
        d.chase follow linkLimit slash (d.startOf p) p.segments = .ok found := by
  rw [locate_eq]
  by_cases hne : p.bytes = []
  · simp [hne]
  · by_cases hpass : isPassable p = true
    · by_cases hstart : d.hasDirectory (d.startOf p) = true
      · simp [hne, hpass, hstart]
      · simp [hne, hpass, hstart]
    · simp [hne, hpass]

theorem place?_eq_ok_iff_resolve {d : Disk} {p : Path} {follow : Bool} {l : Location} :
    d.place? p follow = .ok l ↔ d.resolve p follow = .ok (.entry l) := by
  rw [place?]
  rcases d.resolve p follow with e | place | ⟨m, name⟩
  · simp
  · simp
  · simp

theorem place?_eq_ok_iff {d : Disk} {p : Path} {follow : Bool} {l : Location} :
    d.place? p follow = .ok l ↔
      p.bytes ≠ [] ∧ isPassable p = true ∧ d.hasDirectory (d.startOf p) = true ∧
        d.chase follow linkLimit p.endsInSeparator (d.startOf p) p.segments =
          .ok (.entry l) := by
  rw [place?_eq_ok_iff_resolve, resolve, locate_eq_ok_iff]

theorem place?_of_not_link {d : Disk} {p : Path} {l : Location} (h : d.place? p false = .ok l)
    (hl : ∀ target, d.at? l ≠ some (.link target)) : d.place? p = .ok l := by
  obtain ⟨hne, hpass, hstart, hchase⟩ := place?_eq_ok_iff.1 h
  exact place?_eq_ok_iff.2 ⟨hne, hpass, hstart, chase_of_not_link hchase hl⟩

end Codemod.Disk
