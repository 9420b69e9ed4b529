import Codemod.Disk.Walk
import Codemod.Proofs.Disk.WellFormed
import Mathlib.Logic.Relation

set_option autoImplicit false

/-! # Ways through directories

What the entries of a directory lead to does not depend on the way to the directory (`Leads`), and a
directory reaches what its entries lead to, and so on (`Reaches`). A walk comes to a directory by a
path (`Trail`), and what it meets there is what the entry leads to, as long as the system follows
the longer path as well (`leads_of_place?_join`, `Unhindered`). -/

namespace Codemod.Disk

/-! ## What directories reach -/

/-- An entry of a directory leads to a place, links being followed. -/
def Leads (d : Disk) (b : Location) (name : Name) (c : Location) : Prop :=
  (∃ entry, (name, entry) ∈ d.children b) ∧
    d.chase true linkLimit false b [name] = .ok (.entry c)

/-- A directory lies in another one, or a link in that one leads to it. -/
def IsSub (d : Disk) (b c : Location) : Prop := d.hasDirectory c = true ∧ ∃ name, d.Leads b name c

/-- A directory can be reached from another one through directories and links to directories. -/
def Reaches (d : Disk) : Location → Location → Prop := Relation.ReflTransGen d.IsSub

/-- All directories can be listed and searched. -/
def Readable (d : Disk) : Prop :=
  ∀ l rights, d.at? l = some (.directory rights) → rights.readable = true ∧ rights.searchable = true

theorem Readable.rightsAt {d : Disk} (h : d.Readable) {l : Location}
    (hl : d.hasDirectory l = true) :
    (d.rightsAt l).readable = true ∧ (d.rightsAt l).searchable = true := by
  obtain ⟨rights, hat⟩ := hasDirectory_iff.1 hl
  rw [Disk.rightsAt, hat]
  exact h l rights hat

theorem Readable.of_entries {d : Disk}
    (h : ∀ e ∈ d.entries, ∀ rights, e.2 = .directory rights →
      rights.readable = true ∧ rights.searchable = true) : d.Readable := by
  intro l rights hat
  by_cases hl : l = []
  · subst hl
    cases hat
    exact ⟨rfl, rfl⟩
  · exact h _ (mem_entries_of_at? hat hl) rights rfl

/-- The directories on a way down from a directory, the last one first, and the path that leads to
that one by way of the others. No directory comes twice. -/
inductive Trail (d : Disk) (top : Location) : List Location → Path → Location → Prop
  | start (hroot : d.place? top.path = .ok top) (hdir : d.hasDirectory top = true) :
    Trail d top [top] top.path top
  | step {above : List Location} {p : Path} {b c : Location} {name : Name} {entry : Entry}
    (htrail : Trail d top above p b) (hchild : (name, entry) ∈ d.children b)
    (hplace : d.place? (p.join ⟨name⟩) = .ok c) (hdir : d.hasDirectory c = true)
    (hnew : c ∉ above) : Trail d top (c :: above) (p.join ⟨name⟩) c

/-- Nothing below a directory is out of reach for the system: whatever an entry leads to, the path
by which a walk comes to it leads there too, and so does the path of the place itself. -/
def Unhindered (d : Disk) (top : Location) : Prop :=
  ∀ above p b name c, d.Trail top above p b → d.Leads b name c →
    d.place? (p.join ⟨name⟩) = .ok c ∧ isPassable c.path = true

variable {d : Disk} {top b c : Location} {above : List Location} {p : Path} {name : Name}
  {entry : Entry}

theorem Trail.place? (h : d.Trail top above p b) : d.place? p = .ok b := by
  cases h with
  | start hroot _ => exact hroot
  | step _ _ hplace _ _ => exact hplace

theorem Trail.hasDirectory (h : d.Trail top above p b) : d.hasDirectory b = true := by
  cases h with
  | start _ hdir => exact hdir
  | step _ _ _ hdir _ => exact hdir

theorem Trail.ofDirectory (hd : d.WellFormed) (hread : d.Readable)
    (htop : d.hasDirectory top = true) (hpass : isPassable top.path = true) :
    d.Trail top [top] top.path top := by
  obtain ⟨rights, hat⟩ := hasDirectory_iff.1 htop
  refine .start (hd.place?_path hat (by simp) hpass (fun m hm hne => ?_) true) htop
  exact (hread.rightsAt (hd.hasDirectory_above hat hm hne)).2

/-! ## One name more -/

namespace WellFormed

theorem isEntryName_of_mem_children (hd : d.WellFormed) (h : (name, entry) ∈ d.children b) :
    IsEntryName name :=
  hd.isEntryName_of_at? (hd.mem_children_iff.1 h) (by simp)

end WellFormed

/-- A longer path goes on from the directory that the shorter one leads to, with the links that may
still be followed. -/
theorem place?_join_iff (hp : d.place? p = .ok b) (hb : d.hasDirectory b = true)
    (hname : name.IsPart) :
    ∃ left ≤ linkLimit, ∀ c, d.place? (p.join ⟨name⟩) = .ok c ↔
      isPassable (p.join ⟨name⟩) = true ∧ d.chase true left false b [name] = .ok (.entry c) := by
  obtain ⟨hne, -, hstart, hchase⟩ := place?_eq_ok_iff.1 hp
  obtain ⟨left, henter⟩ := enter_of_chase hchase hb
  refine ⟨left, left_le_of_enter henter, fun c => ?_⟩
  have hstartOf : d.startOf (p.join ⟨name⟩) = d.startOf p := by
    rw [startOf, startOf, Path.isAbsolute_join hne hname]
  rw [place?_eq_ok_iff, hstartOf, Path.segments_join p hname, Path.endsInSeparator_join p hname,
    chase_append _ _ _ _ _ _ (List.cons_ne_nil _ _), henter]
  exact ⟨fun h => ⟨h.2.1, h.2.2.2⟩,
    fun h => ⟨Path.bytes_join_ne_nil p hname, h.1, hstart, h.2⟩⟩

/-- What a longer path leads to, an entry of the directory leads to by itself. -/
theorem leads_of_place?_join (hd : d.WellFormed) (hp : d.place? p = .ok b)
    (hb : d.hasDirectory b = true) (hchild : (name, entry) ∈ d.children b)
    (h : d.place? (p.join ⟨name⟩) = .ok c) : d.Leads b name c := by
  obtain ⟨left, hleft, hiff⟩ :=
    place?_join_iff hp hb (hd.isEntryName_of_mem_children hchild).isPart
  have hchase := chase_add ((hiff c).1 h).2 (linkLimit - left)
  rw [Nat.add_sub_cancel' hleft] at hchase
  exact ⟨⟨entry, hchild⟩, hchase⟩

/-- A longer path leads to a file or a directory that lies in the directory. -/
theorem place?_join_of_mem_children (hd : d.WellFormed) (hp : d.place? p = .ok b)
    (hb : d.hasDirectory b = true) (hchild : (name, entry) ∈ d.children b)
    (hlink : ∀ target, entry ≠ .link target) (hsearch : (d.rightsAt b).searchable = true)
    (hpass : isPassable (p.join ⟨name⟩) = true) :
    d.place? (p.join ⟨name⟩) = .ok (b ++ [name]) := by
  have hname := hd.isEntryName_of_mem_children hchild
  obtain ⟨left, -, hiff⟩ := place?_join_iff hp hb hname.isPart
  rw [hiff]
  refine ⟨hpass, ?_⟩
  rw [chase_singleton, turn_of_isOrdinary hsearch hname.toIsOrdinary, hd.mem_children_iff.1 hchild]
  rcases entry with rights | key | target
  · rfl
  · rfl
  · exact absurd rfl (hlink target)

/-! ## What a walk meets -/

/-- What is met as a file or a directory is what the longer path leads to. -/
def Met (d : Disk) (p : Path) : Visit → Prop
  | .file q c => q = p ∧ d.place? p = .ok c ∧ ∃ key, d.at? c = some (.file key)
  | .directory q c => q = p ∧ d.place? p = .ok c ∧ d.hasDirectory c = true
  | .closed _ | .fault _ => True

theorem meet_met (hd : d.WellFormed) (above : List Location) (hp : d.place? p = .ok b)
    (hb : d.hasDirectory b = true) (hchild : (name, entry) ∈ d.children b) :
    d.Met (p.join ⟨name⟩) (d.meet above (p.join ⟨name⟩) (b ++ [name]) entry) := by
  have hat := hd.mem_children_iff.1 hchild
  have hdropLast : (b ++ [name]).dropLast = b := List.dropLast_concat
  cases entry with
  | directory rights =>
    simp only [meet, hdropLast]
    split
    · rename_i h
      rw [Bool.and_eq_true] at h
      exact ⟨rfl, place?_join_of_mem_children hd hp hb hchild (by simp) h.1 h.2,
        hasDirectory_of_at? hat⟩
    · trivial
  | file key =>
    simp only [meet, hdropLast]
    split
    · rename_i h
      rw [Bool.and_eq_true] at h
      exact ⟨rfl, place?_join_of_mem_children hd hp hb hchild (by simp) h.1 h.2, key, hat⟩
    · trivial
  | link target =>
    simp only [meet]
    split
    · trivial
    · rename_i c hc
      split
      · rename_i hdir
        exact ⟨rfl, hc, (hd.file_or_directory hc).resolve_right (by simpa using hdir)⟩
      · rename_i hdir
        split
        · trivial
        · exact ⟨rfl, hc, by simpa using hdir⟩

/-- A file or a directory that lies in the directory leads to itself. -/
theorem Leads.eq_append (hd : d.WellFormed) (h : d.Leads b name c)
    (hchild : (name, entry) ∈ d.children b) (hlink : ∀ target, entry ≠ .link target) :
    c = b ++ [name] := by
  have hname := (hd.isEntryName_of_mem_children hchild).toIsOrdinary
  obtain ⟨-, hchase⟩ := h
  rcases turn_cases d b name with ⟨hsearch, -⟩ | hturn | hturn
  · rw [chase_singleton, turn_of_isOrdinary hsearch hname, hd.mem_children_iff.1 hchild] at hchase
    rcases entry with rights | key | target
    · cases hchase
      rfl
    · cases hchase
      rfl
    · exact absurd rfl (hlink target)
  · rw [chase_singleton, hturn] at hchase
    cases hchase
  · rw [chase_singleton, hturn] at hchase
    cases hchase

/-- A file that the longer path leads to is met, and so is a directory that is not on the way. -/
theorem meet_of_leads (hd : d.WellFormed) (hb : (d.rightsAt b).searchable = true)
    (hchild : (name, entry) ∈ d.children b) (hleads : d.Leads b name c)
    (hc : d.place? p = .ok c) :
    ((∃ key, d.at? c = some (.file key)) → d.meet above p (b ++ [name]) entry = .file p c) ∧
    (d.hasDirectory c = true →
      d.meet above p (b ++ [name]) entry = .directory p c ∨ c ∈ above) := by
  have hpass := (place?_eq_ok_iff.1 hc).2.1
  have hat := hd.mem_children_iff.1 hchild
  have hdropLast : (b ++ [name]).dropLast = b := List.dropLast_concat
  cases entry with
  | directory rights =>
    obtain rfl := hleads.eq_append hd hchild (by simp)
    simp [meet, hdropLast, hb, hpass, hat]
  | file key =>
    obtain rfl := hleads.eq_append hd hchild (by simp)
    simp [meet, hdropLast, hb, hpass, hasDirectory, hat, isDirectoryEntry]
  | link target =>
    simp only [meet, hc]
    constructor
    · rintro ⟨key, hkey⟩
      simp [hasDirectory, hkey, isDirectoryEntry]
    · intro hdir
      by_cases hmem : c ∈ above
      · exact .inr hmem
      · simp [hdir, hmem]

end Codemod.Disk
