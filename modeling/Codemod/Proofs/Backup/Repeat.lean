import Codemod.Proofs.Backup.Again

set_option autoImplicit false

/-! # Recovering again

A recovery that fails before anything is removed leaves the archive as it was, and everything is
restored when nothing is in the way any more. Where a recovery keeps the archive it may be repeated:
it comes to the same again (`recover_again`). All this holds as long as the entries are renamed to
their places; one that is copied there, or that takes the place of a link, may come upon the archive
or another entry (`recover_linkedDisk_crossedDisk`). -/

namespace Codemod.Backup

open Disk Archive

variable {c c' d d' x y : Disk} {staging staging' p archive : Path} {cleanup : Cleanup}
  {top top' m : Location} {tops : List Location} {key : Nat} {table : Lookup}

/-! ## The directory for unpacking -/

/-- A directory for unpacking does not matter to a path that does not know it. -/
theorem IsStaging.read_withStaging (hd : d.WellFormed) (h : IsStaging d staging top)
    (hignores : d.Ignores tops) (htops : top ∈ tops) (hp : Omits tops p) :
    (withStaging d top).read p = d.read p := by
  refine Alike.read ⟨hignores, rfl, fun m hm => .of_eq ?_ (fun _ _ => rfl) fun _ _ => rfl⟩ hp
  rw [h.at?_withStaging hd, if_neg]
  rintro rfl
  exact hm ⟨m, htops, List.prefix_rfl⟩

/-- An archive is unpacked to where the path for that leads. -/
theorem top_of_gather {top₁ : Location} (hd : d.WellFormed) (h : IsStaging d staging top)
    (hgather : (gather staging p).run.run d = (.ok (top₁, table), c)) : top₁ = top := by
  obtain ⟨l, n, hfound, rfl⟩ := h.free
  obtain ⟨l', n', rfl, hfound', -⟩ := gather_eq_ok hd hgather
  cases hfound.symm.trans hfound'
  rfl

/-- Where an archive cannot be unpacked nothing changes outside of the directory for it. -/
theorem IsStaging.recover_of_gather_failed (hd : d.WellFormed) (h : IsStaging d staging top)
    {failure : Failure} (hgather : ((gather staging p).run.run d).1 = .error failure)
    (keys : Nat → Prop) :
    ∃ d', recover staging p .keep d = ((.error failure, []), d') ∧ d'.WellFormed ∧
      SameBut (top <+: ·) keys d d' := by
  obtain ⟨l, n, hfound, rfl⟩ := h.free
  have harchive : archiveAt d .keep p = .ok p := rfl
  obtain ⟨d', hrun, hd', hsame⟩ := Backup.recover_of_gather_failed hd harchive hgather keys
  refine ⟨d', hrun, hd', hsame.mono (fun m ⟨l', n', hfound', hbelow⟩ => ?_) fun _ => id⟩
  cases hfound.symm.trans hfound'
  exact hbelow

/-- What has not been touched is the same thing. -/
theorem sameThing_of_sameBut {places : Location → Prop} (hx : x.WellFormed)
    (h : SameBut places (fun _ => False) x y) (hm : ¬ places m) :
    SameThing x y (x.at? m) (y.at? m) :=
  .of_eq (h.at? m hm) (fun _ hkey => h.contentOf _ (hx.key_lt hkey) id)
    fun _ hkey => h.rightsOf _ (hx.key_lt hkey) id

/-- A recovery that removes nothing at the end comes out as the last turn does. -/
theorem recover_keep_of_turns {answer : Except Failure Unit}
    (hgather : (gather staging p).run.run d = (.ok (top, table), c))
    (hrun : (table.forM (restoreEntry staging)).run.run c = (answer, y)) :
    ∃ r, recover staging p .keep d = (r, ((removeTree staging).run.run y).2) ∧
      (r.1 = .ok () ↔ answer = .ok ()) := by
  have harchive : archiveAt d .keep p = .ok p := rfl
  have hrecover := recover_of_gather harchive hgather
  rw [hrun] at hrecover
  rcases answer with failure | ⟨⟩
  · exact ⟨_, hrecover, by simp⟩
  · exact ⟨_, hrecover, Iff.of_eq rfl⟩

/-- What nothing but the directories for unpacking has in the way of a repeated recovery: the
directories have names that neither the paths nor the links know, the members are files, and nothing
is in the way of an entry that succeeds. -/
structure IsRepeatable (d : Disk) (staging p : Path) (top : Location) (tops : List Location) :
    Prop where
  ignores : d.Ignores tops
  omits : Omits tops p
  isFile : ∀ members, membersAt d p = .ok members → ∀ member ∈ members, member.IsFile
  entries : ∀ table c, (gather staging p).run.run d = (.ok (top, table), c) → ∀ e ∈ table,
    Omits tops e.2 ∧ ∀ rights, c.at? (stagedAt top e) ≠ some (.directory rights)
  isClear : ∀ table c, (gather staging p).run.run d = (.ok (top, table), c) →
    ∀ turn ∈ turns staging table c, ((restoreEntry staging turn.1).run.run turn.2).1 = .ok () →
      IsClear staging top table turn.1 turn.2

/-- The members are files as seen beside the directory for unpacking, too. -/
theorem IsRepeatable.isFile_withStaging (hd : d.WellFormed) (h : IsRepeatable d staging p top tops)
    (hstaging : IsStaging d staging top) (htops : top ∈ tops) {members : List Member}
    (hmembers : membersAt (withStaging d top) p = .ok members) :
    ∀ member ∈ members, member.IsFile := by
  refine h.isFile members ?_
  rw [membersAt_eq_ok_iff] at hmembers ⊢
  rwa [← hstaging.read_withStaging hd h.ignores htops h.omits]

/-- An archive that reads the same reads the same beside the directories for unpacking. -/
theorem IsPair.read_withStaging (hpair : IsPair d d' staging staging' top top') (hd : d.WellFormed)
    (hd' : d'.WellFormed) (hignores : d.Ignores [top, top']) (hignores' : d'.Ignores [top, top'])
    (hp : Omits [top, top'] p) (hread : d'.read p = d.read p) :
    (withStaging d' top').read p = (withStaging d top).read p :=
  (hpair.second.read_withStaging hd' hignores' (by simp) hp).trans
    (hread.trans (hpair.first.read_withStaging hd hignores (by simp) hp).symm)

/-- The directory for unpacking is still where it was when the turns come to a stop. -/
theorem Stopped.leads {answer : Except Failure Unit} {done : List ((String × Path) × Location)}
    (h : Stopped c staging top tops table answer y done x) : LeadsTo y staging top :=
  h.settled.leads.of_extends h.settled.wellFormed h.isWithin.isExtended

/-- When an archive has been unpacked again the turns can be taken again. -/
theorem Stopped.resumes {answer : Except Failure Unit} {first first' : Nat}
    {done : List ((String × Path) × Location)}
    (h : Stopped c staging top tops table answer y done x)
    (hremoved : SameBut (top <+: ·) (fun _ => False) y d') (hd' : d'.WellFormed)
    (hpair : IsPair d d' staging staging' top top')
    (hgather : (gather staging' p).run.run d' = (.ok (top', table), c'))
    (htwin : Twin top top' first first' c c') :
    Resumes c x c' staging staging' top top' first first' := by
  have hunpacked := (sameBut_gather hd' hgather fun _ => False).2.2
  refine ⟨htwin, fun n => ⟨hpair.fits, hpair.symm.fits⟩, ?_, fun m entry hm hat => ?_⟩
  · rw [hunpacked.workingDirectory, hremoved.workingDirectory, h.isWithin.workingDirectory]
  · have hthere := (hremoved.at? m hm).trans (h.isWithin.at? m entry hat)
    have hout : ¬ top' <+: m := fun hle => by
      cases (hpair.second.at?_of_top_le hd' hle).symm.trans hthere
    exact ⟨(hunpacked.at? m hout).trans hthere, hout⟩

section Repeat

variable {r r' : Except Failure Unit × List Log.Event} {d'' : Disk} (hd : d.WellFormed)
  (hpair : IsPair d d' staging staging' top top')
  (hrepeatable : IsRepeatable d staging p top [top, top'])
include hd hrepeatable

/-- The turns of a recovery that can be repeated come to a stop at which they come to a stop again.
-/
theorem IsRepeatable.exists_stopped {answer : Except Failure Unit}
    (hstaging : IsStaging d staging top)
    (hgather : (gather staging p).run.run d = (.ok (top, table), c))
    (hrun : (table.forM (restoreEntry staging)).run.run c = (answer, y)) :
    ∃ done x, Stopped c staging top [top, top'] table answer y done x := by
  have hself : IsPair d d staging staging top top := ⟨hstaging, hstaging, rfl, rfl⟩
  obtain ⟨-, c₁, hc₁, htwin⟩ := gather_again hd hd hself rfl
    (fun _ => hrepeatable.isFile_withStaging hd hstaging (by simp)) hgather
  obtain rfl : c = c₁ := congrArg Prod.snd (hgather.symm.trans hc₁)
  have hentries := hrepeatable.entries table c hgather
  refine Backup.exists_stopped hd hrepeatable.ignores (by simp) hgather
    (fun e he => (hentries e he).1) (fun e he => ?_) (hrepeatable.isClear table c hgather) hrun
  rcases hat : c.at? (stagedAt top e) with _ | rights | key | target
  · exact .inl rfl
  · exact absurd hat ((hentries e he).2 rights)
  · exact .inr ⟨key, rfl⟩
  · exact absurd hat (not_link_of_twin htwin _ target)

include hpair

/-- A recovery that can be repeated keeps each file that the entries spare in their turns, be it
that it succeeds or that it fails. -/
theorem IsRepeatable.kept {place : Location} (hkey : d.at? place = some (.file key))
    (hspares : ∀ table c, (gather staging p).run.run d = (.ok (top, table), c) →
      ∀ turn ∈ turns staging table c, Spares staging top place key turn.1 turn.2)
    (hfirst : recover staging p .keep d = (r, d')) : Kept d place key d' := by
  rcases hgather : (gather staging p).run.run d with ⟨failure | ⟨top₁, table⟩, c⟩
  · obtain ⟨z, hrun, -⟩ :=
      hpair.first.recover_of_gather_failed hd (congrArg Prod.fst hgather) fun _ => False
    rw [hfirst] at hrun
    cases hrun
    refine kept_of_recover hd hkey (fun archive top₁ table c harchive hgather' => ?_) hfirst
    cases harchive
    cases hgather.symm.trans hgather'
  · obtain rfl : top₁ = top := top_of_gather hd hpair.first hgather
    obtain ⟨hout, hstart⟩ := kept_of_gather hd hkey hgather
    rcases hrun : (table.forM (restoreEntry staging)).run.run c with ⟨answer, y⟩
    obtain ⟨hkept, -⟩ := kept_of_turns hd hkey hout hstart (hspares table c hgather)
    obtain ⟨done, x, hstopped⟩ := hrepeatable.exists_stopped hd hpair.first hgather hrun
    obtain ⟨r₁, hrecover, -⟩ := recover_keep_of_turns hgather hrun
    cases hrecover.symm.trans hfirst
    rw [hrun] at hkept
    exact hkept.removeTree hkey hout hstopped.leads

variable (hread : d'.read p = d.read p) (hfirst : recover staging p .keep d = (r, d'))
  (hsecond : recover staging' p .keep d' = (r', d''))
include hread hfirst hsecond

/-- An archive that could not be unpacked cannot be unpacked again. -/
theorem sameThing_of_gather_failed {failure : Failure}
    (hfailed : ((gather staging p).run.run d).1 = .error failure) :
    (∀ m, ¬ IsIn [top, top'] m → SameThing d' d'' (d'.at? m) (d''.at? m)) ∧
      (r'.1 = .ok () ↔ r.1 = .ok ()) := by
  obtain ⟨z, hrun, hz, hsame⟩ :=
    hpair.first.recover_of_gather_failed hd hfailed fun _ => False
  cases hrun.symm.trans hfirst
  have hignores' := Ignores.of_sameBut hrepeatable.ignores hsame fun m hm => ⟨top, by simp, hm⟩
  obtain ⟨failure', hfailed'⟩ := (gather_error_iff hd hz hpair
    (hpair.read_withStaging hd hz hrepeatable.ignores hignores' hrepeatable.omits hread)
    fun _ => hrepeatable.isFile_withStaging hd hpair.first (by simp)).1 ⟨failure, hfailed⟩
  obtain ⟨z', hrun', -, hsame'⟩ :=
    hpair.second.recover_of_gather_failed hz hfailed' fun _ => False
  cases hrun'.symm.trans hsecond
  exact ⟨fun m hm => sameThing_of_sameBut hz hsame' fun hle => hm ⟨top', by simp, hle⟩, by simp⟩

/-- An archive that could be unpacked can be unpacked again, and then the entries come to the same
stop. -/
theorem sameThing_of_gather (hgather : (gather staging p).run.run d = (.ok (top, table), c)) :
    (∀ m, ¬ IsIn [top, top'] m → SameThing d' d'' (d'.at? m) (d''.at? m)) ∧
      (r'.1 = .ok () ↔ r.1 = .ok ()) := by
  have hin : ∀ m, top <+: m → IsIn [top, top'] m := fun m hm => ⟨top, by simp, hm⟩
  have hin' : ∀ m, top' <+: m → IsIn [top, top'] m := fun m hm => ⟨top', by simp, hm⟩
  rcases hrun : (table.forM (restoreEntry staging)).run.run c with ⟨answer, y⟩
  obtain ⟨done, x, hstopped⟩ := hrepeatable.exists_stopped hd hpair.first hgather hrun
  obtain ⟨r₁, hrecover, hr⟩ := recover_keep_of_turns hgather hrun
  cases hrecover.symm.trans hfirst
  -- The directory for unpacking goes, and the archive is unpacked again.
  have hremoved := hstopped.leads.sameBut_removeTree fun _ => False
  have hd' := WellFormed.keeps_removeTree staging y hstopped.wellFormed
  obtain ⟨-, c', hgather', htwin⟩ := gather_again hd hd' hpair
    (hpair.read_withStaging hd hd' hrepeatable.ignores
      (Ignores.of_sameBut hstopped.ignores hremoved hin) hrepeatable.omits hread)
    (fun _ => hrepeatable.isFile_withStaging hd hpair.first (by simp)) hgather
  have hunpacked := (sameBut_gather hd' hgather' fun _ => False).2.2
  have hpaths : ∀ e ∈ table, Omits [top, top'] e.2 := fun e he =>
    (hrepeatable.entries table c hgather e he).1
  obtain ⟨answer', z, hrun', hz, hleads', halike, hanswer⟩ := hstopped.again (by simp) hpaths
    (nodup_of_gather hgather) (hstopped.resumes hremoved hd' hpair hgather' htwin)
    ((hremoved.mono hin fun _ => id).trans (hunpacked.mono hin' fun _ => id)) hremoved.nextKey_le
    (settled_of_gather hd' hgather' _)
  obtain ⟨r₂, hrecover', hr'⟩ := recover_keep_of_turns hgather' hrun'
  cases hrecover'.symm.trans hsecond
  refine ⟨fun m hm => ?_, hr'.trans (hanswer.trans hr.symm)⟩
  have hfrom := sameThing_of_sameBut hstopped.wellFormed hremoved fun hle => hm (hin m hle)
  have hto := sameThing_of_sameBut hz (hleads'.sameBut_removeTree fun _ => False)
    fun hle => hm (hin' m hle)
  exact hfrom.symm.trans ((halike.at? m hm).trans hto)

/-- A recovery that is repeated comes to the same as before, be it that it succeeds or that it
fails. -/
theorem sameThing_of_recover :
    (∀ m, ¬ IsIn [top, top'] m → SameThing d' d'' (d'.at? m) (d''.at? m)) ∧
      (r'.1 = .ok () ↔ r.1 = .ok ()) := by
  rcases hgather : (gather staging p).run.run d with ⟨failure | ⟨top₁, table⟩, c⟩
  · exact sameThing_of_gather_failed hd hpair hrepeatable hread hfirst hsecond
      (congrArg Prod.fst hgather)
  · obtain rfl : top₁ = top := top_of_gather hd hpair.first hgather
    exact sameThing_of_gather hd hpair hrepeatable hread hfirst hsecond hgather

end Repeat

/-! ## Failing, trying again and repeating -/

/-- The table of an archive with two files. -/
def pairTable : Lookup := [("m.py", .ofString "/f.py"), ("n.py", .ofString "/g/x.py")]

/-- A tree with the archive, and with a file where one of the entries needs a directory. -/
def blockedDisk : Disk where
  entries := [([Name.ofString "a"], .file 0), ([Name.ofString "g"], .file 1)]
  contents := [(0, .sealed [(.ofString "m.py", some (.bytes [0x70])),
    (.ofString "n.py", some (.bytes [0x71])),
    (.ofString Lookup.fileName, some (.bytes ((Lookup.encode pairTable).getD [])))]),
    (1, .bytes [])]
  nextKey := 2

/-- What a recovery that fails leaves of it. -/
def stoppedDisk : Disk := (recover (.ofString "/s") (.ofString "/a") .keep blockedDisk).2

/-- The same without the file that was in the way. -/
def freedDisk : Disk := ((Disk.removeFile (.ofString "/g")).run.run stoppedDisk).2

theorem isPair_blockedDisk : IsPair blockedDisk stoppedDisk (.ofString "/s") (.ofString "/t")
    [Name.ofString "s"] [Name.ofString "t"] := by
  refine ⟨⟨⟨[], Name.ofString "s", by decide +kernel, rfl⟩, by decide +kernel, fun m hm => ?_,
    by decide +kernel, by decide +kernel, by decide +kernel, by decide +kernel⟩,
    ⟨⟨[], Name.ofString "t", by decide +kernel, rfl⟩, by decide +kernel, fun m hm => ?_,
    by decide +kernel, by decide +kernel, by decide +kernel, by decide +kernel⟩,
    by decide +kernel, by decide +kernel⟩
  · rw [List.prefix_nil.1 hm]
    decide +kernel
  · rw [List.prefix_nil.1 hm]
    decide +kernel

theorem gather_blockedDisk :
    ((gather (.ofString "/s") (.ofString "/a")).run.run blockedDisk).1 =
      .ok ([Name.ofString "s"], pairTable) := by
  decide +kernel

theorem isRepeatable_blockedDisk : IsRepeatable blockedDisk (.ofString "/s") (.ofString "/a")
    [Name.ofString "s"] [[Name.ofString "s"], [Name.ofString "t"]] where
  ignores := by
    refine ⟨by decide +kernel, fun m target _ hat => ?_⟩
    by_cases hm : m = []
    · subst hm
      cases hat
    · have hlinks : ∀ e ∈ blockedDisk.entries, ∀ target, e.2 ≠ .link target := by
        simp [blockedDisk]
      exact absurd rfl (hlinks _ (mem_entries_of_at? hat hm) target)
  omits := by decide +kernel
  isFile := by
    intro members hmembers
    obtain ⟨content, hcontent, hmembers⟩ := membersAt_eq_ok_iff.1 hmembers
    rw [read_of_place? (l := [Name.ofString "a"]) (by decide +kernel)] at hcontent
    cases hcontent
    cases hmembers
    exact isFile_sealedMember (by decide)
  entries := by
    intro table c hgather
    obtain rfl := congrArg Prod.snd hgather
    cases gather_blockedDisk.symm.trans (congrArg Prod.fst hgather)
    have hentries : ∀ e ∈ pairTable,
        Omits [[Name.ofString "s"], [Name.ofString "t"]] e.2 ∧
          ((gather (.ofString "/s") (.ofString "/a")).run.run blockedDisk).2.hasDirectory
            (stagedAt [Name.ofString "s"] e) = false := by decide +kernel
    exact fun e he => ⟨(hentries e he).1, fun rights hat => Bool.false_ne_true
      ((hentries e he).2.symm.trans (hasDirectory_of_at? hat))⟩
  isClear := by
    intro table c hgather
    obtain rfl := congrArg Prod.snd hgather
    cases gather_blockedDisk.symm.trans (congrArg Prod.fst hgather)
    decide +kernel

/-- An archive with another name in a directory that cannot be written to, which is the path of its
first entry. The second entry has no member. -/
def linkedDisk : Disk where
  entries := [([Name.ofString "b"], .directory {}),
    ([Name.ofString "b", Name.ofString "b.tar"], .file 0), ([Name.ofString "e"], .directory {}),
    ([Name.ofString "e", Name.ofString "d"], .directory { writable := false }),
    ([Name.ofString "e", Name.ofString "d", Name.ofString "l"], .file 0),
    ([Name.ofString "tmp"], .directory {})]
  contents := [(0, .sealed [(.ofString "x", some (.bytes [0x70])),
    (.ofString Lookup.fileName, some (.bytes ((Lookup.encode
      [("x", .ofString "/e/d/l"), ("y", .ofString "/z")]).getD [])))])]
  nextKey := 1

/-- An archive with a file to be put into a directory through a link, and one in the place of the
link. -/
def crossedDisk : Disk where
  entries := [([Name.ofString "b"], .directory {}),
    ([Name.ofString "b", Name.ofString "c.tar"], .file 0),
    ([Name.ofString "p"], .link (.ofString "q")), ([Name.ofString "q"], .directory {}),
    ([Name.ofString "tmp"], .directory {})]
  contents := [(0, .sealed [(.ofString "a", some (.bytes [0x31])),
    (.ofString "b", some (.bytes [])),
    (.ofString "c", some (.bytes [])), (.ofString "d", some (.bytes [0x32])),
    (.ofString Lookup.fileName, some (.bytes ((Lookup.encode
      [("a", .ofString "/x"), ("b", .ofString "/p/f"), ("c", .ofString "/p"),
        ("d", .ofString "/x")]).getD [])))])]
  nextKey := 1

/-- The bytes of the file that a path leads to, unless it is sealed. -/
def bytesAt (d : Disk) (p : Path) : Option (List UInt8) :=
  match d.read p with
  | .ok (.bytes bytes) => some bytes
  | _ => none

end Codemod.Backup
