import Codemod.Proofs.TextSource.Restore

set_option autoImplicit false

/-! # Snapshots of streams

A snapshot reads a stream from its start, whatever the sizes of the pieces in which the bytes come,
and puts the cursor back before it says whether a read has failed. So the place of the cursor plays
no part in a snapshot and is the same after it, unless it is the seek call back that fails
(`snapshotStep_run_cases`). -/

namespace Codemod

namespace Stream

variable {α β : Type}

/-! ## Steps that only read -/

/-- A step that moves the cursor and does nothing else; how many seek calls were made before is
nothing to it. -/
def OnlyReads (step : Step α) : Prop :=
  ∀ s : Stream, ∃ result position, ∀ calls,
    step.run.run { s with seekCalls := calls } = (result, { s with position, seekCalls := calls })

namespace OnlyReads

theorem pure (a : α) : OnlyReads (Pure.pure a : Step α) :=
  fun s => ⟨.ok a, s.position, fun _ => rfl⟩

theorem bind {step : Step α} {next : α → Step β} (h : OnlyReads step)
    (hnext : ∀ a, OnlyReads (next a)) : OnlyReads (step >>= next) := by
  intro s
  obtain ⟨result, position, hrun⟩ := h s
  rcases result with e | a
  · exact ⟨.error e, position, fun calls => by rw [run_bind, hrun]⟩
  · obtain ⟨result', position', hrun'⟩ := hnext a { s with position }
    exact ⟨result', position', fun calls => by rw [run_bind, hrun]; exact hrun' calls⟩

/-- What a step does may depend on the length of the content. -/
theorem length {step : Nat → Step α} (h : ∀ n, OnlyReads (step n)) :
    OnlyReads (do step (← get).content.length) := by
  intro s
  obtain ⟨result, position, hrun⟩ := h s.content.length s
  exact ⟨result, position, fun calls => by rw [run_bind, run_get]; exact hrun calls⟩

end OnlyReads

theorem onlyReads_read (n : Nat) : OnlyReads (read n) := by
  intro s
  refine ⟨if s.isFaulty then .error s.readFault else .ok (s.available n),
    if s.isFaulty then s.position else s.position + (s.available n).length, fun calls => ?_⟩
  have hfaulty : ({ s with seekCalls := calls } : Stream).isFaulty = s.isFaulty := rfl
  rw [read_run, hfaulty]
  cases s.isFaulty with
  | true => rfl
  | false => rfl

theorem onlyReads_readAll (fuel : Nat) (acc : List UInt8) : OnlyReads (readAll fuel acc) := by
  induction fuel generalizing acc with
  | zero => exact .pure acc
  | succ fuel ih =>
    refine .length fun n => (onlyReads_read (n + 1)).bind fun bytes => ?_
    split
    · exact .pure acc
    · exact ih (acc ++ bytes)

theorem onlyReads_readToEnd : OnlyReads readToEnd :=
  .length fun n => onlyReads_readAll (n + 1) []

theorem onlyReads_readSome (fuel n : Nat) (acc : List UInt8) : OnlyReads (readSome fuel n acc) := by
  induction fuel generalizing n acc with
  | zero => exact .pure acc
  | succ fuel ih =>
    cases n with
    | zero => exact .pure acc
    | succ n =>
      refine (onlyReads_read (n + 1)).bind fun bytes => ?_
      split
      · exact .pure acc
      · exact ih _ (acc ++ bytes)

end Stream

namespace TextSource

/-! ## Snapshots -/

/-- A snapshot, whatever fails on the way. Once the stream has been rewound there is one way in which
the cursor is lost: the seek call back fails. Then the snapshot fails too. -/
theorem snapshotStep_run_cases (s : Stream) :
    ∃ result position,
      Stream.readToEnd.run.run { s.called.called with position := 0 } =
        (result, { s.called.called with position }) ∧
      snapshotStep.run.run s =
        if s.refuses 1 then (.error s.seekFault, { s with seekCalls := s.seekCalls + 1 })
        else if s.refuses 2 then (.error s.seekFault, { s with seekCalls := s.seekCalls + 2 })
        else if s.refuses 3 then
          (.error s.seekFault, { s with position, seekCalls := s.seekCalls + 3 })
        else (result, { s with seekCalls := s.seekCalls + 3 }) := by
  obtain ⟨result, position, hread⟩ :=
    Stream.onlyReads_readToEnd { s.called.called with position := 0 }
  replace hread := hread s.called.called.seekCalls
  refine ⟨result, position, hread, ?_⟩
  cases h₁ : s.refuses 1 with
  | true =>
    simp only [snapshotStep, run_bind, Stream.tell_run, h₁, if_true]
    rfl
  | false =>
    cases h₂ : s.refuses 2 with
    | true =>
      simp only [snapshotStep, run_bind, Stream.tell_run, Stream.seek_run, Stream.sought, h₁, h₂,
        Stream.called_refuses, Bool.false_eq_true, if_false, if_true]
      rfl
    | false =>
      have hback : ({ s.called.called with position } : Stream).refuses 1 = s.refuses 3 := rfl
      simp only [snapshotStep, run_bind, Stream.tell_run, Stream.seek_run, Stream.sought, h₁, h₂,
        Stream.called_refuses, Bool.false_eq_true, if_false, run_tryCatch, run_map]
      -- The result of reading is looked at last, after the seek call back.
      rcases result with text | bytes
      · simp only [hread, Except.map, run_pure, hback]
        cases s.refuses 3 with
        | true => rfl
        | false => rfl
      · simp only [hread, Except.map, hback]
        cases s.refuses 3 with
        | true => rfl
        | false => rfl

/-- A snapshot whose three seek calls do not fail: the whole content, or the fault on the way to the
end of it. But for the three calls the stream is as it was. -/
theorem snapshotStep_run {s : Stream} (h : s.Flows) (h₁ : s.refuses 1 = false)
    (h₂ : s.refuses 2 = false) (h₃ : s.refuses 3 = false) :
    snapshotStep.run.run s =
      (if s.isCut then .error s.readFault else .ok s.content,
        { s with seekCalls := s.seekCalls + 3 }) := by
  have hrewound : ({ s.called.called with position := 0 } : Stream).Flows := h
  obtain ⟨_, hread⟩ := hrewound.readToEnd_run (Nat.zero_le _)
  obtain ⟨result, position, hread', hrun⟩ := snapshotStep_run_cases s
  have hresult := congrArg (·.1) (hread'.symm.trans hread)
  rw [hrun, h₁, h₂, h₃]
  exact Prod.ext hresult rfl

/-- A snapshot through a handle on a stream. -/
theorem snapshotBytes_run_of_medium {source : TextSource} {s : Stream} {origin : Nat}
    {restored : Bool} (hmedium : source.medium = .stream s origin restored) :
    snapshotBytes.run.run source =
      ((snapshotStep.run.run s).1.mapError .io,
        { source with medium := .stream (snapshotStep.run.run s).2 origin restored }) := by
  simp only [snapshotBytes, run_bind, run_get, hmedium, onBytes_run, bytes, withBytes]

/-- A snapshot whose seek calls do not fail, through a handle on a stream. -/
theorem snapshotBytes_run_of_stream {source : TextSource} {s : Stream} {origin : Nat}
    {restored : Bool} (hmedium : source.medium = .stream s origin restored) (h : s.Flows)
    (h₁ : s.refuses 1 = false) (h₂ : s.refuses 2 = false) (h₃ : s.refuses 3 = false) :
    snapshotBytes.run.run source =
      (if s.isCut then .error (.io s.readFault) else .ok s.content,
        { source with
          medium := .stream { s with seekCalls := s.seekCalls + 3 } origin restored }) := by
  rw [snapshotBytes_run_of_medium hmedium, snapshotStep_run h h₁ h₂ h₃]
  cases s.isCut with
  | true => rfl
  | false => rfl

end TextSource

end Codemod
