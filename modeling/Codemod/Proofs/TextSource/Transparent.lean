import Codemod.Proofs.TextSource.Snapshot

set_option autoImplicit false

/-! # Snapshots are transparent

Taking a snapshot and staging output leave a handle what it was, but for the output and the number
of seek calls (`Beside`), as long as the seek call back does not fail. Reading depends on neither of
the two (`ReadsAlike`), so what is read in between shows nothing of them. The main statement is
`snapshots_transparent`. -/

namespace Codemod.TextSource

variable {source other : TextSource} {s : Stream}

/-! ## Operations that are no reads -/

/-- Whether an operation reads on from the cursor. -/
def Operation.isRead : Operation → Bool
  | .read _ | .readExact _ | .readToEnd | .readToString => true
  | _ => false

/-- Whether an operation takes a snapshot. -/
def Operation.isSnapshot : Operation → Bool
  | .snapshot | .snapshotBytes => true
  | _ => false

/-- Whether an operation takes a snapshot or has to do with the output. -/
def Operation.isAside : Operation → Bool
  | .snapshot | .snapshotBytes | .write _ | .output => true
  | _ => false

/-- The operations that are left when snapshots and output are left out. -/
def plainly (ops : List Operation) : List Operation := ops.filter fun op => !op.isAside

/-- The answers to those operations that are reads. -/
def readAnswers (ops : List Operation) (answers : List Answer) : List Answer :=
  ((ops.zip answers).filter fun x => x.1.isRead).map (·.2)

theorem plainly_cons (op : Operation) (rest : List Operation) :
    plainly (op :: rest) = if op.isAside then plainly rest else op :: plainly rest := by
  rw [plainly, List.filter_cons]
  cases op.isAside with
  | true => rfl
  | false => rfl

theorem readAnswers_cons (op : Operation) (ops : List Operation) (answer : Answer)
    (answers : List Answer) :
    readAnswers (op :: ops) (answer :: answers) =
      if op.isRead then answer :: readAnswers ops answers else readAnswers ops answers := by
  rw [readAnswers, List.zip_cons_cons, List.filter_cons]
  cases op.isRead with
  | true => rfl
  | false => rfl

/-! ## Handles side by side -/

/-- Two handles are the same but for the output and the number of seek calls. -/
def Beside (source other : TextSource) : Prop :=
  ∃ calls staged,
    other = { source.withBytes { source.bytes with seekCalls := calls } with staged }

/-- The handle with its cursor at another place. -/
def moved (source : TextSource) (position : Nat) : TextSource :=
  source.withBytes { source.bytes with position }

@[simp]
theorem bytes_withBytes (source : TextSource) (bytes : Stream) :
    (source.withBytes bytes).bytes = bytes := by
  rcases source with ⟨s | ⟨s, origin, restored⟩, staged⟩
  · rfl
  · rfl

@[simp]
theorem withBytes_withBytes (source : TextSource) (bytes bytes' : Stream) :
    (source.withBytes bytes).withBytes bytes' = source.withBytes bytes' := by
  rcases source with ⟨s | ⟨s, origin, restored⟩, staged⟩
  · rfl
  · rfl

@[simp]
theorem withBytes_bytes (source : TextSource) : source.withBytes source.bytes = source := by
  rcases source with ⟨s | ⟨s, origin, restored⟩, staged⟩
  · rfl
  · rfl

theorem beside_refl (source : TextSource) : Beside source source :=
  ⟨source.bytes.seekCalls, source.staged, by
    rcases source with ⟨s | ⟨s, origin, restored⟩, staged⟩
    · rfl
    · rfl⟩

namespace Beside

theorem bytes_eq (h : Beside source other) :
    other.bytes = { source.bytes with seekCalls := other.bytes.seekCalls } := by
  obtain ⟨calls, staged, rfl⟩ := h
  rcases source with ⟨s | ⟨s, origin, restored⟩, staged'⟩
  · rfl
  · rfl

theorem moved (h : Beside source other) (position : Nat) :
    Beside (source.moved position) (other.moved position) := by
  obtain ⟨calls, staged, rfl⟩ := h
  refine ⟨calls, staged, ?_⟩
  rcases source with ⟨s | ⟨s, origin, restored⟩, staged'⟩
  · rfl
  · rfl

/-- Seek calls may be counted, and output staged, on one side alone. -/
theorem aside (h : Beside source other) (calls : Nat) (staged : String) :
    Beside source { other.withBytes { other.bytes with seekCalls := calls } with staged } := by
  obtain ⟨calls', staged', rfl⟩ := h
  refine ⟨calls, staged, ?_⟩
  rcases source with ⟨s | ⟨s, origin, restored⟩, staged''⟩
  · rfl
  · rfl

end Beside

/-! ## Reading -/

/-- An action that moves the cursor and comes to the same on all handles beside one another. -/
def ReadsAlike {ε α : Type} (action : Action ε α) : Prop :=
  ∀ source, ∃ result position, ∀ other, Beside source other →
    action.run.run other = (result, other.moved position)

namespace ReadsAlike

variable {ε α β : Type}

theorem of_onlyReads (wrap : String → ε) {step : Stream.Step α} (h : Stream.OnlyReads step) :
    ReadsAlike (onBytes wrap step) := by
  intro source
  obtain ⟨result, position, hrun⟩ := h source.bytes
  refine ⟨result.mapError wrap, position, fun other hother => ?_⟩
  rw [onBytes_run, hother.bytes_eq, hrun, TextSource.moved, hother.bytes_eq]

/-- What was read may be refused afterwards. -/
theorem bind_except {action : Action ε α} (h : ReadsAlike action) (next : α → Except ε β) :
    ReadsAlike (action >>= fun a => (ExceptT.mk (Pure.pure (next a)) : Action ε β)) := by
  intro source
  obtain ⟨result, position, hrun⟩ := h source
  refine ⟨result.bind next, position, fun other hother => ?_⟩
  rw [run_bind, hrun other hother]
  rcases result with e | a
  · rfl
  · rfl

end ReadsAlike

theorem readsAlike_read (n : Nat) : ReadsAlike (read n) :=
  .of_onlyReads _ (Stream.onlyReads_read n)

theorem readsAlike_readToEnd : ReadsAlike readToEnd :=
  .of_onlyReads _ Stream.onlyReads_readToEnd

theorem readsAlike_readExact (n : Nat) : ReadsAlike (readExact n) := by
  have h := (ReadsAlike.of_onlyReads ReadError.io
    (Stream.onlyReads_readSome (n + 1) n [])).bind_except
    fun bytes => if bytes.length < n then .error .notFilled else .ok bytes
  refine (congrArg ReadsAlike ?_).mp h
  refine congrArg _ (funext fun bytes => ?_)
  split
  · rfl
  · rfl

theorem readsAlike_readToString : ReadsAlike readToString := by
  have h := readsAlike_readToEnd.bind_except fun bytes =>
    ((Encoding.Utf8.decode bytes).mapError fun _ => .invalidText).map String.ofList
  refine (congrArg ReadsAlike ?_).mp h
  refine congrArg _ (funext fun bytes => ?_)
  rcases Encoding.Utf8.decode bytes with fault | chars
  · rfl
  · rfl

/-- Beside one another, handles answer reads alike and move on alike. -/
theorem perform_of_isRead {op : Operation} (hop : op.isRead = true) (h : Beside source other) :
    ((perform op).run other).1 = ((perform op).run source).1 ∧
      Beside ((perform op).run source).2 ((perform op).run other).2 ∧
      ((perform op).run other).2.isStream = other.isStream ∧
      ∀ n, ((perform op).run other).2.bytes.refuses n = other.bytes.refuses n := by
  have hanswering : ∀ {ε α : Type} (success : α → Answer) (failure : ε → Answer)
      {action : Action ε α}, ReadsAlike action →
        ((answering success failure action).run other).1 =
            ((answering success failure action).run source).1 ∧
          Beside ((answering success failure action).run source).2
            ((answering success failure action).run other).2 ∧
          ((answering success failure action).run other).2.isStream = other.isStream ∧
          ∀ n, ((answering success failure action).run other).2.bytes.refuses n =
            other.bytes.refuses n := by
    intro ε α success failure action haction
    obtain ⟨result, position, hrun⟩ := haction source
    rw [answering_run, answering_run, hrun other h, hrun source (beside_refl source)]
    refine ⟨rfl, h.moved position, ?_, fun n => ?_⟩
    · rcases other with ⟨s | ⟨s, origin, restored⟩, staged⟩
      · rfl
      · rfl
    · rw [TextSource.moved, bytes_withBytes]
      rfl
  cases op with
  | read n => exact hanswering _ _ (readsAlike_read n)
  | readExact n => exact hanswering _ _ (readsAlike_readExact n)
  | readToEnd => exact hanswering _ _ readsAlike_readToEnd
  | readToString => exact hanswering _ _ readsAlike_readToString
  | isStream | origin | snapshot | snapshotBytes | write text | output | describe => cases hop

/-! ## One snapshot -/

/-- Whether it is the seek call back of a snapshot that fails. -/
def losesCursor (source : TextSource) : Bool :=
  source.isStream && !source.bytes.refuses 1 && !source.bytes.refuses 2 && source.bytes.refuses 3

/-- What a snapshot answers: the whole content, or the first thing that fails. -/
def snapshotOutcome (source : TextSource) : Except SourceError (List UInt8) :=
  if !source.isStream then .ok source.bytes.content
  else if source.bytes.refuses 1 || source.bytes.refuses 2 || source.bytes.refuses 3 then
    .error (.io source.bytes.seekFault)
  else if source.bytes.isCut then .error (.io source.bytes.readFault)
  else .ok source.bytes.content

theorem snapshotBytes_outcome (source : TextSource) (h : source.bytes.Flows) :
    (snapshotBytes.run.run source).1 = source.snapshotOutcome := by
  rcases hmedium : source.medium with s | ⟨s, origin, restored⟩
  · simp only [snapshotBytes, run_bind, run_get, hmedium, snapshotOutcome, isStream, bytes]
    rfl
  · simp only [bytes, hmedium] at h
    have hrewound : ({ s.called.called with position := 0 } : Stream).Flows := h
    obtain ⟨_, hread⟩ := hrewound.readToEnd_run (Nat.zero_le _)
    obtain ⟨result, position, hread', hrun⟩ := snapshotStep_run_cases s
    have hresult : result = if s.isCut then .error s.readFault else .ok s.content :=
      congrArg (·.1) (hread'.symm.trans hread)
    rw [snapshotBytes_run_of_medium hmedium, hrun, hresult]
    simp only [snapshotOutcome, isStream, bytes, hmedium, Bool.not_true, Bool.false_eq_true,
      if_false]
    rcases s.refuses 1 <;> rcases s.refuses 2 <;> rcases s.refuses 3 <;> rcases s.isCut <;> rfl

/-- A snapshot makes three seek calls at most, and leaves all else as it was if the last one does
not fail. If it does, the snapshot fails. -/
theorem snapshotBytes_kept (source : TextSource) :
    (source.losesCursor = false → ∃ calls, calls ≤ 3 ∧
      (snapshotBytes.run.run source).2 =
        source.withBytes { source.bytes with seekCalls := source.bytes.seekCalls + calls }) ∧
    (source.losesCursor = true →
      (snapshotBytes.run.run source).1 = .error (.io source.bytes.seekFault)) := by
  rcases hmedium : source.medium with s | ⟨s, origin, restored⟩
  · have hrun : snapshotBytes.run.run source = (.ok s.content, source) := by
      simp only [snapshotBytes, run_bind, run_get, hmedium]
      rfl
    rw [hrun]
    refine ⟨fun _ => ⟨0, Nat.zero_le 3, (withBytes_bytes source).symm⟩, fun hloses => ?_⟩
    simp only [losesCursor, isStream, hmedium] at hloses
    cases hloses
  · obtain ⟨result, position, -, hrun⟩ := snapshotStep_run_cases s
    rw [snapshotBytes_run_of_medium hmedium, hrun]
    simp only [losesCursor, isStream, bytes, withBytes, hmedium, Bool.true_and]
    cases h₁ : s.refuses 1 with
    | true => exact ⟨fun _ => ⟨1, by decide, rfl⟩, by rintro ⟨⟩⟩
    | false =>
      cases h₂ : s.refuses 2 with
      | true => exact ⟨fun _ => ⟨2, by decide, rfl⟩, by rintro ⟨⟩⟩
      | false =>
        cases h₃ : s.refuses 3 with
        | true => exact ⟨by rintro ⟨⟩, fun _ => rfl⟩
        | false => exact ⟨fun _ => ⟨3, by decide, rfl⟩, by rintro ⟨⟩⟩

/-- A snapshot as a text leaves what a snapshot as bytes leaves. -/
theorem snapshot_kept (source : TextSource) :
    (snapshot.run.run source).2 = (snapshotBytes.run.run source).2 := by
  rw [snapshot, run_bind]
  rcases snapshotBytes.run.run source with ⟨e | bytes, kept⟩
  · rfl
  · dsimp only
    cases Encoding.Utf8.decode bytes with
    | ok chars => rfl
    | error fault => rfl

/-! ## Operations in a row -/

/-- The seek calls of some snapshots taken one after another do not fail. -/
def SeeksSucceed (snapshots : Nat) (source : TextSource) : Prop :=
  source.isStream = true → ∀ n < 3 * snapshots, source.bytes.refuses (n + 1) = false

instance (snapshots : Nat) (source : TextSource) : Decidable (SeeksSucceed snapshots source) :=
  inferInstanceAs (Decidable (_ → _))

/-- A snapshot takes its three seek calls from those that do not fail. -/
theorem snapshotBytes_beside {snapshots : Nat} (h : Beside source other)
    (hseeks : SeeksSucceed (snapshots + 1) other) :
    Beside source (snapshotBytes.run.run other).2 ∧
      SeeksSucceed snapshots (snapshotBytes.run.run other).2 := by
  rcases hmedium : other.medium with s | ⟨s, origin, restored⟩
  · have hrun : snapshotBytes.run.run other = (.ok s.content, other) := by
      simp only [snapshotBytes, run_bind, run_get, hmedium]
      rfl
    rw [hrun]
    refine ⟨h, fun hstream => ?_⟩
    simp only [isStream, hmedium] at hstream
    cases hstream
  · have hstream : other.isStream = true := by rw [isStream, hmedium]
    have hbytes : other.bytes = s := by rw [bytes, hmedium]
    have hcalls := hseeks hstream
    rw [hbytes] at hcalls
    obtain ⟨result, position, -, hrun⟩ := snapshotStep_run_cases s
    rw [hcalls 0 (by omega), hcalls 1 (by omega), hcalls 2 (by omega)] at hrun
    have hkept : (snapshotBytes.run.run other).2 =
        { other.withBytes { other.bytes with seekCalls := s.seekCalls + 3 } with
          staged := other.staged } := by
      rw [snapshotBytes_run_of_medium hmedium, hrun]
      simp only [withBytes, hmedium, hbytes, Bool.false_eq_true, if_false]
    rw [hkept]
    refine ⟨h.aside _ _, fun _ n hn => ?_⟩
    have hlater := hcalls (n + 3) (by omega)
    simp only [Stream.refuses, withBytes, bytes, hmedium] at hlater ⊢
    rw [← hlater]
    congr 1
    omega

/-- Of an operation that is aside nothing is seen from beside. -/
theorem perform_of_isAside {op : Operation} {rest : List Operation} (hop : op.isAside = true)
    (h : Beside source other) (hseeks : SeeksSucceed ((op :: rest).countP (·.isSnapshot)) other) :
    Beside source ((perform op).run other).2 ∧
      SeeksSucceed (rest.countP (·.isSnapshot)) ((perform op).run other).2 := by
  cases op with
  | snapshot =>
    rw [List.countP_cons_of_pos rfl] at hseeks
    rw [perform, answering_run, snapshot_kept]
    exact snapshotBytes_beside h hseeks
  | snapshotBytes =>
    rw [List.countP_cons_of_pos rfl] at hseeks
    rw [perform, answering_run]
    exact snapshotBytes_beside h hseeks
  | write text =>
    rw [List.countP_cons_of_neg Bool.false_ne_true] at hseeks
    have hwrite := h.aside other.bytes.seekCalls (other.staged ++ text)
    rw [withBytes_bytes] at hwrite
    exact ⟨hwrite, hseeks⟩
  | output =>
    rw [List.countP_cons_of_neg Bool.false_ne_true] at hseeks
    exact ⟨h, hseeks⟩
  | isStream | origin | read n | readExact n | readToEnd | readToString | describe => cases hop

/-- The induction over the operations: on one handle all of them are done, on the handle beside it
only those that are not aside. -/
theorem performAll_plainly (ops : List Operation) (h : Beside source other)
    (hseeks : SeeksSucceed (ops.countP (·.isSnapshot)) other) :
    readAnswers (plainly ops) ((performAll (plainly ops)).run source).1 =
        readAnswers ops ((performAll ops).run other).1 ∧
      Beside ((performAll (plainly ops)).run source).2 ((performAll ops).run other).2 := by
  induction ops generalizing source other with
  | nil => exact ⟨rfl, h⟩
  | cons op rest ih =>
    rw [plainly_cons, performAll_run_cons, readAnswers_cons]
    dsimp only
    rcases haside : op.isAside with - | -
    · rcases hread : op.isRead with - | -
      · -- A question about the handle: it leaves the handle as it is, and its answer is no matter.
        have hsame : ∀ handle : TextSource, ((perform op).run handle).2 = handle := by
          intro handle
          cases op with
          | isStream | origin | describe => rfl
          | snapshot | snapshotBytes | write text | output => cases haside
          | read n | readExact n | readToEnd | readToString => cases hread
        have hnone : op.isSnapshot = false := by
          cases op with
          | snapshot | snapshotBytes => cases haside
          | _ => rfl
        rw [List.countP_cons_of_neg (by simp [hnone])] at hseeks
        have hrest := ih h hseeks
        simp only [Bool.false_eq_true, if_false, performAll_run_cons, readAnswers_cons, hread,
          hsame]
        exact hrest
      · have hnone : op.isSnapshot = false := by
          cases op with
          | snapshot | snapshotBytes => cases haside
          | _ => rfl
        rw [List.countP_cons_of_neg (by simp [hnone])] at hseeks
        obtain ⟨hanswer, hbeside, hstream, hrefuses⟩ := perform_of_isRead hread h
        have hseeks' : SeeksSucceed (rest.countP (·.isSnapshot)) ((perform op).run other).2 := by
          intro h n hn
          rw [hrefuses]
          exact hseeks (hstream ▸ h) n hn
        obtain ⟨hanswers, hlast⟩ := ih hbeside hseeks'
        simp only [Bool.false_eq_true, if_false, performAll_run_cons, readAnswers_cons, hread,
          if_true]
        exact ⟨by rw [hanswers, hanswer], hlast⟩
    · have hread : op.isRead = false := by
        cases op with
        | read n | readExact n | readToEnd | readToString => cases haside
        | _ => rfl
      obtain ⟨hbeside, hseeks'⟩ := perform_of_isAside haside h hseeks
      simp only [if_true, hread, Bool.false_eq_true, if_false]
      exact ih hbeside hseeks'

/-! ## The main result -/

/-- A stream that gives its bytes one at a time, found beyond its end, of which the seek call after
the first three would fail. -/
def slowSource : TextSource where
  medium := .stream
    { content := [0x61, 0x62, 0x63], position := 1, seekCalls := 2, failingSeeks := [6]
      chunk := some 1 } 7 false

end Codemod.TextSource
