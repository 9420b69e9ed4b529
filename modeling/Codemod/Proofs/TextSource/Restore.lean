import Codemod.Proofs.Stream
import Codemod.TextSource.Operation

set_option autoImplicit false

/-! # A stream is put back once

A handle that is opened on a stream knows the place where it was found and that it was not put back
yet, and no operation changes that, whether it fails or not (`Holds`, `holds_performAll`). So every
ending makes one attempt to put the stream back, and what comes of the attempt is all that tells the
endings apart. The main statement is `stream_put_back_once`. -/

namespace Codemod.TextSource

variable {s : Stream}

/-! ## Opening -/

theorem rewind_run (s : Stream) :
    rewind.run.run s =
      if s.refuses 1 then (.error ("stream is not seekable: " ++ s.seekFault), s.called)
      else if s.refuses 2 then
        (.error ("stream cannot be rewound: " ++ s.seekFault), s.called.called)
      else (.ok s.position, { s.called.called with position := 0 }) := by
  cases h₁ : s.refuses 1 with
  | true => simp only [rewind, run_bind, run_adapt, Stream.tell_run, h₁, if_true, mapError_error]
  | false =>
    cases h₂ : s.refuses 2 with
    | true =>
      simp only [rewind, run_bind, run_adapt, Stream.tell_run, Stream.seek_run, Stream.sought, h₁,
        h₂, Stream.called_refuses, Bool.false_eq_true, if_false, if_true, mapError_ok,
        mapError_error]
      rfl
    | false =>
      simp only [rewind, run_bind, run_adapt, Stream.tell_run, Stream.seek_run, Stream.sought, h₁,
        h₂, Stream.called_refuses, Bool.false_eq_true, if_false, mapError_ok, run_pure]

/-- A stream can be opened if its next two seek calls do not fail. -/
theorem openInput_stream (s : Stream) :
    openInput (.stream s) =
      if s.refuses 1 then
        .error (.unsupported ("stream is not seekable: " ++ s.seekFault), s.called)
      else if s.refuses 2 then
        .error (.unsupported ("stream cannot be rewound: " ++ s.seekFault), s.called.called)
      else .ok { medium := .stream { s.called.called with position := 0 } s.position false } := by
  cases h₁ : s.refuses 1 with
  | true => simp only [openInput, rewind_run, h₁, if_true]
  | false =>
    cases h₂ : s.refuses 2 with
    | true => simp only [openInput, rewind_run, h₁, h₂, Bool.false_eq_true, if_false, if_true]
    | false => simp only [openInput, rewind_run, h₁, h₂, Bool.false_eq_true, if_false]

/-! ## Operations -/

/-- A handle is on a stream that was as given before the handle was opened, and it has not put the
stream back yet. -/
def Holds (s : Stream) (source : TextSource) : Prop :=
  ∃ t, source.medium = .stream t s.position false ∧ s.Drifts t

theorem exists_holds_of_open (h₁ : s.refuses 1 = false) (h₂ : s.refuses 2 = false) :
    ∃ source, openInput (.stream s) = .ok source ∧ Holds s source := by
  refine ⟨{ medium := .stream { s.called.called with position := 0 } s.position false }, ?_, ?_⟩
  · simp only [openInput_stream, h₁, h₂, Bool.false_eq_true, if_false]
  · exact ⟨_, rfl, rfl⟩

theorem onBytes_run {ε α : Type} (wrap : String → ε) (step : Stream.Step α) (source : TextSource) :
    (onBytes wrap step).run.run source =
      ((step.run.run source.bytes).1.mapError wrap,
        source.withBytes (step.run.run source.bytes).2) := by
  rcases hstep : step.run.run source.bytes with ⟨text | a, t⟩
  · simp only [onBytes, run_bind, run_get, run_set, hstep, run_throw, mapError_error]
  · simp only [onBytes, run_bind, run_get, run_set, hstep, run_pure, mapError_ok]

theorem keeps_onBytes {ε α : Type} (wrap : String → ε) {step : Stream.Step α}
    (h : Keeps s.Drifts step) : Keeps (Holds s) (onBytes wrap step) := by
  rintro source ⟨t, hmedium, ht⟩
  rw [onBytes_run]
  refine ⟨(step.run.run source.bytes).2, ?_, ?_⟩
  · simp only [withBytes, hmedium]
  · refine h _ ?_
    simpa only [bytes, hmedium] using ht

theorem keeps_read (n : Nat) : Keeps (Holds s) (read n) :=
  keeps_onBytes _ (Stream.keeps_read n)

theorem keeps_readExact (n : Nat) : Keeps (Holds s) (readExact n) := by
  refine (keeps_onBytes _ (Stream.keeps_readSome (n + 1) n [])).bind fun bytes => ?_
  split
  · exact Keeps.throw _
  · exact Keeps.pure bytes

theorem keeps_readToEnd : Keeps (Holds s) readToEnd :=
  keeps_onBytes _ Stream.keeps_readToEnd

theorem keeps_readToString : Keeps (Holds s) readToString := by
  refine keeps_readToEnd.bind fun bytes => ?_
  split
  · exact Keeps.pure _
  · exact Keeps.throw _

theorem keeps_snapshotStep : Keeps s.Drifts snapshotStep := by
  refine Stream.keeps_tell.bind fun cursor => (Stream.keeps_seek 0).bind fun _ => ?_
  -- A read that fails is caught, so that the last seek call is made in either case.
  have hread : Keeps s.Drifts (tryCatch (Except.ok <$> Stream.readToEnd)
      (fun text => return Except.error text)) :=
    (Stream.keeps_readToEnd.map _).tryCatch fun text => Keeps.pure _
  refine hread.bind fun result => (Stream.keeps_seek cursor).bind fun _ => ?_
  cases result with
  | ok bytes => exact Keeps.pure bytes
  | error text => exact Keeps.throw text

theorem keeps_snapshotBytes : Keeps (Holds s) snapshotBytes := by
  refine Keeps.get.bind fun source => ?_
  split
  · exact Keeps.pure _
  · exact keeps_onBytes _ keeps_snapshotStep

theorem keeps_snapshot : Keeps (Holds s) snapshot := by
  refine keeps_snapshotBytes.bind fun bytes => ?_
  split
  · exact Keeps.pure _
  · exact Keeps.throw _

theorem answering_run {ε α : Type} (success : α → Answer) (failure : ε → Answer)
    (action : Action ε α) (source : TextSource) :
    (answering success failure action).run source =
      ((match (action.run.run source).1 with
        | .ok a => success a
        | .error e => failure e), (action.run.run source).2) := by
  rw [answering, StateT.run_bind]
  rcases action.run.run source with ⟨e | a, t⟩
  · rfl
  · rfl

/-- No operation lets go of a stream or puts it back, whatever the operation comes to. -/
theorem holds_perform (op : Operation) {source : TextSource} (h : Holds s source) :
    Holds s ((perform op).run source).2 := by
  have hanswering : ∀ {ε α : Type} (success : α → Answer) (failure : ε → Answer)
      {action : Action ε α}, Keeps (Holds s) action →
        Holds s ((answering success failure action).run source).2 := by
    intro ε α success failure action haction
    rw [answering_run]
    exact haction source h
  cases op with
  | isStream => exact h
  | origin => exact h
  | snapshot => exact hanswering _ _ keeps_snapshot
  | snapshotBytes => exact hanswering _ _ keeps_snapshotBytes
  | read n => exact hanswering _ _ (keeps_read n)
  | readExact n => exact hanswering _ _ (keeps_readExact n)
  | readToEnd => exact hanswering _ _ keeps_readToEnd
  | readToString => exact hanswering _ _ keeps_readToString
  | write text => exact h
  | output => exact h
  | describe => exact h

theorem performAll_run_cons (op : Operation) (rest : List Operation) (source : TextSource) :
    (performAll (op :: rest)).run source =
      (((perform op).run source).1 :: ((performAll rest).run ((perform op).run source).2).1,
        ((performAll rest).run ((perform op).run source).2).2) :=
  rfl

theorem holds_performAll (ops : List Operation) {source : TextSource} (h : Holds s source) :
    Holds s ((performAll ops).run source).2 := by
  induction ops generalizing source with
  | nil => exact h
  | cons op rest ih =>
    rw [performAll_run_cons]
    exact ih (holds_perform op h)

/-! ## Endings -/

/-- The handle after its attempt to put a stream back. -/
def released (source : TextSource) (t : Stream) (origin : Nat) : TextSource :=
  { source with medium := .stream (t.sought origin) origin true }

theorem restore_run {source : TextSource} {t : Stream} {origin : Nat}
    (h : source.medium = .stream t origin false) :
    restore.run.run source =
      (if t.refuses 1 then .error t.seekFault else .ok (), source.released t origin) := by
  have hseek : (onBytes id (Stream.seek origin)).run.run
      { source with medium := .stream t origin true } =
        (if t.refuses 1 then .error t.seekFault else .ok (), source.released t origin) := by
    rw [onBytes_run]
    simp only [bytes, withBytes, Stream.seek_run]
    split
    · rfl
    · rfl
  simp only [restore, run_bind, run_get, h, run_set, hseek]

/-- A stream is not put back twice. -/
theorem restore_released (source : TextSource) (t : Stream) (origin : Nat) :
    restore.run.run (source.released t origin) = (.ok (), source.released t origin) := by
  simp only [restore, run_bind, run_get, released, run_pure]

/-- What is told when a handle is let go of that has not put a stream back yet. -/
def warnings (t : Stream) : List Log.Event :=
  if t.refuses 1 then [restoreWarning t.seekFault] else []

theorem drop_of_medium {source : TextSource} {t : Stream} {origin : Nat}
    (h : source.medium = .stream t origin false) :
    source.drop = (source.released t origin, warnings t) := by
  cases hseek : t.refuses 1 with
  | true => simp only [drop, restore_run h, warnings, hseek, if_true]
  | false => simp only [drop, restore_run h, warnings, hseek, Bool.false_eq_true, if_false]

theorem drop_released (source : TextSource) (t : Stream) (origin : Nat) :
    (source.released t origin).drop = (source.released t origin, []) := by
  simp only [drop, restore_released]

theorem close_of_medium {source : TextSource} {t : Stream} {origin : Nat}
    (h : source.medium = .stream t origin false) :
    source.close =
      (if t.refuses 1 then .error (.io t.seekFault) else .ok source.staged,
        source.released t origin, []) := by
  cases hseek : t.refuses 1 with
  | true => simp only [close, restore_run h, drop_released, hseek, if_true]
  | false =>
    simp only [close, restore_run h, drop_released, hseek, Bool.false_eq_true, if_false]
    rfl

/-! ## Sessions -/

namespace Session

/-- Every session fails in the same way and gives the stream back as it then is. -/
def Refused (s : Stream) (ops : List Operation) (e : SourceError) (t : Stream) : Prop :=
  (∀ ending, run (.stream s) ops ending = .error (e, t)) ∧
    ∀ finish, runWithin (.stream s) ops finish = .error (e, t)

theorem refused_of_open {ops : List Operation} {e : SourceError} {t : Stream}
    (h : openInput (.stream s) = .error (e, t)) : Refused s ops e t := by
  constructor
  · intro ending
    simp only [run, h]
  · intro finish
    simp only [runWithin, within, h]
    rfl

theorem run_of_open {input : SourceInput} {source kept : TextSource} {ops : List Operation}
    {answers : List Answer} (hopen : openInput input = .ok source)
    (hops : (performAll ops).run source = (answers, kept)) (ending : Ending) :
    run input ops ending =
      .ok { answers, result := (kept.finish ending).1,
            stream := (kept.finish ending).2.1.stream?, log := (kept.finish ending).2.2 } := by
  simp only [run, hopen, hops]

theorem runWithin_of_open {input : SourceInput} {source kept : TextSource} {ops : List Operation}
    {answers : List Answer} (hopen : openInput input = .ok source)
    (hops : (performAll ops).run source = (answers, kept)) (finish : Finish) :
    runWithin input ops finish =
      .ok { answers
            result := match finish with
              | .returns => some kept.staged.utf8ByteSize
              | .panics => none
            stream := kept.drop.1.stream?, log := kept.drop.2 } := by
  simp only [runWithin, within, hopen, StateT.run_bind, hops]
  rfl

end Session

/-! ## The main result -/

/-- **A stream is put back once.** If its place cannot be asked for or it cannot be rewound, no
session gets at the stream, which stays where it is, and there is no further seek call. Otherwise
every ending makes one seek call after all that was done with the handle, which puts the stream back
if it does not fail. If it does, the stream stays where it is, a handle that is closed says so in its
answer, and every other ending warns once and comes to what it would come to anyway. -/
theorem stream_put_back_once (s : Stream) (ops : List Operation) :
    (s.refuses 1 = true →
      Session.Refused s ops (.unsupported ("stream is not seekable: " ++ s.seekFault))
        { s with seekCalls := s.seekCalls + 1 }) ∧
    (s.refuses 1 = false → s.refuses 2 = true →
      Session.Refused s ops (.unsupported ("stream cannot be rewound: " ++ s.seekFault))
        { s with seekCalls := s.seekCalls + 2 }) ∧
    (s.refuses 1 = false → s.refuses 2 = false →
      ∃ source kept answers held after,
        openInput (.stream s) = .ok source ∧
        (performAll ops).run source = (answers, kept) ∧ kept.stream? = some held ∧
        held = { s with position := held.position, seekCalls := held.seekCalls } ∧
        after = { s with
          position := if held.refuses 1 then held.position else s.position
          seekCalls := held.seekCalls + 1 } ∧
        let warned := if held.refuses 1 then [restoreWarning s.seekFault] else []
        Session.run (.stream s) ops .drop =
          .ok { answers, result := .ok none, stream := some after, log := warned } ∧
        Session.run (.stream s) ops .intoOutput =
          .ok { answers, result := .ok (some kept.staged), stream := some after, log := warned } ∧
        Session.run (.stream s) ops .close =
          .ok { answers
                result :=
                  if held.refuses 1 then .error (.io s.seekFault) else .ok (some kept.staged)
                stream := some after, log := [] } ∧
        Session.runWithin (.stream s) ops .returns =
          .ok { answers, result := some kept.staged.utf8ByteSize
                stream := some after, log := warned } ∧
        Session.runWithin (.stream s) ops .panics =
          .ok { answers, result := none, stream := some after, log := warned }) := by
  refine ⟨?_, ?_, ?_⟩
  · intro h₁
    refine Session.refused_of_open ?_
    rw [openInput_stream, if_pos h₁]
    rfl
  · intro h₁ h₂
    refine Session.refused_of_open ?_
    rw [openInput_stream, if_neg (by rw [h₁]; exact Bool.false_ne_true), if_pos h₂]
    rfl
  · intro h₁ h₂
    obtain ⟨source, hopen, hsource⟩ := exists_holds_of_open h₁ h₂
    rcases hops : (performAll ops).run source with ⟨answers, kept⟩
    obtain ⟨held, hmedium, hdrifts⟩ : Holds s kept := by
      have h := holds_performAll ops hsource
      rwa [hops] at h
    -- From here on the endings are computed; `held` is the stream that each of them puts back.
    have hfault : held.seekFault = s.seekFault := by rw [hdrifts]
    have hdrop := drop_of_medium hmedium
    have hclose := close_of_medium hmedium
    have hstream : (kept.released held s.position).stream? = some (held.sought s.position) := rfl
    refine ⟨source, kept, answers, held, held.sought s.position, hopen, hops, ?_, hdrifts,
      hdrifts.sought_eq s.position, ?_, ?_, ?_, ?_, ?_⟩
    · simp only [stream?, isStream, bytes, hmedium, if_true]
    · rw [Session.run_of_open hopen hops]
      simp only [finish, hdrop, hstream, warnings, hfault]
    · rw [Session.run_of_open hopen hops]
      simp only [finish, intoOutput, hdrop, hstream, warnings, hfault]
    · rw [Session.run_of_open hopen hops]
      simp only [finish, hclose, hstream, hfault]
      split
      · rfl
      · rfl
    · rw [Session.runWithin_of_open hopen hops]
      simp only [hdrop, hstream, warnings, hfault]
    · rw [Session.runWithin_of_open hopen hops]
      simp only [hdrop, hstream, warnings, hfault]

end Codemod.TextSource
