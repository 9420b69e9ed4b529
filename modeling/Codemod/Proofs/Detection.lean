import Codemod.Detection
import Codemod.Proofs.Encoding.Utf8
import Codemod.Proofs.TextSource.Snapshot

set_option autoImplicit false

/-! # What is detected on streams

What is detected on a stream is what is detected on the text that its bytes are decoded to, and
neither the place where the stream was found nor the pieces in which its bytes come play any part.
Whatever comes of it, the stream is put back. The main statement is `stream_detected_as_text`. -/

namespace Codemod.Detection

open TextSource

variable {α : Type} {s : Stream}

/-! ## Texts -/

theorem textOf_run_of_text (s : String) :
    textOf.run.run { medium := .buffer (.ofBytes (Encoding.Utf8.encode s.toList) 0) } =
      (.ok s.toList, { medium := .buffer (.ofBytes (Encoding.Utf8.encode s.toList) 0) }) := by
  simp only [textOf, run_bind, run_get, isStream, Bool.false_eq_true, if_false, run_adapt, snapshot,
    snapshotBytes, run_pure, Stream.ofBytes, Encoding.Utf8.decode_encode, mapError_ok,
    String.toList_ofList]

/-- A text is asked as it is. -/
theorem ask_text (question : List Char → α) (s : String) :
    ask question (.text s) = { answer := .ok (question s.toList), stream := none, log := [] } := by
  simp only [ask, openInput, textOf_run_of_text]
  rfl

/-- Whatever is answered on an input is answered on some text. -/
theorem exists_of_ask_eq_ok {question : List Char → α} {input : SourceInput} {a : α}
    (h : (ask question input).answer = .ok a) : ∃ text, a = question text := by
  unfold ask at h
  split at h
  case h_1 => cases h
  case h_2 source hopen =>
    generalize textOf.run.run source = outcome at h
    obtain ⟨result, after⟩ := outcome
    cases result with
    | ok text => exact ⟨text, (Except.ok.inj h).symm⟩
    | error e => cases h

/-! ## Streams -/

/-- A stream that can be opened and read as a whole, as far as its reads do not fail: the first five
seek calls do not, and reads give something up to the end. -/
structure IsServed (s : Stream) : Prop where
  flows : s.Flows
  seeks : ∀ n, 1 ≤ n → n ≤ 5 → s.refuses n = false

/-- What is answered on a stream, given what is answered on texts. -/
def answerBehind (s : Stream) (onText : String → Except DetectionError α) :
    Except DetectionError α :=
  if s.isCut then .error (.source (.io s.readFault))
  else
    match Encoding.decodeSource s.content with
    | .ok text => onText (String.ofList text)
    | .error fault => .error (.fault fault)

theorem answerBehind_congr {t : Stream} (hcontent : t.content = s.content)
    (hcut : t.isCut = s.isCut) (hfault : t.readFault = s.readFault)
    (onText : String → Except DetectionError α) :
    answerBehind t onText = answerBehind s onText := by
  rw [answerBehind, answerBehind, hcontent, hcut, hfault]

/-- What is left of a stream after a detection, given whether it could be put back. -/
def leftOf (s : Stream) : Stream :=
  { s with
    position := if s.refuses 6 then 0 else s.position
    seekCalls := s.seekCalls + 6 }

theorem textOf_run_of_stream {source : TextSource} {origin : Nat}
    (hmedium : source.medium = .stream s origin false) (h : s.Flows) (h₁ : s.refuses 1 = false)
    (h₂ : s.refuses 2 = false) (h₃ : s.refuses 3 = false) :
    textOf.run.run source =
      (answerBehind s fun text => .ok text.toList,
        { source with
          medium := .stream { s with seekCalls := s.seekCalls + 3 } origin false }) := by
  have hstream : source.isStream = true := by rw [isStream, hmedium]
  simp only [textOf, run_bind, run_get, hstream, if_true, run_adapt,
    snapshotBytes_run_of_stream hmedium h h₁ h₂ h₃, answerBehind]
  cases s.isCut with
  | true => rfl
  | false =>
    simp only [Bool.false_eq_true, if_false, mapError_ok]
    cases Encoding.decodeSource s.content with
    | ok text => simp only [run_pure, String.toList_ofList]
    | error fault => rfl

/-- The stream at its start, after some more seek calls. -/
def atStart (s : Stream) (calls : Nat) : Stream :=
  { s with position := 0, seekCalls := s.seekCalls + calls }

theorem openInput_of_served (h : IsServed s) :
    openInput (.stream s) = .ok { medium := .stream (atStart s 2) s.position false } := by
  rw [openInput_stream, h.seeks 1 (by omega) (by omega), h.seeks 2 (by omega) (by omega)]
  rfl

/-- The handle that was used for nothing but one snapshot puts the stream back. -/
theorem drop_atStart (s : Stream) :
    drop { medium := .stream (atStart s 5) s.position false } =
      ({ medium := .stream (leftOf s) s.position true },
        if s.refuses 6 then [restoreWarning s.seekFault] else []) := by
  rw [drop_of_medium rfl, released, warnings, Stream.sought, leftOf]
  change (({ medium := .stream (if s.refuses 6 then _ else _) _ _ } : TextSource),
    if s.refuses 6 then _ else _) = _
  cases s.refuses 6 with
  | true => rfl
  | false => rfl

/-- A stream is asked through the text behind it, and then put back. -/
theorem ask_stream (question : List Char → α) (h : IsServed s) :
    ask question (.stream s) =
      { answer := answerBehind s fun text => (ask question (.text text)).answer
        stream := some (leftOf s)
        log := if s.refuses 6 then [restoreWarning s.seekFault] else [] } := by
  -- The first two seek calls open the handle; the next three are those of the snapshot.
  have h₃ : (atStart s 2).refuses 1 = false := h.seeks 3 (by omega) (by omega)
  have h₄ : (atStart s 2).refuses 2 = false := h.seeks 4 (by omega) (by omega)
  have h₅ : (atStart s 2).refuses 3 = false := h.seeks 5 (by omega) (by omega)
  have htext : textOf.run.run { medium := .stream (atStart s 2) s.position false } =
      (answerBehind s fun text => .ok text.toList,
        { medium := .stream (atStart s 5) s.position false }) :=
    textOf_run_of_stream (s := atStart s 2) rfl h.flows h₃ h₄ h₅
  have hanswer : (answerBehind s fun text => .ok text.toList).map question =
      answerBehind s fun text => (ask question (.text text)).answer := by
    simp only [ask_text, answerBehind]
    cases s.isCut with
    | true => rfl
    | false =>
      simp only [Bool.false_eq_true, if_false]
      cases Encoding.decodeSource s.content with
      | ok text => simp only [Except.map, String.toList_ofList]
      | error fault => rfl
  rw [← hanswer]
  simp only [ask, openInput_of_served h, htext, drop_atStart]
  rfl

/-- A detection on a stream answers what the same detection answers on the text that the content of
the stream is decoded to, and otherwise fails with what the decoding or a read has failed with. In
each case the stream is then where it was found, unless the last seek call fails, which is warned
about. Two streams with the same content, which fail alike on the way to its end, are answered
alike, wherever they are found and in whichever pieces their bytes come. -/
theorem stream_detected_as_text (s : Stream) (h : IsServed s) :
    linesep (.stream s) =
      { answer := answerBehind s fun text => (linesep (.text text)).answer
        stream := some (leftOf s)
        log := if s.refuses 6 then [restoreWarning s.seekFault] else [] } ∧
    indentation (.stream s) =
      { answer := answerBehind s fun text => (indentation (.text text)).answer
        stream := some (leftOf s)
        log := if s.refuses 6 then [restoreWarning s.seekFault] else [] } ∧
    ∀ t : Stream, IsServed t → t.content = s.content → t.isCut = s.isCut →
      t.readFault = s.readFault →
      (linesep (.stream t)).answer = (linesep (.stream s)).answer ∧
        (indentation (.stream t)).answer = (indentation (.stream s)).answer := by
  refine ⟨ask_stream _ h, ask_stream _ h, fun t ht hcontent hcut hfault => ⟨?_, ?_⟩⟩
  · simp only [linesep, ask_stream _ h, ask_stream _ ht, answerBehind_congr hcontent hcut hfault]
  · simp only [indentation, ask_stream _ h, ask_stream _ ht,
      answerBehind_congr hcontent hcut hfault]

/-- A stream that is found in its middle, gives three bytes at a time and declares its encoding. -/
def declaringStream : Stream where
  content := Encoding.Utf8.encode "# coding: latin-1\r\nif x:\r\n\ty = '".toList ++ [0xE9] ++
    Encoding.Utf8.encode "'\r\n".toList
  position := 20
  chunk := some 3

theorem stream_detected_as_text_of_declared :
    IsServed declaringStream ∧
      (linesep (.stream declaringStream)).answer = .ok .crlf ∧
      (indentation (.stream declaringStream)).answer = .ok .tab ∧
      (linesep (.stream declaringStream)).stream = some { declaringStream with seekCalls := 6 } := by
  have h : IsServed declaringStream := ⟨by decide, fun _ _ _ => rfl⟩
  obtain ⟨hlinesep, hindentation, -⟩ := stream_detected_as_text declaringStream h
  refine ⟨h, ?_, ?_, ?_⟩
  · rw [hlinesep]
    decide +kernel
  · rw [hindentation]
    decide +kernel
  · rw [hlinesep]
    decide +kernel

end Codemod.Detection
