import Codemod.Proofs.Encoding.Utf8
import Codemod.Proofs.TextSource.Restore

set_option autoImplicit false

/-! # A text and a stream of it are alike

A transformation that does not ask what kind of input it has cannot find out. To it a handle is
some bytes, a place in them and an output (`View`), and what it does with them is said without any
stream (`View.perform`). A handle on a text and one on a stream without faults both answer as their
view does and come to the next view (`perform_run_of_shows`), so they give the same answers for as
long as the views are the same. The main statement is `text_and_stream_alike`. -/

namespace Codemod.TextSource

/-! ## Views -/

/-- What a handle is to a transformation: bytes that are read from a place on, and the output. -/
structure View where
  content : List UInt8
  cursor : Nat := 0
  staged : String := ""

/-- Whether an operation tells a text from a stream. -/
def Operation.tellsKind : Operation → Bool
  | .isStream | .origin | .describe => true
  | _ => false

/-- The text that an operation adds to the output. -/
def Operation.written : Operation → String
  | .write text => text
  | _ => ""

namespace View

/-- The bytes that are still to be read. -/
def rest (v : View) : List UInt8 := v.content.drop v.cursor

/-- The view after some bytes were read. -/
def past (v : View) (bytes : List UInt8) : View := { v with cursor := v.cursor + bytes.length }

/-- The answer to an operation that does not tell the kind of the input, and the next view. -/
def perform (v : View) : Operation → Answer × View
  | .snapshot =>
    (match Encoding.Utf8.decode v.content with
      | .ok chars => .text (String.ofList chars)
      | .error fault => .sourceFailure (.invalidText fault), v)
  | .snapshotBytes => (.bytes v.content, v)
  | .read n => (.bytes (v.rest.take n), v.past (v.rest.take n))
  | .readExact n =>
    (if (v.rest.take n).length < n then .readFailure .notFilled else .bytes (v.rest.take n),
      v.past (v.rest.take n))
  | .readToEnd => (.bytes v.rest, v.past v.rest)
  | .readToString =>
    (match Encoding.Utf8.decode v.rest with
      | .ok chars => .text (String.ofList chars)
      | .error _ => .readFailure .invalidText, v.past v.rest)
  | .write text => (.done, { v with staged := v.staged ++ text })
  | .output => (.text v.staged, v)
  | .isStream | .origin | .describe => (.done, v)

/-- The answers to several operations, and the view after them. -/
def performAll (v : View) : List Operation → List Answer × View
  | [] => ([], v)
  | op :: rest =>
    let (answer, v) := v.perform op
    let (answers, v) := v.performAll rest
    (answer :: answers, v)

/-- No operation changes what is read from, and the output grows by what is written. -/
theorem perform_snd (v : View) (op : Operation) :
    (v.perform op).2.content = v.content ∧
      (v.perform op).2.staged = v.staged ++ op.written := by
  cases op with
  | write text => exact ⟨rfl, rfl⟩
  | _ => exact ⟨rfl, (String.append_empty).symm⟩

end View

/-! ## Handles -/

/-- What a handle is on: a text, or a stream that was found at a place and not put back yet. -/
inductive Hold where
  | text
  | stream (origin : Nat)

/-- What a handle reads from. -/
def Hold.medium : Hold → Stream → Medium
  | .text, s => .buffer s
  | .stream origin, s => .stream s origin false

/-- A handle is to a transformation what a view says. -/
def Shows (hold : Hold) (source : TextSource) (v : View) : Prop :=
  ∃ s : Stream, source = { medium := hold.medium s, staged := v.staged } ∧ s.Plain ∧
    s.content = v.content ∧ s.position = v.cursor

variable {hold : Hold} {source : TextSource} {v : View}

theorem onBytes_run_of_hold {ε α : Type} (hold : Hold) (wrap : String → ε) (step : Stream.Step α) (s : Stream)
    (staged : String) :
    (onBytes wrap step).run.run { medium := hold.medium s, staged } =
      ((step.run.run s).1.mapError wrap,
        { medium := hold.medium (step.run.run s).2, staged }) := by
  rw [onBytes_run]
  cases hold with
  | text => rfl
  | stream origin => rfl

/-- A stream without faults that is read from moves on by what it gives. -/
theorem shows_past {s : Stream} (hs : s.Plain) (hcontent : s.content = v.content)
    (hposition : s.position = v.cursor) (bytes : List UInt8) :
    Shows hold { medium := hold.medium (s.advanced bytes.length), staged := v.staged }
      (v.past bytes) :=
  ⟨s.advanced bytes.length, rfl, hs.advanced _, hcontent,
    congrArg (· + bytes.length) hposition⟩

/-- A snapshot gives the whole content, and but for three seek calls the stream is as it was. -/
theorem snapshotStep_run_of_plain {s : Stream} (h : s.Plain) :
    snapshotStep.run.run s = (.ok s.content, { s with seekCalls := s.seekCalls + 3 }) := by
  have hrewound := h.called.called.placed 0
  simp only [snapshotStep, run_bind, h.tell_run, h.called.seek_run, run_tryCatch, run_map,
    hrewound.readToEnd_run, Except.map, (hrewound.advanced _).seek_run, run_pure]
  rfl

theorem snapshotBytes_run_of_hold (hold : Hold) {s : Stream} (hs : s.Plain) (staged : String) :
    ∃ t : Stream, t.Plain ∧ t.content = s.content ∧ t.position = s.position ∧
      snapshotBytes.run.run { medium := hold.medium s, staged } =
        (.ok s.content, { medium := hold.medium t, staged }) := by
  cases hold with
  | text => exact ⟨s, hs, rfl, rfl, rfl⟩
  | stream origin =>
    refine ⟨{ s with seekCalls := s.seekCalls + 3 }, ⟨hs.1, hs.2, hs.3, hs.4⟩, rfl, rfl, ?_⟩
    have hstep := onBytes_run_of_hold (.stream origin) SourceError.io snapshotStep s staged
    rw [snapshotStep_run_of_plain hs] at hstep
    exact hstep

/-- Every operation that does not tell the kind of the input is answered as the view says. -/
theorem perform_run_of_shows (h : Shows hold source v) {op : Operation}
    (hop : op.tellsKind = false) :
    ∃ t, (perform op).run source = ((v.perform op).1, t) ∧ Shows hold t (v.perform op).2 := by
  obtain ⟨s, rfl, hs, hcontent, hposition⟩ := h
  have hrest : s.rest = v.rest := by rw [Stream.rest, View.rest, hcontent, hposition]
  cases op with
  | isStream => cases hop
  | origin => cases hop
  | describe => cases hop
  | snapshot =>
    obtain ⟨t, ht, htc, htp, hrun⟩ := snapshotBytes_run_of_hold hold hs v.staged
    refine ⟨_, ?_, t, rfl, ht, htc.trans hcontent, htp.trans hposition⟩
    rw [perform, answering_run, snapshot, run_bind, hrun, hcontent]
    simp only [View.perform]
    cases Encoding.Utf8.decode v.content with
    | ok chars => rfl
    | error fault => rfl
  | snapshotBytes =>
    obtain ⟨t, ht, htc, htp, hrun⟩ := snapshotBytes_run_of_hold hold hs v.staged
    refine ⟨_, ?_, t, rfl, ht, htc.trans hcontent, htp.trans hposition⟩
    rw [perform, answering_run, hrun, hcontent]
    rfl
  | read n =>
    refine ⟨_, ?_, shows_past hs hcontent hposition (v.rest.take n)⟩
    rw [perform, answering_run, TextSource.read, onBytes_run_of_hold, hs.read_run, hrest]
    rfl
  | readExact n =>
    refine ⟨_, ?_, shows_past hs hcontent hposition (v.rest.take n)⟩
    have hread := onBytes_run_of_hold hold ReadError.io (Stream.readSome (n + 1) n []) s v.staged
    rw [hs.readSome_run, hrest] at hread
    rw [perform, answering_run, readExact, run_bind, hread]
    by_cases hn : (v.rest.take n).length < n
    · simp only [mapError_ok, View.perform, hn, if_true]
      rfl
    · simp only [mapError_ok, View.perform, hn, if_false]
      rfl
  | readToEnd =>
    refine ⟨_, ?_, shows_past hs hcontent hposition v.rest⟩
    rw [perform, answering_run, readToEnd, onBytes_run_of_hold, hs.readToEnd_run, hrest]
    rfl
  | readToString =>
    refine ⟨_, ?_, shows_past hs hcontent hposition v.rest⟩
    rw [perform, answering_run, readToString, run_bind, readToEnd, onBytes_run_of_hold,
      hs.readToEnd_run, hrest]
    simp only [mapError_ok, View.perform]
    cases Encoding.Utf8.decode v.rest with
    | ok chars => rfl
    | error fault => rfl
  | write text => exact ⟨_, rfl, s, rfl, hs, hcontent, hposition⟩
  | output => exact ⟨_, rfl, s, rfl, hs, hcontent, hposition⟩

theorem performAll_run_of_shows (h : Shows hold source v) {ops : List Operation}
    (hops : ∀ op ∈ ops, op.tellsKind = false) :
    ∃ t, (performAll ops).run source = ((v.performAll ops).1, t) ∧
      Shows hold t (v.performAll ops).2 := by
  induction ops generalizing source v with
  | nil => exact ⟨source, rfl, h⟩
  | cons op rest ih =>
    obtain ⟨t, hrun, ht⟩ := perform_run_of_shows h (hops op (List.mem_cons_self ..))
    obtain ⟨t', hrun', ht'⟩ := ih ht fun op hop => hops op (List.mem_cons_of_mem _ hop)
    exact ⟨t', by rw [performAll_run_cons, hrun, hrun']; rfl, ht'⟩

/-! ## What views answer -/

/-- All that is written, in order. -/
def written (ops : List Operation) : String := String.join (ops.map Operation.written)

namespace View

/-- The view before an operation tells how it is answered. -/
theorem performAll_fst_getElem? (v : View) (ops : List Operation) (i : Nat) :
    (v.performAll ops).1[i]? =
      ops[i]?.map fun op => ((v.performAll (ops.take i)).2.perform op).1 := by
  induction ops generalizing v i with
  | nil => rfl
  | cons op rest ih =>
    cases i with
    | zero => rfl
    | succ i => exact ih (v.perform op).2 i

theorem length_performAll (v : View) (ops : List Operation) :
    (v.performAll ops).1.length = ops.length := by
  induction ops generalizing v with
  | nil => rfl
  | cons op rest ih => exact congrArg (· + 1) (ih (v.perform op).2)

theorem performAll_snd (v : View) (ops : List Operation) :
    (v.performAll ops).2.content = v.content ∧
      (v.performAll ops).2.staged = v.staged ++ written ops := by
  induction ops generalizing v with
  | nil => exact ⟨rfl, (String.append_empty).symm⟩
  | cons op rest ih =>
    obtain ⟨hcontent, hstaged⟩ := v.perform_snd op
    obtain ⟨hcontents, hstageds⟩ := ih (v.perform op).2
    refine ⟨hcontents.trans hcontent, hstageds.trans ?_⟩
    rw [hstaged, written, written, List.map_cons, String.join_cons, String.append_assoc]

end View

/-! ## Endings -/

/-- What an ending gives of the output. -/
def Ending.taken (ending : Ending) (output : String) : Option String :=
  match ending with
  | .drop => none
  | .intoOutput | .close => some output

/-- A text leaves nothing behind, and a stream is back where it was found. -/
def Hold.Leaves (hold : Hold) (content : List UInt8) (left : Option Stream) : Prop :=
  match hold with
  | .text => left = none
  | .stream origin => ∃ t : Stream, left = some t ∧ t.content = content ∧ t.position = origin

theorem finish_of_shows (h : Shows hold source v) (ending : Ending) :
    ∃ rest, source.finish ending = (.ok (ending.taken v.staged), rest, []) ∧
      hold.Leaves v.content rest.stream? := by
  obtain ⟨s, hsource, hs, hcontent, -⟩ := h
  cases hold with
  | text =>
    rw [hsource]
    cases ending with
    | drop => exact ⟨_, rfl, rfl⟩
    | intoOutput => exact ⟨_, rfl, rfl⟩
    | close => exact ⟨_, rfl, rfl⟩
  | stream origin =>
    have hmedium : source.medium = .stream s origin false := by rw [hsource]; rfl
    have hstaged : source.staged = v.staged := by rw [hsource]
    have hdrop := drop_of_medium hmedium
    have hclose := close_of_medium hmedium
    simp only [warnings, hs.refuses, Bool.false_eq_true, if_false] at hdrop hclose
    refine ⟨source.released s origin, ?_, s.sought origin, rfl, ?_, ?_⟩
    · cases ending with
      | drop => simp only [finish, hdrop, Ending.taken]
      | intoOutput => simp only [finish, intoOutput, hdrop, hstaged, Ending.taken]
      | close =>
        simp only [finish, hclose, hstaged, Ending.taken]
        rfl
    · rw [Stream.sought, hs.refuses]
      exact hcontent
    · rw [Stream.sought, hs.refuses]
      rfl

/-! ## Sessions -/

/-- A session is what its view makes of it: the answers, and the output if the ending asks for it. -/
theorem Session.run_of_shows {input : SourceInput} (hopen : openInput input = .ok source)
    (h : Shows hold source v) {ops : List Operation} (hops : ∀ op ∈ ops, op.tellsKind = false)
    (ending : Ending) :
    ∃ left, run input ops ending =
        .ok { answers := (v.performAll ops).1
              result := .ok (ending.taken (v.performAll ops).2.staged)
              stream := left, log := [] } ∧
      hold.Leaves v.content left := by
  obtain ⟨kept, hrun, hkept⟩ := performAll_run_of_shows h hops
  obtain ⟨rest, hfinish, hleaves⟩ := finish_of_shows hkept ending
  rw [(v.performAll_snd ops).1] at hleaves
  exact ⟨rest.stream?, by rw [run_of_open hopen hrun, hfinish], hleaves⟩

theorem shows_text (s : String) :
    ∃ source, openInput (.text s) = .ok source ∧
      Shows .text source { content := Encoding.Utf8.encode s.toList } :=
  ⟨_, rfl, _, rfl, Stream.plain_ofBytes _ 0, rfl, rfl⟩

theorem shows_stream (content : List UInt8) (p : Nat) :
    ∃ source, openInput (.stream (.ofBytes content p)) = .ok source ∧
      Shows (.stream p) source { content } := by
  refine ⟨_, ?_, _, rfl, (Stream.plain_ofBytes content p).called.called.placed 0, rfl, rfl⟩
  rw [openInput_stream]
  rfl

/-! ## The main result -/

/-- **A text and a stream of it are alike.** A session on a text and one on a stream of its bytes,
found at any place, give the same answers to all operations that do not tell the kind of the input,
and end in the same way: with all that was written, in order, if the ending asks for it. Every
snapshot is the text, and a look at the output shows what was written up to then. The stream is left
as it was found. -/
theorem text_and_stream_alike (s : String) (p : Nat) (ops : List Operation)
    (hops : ∀ op ∈ ops, op.tellsKind = false) (ending : Ending) :
    ∃ (answers : List Answer) (left : Stream),
      Session.run (.text s) ops ending =
        .ok { answers, result := .ok (ending.taken (written ops)), stream := none, log := [] } ∧
      Session.run (.stream (.ofBytes (Encoding.Utf8.encode s.toList) p)) ops ending =
        .ok { answers, result := .ok (ending.taken (written ops)), stream := some left
              log := [] } ∧
      left.content = Encoding.Utf8.encode s.toList ∧ left.position = p ∧
      answers.length = ops.length ∧
      ∀ i : Nat,
        (ops[i]? = some .snapshot → answers[i]? = some (.text s)) ∧
        (ops[i]? = some .snapshotBytes →
          answers[i]? = some (.bytes (Encoding.Utf8.encode s.toList))) ∧
        (ops[i]? = some .output → answers[i]? = some (.text (written (ops.take i)))) := by
  obtain ⟨text, htext, hshowsText⟩ := shows_text s
  obtain ⟨stream, hstream, hshowsStream⟩ := shows_stream (Encoding.Utf8.encode s.toList) p
  obtain ⟨_, hrunText, rfl⟩ := Session.run_of_shows htext hshowsText hops ending
  obtain ⟨_, hrunStream, left, rfl, hcontent, hposition⟩ :=
    Session.run_of_shows hstream hshowsStream hops ending
  -- Both sessions have the same view, so from here on only the view is looked at.
  generalize hv : (⟨Encoding.Utf8.encode s.toList, 0, ""⟩ : View) = v at hrunText hrunStream
  have hvcontent : v.content = Encoding.Utf8.encode s.toList := by rw [← hv]
  have hafter : ∀ ops, (v.performAll ops).2.content = Encoding.Utf8.encode s.toList ∧
      (v.performAll ops).2.staged = written ops := by
    intro ops
    have h := v.performAll_snd ops
    rw [hvcontent, ← hv, String.empty_append] at h
    rwa [← hv]
  rw [(hafter ops).2] at hrunText hrunStream
  refine ⟨_, left, hrunText, hrunStream, hcontent, hposition, v.length_performAll ops, ?_⟩
  intro i
  rw [v.performAll_fst_getElem?]
  refine ⟨fun hop => ?_, fun hop => ?_, fun hop => ?_⟩
  · simp only [hop, Option.map_some, View.perform, (hafter _).1, Encoding.Utf8.decode_encode,
      String.ofList_toList]
  · simp only [hop, Option.map_some, View.perform, (hafter _).1]
  · simp only [hop, Option.map_some, View.perform, (hafter _).2]

/-- A transformation that reads past the end of a text and then takes a snapshot, on a stream that
was found beyond its end. -/
theorem text_and_stream_alike_past_end :
    (∀ op ∈ [Operation.read 1, .readExact 9, .write "b", .snapshot, .output],
      op.tellsKind = false) ∧
    ∃ (answers : List Answer) (left : Stream),
      Session.run (.text "ä") [.read 1, .readExact 9, .write "b", .snapshot, .output] .close =
        .ok { answers, result := .ok (some "b"), stream := none, log := [] } ∧
      Session.run (.stream (.ofBytes [0xC3, 0xA4] 7))
          [.read 1, .readExact 9, .write "b", .snapshot, .output] .close =
        .ok { answers, result := .ok (some "b"), stream := some left, log := [] } ∧
      left.position = 7 ∧ answers[3]? = some (.text "ä") := by
  have hops : ∀ op ∈ [Operation.read 1, .readExact 9, .write "b", .snapshot, .output],
      op.tellsKind = false := by decide
  obtain ⟨answers, left, htext, hstream, -, hposition, -, hsnapshot⟩ :=
    text_and_stream_alike "ä" 7 _ hops .close
  exact ⟨hops, answers, left, htext, hstream, hposition, (hsnapshot 3).1 rfl⟩

end Codemod.TextSource
