import Codemod.Proofs.Action
import Codemod.Stream

set_option autoImplicit false

/-! # Steps on a stream

What seek calls and reads come to, and what no step on a stream does: the cursor is moved and seek
calls are counted, and all else of the stream stays as it is (`Drifts`), whether a step fails or
not. On a stream without faults (`Plain`) every read gives the bytes that it is asked for, as far as
there are any. Where reads may come in pieces of any size (`Flows`), reading to the end still gives
all that is left, or the fault that lies ahead (`Flows.readToEnd_run`). -/

namespace Codemod.Stream

/-! ## Seek calls -/

/-- Whether the `n`-th seek call from here on fails. -/
def refuses (s : Stream) (n : Nat) : Bool := s.failingSeeks.contains (s.seekCalls + n)

/-- The stream after a seek call that leaves the cursor where it is. -/
def called (s : Stream) : Stream := { s with seekCalls := s.seekCalls + 1 }

/-- The stream after one attempt to put the cursor somewhere. -/
def sought (s : Stream) (position : Nat) : Stream :=
  if s.refuses 1 then s.called else { s.called with position }

theorem countSeek_run (s : Stream) :
    countSeek.run.run s = (if s.refuses 1 then .error s.seekFault else .ok (), s.called) := by
  rw [refuses]
  cases h : s.failingSeeks.contains (s.seekCalls + 1) with
  | true =>
    simp only [countSeek, run_bind, run_get, run_set, h, if_true, run_throw]
    rfl
  | false =>
    simp only [countSeek, run_bind, run_get, run_set, h]
    rfl

theorem tell_run (s : Stream) :
    tell.run.run s = (if s.refuses 1 then .error s.seekFault else .ok s.position, s.called) := by
  cases h : s.refuses 1 with
  | true => simp only [tell, run_bind, countSeek_run, h, if_true]
  | false =>
    simp only [tell, run_bind, countSeek_run, h, Bool.false_eq_true, if_false, run_get, run_pure]
    rfl

theorem seek_run (position : Nat) (s : Stream) :
    (seek position).run.run s =
      (if s.refuses 1 then .error s.seekFault else .ok (), s.sought position) := by
  cases h : s.refuses 1 with
  | true => simp only [seek, run_bind, countSeek_run, sought, h, if_true]
  | false =>
    simp only [seek, run_bind, countSeek_run, sought, h, Bool.false_eq_true, if_false, run_modify]

@[simp]
theorem called_refuses (s : Stream) (n : Nat) : s.called.refuses n = s.refuses (n + 1) := by
  rw [refuses, refuses, called, Nat.add_assoc, Nat.add_comm 1]

/-! ## Reads -/

theorem read_run (n : Nat) (s : Stream) :
    (read n).run.run s =
      if s.isFaulty then (.error s.readFault, s)
      else (.ok (s.available n), { s with position := s.position + (s.available n).length }) := by
  cases h : s.isFaulty with
  | true => simp only [read, run_bind, run_get, h, if_true, run_throw]
  | false =>
    simp only [read, run_bind, run_get, h, Bool.false_eq_true, if_false, run_pure, run_set]

/-! ## What stays -/

/-- One stream is another one but for its cursor and the number of its seek calls. -/
def Drifts (s t : Stream) : Prop :=
  t = { s with position := t.position, seekCalls := t.seekCalls }

/-- Where only the cursor and the count are changed, a stream drifts on. -/
theorem Drifts.moved {s t : Stream} (h : Drifts s t) (position seekCalls : Nat) :
    Drifts s { t with position, seekCalls } := by
  rw [Drifts] at h
  rw [h]
  rfl

theorem Drifts.called {s t : Stream} (h : Drifts s t) : Drifts s t.called :=
  h.moved t.position (t.seekCalls + 1)

/-- Where an attempt to put the cursor somewhere leaves a stream that has drifted. -/
theorem Drifts.sought_eq {s t : Stream} (h : Drifts s t) (position : Nat) :
    t.sought position = { s with
      position := if t.refuses 1 then t.position else position
      seekCalls := t.seekCalls + 1 } := by
  rw [Stream.sought]
  split
  · exact h.called
  · exact h.moved position (t.seekCalls + 1)

variable {s : Stream}

theorem keeps_tell : Keeps (Drifts s) tell := by
  intro t h
  rw [tell_run]
  exact h.called

theorem keeps_seek (position : Nat) : Keeps (Drifts s) (seek position) := by
  intro t h
  rw [seek_run, h.sought_eq position]
  rfl

theorem keeps_read (n : Nat) : Keeps (Drifts s) (read n) := by
  intro t h
  rw [read_run]
  split
  · exact h
  · exact h.moved _ t.seekCalls

theorem keeps_readAll (fuel : Nat) (acc : List UInt8) : Keeps (Drifts s) (readAll fuel acc) := by
  -- By induction on the reads that are left; what was read before plays no part.
  induction fuel generalizing acc with
  | zero => exact Keeps.pure acc
  | succ fuel ih =>
    refine Keeps.get.bind fun t => (keeps_read _).bind fun bytes => ?_
    split
    · exact Keeps.pure acc
    · exact ih (acc ++ bytes)

theorem keeps_readToEnd : Keeps (Drifts s) readToEnd :=
  Keeps.get.bind fun _ => keeps_readAll _ []

theorem keeps_readSome (fuel n : Nat) (acc : List UInt8) :
    Keeps (Drifts s) (readSome fuel n acc) := by
  induction fuel generalizing n acc with
  | zero => exact Keeps.pure acc
  | succ fuel ih =>
    cases n with
    | zero => exact Keeps.pure acc
    | succ n =>
      refine (keeps_read _).bind fun bytes => ?_
      split
      · exact Keeps.pure acc
      · exact ih _ (acc ++ bytes)

/-! ## Streams without faults -/

/-- A stream without faults, where a read gives as many bytes as it is asked for. -/
structure Plain (s : Stream) : Prop where
  failingSeeks : s.failingSeeks = []
  failReadAt : s.failReadAt = none
  chunk : s.chunk = none
  stops : s.stops = []

theorem plain_ofBytes (content : List UInt8) (position : Nat) : (ofBytes content position).Plain :=
  ⟨rfl, rfl, rfl, rfl⟩

/-- The stream with its cursor a number of bytes further on. -/
def advanced (s : Stream) (n : Nat) : Stream := { s with position := s.position + n }

/-- The bytes from the cursor to the end. -/
def rest (s : Stream) : List UInt8 := s.content.drop s.position

theorem Plain.advanced {s : Stream} (h : s.Plain) (n : Nat) : (s.advanced n).Plain :=
  ⟨h.failingSeeks, h.failReadAt, h.chunk, h.stops⟩

theorem Plain.called {s : Stream} (h : s.Plain) : s.called.Plain :=
  ⟨h.failingSeeks, h.failReadAt, h.chunk, h.stops⟩

theorem Plain.placed {s : Stream} (h : s.Plain) (position : Nat) :
    ({ s with position } : Stream).Plain :=
  ⟨h.failingSeeks, h.failReadAt, h.chunk, h.stops⟩

theorem rest_advanced (s : Stream) (n : Nat) : (s.advanced n).rest = s.rest.drop n := by
  rw [rest, rest, List.drop_drop]
  rfl

theorem Plain.refuses {s : Stream} (h : s.Plain) (n : Nat) : s.refuses n = false := by
  rw [Stream.refuses, h.failingSeeks]
  rfl

theorem Plain.tell_run {s : Stream} (h : s.Plain) :
    tell.run.run s = (.ok s.position, s.called) := by
  rw [Stream.tell_run, h.refuses]
  rfl

theorem Plain.seek_run {s : Stream} (h : s.Plain) (position : Nat) :
    (seek position).run.run s = (.ok (), { s.called with position }) := by
  rw [Stream.seek_run, sought, h.refuses]
  rfl

theorem Plain.available {s : Stream} (h : s.Plain) (n : Nat) : s.available n = s.rest.take n := by
  simp [Stream.available, h.failReadAt, h.chunk, h.stops, rest]

theorem Plain.read_run {s : Stream} (h : s.Plain) (n : Nat) :
    (read n).run.run s = (.ok (s.rest.take n), s.advanced (s.rest.take n).length) := by
  have hfaulty : s.isFaulty = false := by
    simp only [isFaulty, h.failReadAt]
  rw [Stream.read_run, hfaulty, h.available]
  rfl

theorem Plain.readAll_run {s : Stream} (h : s.Plain) (fuel : Nat) (acc : List UInt8) :
    (readAll (fuel + 1) acc).run.run s = (.ok (acc ++ s.rest), s.advanced s.rest.length) := by
  -- After one read nothing is left, so a second one ends the loop, whatever the fuel.
  have hall : s.rest.take (s.content.length + 1) = s.rest := by
    refine List.take_of_length_le ?_
    rw [rest, List.length_drop]
    omega
  simp only [readAll, run_bind, run_get, h.read_run, hall]
  split
  · rename_i hempty
    rw [List.isEmpty_iff] at hempty
    rw [hempty, List.append_nil]
    rfl
  · cases fuel with
    | zero => rfl
    | succ fuel =>
      have hrest : (s.advanced s.rest.length).rest = [] := by
        rw [rest_advanced, List.drop_length]
      simp only [readAll, run_bind, run_get, (h.advanced _).read_run, hrest, List.take_nil,
        List.isEmpty_nil, if_true]
      rfl

theorem Plain.readToEnd_run {s : Stream} (h : s.Plain) :
    readToEnd.run.run s = (.ok s.rest, s.advanced s.rest.length) := by
  simp only [readToEnd, run_bind, run_get, h.readAll_run, List.nil_append]

/-- At the end of a stream nothing more is read. -/
theorem Plain.readSome_run_of_rest {s : Stream} (h : s.Plain) (hrest : s.rest = []) (fuel n : Nat)
    (acc : List UInt8) : (readSome fuel n acc).run.run s = (.ok acc, s) := by
  cases fuel with
  | zero => rfl
  | succ fuel =>
    cases n with
    | zero => rfl
    | succ n =>
      simp only [readSome, run_bind, h.read_run, hrest, List.take_nil, List.isEmpty_nil, if_true]
      rfl

theorem Plain.readSome_run {s : Stream} (h : s.Plain) (n : Nat) :
    (readSome (n + 1) n []).run.run s =
      (.ok (s.rest.take n), s.advanced (s.rest.take n).length) := by
  cases n with
  | zero => rfl
  | succ n =>
    simp only [readSome, run_bind, h.read_run, List.nil_append]
    split
    · rename_i hempty
      rw [List.isEmpty_iff] at hempty
      rw [hempty]
      rfl
    · -- Either the bytes were all there, or the first read has come to the end.
      rcases Nat.lt_or_ge s.rest.length (n + 1) with hn | hn
      · have hrest : (s.advanced (s.rest.take (n + 1)).length).rest = [] := by
          rw [rest_advanced, List.take_of_length_le (Nat.le_of_lt hn), List.drop_length]
        exact (h.advanced _).readSome_run_of_rest hrest _ _ _
      · have hlength : (s.rest.take (n + 1)).length = n + 1 := List.length_take_of_le hn
        rw [hlength, Nat.sub_self]
        rfl

/-! ## Reading in pieces -/

/-- Whether reads give at least one byte where there is one to give: only at the end of a stream a
read gives nothing. -/
def Flows (s : Stream) : Prop := s.chunk ≠ some 0

instance (s : Stream) : Decidable s.Flows := inferInstanceAs (Decidable (_ ≠ _))

/-- Whether reads fail before the content has been read to its end. -/
def isCut (s : Stream) : Bool := s.failReadAt.any (· ≤ s.content.length)

/-- The places at which a read stops lie ahead. -/
theorem lt_foldl_stops (stops : List Nat) {position n : Nat} (hn : 0 < n) :
    0 < (stops.filter (position < ·)).foldl (fun most stop => min most (stop - position)) n := by
  induction stops generalizing n with
  | nil => exact hn
  | cons stop stops ih =>
    by_cases hstop : position < stop
    · rw [List.filter_cons_of_pos (by simpa using hstop), List.foldl_cons]
      exact ih (by omega)
    · rw [List.filter_cons_of_neg (by simpa using hstop)]
      exact ih hn

/-- The first fault lies ahead of a read that does not fail. -/
theorem lt_fault {n : Nat} (h : s.isFaulty = false) (hn : 0 < n) :
    0 < (match s.failReadAt with | some at' => at' - s.position | none => n) := by
  rw [isFaulty] at h
  cases hat : s.failReadAt with
  | none => exact hn
  | some at' =>
    simp only [hat, decide_eq_false_iff_not] at h
    dsimp only
    omega

/-- Before the end and before any fault a read gives something, in the order of the content. -/
theorem Flows.available_ne_nil (h : s.Flows) (hfaulty : s.isFaulty = false)
    (hposition : s.position < s.content.length) {n : Nat} (hn : 0 < n) : s.available n ≠ [] := by
  have hstops : 0 < (s.stops.filter (s.position < ·)).foldl
      (fun most stop => min most (stop - s.position)) n := lt_foldl_stops s.stops hn
  have hchunk : 0 < s.chunk.getD n := by
    rcases hsize : s.chunk with _ | _ | size
    · exact hn
    · exact absurd hsize h
    · exact Nat.succ_pos size
  rw [← List.length_pos_iff, available, List.length_take, List.length_drop]
  exact Nat.lt_min.2 ⟨Nat.lt_min.2 ⟨hstops, Nat.lt_min.2 ⟨lt_fault hfaulty hn, hchunk⟩⟩,
    Nat.sub_pos_of_lt hposition⟩

theorem available_isPrefix (s : Stream) (n : Nat) : s.available n <+: s.rest :=
  List.take_prefix _ _

/-- Whatever the sizes of the pieces, reading to the end gives all that is left, or the fault that
lies ahead. But for the cursor the stream stays what it is. -/
theorem Flows.readAll_run (h : s.Flows) (hposition : s.position ≤ s.content.length) {fuel : Nat}
    (hfuel : s.content.length < s.position + fuel) (acc : List UInt8) :
    ∃ position, (readAll fuel acc).run.run s =
      (if s.isCut then .error s.readFault else .ok (acc ++ s.rest), { s with position }) := by
  induction fuel generalizing s acc with
  | zero => omega
  | succ fuel ih =>
    simp only [readAll, run_bind, run_get, read_run]
    cases hfaulty : s.isFaulty with
    | true =>
      have hcut : s.isCut = true := by
        rw [isFaulty] at hfaulty
        cases hat : s.failReadAt with
        | none => simp [hat] at hfaulty
        | some at' =>
          simp only [hat, decide_eq_true_eq] at hfaulty
          simp only [isCut, hat, Option.any_some, decide_eq_true_eq]
          omega
      exact ⟨s.position, by simp only [if_true, hcut]⟩
    | false =>
      simp only [Bool.false_eq_true, if_false]
      obtain ⟨later, hlater⟩ := s.available_isPrefix (s.content.length + 1)
      rcases hbytes : s.available (s.content.length + 1) with _ | ⟨b, bytes⟩
      · -- Nothing was given, so the cursor is at the end, and a fault would have shown.
        have hend : s.content.length ≤ s.position := Nat.not_lt.1 fun hlt =>
          h.available_ne_nil hfaulty hlt (Nat.succ_pos _) hbytes
        have hcut : s.isCut = false := by
          rw [isFaulty] at hfaulty
          cases hat : s.failReadAt with
          | none => simp only [isCut, hat, Option.any_none]
          | some at' =>
            simp only [hat, decide_eq_false_iff_not] at hfaulty
            simp only [isCut, hat, Option.any_some, decide_eq_false_iff_not]
            omega
        refine ⟨s.position, ?_⟩
        rw [rest, List.drop_eq_nil_of_le hend, hcut, List.append_nil]
        rfl
      · rw [hbytes] at hlater
        have hlength : bytes.length + 1 + later.length = s.content.length - s.position := by
          rw [← List.length_drop, ← rest, ← hlater, List.length_append, List.length_cons]
        have hnext : ({ s with position := s.position + (b :: bytes).length } : Stream).Flows := h
        obtain ⟨position, hrun⟩ := ih hnext (by simp only [List.length_cons]; omega)
          (by simp only [List.length_cons]; omega) (acc ++ b :: bytes)
        refine ⟨position, ?_⟩
        have hrest : s.rest = b :: bytes ++
            ({ s with position := s.position + (b :: bytes).length } : Stream).rest := by
          have hdrop := s.rest_advanced (b :: bytes).length
          rw [← hlater, List.drop_left] at hdrop
          rw [← hlater]
          exact congrArg _ hdrop.symm
        simp only [List.isEmpty_cons, Bool.false_eq_true, if_false]
        rw [hrun, hrest, List.append_assoc]
        rfl

theorem Flows.readToEnd_run (h : s.Flows) (hposition : s.position ≤ s.content.length) :
    ∃ position, readToEnd.run.run s =
      (if s.isCut then .error s.readFault else .ok s.rest, { s with position }) := by
  simp only [readToEnd, run_bind, run_get]
  exact h.readAll_run hposition (by omega) []

end Codemod.Stream
