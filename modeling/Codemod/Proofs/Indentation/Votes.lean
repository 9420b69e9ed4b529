import Codemod.Proofs.Indentation.Detect

set_option autoImplicit false

/-! # Who voted for the indentation

The lines that open a block are found with the stack of levels alone (`openers`), and the votes are
a matter of their leading blanks: those without a tab vote for spaces, those with a tab and without
a space vote for tabs. A poll is a tally of the votes of the openers so far (`Poll.Tallies`), so its
result is shown by lines of the text (`indentation_witnessed`). A form feed is neither a tab nor a
space: it does not keep a line from voting, and counts as one of its columns. -/

namespace Codemod.Indentation

/-! ## Lines that count -/

/-- A line of code counts at its place in the text, unless it continues what came before it. -/
theorem mem_counted_iff {line : List Char} {lines : List (List Char)} {scanner : Scanner} :
    line ∈ counted scanner lines ↔ ∃ before after, lines = before ++ line :: after ∧
      (before.foldl Scanner.scan scanner).inLogicalLine = false ∧ isSilent line = false := by
  induction lines generalizing scanner with
  | nil => simp [counted]
  | cons first rest ih =>
    have hsplit : line ∈ counted scanner (first :: rest) ↔
        (scanner.inLogicalLine = false ∧ isSilent first = false ∧ line = first) ∨
          line ∈ counted (scanner.scan first) rest := by
      rw [counted]
      cases scanner.inLogicalLine <;> cases isSilent first <;> simp
    rw [hsplit, ih]
    constructor
    · rintro (⟨hscanner, hsilent, rfl⟩ | ⟨before, after, rfl, hscanner, hsilent⟩)
      · exact ⟨[], rest, rfl, hscanner, hsilent⟩
      · exact ⟨first :: before, after, rfl, hscanner, hsilent⟩
    · rintro ⟨before, after, heq, hscanner, hsilent⟩
      cases before with
      | nil =>
        obtain ⟨rfl, rfl⟩ := List.cons_eq_cons.mp heq
        exact .inl ⟨hscanner, hsilent, rfl⟩
      | cons _ before =>
        obtain ⟨rfl, rfl⟩ := List.cons_eq_cons.mp heq
        exact .inr ⟨before, after, rfl, hscanner, hsilent⟩

/-! ## Lines that open a block -/

/-- The lines that are deeper than the innermost block that is open before them. -/
def openers : List Nat → List (List Char) → List (List Char)
  | _, [] => []
  | levels, line :: rest =>
    let w := width (leading line)
    if levels.headD 0 < w then line :: openers (w :: levels) rest
    else openers (Poll.closeTo w levels) rest

theorem openers_sublist (levels : List Nat) (lines : List (List Char)) :
    (openers levels lines).Sublist lines := by
  induction lines generalizing levels with
  | nil => exact .slnil
  | cons line rest ih =>
    rw [openers]
    split
    · exact (ih _).cons_cons line
    · exact (ih _).cons line

/-- A line that opens a block is indented. -/
theorem leading_ne_nil_of_mem_openers {levels : List Nat} {lines : List (List Char)}
    {line : List Char} (h : line ∈ openers levels lines) : leading line ≠ [] := by
  induction lines generalizing levels with
  | nil => cases h
  | cons first rest ih =>
    rw [openers] at h
    split at h
    case isTrue hdeeper =>
      rcases List.mem_cons.mp h with rfl | hrest
      · intro hnil
        rw [hnil] at hdeeper
        exact Nat.not_lt_zero _ hdeeper
      · exact ih hrest
    case isFalse => exact ih h

/-- The lines of a text that are asked for their vote. -/
def voters (text : List Char) : List (List Char) :=
  openers [0] (counted {} (Text.lines text))

/-- A line that is asked for its vote stands in the text, holds code, and continues nothing. -/
theorem exists_of_mem_voters {text line : List Char} (h : line ∈ voters text) :
    ∃ before after, Text.lines text = before ++ line :: after ∧
      (before.foldl Scanner.scan {}).inLogicalLine = false ∧ isSilent line = false :=
  mem_counted_iff.mp ((openers_sublist _ _).subset h)

/-! ## Votes -/

/-- A line without a tab in front votes for spaces. -/
def isForSpaces (line : List Char) : Bool :=
  !(leading line).contains '\t'

/-- A line with a tab and without a space in front votes for tabs. -/
def isForTab (line : List Char) : Bool :=
  (leading line).contains '\t' && !(leading line).contains ' '

theorem vote_leading (line : List Char) :
    vote? (leading line) =
      if isForSpaces line then some (.spaces (leading line).length)
      else if isForTab line then some .tab
      else none := by
  rw [vote?, isForSpaces, isForTab]
  cases (leading line).contains '\t' <;> cases (leading line).contains ' ' <;> rfl

/-- The lines that vote for spaces. -/
def spaceVotes (lines : List (List Char)) : List (List Char) := lines.filter isForSpaces

/-- The lines that vote for tabs. -/
def tabVotes (lines : List (List Char)) : List (List Char) := lines.filter isForTab

/-- Leading blanks without tabs and form feeds are spaces. -/
theorem leading_eq_replicate {line : List Char} (hspaces : isForSpaces line = true)
    (hformFeed : '\x0c' ∉ leading line) :
    leading line = List.replicate (leading line).length ' ' := by
  refine List.eq_replicate_iff.mpr ⟨rfl, fun c hc => ?_⟩
  have hblank : isIndentChar c = true := List.all_eq_true.mp List.all_takeWhile c hc
  simp only [isForSpaces, Bool.not_eq_true', List.contains_eq_mem, decide_eq_false_iff_not]
    at hspaces
  simp only [isIndentChar, Bool.or_eq_true, beq_iff_eq] at hblank
  rcases hblank with (rfl | rfl) | rfl
  · rfl
  · exact absurd hc hspaces
  · exact absurd hc hformFeed

/-- Leading blanks of a vote for tabs are tabs where they hold no form feed. -/
theorem eq_tab_of_mem_leading {line : List Char} (htab : isForTab line = true)
    (hformFeed : '\x0c' ∉ leading line) {c : Char} (hc : c ∈ leading line) : c = '\t' := by
  have hblank : isIndentChar c = true := List.all_eq_true.mp List.all_takeWhile c hc
  simp only [isForTab, Bool.and_eq_true, Bool.not_eq_true', List.contains_eq_mem,
    decide_eq_false_iff_not] at htab
  simp only [isIndentChar, Bool.or_eq_true, beq_iff_eq] at hblank
  rcases hblank with (rfl | rfl) | rfl
  · exact absurd hc htab.2
  · rfl
  · exact absurd hc hformFeed

/-! ## Tallies -/

/-- A poll that has counted the votes of some lines. -/
structure Poll.Tallies (lines : List (List Char)) (poll : Poll) : Prop where
  spaces : poll.spaces = (spaceVotes lines).length
  tabs : poll.tabs = (tabVotes lines).length
  narrowest : poll.narrowest = ((spaceVotes lines).map fun line => (leading line).length).min?

theorem Poll.tallies_nil (levels : List Nat) : Poll.Tallies [] { levels } := ⟨rfl, rfl, rfl⟩

theorem Poll.Tallies.with_levels {lines : List (List Char)} {poll : Poll}
    (h : poll.Tallies lines) (levels : List Nat) : Poll.Tallies lines { poll with levels } :=
  ⟨h.spaces, h.tabs, h.narrowest⟩

theorem min?_concat (ns : List Nat) (n : Nat) :
    (ns ++ [n]).min? = some (match ns.min? with | none => n | some m => min m n) := by
  cases ns with
  | nil => rfl
  | cons m ns => simp only [List.cons_append, List.min?_cons', List.foldl_append, List.foldl_cons,
      List.foldl_nil]

theorem Poll.Tallies.count {lines : List (List Char)} {poll : Poll} (h : poll.Tallies lines)
    (line : List Char) : (poll.count (vote? (leading line))).Tallies (lines ++ [line]) := by
  obtain ⟨hspaces, htabs, hnarrowest⟩ := h
  rw [vote_leading]
  cases hs : isForSpaces line with
  | true =>
    have ht : isForTab line = false := by
      simp only [isForSpaces, Bool.not_eq_true'] at hs
      simp only [isForTab, hs, Bool.false_and]
    refine ⟨?_, ?_, ?_⟩
    · simp [Poll.count, spaceVotes, hs, hspaces]
    · simp [Poll.count, tabVotes, ht, htabs]
    · have hlonger : (spaceVotes (lines ++ [line])).map (fun line => (leading line).length) =
          (spaceVotes lines).map (fun line => (leading line).length) ++
            [(leading line).length] := by
        simp [spaceVotes, hs]
      rw [hlonger, min?_concat, ← hnarrowest]
      rfl
  | false =>
    cases ht : isForTab line with
    | true =>
      refine ⟨?_, ?_, ?_⟩ <;>
        simp [Poll.count, spaceVotes, tabVotes, hs, ht, hspaces, htabs, hnarrowest]
    | false =>
      refine ⟨?_, ?_, ?_⟩ <;>
        simp [Poll.count, spaceVotes, tabVotes, hs, ht, hspaces, htabs, hnarrowest]

/-- A poll goes on from the votes so far to those of all lines that open a block. -/
theorem Poll.Tallies.foldl_addLine {before : List (List Char)} {poll : Poll}
    (h : poll.Tallies before) (lines : List (List Char)) :
    (lines.foldl (fun (poll : Poll) line => poll.addLine (leading line)) poll).Tallies
      (before ++ openers poll.levels lines) := by
  induction lines generalizing before poll with
  | nil => rwa [openers, List.append_nil, List.foldl_nil]
  | cons line rest ih =>
    rw [List.foldl_cons, openers, Poll.addLine, Poll.current]
    split
    · have hrest := ih ((h.with_levels (width (leading line) :: poll.levels)).count line)
      rwa [Poll.levels_count, List.append_assoc, List.singleton_append] at hrest
    · exact ih (h.with_levels _)

/-- A tally of the votes of a text decides what is detected. -/
theorem detect_tallied (text : List Char) :
    ∃ poll : Poll, poll.Tallies (voters text) ∧ detect text = poll.result :=
  ⟨_, (Poll.tallies_nil [0]).foldl_addLine _, rfl⟩

/-! ## Results -/

theorem Poll.Tallies.result_spaces {lines : List (List Char)} {poll : Poll}
    (h : poll.Tallies lines) (hmore : (tabVotes lines).length < (spaceVotes lines).length) :
    ∃ line ∈ spaceVotes lines, poll.result = .spaces (leading line).length ∧
      ∀ other ∈ spaceVotes lines, (leading line).length ≤ (leading other).length := by
  obtain ⟨hspaces, htabs, hnarrowest⟩ := h
  cases hmin : ((spaceVotes lines).map fun line => (leading line).length).min? with
  | none =>
    rw [List.min?_eq_none_iff, List.map_eq_nil_iff] at hmin
    simp only [hmin, List.length_nil, Nat.not_lt_zero] at hmore
  | some n =>
    obtain ⟨hmem, hleast⟩ := List.min?_eq_some_iff.mp hmin
    obtain ⟨line, hline, rfl⟩ := List.mem_map.mp hmem
    refine ⟨line, hline, ?_, fun other hother => hleast _ (List.mem_map_of_mem hother)⟩
    rw [Poll.result, hspaces, htabs, if_pos hmore, hnarrowest, hmin]

theorem Poll.Tallies.result_tab {lines : List (List Char)} {poll : Poll}
    (h : poll.Tallies lines) (hmore : (spaceVotes lines).length < (tabVotes lines).length) :
    poll.result = .tab := by
  rw [Poll.result, h.spaces, h.tabs, if_neg (by omega), if_pos hmore]

theorem Poll.Tallies.result_tie {lines : List (List Char)} {poll : Poll}
    (h : poll.Tallies lines) (htie : (spaceVotes lines).length = (tabVotes lines).length) :
    poll.result = standard := by
  rw [Poll.result, h.spaces, h.tabs, htie, if_neg (Nat.lt_irrefl _), if_neg (Nat.lt_irrefl _)]

/-- What is detected is shown by a line of the text that opens a block. If more of these lines vote
for spaces than for tabs, the answer is as long as the leading blanks of one of the former, and none
of them has fewer; it is these blanks, if they hold no form feed. If more vote for tabs, then some
line has a tab and no space in front, and nothing but tabs, if it has no form feed there. Otherwise
the answer is the standard one. -/
theorem indentation_witnessed (s : String) :
    ∃ answer : Indentation,
      Detection.indentation (.text s) = { answer := .ok answer, stream := none, log := [] } ∧
      let spaces := spaceVotes (voters s.toList)
      let tabs := tabVotes (voters s.toList)
      (tabs.length < spaces.length → ∃ line ∈ spaces,
        (∃ before after, Text.lines s.toList = before ++ line :: after ∧
          (before.foldl Scanner.scan {}).inLogicalLine = false ∧ isSilent line = false) ∧
        answer = .spaces (leading line).length ∧
        (∀ other ∈ spaces, (leading line).length ≤ (leading other).length) ∧
        ('\x0c' ∉ leading line → answer.chars = leading line)) ∧
      (spaces.length < tabs.length → answer = .tab ∧ ∃ line ∈ tabs,
        (∃ before after, Text.lines s.toList = before ++ line :: after ∧
          (before.foldl Scanner.scan {}).inLogicalLine = false ∧ isSilent line = false) ∧
        ('\x0c' ∉ leading line → leading line ≠ [] ∧ ∀ c ∈ leading line, c = '\t')) ∧
      (spaces.length = tabs.length → answer = standard) := by
  obtain ⟨poll, htally, hdetect⟩ := detect_tallied s.toList
  refine ⟨detect s.toList, by rw [Detection.indentation, Detection.ask_text], ?_, ?_, ?_⟩
  · intro hmore
    obtain ⟨line, hline, hresult, hleast⟩ := htally.result_spaces hmore
    obtain ⟨hvoter, hvote⟩ := List.mem_filter.mp hline
    refine ⟨line, hline, exists_of_mem_voters hvoter, hdetect.trans hresult, hleast,
      fun hform => ?_⟩
    rw [hdetect, hresult, chars]
    exact (leading_eq_replicate hvote hform).symm
  · intro hmore
    obtain ⟨line, hline⟩ := List.exists_mem_of_length_pos (Nat.zero_lt_of_lt hmore)
    obtain ⟨hvoter, hvote⟩ := List.mem_filter.mp hline
    refine ⟨hdetect.trans (htally.result_tab hmore), line, hline, exists_of_mem_voters hvoter,
      fun hform => ⟨fun hnil => ?_, fun c hc => eq_tab_of_mem_leading hvote hform hc⟩⟩
    simp only [isForTab, hnil, List.contains_nil, Bool.false_and, Bool.false_eq_true] at hvote
  · intro htie
    exact hdetect.trans (htally.result_tie htie)

/-- A block whose only line has a form feed and two spaces in front. -/
def formFeedText : String := "if a:\n\x0c  b\n"

/-- The form feed does not keep the line from voting, and counts as a space, so the answer is not
the leading blanks of any line. -/
theorem indentation_formFeedText :
    (Detection.indentation (.text formFeedText)).answer = .ok (.spaces 3) ∧
      ∀ line ∈ Text.lines formFeedText.toList, leading line ≠ chars (.spaces 3) := by
  rw [Detection.indentation, Detection.ask_text]
  decide +kernel

end Codemod.Indentation
