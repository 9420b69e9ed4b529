import Codemod.Proofs.Config.Notation
import Codemod.Proofs.Config.Variable
import Codemod.Proofs.Setting.Count
import Codemod.Proofs.Setting.Switch

set_option autoImplicit false

/-! # Settings as numbers

An integer can be given as a number or as a text that holds its decimal form, in a document, in a
stored configuration or in a variable. A variable is the odd one: its text is a number to it as long
as some word holds it, and from there on a text. What becomes of the setting depends on the integer
alone (`answers_to_number`). -/

namespace Codemod.Config

variable {k : Key} {n : Int} {s : String}

/-! ## Integers -/

/-- The number of jobs that an integer stands for. -/
def jobsOfNumber (n : Int) : Option (Option Nat) :=
  if n = 0 then some none else if 0 < n ∧ n < 2 ^ 64 then some (some n.toNat) else none

/-- The state that an integer stands for. -/
def switchOfNumber (n : Int) : Option Bool :=
  if n = 0 then some false else if n = 1 then some true else none

/-- The setting that an integer stands for. -/
def Key.ofNumber (n : Int) : Key → Option Scalar
  | jobs => (jobsOfNumber n).map jobsScalar
  | shared | parallel => (switchOfNumber n).map .bool

theorem Key.ofNumber_switch (hk : k ≠ .jobs) (n : Int) :
    k.ofNumber n = (switchOfNumber n).map .bool := by
  cases k with
  | jobs => exact absurd rfl hk
  | shared => rfl
  | parallel => rfl

theorem readJobs_integer (h : n < 2 ^ 64) : (readJobs (.integer n)).toOption = jobsOfNumber n := by
  rw [readJobs, normalJobs, jobsOfNumber]
  split_ifs <;> first | rfl | omega

theorem readSwitch_integer (n : Int) :
    (readSwitch (.integer n)).toOption = switchOfNumber n := by
  rw [readSwitch, switchOfNumber]
  split_ifs <;> rfl

/-- An integer that some word holds is taken as such. -/
theorem Key.read_integer (k : Key) (h : n < 2 ^ 64) : k.read (some (.integer n)) = k.ofNumber n := by
  by_cases hk : k = .jobs
  · rw [hk, read_jobs, readJobs_integer h, ofNumber]
  · rw [read_switch hk, readSwitch_integer, ofNumber_switch hk]

/-! ## Texts -/

/-- A text that holds the decimal form of an integer, and blanks around it. -/
def Pads (s : String) (n : Int) : Prop :=
  ∃ before after, s.toList = before ++ (toString n).toList ++ after ∧
    Text.IsGap before ∧ Text.IsGap after

theorem Pads.trim (h : Pads s n) : Text.trim s.toList = (toString n).toList := by
  obtain ⟨before, after, heq, hbefore, hafter⟩ := h
  rw [heq, Text.trim_append hbefore hafter (Numeral.writes_toString n).isTrimmed]

theorem Pads.trimString (h : Pads s n) : Text.trimString s = toString n := by
  rw [Text.trimString, h.trim, String.ofList_toList]

theorem pads_toString (n : Int) : Pads (toString n) n :=
  ⟨[], [], by simp, fun _ hc => (nomatch hc), fun _ hc => (nomatch hc)⟩

theorem toString_eq_zero_iff : toString n = "0" ↔ n = 0 := by
  constructor
  · intro h
    have hwrites := Numeral.writes_toString n
    rw [h] at hwrites
    exact hwrites.unique (Numeral.writes_toString 0)
  · rintro rfl
    rfl

theorem toOption_mapError {ε ε' α : Type} (f : ε → ε') (e : Except ε α) :
    (e.mapError f).toOption = e.toOption := by
  cases e <;> rfl

/-- A positive count is read from its decimal form. -/
theorem readCount_toString (hn : n ≠ 0) :
    (Setting.readCount (toString n)).toOption = jobsOfNumber n := by
  have hdenotes : Setting.Denotes (toString n) n := by
    rw [Setting.denotes_iff, (pads_toString n).trim]
    exact Numeral.writes_toString n
  rw [jobsOfNumber, if_neg hn]
  have hanswer := Setting.answers_readCount (toString n)
  generalize Setting.readCount (toString n) = answer at hanswer ⊢
  cases hanswer with
  | notGiven h => exact absurd h hdenotes.ne_empty
  | @count m hm hpos hfits =>
    obtain rfl := hdenotes.unique hm
    rw [if_pos ⟨by omega, by exact_mod_cast hfits⟩]
    rfl
  | notPositive hv _ hneg =>
    obtain rfl := hdenotes.unique hv
    exact (if_neg (by omega)).symm
  | outOfRange hv hlarge _ =>
    obtain rfl := hdenotes.unique hv
    exact (if_neg (by omega)).symm
  | notAnInteger _ hnone =>
    refine (if_neg fun hfits => hnone ⟨n, hdenotes, by omega, by omega⟩).symm

theorem readJobs_text (h : Pads s n) : (readJobs (.text s)).toOption = jobsOfNumber n := by
  rw [readJobs, h.trimString]
  by_cases hn : n = 0
  · rw [if_pos (toString_eq_zero_iff.mpr hn), hn]
    rfl
  · rw [if_neg (mt toString_eq_zero_iff.mp hn), toOption_mapError, readCount_toString hn]

theorem readSwitch_text (h : Pads s n) : (readSwitch (.text s)).toOption = switchOfNumber n := by
  rw [readSwitch, toOption_mapError, h.trimString, Setting.readSwitch_toString, switchOfNumber]

/-- The decimal form of an integer comes to the same as the integer. -/
theorem Key.read_text (k : Key) (h : Pads s n) : k.read (some (.text s)) = k.ofNumber n := by
  by_cases hk : k = .jobs
  · rw [hk, read_jobs, readJobs_text h, ofNumber]
  · rw [read_switch hk, readSwitch_text h, ofNumber_switch hk]

/-- And so does a variable with it, whether it is a number to it or a text. -/
theorem Key.read_value (k : Key) (h : Pads s n) :
    k.read (some (Notation.value s).scalar) = k.ofNumber n := by
  have hwrites : Numeral.Writes (Text.trim s.toList) n := by
    rw [h.trim]
    exact Numeral.writes_toString n
  rw [Notation.value_of_writes hwrites]
  -- What no word holds stays a text, and as such it is refused like any number of its size.
  split_ifs with hfits
  · exact k.read_integer hfits.2
  · rw [h.trim, String.ofList_toList]
    exact k.read_text (pads_toString n)

/-! ## Ways to give an integer -/

/-- A JSON value that holds an integer: a number, if there is a word for it, or a string. -/
inductive JsonHolds (n : Int) : Json → Prop where
  | natural {m : Nat} (hm : n = m) (hfits : m < 2 ^ 64) : JsonHolds n (.number (.natural m))
  | negative {m : Nat} (hm : n = -m) (hpos : 0 < m) (hfits : m ≤ 2 ^ 63) :
    JsonHolds n (.number (.negative m))
  | string {s : String} (h : Pads s n) : JsonHolds n (.string s)

/-- A value of a document that holds an integer: one of the integers that a document can have, or a
string. -/
inductive ValueHolds (n : Int) : Value → Prop where
  | integer (hlow : -2 ^ 63 ≤ n) (hhigh : n < 2 ^ 63) : ValueHolds n (.integer n)
  | string {s : String} (h : Pads s n) : ValueHolds n (.text s)

theorem JsonHolds.read {j : Json} (h : JsonHolds n j) (k : Key) :
    k.read (some (scalarOf j)) = k.ofNumber n := by
  cases h with
  | @natural m hm hfits =>
    subst hm
    exact k.read_integer (by exact_mod_cast hfits)
  | @negative m hm =>
    subst hm
    exact k.read_integer (by omega)
  | string h => exact k.read_text h

theorem ValueHolds.read {v : Value} (h : ValueHolds n v) (k : Key) :
    k.read (some v.scalar) = k.ofNumber n := by
  cases h with
  | integer => exact k.read_integer (by omega)
  | string h => exact k.read_text h

/-- What is answered where a setting is given as an integer and the others are accepted: a stored
configuration, one from a file and an environment, or one from documents that are put over each
other. -/
inductive AnswerTo (k : Key) (n : Int) : Option DispatchConfig → Prop where
  | object {ms : List (String × Json)} {j : Json} (hj : Json.find? ms k.name = some j)
    (hholds : JsonHolds n j) (hothers : OthersAccepted k (objectSaid ms)) :
    AnswerTo k n (ofJson (.object ms)).toOption
  | array {items : List Json} {j : Json} (hlength : items.length ≤ 3)
    (hj : items[k.position]? = some j) (hholds : JsonHolds n j)
    (hothers : OthersAccepted k (arraySaid items)) : AnswerTo k n (ofJson (.array items)).toOption
  | file {d : Disk} {env : List (String × String)} {p : Path} {ms : Members} {v : Value}
    (hfile : FileGives d p ms) (hunset : ∀ e ∈ env, ¬ Environment.Names e.1 k.name)
    (hv : ms.get? k.name = some v) (hholds : ValueHolds n v)
    (hothers : OthersAccepted k (sourceSaid [Environment.settings env, ms, defaults])) :
    AnswerTo k n (loadFrom d env p).toOption
  | documents {firstWins : Bool} {documents : List (List Char)} {tables : List Members} {v : Value}
    (htables : documents.mapM ofDocument = .ok tables)
    (hv : topmost? (ranked firstWins tables) k.name = some v) (hholds : ValueHolds n v)
    (hothers : OthersAccepted k (sourceSaid (ranked firstWins tables))) :
    AnswerTo k n ((layered firstWins documents).bind ofMembers).toOption
  | environment {d : Disk} {env : List (String × String)} {p : Path} {ms : Members} {s : String}
    (hfile : FileGives d p ms) (hsets : Environment.Sets env k.name s) (hpads : Pads s n)
    (hothers : OthersAccepted k (sourceSaid [Environment.settings env, ms, defaults])) :
    AnswerTo k n (loadFrom d env p).toOption

theorem AnswerTo.map_get {answer : Option DispatchConfig} (h : AnswerTo k n answer) :
    answer.map (k.get ·) = k.ofNumber n := by
  cases h with
  | object hj hholds hothers =>
    rw [(answers_object _).map_get hothers, objectSaid, hj]
    exact hholds.read k
  | array hlength hj hholds hothers =>
    rw [(answers_array hlength).map_get hothers, arraySaid, hj]
    exact hholds.read k
  | file hfile hunset hv hholds hothers =>
    rw [(hfile.readFrom _).answers.map_get hothers,
      sourceSaid_cons_of_none _ (Environment.get?_settings_eq_none hunset),
      sourceSaid_cons_of_some _ (congrArg (Option.map Value.scalar) hv)]
    exact hholds.read k
  | documents htables hv hholds hothers =>
    rw [(readFrom_layered htables).answers.map_get hothers, sourceSaid, hv]
    exact hholds.read k
  | environment hfile hsets hpads hothers =>
    rw [(hfile.readFrom _).answers.map_get hothers, sourceSaid_of_sets hsets]
    exact k.read_value hpads

/-- **A number and its text come to the same.** However an integer is given as a setting, and with
whatever blanks around its decimal form, it is accepted with the same value or refused: the answers
to any two ways agree, and they are what the integer stands for. -/
theorem answers_to_number {answer answer' : Option DispatchConfig} (h : AnswerTo k n answer)
    (h' : AnswerTo k n answer') :
    answer.map (k.get ·) = answer'.map (k.get ·) ∧ answer.map (k.get ·) = k.ofNumber n :=
  ⟨h.map_get.trans h'.map_get.symm, h.map_get⟩

/-- A document that gives a number as such. -/
def eightText : String := "jobs = 8"

/-- The file with that document. -/
def eightFile : Disk where
  entries := [([.ofString fileName], .file 0)]
  contents := [(0, .bytes (Encoding.Utf8.encode eightText.toList))]
  nextKey := 1

/-- A variable that gives it as a text. -/
def eightVariable : List (String × String) := [("BPC_JOBS", "\u3000 8\t")]

theorem answerTo_eightVariable :
    AnswerTo .jobs 8 (loadFrom {} eightVariable (.ofString fileName)).toOption := by
  have hblank : ∀ c ∈ ['\u3000', ' ', '\t'], Text.isBlank c = true :=
    Text.forall_mem_of_all (by decide)
  refine .environment (s := "\u3000 8\t") fileGives_nothing
    ⟨[], "BPC_JOBS", [], rfl, by decide +kernel, fun _ hv => (nomatch hv)⟩
    ⟨['\u3000', ' '], ['\t'], by decide +kernel, fun c hc => hblank c ?_, fun c hc => hblank c ?_⟩ ?_
  · exact List.mem_append_left _ hc
  · exact List.mem_append_right ['\u3000', ' '] hc
  · intro k' hk'
    cases k' with
    | jobs => exact absurd rfl hk'
    | shared => decide +kernel
    | parallel => decide +kernel

theorem answerTo_eightFile :
    AnswerTo .jobs 8 (loadFrom eightFile [] (.ofString fileName)).toOption := by
  have hread : ((findFile? eightFile (.ofString fileName)).bind fun file =>
      (readDocument eightFile file).toOption) = some eightText.toList := by decide +kernel
  have hparsed : ((ofDocument eightText.toList).toOption.map fun ms => settingKeys.map fun key =>
      (ms.get? key).map Value.scalar) = some [some (.integer 8), none, none] := by decide +kernel
  obtain ⟨file, hfile, htext⟩ := Option.bind_eq_some_iff.1 hread
  obtain ⟨ms, hms, hsaid⟩ := Option.map_eq_some_iff.1 hparsed
  have hgives : FileGives eightFile (.ofString fileName) ms :=
    .document hfile (eq_ok_of_toOption htext) (eq_ok_of_toOption hms)
  simp only [settingKeys, List.map_cons, List.map_nil, List.cons.injEq,
    Option.map_eq_none_iff] at hsaid
  obtain ⟨hjobs, hparallel, hshared, -⟩ := hsaid
  obtain ⟨v, hv, hscalar⟩ := Option.map_eq_some_iff.1 hjobs
  have hholds : ValueHolds 8 v := by
    cases v <;> cases hscalar
    exact .integer (by norm_num) (by norm_num)
  refine .file hgives (fun _ he => (nomatch he)) hv hholds fun k' hk' => ?_
  rw [sourceSaid_cons_of_none _ rfl]
  cases k' with
  | jobs => exact absurd rfl hk'
  | shared =>
    rw [sourceSaid_cons_of_none _ hshared]
    decide +kernel
  | parallel =>
    rw [sourceSaid_cons_of_none _ hparallel]
    decide +kernel

/-- The same number in a variable, in a file and in a stored object. -/
theorem answers_to_number_of_eight :
    AnswerTo .jobs 8 (loadFrom {} eightVariable (.ofString fileName)).toOption ∧
      (loadFrom {} eightVariable (.ofString fileName)).toOption.map (Key.get · .jobs) =
        (loadFrom eightFile [] (.ofString fileName)).toOption.map (Key.get · .jobs) ∧
      (loadFrom eightFile [] (.ofString fileName)).toOption.map (Key.get · .jobs) =
        (ofJson (.object [("jobs", .string "8")])).toOption.map (Key.get · .jobs) ∧
      Key.ofNumber 8 .jobs = some (.integer 8) := by
  have hobject : AnswerTo .jobs 8 (ofJson (.object [("jobs", .string "8")])).toOption := by
    refine .object rfl (.string (pads_toString 8)) fun k' hk' => ?_
    cases k' with
    | jobs => exact absurd rfl hk'
    | shared => rfl
    | parallel => rfl
  exact ⟨answerTo_eightVariable, (answers_to_number answerTo_eightVariable answerTo_eightFile).1,
    (answers_to_number answerTo_eightFile hobject).1, by decide⟩

end Codemod.Config
