import Mathlib.Data.List.Forall2
import RemoteQuery.Proofs.ExecutionOutcome

/-!
# The words that name a state

The word of an answer names a state if the capitals of its characters, blanks around it apart, are
those of the state's word. A ligature has several capitals at once, but these stand side by side in
no word of a state, so each character is for one letter. Beside the two cases of the letter this may
be a small letter outside ASCII: the long s and the dotless i have capitals of ASCII. Polling ends
in a terminal state only with a word that names it in this sense.
-/
namespace RemoteQuery

namespace Text

/-- The character is this capital of ASCII, or is so written in capitals. -/
inductive HasCapital (letter : Char) : Char → Prop
  | capital : HasCapital letter letter
  | small : HasCapital letter letter.toLower
  | longS (same : letter = 'S') : HasCapital letter 'ſ'
  | dotlessI (same : letter = 'I') : HasCapital letter 'ı'

def capitals : List Char := "ABCDEFGHIJKLMNOPQRSTUVWXYZ".toList

/-- The capitals of the characters that have more than one. -/
def wideCapitals : List (List Char) :=
  ["SS", "FF", "FI", "FL", "FFI", "FFL", "ST"].map String.toList

theorem upperAscii_cases (c : Char) :
    upperAscii c ∈ wideCapitals ∨ c = 'ı' ∧ upperAscii c = ['I'] ∨
      c = 'ſ' ∧ upperAscii c = ['S'] ∨ upperAscii c = [c.toUpper] := by
  unfold upperAscii
  split
  case h_2 => exact .inr (.inl ⟨rfl, rfl⟩)
  case h_3 => exact .inr (.inr (.inl ⟨rfl, rfl⟩))
  case h_11 => exact .inr (.inr (.inr rfl))
  all_goals exact .inl (by decide)

theorem toUpper_ascii : ∀ n < 0x80, ∀ letter ∈ capitals, (Char.ofNat n).toUpper = letter →
    Char.ofNat n = letter ∨ Char.ofNat n = letter.toLower := by
  -- the characters are gone through in a list, and not all that there are
  have each : ((List.range 0x80).all fun n => capitals.all fun letter =>
      decide ((Char.ofNat n).toUpper = letter →
        Char.ofNat n = letter ∨ Char.ofNat n = letter.toLower)) = true := by decide +kernel
  simpa only [List.all_eq_true, List.mem_range, decide_eq_true_eq] using each

theorem toUpper_of_not_ascii {c : Char} (high : 0x80 ≤ c.toNat) : c.toUpper = c := by
  refine dif_neg ?_
  rintro ⟨_, small⟩
  have : c.toNat ≤ 'z'.toNat := small
  have : 'z'.toNat = 122 := rfl
  omega

theorem upperAscii_eq_singleton_iff {letter c : Char} (listed : letter ∈ capitals) :
    upperAscii c = [letter] ↔ HasCapital letter c := by
  constructor
  · intro alone
    rcases upperAscii_cases c with wide | ⟨rfl, one⟩ | ⟨rfl, one⟩ | one
    · have long : ∀ form ∈ wideCapitals, form.length ≠ 1 := by decide
      rw [alone] at wide
      exact (long _ wide rfl).elim
    · cases one.symm.trans alone
      exact .dotlessI rfl
    · cases one.symm.trans alone
      exact .longS rfl
    · have upper : c.toUpper = letter := (List.cons.inj (one.symm.trans alone)).1
      rcases Nat.lt_or_ge c.toNat 0x80 with ascii | high
      · have form := toUpper_ascii c.toNat ascii letter listed
        rw [Char.ofNat_toNat] at form
        rcases form upper with rfl | rfl
        · exact .capital
        · exact .small
      · rw [toUpper_of_not_ascii high] at upper
        exact upper ▸ .capital
  · have each : (capitals.all fun letter => decide (upperAscii letter = [letter] ∧
        upperAscii letter.toLower = [letter])) = true := by decide +kernel
    have plain := decide_eq_true_eq.mp (List.all_eq_true.mp each letter listed)
    rintro (_ | _ | rfl | rfl)
    · exact plain.1
    · exact plain.2
    · rfl
    · rfl

/-- In a word that holds no run of capitals which one character has, each character is written with
one capital. -/
theorem flatMap_upperAscii_eq_iff {text word : List Char}
    (narrow : ∀ form ∈ wideCapitals, ¬ form <:+: word) :
    text.flatMap upperAscii = word ↔
      List.Forall₂ (fun letter c => upperAscii c = [letter]) word text := by
  constructor
  · intro spelled
    induction text generalizing word with
    | nil =>
      cases spelled
      exact .nil
    | cons c text ih =>
      have single : ∃ letter, upperAscii c = [letter] := by
        rcases upperAscii_cases c with wide | ⟨_, one⟩ | ⟨_, one⟩ | one
        · refine (narrow _ wide ⟨[], text.flatMap upperAscii, ?_⟩).elim
          rw [List.nil_append, ← List.flatMap_cons, spelled]
        · exact ⟨_, one⟩
        · exact ⟨_, one⟩
        · exact ⟨_, one⟩
      obtain ⟨letter, one⟩ := single
      rw [List.flatMap_cons, one, List.singleton_append] at spelled
      subst spelled
      refine .cons one (ih ?_ rfl)
      intro form wide inside
      exact narrow form wide (inside.trans (List.suffix_cons _ _).isInfix)
  · intro each
    clear narrow
    induction each with
    | nil => rfl
    | cons one _ ih => rw [List.flatMap_cons, one, ih, List.singleton_append]

end Text

namespace Lifecycle

/-- The text without its outer blanks is the word of the state, written with these capitals. -/
def Names (state : Lifecycle) (text : String) : Prop :=
  List.Forall₂ Text.HasCapital state.word.toList (Text.trim text.toList)

/-- The text without its outer blanks is the word of the state, each letter in either case. -/
def NamesInAscii (state : Lifecycle) (text : String) : Prop :=
  List.Forall₂ (fun letter c => c = letter ∨ c = letter.toLower) state.word.toList
    (Text.trim text.toList)

theorem word_capitals (state : Lifecycle) :
    ∀ letter ∈ state.word.toList, letter ∈ Text.capitals := by
  have each : (state.word.toList.all fun letter => decide (letter ∈ Text.capitals)) = true := by
    cases state <;> decide +kernel
  simpa only [List.all_eq_true, decide_eq_true_eq] using each

theorem word_narrow (state : Lifecycle) :
    ∀ form ∈ Text.wideCapitals, ¬ form <:+: state.word.toList := by
  cases state <;> decide +kernel

theorem read?_eq_some_iff_names {text : String} {state : Lifecycle} :
    read? text = some state ↔ state.Names text := by
  have letters := state.word_capitals
  rw [read?_eq_some_iff, spelling, Text.flatMap_upperAscii_eq_iff state.word_narrow, Names]
  constructor
  · intro each
    refine ((List.forall₂_and_left _ _).mpr ⟨letters, each⟩).imp ?_
    rintro letter c ⟨listed, one⟩
    exact (Text.upperAscii_eq_singleton_iff listed).mp one
  · intro each
    refine ((List.forall₂_and_left _ _).mpr ⟨letters, each⟩).imp ?_
    rintro letter c ⟨listed, large⟩
    exact (Text.upperAscii_eq_singleton_iff listed).mpr large

theorem read?_eq_none_iff {text : String} :
    read? text = none ↔ ∀ state : Lifecycle, ¬ state.Names text := by
  rw [Option.eq_none_iff_forall_ne_some]
  exact forall_congr' fun state => read?_eq_some_iff_names.not

/-- In ASCII there are no capitals of other letters. -/
theorem names_iff_namesInAscii {state : Lifecycle} {text : String}
    (ascii : ∀ c ∈ Text.trim text.toList, c.toNat < 0x80) :
    state.Names text ↔ state.NamesInAscii text := by
  constructor
  · intro named
    refine List.forall₂_iff_zip.mpr ⟨named.length_eq, ?_⟩
    intro letter c paired
    have low := ascii c (List.of_mem_zip paired).2
    cases List.forall₂_zip named paired with
    | capital => exact .inl rfl
    | small => exact .inr rfl
    | longS | dotlessI => exact (Nat.not_lt.mpr (by decide) low).elim
  · intro named
    refine named.imp ?_
    rintro letter c (rfl | rfl)
    · exact .capital
    · exact .small

end Lifecycle

namespace Message

/-- What the answer gives as the state of the query. -/
def GetQueryExecutionResponse.word? (response : GetQueryExecutionResponse) : Option String :=
  response.queryExecution.bind fun execution => execution.status.bind ExecutionStatus.state

end Message

namespace Snapshot

variable {requestedId : String} {response : Message.GetQueryExecutionResponse}

theorem word_of_ofResponse {snapshot : Snapshot}
    (h : ofResponse requestedId response = .ok snapshot) :
    ∃ word, response.word? = some word ∧ Lifecycle.read? word = some snapshot.state := by
  unfold ofResponse at h
  split at h
  · cases h
  · rename_i execution found
    split at h
    · cases h
    · rename_i status reported
      split at h
      · cases h
      · rename_i word given
        split at h
        · cases h
        · rename_i state read
          cases h
          refine ⟨word, ?_, read⟩
          rw [Message.GetQueryExecutionResponse.word?, found, Option.bind_some, reported,
            Option.bind_some, given]

theorem ofResponse_of_unread {word : String} (given : response.word? = some word)
    (unread : Lifecycle.read? word = none) :
    ofResponse requestedId response = .error (.unknownState word) := by
  simp only [Message.GetQueryExecutionResponse.word?, Option.bind_eq_some_iff] at given
  obtain ⟨execution, found, status, reported, given⟩ := given
  simp only [ofResponse, found, reported, given, unread]

end Snapshot

namespace Polling

/-- A query that polling has found at its end was reported so by the last answer. -/
theorem word_of_terminal {line after : Line} {queryId : String} {policy : PollPolicy}
    {snapshot : Snapshot}
    (h : pollUntilTerminal? line queryId policy = some (.ok (.terminal snapshot), after)) :
    snapshot.isTerminal = true ∧ ∃ index response word, after.polled = line.polled + (index + 1) ∧
      (line.service.execution (line.polled + index) queryId).result = .ok response ∧
      response.word? = some word ∧ snapshot.state.Names word := by
  obtain ⟨deadline, _, polled⟩ := Option.bind_eq_some_iff.mp h
  obtain ⟨calls, reaches, concludes⟩ := pollUntil?_concludes polled
  cases concludes with
  | terminal polls terminal reports =>
    obtain ⟨index, count, answer⟩ := @Reports.lastPoll _ _ _ _ [] polls rfl reports
    rw [List.append_nil] at count
    refine ⟨terminal, ?_⟩
    cases result : (line.service.execution (line.polled + index) queryId).result with
    | error source =>
      rw [result] at answer
      cases answer
    | ok response =>
      have taken : Snapshot.ofResponse queryId response = .ok snapshot := by
        rw [result, snapshotOf] at answer
        split at answer
        · rename_i found
          cases answer
          exact found
        · cases answer
      obtain ⟨word, given, read⟩ := Snapshot.word_of_ofResponse taken
      exact ⟨index, response, word, by rw [reaches.polled, count], result, given,
        Lifecycle.read?_eq_some_iff_names.mp read⟩

end Polling

namespace Lifecycle

/-- A text names a state just when its characters have the capitals of the state's word; within
ASCII these are the two cases of each letter. A text that names none is an unknown state under this
very text, and polling finds a query at its end only by a word that names a terminal state. -/
theorem states_named (text : String) :
    (∀ state, read? text = some state ↔ state.Names text) ∧
    ((∀ c ∈ Text.trim text.toList, c.toNat < 0x80) →
      ∀ state, read? text = some state ↔ state.NamesInAscii text) ∧
    (∀ requestedId response, Message.GetQueryExecutionResponse.word? response = some text →
      (∀ state : Lifecycle, ¬ state.Names text) →
      Snapshot.ofResponse requestedId response = .error (.unknownState text)) ∧
    ∀ line queryId policy snapshot after,
      Polling.pollUntilTerminal? line queryId policy = some (.ok (.terminal snapshot), after) →
      snapshot.isTerminal = true ∧ ∃ index response word,
        after.polled = line.polled + (index + 1) ∧
        (line.service.execution (line.polled + index) queryId).result = .ok response ∧
        response.word? = some word ∧ snapshot.state.Names word := by
  refine ⟨fun state => read?_eq_some_iff_names, ?_, ?_, ?_⟩
  · intro ascii state
    rw [read?_eq_some_iff_names, names_iff_namesInAscii ascii]
  · intro requestedId response given unnamed
    exact Snapshot.ofResponse_of_unread given (read?_eq_none_iff.mpr unnamed)
  · intro line queryId policy snapshot after
    exact Polling.word_of_terminal

/-- The long s is no letter of a state's word, and it is read as one. -/
theorem not_named_in_ascii_only :
    ¬ ∀ text state, read? text = some state ↔ state.NamesInAscii text := by
  intro only
  have named := (only "ſucceeded" .succeeded).mp (by decide)
  have first : 'ſ' = 'S' ∨ 'ſ' = 'S'.toLower := List.forall₂_zip named (by decide)
  exact absurd first (by decide)

end Lifecycle

end RemoteQuery
