import RemoteQuery.Proofs.AddressReading
import RemoteQuery.Proofs.PairSettings
import RemoteQuery.Proofs.SecondsRange

/-!
# Durations that are too long

A string has an answer, parameters or an error, unless it comes to a pair that gives a duration of
seconds that are finite and too many. No other text is left without one: each is a duration or
refused as none, infinite numbers too.

Which pair it comes to first is not told by the string. In every order there is an answer just if no
pair is overlong, and in some order just if none is or another pair, refused first, keeps it from
being read.
-/
namespace RemoteQuery.Address

/-- The pair gives a duration that is too long. -/
structure Overlong (pair : String × String) : Prop where
  timed : ∃ parameter, (pair.1, parameter) ∈ parameterNames ∧ parameter.IsDuration
  long : ∃ seconds, Number.Denotes pair.2.toList seconds ∧ TooLong seconds

/-- The pair is one of those that are collected from the string. -/
inductive Collected (text : String) (pair : String × String) : Prop
  | intro {layout : Layout} {settings : ConnectionSettings} {pairs : List (String × String)}
      (opened : Opens text layout settings pairs) (member : pair ∈ pairs) : Collected text pair

/-- In the order in which the pairs of the string are applied, the first that cannot be set gives a
duration that is too long. -/
inductive Overflows (arrangement : Arrangement) (text name : String) : Prop
  | intro {layout : Layout} {settings : ConnectionSettings}
      {pairs before after : List (String × String)} {value : String}
      (opened : Opens text layout settings pairs)
      (ordered : arrangement.order pairs = before ++ (name, value) :: after)
      (settable : ∀ pair ∈ before, Settable pair) (overlong : Overlong (name, value)) :
      Overflows arrangement text name

/-- Parameters or an error come of the string. -/
def Answered (arrangement : Arrangement) (text : String) : Prop :=
  (∃ params, read arrangement text = .ok params) ∨
    ∃ error, read arrangement text = .error (.refused error)

theorem fails_overflow_iff {pair : String × String} {name : String} :
    Fails pair (.durationOverflow name) ↔ name = pair.1 ∧ Overlong pair := by
  constructor
  · intro fails
    cases fails with
    | @unread name value parameter _ known timed failed =>
      have same : Fault.durationOverflow _ = .durationOverflow name :=
        (readSeconds_error failed).resolve_left nofun
      cases same
      exact ⟨rfl, ⟨parameter, known, timed⟩, readSeconds_eq_overflow_iff.mp failed⟩
  · rintro ⟨rfl, ⟨parameter, known, timed⟩, long⟩
    exact .unread known timed (readSeconds_eq_overflow_iff.mpr long)

theorem Overlong.not_settable {pair : String × String} (h : Overlong pair) : ¬ Settable pair :=
  (fails_overflow_iff.mpr ⟨rfl, h⟩).not_settable

/-- The order of an arrangement, but for one pair that is taken first if it is there. -/
def Arrangement.first (pair : String × String) : Arrangement where
  order pairs := if pair ∈ pairs then pair :: pairs.erase pair else pairs
  perm pairs := by
    split
    · rename_i member
      exact (List.perm_cons_erase member).symm
    · exact .refl pairs

theorem Arrangement.first_order {pair : String × String} {pairs : List (String × String)}
    (member : pair ∈ pairs) : (first pair).order pairs = pair :: pairs.erase pair :=
  if_pos member

section Arranged

variable (arrangement : Arrangement) {text name : String}

theorem Opens.read_overflow_iff {layout : Layout} {settings : ConnectionSettings}
    {pairs : List (String × String)} (opened : Opens text layout settings pairs) :
    read arrangement text = .error (.durationOverflow name) ↔
      applyPairs settings (arrangement.order pairs) = .error (.durationOverflow name) := by
  rw [opened.read_eq]
  cases applied : applyPairs settings (arrangement.order pairs) with
  | error fault =>
    change Except.error fault = _ ↔ _
    rw [Except.error.injEq, Except.error.injEq]
  | ok after =>
    refine ⟨fun failed => ?_, nofun⟩
    change after.build.mapError Fault.refused = _ at failed
    cases built : after.build with
    | ok params =>
      rw [built] at failed
      cases failed
    | error error =>
      rw [built] at failed
      cases failed

theorem read_overflow_iff :
    read arrangement text = .error (.durationOverflow name) ↔ Overflows arrangement text name := by
  constructor
  · intro failed
    rcases opens_or_malformed text with ⟨layout, settings, pairs, opened⟩ | ⟨cause, malformed⟩
    · obtain ⟨before, ⟨_, value⟩, after, ordered, settable, fails⟩ :=
        applyPairs_eq_error_iff.mp ((opened.read_overflow_iff arrangement).mp failed)
      obtain ⟨rfl, overlong⟩ := fails_overflow_iff.mp fails
      exact .intro opened ordered settable overlong
    · rw [read_of_malformed arrangement malformed] at failed
      cases failed
  · rintro ⟨opened, ordered, settable, overlong⟩
    exact (opened.read_overflow_iff arrangement).mpr (applyPairs_eq_error_iff.mpr
      ⟨_, _, _, ordered, settable, fails_overflow_iff.mpr ⟨rfl, overlong⟩⟩)

theorem answered_iff (text : String) :
    Answered arrangement text ↔ ∀ name, ¬ Overflows arrangement text name := by
  simp only [← read_overflow_iff]
  rw [Answered]
  cases read arrangement text with
  | ok params => exact iff_of_true (.inl ⟨params, rfl⟩) nofun
  | error fault =>
    cases fault with
    | refused error => exact iff_of_true (.inr ⟨error, rfl⟩) nofun
    | durationOverflow name =>
      refine iff_of_false ?_ fun none => none name rfl
      rintro (⟨_, ok⟩ | ⟨_, refused⟩)
      · cases ok
      · cases refused

end Arranged

theorem Overflows.exists_overlong {arrangement : Arrangement} {text name : String}
    (h : Overflows arrangement text name) : ∃ pair, Collected text pair ∧ Overlong pair := by
  obtain ⟨opened, ordered, _, overlong⟩ := h
  refine ⟨_, .intro opened ((arrangement.perm _).mem_iff.mp ?_), overlong⟩
  rw [ordered]
  exact List.mem_append_right _ List.mem_cons_self

/-- A pair that cannot be set has a first one before it, or is the first itself. -/
theorem exists_first_unsettable {pairs : List (String × String)} {pair : String × String}
    (member : pair ∈ pairs) (unsettable : ¬ Settable pair) :
    ∃ before first after, pairs = before ++ first :: after ∧
      (∀ earlier ∈ before, Settable earlier) ∧ ¬ Settable first := by
  induction pairs with
  | nil => cases member
  | cons head pairs ih =>
    by_cases settable : Settable head
    · have later : pair ∈ pairs := (List.mem_cons.mp member).resolve_left fun same =>
        unsettable (same ▸ settable)
      obtain ⟨before, first, after, rfl, earlier, found⟩ := ih later
      exact ⟨head :: before, first, after, rfl, List.forall_mem_cons.mpr ⟨settable, earlier⟩, found⟩
    · exact ⟨[], head, pairs, rfl, nofun, settable⟩

/-- Where nothing else is wrong with the pairs, an overlong one is come to in every order. -/
theorem exists_overflow (arrangement : Arrangement) {text : String} {pair : String × String}
    (collected : Collected text pair) (overlong : Overlong pair)
    (others : ∀ other, Collected text other → ¬ Settable other → Overlong other) :
    ∃ name, Overflows arrangement text name := by
  obtain ⟨opened, member⟩ := collected
  have ordered := (arrangement.perm _).mem_iff.mpr member
  obtain ⟨before, ⟨name, value⟩, after, split, settable, unsettable⟩ :=
    exists_first_unsettable ordered overlong.not_settable
  have memberToo : (name, value) ∈ arrangement.order _ :=
    split ▸ List.mem_append_right _ List.mem_cons_self
  have collectedToo := Collected.intro opened ((arrangement.perm _).mem_iff.mp memberToo)
  have overlongToo := others _ collectedToo unsettable
  exact ⟨name, .intro opened split settable overlongToo⟩

theorem always_answered_iff (text : String) :
    (∀ arrangement, Answered arrangement text) ↔
      ∀ pair, Collected text pair → ¬ Overlong pair := by
  simp only [answered_iff]
  constructor
  · rintro answered pair ⟨opened, member⟩ overlong
    have ordered : (Arrangement.first pair).order _ = [] ++ (pair.1, pair.2) :: _ :=
      Arrangement.first_order member
    exact answered (.first pair) pair.1 (.intro opened ordered nofun overlong)
  · intro short arrangement name overflows
    obtain ⟨pair, collected, overlong⟩ := overflows.exists_overlong
    exact short pair collected overlong

/-- A pair that cannot be set and is taken first is the one that is come to. -/
theorem Overflows.overlong_of_first {text name : String} {pair : String × String}
    (h : Overflows (.first pair) text name) (collected : Collected text pair)
    (unsettable : ¬ Settable pair) : Overlong pair := by
  obtain ⟨opened, member⟩ := collected
  cases h with
  | @intro _ _ _ before _ _ openedToo ordered settable overlong =>
  cases opened.readParts_eq.symm.trans openedToo.readParts_eq
  rw [Arrangement.first_order member] at ordered
  cases before with
  | nil =>
    cases ordered
    exact overlong
  | cons head before =>
    have here := settable head List.mem_cons_self
    rw [← (List.cons.inj ordered).1] at here
    exact (unsettable here).elim

theorem sometimes_answered_iff (text : String) :
    (∃ arrangement, Answered arrangement text) ↔
      ∀ pair, Collected text pair → Overlong pair →
        ∃ other, Collected text other ∧ ¬ Settable other ∧ ¬ Overlong other := by
  simp only [answered_iff]
  constructor
  · rintro ⟨arrangement, answered⟩ pair collected overlong
    by_contra none
    have others (other : String × String) (collected : Collected text other)
        (unsettable : ¬ Settable other) : Overlong other :=
      by_contra fun short => none ⟨other, collected, unsettable, short⟩
    obtain ⟨name, overflows⟩ := exists_overflow arrangement collected overlong others
    exact answered name overflows
  · intro spared
    by_cases long : ∃ pair, Collected text pair ∧ Overlong pair
    · obtain ⟨pair, collected, overlong⟩ := long
      obtain ⟨other, collectedToo, unsettable, short⟩ := spared pair collected overlong
      exact ⟨.first other, fun name overflows =>
        short (overflows.overlong_of_first collectedToo unsettable)⟩
    · exact ⟨.occurring, fun name overflows => long overflows.exists_overlong⟩

/-- A string is answered unless the first of its pairs that cannot be set, in the order in which
they are applied, gives a duration that is too long. In every order it is answered just if no pair
is overlong; in some order just if each overlong pair can be kept from being read by another that is
refused. What becomes of a duration is told by the number that its text names. -/
theorem answered_exact (text : String) :
    (∀ arrangement, Answered arrangement text ↔ ∀ name, ¬ Overflows arrangement text name) ∧
    (∀ arrangement name, read arrangement text = .error (.durationOverflow name) ↔
      Overflows arrangement text name) ∧
    ((∀ arrangement, Answered arrangement text) ↔
      ∀ pair, Collected text pair → ¬ Overlong pair) ∧
    ((∃ arrangement, Answered arrangement text) ↔
      ∀ pair, Collected text pair → Overlong pair →
        ∃ other, Collected text other ∧ ¬ Settable other ∧ ¬ Overlong other) ∧
    ∀ name value, ReadsAs name value (readSeconds name value) :=
  ⟨fun arrangement => answered_iff arrangement text,
    fun arrangement _ => read_overflow_iff arrangement, always_answered_iff text,
    sometimes_answered_iff text, readSeconds_readsAs⟩

/-- A timeout of `10 ^ 30` seconds has no answer, in whatever order the pairs are applied. -/
theorem not_always_answered : ¬ ∃ arrangement, ∀ text, Answered arrangement text := by
  rintro ⟨arrangement, answered⟩
  have parts : readParts "athena://us-east-1?role=r&timeout=1e30" =
      .ok ({ region := some "us-east-1" }, [("role", "r"), ("timeout", "1e30")]) := by
    decide +kernel
  obtain ⟨layout, opened⟩ := readParts_eq_ok_iff.mp parts
  have overflow : readSeconds "timeout" "1e30" = .error (.durationOverflow "timeout") := by
    decide +kernel
  have overlong : Overlong ("timeout", "1e30") :=
    ⟨⟨.timeout, by decide, .inl rfl⟩, readSeconds_eq_overflow_iff.mp overflow⟩
  have role : Settable ("role", "r") :=
    ⟨.role, by decide, by rintro (timed | timed) <;> cases timed⟩
  have collected : Collected _ ("timeout", "1e30") := .intro opened (by decide)
  obtain ⟨name, overflows⟩ := exists_overflow arrangement collected overlong (by
    rintro other ⟨openedToo, member⟩ unsettable
    cases openedToo.readParts_eq.symm.trans parts
    rcases List.mem_pair.mp member with rfl | rfl
    · exact (unsettable role).elim
    · exact overlong)
  exact (answered_iff arrangement _).mp (answered _) name overflows

end RemoteQuery.Address
