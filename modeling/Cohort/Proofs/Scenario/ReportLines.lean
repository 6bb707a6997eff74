import Mathlib.Data.List.Infix
import Cohort.Proofs.Scenario.Lineup
import Cohort.Scenario.Report

/-!
# Reading a report

The line of a report leaves out what is zero, and the name of the scenario may look like anything.
Still the line tells all counts, if it is read from the right: the last word says which count
stands before it, the digits of the count end where a blank stands, and no other word ends there.
-/

set_option autoImplicit false

namespace Cohort

/-! ## Where a text ends -/

/-- Of two equal lists that end in items of a kind, after others that do not, the ends are equal. -/
theorem append_inj_of_kind {α : Type} {kind : α → Bool} {left right one other : List α}
    (all : ∀ item ∈ one, kind item = true) (all' : ∀ item ∈ other, kind item = true)
    (last : ∀ item, left.getLast? = some item → kind item = false)
    (last' : ∀ item, right.getLast? = some item → kind item = false)
    (same : left ++ one = right ++ other) : left = right ∧ one = other := by
  rcases List.append_eq_append_iff.mp same with ⟨between, rfl, rfl⟩ | ⟨between, rfl, rfl⟩
  · cases between using List.reverseRecOn with
    | nil => simp
    | append_singleton between item =>
        have foreign := last' item (by simp)
        rw [all item (by simp)] at foreign
        cases foreign
  · cases between using List.reverseRecOn with
    | nil => simp
    | append_singleton between item =>
        have foreign := last item (by simp)
        rw [all' item (by simp)] at foreign
        cases foreign

private theorem isDigit_of_mem_toString {digit : Char} {count : Nat}
    (member : digit ∈ (toString count).toList) : digit.isDigit = true := by
  rw [Nat.toString_eq_repr, Nat.toList_repr] at member
  exact Nat.isDigit_of_mem_toDigits (by decide) (by decide) member

/-! ## The time -/

namespace Duration

private theorem ne_blank_of_isDigit {item : Char} (digit : item.isDigit = true) : item ≠ ' ' := by
  rintro rfl
  cases digit

private theorem isDigit_of_mem_fraction {width part : Nat} {item : Char}
    (member : item ∈ fraction width part) : item.isDigit = true := by
  have padded := List.dropWhile_subset _ (List.mem_reverse.mp member)
  rcases List.mem_append.mp (List.mem_reverse.mp padded) with zero | digit
  · rw [(List.mem_replicate.mp zero).2]
    rfl
  · exact Nat.isDigit_of_mem_toDigits (by decide) (by decide) digit

private theorem not_mem_toString (count : Nat) : ' ' ∉ (toString count).toList :=
  fun member => ne_blank_of_isDigit (isDigit_of_mem_toString member) rfl

private theorem not_mem_decimal (width count : Nat) : ' ' ∉ (decimal width count).toList := by
  have behind : ' ' ∉ fraction width (count % Nat.pow 10 width) :=
    fun member => ne_blank_of_isDigit (isDigit_of_mem_fraction member) rfl
  simp only [decimal]
  split
  · exact not_mem_toString _
  · simp only [String.toList_append, String.toList_ofList, List.mem_append, not_or]
    exact ⟨⟨not_mem_toString _, by decide⟩, behind⟩

private theorem not_mem_text (duration : Duration) : ' ' ∉ duration.text.toList := by
  unfold text
  simp only
  split
  · simpa using not_mem_decimal 9 _
  split
  · simpa using not_mem_decimal 6 _
  split
  · simpa using not_mem_decimal 3 _
  · simpa using not_mem_toString duration.nanoseconds

end Duration

namespace Report

variable {left right lead trail : String} {count other : Nat}

private theorem append_toString_inj (blank : lead.toList.getLast? = some ' ')
    (same : left ++ lead ++ toString count = right ++ lead ++ toString other) :
    left = right ∧ count = other := by
  have ends (text : String) (item : Char)
      (last : (text ++ lead).toList.getLast? = some item) : item.isDigit = false := by
    rw [String.toList_append, List.getLast?_append, blank] at last
    cases last
    rfl
  have lists := congrArg String.toList same
  rw [String.toList_append, @String.toList_append (right ++ lead)] at lists
  obtain ⟨before, digits⟩ := append_inj_of_kind (fun _ => isDigit_of_mem_toString)
    (fun _ => isDigit_of_mem_toString) (ends left) (ends right) lists
  refine ⟨(String.append_left_inj lead).mp (String.toList_inj.mp before), ?_⟩
  exact toString_injective (String.toList_inj.mp digits)

/-- The text ends in one of `endings`. -/
def EndsIn (endings : List String) (text : String) : Prop :=
  ∃ ending ∈ endings, ending.toList <:+ text.toList

/-- Neither ends in the other, so no text ends in both. -/
def Apart (one other : String) : Prop :=
  ¬ one.toList <:+ other.toList ∧ ¬ other.toList <:+ one.toList

instance (one other : String) : Decidable (Apart one other) :=
  inferInstanceAs (Decidable (_ ∧ _))

private theorem EndsIn.not_suffix {endings : List String} {text : String}
    (ends : EndsIn endings text)
    (apart : ∀ ending ∈ endings, Apart ending trail) : ¬ trail.toList <:+ text.toList := by
  intro also
  obtain ⟨ending, member, suffix⟩ := ends
  rcases List.suffix_or_suffix_of_suffix suffix also with within | within
  · exact (apart ending member).1 within
  · exact (apart ending member).2 within

private theorem EndsIn.unlessZero {endings : List String} {text : String}
    (ends : EndsIn endings text) (count : Nat) (lead trail : String) :
    EndsIn (trail :: endings) (text ++ unlessZero count lead trail) := by
  by_cases zero : count = 0
  · obtain ⟨ending, member, suffix⟩ := ends
    refine ⟨ending, List.mem_cons_of_mem _ member, ?_⟩
    simpa [Report.unlessZero, zero] using suffix
  · refine ⟨trail, List.mem_cons_self, ?_⟩
    simp only [Report.unlessZero, if_neg zero, String.toList_append, ← List.append_assoc]
    exact List.suffix_append _ _

private theorem append_unlessZero_of_ne (text lead trail : String) (zero : count ≠ 0) :
    text ++ unlessZero count lead trail = text ++ lead ++ toString count ++ trail := by
  rw [unlessZero, if_neg zero, ← String.append_assoc, ← String.append_assoc]

private theorem suffix_append_trail (text trail : String) :
    trail.toList <:+ (text ++ trail).toList := by
  rw [String.toList_append]
  exact List.suffix_append _ _

/-- Whether a count was left out can be told from the end, and so can the count. -/
theorem append_unlessZero_inj {endings : List String} (ends : EndsIn endings left)
    (ends' : EndsIn endings right) (apart : ∀ ending ∈ endings, Apart ending trail)
    (blank : lead.toList.getLast? = some ' ')
    (same : left ++ unlessZero count lead trail = right ++ unlessZero other lead trail) :
    left = right ∧ count = other := by
  have zero (text : String) : text ++ unlessZero 0 lead trail = text := String.append_empty
  by_cases none : count = 0 <;> by_cases none' : other = 0
  · rw [none, none', zero, zero] at same
    exact ⟨same, none.trans none'.symm⟩
  · rw [none, zero, append_unlessZero_of_ne right lead trail none'] at same
    exact absurd (same ▸ suffix_append_trail _ trail) (ends.not_suffix apart)
  · rw [none', zero, append_unlessZero_of_ne left lead trail none] at same
    exact absurd (same ▸ suffix_append_trail _ trail) (ends'.not_suffix apart)
  · rw [append_unlessZero_of_ne left lead trail none, append_unlessZero_of_ne right lead trail none',
      String.append_left_inj] at same
    exact append_toString_inj blank same

/-! ## The line -/

/-- The part of the line that is always there. -/
def opening (report : Report) : String :=
  report.scenario ++ ": " ++ toString report.calls ++ " calls, "
    ++ toString report.executions ++ " executions, " ++ toString report.shared ++ " shared"

def withPeak (report : Report) : String :=
  report.opening ++ unlessZero report.peak ", peak " " holders"

def withDialFailures (report : Report) : String :=
  report.withPeak ++ unlessZero report.dialFailures ", " " dial failures"

private theorem summary_eq (report : Report) :
    report.summary =
      report.withDialFailures ++ unlessZero report.closeFailures ", " " close failures" := rfl

variable {report another : Report}

private theorem endsIn_opening (report : Report) : EndsIn [" shared"] report.opening :=
  ⟨_, List.mem_singleton_self _, suffix_append_trail _ _⟩

private theorem endsIn_withPeak (report : Report) :
    EndsIn [" holders", " shared"] report.withPeak :=
  report.endsIn_opening.unlessZero ..

private theorem endsIn_withDialFailures (report : Report) :
    EndsIn [" dial failures", " holders", " shared"] report.withDialFailures :=
  report.endsIn_withPeak.unlessZero ..

private theorem opening_inj (same : report.opening = another.opening) :
    report.scenario = another.scenario ∧ report.calls = another.calls ∧
      report.executions = another.executions ∧ report.shared = another.shared := by
  have told := (String.append_left_inj _).mp same
  obtain ⟨told, shared⟩ := append_toString_inj (by decide) told
  obtain ⟨told, executions⟩ := append_toString_inj (by decide) told
  obtain ⟨scenario, calls⟩ := append_toString_inj (by decide) told
  exact ⟨scenario, calls, executions, shared⟩

private theorem summary_inj (same : report.summary = another.summary) :
    report.scenario = another.scenario ∧ report.calls = another.calls ∧
      report.executions = another.executions ∧ report.shared = another.shared ∧
      report.peak = another.peak ∧ report.dialFailures = another.dialFailures ∧
      report.closeFailures = another.closeFailures := by
  rw [summary_eq, summary_eq] at same
  obtain ⟨told, closeFailures⟩ := append_unlessZero_inj report.endsIn_withDialFailures
    another.endsIn_withDialFailures (by decide) (by decide) same
  obtain ⟨told, dialFailures⟩ := append_unlessZero_inj report.endsIn_withPeak
    another.endsIn_withPeak (by decide) (by decide) told
  obtain ⟨told, peak⟩ := append_unlessZero_inj report.endsIn_opening
    another.endsIn_opening (by decide) (by decide) told
  obtain ⟨scenario, calls, executions, shared⟩ := opening_inj told
  exact ⟨scenario, calls, executions, shared, peak, dialFailures, closeFailures⟩

/-- The time is what stands behind the last blank. -/
theorem line_inj (same : report.line = another.line) :
    report.summary = another.summary ∧ report.elapsed.text = another.elapsed.text := by
  have dense (duration : Duration) (item : Char) (member : item ∈ duration.text.toList) :
      (item != ' ') = true := by
    refine bne_iff_ne.mpr ?_
    rintro rfl
    exact duration.not_mem_text member
  have blank (text : String) (item : Char)
      (last : (text ++ " in ").toList.getLast? = some item) : (item != ' ') = false := by
    rw [String.toList_append, List.getLast?_append] at last
    cases last
    rfl
  have lists := congrArg String.toList same
  rw [line, line, String.toList_append, @String.toList_append (another.summary ++ " in ")] at lists
  obtain ⟨before, elapsed⟩ := append_inj_of_kind (dense _) (dense _) (blank _) (blank _) lists
  exact ⟨(String.append_left_inj _).mp (String.toList_inj.mp before), String.toList_inj.mp elapsed⟩

/-- Two reports read alike only if they are alike: in all their counts, those that were left out
included, in the name of the scenario, whatever it is, and in the time as far as it is told. -/
theorem line_eq_line_iff (report another : Report) :
    report.line = another.line ↔
      report.scenario = another.scenario ∧ report.calls = another.calls ∧
      report.executions = another.executions ∧ report.shared = another.shared ∧
      report.peak = another.peak ∧ report.dialFailures = another.dialFailures ∧
      report.closeFailures = another.closeFailures ∧
      report.elapsed.text = another.elapsed.text := by
  constructor
  · intro same
    obtain ⟨summary, elapsed⟩ := line_inj same
    obtain ⟨scenario, calls, executions, shared, peak, dialFailures, closeFailures⟩ :=
      summary_inj summary
    exact ⟨scenario, calls, executions, shared, peak, dialFailures, closeFailures, elapsed⟩
  · rintro ⟨scenario, calls, executions, shared, peak, dialFailures, closeFailures, elapsed⟩
    rw [line, line, summary, summary, scenario, calls, executions, shared, peak, dialFailures,
      closeFailures, elapsed]

end Report

end Cohort
