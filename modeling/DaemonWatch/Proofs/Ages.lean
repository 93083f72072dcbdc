/-
  What the labels of ages say.

  1. **Specification** (`Age.Spans`): the seconds that an age stands for.  An age is computed by
     dividing one way after the other; the intervals are written without a division, from the least
     second to the first one beyond.

  2. **The order of ages** (`Age.rank`): the youngest first, one unit after the other, and then by
     the number.  The crux is that the intervals come in the same order (`Spans.rank_le`).  So no
     two of them meet (`Spans.unique`), and as time goes on a label never becomes younger.

  3. **Texts.**  The words of an age begin with no digit, so its digits can be told from its words
     (`takeWhile_text`), and the text gives the age back (`text_injective`).  What is said of an age
     can thus be said of its label.

  4. **Labels.**  The label of a date is the text of the age of the seconds since
     (`label_eq_text_iff`).  Dates are so near each other that nothing overflows on the way
     (`elapsed_in_range`); what is no date has an empty label (`label_spans`).
-/
import DaemonWatch.Age
import DaemonWatch.Json.Number
import Mathlib.Data.Prod.Lex
import Mathlib.Tactic.SplitIfs

namespace DaemonWatch.Age

/-! ## Intervals -/

/-- The seconds that an age stands for: from the least of them up to the first that is too many.
What lies in the future counts as just now, however far away it is, and there is no greatest number
of days. -/
def Spans : Age → Int → Prop
  | justNow, e => e < 60
  | minutes n, e => 1 ≤ n ∧ n ≤ 59 ∧ 60 * (n : Int) ≤ e ∧ e < 60 * (n + 1)
  | hours n, e => 1 ≤ n ∧ n ≤ 23 ∧ 3600 * (n : Int) ≤ e ∧ e < 3600 * (n + 1)
  | days n, e => 1 ≤ n ∧ 86400 * (n : Int) ≤ e ∧ e < 86400 * (n + 1)

/-- The place of an age in their order: just now, minutes, hours, days, and then by the number. -/
def rank : Age → Nat ×ₗ Nat
  | justNow => toLex (0, 0)
  | minutes n => toLex (1, n)
  | hours n => toLex (2, n)
  | days n => toLex (3, n)

theorem rank_injective {a b : Age} (same : a.rank = b.rank) : a = b := by
  cases a <;> cases b <;> simp_all [rank]

theorem spans_ofSeconds (e : Int) : (ofSeconds e).Spans e := by
  unfold ofSeconds
  dsimp only
  split_ifs with young minute hour
  · exact young
  · simp only [Spans]
    omega
  · simp only [Spans]
    omega
  · simp only [Spans]
    omega

/-- The later of two intervals is that of the older age. -/
theorem Spans.rank_le {a b : Age} {e e' : Int} (earlier : a.Spans e) (later : b.Spans e')
    (le : e ≤ e') : a.rank ≤ b.rank := by
  rw [Prod.Lex.le_iff]
  cases a <;> cases b <;> simp only [Spans] at earlier later <;> simp [rank] <;> omega

/-- A number of seconds is in one interval only. -/
theorem Spans.unique {a b : Age} {e : Int} (one : a.Spans e) (other : b.Spans e) : a = b :=
  rank_injective (le_antisymm (one.rank_le other le_rfl) (other.rank_le one le_rfl))

theorem ofSeconds_eq_iff {a : Age} {e : Int} : ofSeconds e = a ↔ a.Spans e := by
  constructor
  · rintro rfl
    exact spans_ofSeconds e
  · exact (spans_ofSeconds e).unique

example :
    [59, 60, 3599, 3600, 86399, 86400].map ofSeconds =
      [.justNow, .minutes 1, .minutes 59, .hours 1, .hours 23, .days 1] := by
  decide

/-! ## Texts -/

/-- The digits that the text of an age begins with. -/
def digits : Age → List Char
  | justNow => []
  | minutes n | hours n | days n => Nat.toDigits 10 n

/-- What comes behind the digits. -/
def words : Age → String
  | justNow => "just now"
  | minutes _ => " min ago"
  | hours _ => " h ago"
  | days _ => " d ago"

theorem toList_text (a : Age) : a.text.toList = a.digits ++ a.words.toList := by
  cases a <;>
    simp only [text, digits, words, String.toList_append, Nat.toList_repr, List.nil_append]

theorem isDigit_of_mem_digits {a : Age} {c : Char} (mem : c ∈ a.digits) : c.isDigit = true := by
  cases a with
  | justNow => cases mem
  | minutes | hours | days => exact Nat.isDigit_of_mem_toDigits (by decide) (by decide) mem

/-- The digits end where the words begin. -/
theorem takeWhile_text (a : Age) : a.text.toList.takeWhile Char.isDigit = a.digits := by
  have none : a.words.toList.takeWhile Char.isDigit = [] := by
    cases a with
    | justNow | minutes | hours | days => simp [words]
  rw [toList_text, List.takeWhile_append_of_pos fun _ mem => isDigit_of_mem_digits mem, none,
    List.append_nil]

theorem text_injective {a b : Age} (same : a.text = b.text) : a = b := by
  have digits : a.digits = b.digits := by rw [← takeWhile_text, ← takeWhile_text, same]
  have words : a.words = b.words := by
    have texts := congrArg String.toList same
    rw [toList_text, toList_text, digits] at texts
    exact String.toList_injective (List.append_cancel_left texts)
  have number {m n : Nat} (same : Nat.toDigits 10 m = Nat.toDigits 10 n) : m = n := by
    simpa using congrArg (fun ds => Nat.ofDigitChars 10 ds 0) same
  cases a <;> cases b <;> simp [Age.words] at words
  · rfl
  · exact congrArg _ (number digits)
  · exact congrArg _ (number digits)
  · exact congrArg _ (number digits)

/-- No number in a text has a sign. -/
theorem minus_notMem_text (a : Age) : '-' ∉ a.text.toList := by
  rw [toList_text, List.mem_append, not_or]
  constructor
  · intro mem
    exact absurd (isDigit_of_mem_digits mem) (by decide)
  · cases a <;> simp [words]

/-! ## Labels -/

theorem isDate_iff {timestamp : Int} :
    isDate timestamp = true ↔ -8334601228800 ≤ timestamp ∧ timestamp ≤ 8210266876799 := by
  rw [isDate, Bool.and_eq_true, decide_eq_true_iff, decide_eq_true_iff]
  rfl

theorem label_of_isDate {timestamp : Int} (date : isDate timestamp = true) (now : Int) :
    label now timestamp = (ofSeconds (now - timestamp)).text := if_pos date

theorem label_eq_text_iff {timestamp : Int} (date : isDate timestamp = true) (now : Int) (a : Age) :
    label now timestamp = a.text ↔ a.Spans (now - timestamp) := by
  rw [label_of_isDate date, ← ofSeconds_eq_iff]
  exact ⟨text_injective, congrArg text⟩

/-- Two dates are so near each other that the time between them, in milliseconds too, and its parts
are in the range of 64 signed bits. -/
theorem elapsed_in_range {now timestamp : Int} (reading : isDate now = true)
    (date : isDate timestamp = true) :
    ∀ v ∈ [now - timestamp, 1000 * (now - timestamp), (now - timestamp).tdiv 60,
        (now - timestamp).tdiv 3600, (now - timestamp).tdiv 86400],
      Json.minInt64 ≤ v ∧ v ≤ Json.maxInt64 := by
  obtain ⟨least, greatest⟩ := isDate_iff.mp reading
  obtain ⟨least', greatest'⟩ := isDate_iff.mp date
  generalize elapsed : now - timestamp = e
  have bound : 1000 * e.natAbs ≤ 0x7FFFFFFFFFFFFFFF := by omega
  have part (k : Int) : (e.tdiv k).natAbs ≤ e.natAbs := Int.natAbs_tdiv_le_natAbs e k
  have minute := part 60
  have hour := part 3600
  have day := part 86400
  intro v mem
  simp only [List.mem_cons, List.not_mem_nil, or_false] at mem
  unfold Json.minInt64 Json.maxInt64
  rcases mem with rfl | rfl | rfl | rfl | rfl <;> omega

/-- **The labels of timestamps.**  The label of a date is the text of an age exactly when the
seconds since are among those of the age; it is that of one age and no other, and holds no minus.
While the clock shows a date, the seconds since, the same in milliseconds, and the minutes, hours
and days in them are in the range of 64 signed bits.  As the clock goes on the label does not become
younger.  The label of what is no date is empty. -/
theorem label_spans (now timestamp : Int) :
    (isDate timestamp = true →
      (∀ a : Age, label now timestamp = a.text ↔ a.Spans (now - timestamp)) ∧
      (∃! a : Age, label now timestamp = a.text) ∧
      '-' ∉ (label now timestamp).toList ∧
      (isDate now = true →
        let e := now - timestamp
        ∀ v ∈ [e, 1000 * e, e.tdiv 60, e.tdiv 3600, e.tdiv 86400],
          -0x8000000000000000 ≤ v ∧ v ≤ 0x7FFFFFFFFFFFFFFF) ∧
      ∀ later, now ≤ later → ∀ a b : Age,
        label now timestamp = a.text → label later timestamp = b.text → a.rank ≤ b.rank) ∧
    (isDate timestamp = false → label now timestamp = "") := by
  constructor
  · intro date
    have shown := label_of_isDate date now
    refine ⟨label_eq_text_iff date now, ⟨_, shown, ?_⟩, ?_, ?_, ?_⟩
    · intro a same
      exact text_injective (same.symm.trans shown)
    · rw [shown]
      exact minus_notMem_text _
    · intro reading
      exact elapsed_in_range reading date
    · intro later le a b before after
      rw [label_eq_text_iff date] at before after
      exact before.rank_le after (by omega)
  · intro none
    exact if_neg (by simp [none])

end DaemonWatch.Age
