import Mathlib.Tactic.Ring
import QuantumAnalytics.Foundations.DateTime

/-!
# Instants of dates and times

The conversion between days of the calendar and their ordinals is undone by its
inverse, so a time that is converted to UTC denotes the same instant.
-/

namespace QuantumAnalytics

namespace Calendar

/-- The months of a year depend on the year only through its being leap. -/
theorem daysBeforeMonth_eq (year month : Nat) :
    daysBeforeMonth year month = daysBeforeMonth (if isLeap year then 4 else 1) month := by
  have months : ∀ month, daysInMonth year month =
      daysInMonth (if isLeap year then 4 else 1) month := by
    intro month
    cases leap : isLeap year <;> simp [daysInMonth, leap] <;> rfl
  simp only [daysBeforeMonth, months]

/-- The month that `_ord2ymd` guesses for a day of the year is right or one too
late. -/
private theorem month_guess :
    ∀ day < 366, ∀ leap : Bool,
      ¬day < daysBeforeMonth (if leap then 4 else 1) ((day + 50) / 32) ∨
        daysBeforeMonth (if leap then 4 else 1) ((day + 50) / 32 - 1) ≤ day := by
  decide +kernel

/-- The days before a year, by its place in the cycles of 400, 100 and 4 years. -/
private theorem days_before_year
    (cycles : Nat)
    {centuries leaps years : Nat}
    (century : centuries ≤ 3)
    (leap : leaps ≤ 24)
    (short : years ≤ 3) :
    let before := cycles * 400 + centuries * 100 + leaps * 4 + years
    before * 365 + before / 4 - before / 100 + before / 400 =
      cycles * 146097 + centuries * 36524 + leaps * 1461 + years * 365 := by
  dsimp only
  omega

/-- The last day of a leap year ends its cycle. -/
private theorem toOrdinal_last
    {year : Nat}
    (leap : isLeap year = true) :
    toOrdinal year 12 31 =
      (year - 1) * 365 + (year - 1) / 4 - (year - 1) / 100 + (year - 1) / 400 + 366 := by
  have days : daysBeforeMonth year 12 = 335 := by
    rw [daysBeforeMonth_eq, leap]
    decide
  simp only [toOrdinal, days]

/-- The date of an ordinal has this ordinal. -/
theorem toOrdinal_ofOrdinal {ordinal : Nat} (positive : 1 ≤ ordinal) :
    toOrdinal (ofOrdinal ordinal).1 (ofOrdinal ordinal).2.1 (ofOrdinal ordinal).2.2 = ordinal := by
  obtain ⟨n, rfl⟩ : ∃ n, ordinal = n + 1 := ⟨ordinal - 1, by omega⟩
  unfold ofOrdinal
  simp only [Nat.add_sub_cancel]
  generalize cyclesEq : n / 146097 = cycles
  generalize centuriesEq : n % 146097 / 36524 = centuries
  generalize leapsEq : n % 146097 % 36524 / 1461 = leaps
  generalize yearsEq : n % 146097 % 36524 % 1461 / 365 = years
  generalize dayEq : n % 146097 % 36524 % 1461 % 365 = day
  have total : n = cycles * 146097 + centuries * 36524 + leaps * 1461 + years * 365 + day := by
    omega
  have leapsBound : leaps ≤ 24 := by omega
  by_cases last : years = 4 ∨ centuries = 4
  · rw [if_pos last]
    have shape : (centuries ≤ 3 ∧ leaps ≤ 23 ∧ years = 4 ∧ day = 0) ∨
        (centuries = 4 ∧ leaps = 0 ∧ years = 0 ∧ day = 0) := by omega
    have leap : isLeap (cycles * 400 + 1 + centuries * 100 + leaps * 4 + years - 1) = true := by
      simp only [isLeap, Bool.and_eq_true, Bool.or_eq_true, beq_iff_eq, bne_iff_ne]
      omega
    rw [toOrdinal_last leap]
    rcases shape with ⟨centuriesBound, leapsShort, rfl, rfl⟩ | ⟨rfl, rfl, rfl, rfl⟩
    · have start := days_before_year cycles centuriesBound leapsBound (le_refl 3)
      have before : cycles * 400 + 1 + centuries * 100 + leaps * 4 + 4 - 1 - 1 =
          cycles * 400 + centuries * 100 + leaps * 4 + 3 := by omega
      dsimp only at start
      rw [before, start]
      omega
    · have start := days_before_year cycles (le_refl 3) (le_refl 24) (le_refl 3)
      have before : cycles * 400 + 1 + 4 * 100 + 0 * 4 + 0 - 1 - 1 =
          cycles * 400 + 3 * 100 + 24 * 4 + 3 := by omega
      dsimp only at start
      rw [before, start]
      omega
  · rw [if_neg last]
    have centuriesBound : centuries ≤ 3 := by omega
    have yearsBound : years ≤ 3 := by omega
    have start := days_before_year cycles centuriesBound leapsBound yearsBound
    dsimp only at start
    have before : cycles * 400 + 1 + centuries * 100 + leaps * 4 + years - 1 =
        cycles * 400 + centuries * 100 + leaps * 4 + years := by omega
    have guess := month_guess day (by omega)
      (isLeap (cycles * 400 + 1 + centuries * 100 + leaps * 4 + years))
    rw [← daysBeforeMonth_eq, ← daysBeforeMonth_eq] at guess
    split_ifs with early
    · simp only [toOrdinal, before, start]
      have fits := guess.resolve_left (not_not_intro early)
      omega
    · simp only [toOrdinal, before, start]
      omega

end Calendar

namespace DateTime

/-- The conversion to UTC keeps the instant. -/
theorem instant_of_toUtc?
    {time utc : DateTime}
    (converted : time.toUtc? = some utc) : utc.instant = time.instant := by
  simp only [toUtc?, make?] at converted
  split_ifs at converted with range date clock
  obtain rfl := Option.some.inj converted
  generalize time.instant = ticks at *
  have positive : 1 ≤ (ticks / 86400000000).toNat := by omega
  have days := Calendar.toOrdinal_ofOrdinal positive
  simp only [instant, localTicks, Option.getD_some, days]
  omega

end DateTime
end QuantumAnalytics
