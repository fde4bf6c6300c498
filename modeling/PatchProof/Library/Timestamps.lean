import Mathlib.Data.Nat.Find
import Mathlib.Data.List.Lex
import Mathlib.Order.Basic
import Mathlib.Tactic.Common
import Mathlib.Tactic.IntervalCases

/-!
# Timestamps as text

Numbers written with a fixed number of digits are ordered as text the way they are
ordered as numbers, and so are dates and times of day, written with the largest unit
first.  `secondText` writes the second that a number of seconds since the first day of
the year 1 stands for, in the Gregorian calendar extended backwards, and
`secondText_lt_iff` says that it keeps the order up to the end of the year 9999.

The year and the month of a day are found as the last ones that do not start after it.

`instantText` adds the fraction of a second, when there is one, and a zone.  Whether the
result keeps the order depends on how the zone begins: the point of a fraction is compared
with it.
-/

set_option autoImplicit false

namespace Timestamps

/-! ## Text in order -/

theorem append_lt_append_iff {front other : List Char} (same : front.length = other.length)
    (back rest : List Char) :
    front ++ back < other ++ rest ↔ front < other ∨ (front = other ∧ back < rest) := by
  induction front generalizing other with
  | nil =>
      obtain rfl := List.length_eq_zero_iff.mp same.symm
      simp
  | cons c front ih =>
      cases other with
      | nil => cases same
      | cons d other =>
          rw [List.cons_append, List.cons_append, List.cons_lt_cons_iff, List.cons_lt_cons_iff,
            ih (Nat.succ.inj same), List.cons.injEq]
          tauto

theorem cons_lt_cons_same (c : Char) (front back : List Char) :
    c :: front < c :: back ↔ front < back := by
  simp

/-- A way to write the numbers below a bound as texts of one length, in order. -/
structure Orders (write : Nat → List Char) (width bound : Nat) : Prop where
  length : ∀ number, (write number).length = width
  lt_iff : ∀ {number other}, number < bound → other < bound →
    (write number < write other ↔ number < other)

theorem Orders.eq_iff {write : Nat → List Char} {width bound : Nat}
    (orders : Orders write width bound) {number other : Nat} (small : number < bound)
    (otherSmall : other < bound) : write number = write other ↔ number = other := by
  constructor
  · intro same
    rcases Nat.lt_trichotomy number other with less | equal | more
    · have before := (orders.lt_iff small otherSmall).mpr less
      rw [same] at before
      exact absurd before (List.lt_irrefl _)
    · exact equal
    · have before := (orders.lt_iff otherSmall small).mpr more
      rw [same] at before
      exact absurd before (List.lt_irrefl _)
  · exact congrArg write

/-- What follows decides only between texts of one number. -/
theorem Orders.append_lt_iff {write : Nat → List Char} {width bound : Nat}
    (orders : Orders write width bound) {number other : Nat} (small : number < bound)
    (otherSmall : other < bound) (back rest : List Char) :
    write number ++ back < write other ++ rest ↔
      number < other ∨ (number = other ∧ back < rest) := by
  rw [append_lt_append_iff ((orders.length number).trans (orders.length other).symm),
    orders.lt_iff small otherSmall, orders.eq_iff small otherSmall]

/-! ## Digits -/

/-- A number with so many decimal digits. -/
def padded : Nat → Nat → List Char
  | 0, _ => []
  | width + 1, number => padded width (number / 10) ++ [Nat.digitChar (number % 10)]

theorem length_padded (width number : Nat) : (padded width number).length = width := by
  induction width generalizing number with
  | zero => rfl
  | succ width ih => simp [padded, ih]

theorem digitChar_lt_iff : ∀ digit < 10, ∀ other < 10,
    (Nat.digitChar digit < Nat.digitChar other ↔ digit < other) := by
  decide

/-- **Digits keep the order.** -/
theorem padded_orders (width : Nat) : Orders (padded width) width (10 ^ width) := by
  induction width with
  | zero =>
      refine ⟨length_padded 0, fun small otherSmall => ?_⟩
      simp only [padded, pow_zero] at small otherSmall ⊢
      obtain rfl := Nat.lt_one_iff.mp small
      obtain rfl := Nat.lt_one_iff.mp otherSmall
      simp
  | succ width ih =>
      refine ⟨length_padded (width + 1), fun {number other} small otherSmall => ?_⟩
      have front : number / 10 < 10 ^ width := by
        rw [pow_succ] at small
        omega
      have otherFront : other / 10 < 10 ^ width := by
        rw [pow_succ] at otherSmall
        omega
      rw [padded, padded, ih.append_lt_iff front otherFront, List.cons_lt_cons_iff,
        digitChar_lt_iff _ (Nat.mod_lt _ (by decide)) _ (Nat.mod_lt _ (by decide))]
      simp only [List.not_lt_nil, and_false, or_false]
      omega

/-! ## The calendar -/

/-- The days before a year begins. -/
def daysBeforeYear (year : Nat) : Nat :=
  (year - 1) * 365 + (year - 1) / 4 - (year - 1) / 100 + (year - 1) / 400

def isLeap (year : Nat) : Bool := year % 4 == 0 && (year % 100 != 0 || year % 400 == 0)

/-- The days of a year before a month begins; the thirteenth begins the next year. -/
def daysBeforeMonth (leap : Bool) (month : Nat) : Nat :=
  [0, 31, 59, 90, 120, 151, 181, 212, 243, 273, 304, 334, 365].getD (month - 1) 0 +
    if leap && decide (2 < month) then 1 else 0

/-- The year of a day, the last one that does not begin after it. -/
def yearOf (day : Nat) : Nat := Nat.findGreatest (fun year => daysBeforeYear year ≤ day) (day / 365 + 1)

/-- The month of a day of the year. -/
def monthOf (leap : Bool) (day : Nat) : Nat :=
  Nat.findGreatest (fun month => daysBeforeMonth leap month ≤ day) 12

theorem daysBeforeYear_succ (year : Nat) :
    daysBeforeYear (year + 2) =
      daysBeforeYear (year + 1) + 365 + if isLeap (year + 1) then 1 else 0 := by
  have leaps : isLeap (year + 1) = true ↔
      4 ∣ year + 1 ∧ (¬ 100 ∣ year + 1 ∨ 400 ∣ year + 1) := by
    simp [isLeap, Nat.dvd_iff_mod_eq_zero]
  have begins : ∀ years, daysBeforeYear (years + 1) =
      years * 365 + years / 4 - years / 100 + years / 400 := fun years => rfl
  rw [begins year, begins (year + 1), Nat.succ_div, Nat.succ_div, Nat.succ_div]
  simp only [leaps]
  split_ifs <;> omega

theorem daysBeforeYear_mono : Monotone daysBeforeYear := by
  refine monotone_nat_of_le_succ fun year => ?_
  cases year with
  | zero => exact Nat.le_refl 0
  | succ year =>
      rw [daysBeforeYear_succ year]
      omega

theorem yearOf_spec (day : Nat) : 1 ≤ yearOf day ∧ daysBeforeYear (yearOf day) ≤ day ∧
    day < daysBeforeYear (yearOf day + 1) := by
  have first : daysBeforeYear 1 ≤ day := Nat.zero_le _
  have least : 1 ≤ yearOf day := Nat.le_findGreatest (by omega) first
  refine ⟨least, Nat.findGreatest_spec (P := fun year => daysBeforeYear year ≤ day)
    (Nat.le_add_left 1 _) first, ?_⟩
  by_contra before
  rw [not_lt] at before
  by_cases within : yearOf day + 1 ≤ day / 365 + 1
  · exact Nat.findGreatest_is_greatest (P := fun year => daysBeforeYear year ≤ day)
      (Nat.lt_succ_self (yearOf day)) within before
  · have most : yearOf day ≤ day / 365 + 1 := Nat.findGreatest_le _
    have begins : daysBeforeYear (yearOf day + 1) = yearOf day * 365 + yearOf day / 4 -
        yearOf day / 100 + yearOf day / 400 := rfl
    omega

theorem monthOf_spec (leap : Bool) {day : Nat} (within : day < daysBeforeMonth leap 13) :
    1 ≤ monthOf leap day ∧ monthOf leap day ≤ 12 ∧ daysBeforeMonth leap (monthOf leap day) ≤ day ∧
      day < daysBeforeMonth leap (monthOf leap day + 1) := by
  have first : daysBeforeMonth leap 1 ≤ day := by cases leap <;> exact Nat.zero_le _
  have least : 1 ≤ monthOf leap day := Nat.le_findGreatest (by decide) first
  have most : monthOf leap day ≤ 12 := Nat.findGreatest_le 12
  refine ⟨least, most, Nat.findGreatest_spec (P := fun month => daysBeforeMonth leap month ≤ day)
    (by decide) first, ?_⟩
  by_contra before
  rw [not_lt] at before
  by_cases inside : monthOf leap day + 1 ≤ 12
  · exact Nat.findGreatest_is_greatest (P := fun month => daysBeforeMonth leap month ≤ day)
      (Nat.lt_succ_self (monthOf leap day)) inside before
  · have last : monthOf leap day = 12 := by omega
    rw [last] at before
    exact absurd before (Nat.not_le.mpr within)

theorem daysBeforeMonth_succ_le (leap : Bool) :
    ∀ month ≤ 12, daysBeforeMonth leap (month + 1) ≤ daysBeforeMonth leap month + 31 := by
  cases leap <;> decide

theorem daysBeforeMonth_mono (leap : Bool) {month later : Nat} (before : month ≤ later)
    (last : later ≤ 13) : daysBeforeMonth leap month ≤ daysBeforeMonth leap later := by
  have table : ∀ later ≤ 13, ∀ month ≤ later,
      daysBeforeMonth leap month ≤ daysBeforeMonth leap later := by cases leap <;> decide
  exact table later last month before

/-! ## Dates -/

/-- The day of the year, counted from zero. -/
def dayOfYear (day : Nat) : Nat := day - daysBeforeYear (yearOf day)

def month (day : Nat) : Nat := monthOf (isLeap (yearOf day)) (dayOfYear day)

def dayOfMonth (day : Nat) : Nat :=
  dayOfYear day - daysBeforeMonth (isLeap (yearOf day)) (month day) + 1

theorem dayOfYear_lt (day : Nat) : dayOfYear day < daysBeforeMonth (isLeap (yearOf day)) 13 := by
  obtain ⟨least, begun, ends⟩ := yearOf_spec day
  obtain ⟨years, same⟩ : ∃ years, yearOf day = years + 1 := ⟨yearOf day - 1, by omega⟩
  have length : daysBeforeMonth (isLeap (yearOf day)) 13 =
      365 + if isLeap (yearOf day) then 1 else 0 := by
    cases isLeap (yearOf day) <;> rfl
  rw [length, dayOfYear]
  have next := daysBeforeYear_succ years
  rw [← same] at next
  have shifted : years + 2 = yearOf day + 1 := by omega
  rw [shifted] at next
  omega

/-- The month and the day of the month of a day. -/
theorem month_spec (day : Nat) : 1 ≤ month day ∧ month day ≤ 12 ∧
    daysBeforeMonth (isLeap (yearOf day)) (month day) ≤ dayOfYear day ∧
      dayOfYear day < daysBeforeMonth (isLeap (yearOf day)) (month day + 1) :=
  monthOf_spec _ (dayOfYear_lt day)

theorem dayOfMonth_le (day : Nat) : dayOfMonth day ≤ 31 := by
  obtain ⟨-, last, begun, ends⟩ := month_spec day
  have length := daysBeforeMonth_succ_le (isLeap (yearOf day)) (month day) last
  unfold dayOfMonth
  omega

/-- A day of an earlier year, or of an earlier month, or an earlier day is earlier. -/
theorem day_lt_iff (day later : Nat) : day < later ↔ yearOf day < yearOf later ∨
    (yearOf day = yearOf later ∧ (month day < month later ∨
      (month day = month later ∧ dayOfMonth day < dayOfMonth later))) := by
  have earlier : ∀ {day later : Nat}, yearOf day < yearOf later → day < later := by
    intro day later before
    have ends := (yearOf_spec day).2.2
    have begun := (yearOf_spec later).2.1
    have order : daysBeforeYear (yearOf day + 1) ≤ daysBeforeYear (yearOf later) :=
      daysBeforeYear_mono before
    omega
  have within : ∀ {day later : Nat}, yearOf day = yearOf later → month day < month later →
      day < later := by
    intro day later sameYear before
    obtain ⟨-, -, -, ends⟩ := month_spec day
    obtain ⟨-, last, begun, -⟩ := month_spec later
    have order : daysBeforeMonth (isLeap (yearOf later)) (month day + 1) ≤
        daysBeforeMonth (isLeap (yearOf later)) (month later) :=
      daysBeforeMonth_mono _ before (Nat.le_succ_of_le last)
    rw [sameYear] at ends
    have start := (yearOf_spec day).2.1
    unfold dayOfYear at ends begun
    rw [sameYear] at ends start
    omega
  have inMonth : yearOf day = yearOf later → month day = month later →
      (day < later ↔ dayOfMonth day < dayOfMonth later) := by
    intro sameYear sameMonth
    obtain ⟨-, -, begun, -⟩ := month_spec day
    obtain ⟨-, -, laterBegun, -⟩ := month_spec later
    have start := (yearOf_spec day).2.1
    have laterStart := (yearOf_spec later).2.1
    unfold dayOfMonth
    unfold dayOfYear at *
    rw [sameYear] at begun start ⊢
    rw [sameMonth] at begun ⊢
    omega
  rcases Nat.lt_trichotomy (yearOf day) (yearOf later) with before | sameYear | after
  · simp [before, earlier before]
  · rcases Nat.lt_trichotomy (month day) (month later) with before | sameMonth | after
    · simp [sameYear, before, within sameYear before]
    · simp [sameYear, sameMonth, inMonth sameYear sameMonth]
    · have behind := within sameYear.symm after
      simp only [sameYear, lt_irrefl, false_or, true_and]
      omega
  · have behind := earlier after
    omega

/-! ## Seconds -/

/-- `YYYY-MM-DDTHH:MM:SS`. -/
def secondText (second : Nat) : List Char :=
  padded 4 (yearOf (second / 86400)) ++ '-' :: (padded 2 (month (second / 86400)) ++
    '-' :: (padded 2 (dayOfMonth (second / 86400)) ++ 'T' :: (padded 2 (second % 86400 / 3600) ++
      ':' :: (padded 2 (second % 3600 / 60) ++ ':' :: (padded 2 (second % 60) ++ [])))))

/-- The seconds until the end of the year 9999. -/
def allSeconds : Nat := daysBeforeYear 10000 * 86400

theorem yearOf_lt {day : Nat} (within : day < daysBeforeYear 10000) : yearOf day < 10000 := by
  by_contra beyond
  have order := daysBeforeYear_mono (Nat.le_of_not_lt beyond)
  have begun := (yearOf_spec day).2.1
  omega

/-- **The text of a second keeps the order.** -/
theorem secondText_orders : Orders secondText 19 allSeconds := by
  refine ⟨fun second => by simp [secondText, length_padded], fun {second later} within laterWithin => ?_⟩
  have bound : ∀ {second : Nat}, second < allSeconds → yearOf (second / 86400) < 10 ^ 4 := by
    intro second within
    refine yearOf_lt ?_
    unfold allSeconds at within
    omega
  have monthBound : ∀ day, month day < 10 ^ 2 := fun day => by
    have := (month_spec day).2.1
    omega
  have dayBound : ∀ day, dayOfMonth day < 10 ^ 2 := fun day => by
    have := dayOfMonth_le day
    omega
  have hour : ∀ second, second % 86400 / 3600 < 10 ^ 2 := fun second => by omega
  have minute : ∀ second, second % 3600 / 60 < 10 ^ 2 := fun second => by omega
  have rest : ∀ second, second % 60 < 10 ^ 2 := fun second => by omega
  unfold secondText
  rw [(padded_orders 4).append_lt_iff (bound within) (bound laterWithin), cons_lt_cons_same,
    (padded_orders 2).append_lt_iff (monthBound _) (monthBound _), cons_lt_cons_same,
    (padded_orders 2).append_lt_iff (dayBound _) (dayBound _), cons_lt_cons_same,
    (padded_orders 2).append_lt_iff (hour _) (hour _), cons_lt_cons_same,
    (padded_orders 2).append_lt_iff (minute _) (minute _), cons_lt_cons_same,
    (padded_orders 2).append_lt_iff (rest _) (rest _)]
  simp only [List.not_lt_nil, and_false, or_false]
  rcases Nat.lt_trichotomy (second / 86400) (later / 86400) with before | sameDay | after
  · have dates := (day_lt_iff _ _).mp before
    have seconds : second < later := by omega
    simp only [seconds, iff_true]
    omega
  · rw [sameDay]
    simp only [lt_irrefl, true_and, false_or]
    omega
  · have dates := (day_lt_iff _ _).mp after
    have seconds : ¬ second < later := by omega
    simp only [seconds, iff_false]
    omega

/-! ## Instants -/

def microsPerSecond : Nat := 1000000

/-- The microseconds until the end of the year 9999. -/
def allInstants : Nat := allSeconds * microsPerSecond

/-- The fraction of a second, left out when there is none. -/
def fractionText (micros : Nat) : List Char := if micros = 0 then [] else '.' :: padded 6 micros

/-- The text of an instant, with the fraction only when there is one, and then the zone. -/
def instantText (zone : List Char) (instant : Nat) : List Char :=
  secondText (instant / microsPerSecond) ++ (fractionText (instant % microsPerSecond) ++ zone)

/-- The place of an instant among those of its second when the whole second comes last. -/
def wholeLast (instant : Nat) : Nat :=
  instant / microsPerSecond * (microsPerSecond + 1) +
    if instant % microsPerSecond = 0 then microsPerSecond else instant % microsPerSecond

theorem wholeLast_of_whole {instant : Nat} (whole : instant % microsPerSecond = 0) :
    wholeLast instant = instant / microsPerSecond * (microsPerSecond + 1) + microsPerSecond := by
  rw [wholeLast, if_pos whole]

theorem wholeLast_of_fraction {instant : Nat} (fraction : instant % microsPerSecond ≠ 0) :
    wholeLast instant =
      instant / microsPerSecond * (microsPerSecond + 1) + instant % microsPerSecond := by
  rw [wholeLast, if_neg fraction]

theorem instantText_lt_iff {zone : List Char} {instant later : Nat} (within : instant < allInstants)
    (laterWithin : later < allInstants) : instantText zone instant < instantText zone later ↔
      instant / microsPerSecond < later / microsPerSecond ∨
        (instant / microsPerSecond = later / microsPerSecond ∧
          fractionText (instant % microsPerSecond) ++ zone <
            fractionText (later % microsPerSecond) ++ zone) := by
  have seconds : ∀ {instant : Nat}, instant < allInstants → instant / microsPerSecond < allSeconds :=
    fun within => Nat.div_lt_of_lt_mul (by rwa [Nat.mul_comm])
  exact secondText_orders.append_lt_iff (seconds within) (seconds laterWithin) _ _

/-- The fractions of one second in order, each before the zone. -/
theorem fraction_lt_iff {c : Char} (zone : List Char) {micros later : Nat}
    (other : c ≠ '.') (small : micros < microsPerSecond) (laterSmall : later < microsPerSecond) :
    fractionText micros ++ c :: zone < fractionText later ++ c :: zone ↔
      (micros = 0 ∧ later ≠ 0 ∧ c < '.') ∨ (micros ≠ 0 ∧ later = 0 ∧ '.' < c) ∨
        (micros ≠ 0 ∧ later ≠ 0 ∧ micros < later) := by
  unfold fractionText
  by_cases whole : micros = 0
  · by_cases laterWhole : later = 0
    · simp [whole, laterWhole, List.lt_irrefl]
    · simp [whole, laterWhole, List.cons_lt_cons_iff, other]
  · by_cases laterWhole : later = 0
    · simp [whole, laterWhole, List.cons_lt_cons_iff, other.symm]
    · have digits := (padded_orders 6).append_lt_iff small laterSmall (c :: zone) (c :: zone)
      simp [whole, laterWhole, digits, List.lt_irrefl]

/-- **A zone that begins before the point keeps the order of instants.** -/
theorem instantText_lt_iff_of_before {c : Char} (zone : List Char) {instant later : Nat}
    (before : c < '.') (within : instant < allInstants) (laterWithin : later < allInstants) :
    instantText (c :: zone) instant < instantText (c :: zone) later ↔ instant < later := by
  have positive : 0 < microsPerSecond := by decide
  rw [instantText_lt_iff within laterWithin, fraction_lt_iff zone (Char.ne_of_lt before)
    (Nat.mod_lt _ positive) (Nat.mod_lt _ positive)]
  have notAfter : ¬ '.' < c := Char.lt_asymm before
  simp only [before, notAfter, and_true, and_false, false_or, microsPerSecond]
  omega

/-- **A zone that begins after the point moves whole seconds behind their fractions.** -/
theorem instantText_lt_iff_of_after {c : Char} (zone : List Char) {instant later : Nat}
    (after : '.' < c) (within : instant < allInstants) (laterWithin : later < allInstants) :
    instantText (c :: zone) instant < instantText (c :: zone) later ↔
      wholeLast instant < wholeLast later := by
  have positive : 0 < microsPerSecond := by decide
  rw [instantText_lt_iff within laterWithin, fraction_lt_iff zone (Char.ne_of_lt after).symm
    (Nat.mod_lt _ positive) (Nat.mod_lt _ positive)]
  have notBefore : ¬ c < '.' := Char.lt_asymm after
  simp only [after, notBefore, and_true, and_false, false_or]
  by_cases whole : instant % microsPerSecond = 0
  · rw [wholeLast_of_whole whole]
    by_cases laterWhole : later % microsPerSecond = 0
    · rw [wholeLast_of_whole laterWhole]
      unfold microsPerSecond at *
      omega
    · rw [wholeLast_of_fraction laterWhole]
      unfold microsPerSecond at *
      omega
  · rw [wholeLast_of_fraction whole]
    by_cases laterWhole : later % microsPerSecond = 0
    · rw [wholeLast_of_whole laterWhole]
      unfold microsPerSecond at *
      omega
    · rw [wholeLast_of_fraction laterWhole]
      unfold microsPerSecond at *
      omega

end Timestamps
