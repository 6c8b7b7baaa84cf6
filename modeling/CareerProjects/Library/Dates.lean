import Mathlib.Tactic.IntervalCases
import Mathlib.Algebra.Order.Ring.Int
import Mathlib.Order.Monotone.Basic
import Mathlib.Tactic.Ring
import Mathlib.Data.Int.ConditionallyCompleteOrder

/-! Dates of the proleptic ISO calendar and their count of days since 1970, computed as
`java.time.LocalDate` computes them. Both computations go through years that start in
March, so that a leap day is the last day of its year. -/

namespace CareerProjects.Library

structure LocalDate where
  year : Int
  month : Nat
  day : Nat
  deriving DecidableEq

namespace LocalDate

def isLeapYear (year : Int) : Bool :=
  year % 4 == 0 && (year % 100 != 0 || year % 400 == 0)

def lengthOfMonth (year : Int) (month : Nat) : Nat :=
  if month = 2 then if isLeapYear year then 29 else 28
  else if month = 4 ∨ month = 6 ∨ month = 9 ∨ month = 11 then 30 else 31

/-- What `LocalDate.of` accepts. -/
def Valid (date : LocalDate) : Prop :=
  1 ≤ date.month ∧ date.month ≤ 12 ∧ 1 ≤ date.day ∧
    date.day ≤ lengthOfMonth date.year date.month

instance (date : LocalDate) : Decidable date.Valid :=
  inferInstanceAs (Decidable (_ ∧ _ ∧ _ ∧ _))

def toEpochDay (date : LocalDate) : Int :=
  let years := 365 * date.year +
    if 0 ≤ date.year then (date.year + 3) / 4 - (date.year + 99) / 100 + (date.year + 399) / 400
    else -(-date.year / 4 - -date.year / 100 + -date.year / 400)
  let months := ((367 * date.month - 362) / 12 : Nat)
  let leap : Int := if date.month ≤ 2 then 0 else if isLeapYear date.year then 1 else 2
  years + months + (date.day - 1) - leap - 719528

/-- The days before a year that starts in March. -/
def daysBeforeYear (year : Int) : Int := 365 * year + year / 4 - year / 100 + year / 400

/-- The days before a month, in a year that starts in March. -/
def daysBeforeMonth (month : Nat) : Nat := (month * 306 + 5) / 10

/-- The date of a day of a year that starts in March. -/
def ofMarch (year : Int) (day : Nat) : LocalDate :=
  let marchMonth := (day * 5 + 2) / 153
  { year := year + if marchMonth < 10 then 0 else 1
    month := if marchMonth < 10 then marchMonth + 3 else marchMonth - 9
    day := day - daysBeforeMonth marchMonth + 1 }

def ofEpochDay (epochDay : Int) : LocalDate :=
  let zeroDay := epochDay + 719528 - 60
  let adjustCycles := if zeroDay < 0 then -(-(zeroDay + 1) / 146097) - 1 else 0
  let zeroDay := zeroDay - adjustCycles * 146097
  let estimate := (400 * zeroDay + 591) / 146097
  let marchYear := if zeroDay - daysBeforeYear estimate < 0 then estimate - 1 else estimate
  ofMarch (marchYear + adjustCycles * 400) (zeroDay - daysBeforeYear marchYear).toNat

theorem daysBeforeYear_succ (year : Int) : daysBeforeYear (year + 1) =
    daysBeforeYear year + if isLeapYear (year + 1) then 366 else 365 := by
  simp only [daysBeforeYear, isLeapYear, Bool.and_eq_true, Bool.or_eq_true, beq_iff_eq,
    bne_iff_ne]
  split <;> omega

theorem daysBeforeYear_strictMono : StrictMono daysBeforeYear := by
  refine strictMono_int_of_lt_succ fun year => ?_
  rw [daysBeforeYear_succ]
  split <;> omega

theorem daysBeforeYear_cycles (year cycles : Int) :
    daysBeforeYear (year + cycles * 400) = daysBeforeYear year + cycles * 146097 := by
  simp only [daysBeforeYear]
  omega

theorem marchYear_unique {day a b : Int} (ha : daysBeforeYear a ≤ day)
    (ha' : day < daysBeforeYear (a + 1)) (hb : daysBeforeYear b ≤ day)
    (hb' : day < daysBeforeYear (b + 1)) : a = b := by
  have below : a < b + 1 := daysBeforeYear_strictMono.lt_iff_lt.mp (by omega)
  have above : b < a + 1 := daysBeforeYear_strictMono.lt_iff_lt.mp (by omega)
  omega

theorem daysBeforeYear_parts (year : Int) : ∃ cycle century leaps rest : Int,
    year = 400 * cycle + 100 * century + 4 * leaps + rest ∧ 0 ≤ century ∧ century < 4 ∧
      0 ≤ leaps ∧ leaps < 25 ∧ 0 ≤ rest ∧ rest < 4 ∧
      daysBeforeYear year = 146097 * cycle + 36524 * century + 1461 * leaps + 365 * rest := by
  refine ⟨year / 400, year % 400 / 100, year % 100 / 4, year % 4, ?_⟩
  simp only [daysBeforeYear]
  omega

theorem estimate_bounds {day : Int} (estimate : Int)
    (known : estimate = (400 * day + 591) / 146097) :
    daysBeforeYear (estimate - 1) ≤ day ∧ day < daysBeforeYear (estimate + 1) := by
  obtain ⟨cycle, century, leaps, rest, shape, _, _, _, _, _, _, before⟩ :=
    daysBeforeYear_parts (estimate - 1)
  obtain ⟨cycle', century', leaps', rest', shape', _, _, _, _, _, _, after⟩ :=
    daysBeforeYear_parts (estimate + 1)
  constructor <;> omega

theorem ofEpochDay_march (epochDay : Int) : ∃ (year : Int) (day : Nat),
    daysBeforeYear year + day = epochDay + 719468 ∧
      epochDay + 719468 < daysBeforeYear (year + 1) ∧ ofEpochDay epochDay = ofMarch year day := by
  simp only [ofEpochDay]
  generalize cycles : (if epochDay + 719528 - 60 < 0 then
    -(-(epochDay + 719528 - 60 + 1) / 146097) - 1 else 0 : Int) = adjustCycles
  generalize estimated : (400 * (epochDay + 719528 - 60 - adjustCycles * 146097) + 591) / 146097 =
    estimate
  obtain ⟨lower, upper⟩ := estimate_bounds estimate estimated.symm
  by_cases late : epochDay + 719528 - 60 - adjustCycles * 146097 - daysBeforeYear estimate < 0
  · refine ⟨_, _, ?_, ?_, rfl⟩
    · rw [if_pos late, daysBeforeYear_cycles]
      omega
    · have shift : estimate - 1 + adjustCycles * 400 + 1 = estimate + adjustCycles * 400 := by ring
      rw [if_pos late, shift, daysBeforeYear_cycles]
      omega
  · refine ⟨_, _, ?_, ?_, rfl⟩
    · rw [if_neg late, daysBeforeYear_cycles]
      omega
    · have shift : estimate + adjustCycles * 400 + 1 = estimate + 1 + adjustCycles * 400 := by ring
      rw [if_neg late, shift, daysBeforeYear_cycles]
      omega

theorem valid_ofMarch {year : Int} {day : Nat}
    (inside : daysBeforeYear year + day < daysBeforeYear (year + 1)) :
    (ofMarch year day).Valid := by
  rw [daysBeforeYear_succ] at inside
  obtain ⟨marchMonth, known⟩ : ∃ month, (day * 5 + 2) / 153 = month := ⟨_, rfl⟩
  have months : marchMonth ≤ 11 := by
    split at inside <;> omega
  simp only [ofMarch, Valid, lengthOfMonth, daysBeforeMonth, known]
  cases leap : isLeapYear (year + 1) <;> simp only [leap] at inside <;>
    interval_cases marchMonth <;> simp [leap] <;> simp at inside <;> omega

theorem daysBeforeJanuary (year : Int) :
    365 * year + (if 0 ≤ year then (year + 3) / 4 - (year + 99) / 100 + (year + 399) / 400
      else -(-year / 4 - -year / 100 + -year / 400)) = daysBeforeYear (year - 1) + 366 := by
  simp only [daysBeforeYear]
  split <;> omega

theorem toEpochDay_march (date : LocalDate) (first : 1 ≤ date.month) (last : date.month ≤ 12) :
    toEpochDay date =
      daysBeforeYear (if date.month < 3 then date.year - 1 else date.year) +
        daysBeforeMonth (if date.month < 3 then date.month + 9 else date.month - 3) +
        date.day - 1 - 719468 := by
  obtain ⟨year, month, day⟩ := date
  have march := daysBeforeYear_succ (year - 1)
  rw [sub_add_cancel] at march
  simp only [toEpochDay, daysBeforeJanuary, daysBeforeMonth] at *
  cases leap : isLeapYear year <;> simp only [leap, reduceIte, Bool.false_eq_true] at march ⊢ <;>
    interval_cases month <;> simp <;> omega

theorem toEpochDay_ofMarch {year : Int} {day : Nat}
    (inside : daysBeforeYear year + day < daysBeforeYear (year + 1)) :
    toEpochDay (ofMarch year day) = daysBeforeYear year + day - 719468 := by
  obtain ⟨first, last, -⟩ := valid_ofMarch inside
  rw [toEpochDay_march _ first last]
  rw [daysBeforeYear_succ] at inside
  obtain ⟨marchMonth, known⟩ : ∃ month, (day * 5 + 2) / 153 = month := ⟨_, rfl⟩
  have months : marchMonth ≤ 11 := by
    split at inside <;> omega
  simp only [ofMarch, daysBeforeMonth, known]
  interval_cases marchMonth <;>
    simp only [Nat.reduceLT, Nat.reduceAdd, Nat.reduceSub, Nat.reduceMul, Nat.reduceDiv, reduceIte, add_zero,
      add_sub_cancel_right] <;>
    omega

theorem toEpochDay_ofEpochDay (epochDay : Int) : toEpochDay (ofEpochDay epochDay) = epochDay := by
  obtain ⟨year, day, sum, inside, found⟩ := ofEpochDay_march epochDay
  rw [found, toEpochDay_ofMarch (by omega)]
  omega

theorem valid_ofEpochDay (epochDay : Int) : (ofEpochDay epochDay).Valid := by
  obtain ⟨year, day, sum, inside, found⟩ := ofEpochDay_march epochDay
  rw [found]
  exact valid_ofMarch (by omega)

theorem Valid.march {date : LocalDate} (valid : date.Valid) : ∃ (year : Int) (day : Nat),
    daysBeforeYear year + day < daysBeforeYear (year + 1) ∧ date = ofMarch year day := by
  obtain ⟨year, month, day⟩ := date
  obtain ⟨first, last, one, length⟩ := valid
  simp only [lengthOfMonth] at *
  refine ⟨if month < 3 then year - 1 else year,
    daysBeforeMonth (if month < 3 then month + 9 else month - 3) + (day - 1), ?_, ?_⟩
  · rw [daysBeforeYear_succ]
    cases leap : isLeapYear year <;> simp only [leap, daysBeforeMonth] at length ⊢ <;>
      interval_cases month <;> simp at * <;> (try simp only [leap, ↓reduceIte, Bool.false_eq_true]) <;>
      (try split) <;> omega
  · have short : month = 2 → day ≤ 29 := by
      rintro rfl
      simp only [↓reduceIte] at length
      split at length <;> omega
    have months : ((daysBeforeMonth (if month < 3 then month + 9 else month - 3) + (day - 1)) * 5 +
        2) / 153 = if month < 3 then month + 9 else month - 3 := by
      simp only [daysBeforeMonth]
      interval_cases month <;> simp at * <;> omega
    simp only [ofMarch, months, mk.injEq]
    interval_cases month <;> simp <;> omega

theorem ofEpochDay_toEpochDay {date : LocalDate} (valid : date.Valid) :
    ofEpochDay (toEpochDay date) = date := by
  obtain ⟨year, day, inside, rfl⟩ := valid.march
  obtain ⟨year', day', sum, inside', found⟩ := ofEpochDay_march (toEpochDay (ofMarch year day))
  rw [toEpochDay_ofMarch inside] at sum inside'
  have years : year' = year :=
    @marchYear_unique (daysBeforeYear year + day) _ _ (by omega) (by omega) (by omega) (by omega)
  subst years
  have days : day' = day := by omega
  rw [found, days]

end LocalDate

end CareerProjects.Library
