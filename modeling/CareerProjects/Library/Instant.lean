import CareerProjects.Library.Dates
import CareerProjects.Library.Numerals

/-! Instants of the UTC time line in whole nanoseconds, as `java.time.Instant` has them,
with their ISO-8601 text. Parsing the text of an instant gives the instant back. -/

namespace CareerProjects.Library

structure Instant where
  seconds : Int
  nanos : Nat
  nanosRange : nanos < 1000000000
  range : -31557014167219200 ≤ seconds ∧ seconds ≤ 31556889864403199
  deriving DecidableEq

/-- A duration that is not negative, in nanoseconds. -/
abbrev Duration := Nat

def Duration.ofSeconds (seconds : Nat) : Duration := seconds * 1000000000

def Duration.toSeconds (duration : Duration) : Nat := duration / 1000000000

namespace Instant

def total (instant : Instant) : Int := instant.seconds * 1000000000 + instant.nanos

def isBefore (a b : Instant) : Bool := a.total < b.total

def isAfter (a b : Instant) : Bool := b.total < a.total

/-- The instant so many nanoseconds after 1970, or the message of the exception. -/
def ofTotal (total : Int) : Except JavaString Instant :=
  if range : -31557014167219200 ≤ total / 1000000000 ∧ total / 1000000000 ≤ 31556889864403199 then
    .ok ⟨total / 1000000000, (total % 1000000000).toNat, by omega, range⟩
  else .error (.ofString "Instant exceeds minimum or maximum instant")

def plusSeconds (instant : Instant) (amount : Int) : Except JavaString Instant :=
  let seconds := instant.seconds + amount
  if -9223372036854775808 ≤ seconds ∧ seconds ≤ 9223372036854775807 then
    ofTotal (instant.total + amount * 1000000000)
  else .error (.ofString "long overflow")

/-- A duration is added in two steps: its seconds, then its nanoseconds. -/
def plus (instant : Instant) (duration : Duration) : Except JavaString Instant := do
  let instant ← instant.plusSeconds duration.toSeconds
  ofTotal (instant.total + (duration % 1000000000 : Nat))

def minus (instant : Instant) (duration : Duration) : Except JavaString Instant := do
  let instant ← instant.plusSeconds (-duration.toSeconds)
  ofTotal (instant.total - (duration % 1000000000 : Nat))

theorem ofTotal_total {total : Int} {instant : Instant} (h : ofTotal total = .ok instant) :
    instant.total = total := by
  rw [ofTotal] at h
  split at h
  · cases h
    simp only [Instant.total]
    omega
  · cases h

theorem plusSeconds_total {instant moved : Instant} {amount : Int}
    (h : instant.plusSeconds amount = .ok moved) :
    moved.total = instant.total + amount * 1000000000 := by
  rw [plusSeconds] at h
  split at h
  · exact ofTotal_total h
  · cases h

theorem plus_total {instant moved : Instant} {duration : Duration}
    (h : instant.plus duration = .ok moved) : moved.total = instant.total + (duration : Nat) := by
  simp only [plus] at h
  cases first : instant.plusSeconds duration.toSeconds with
  | error message => simp [first, bind, Except.bind] at h
  | ok middle =>
    simp only [first, bind, Except.bind] at h
    have seconds := plusSeconds_total first
    have nanos := ofTotal_total h
    simp only [Duration.toSeconds] at seconds
    omega

theorem minus_total {instant moved : Instant} {duration : Duration}
    (h : instant.minus duration = .ok moved) : moved.total = instant.total - (duration : Nat) := by
  simp only [minus] at h
  cases first : instant.plusSeconds (-duration.toSeconds) with
  | error message => simp [first, bind, Except.bind] at h
  | ok middle =>
    simp only [first, bind, Except.bind] at h
    have seconds := plusSeconds_total first
    have nanos := ofTotal_total h
    simp only [Duration.toSeconds] at seconds
    omega

def arithmeticMessages : List JavaString :=
  [.ofString "Instant exceeds minimum or maximum instant", .ofString "long overflow"]

theorem ofTotal_error {total : Int} {message : JavaString} (h : ofTotal total = .error message) :
    message ∈ arithmeticMessages := by
  rw [ofTotal] at h
  split at h
  · cases h
  · cases h
    simp [arithmeticMessages]

theorem plusSeconds_error {instant : Instant} {amount : Int} {message : JavaString}
    (h : instant.plusSeconds amount = .error message) : message ∈ arithmeticMessages := by
  rw [plusSeconds] at h
  split at h
  · exact ofTotal_error h
  · cases h
    simp [arithmeticMessages]

theorem plus_error {instant : Instant} {duration : Duration} {message : JavaString}
    (h : instant.plus duration = .error message) : message ∈ arithmeticMessages := by
  simp only [plus] at h
  cases first : instant.plusSeconds duration.toSeconds with
  | error other =>
    simp only [first, bind, Except.bind] at h
    cases h
    exact plusSeconds_error first
  | ok middle =>
    simp only [first, bind, Except.bind] at h
    exact ofTotal_error h

theorem minus_error {instant : Instant} {duration : Duration} {message : JavaString}
    (h : instant.minus duration = .error message) : message ∈ arithmeticMessages := by
  simp only [minus] at h
  cases first : instant.plusSeconds (-duration.toSeconds) with
  | error other =>
    simp only [first, bind, Except.bind] at h
    cases h
    exact plusSeconds_error first
  | ok middle =>
    simp only [first, bind, Except.bind] at h
    exact ofTotal_error h

open JavaString

def yearText (year : Int) : JavaString :=
  if year < 0 then 45 :: padded 4 year.natAbs
  else if year ≤ 9999 then padded 4 year.natAbs
  else 43 :: padded 4 year.natAbs

def fractionText (nanos : Nat) : JavaString :=
  if nanos = 0 then []
  else if nanos % 1000000 = 0 then 46 :: padded 3 (nanos / 1000000)
  else if nanos % 1000 = 0 then 46 :: padded 6 (nanos / 1000)
  else 46 :: padded 9 nanos

/-- A date, a time of day in seconds and a fraction, in UTC. -/
def dateTimeText (date : LocalDate) (second : Nat) (fraction : JavaString) : JavaString :=
  yearText date.year ++ 45 :: (padded 2 date.month ++ 45 :: (padded 2 date.day ++
    84 :: (padded 2 (second / 3600) ++ 58 :: (padded 2 (second / 60 % 60) ++
      58 :: (padded 2 (second % 60) ++ (fraction ++ [90]))))))

def toString (instant : Instant) : JavaString :=
  dateTimeText (.ofEpochDay (instant.seconds / 86400)) (instant.seconds % 86400).toNat
    (fractionText instant.nanos)

/-- The digits that a text starts with, up to a number of them, and the rest. -/
def digits (width : Nat) (text : JavaString) : JavaString × JavaString :=
  let front := (text.take width).takeWhile isDigit
  (front, text.drop front.length)

def literal (unit : UInt16) : JavaString → Option JavaString
  | first :: rest => if first = unit then some rest else none
  | [] => none

def letter (unit : UInt16) : JavaString → Option JavaString
  | first :: rest => if first = unit ∨ first = unit + 32 then some rest else none
  | [] => none

def pair (text : JavaString) : Option (Nat × JavaString) :=
  let (front, rest) := digits 2 text
  if front.length = 2 then some (number front, rest) else none

/-- Four digits, or a sign and more: a minus before any year but zero, a plus only where four
digits are not enough. -/
def parseYear : JavaString → Option (Int × JavaString)
  | 45 :: text =>
    let (front, rest) := digits 10 text
    if 4 ≤ front.length ∧ number front ≠ 0 then some (-number front, rest) else none
  | 43 :: text =>
    let (front, rest) := digits 10 text
    if 4 < front.length then some (number front, rest) else none
  | text =>
    let (front, rest) := digits 10 text
    if front.length = 4 then some (number front, rest) else none

/-- An optional point and up to nine digits, which may be missing after the point. -/
def parseFraction : JavaString → Nat × JavaString
  | 46 :: text =>
    let (front, rest) := digits 9 text
    (number front * 10 ^ (9 - front.length), rest)
  | text => (0, text)

/-- `Z`, or a sign, hours, minutes and perhaps seconds. -/
def parseOffset (text : JavaString) : Option (Int × JavaString) :=
  match letter 90 text with
  | some rest => some (0, rest)
  | none =>
    match text with
    | sign :: text => do
      guard (sign = 43 ∨ sign = 45)
      let (hour, text) ← pair text
      let text ← literal 58 text
      let (minute, text) ← pair text
      let (second, text) := ((literal 58 text).bind pair).getD (0, text)
      guard (hour ≤ 23 ∧ minute ≤ 59 ∧ second ≤ 59)
      let offset : Int := hour * 3600 + minute * 60 + second
      some (if sign = 45 then -offset else offset, text)
    | [] => none

/-- The instant of a date and a time of day, as `InstantPrinterParser` puts them together: the
end of a day is the start of the next, and a leap second is taken for the second before. -/
def resolve (date : LocalDate) (hour minute second nano : Nat) (offset : Int) : Option Instant :=
  let midnight := hour = 24 ∧ minute = 0 ∧ second = 0 ∧ nano = 0
  let day := if midnight then date.toEpochDay + 1 else date.toEpochDay
  let hour := if midnight then 0 else hour
  let second := if hour = 23 ∧ minute = 59 ∧ second = 60 then 59 else second
  if date.Valid ∧ hour ≤ 23 ∧ minute ≤ 59 ∧ second ≤ 59 ∧ -64800 ≤ offset ∧ offset ≤ 64800 then
    (ofTotal ((day * 86400 + (hour * 3600 + minute * 60 + second : Nat) - offset) * 1000000000 +
      nano)).toOption
  else none

def parse (text : JavaString) : Option Instant := do
  let (year, text) ← parseYear text
  let text ← literal 45 text
  let (month, text) ← pair text
  let text ← literal 45 text
  let (day, text) ← pair text
  let text ← letter 84 text
  let (hour, text) ← pair text
  let text ← literal 58 text
  let (minute, text) ← pair text
  let text ← literal 58 text
  let (second, text) ← pair text
  let (nano, text) := parseFraction text
  let (offset, text) ← parseOffset text
  guard (text = [])
  resolve ⟨year, month, day⟩ hour minute second nano offset

theorem digits_append {width : Nat} {front rest : JavaString}
    (known : ∀ unit ∈ front, isDigit unit = true) (fits : front.length ≤ width)
    (ends : front.length = width ∨ ∀ unit ∈ rest.head?, isDigit unit = false) :
    digits width (front ++ rest) = (front, rest) := by
  have taken : ((front ++ rest).take width).takeWhile isDigit = front := by
    rw [List.take_append, List.takeWhile_append_of_pos fun unit member =>
      known unit (List.mem_of_mem_take member), List.take_of_length_le fits]
    rcases ends with full | stop
    · simp [full]
    · cases rest with
      | nil => simp
      | cons first rest =>
        have other := stop first rfl
        cases width - front.length with
        | zero => simp
        | succ count => simp [other]
  rw [digits, taken, List.drop_left]

@[simp] theorem literal_cons (unit : UInt16) (rest : JavaString) :
    literal unit (unit :: rest) = some rest := by
  simp [literal]

@[simp] theorem letter_cons (unit : UInt16) (rest : JavaString) :
    letter unit (unit :: rest) = some rest := by
  simp [letter]

@[simp] theorem parseOffset_utc : parseOffset [90] = some (0, []) := by
  simp [parseOffset]

theorem pair_padded {n : Nat} (small : n < 100) (rest : JavaString) :
    pair (padded 2 n ++ rest) = some (n, rest) := by
  have length : (padded 2 n).length = 2 := length_padded (by omega) small
  rw [pair, digits_append (isDigit_padded 2 n) (by omega) (.inl length)]
  simp [length]

theorem padded_long {width n : Nat} (positive : 0 < width) (long : 10 ^ width ≤ n) :
    padded width n = decimal n ∧ width < (decimal n).length := by
  have length : width < (decimal n).length := by
    by_contra short
    rw [not_lt, decimal, List.length_map, Nat.length_toDigits_le_iff (by omega) positive] at short
    omega
  rw [padded, Nat.sub_eq_zero_of_le length.le]
  exact ⟨rfl, length⟩

theorem parseYear_yearText {year : Int} (small : year.natAbs < 10 ^ 10) (rest : JavaString) :
    parseYear (yearText year ++ 45 :: rest) = some (year, 45 :: rest) := by
  have ends : ∀ unit ∈ (45 :: rest : JavaString).head?, isDigit unit = false := by
    simp [isDigit]
  have fits : (padded 4 year.natAbs).length ≤ 10 := by
    by_cases short : year.natAbs < 10 ^ 4
    · rw [length_padded (by omega) short]
      omega
    · rw [(padded_long (by omega) (not_lt.mp short)).1, decimal, List.length_map]
      exact (Nat.length_toDigits_le_iff (by omega) (by omega)).mpr small
  have read : digits 10 (padded 4 year.natAbs ++ 45 :: rest) =
      (padded 4 year.natAbs, 45 :: rest) :=
    digits_append (isDigit_padded 4 _) fits (.inr ends)
  have long : 4 ≤ (padded 4 year.natAbs).length := by
    rw [padded, List.length_append, List.length_replicate]
    omega
  rw [yearText]
  split
  · have value : -(year.natAbs : Int) = year := by omega
    have nonzero : year.natAbs ≠ 0 := by omega
    simp only [List.cons_append, parseYear, read, number_padded, value, nonzero, long, ne_eq,
      not_false_eq_true, and_self, if_true]
  · split
    · have four : (padded 4 year.natAbs).length = 4 := length_padded (by omega) (by omega)
      have value : (year.natAbs : Int) = year := by omega
      cases shape : padded 4 year.natAbs with
      | nil => simp [shape] at four
      | cons first digits =>
        have digit := isDigit_padded 4 year.natAbs first (by simp [shape])
        have numeral := number_padded 4 year.natAbs
        rw [shape] at read four numeral
        rw [List.cons_append] at read ⊢
        rw [parseYear, read]
        · simp only [four, if_true, numeral, value]
        · rintro text ⟨⟩
          simp [isDigit] at digit
        · rintro text ⟨⟩
          simp [isDigit] at digit
    · have value : (year.natAbs : Int) = year := by omega
      have five : 4 < (padded 4 year.natAbs).length := by
        rw [(padded_long (by omega) (by omega)).1]
        exact (padded_long (by omega) (by omega)).2
      simp only [List.cons_append, parseYear, read, number_padded, value, five, if_true]

theorem parseFraction_padded {width n : Nat} (positive : 0 < width) (fits : width ≤ 9)
    (small : n < 10 ^ width) (rest : JavaString) :
    parseFraction (46 :: padded width n ++ 90 :: rest) = (n * 10 ^ (9 - width), 90 :: rest) := by
  have length := length_padded positive small
  have read : digits 9 (padded width n ++ 90 :: rest) = (padded width n, 90 :: rest) :=
    digits_append (isDigit_padded width n) (by omega) (.inr (by simp [isDigit]))
  simp only [List.cons_append, parseFraction, read, length, number_padded]

theorem parseFraction_fractionText {nanos : Nat} (small : nanos < 1000000000)
    (rest : JavaString) :
    parseFraction (fractionText nanos ++ 90 :: rest) = (nanos, 90 :: rest) := by
  rw [fractionText]
  split
  · simp_all [parseFraction]
  · split
    · rw [parseFraction_padded (by omega) (by omega) (by omega), Prod.mk.injEq]
      exact ⟨by omega, rfl⟩
    · split
      · rw [parseFraction_padded (by omega) (by omega) (by omega), Prod.mk.injEq]
        exact ⟨by omega, rfl⟩
      · rw [parseFraction_padded (by omega) (by omega) (by omega), Prod.mk.injEq]
        exact ⟨by omega, rfl⟩

theorem parse_dateTimeText {date : LocalDate} {second nano : Nat} {fraction : JavaString}
    (valid : date.Valid) (small : date.year.natAbs < 10 ^ 10) (time : second < 86400)
    (fractional : parseFraction (fraction ++ [90]) = (nano, [90])) :
    parse (dateTimeText date second fraction) =
      (ofTotal ((date.toEpochDay * 86400 + second) * 1000000000 + nano)).toOption := by
  obtain ⟨_, lastMonth, _, lastDay⟩ := id valid
  have shortMonth : date.day < 100 := by
    simp only [LocalDate.lengthOfMonth] at lastDay
    split at lastDay
    · split at lastDay <;> omega
    · split at lastDay <;> omega
  have early : ¬(second / 3600 = 24 ∧ second / 60 % 60 = 0 ∧ second % 60 = 0 ∧ nano = 0) := by
    omega
  have noLeap : ¬(second / 3600 = 23 ∧ second / 60 % 60 = 59 ∧ second % 60 = 60) := by
    omega
  have timeOfDay : second / 3600 * 3600 + second / 60 % 60 * 60 + second % 60 = second := by
    omega
  have bounds : second / 3600 ≤ 23 ∧ second / 60 % 60 ≤ 59 ∧ second % 60 ≤ 59 ∧
      (-64800 : Int) ≤ 0 ∧ (0 : Int) ≤ 64800 := by
    omega
  simp only [parse, dateTimeText, bind, Option.bind, parseYear_yearText small,
    literal_cons, letter_cons, pair_padded (show date.month < 100 by omega),
    pair_padded shortMonth, pair_padded (show second / 3600 < 100 by omega),
    pair_padded (show second / 60 % 60 < 100 by omega),
    pair_padded (show second % 60 < 100 by omega), fractional, parseOffset_utc, guard, if_true,
    pure, resolve, if_neg early, if_neg noLeap, valid, bounds, timeOfDay, sub_zero, true_and]

theorem year_bounds {epochDay : Int} (range : -400000000000 < epochDay ∧ epochDay < 400000000000) :
    (LocalDate.ofEpochDay epochDay).year.natAbs < 10 ^ 10 := by
  obtain ⟨year, day, sum, inside, found⟩ := LocalDate.ofEpochDay_march epochDay
  rw [found]
  simp only [LocalDate.ofMarch, LocalDate.daysBeforeYear] at *
  split <;> omega

theorem parse_toString (instant : Instant) : parse (toString instant) = some instant := by
  obtain ⟨seconds, nanos, nanosRange, range⟩ := instant
  have day := LocalDate.toEpochDay_ofEpochDay (seconds / 86400)
  simp only [toString]
  rw [parse_dateTimeText (LocalDate.valid_ofEpochDay _) (year_bounds (by omega)) (by omega)
    (parseFraction_fractionText nanosRange []), day]
  have total : (seconds / 86400 * 86400 + ((seconds % 86400).toNat : Int)) * 1000000000 + nanos =
      seconds * 1000000000 + nanos := by omega
  have whole : (seconds * 1000000000 + nanos) / 1000000000 = seconds := by omega
  have rest : ((seconds * 1000000000 + nanos) % 1000000000).toNat = nanos := by omega
  simp only [total, ofTotal, whole, rest, dif_pos range, Except.toOption]

theorem toString_injective : Function.Injective toString := by
  intro a b same
  have read : parse (toString a) = parse (toString b) := by rw [same]
  simpa [parse_toString] using read

def isDateUnit (unit : UInt16) : Bool :=
  isDigit unit || unit == 43 || unit == 45 || unit == 46 || unit == 58 || unit == 84 || unit == 90

theorem isDateUnit_padded {width n : Nat} : ∀ unit ∈ padded width n, isDateUnit unit = true := by
  intro unit member
  simp [isDateUnit, isDigit_padded width n unit member]

theorem isDateUnit_dateTimeText {date : LocalDate} {second : Nat} {fraction : JavaString}
    (known : ∀ unit ∈ fraction, isDateUnit unit = true) :
    ∀ unit ∈ dateTimeText date second fraction, isDateUnit unit = true := by
  have year : ∀ unit ∈ yearText date.year, isDateUnit unit = true := by
    rw [yearText]
    split_ifs
    · exact List.forall_mem_cons.mpr ⟨rfl, isDateUnit_padded⟩
    · exact isDateUnit_padded
    · exact List.forall_mem_cons.mpr ⟨rfl, isDateUnit_padded⟩
  simp only [dateTimeText, List.forall_mem_append, List.forall_mem_cons]
  exact ⟨year, rfl, isDateUnit_padded, rfl, isDateUnit_padded, rfl, isDateUnit_padded, rfl,
    isDateUnit_padded, rfl, isDateUnit_padded, known, rfl, by simp⟩

theorem isDateUnit_toString (instant : Instant) :
    ∀ unit ∈ toString instant, isDateUnit unit = true := by
  refine isDateUnit_dateTimeText ?_
  rw [fractionText]
  split_ifs
  · simp
  all_goals exact List.forall_mem_cons.mpr ⟨rfl, isDateUnit_padded⟩

theorem isDateUnit_bounds {unit : UInt16} (known : isDateUnit unit = true) :
    32 < unit.toNat ∧ unit.toNat < 0xD800 := by
  simp only [isDateUnit, isDigit, Bool.or_eq_true, Bool.and_eq_true, decide_eq_true_eq,
    beq_iff_eq] at known
  rcases known with (((((digit | rfl) | rfl) | rfl) | rfl) | rfl) | rfl
  · omega
  all_goals decide

end Instant

end CareerProjects.Library
