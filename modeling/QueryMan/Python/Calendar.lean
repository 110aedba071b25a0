import QueryMan.Python.Digits
import Mathlib.Tactic.Linarith

/-!
# Dates and times

`datetime.date` and `datetime.datetime` of the standard library: the ordinal of a day, the day of an
ordinal, `isoformat`, and `astimezone(UTC)`. A text is that of one date or time only
(`Date.isoformat_inj`, `DateTime.isoformat_inj`), and an aware time has the text of its instant
(`AwareDateTime.utcText_eq_iff`).
-/

namespace Python

/-! ## The calendar -/

/-- `_is_leap`. -/
def isLeap (year : Nat) : Bool :=
  year % 4 = 0 && (year % 100 ≠ 0 || year % 400 = 0)

/-- `_DAYS_IN_MONTH`, from January on. -/
def daysInMonthTable : List Nat :=
  [31, 28, 31, 30, 31, 30, 31, 31, 30, 31, 30, 31]

/-- `_DAYS_BEFORE_MONTH`, from January on. -/
def daysBeforeMonthTable : List Nat :=
  [0, 31, 59, 90, 120, 151, 181, 212, 243, 273, 304, 334]

/-- `_days_in_month`. -/
def daysInMonth (leap : Bool) (month : Nat) : Nat :=
  if month = 2 ∧ leap then 29 else daysInMonthTable.getD (month - 1) 0

/-- `_days_before_month`. -/
def daysBeforeMonth (leap : Bool) (month : Nat) : Nat :=
  daysBeforeMonthTable.getD (month - 1) 0 + if month > 2 ∧ leap then 1 else 0

/-- `_days_before_year`. -/
def daysBeforeYear (year : Nat) : Nat :=
  let y := year - 1
  y * 365 + y / 4 - y / 100 + y / 400

/-- `_MAXORDINAL`. -/
def maxOrdinal : Nat := 3652059

/-- `date`. -/
structure Date where
  year : Nat
  month : Nat
  day : Nat
  year_range : 1 ≤ year ∧ year ≤ 9999
  month_range : 1 ≤ month ∧ month ≤ 12
  day_range : 1 ≤ day ∧ day ≤ daysInMonth (isLeap year) month
  deriving DecidableEq

/-- `_ymd2ord`. -/
def Date.toordinal (d : Date) : Nat :=
  daysBeforeYear d.year + daysBeforeMonth (isLeap d.year) d.month + d.day

/-- The part of `_ord2ymd` that finds the month and the day of a day of a year. -/
def monthAndDay (leapyear : Bool) (n : Nat) : Nat × Nat :=
  let month := (n + 50) >>> 5
  let preceding := daysBeforeMonth leapyear month
  if preceding > n then
    let preceding := preceding - daysInMonth leapyear (month - 1)
    (month - 1, n - preceding + 1)
  else (month, n - preceding + 1)

/-- `_ord2ymd`. -/
def ord2ymd (ordinal : Nat) : Nat × Nat × Nat :=
  let n := ordinal - 1
  let n400 := n / 146097
  let n := n % 146097
  let n100 := n / 36524
  let n := n % 36524
  let n4 := n / 1461
  let n := n % 1461
  let n1 := n / 365
  let n := n % 365
  let year := n400 * 400 + 1 + n100 * 100 + n4 * 4 + n1
  if n1 = 4 ∨ n100 = 4 then (year - 1, 12, 31)
  else (year, monthAndDay (n1 = 3 && (n4 ≠ 24 || n100 = 3)) n)

/-- A day of a year, of which there are 366 at most. -/
theorem monthAndDay_spec : ∀ leap : Bool, ∀ n < 366, n < 365 + leap.toNat →
    (1 ≤ (monthAndDay leap n).1 ∧ (monthAndDay leap n).1 ≤ 12) ∧
    (1 ≤ (monthAndDay leap n).2 ∧
      (monthAndDay leap n).2 ≤ daysInMonth leap (monthAndDay leap n).1) ∧
    daysBeforeMonth leap (monthAndDay leap n).1 + (monthAndDay leap n).2 = n + 1 := by
  decide +kernel

/-- The year of an ordinal, by the parts of the cycle of 400 years. -/
theorem daysBeforeYear_cycle {n400 n100 n4 n1 : Nat} (h100 : n100 < 4) (h4 : n4 < 25)
    (h1 : n1 < 4) :
    daysBeforeYear (n400 * 400 + 1 + n100 * 100 + n4 * 4 + n1) =
      n400 * 146097 + n100 * 36524 + n4 * 1461 + n1 * 365 := by
  simp only [daysBeforeYear]
  omega

theorem isLeap_cycle {n400 n100 n4 n1 : Nat} (h100 : n100 < 4) (h4 : n4 < 25) (h1 : n1 < 4) :
    isLeap (n400 * 400 + 1 + n100 * 100 + n4 * 4 + n1) =
      (n1 = 3 && (n4 ≠ 24 || n100 = 3) : Bool) := by
  rw [Bool.eq_iff_iff]
  simp only [isLeap, Bool.and_eq_true, Bool.or_eq_true, decide_eq_true_eq]
  omega

/-- The date of an ordinal. -/
structure OfOrdinal (ordinal year month day : Nat) : Prop where
  year_range : 1 ≤ year ∧ year ≤ 9999
  month_range : 1 ≤ month ∧ month ≤ 12
  day_range : 1 ≤ day ∧ day ≤ daysInMonth (isLeap year) month
  ordinal_eq : daysBeforeYear year + daysBeforeMonth (isLeap year) month + day = ordinal

/-- The day behind a start of a cycle. -/
theorem ofOrdinal_cycle {ordinal n400 n100 n4 n1 n : Nat} (h100 : n100 < 4) (h4 : n4 < 25)
    (h1 : n1 < 4) (hn : n < 365 + (n1 = 3 && (n4 ≠ 24 || n100 = 3) : Bool).toNat)
    (hordinal : n400 * 146097 + n100 * 36524 + n4 * 1461 + n1 * 365 + n + 1 = ordinal)
    (hmax : ordinal ≤ maxOrdinal) :
    OfOrdinal ordinal (n400 * 400 + 1 + n100 * 100 + n4 * 4 + n1)
      (monthAndDay (n1 = 3 && (n4 ≠ 24 || n100 = 3)) n).1
      (monthAndDay (n1 = 3 && (n4 ≠ 24 || n100 = 3)) n).2 := by
  have hn366 : n < 366 := by
    have htoNat := Bool.toNat_le (n1 = 3 && (n4 ≠ 24 || n100 = 3) : Bool)
    omega
  obtain ⟨hmonth, hday, hsum⟩ := monthAndDay_spec _ n hn366 hn
  rw [maxOrdinal] at hmax
  refine ⟨⟨by omega, by omega⟩, hmonth, ?_, ?_⟩
  · rw [isLeap_cycle h100 h4 h1]
    exact hday
  · rw [isLeap_cycle h100 h4 h1, daysBeforeYear_cycle h100 h4 h1]
    omega

/-- The last day of a leap year. -/
theorem ofOrdinal_lastDay {ordinal year n400 n100 n4 : Nat} (h100 : n100 < 4) (h4 : n4 < 25)
    (hleap : n4 ≠ 24 ∨ n100 = 3) (hyear : year = n400 * 400 + 1 + n100 * 100 + n4 * 4 + 3)
    (hordinal : n400 * 146097 + n100 * 36524 + n4 * 1461 + 1461 = ordinal)
    (hmax : ordinal ≤ maxOrdinal) : OfOrdinal ordinal year 12 31 := by
  have htrue : (decide (3 = 3) && (decide (n4 ≠ 24) || decide (n100 = 3))) = true := by
    simpa using hleap
  have hday : monthAndDay true 365 = (12, 31) := by decide +kernel
  have h1 : 3 < 4 := by decide
  have hn : 365 < 365 + (decide (3 = 3) && (decide (n4 ≠ 24) || decide (n100 = 3))).toNat := by
    rw [htrue]
    decide
  have hlast := ofOrdinal_cycle h100 h4 h1 hn (by omega) hmax
  rw [htrue, hday] at hlast
  rw [hyear]
  exact hlast

/-- The parts of an ordinal in the cycle of 400 years. Behind the last full century, and behind the
last full year of four, there is one day only. -/
theorem ordinal_parts (n : Nat) :
    (n / 146097 * 146097 + n % 146097 / 36524 * 36524 + n % 146097 % 36524 / 1461 * 1461 +
      n % 146097 % 36524 % 1461 / 365 * 365 + n % 146097 % 36524 % 1461 % 365 = n) ∧
    (n % 146097 / 36524 ≤ 4 ∧ n % 146097 % 36524 / 1461 ≤ 24) ∧
    (n % 146097 / 36524 = 4 → n % 146097 % 36524 = 0) ∧
    (n % 146097 % 36524 % 1461 / 365 ≤ 4 ∧ n % 146097 % 36524 % 1461 % 365 < 365) ∧
    (n % 146097 % 36524 % 1461 / 365 = 4 → n % 146097 % 36524 % 1461 % 365 = 0 ∧
      n % 146097 / 36524 ≠ 4 ∧ (n % 146097 % 36524 / 1461 ≠ 24 ∨ n % 146097 / 36524 = 3)) := by
  omega

/-- **The day of an ordinal has that ordinal.** -/
theorem ofOrdinal_ord2ymd {ordinal : Nat} (hpos : 1 ≤ ordinal) (hmax : ordinal ≤ maxOrdinal) :
    OfOrdinal ordinal (ord2ymd ordinal).1 (ord2ymd ordinal).2.1 (ord2ymd ordinal).2.2 := by
  obtain ⟨hsum, ⟨h100, h4⟩, hcentury, ⟨h1, hn⟩, hfourth⟩ := ordinal_parts (ordinal - 1)
  have hordinal := Nat.sub_add_cancel hpos
  rw [← hsum] at hordinal
  clear hsum
  simp only [ord2ymd]
  generalize (ordinal - 1) / 146097 = n400 at *
  generalize (ordinal - 1) % 146097 = r400 at *
  generalize r400 / 36524 = n100 at *
  generalize r400 % 36524 = r100 at *
  generalize hn4 : r100 / 1461 = n4 at *
  generalize hr4 : r100 % 1461 = r4 at *
  generalize hn1 : r4 / 365 = n1 at *
  generalize hn0 : r4 % 365 = n at *
  split
  · next hlast =>
    by_cases h1 : n1 = 4
    · -- the last day of four years
      obtain ⟨hzero, h100, hleap⟩ := hfourth h1
      have hyear : n400 * 400 + 1 + n100 * 100 + n4 * 4 + n1 - 1 =
          n400 * 400 + 1 + n100 * 100 + n4 * 4 + 3 := by omega
      have hlastDay : n400 * 146097 + n100 * 36524 + n4 * 1461 + 1461 = ordinal := by
        linarith only [hordinal, h1, hzero]
      exact ofOrdinal_lastDay (by omega) (by omega) hleap hyear hlastDay hmax
    · -- the last day of four hundred years
      have h100 : n100 = 4 := hlast.resolve_left h1
      have hzero : n4 = 0 ∧ n1 = 0 ∧ n = 0 := by
        have hr100 := hcentury h100
        subst hr100
        rw [← hn4, ← hn1, ← hn0, ← hr4]
        decide
      have hyear : n400 * 400 + 1 + n100 * 100 + n4 * 4 + n1 - 1 =
          n400 * 400 + 1 + 3 * 100 + 24 * 4 + 3 := by omega
      have hlastDay : n400 * 146097 + 3 * 36524 + 24 * 1461 + 1461 = ordinal := by
        linarith only [hordinal, h100, hzero.1, hzero.2.1, hzero.2.2]
      have hthird : 3 < 4 := by decide
      have hlast4 : 24 < 25 := by decide
      exact ofOrdinal_lastDay hthird hlast4 (.inr rfl) hyear hlastDay hmax
  · next hnot =>
    have htoNat : n < 365 + (decide (n1 = 3) && (decide (n4 ≠ 24) || decide (n100 = 3))).toNat := by
      omega
    exact ofOrdinal_cycle (by omega) (by omega) (by omega) htoNat hordinal hmax

example : ord2ymd 738945 = (2024, 2, 29) := by decide

/-! ## Dates -/

/-- `date.fromordinal`. -/
def Date.fromordinal (ordinal : Nat) (hpos : 1 ≤ ordinal) (hmax : ordinal ≤ maxOrdinal) : Date where
  year := (ord2ymd ordinal).1
  month := (ord2ymd ordinal).2.1
  day := (ord2ymd ordinal).2.2
  year_range := (ofOrdinal_ord2ymd hpos hmax).year_range
  month_range := (ofOrdinal_ord2ymd hpos hmax).month_range
  day_range := (ofOrdinal_ord2ymd hpos hmax).day_range

theorem Date.toordinal_fromordinal {ordinal : Nat} (hpos : 1 ≤ ordinal)
    (hmax : ordinal ≤ maxOrdinal) : (Date.fromordinal ordinal hpos hmax).toordinal = ordinal :=
  (ofOrdinal_ord2ymd hpos hmax).ordinal_eq

/-- `date.isoformat`. -/
def Date.isoformat (d : Date) : List Char :=
  fixedDigits 4 d.year ++ '-' :: (fixedDigits 2 d.month ++ '-' :: fixedDigits 2 d.day)

/-- A number of a fixed number of digits, and what follows it. -/
theorem fixedDigits_append_inj {width m n : Nat} {s t : List Char} (hm : m < 10 ^ width)
    (hn : n < 10 ^ width) (h : fixedDigits width m ++ s = fixedDigits width n ++ t) :
    m = n ∧ s = t := by
  obtain ⟨hdigits, hrest⟩ := List.append_inj h (by rw [fixedDigits_length, fixedDigits_length])
  exact ⟨fixedDigits_inj hm hn hdigits, hrest⟩

theorem daysInMonth_lt (leap : Bool) {month : Nat} (h : 1 ≤ month ∧ month ≤ 12) :
    daysInMonth leap month < 10 ^ 2 := by
  have hall : ∀ leap : Bool, ∀ month < 13, daysInMonth leap month < 10 ^ 2 := by decide
  exact hall leap month (by omega)

/-- A date with what follows its text. -/
theorem Date.isoformat_append_inj {d d' : Date} {s t : List Char}
    (h : d.isoformat ++ s = d'.isoformat ++ t) : d = d' ∧ s = t := by
  have hday := d.day_range
  have hday' := d'.day_range
  have hlt := daysInMonth_lt (isLeap d.year) d.month_range
  have hlt' := daysInMonth_lt (isLeap d'.year) d'.month_range
  have hyear := d.year_range
  have hyear' := d'.year_range
  have hmonth := d.month_range
  have hmonth' := d'.month_range
  rw [isoformat, isoformat, List.append_assoc, List.append_assoc] at h
  obtain ⟨hyears, h⟩ := fixedDigits_append_inj (by omega) (by omega) h
  rw [List.cons_append, List.cons_append, List.append_assoc, List.append_assoc] at h
  obtain ⟨hmonths, h⟩ := fixedDigits_append_inj (by omega) (by omega) (List.cons.inj h).2
  rw [List.cons_append, List.cons_append] at h
  obtain ⟨hdays, h⟩ := fixedDigits_append_inj (by omega) (by omega) (List.cons.inj h).2
  refine ⟨?_, h⟩
  obtain ⟨year, month, day, _, _, _⟩ := d
  obtain ⟨year', month', day', _, _, _⟩ := d'
  cases hyears
  cases hmonths
  cases hdays
  rfl

theorem Date.isoformat_inj {d d' : Date} (h : d.isoformat = d'.isoformat) : d = d' := by
  have happend : d.isoformat ++ [] = d'.isoformat ++ [] := by rw [h]
  exact (Date.isoformat_append_inj happend).1

/-! ## Dates with a time of day -/

/-- A naive `datetime`. -/
structure DateTime where
  date : Date
  hour : Nat
  minute : Nat
  second : Nat
  microsecond : Nat
  hour_range : hour < 24
  minute_range : minute < 60
  second_range : second < 60
  microsecond_range : microsecond < 1000000
  deriving DecidableEq

/-- The microseconds of a day. -/
def dayMicroseconds : Nat := 86400 * 1000000

/-- The `timedelta` since the day before the first one, in microseconds. -/
def DateTime.microseconds (t : DateTime) : Nat :=
  (t.date.toordinal * 86400 + (t.hour * 3600 + (t.minute * 60 + t.second))) * 1000000 +
    t.microsecond

/-- A `timedelta` from which `datetime.__add__` makes a time, and raises no `OverflowError`. -/
def InRange (microseconds : Nat) : Prop :=
  1 ≤ microseconds / dayMicroseconds ∧ microseconds / dayMicroseconds ≤ maxOrdinal

instance (microseconds : Nat) : Decidable (InRange microseconds) :=
  inferInstanceAs (Decidable (_ ∧ _))

/-- The second half of `datetime.__add__`. -/
def DateTime.ofMicroseconds (microseconds : Nat) (h : InRange microseconds) : DateTime where
  date := Date.fromordinal (microseconds / dayMicroseconds) h.1 h.2
  hour := microseconds % dayMicroseconds / 1000000 / 3600
  minute := microseconds % dayMicroseconds / 1000000 % 3600 / 60
  second := microseconds % dayMicroseconds / 1000000 % 3600 % 60
  microsecond := microseconds % dayMicroseconds % 1000000
  hour_range := by
    have hlt : microseconds % dayMicroseconds < 86400 * 1000000 := Nat.mod_lt _ (by decide)
    exact Nat.div_lt_of_lt_mul (Nat.div_lt_of_lt_mul (by simpa [Nat.mul_comm] using hlt))
  minute_range := Nat.div_lt_of_lt_mul (Nat.mod_lt _ (by decide))
  second_range := Nat.mod_lt _ (by decide)
  microsecond_range := Nat.mod_lt _ (by decide)

/-- A time of day from its microseconds. -/
theorem microseconds_parts (n : Nat) :
    (n / 1000000 / 3600 * 3600 +
      (n / 1000000 % 3600 / 60 * 60 + n / 1000000 % 3600 % 60)) * 1000000 + n % 1000000 = n := by
  rw [Nat.div_add_mod', Nat.div_add_mod', Nat.div_add_mod']

theorem DateTime.microseconds_ofMicroseconds {n : Nat} (h : InRange n) :
    (ofMicroseconds n h).microseconds = n := by
  have hday := microseconds_parts (n % dayMicroseconds)
  have hdate : (ofMicroseconds n h).date.toordinal = n / dayMicroseconds :=
    Date.toordinal_fromordinal h.1 h.2
  calc (ofMicroseconds n h).microseconds
      = n / dayMicroseconds * dayMicroseconds +
          ((n % dayMicroseconds / 1000000 / 3600 * 3600 +
            (n % dayMicroseconds / 1000000 % 3600 / 60 * 60 +
              n % dayMicroseconds / 1000000 % 3600 % 60)) * 1000000 +
            n % dayMicroseconds % 1000000) := by
        rw [microseconds, hdate, Nat.add_mul, Nat.mul_assoc, Nat.add_assoc]
        rfl
    _ = n / dayMicroseconds * dayMicroseconds + n % dayMicroseconds := by rw [hday]
    _ = n := Nat.div_add_mod' n dayMicroseconds

/-- The microseconds of a time, left out if they are zero. -/
def fraction (microsecond : Nat) : List Char :=
  if microsecond = 0 then [] else '.' :: fixedDigits 6 microsecond

/-- `datetime.isoformat`. -/
def DateTime.isoformat (t : DateTime) : List Char :=
  t.date.isoformat ++ 'T' :: (fixedDigits 2 t.hour ++ ':' :: (fixedDigits 2 t.minute ++
    ':' :: (fixedDigits 2 t.second ++ fraction t.microsecond)))

theorem fraction_inj {m n : Nat} (hm : m < 1000000) (hn : n < 1000000)
    (h : fraction m = fraction n) : m = n := by
  rw [fraction, fraction] at h
  split at h
  · next hzero =>
    split at h
    · next hzero' => rw [hzero, hzero']
    · cases h
  · split at h
    · cases h
    · exact fixedDigits_inj hm hn (List.cons.inj h).2

/-- **A time has a text of its own.** -/
theorem DateTime.isoformat_inj {t t' : DateTime} (h : t.isoformat = t'.isoformat) : t = t' := by
  obtain ⟨date, hour, minute, second, microsecond, h0, h1, h2, h3⟩ := t
  obtain ⟨date', hour', minute', second', microsecond', h0', h1', h2', h3'⟩ := t'
  simp only [isoformat] at h
  obtain ⟨hdate, htime⟩ := Date.isoformat_append_inj h
  obtain ⟨hhour, htime⟩ := fixedDigits_append_inj (by omega) (by omega) (List.cons.inj htime).2
  obtain ⟨hminute, htime⟩ := fixedDigits_append_inj (by omega) (by omega) (List.cons.inj htime).2
  obtain ⟨hsecond, hfraction⟩ :=
    fixedDigits_append_inj (by omega) (by omega) (List.cons.inj htime).2
  cases hdate
  cases hhour
  cases hminute
  cases hsecond
  cases fraction_inj h3 h3' hfraction
  rfl

/-! ## Times with an offset -/

/-- An aware `datetime` that has a time in UTC (`astimezone` raises `OverflowError` otherwise). -/
structure AwareDateTime where
  clock : DateTime
  /-- `utcoffset()`, in microseconds -/
  utcoffset : Int
  utcoffset_range : -dayMicroseconds < utcoffset ∧ utcoffset < dayMicroseconds
  instant_range : 0 ≤ clock.microseconds - utcoffset ∧
    InRange (clock.microseconds - utcoffset).toNat

/-- The time in UTC, in microseconds. Aware times are compared by it. -/
def AwareDateTime.instant (t : AwareDateTime) : Int :=
  t.clock.microseconds - t.utcoffset

/-- `astimezone(UTC)`, without the offset. -/
def AwareDateTime.utc (t : AwareDateTime) : DateTime :=
  .ofMicroseconds t.instant.toNat t.instant_range.2

theorem AwareDateTime.microseconds_utc (t : AwareDateTime) :
    t.utc.microseconds = t.instant.toNat :=
  DateTime.microseconds_ofMicroseconds _

/-- `_format_offset`. -/
def formatOffset (utcoffset : Int) : List Char :=
  let off := utcoffset.natAbs / 1000000
  let microsecond := utcoffset.natAbs % 1000000
  let sign := if utcoffset < 0 then '-' else '+'
  sign :: (fixedDigits 2 (off / 3600) ++ ':' :: (fixedDigits 2 (off % 3600 / 60) ++
    if off % 60 = 0 ∧ microsecond = 0 then []
    else ':' :: (fixedDigits 2 (off % 60) ++ fraction microsecond)))

/-- `isoformat`. -/
def AwareDateTime.isoformat (t : AwareDateTime) : List Char :=
  t.clock.isoformat ++ formatOffset t.utcoffset

/-- `astimezone(UTC).isoformat()`. -/
def AwareDateTime.utcText (t : AwareDateTime) : List Char :=
  t.utc.isoformat ++ formatOffset 0

/-- **The text in UTC is that of the instant**, whatever the offset is. -/
theorem AwareDateTime.utcText_eq_iff {t t' : AwareDateTime} :
    t.utcText = t'.utcText ↔ t.instant = t'.instant := by
  constructor
  · intro h
    have hutc := DateTime.isoformat_inj (List.append_cancel_right h)
    have hmicroseconds := congrArg DateTime.microseconds hutc
    rw [microseconds_utc, microseconds_utc] at hmicroseconds
    calc t.instant
        = t.instant.toNat := (Int.toNat_of_nonneg t.instant_range.1).symm
      _ = t'.instant.toNat := by rw [hmicroseconds]
      _ = t'.instant := Int.toNat_of_nonneg t'.instant_range.1
  · intro h
    simp only [utcText, utc, h]

end Python
