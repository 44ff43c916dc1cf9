import ImBridge.Encoding.Decimal

/-!
# Timestamps

The database keeps points in time as texts and compares them as such. A text names the second with
numbers of fixed width, and then the fraction of the second without the zeros at its end. Points in
different seconds are ordered as their texts are. Within a second, a text whose fraction continues
the one of another text comes before it, although it names a later point: `Z` comes after the digits
and after the point.

## Main definitions

* `UtcDateTime`: a date and time in the years 0 to 9999
* `UtcDateTime.instant`: its place on the time line
* `UtcDateTime.nowRfc3339`: its text
* `UtcDateTime.WellOrdered`: neither fraction continues the other one

## Main results

* `UtcDateTime.nowRfc3339_lt_iff`: the order of the texts
* `timestamps_order`: texts are ordered as the points in time are, exactly if these are well ordered
* `timestamps_reversed`: two texts in the wrong order
-/

namespace ImBridge

open Encoding

/-! ## Calendar dates -/

def isLeapYear (year : ℕ) : Bool := year % 4 == 0 && (year % 100 != 0 || year % 400 == 0)

def monthLengths (year : ℕ) : List ℕ :=
  [31, if isLeapYear year then 29 else 28, 31, 30, 31, 30, 31, 31, 30, 31, 30, 31]

/-- The month, and the day in it, of a day that is counted through months of these lengths. -/
def monthDay : List ℕ → ℕ → ℕ × ℕ
  | [], day => (1, day)
  | length :: lengths, day =>
    if day ≤ length then (1, day)
    else ((monthDay lengths (day - length)).1 + 1, (monthDay lengths (day - length)).2)

/-- The days in the years before this one, from year 0 on. -/
def daysBeforeYear : ℕ → ℕ
  | 0 => 0
  | year + 1 => daysBeforeYear year + (monthLengths year).sum

theorem daysBeforeYear_lt {year year' : ℕ} (h : year < year') :
    daysBeforeYear year + (monthLengths year).sum ≤ daysBeforeYear year' := by
  have hmono : Monotone daysBeforeYear := monotone_nat_of_le_succ fun y => Nat.le_add_right _ _
  exact hmono h

theorem monthDay_fst_le (lengths : List ℕ) (day : ℕ) :
    (monthDay lengths day).1 ≤ lengths.length + 1 := by
  induction lengths generalizing day with
  | nil => simp [monthDay]
  | cons length lengths ih =>
    simp only [monthDay]
    split
    · simp
    · simpa using ih (day - length)

theorem monthDay_snd_le {lengths : List ℕ} {day bound : ℕ} (hday : day ≤ lengths.sum)
    (hbound : ∀ length ∈ lengths, length ≤ bound) : (monthDay lengths day).2 ≤ bound := by
  induction lengths generalizing day with
  | nil =>
    simp only [List.sum_nil, Nat.le_zero_eq] at hday
    simp [monthDay, hday]
  | cons length lengths ih =>
    simp only [monthDay]
    split
    · rename_i hle
      exact hle.trans (hbound length List.mem_cons_self)
    · rw [List.sum_cons] at hday
      exact ih (by omega) fun l hl => hbound l (List.mem_cons_of_mem _ hl)

/-- A later day is in a later month, or later in the same one. -/
theorem monthDay_lt (lengths : List ℕ) {day day' : ℕ} (h : day < day') :
    (monthDay lengths day).1 < (monthDay lengths day').1 ∨
      ((monthDay lengths day).1 = (monthDay lengths day').1 ∧
        (monthDay lengths day).2 < (monthDay lengths day').2) := by
  induction lengths generalizing day day' with
  | nil => exact .inr ⟨rfl, h⟩
  | cons length lengths ih =>
    have hpos : ∀ d, 1 ≤ (monthDay lengths d).1 := by
      intro d
      cases lengths with
      | nil => simp [monthDay]
      | cons l ls => simp only [monthDay]; split <;> simp
    simp only [monthDay]
    split
    · split
      · exact .inr ⟨rfl, h⟩
      · exact .inl (Nat.succ_lt_succ (hpos (day' - length)))
    · split
      · omega
      · have hlt : day - length < day' - length := by omega
        simpa using ih hlt

/-- A number whose last digit, to the base `n`, is split off. -/
theorem radix_lt_iff (a a' : ℕ) {n b b' : ℕ} (hb : b < n) (hb' : b' < n) (R : Prop) :
    (a < a' ∨ a = a' ∧ (b < b' ∨ b = b' ∧ R)) ↔
      a * n + b < a' * n + b' ∨ a * n + b = a' * n + b' ∧ R := by
  rcases lt_trichotomy a a' with h | h | h
  · have hmul : (a + 1) * n ≤ a' * n := Nat.mul_le_mul_right n h
    rw [Nat.succ_mul] at hmul
    have hlt : a * n + b < a' * n + b' := by omega
    simp [h, hlt]
  · subst h
    simp
  · have hmul : (a' + 1) * n ≤ a * n := Nat.mul_le_mul_right n h
    rw [Nat.succ_mul] at hmul
    have hlt : a' * n + b' < a * n + b := by omega
    simp [h.not_gt, h.ne', hlt.not_gt, hlt.ne']

/-! ## Dates and times -/

/-- A date and time in UTC, in the years that the format has room for. -/
structure UtcDateTime where
  year : ℕ
  ordinal : ℕ
  hour : ℕ
  minute : ℕ
  second : ℕ
  nanosecond : ℕ
  year_lt : year < 10000
  ordinal_pos : 0 < ordinal
  ordinal_le : ordinal ≤ (monthLengths year).sum
  hour_lt : hour < 24
  minute_lt : minute < 60
  second_lt : second < 60
  nanosecond_lt : nanosecond < 10 ^ 9

namespace UtcDateTime

def month (t : UtcDateTime) : ℕ := (monthDay (monthLengths t.year) t.ordinal).1

def day (t : UtcDateTime) : ℕ := (monthDay (monthLengths t.year) t.ordinal).2

/-- The days before this one, from the beginning of year 0 on. -/
def days (t : UtcDateTime) : ℕ := daysBeforeYear t.year + (t.ordinal - 1)

/-- The seconds before this one. -/
def seconds (t : UtcDateTime) : ℕ := ((t.days * 24 + t.hour) * 60 + t.minute) * 60 + t.second

/-- The nanoseconds from the beginning of year 0 on. -/
def instant (t : UtcDateTime) : ℕ := t.seconds * 10 ^ 9 + t.nanosecond

/-- The digits of the fraction of the second, without the zeros at the end. -/
def fractionDigits (t : UtcDateTime) : List Char := fraction 9 t.nanosecond

/-- The end of the text: the fraction of the second, if there is one, and the zone. -/
def ending (digits : List Char) : List Char :=
  match digits with
  | [] => ['Z']
  | digit :: digits => '.' :: digit :: digits ++ ['Z']

/-- The text that `now_rfc3339` gives at this time. -/
def nowRfc3339 (t : UtcDateTime) : String :=
  String.ofList (pad 4 t.year ++ '-' :: (pad 2 t.month ++ '-' :: (pad 2 t.day ++ 'T' ::
    (pad 2 t.hour ++ ':' :: (pad 2 t.minute ++ ':' :: (pad 2 t.second ++
      ending t.fractionDigits))))))

variable (t t' : UtcDateTime)

theorem month_lt : t.month < 100 := by
  have h := monthDay_fst_le (monthLengths t.year) t.ordinal
  simp only [monthLengths, List.length_cons, List.length_nil] at h
  simp only [month, monthLengths]
  omega

theorem day_lt : t.day < 100 := by
  have h : t.day ≤ 31 := by
    refine monthDay_snd_le t.ordinal_le fun length hlength => ?_
    simp only [monthLengths, List.mem_cons, List.not_mem_nil, or_false] at hlength
    split at hlength <;> omega
  omega

/-- The parts of a date are compared one after the other. -/
theorem days_lt_iff (R : Prop) :
    (t.year < t'.year ∨ t.year = t'.year ∧ (t.month < t'.month ∨ t.month = t'.month ∧
      (t.day < t'.day ∨ t.day = t'.day ∧ R))) ↔ t.days < t'.days ∨ t.days = t'.days ∧ R := by
  have hpos := t.ordinal_pos
  have hpos' := t'.ordinal_pos
  have hle := t.ordinal_le
  have hle' := t'.ordinal_le
  rcases lt_trichotomy t.year t'.year with hyear | hyear | hyear
  · have hdays := daysBeforeYear_lt hyear
    have hlt : t.days < t'.days := by unfold days; omega
    simp [hyear, hlt]
  · -- within a year the days are counted through the months
    have hsame : t.ordinal = t'.ordinal → t.month = t'.month ∧ t.day = t'.day := by
      intro h
      simp [month, day, hyear, h]
    have hlater : t.ordinal < t'.ordinal →
        t.month < t'.month ∨ t.month = t'.month ∧ t.day < t'.day := by
      intro h
      simpa only [month, day, hyear] using monthDay_lt (monthLengths t'.year) h
    have hearlier : t'.ordinal < t.ordinal →
        t'.month < t.month ∨ t'.month = t.month ∧ t'.day < t.day := by
      intro h
      simpa only [month, day, hyear] using monthDay_lt (monthLengths t'.year) h
    have hlt : t.days < t'.days ↔ t.ordinal < t'.ordinal := by unfold days; rw [hyear]; omega
    have heq : t.days = t'.days ↔ t.ordinal = t'.ordinal := by unfold days; rw [hyear]; omega
    rw [hlt, heq]
    rcases lt_trichotomy t.ordinal t'.ordinal with h | h | h
    · have := hlater h
      omega
    · obtain ⟨hmonth, hday⟩ := hsame h
      simp [hyear, hmonth, hday, h]
    · have := hearlier h
      omega
  · have hdays := daysBeforeYear_lt hyear
    have hlt : t'.days < t.days := by unfold days; omega
    simp [hyear.not_gt, hyear.ne', hlt.not_gt, hlt.ne']

/-- **The order of the texts**: by the second, and then by what follows it. -/
theorem nowRfc3339_lt_iff :
    t.nowRfc3339 < t'.nowRfc3339 ↔ t.seconds < t'.seconds ∨ (t.seconds = t'.seconds ∧
      ending t.fractionDigits < ending t'.fractionDigits) := by
  have hhour := t.hour_lt
  have hhour' := t'.hour_lt
  have hminute := t.minute_lt
  have hminute' := t'.minute_lt
  have hsecond := t.second_lt
  have hsecond' := t'.second_lt
  simp only [nowRfc3339, String.lt_iff, String.toList_ofList]
  rw [pad_append_lt_iff t.year_lt t'.year_lt, List.cons_lt_cons_iff,
    pad_append_lt_iff (by have := t.month_lt; omega) (by have := t'.month_lt; omega),
    List.cons_lt_cons_iff,
    pad_append_lt_iff (by have := t.day_lt; omega) (by have := t'.day_lt; omega),
    List.cons_lt_cons_iff, pad_append_lt_iff (by omega) (by omega), List.cons_lt_cons_iff,
    pad_append_lt_iff (by omega) (by omega), List.cons_lt_cons_iff,
    pad_append_lt_iff (by omega) (by omega)]
  simp only [lt_irrefl, false_or, true_and]
  rw [days_lt_iff, radix_lt_iff _ _ hhour hhour', radix_lt_iff _ _ hminute hminute',
    radix_lt_iff _ _ hsecond hsecond']
  rfl

theorem fractionDigits_le : ∀ c ∈ t.fractionDigits, c ≤ '9' := fun _ hc => (mem_fraction hc).2

theorem ending_lt_of_prefix {d d' : List Char} (hdigits : ∀ c ∈ d', c ≤ '9') (hne : d ≠ d')
    (h : d <+: d') : ending d' < ending d := by
  obtain ⟨rest, rfl⟩ := h
  cases rest with
  | nil => simp at hne
  | cons c rest =>
    have hc : c < 'Z' := (hdigits c (by simp)).trans_lt (by decide)
    cases d with
    | nil =>
      rw [List.nil_append, ending, ending, List.cons_append, List.cons_lt_cons_iff]
      exact .inl (by decide)
    | cons digit d =>
      simp only [ending, List.cons_append, List.append_assoc, List.cons_lt_cons_iff, lt_irrefl,
        false_or, true_and, append_left_lt_iff]
      exact .inl hc

theorem ending_lt_of_parting {m n : ℕ} (hm : m < 10 ^ 9) (hn : n < 10 ^ 9)
    (hmn : ¬ fraction 9 m <+: fraction 9 n) (hnm : ¬ fraction 9 n <+: fraction 9 m) :
    ending (fraction 9 m) < ending (fraction 9 n) ↔ m < n := by
  have hnonempty : ∀ d : List Char, d ≠ [] → ending d = '.' :: (d ++ ['Z']) := by
    intro d hd
    cases d with
    | nil => exact absurd rfl hd
    | cons c d => rfl
  have hm0 : fraction 9 m ≠ [] := fun h => hmn (by rw [h]; exact List.nil_prefix)
  have hn0 : fraction 9 n ≠ [] := fun h => hnm (by rw [h]; exact List.nil_prefix)
  rw [hnonempty _ hm0, hnonempty _ hn0, List.cons_lt_cons_iff,
    fraction_append_lt_iff hm hn hmn hnm]
  simp

/-- Points in one second have the same fraction, or fractions of which neither continues the
other one. -/
def WellOrdered (t t' : UtcDateTime) : Prop :=
  t.seconds = t'.seconds → t.nanosecond ≠ t'.nanosecond →
    ¬ t.fractionDigits <+: t'.fractionDigits ∧ ¬ t'.fractionDigits <+: t.fractionDigits

theorem instant_lt_iff : t.instant < t'.instant ↔ t.seconds < t'.seconds ∨
    (t.seconds = t'.seconds ∧ t.nanosecond < t'.nanosecond) := by
  have h := radix_lt_iff t.seconds t'.seconds t.nanosecond_lt t'.nanosecond_lt False
  simpa [instant] using h.symm

/-- Within a second the ends are ordered as the points in time are, exactly if neither fraction
continues the other one. -/
theorem ending_lt_iff_of_ne (hne : t.nanosecond ≠ t'.nanosecond) :
    (t.nanosecond < t'.nanosecond ↔ ending t.fractionDigits < ending t'.fractionDigits) ↔
      ¬ t.fractionDigits <+: t'.fractionDigits ∧ ¬ t'.fractionDigits <+: t.fractionDigits := by
  have hdigits : t.fractionDigits ≠ t'.fractionDigits := fun h =>
    hne (fraction_inj t.nanosecond_lt t'.nanosecond_lt h)
  by_cases hbegins : t.fractionDigits <+: t'.fractionDigits
  · -- the earlier point has the greater text
    have hle := le_of_fraction_prefix t.nanosecond_lt t'.nanosecond_lt hbegins
    have hlt := ending_lt_of_prefix t'.fractionDigits_le hdigits hbegins
    simp [hbegins, lt_of_le_of_ne hle hne, hlt.le]
  · by_cases hbegins' : t'.fractionDigits <+: t.fractionDigits
    · have hle := le_of_fraction_prefix t'.nanosecond_lt t.nanosecond_lt hbegins'
      have hlt := ending_lt_of_prefix t.fractionDigits_le hdigits.symm hbegins'
      simp [hbegins', hle.not_gt, hlt]
    · have hiff : ending t.fractionDigits < ending t'.fractionDigits ↔
          t.nanosecond < t'.nanosecond :=
        ending_lt_of_parting t.nanosecond_lt t'.nanosecond_lt hbegins hbegins'
      simp [hbegins, hbegins', hiff]

end UtcDateTime

/-- **Texts are ordered as the points in time are**, exactly if these are well ordered. -/
theorem timestamps_order (t t' : UtcDateTime) :
    (t.instant < t'.instant ↔ t.nowRfc3339 < t'.nowRfc3339) ↔ t.WellOrdered t' := by
  rw [t.instant_lt_iff, t.nowRfc3339_lt_iff, UtcDateTime.WellOrdered]
  by_cases hseconds : t.seconds = t'.seconds
  · by_cases hnanosecond : t.nanosecond = t'.nanosecond
    · have hdigits : t.fractionDigits = t'.fractionDigits := by
        simp [UtcDateTime.fractionDigits, hnanosecond]
      simp [hseconds, hnanosecond, hdigits]
    · simpa [hseconds, hnanosecond] using t.ending_lt_iff_of_ne t' hnanosecond
  · simp [hseconds]

/-- The beginning of the year 2026, and so many nanoseconds later. -/
def newYear (nanosecond : ℕ) (h : nanosecond < 10 ^ 9) : UtcDateTime where
  year := 2026
  ordinal := 1
  hour := 0
  minute := 0
  second := 0
  nanosecond := nanosecond
  year_lt := by decide
  ordinal_pos := by decide
  ordinal_le := by decide
  hour_lt := by decide
  minute_lt := by decide
  second_lt := by decide
  nanosecond_lt := h

/-- **Two texts in the wrong order**: half a second after a full second. -/
theorem timestamps_reversed :
    (newYear 0 (by decide)).instant < (newYear 500000000 (by decide)).instant ∧
    (newYear 0 (by decide)).nowRfc3339 = "2026-01-01T00:00:00Z" ∧
    (newYear 500000000 (by decide)).nowRfc3339 = "2026-01-01T00:00:00.5Z" ∧
    (newYear 500000000 (by decide)).nowRfc3339 < (newYear 0 (by decide)).nowRfc3339 := by
  refine ⟨?_, by decide +kernel, by decide +kernel, by decide +kernel⟩
  rw [UtcDateTime.instant_lt_iff]
  exact .inr ⟨by simp only [UtcDateTime.seconds, UtcDateTime.days, newYear], by decide⟩

end ImBridge
