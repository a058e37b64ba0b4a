import FleetLlmd.Go.Time

/-!
# Minutes and months

The start of the minute and of the calendar month an instant lies in, and that
neither goes back while the clock does not. The calendar is the proleptic Gregorian
one, counted in eras of 400 years that begin on a first of March.
-/

namespace FleetLlmd.Go
namespace Time

/-- `t.Truncate(d)`: the last multiple of `d` since the zero time. -/
def truncate (t : Time) (d : Int) : Time := ⟨t.nanos - (t.nanos - zero.nanos) % d, t.offset⟩

def date (year month day : Int) : Time := ⟨daysOfDate year month day * 86400000000000, 0⟩

def minute : Int := 60000000000

/-- `time.Date(t.Year(), t.Month(), 1, 0, 0, 0, 0, time.UTC)`. -/
def monthStart (t : Time) : Time :=
  let d := dateOfDays ((t.nanos / 1000000000 + t.offset) / 86400)
  date d.1 d.2.1 1

/-- `t.Format(time.RFC3339)`, from the year 0 on. -/
def rfc3339 (t : Time) : String :=
  let seconds := t.nanos / 1000000000 + t.offset
  let (year, month, day) := dateOfDays (seconds / 86400)
  let clock := seconds % 86400
  String.ofList (padded 4 year ++ '-' :: padded 2 month ++ '-' :: padded 2 day ++
    'T' :: padded 2 (clock / 3600) ++ ':' :: padded 2 (clock / 60 % 60) ++
    ':' :: padded 2 (clock % 60) ++ zoneText t.offset)

def yearStart (n : Int) : Int := 365 * n + n / 4 - n / 100

def yearOfEra (doe : Int) : Int := (doe - doe / 1460 + doe / 36524 - doe / 146096) / 365

theorem yearOfEra_spec {doe : Int} (h0 : 0 ≤ doe) (h1 : doe < 146097) :
    0 ≤ yearOfEra doe ∧ yearOfEra doe < 400 ∧ yearStart (yearOfEra doe) ≤ doe ∧
      doe ≤ yearStart (yearOfEra doe) + 366 := by
  unfold yearOfEra yearStart
  obtain ⟨g, hg⟩ : ∃ g, doe / 146096 = g := ⟨_, rfl⟩
  obtain ⟨f, hf⟩ : ∃ f, doe / 36524 = f := ⟨_, rfl⟩
  obtain ⟨e, he⟩ : ∃ e, doe / 1460 = e := ⟨_, rfl⟩
  obtain ⟨b, hb⟩ : ∃ b, (doe - e + f - g) / 365 = b := ⟨_, rfl⟩
  rw [hg, hf, he, hb]
  have hcentury : f = 0 ∨ f = 1 ∨ f = 2 ∨ f = 3 ∨ f = 4 := by omega
  have hb0 : 0 ≤ b ∧ b < 400 := by omega
  have hb100 : b / 100 = f ∨ b / 100 = f - 1 := by omega
  refine ⟨hb0.1, hb0.2, ?_, ?_⟩
  · have hcycle : b % 4 = 0 ∨ b % 4 = 1 ∨ b % 4 = 2 ∨ b % 4 = 3 := by omega
    rcases hcentury with rfl | rfl | rfl | rfl | rfl <;> rcases hcycle with h | h | h | h <;> omega
  · rcases hcentury with rfl | rfl | rfl | rfl | rfl <;> omega

theorem yearOfEra_mono {doe doe' : Int} (h : doe ≤ doe') :
    yearOfEra doe ≤ yearOfEra doe' := by
  have hcycle : doe - doe / 1460 ≤ doe' - doe' / 1460 := by omega
  have hcentury : doe / 36524 ≤ doe' / 36524 := Int.ediv_le_ediv (by decide) h
  have hera : doe / 36524 - doe / 146096 ≤ doe' / 36524 - doe' / 146096 := by omega
  exact Int.ediv_le_ediv (by decide) (by omega)

theorem daysOfDate_monthStart (days : Int) :
    daysOfDate (dateOfDays days).1 (dateOfDays days).2.1 1 =
      (days + 719468) / 146097 * 146097 - 719468 + yearStart (yearOfEra ((days + 719468) % 146097))
        + (153 * ((5 * ((days + 719468) % 146097 -
          yearStart (yearOfEra ((days + 719468) % 146097))) + 2) / 153) + 2) / 5 := by
  have hdoe : 0 ≤ (days + 719468) % 146097 ∧ (days + 719468) % 146097 < 146097 := by omega
  obtain ⟨hyear0, hyear1, hlow, hhigh⟩ := yearOfEra_spec hdoe.1 hdoe.2
  unfold daysOfDate dateOfDays
  simp only [← yearOfEra.eq_1, ← yearStart.eq_1]
  have hstart : yearStart (yearOfEra ((days + 719468) % 146097)) =
    365 * yearOfEra ((days + 719468) % 146097) + yearOfEra ((days + 719468) % 146097) / 4 -
      yearOfEra ((days + 719468) % 146097) / 100 := rfl
  generalize yearOfEra ((days + 719468) % 146097) = year at *
  generalize (days + 719468) / 146097 = era
  generalize (days + 719468) % 146097 = doe at *
  have hmonth : 0 ≤ (5 * (doe - yearStart year) + 2) / 153 ∧
    (5 * (doe - yearStart year) + 2) / 153 ≤ 11 := by omega
  generalize (5 * (doe - yearStart year) + 2) / 153 = month at *
  have hera : (year + era * 400) / 400 = era := by omega
  have hyear : (year + era * 400) % 400 = year := by omega
  by_cases hlate : month < 10
  · have hspring : ¬ month + 3 ≤ 2 := by omega
    have hmarch : 2 < month + 3 := by omega
    simp only [if_pos hlate, if_neg hspring, if_pos hmarch, Int.add_zero, hera, hyear]
    omega
  · have hwinter : month - 9 ≤ 2 := by omega
    have hmarch : ¬ 2 < month - 9 := by omega
    simp only [if_neg hlate, if_pos hwinter, if_neg hmarch, Int.add_sub_cancel, hera, hyear]
    omega

theorem daysOfDate_monthStart_mono {d d' : Int} (h : d ≤ d') :
    daysOfDate (dateOfDays d).1 (dateOfDays d).2.1 1 ≤
      daysOfDate (dateOfDays d').1 (dateOfDays d').2.1 1 := by
  rw [daysOfDate_monthStart, daysOfDate_monthStart]
  have hdoe : 0 ≤ (d + 719468) % 146097 ∧ (d + 719468) % 146097 < 146097 := by omega
  have hdoe' : 0 ≤ (d' + 719468) % 146097 ∧ (d' + 719468) % 146097 < 146097 := by omega
  have hyear := @yearOfEra_mono ((d + 719468) % 146097) ((d' + 719468) % 146097)
  obtain ⟨hyear0, hyear1, hlow, hhigh⟩ := yearOfEra_spec hdoe.1 hdoe.2
  obtain ⟨hyear0', hyear1', hlow', hhigh'⟩ := yearOfEra_spec hdoe'.1 hdoe'.2
  generalize yearOfEra ((d + 719468) % 146097) = year at *
  generalize yearOfEra ((d' + 719468) % 146097) = year' at *
  have hcases : (d + 719468) / 146097 < (d' + 719468) / 146097 ∨
      (d + 719468) / 146097 = (d' + 719468) / 146097 ∧
        (d + 719468) % 146097 ≤ (d' + 719468) % 146097 := by omega
  generalize (d + 719468) / 146097 = era at *
  generalize (d + 719468) % 146097 = doe at *
  generalize (d' + 719468) / 146097 = era' at *
  generalize (d' + 719468) % 146097 = doe' at *
  have hmonth : (153 * ((5 * (doe - yearStart year) + 2) / 153) + 2) / 5 ≤ doe - yearStart year ∧
    (153 * ((5 * (doe - yearStart year) + 2) / 153) + 2) / 5 ≤ 337 := by omega
  have hmonth' : 0 ≤ (153 * ((5 * (doe' - yearStart year') + 2) / 153) + 2) / 5 := by omega
  rcases hcases with hera | ⟨rfl, hle⟩
  · have : 0 ≤ yearStart year' := by unfold yearStart; omega
    omega
  · rcases Int.lt_or_eq_of_le (hyear hle) with hlt | rfl
    · have : yearStart year + 365 ≤ yearStart year' := by unfold yearStart; omega
      omega
    · have hle' : (5 * (doe - yearStart year) + 2) / 153 ≤ (5 * (doe' - yearStart year) + 2) / 153 :=
        Int.ediv_le_ediv (by decide) (by omega)
      omega

theorem monthStart_mono {t u : Time} (h : t.nanos ≤ u.nanos) :
    t.utc.monthStart.nanos ≤ u.utc.monthStart.nanos := by
  have hdays : (t.nanos / 1000000000 + 0) / 86400 ≤ (u.nanos / 1000000000 + 0) / 86400 := by
    omega
  have hstart := daysOfDate_monthStart_mono hdays
  exact Int.mul_le_mul_of_nonneg_right hstart (by decide)

theorem truncate_eq (t : Time) (d : Int) :
    (t.truncate d).nanos = zero.nanos + d * ((t.nanos - zero.nanos) / d) := by
  have hdiv := Int.emod_add_mul_ediv (t.nanos - zero.nanos) d
  unfold truncate
  dsimp only
  omega

theorem truncate_mono {t u : Time} {d : Int} (hd : 0 < d) (h : t.nanos ≤ u.nanos) :
    (t.truncate d).nanos ≤ (u.truncate d).nanos := by
  rw [truncate_eq, truncate_eq]
  have hdiv : (t.nanos - zero.nanos) / d ≤ (u.nanos - zero.nanos) / d :=
    Int.ediv_le_ediv hd (by omega)
  have hmul := Int.mul_le_mul_of_nonneg_left hdiv (Int.le_of_lt hd)
  omega

end Time
end FleetLlmd.Go
