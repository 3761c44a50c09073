import BracketCue.Proofs.Calendar.Gregorian

/-!
# Clocks

In UTC without leap seconds a second passes by the rules of the calendar alone: the time of day goes
on, and at the end of a day the date does. Counting the seconds since the start of 1970 gives each
date and time a number, in the order of their fields from the year down. So a clock that shows the
start of 1970 at zero and goes by these rules has no choice in what it shows: at every number of
seconds it is the date and time that `DateTime.ofUnix` computes for it.

* `seconds_next`: a second later there is one second more.
* `seconds_lt_iff`, `seconds_inj`: earlier is the smaller year, or in one year the smaller month, and
  so on.
* `valid_ofUnix`, `seconds_ofUnix`: the date and time computed for a number of seconds is the one
  with this number.
* `inRange_iff`: the seconds of the years -9999 to 9999.
* `TellsUtc.eq_ofUnix`: what every clock shows.
-/
namespace BracketCue.Calendar

/-- A date of the calendar and a time of day. -/
structure DateTime.Valid (t : DateTime) : Prop where
  date : IsDate t.year t.month t.day
  hour_lt : t.hour < 24
  minute_lt : t.minute < 60
  second_lt : t.second < 60
  millisecond_lt : t.millisecond < 1000

/-- The whole seconds since the start of 1970, before it if negative. -/
def DateTime.seconds (t : DateTime) : Int :=
  86400 * dayNumber t.year t.month t.day + (3600 * t.hour + 60 * t.minute + t.second)

def DateTime.fields (t : DateTime) : List Int :=
  [t.year, t.month, t.day, t.hour, t.minute, t.second, t.millisecond]

/-- The date and time one second later. -/
def DateTime.next (t : DateTime) : DateTime :=
  if t.second < 59 then { t with second := t.second + 1 }
  else if t.minute < 59 then { t with minute := t.minute + 1, second := 0 }
  else if t.hour < 23 then { t with hour := t.hour + 1, minute := 0, second := 0 }
  else
    let (year, month, day) := nextDay t.year t.month t.day
    ⟨year, month, day, 0, 0, 0, t.millisecond⟩

/-! ## A second later -/

section
variable {t t' : DateTime}

theorem DateTime.Valid.next (h : t.Valid) : t.next.Valid := by
  unfold DateTime.next
  split
  · exact ⟨h.date, h.hour_lt, h.minute_lt, by dsimp only; omega, h.millisecond_lt⟩
  split
  · exact ⟨h.date, h.hour_lt, by dsimp only; omega, Nat.succ_pos 59, h.millisecond_lt⟩
  split
  · exact ⟨h.date, by dsimp only; omega, Nat.succ_pos 59, Nat.succ_pos 59, h.millisecond_lt⟩
  · exact ⟨h.date.nextDay, Nat.succ_pos 23, Nat.succ_pos 59, Nat.succ_pos 59, h.millisecond_lt⟩

theorem seconds_next (h : t.Valid) : t.next.seconds = t.seconds + 1 := by
  obtain ⟨date, hour_lt, minute_lt, second_lt, -⟩ := h
  unfold DateTime.next
  split
  · simp only [DateTime.seconds]
    omega
  split
  · simp only [DateTime.seconds]
    omega
  split
  · simp only [DateTime.seconds]
    omega
  · simp only [DateTime.seconds, dayNumber_nextDay date]
    omega

theorem millisecond_next (t : DateTime) : t.next.millisecond = t.millisecond := by
  unfold DateTime.next
  split_ifs <;> rfl

/-! ## Seconds in order -/

theorem seconds_lt_iff (h : t.Valid) (h' : t'.Valid) (same : t.millisecond = t'.millisecond) :
    t.seconds < t'.seconds ↔ t.fields < t'.fields := by
  have lt := dayNumber_lt_iff h.date h'.date
  have eq := dayNumber_inj h.date h'.date
  obtain ⟨-, hour_lt, minute_lt, second_lt, -⟩ := h
  obtain ⟨-, hour_lt', minute_lt', second_lt', -⟩ := h'
  simp only [DateTime.seconds, DateTime.fields, List.cons_lt_cons_iff, List.not_lt_nil,
    and_false, or_false]
  omega

theorem seconds_inj (h : t.Valid) (h' : t'.Valid) (same : t.millisecond = t'.millisecond) :
    t.seconds = t'.seconds ↔ t = t' := by
  refine ⟨fun eq => ?_, fun eq => eq ▸ rfl⟩
  have dates := dayNumber_inj h.date h'.date
  obtain ⟨-, hour_lt, minute_lt, second_lt, -⟩ := h
  obtain ⟨-, hour_lt', minute_lt', second_lt', -⟩ := h'
  simp only [DateTime.seconds] at eq
  obtain ⟨sameDay, sameHour, sameMinute, sameSecond⟩ :
      dayNumber t.year t.month t.day = dayNumber t'.year t'.month t'.day ∧
        t.hour = t'.hour ∧ t.minute = t'.minute ∧ t.second = t'.second := by omega
  obtain ⟨sameYear, sameMonth, sameDate⟩ := dates.1 sameDay
  cases t
  cases t'
  exact DateTime.mk.injEq .. ▸
    ⟨sameYear, sameMonth, sameDate, sameHour, sameMinute, sameSecond, same⟩

/-- The years begin with their first seconds. -/
theorem le_year_iff (h : t.Valid) (year : Int) :
    year ≤ t.year ↔ 86400 * dayNumber year 1 1 ≤ t.seconds := by
  obtain ⟨date, hour_lt, minute_lt, second_lt, -⟩ := h
  have begins : daysBeforeMonth year 1 = 0 := rfl
  have pos := date.day_pos
  simp only [DateTime.seconds, dayNumber, begins]
  constructor
  · intro le
    have := daysBeforeYear_mono le
    omega
  · intro le
    by_contra later
    have := daysBeforeYear_mono (show t.year + 1 ≤ year by omega)
    have := daysBeforeYear_succ t.year
    have := date.inYear
    omega

end

/-! ## The date and time of a number of seconds -/

/-- Day and time of day are quotient and remainder, of negative numbers too. -/
theorem exists_ofUnix_eq (s : Int) :
    ∃ year month day, IsDate year month day ∧ dayNumber year month day = s / 86400 ∧
      DateTime.ofUnix s = ⟨year, month, day, (s % 86400).toNat / 3600,
        (s % 86400).toNat / 60 % 60, (s % 86400).toNat % 60, 0⟩ := by
  obtain ⟨date, number⟩ := dateOfDay_spec (s / 86400 + daysToEpoch)
  obtain ⟨⟨year, month, day⟩, found⟩ : ∃ found, dateOfDay (s / 86400 + daysToEpoch) = found :=
    ⟨_, rfl⟩
  rw [found] at date number
  refine ⟨year, month, day, date, number.trans (Int.add_sub_cancel _ _), ?_⟩
  rw [DateTime.ofUnix, found]

theorem valid_ofUnix (s : Int) : (DateTime.ofUnix s).Valid := by
  obtain ⟨year, month, day, date, -, eq⟩ := exists_ofUnix_eq s
  have time : (s % 86400).toNat < 86400 := by omega
  rw [eq]
  exact ⟨date, by dsimp only; omega, by dsimp only; omega, by dsimp only; omega, Nat.succ_pos 999⟩

theorem millisecond_ofUnix (s : Int) : (DateTime.ofUnix s).millisecond = 0 := by
  obtain ⟨year, month, day, -, -, eq⟩ := exists_ofUnix_eq s
  rw [eq]

theorem seconds_ofUnix (s : Int) : (DateTime.ofUnix s).seconds = s := by
  obtain ⟨year, month, day, -, number, eq⟩ := exists_ofUnix_eq s
  rw [eq, DateTime.seconds, number]
  dsimp only
  omega

theorem ofUnix_seconds {t : DateTime} (h : t.Valid) (whole : t.millisecond = 0) :
    DateTime.ofUnix t.seconds = t :=
  (seconds_inj (valid_ofUnix _) h ((millisecond_ofUnix _).trans whole.symm)).1 (seconds_ofUnix _)

/-- The first second of the year -9999. -/
def firstSecond : Int :=
  DateTime.seconds ⟨-9999, 1, 1, 0, 0, 0, 0⟩

/-- The last second of the year 9999. -/
def lastSecond : Int :=
  DateTime.seconds ⟨9999, 12, 31, 23, 59, 59, 0⟩

/-- A number of seconds in the years -9999 to 9999. -/
def InRange (s : Int) : Prop :=
  firstSecond ≤ s ∧ s ≤ lastSecond

instance (s : Int) : Decidable (InRange s) :=
  inferInstanceAs (Decidable (_ ∧ _))

theorem inRange_iff (s : Int) :
    InRange s ↔ -9999 ≤ (DateTime.ofUnix s).year ∧ (DateTime.ofUnix s).year ≤ 9999 := by
  have from9999 := le_year_iff (valid_ofUnix s) (-9999)
  have from10000 := le_year_iff (valid_ofUnix s) 10000
  rw [seconds_ofUnix] at from9999 from10000
  have first : firstSecond = 86400 * dayNumber (-9999) 1 1 := by decide
  have last : lastSecond + 1 = 86400 * dayNumber 10000 1 1 := by decide
  rw [InRange]
  omega

/-- A conversion of seconds since the start of 1970 to dates and times in UTC, for the years -9999
to 9999: at zero it gives the start of 1970, and from one second to the next it goes on as the
calendar does. -/
structure TellsUtc (utc : Int → DateTime) : Prop where
  epoch : utc 0 = ⟨1970, 1, 1, 0, 0, 0, 0⟩
  valid : ∀ s, InRange s → (utc s).Valid
  tick : ∀ s, InRange s → InRange (s + 1) → utc (s + 1) = (utc s).next

theorem tellsUtc_ofUnix : TellsUtc DateTime.ofUnix where
  epoch := by decide
  valid s _ := valid_ofUnix s
  tick s _ _ := by
    refine (seconds_inj (valid_ofUnix _) (valid_ofUnix s).next ?_).1 ?_
    · rw [millisecond_next, millisecond_ofUnix, millisecond_ofUnix]
    · rw [seconds_next (valid_ofUnix s), seconds_ofUnix, seconds_ofUnix]

/-- There is no choice in what a clock shows, after 1970 and, by going back, before it. -/
theorem TellsUtc.eq_ofUnix {utc : Int → DateTime} (h : TellsUtc utc) {s : Int} (range : InRange s) :
    utc s = DateTime.ofUnix s := by
  have epoch : InRange 0 := by decide
  have between : ∀ {a b c}, InRange a → InRange c → a ≤ b → b ≤ c → InRange b := by
    intro a b c ha hc hab hbc
    exact ⟨Int.le_trans ha.1 hab, Int.le_trans hbc hc.2⟩
  have shows : (utc s).seconds = s ∧ (utc s).millisecond = 0 := by
    rcases Int.le_total 0 s with after | before
    · induction s, after using Int.leInduction with
      | base => exact h.epoch ▸ by decide
      | succ s after ih =>
        have earlier := between epoch range after (by omega)
        obtain ⟨seconds, whole⟩ := ih earlier
        rw [h.tick s earlier range, seconds_next (h.valid s earlier), millisecond_next, seconds]
        exact ⟨rfl, whole⟩
    · induction s, before using Int.leInductionDown with
      | base => exact h.epoch ▸ by decide
      | pred s before ih =>
        have later := between range epoch (show s - 1 ≤ s by omega) before
        obtain ⟨seconds, whole⟩ := ih later
        have tick := h.tick (s - 1) range (by rwa [Int.sub_add_cancel])
        rw [Int.sub_add_cancel] at tick
        rw [tick, seconds_next (h.valid _ range)] at seconds
        rw [tick, millisecond_next] at whole
        exact ⟨by omega, whole⟩
  rw [← ofUnix_seconds (h.valid s range) shows.2, shows.1]

end BracketCue.Calendar
