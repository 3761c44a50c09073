import BracketCue.Proofs.Calendar.Clock
import BracketCue.Proofs.Text.Padded

/-!
# Printed dates and times

The text of a date and time has one numeral for each field, and what stands between numerals is no
digit. So the fields are read back from the text, of every year, whatever the widths of the numerals.
For the years 0 to 9999 each numeral has its own width, and then the texts are ordered as the fields
are, and these as the seconds. Before the year 0 the sign takes one of the four places of the year,
and the texts keep the length but not the order.

* `read_render`: the fields are read back.
* `length_render`, `render_lt_iff`: the texts of the years 0 to 9999 have one length, and the order of
  the fields.
* `printed_faithful_and_sorted`: what every clock in UTC prints.
-/
namespace BracketCue.Calendar

/-- The date and time that a text shows: the numbers in it, of which the first one is the year,
before the year 0 if the text begins with a sign. -/
def DateTime.read (text : Text) : Option DateTime :=
  match Text.numerals text with
  | [year, month, day, hour, minute, second, millisecond] =>
    let sign : Int := if text.head? = some '-' then -1 else 1
    some ⟨sign * year, month, day, hour, minute, second, millisecond⟩
  | _ => none

variable {t t' : DateTime}

/-! ## Reading -/

theorem numerals_render (t : DateTime) :
    Text.numerals t.render =
      [t.year.natAbs, t.month, t.day, t.hour, t.minute, t.second, t.millisecond] := by
  simp only [DateTime.render, padded, Text.numerals_append_cons (show '.'.isDigit = false from rfl),
    Text.numerals_append_cons (show ':'.isDigit = false from rfl),
    Text.numerals_append_cons (show ' '.isDigit = false from rfl),
    Text.numerals_append_cons (show '-'.isDigit = false from rfl),
    Text.numerals_signedDecimal, Text.numerals_zeroPadded, List.cons_append, List.nil_append]

theorem head?_render (t : DateTime) : t.render.head? = some '-' ↔ t.year < 0 := by
  have ne := Text.signedDecimal_ne_nil 4 t.year
  simp only [DateTime.render, List.append_assoc, List.head?_append_of_ne_nil _ ne,
    Text.head?_signedDecimal]

theorem read_render (t : DateTime) : DateTime.read t.render = some t := by
  simp only [DateTime.read, numerals_render, head?_render]
  split_ifs
  · congr
    omega
  · congr
    omega

theorem render_inj : t.render = t'.render ↔ t = t' := by
  refine ⟨fun same => ?_, fun same => same ▸ rfl⟩
  rw [← Option.some.injEq, ← read_render, same, read_render]

/-! ## Order -/

/-- From the year 0 on there is no sign. -/
theorem render_eq (h : 0 ≤ t.year) :
    t.render = padded 4 t.year.toNat ++ '-' :: (padded 2 t.month ++ '-' :: (padded 2 t.day ++
      ' ' :: (padded 2 t.hour ++ ':' :: (padded 2 t.minute ++ ':' :: (padded 2 t.second ++
        '.' :: padded 3 t.millisecond))))) := by
  obtain ⟨n, hn⟩ := Int.eq_ofNat_of_zero_le h
  simp only [DateTime.render, hn, List.append_assoc, List.cons_append]
  rfl

/-- No field but the year can exceed the width of its numeral. -/
theorem DateTime.Valid.fits (h : t.Valid) (last : t.year ≤ 9999) :
    t.year.toNat < 10 ^ 4 ∧ t.month < 10 ^ 2 ∧ t.day < 10 ^ 2 ∧ t.hour < 10 ^ 2 ∧
      t.minute < 10 ^ 2 ∧ t.second < 10 ^ 2 ∧ t.millisecond < 10 ^ 3 := by
  have month := h.date.month_le
  have day := h.date.day_le_31
  have hour := h.hour_lt
  have minute := h.minute_lt
  have second := h.second_lt
  exact ⟨by omega, by omega, by omega, by omega, by omega, by omega, h.millisecond_lt⟩

theorem length_render (h : t.Valid) (first : 0 ≤ t.year) (last : t.year ≤ 9999) :
    t.render.length = 23 := by
  obtain ⟨year, month, day, hour, minute, second, millisecond⟩ := h.fits last
  have two : 0 < 2 := by decide
  simp only [render_eq first, padded, List.length_append, List.length_cons,
    Text.length_zeroPadded_decimal (by decide : 0 < 4) year,
    Text.length_zeroPadded_decimal two month, Text.length_zeroPadded_decimal two day,
    Text.length_zeroPadded_decimal two hour, Text.length_zeroPadded_decimal two minute,
    Text.length_zeroPadded_decimal two second,
    Text.length_zeroPadded_decimal (by decide : 0 < 3) millisecond]

theorem render_lt_iff (h : t.Valid) (h' : t'.Valid) (first : 0 ≤ t.year) (last : t.year ≤ 9999)
    (first' : 0 ≤ t'.year) (last' : t'.year ≤ 9999) :
    t.render < t'.render ↔ t.fields < t'.fields := by
  obtain ⟨year, month, day, hour, minute, second, millisecond⟩ := h.fits last
  obtain ⟨year', month', day', hour', minute', second', millisecond'⟩ := h'.fits last'
  have two : 0 < 2 := by decide
  simp only [render_eq first, render_eq first', padded, DateTime.fields, List.cons_lt_cons_iff,
    Text.zeroPadded_append_lt_iff (by decide : 0 < 4) year year',
    Text.zeroPadded_append_lt_iff two month month', Text.zeroPadded_append_lt_iff two day day',
    Text.zeroPadded_append_lt_iff two hour hour', Text.zeroPadded_append_lt_iff two minute minute',
    Text.zeroPadded_append_lt_iff two second second',
    Text.zeroPadded_lt_iff (by decide : 0 < 3) millisecond millisecond',
    List.not_lt_nil, Char.lt_irrefl, true_and, false_or, and_false, or_false]
  omega

/-! ## Clocks -/

/-- Of a clock in UTC the text that is printed for a number of seconds shows this number: the date
and the time of day that are read in it are so many seconds from the start of 1970. No two numbers
have the same text, and from the year 0 on the texts of one length are ordered as the numbers. -/
theorem printed_faithful_and_sorted {utc : Int → DateTime} (h : TellsUtc utc) :
    (∀ s, InRange s →
      utc s = DateTime.ofUnix s ∧ -9999 ≤ (utc s).year ∧ (utc s).year ≤ 9999 ∧
        (DateTime.read (utc s).render).map DateTime.seconds = some s) ∧
    (∀ s t, InRange s → InRange t → (utc s).render = (utc t).render → s = t) ∧
    ∀ s t, InRange s → InRange t → 0 ≤ (utc s).year → 0 ≤ (utc t).year →
      (utc s).render.length = 23 ∧ (s < t ↔ (utc s).render < (utc t).render) := by
  refine ⟨fun s range => ?_, fun s t range range' same => ?_,
    fun s t range range' year year' => ?_⟩
  · have years := (inRange_iff s).1 range
    rw [h.eq_ofUnix range, read_render, Option.map_some, seconds_ofUnix]
    exact ⟨rfl, years.1, years.2, rfl⟩
  · rw [h.eq_ofUnix range, h.eq_ofUnix range', render_inj] at same
    rw [← seconds_ofUnix s, same, seconds_ofUnix]
  · rw [h.eq_ofUnix range] at year ⊢
    rw [h.eq_ofUnix range'] at year' ⊢
    have year_le := ((inRange_iff s).1 range).2
    have year_le' := ((inRange_iff t).1 range').2
    have order := seconds_lt_iff (valid_ofUnix s) (valid_ofUnix t)
      ((millisecond_ofUnix s).trans (millisecond_ofUnix t).symm)
    rw [seconds_ofUnix, seconds_ofUnix] at order
    exact ⟨length_render (valid_ofUnix s) year year_le,
      order.trans (render_lt_iff (valid_ofUnix s) (valid_ofUnix t) year year_le year' year_le').symm⟩

/-- The last second of 1969 and the first one of a leap day of a full century. -/
theorem printed_faithful_and_sorted_leap_day :
    TellsUtc DateTime.ofUnix ∧
      (DateTime.ofUnix (-1)).render = "1969-12-31 23:59:59.000".toList ∧
      (DateTime.ofUnix 951782400).render = "2000-02-29 00:00:00.000".toList ∧
      (DateTime.read (DateTime.ofUnix (-1)).render).map DateTime.seconds = some (-1) ∧
      (DateTime.ofUnix (-1)).render.length = 23 ∧
      (DateTime.ofUnix (-1)).render < (DateTime.ofUnix 951782400).render := by
  obtain ⟨faithful, -, sorted⟩ := printed_faithful_and_sorted tellsUtc_ofUnix
  have range : InRange (-1) := by decide
  have range' : InRange 951782400 := by decide
  obtain ⟨length, order⟩ := sorted (-1) 951782400 range range' (by decide) (by decide)
  obtain ⟨-, -, -, readBack⟩ := faithful (-1) range
  exact ⟨tellsUtc_ofUnix, by decide, by decide, readBack, length, order.1 (by decide)⟩

end BracketCue.Calendar
