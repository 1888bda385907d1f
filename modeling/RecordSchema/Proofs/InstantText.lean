import Mathlib.Algebra.Group.Nat.Defs
import RecordSchema.Instant.Rfc3339
import RecordSchema.Text.Identifier

/-!
# Reading the text of an instant

The text of an instant of one of the years 0 to 9999 stands for the instant, cut to the
millisecond (`parse?_text`). The text of any other instant starts with a sign, and no instant is
read from it (`parse?_text_eq_none`).
-/

namespace RecordSchema.Instant

/-- The year of the instant is one that is written in four digits. -/
def HasPlainYear (i : Instant) : Prop :=
  0 ≤ i.day.year ∧ i.day.year ≤ 9999

instance (i : Instant) : Decidable i.HasPlainYear :=
  inferInstanceAs (Decidable (_ ∧ _))

/-- The instant without what is finer than a millisecond. -/
def toMillis (i : Instant) : Instant where
  day := i.day
  time := { i.time with nano := i.time.nano / 1000000 * 1000000 }
  day_exists := i.day_exists
  time_exists := by
    obtain ⟨hhour, hminute, hsecond, hnano⟩ := i.time_exists
    exact ⟨hhour, hminute, hsecond, Nat.lt_of_le_of_lt (Nat.div_mul_le_self _ _) hnano⟩

/-- What is finer than a millisecond is not written. -/
theorem textChars_toMillis (i : Instant) : i.toMillis.textChars = i.textChars := by
  rw [textChars, textChars, toMillis, Nat.mul_div_cancel _ (by decide)]

/-- An instant of whole milliseconds has nothing to cut. -/
theorem toMillis_eq_self {i : Instant} (h : i.time.nano % 1000000 = 0) : i.toMillis = i := by
  obtain ⟨day, ⟨hour, minute, second, nano⟩, hday, htime⟩ := i
  have hnano : nano / 1000000 * 1000000 = nano := Nat.div_mul_cancel (Nat.dvd_of_mod_eq_zero h)
  simp only [toMillis, hnano]

/-! ## Digits -/

/-- A number below a power of ten is padded to the exponent. -/
theorem length_padded {width n : Nat} (hwidth : 0 < width) (h : n < 10 ^ width) :
    (padded width n).length = width := by
  have hlength : (Nat.toDigits 10 n).length ≤ width :=
    (Nat.length_toDigits_le_iff (by decide) hwidth).mpr h
  simp only [padded, List.length_append, List.length_replicate]
  omega

theorem isDigit_of_mem_padded (width n : Nat) {c : Char} (h : c ∈ padded width n) : c.isDigit := by
  rw [padded, List.mem_append] at h
  rcases h with hzero | hdigit
  · rw [List.eq_of_mem_replicate hzero]
    decide
  · exact Nat.isDigit_of_mem_toDigits (by decide) (by decide) hdigit

/-- Padded digits have the value of the number. -/
theorem ofDigitChars_padded (width n : Nat) : Nat.ofDigitChars 10 (padded width n) 0 = n := by
  rw [padded, Nat.ofDigitChars_append, Nat.ofDigitChars_replicate_zero, Nat.mul_zero,
    Nat.ofDigitChars_ten_toDigits]

/-- A number of digits is read as the value that they add to what was read before. -/
theorem digits?_append {digits : List Char} (hdigits : ∀ c ∈ digits, c.isDigit) (value : Nat)
    (rest : List Char) :
    digits? digits.length value (digits ++ rest) =
      some (Nat.ofDigitChars 10 digits value, rest) := by
  induction digits generalizing value with
  | nil => simp [digits?]
  | cons c digits ih =>
      obtain ⟨hc, hdigits⟩ := List.forall_mem_cons.mp hdigits
      simp only [List.length_cons, List.cons_append, digits?, digit?, if_pos hc]
      exact (ih hdigits _).trans (congrArg (fun n => some (n, rest)) Nat.ofDigitChars_cons.symm)

/-- A padded number is read again. -/
theorem digits?_padded {width n : Nat} (hwidth : 0 < width) (h : n < 10 ^ width)
    (rest : List Char) : digits? width 0 (padded width n ++ rest) = some (n, rest) := by
  have hdigits := digits?_append (fun _ => isDigit_of_mem_padded width n) 0 rest
  rwa [length_padded hwidth h, ofDigitChars_padded] at hdigits

/-- Three digits behind the point are read as milliseconds. -/
theorem fraction?_padded {n : Nat} (h : n < 1000) (rest : List Char) :
    fraction? (padded 3 n ++ 'Z' :: rest) = some (n * 1000000, 'Z' :: rest) := by
  have hdigits : ∀ c ∈ padded 3 n, c.isDigit := fun _ => isDigit_of_mem_padded 3 n
  have hlength : (padded 3 n).length = 3 := length_padded (by decide) h
  have htake : (padded 3 n ++ 'Z' :: rest).takeWhile Char.isDigit = padded 3 n := by
    rw [List.takeWhile_append_of_pos hdigits]
    simp
  have hdrop : (padded 3 n ++ 'Z' :: rest).dropWhile Char.isDigit = 'Z' :: rest := by
    rw [List.dropWhile_append_of_pos hdigits]
    simp
  have hkept : (padded 3 n).take 9 = padded 3 n := List.take_of_length_le (by omega)
  have hvalue : (padded 3 n).foldl (fun m c ↦ 10 * m + (c.toNat - '0'.toNat)) 0 = n :=
    Nat.ofDigitChars_eq_foldl.symm.trans (ofDigitChars_padded 3 n)
  -- Nine digits are kept, so three are all kept and six powers of ten are missing.
  have hnonempty : ¬ (padded 3 n).isEmpty := by
    rw [List.isEmpty_iff_length_eq_zero, hlength]
    decide
  simp only [fraction?, htake, hdrop, hkept, hvalue, hlength, if_neg hnonempty]
  rfl

/-! ## Days, times and instants -/

theorem daysInMonth_le (year : Int) (month : Nat) : daysInMonth year month ≤ 31 := by
  unfold daysInMonth
  split <;> first | decide | (split <;> decide)

/-- Only the numbers from one to twelve are months. -/
theorem le_of_daysInMonth_pos {year : Int} {month : Nat} (h : 0 < daysInMonth year month) :
    month ≤ 12 := by
  unfold daysInMonth at h
  split at h <;> omega

/-- A day of a year of four digits is read as it is written. -/
theorem day?_append {d : CalendarDay} (hd : d.Exists) (hyear : 0 ≤ d.year ∧ d.year ≤ 9999)
    (rest : List Char) :
    day? (yearText d.year ++ '-' :: (padded 2 d.month ++ '-' :: (padded 2 d.day ++ rest))) =
      some (d, rest) := by
  obtain ⟨hfirst, hlast⟩ := hd
  have hmonth : d.month < 10 ^ 2 := by
    have := le_of_daysInMonth_pos (Nat.lt_of_lt_of_le hfirst hlast)
    omega
  have hday : d.day < 10 ^ 2 := by
    have := daysInMonth_le d.year d.month
    omega
  have hplain : d.year.toNat < 10 ^ 4 := by omega
  have hcast : (d.year.toNat : Int) = d.year := Int.toNat_of_nonneg hyear.1
  simp [day?, yearText, hyear, after?, digits?_padded (Nat.succ_pos 3) hplain,
    digits?_padded (Nat.succ_pos 1) hmonth, digits?_padded (Nat.succ_pos 1) hday, hcast]

/-- A time of day is read as it is written, that is to the millisecond. -/
theorem time?_append {t : TimeOfDay} (ht : t.Exists) (rest : List Char) :
    time? (padded 2 t.hour ++ ':' :: (padded 2 t.minute ++ ':' :: (padded 2 t.second ++
      '.' :: (padded 3 (t.nano / 1000000) ++ 'Z' :: rest)))) =
        some ({ t with nano := t.nano / 1000000 * 1000000 }, 'Z' :: rest) := by
  obtain ⟨hhour, hminute, hsecond, hnano⟩ := ht
  have hmillis : t.nano / 1000000 < 1000 := by omega
  have hhour : t.hour < 10 ^ 2 := by omega
  have hminute : t.minute < 10 ^ 2 := by omega
  have hsecond : t.second < 10 ^ 2 := by omega
  simp [time?, after?, digits?_padded (Nat.succ_pos 1) hhour,
    digits?_padded (Nat.succ_pos 1) hminute, digits?_padded (Nat.succ_pos 1) hsecond,
    fraction?_padded hmillis]

/-- A clock that shows universal time shows the instant itself. -/
theorem ofLocal?_zero (i : Instant) : ofLocal? i.day i.time 0 = some i := by
  obtain ⟨day, time, hday, htime⟩ := i
  have hhour := htime.1
  have hminute := htime.2.1
  have hnonneg : ¬ (60 * (time.hour : Int) + time.minute - 0) < 0 := by omega
  have hbelow : ¬ (1440 : Int) ≤ 60 * (time.hour : Int) + time.minute - 0 := by omega
  have hminutes : ((60 * (time.hour : Int) + time.minute - 0) % 1440).toNat =
      60 * time.hour + time.minute := by omega
  have hquotient : (60 * time.hour + time.minute) / 60 = time.hour := by omega
  have hremainder : (60 * time.hour + time.minute) % 60 = time.minute := by omega
  simp only [ofLocal?, if_pos (And.intro hday htime), if_neg hnonneg, if_neg hbelow, hminutes,
    hquotient, hremainder]
  exact dif_pos ⟨hday, htime⟩

/-- What is read from the text of an instant of a plain year is the instant, cut to the
millisecond. -/
theorem parse?_text {i : Instant} (h : i.HasPlainYear) : parse? i.text = some i.toMillis := by
  have hday := day?_append i.day_exists h
  have htime := time?_append i.time_exists []
  have hlocal : ofLocal? i.day { i.time with nano := i.time.nano / 1000000 * 1000000 } 0 =
      some i.toMillis := ofLocal?_zero i.toMillis
  simp [parse?, text, textChars, parseChars?, hday, htime, hlocal, afterSeparator?, offset?]

/-- No instant is read from the text of an instant of any other year. -/
theorem parse?_text_eq_none {i : Instant} (h : ¬ i.HasPlainYear) : parse? i.text = none := by
  -- The text starts with a sign, where the first digit of the year is expected.
  have hyear : ¬ (0 ≤ i.day.year ∧ i.day.year ≤ 9999) := h
  simp only [parse?, text, textChars, parseChars?, day?, yearText, if_neg hyear,
    String.toList_ofList]
  split <;> rfl

/-- An instant is read from the text of an instant exactly if its year is plain. -/
theorem parse?_text_eq_some_iff {i j : Instant} :
    parse? i.text = some j ↔ i.HasPlainYear ∧ j = i.toMillis := by
  by_cases h : i.HasPlainYear
  · rw [parse?_text h, Option.some.injEq, eq_comm, and_iff_right h]
  · rw [parse?_text_eq_none h]
    exact ⟨nofun, fun h' => absurd h'.1 h⟩

/-- Identifiers do not start with a digit. -/
theorem not_isDigit_of_startsIdentifier {c : Char} (h : Text.startsIdentifier c) :
    ¬ c.isDigit := by
  intro hdigit
  have hlast : c.val ≤ 57 := of_decide_eq_true (Bool.and_eq_true_iff.mp hdigit).2
  have hfirst : 65 ≤ c.val := by
    rcases Bool.or_eq_true_iff.mp h with halpha | hunderscore
    · rcases Bool.or_eq_true_iff.mp halpha with hupper | hlower
      · exact (of_decide_eq_true hupper).1
      · exact UInt32.le_trans (by decide) (of_decide_eq_true (Bool.and_eq_true_iff.mp hlower).1)
    · rw [beq_iff_eq.mp hunderscore]
      decide
  exact absurd (UInt32.le_trans hfirst hlast) (by decide)

/-- No instant is read from an identifier. -/
theorem parse?_eq_none_of_isIdentifier {name : String} (h : Text.isIdentifier name) :
    parse? name = none := by
  rw [Text.isIdentifier] at h
  rw [parse?, parseChars?, day?]
  cases hname : name.toList with
  | nil => rfl
  | cons c rest =>
      rw [hname, Text.isIdentifierChars, Bool.and_eq_true] at h
      have hdigit := not_isDigit_of_startsIdentifier h.1
      simp [digits?, digit?, hdigit]

end RecordSchema.Instant
