import RecordGate.Instant.Reader
import RecordGate.Proofs.Instant.Calendar

/-!
# Instants and their texts

An instant is written with numbers of a fixed width, except for its year, and with one mark after each of them, so
the reader takes each number whole and the instant is read as written.  What a reader returns is always such an
instant: its year is one that dates may lie in, and a leap second is the last second of a minute, since zones are
whole minutes apart.

* `digits?_padded_append`: a number of a fixed width is taken whole, because its width is used up or because the mark
  behind it is no digit.  Years outside of four digits are written with a sign and end at the dash.
* `fraction?_writeFraction`: a fraction has zero, three, six or nine digits and stands for the same nanoseconds.
* `Proper` says what an instant has to be for its text to be read back, and `proper_of_read?` that whatever is read is
  so; the reader may have been given any zone and any number of digits.

Main statements: `Proper.read?_stamp`, `read?_stamp_of_read?`.
-/

namespace RecordGate.Instant

open RecordGate.Text

/-- An instant that the calendar reaches and in which a leap second ends a minute. -/
structure Proper (t : Instant) : Prop where
  first_le : dayNumber ⟨minYear, 1, 1⟩ ≤ t.day
  le_last : t.day ≤ dayNumber ⟨maxYear, 12, 31⟩
  leap : t.leap = true → t.second.val % 60 = 59

/-! ### Numbers of a fixed width -/

theorem isDigit_of_mem_padded {width n : Nat} {c : Char} (h : c ∈ padded width n) : isDigit c = true := by
  rw [padded, List.mem_append] at h
  rcases h with hzero | hdigit
  · obtain rfl := List.eq_of_mem_replicate hzero
    decide
  · have hdec := Nat.isDigit_of_mem_toDigits (by decide) (by decide) hdigit
    simpa [isDigit, Char.isDigit, Char.le_def] using hdec

theorem padded_ne_nil (width n : Nat) : padded width n ≠ [] :=
  List.append_ne_nil_of_right_ne_nil _ Nat.toDigits_ne_nil

theorem number_padded (width n : Nat) : number (padded width n) = n := by
  rw [number, padded, Nat.ofDigitChars_append, Nat.ofDigitChars_replicate_zero, Nat.mul_zero, digits,
    Nat.ofDigitChars_toDigits (by decide) (by decide)]

theorem length_digits_le {width n : Nat} (hwidth : 0 < width) (hn : n < Nat.pow 10 width) :
    (digits n).length ≤ width :=
  (Nat.length_toDigits_le_iff (by decide) hwidth).2 hn

theorem length_padded {width n : Nat} (hn : (digits n).length ≤ width) : (padded width n).length = width := by
  rw [padded, List.length_append, List.length_replicate]
  omega

theorem not_isBlank_of_isDigit {c : Char} (h : isDigit c = true) : isBlank c = false := by
  rw [isDigit_iff] at h
  simp [isBlank]
  omega

theorem trimStart_cons {c : Char} (hc : isBlank c = false) (cs : List Char) : trimStart (c :: cs) = c :: cs :=
  List.dropWhile_cons_of_neg (by simp [hc])

theorem exists_padded_eq_cons (width n : Nat) : ∃ c cs, padded width n = c :: cs ∧ isDigit c = true := by
  obtain ⟨c, cs, hpadded⟩ := List.exists_cons_of_ne_nil (padded_ne_nil width n)
  exact ⟨c, cs, hpadded, isDigit_of_mem_padded (hpadded ▸ List.mem_cons_self)⟩

theorem trimStart_padded (width n : Nat) (rest : List Char) :
    trimStart (padded width n ++ rest) = padded width n ++ rest := by
  obtain ⟨c, cs, hpadded, hc⟩ := exists_padded_eq_cons width n
  rw [hpadded, List.cons_append, trimStart_cons (not_isBlank_of_isDigit hc)]

theorem digits?_append {width : Nat} {ds rest : List Char} (hne : ds ≠ []) (hds : ∀ c ∈ ds, isDigit c = true)
    (hlength : ds.length ≤ width) (hrest : ds.length = width ∨ ∀ c ∈ rest.head?, isDigit c = false) :
    digits? width (ds ++ rest) = some (number ds, rest) := by
  have htaken : ((ds ++ rest).take width).takeWhile isDigit = ds := by
    rw [List.take_append, List.take_of_length_le hlength, List.takeWhile_append_of_pos hds]
    rcases hrest with hwidth | hrest
    · rw [hwidth, Nat.sub_self, List.take_zero, List.takeWhile_nil, List.append_nil]
    · cases rest with
      | nil => simp
      | cons c cs =>
        cases hleft : width - ds.length with
        | zero => simp
        | succ k => simp [hrest c rfl]
  rw [digits?, htaken]
  cases ds with
  | nil => exact absurd rfl hne
  | cons c cs => simp

theorem digits?_padded_append {width limit n : Nat} {rest : List Char} (hlength : (padded width n).length ≤ limit)
    (hrest : (padded width n).length = limit ∨ ∀ c ∈ rest.head?, isDigit c = false) :
    digits? limit (padded width n ++ rest) = some (n, rest) := by
  rw [digits?_append (padded_ne_nil width n) (fun c hc => isDigit_of_mem_padded hc) hlength hrest, number_padded]

theorem digits?_padded {width n : Nat} (hn : (digits n).length ≤ width) (rest : List Char) :
    digits? width (padded width n ++ rest) = some (n, rest) :=
  digits?_padded_append (Nat.le_of_eq (length_padded hn)) (.inl (length_padded hn))

theorem field?_padded {n : Nat} (hn : n < 100) (rest : List Char) :
    field? 2 (padded 2 n ++ rest) = some (n, rest) := by
  rw [field?, trimStart_padded, digits?_padded (length_digits_le (by decide) hn)]

theorem mark?_cons {c : Char} (hc : isBlank c = false) (rest : List Char) : mark? c (c :: rest) = some rest := by
  rw [mark?, trimStart_cons hc]
  exact if_pos rfl

/-! ### Dates -/

theorem year?_cons_of_isDigit {c : Char} (hc : isDigit c = true) (cs : List Char) :
    year? (c :: cs) = (digits? 4 (c :: cs)).map fun (n, rest) => ((n : Int), rest) := by
  rw [year?, trimStart_cons (not_isBlank_of_isDigit hc)]
  split
  next heq =>
    obtain ⟨rfl, -⟩ := List.cons.inj heq
    exact absurd hc (by decide)
  next heq =>
    obtain ⟨rfl, -⟩ := List.cons.inj heq
    exact absurd hc (by decide)
  next => rfl

theorem digits?_padded_dash (width n : Nat) (rest : List Char) :
    digits? (padded width n ++ '-' :: rest).length (padded width n ++ '-' :: rest) = some (n, '-' :: rest) :=
  digits?_padded_append (by simp) (.inr (by simp; decide))

theorem year?_writeYear (year : Int) (rest : List Char) :
    year? (writeYear year ++ '-' :: rest) = some (year, '-' :: rest) := by
  rw [writeYear]
  split
  next hshort =>
    obtain ⟨hfirst, hlast⟩ : 0 ≤ year ∧ year ≤ 9999 := by simpa using hshort
    obtain ⟨c, cs, hpadded, hc⟩ := exists_padded_eq_cons 4 year.natAbs
    have hread : digits? 4 (padded 4 year.natAbs ++ '-' :: rest) = some (year.natAbs, '-' :: rest) :=
      digits?_padded (length_digits_le (by decide) (show year.natAbs < 10000 by omega)) ('-' :: rest)
    rw [hpadded, List.cons_append] at hread ⊢
    rw [year?_cons_of_isDigit hc, hread, Option.map_some]
    simp only [Int.natAbs_of_nonneg hfirst]
  next hlong =>
    by_cases hnegative : year < 0
    · rw [if_pos hnegative, List.cons_append, year?, trimStart_cons (by decide)]
      simp only [digits?_padded_dash, Option.map_some]
      rw [show -((year.natAbs : Int)) = year by omega]
    · rw [if_neg hnegative, List.cons_append, year?, trimStart_cons (by decide)]
      simp only [digits?_padded_dash, Option.map_some]
      rw [show ((year.natAbs : Int)) = year by omega]

theorem date?_writeDate {t : Instant} (ht : t.Proper) (rest : List Char) :
    date? (t.writeDate ++ rest) = some (date t.day, rest) := by
  have hvalid := isValid_date ht.first_le ht.le_last
  simp only [Date.isValid, Bool.and_eq_true, decide_eq_true_eq] at hvalid
  have hmonth : (date t.day).month < 100 := by omega
  have hdays := daysInMonth_le (date t.day).year (date t.day).month
  have hday : (date t.day).day < 100 := by omega
  have hdash : isBlank '-' = false := by decide
  simp [date?, writeDate, year?_writeYear, mark?_cons hdash, field?_padded hmonth, field?_padded hday]

/-! ### Times of day -/

theorem fraction?_padded {width n : Nat} (hwidth : width ≤ 9) (hn : (digits n).length ≤ width) :
    fraction? ('.' :: (padded width n ++ ['Z'])) = some (n * Nat.pow 10 (9 - width), ['Z']) := by
  have hlength := length_padded hn
  have hread : digits? 9 (padded width n ++ ['Z']) = some (n, ['Z']) :=
    digits?_padded_append (by omega) (.inr (by simp; decide))
  have hend : (['Z'] : List Char).dropWhile isDigit = ['Z'] := by decide
  simp [fraction?, hread, hend, hlength]

theorem fraction?_writeFraction (t : Instant) :
    fraction? (t.writeFraction ++ ['Z']) = some (t.nano.val, ['Z']) := by
  have hnano := t.nano.isLt
  rw [writeFraction]
  split
  next hzero => rw [hzero]; rfl
  split
  next hthree =>
    have hlength : (digits (t.nano.val / 1000000)).length ≤ 3 :=
      length_digits_le (by decide) (show t.nano.val / 1000000 < 1000 by omega)
    have hexact : t.nano.val / 1000000 * Nat.pow 10 (9 - 3) = t.nano.val := by
      change t.nano.val / 1000000 * 1000000 = t.nano.val
      omega
    rw [List.cons_append, fraction?_padded (by decide) hlength, hexact]
  split
  next hsix =>
    have hlength : (digits (t.nano.val / 1000)).length ≤ 6 :=
      length_digits_le (by decide) (show t.nano.val / 1000 < 1000000 by omega)
    have hexact : t.nano.val / 1000 * Nat.pow 10 (9 - 6) = t.nano.val := by
      change t.nano.val / 1000 * 1000 = t.nano.val
      omega
    rw [List.cons_append, fraction?_padded (by decide) hlength, hexact]
  next hnine =>
    have hlength : (digits t.nano.val).length ≤ 9 := length_digits_le (by decide) hnano
    have hexact : t.nano.val * Nat.pow 10 (9 - 9) = t.nano.val := Nat.mul_one _
    rw [List.cons_append, fraction?_padded (by decide) hlength, hexact]

/-- An instant is the one at which clocks of universal time show its reading. -/
theorem ofReading?_date {t : Instant} (ht : t.Proper) :
    ofReading? (date t.day) (t.second.val / 3600) (t.second.val / 60 % 60)
      (t.second.val % 60 + if t.leap then 1 else 0) t.nano.val 0 = some t := by
  obtain ⟨day, second, nano, leap⟩ := t
  have hsecond := second.isLt
  have hleap : leap = true → second.val % 60 = 59 := ht.leap
  have hmark : decide ((second.val % 60 + if leap then 1 else 0) = 60) = leap := by
    cases leap with
    | false => simp; omega
    | true => simp [hleap rfl]
  have hclock : min (second.val % 60 + if leap then 1 else 0) 59 = second.val % 60 := by
    cases leap with
    | false => simp; omega
    | true => simp [hleap rfl]
  have hlimit : second.val % 60 + (if leap then 1 else 0) ≤ 60 := by split <;> omega
  have htotal : day * 86400 +
      ((second.val / 3600 * 3600 + second.val / 60 % 60 * 60 + second.val % 60 : Nat) : Int) - 0 =
      day * 86400 + second.val := by omega
  have hday : (day * 86400 + second.val) / 86400 = day := by omega
  have hrest : ((day * 86400 + second.val) % 86400).toNat = second.val := by omega
  have hfirst : dayNumber ⟨minYear, 1, 1⟩ ≤ day := ht.first_le
  have hlast : day ≤ dayNumber ⟨maxYear, 12, 31⟩ := ht.le_last
  have hhour : second.val / 3600 < 24 := by omega
  have hminute : second.val / 60 % 60 < 60 := by omega
  rw [ofReading?]
  simp only [isValid_date ht.first_le ht.le_last, hmark, hclock, dayNumber_date, htotal, hday, hrest, hfirst, hlast,
    hhour, hminute, hlimit, decide_true, Bool.and_self, if_true, Fin.ofNat_val_eq_self]

/-- **An instant is read as written.** -/
theorem Proper.read?_stamp {t : Instant} (ht : t.Proper) : read? t.stamp = some t := by
  have hsecond := t.second.isLt
  have hcolon : isBlank ':' = false := by decide
  have hchars : t.stamp.toList = t.writeDate ++ 'T' :: (padded 2 (t.second.val / 3600) ++ ':' ::
      (padded 2 (t.second.val / 60 % 60) ++ ':' ::
        (padded 2 (t.second.val % 60 + if t.leap then 1 else 0) ++ (t.writeFraction ++ ['Z'])))) := by
    simp [stamp, iso, writeTime]
  have hhour : t.second.val / 3600 < 100 := by omega
  have hminute : t.second.val / 60 % 60 < 100 := by omega
  have hmark : (t.second.val % 60 + if t.leap then 1 else 0) < 100 := by split <;> omega
  have hzone : zone? (trimStart ['Z']) = some (0, []) := by decide
  rw [read?, hchars, date?_writeDate ht]
  have hread := ofReading?_date ht
  simp only [Option.bind_eq_bind, Option.bind_some, decide_true, Bool.true_or, if_true, field?_padded hhour,
    field?_padded hminute, field?_padded hmark, mark?_cons hcolon, fraction?_writeFraction, hzone, hread]
  rfl

/-! ### What a reader returns -/

theorem zone?_minutes {cs rest : List Char} {offset : Int} (h : zone? cs = some (offset, rest)) :
    offset % 60 = 0 := by
  unfold zone? at h
  split at h
  next =>
    obtain ⟨rfl, -⟩ := Prod.mk.inj (Option.some.inj h)
    decide
  next =>
    cases cs with
    | nil => cases h
    | cons c cs =>
      dsimp only at h
      split at h
      · obtain ⟨rfl, -⟩ := Prod.mk.inj (Option.some.inj h)
        decide
      · split at h
        · obtain ⟨hours, -, h⟩ := Option.bind_eq_some_iff.1 h
          obtain ⟨minutes, -, h⟩ := Option.bind_eq_some_iff.1 h
          split at h
          · cases h
          · obtain ⟨rfl, -⟩ := Prod.mk.inj (Option.some.inj h)
            split <;> omega
        · cases h

theorem proper_of_ofReading? {d : Date} {hour minute second nano : Nat} {offset : Int} {t : Instant}
    (hoffset : offset % 60 = 0) (h : ofReading? d hour minute second nano offset = some t) : t.Proper := by
  rw [ofReading?, Option.ite_none_right_eq_some] at h
  obtain ⟨hread, h⟩ := h
  simp only [Option.ite_none_right_eq_some] at h
  obtain ⟨hdays, h⟩ := h
  obtain rfl := Option.some.inj h
  simp only [Bool.and_eq_true, decide_eq_true_eq] at hread hdays
  refine ⟨hdays.1, hdays.2, ?_⟩
  intro hleap
  simp only [decide_eq_true_eq] at hleap
  simp only [Fin.ofNat]
  omega

/-- **What is read of a text is an instant that can be written.** -/
theorem proper_of_read? {s : String} {t : Instant} (h : read? s = some t) : t.Proper := by
  rw [read?] at h
  obtain ⟨⟨d, cs⟩, -, h⟩ := Option.bind_eq_some_iff.1 h
  dsimp only at h
  split at h
  · split at h
    · obtain ⟨cs, -, h⟩ := Option.bind_eq_some_iff.1 h
      obtain ⟨hour, -, h⟩ := Option.bind_eq_some_iff.1 h
      obtain ⟨cs, -, h⟩ := Option.bind_eq_some_iff.1 h
      obtain ⟨minute, -, h⟩ := Option.bind_eq_some_iff.1 h
      obtain ⟨cs, -, h⟩ := Option.bind_eq_some_iff.1 h
      obtain ⟨second, -, h⟩ := Option.bind_eq_some_iff.1 h
      obtain ⟨nano, -, h⟩ := Option.bind_eq_some_iff.1 h
      obtain ⟨offset, hzone, h⟩ := Option.bind_eq_some_iff.1 h
      rw [Option.ite_none_right_eq_some] at h
      exact proper_of_ofReading? (zone?_minutes hzone) h.2
    · cases h
  · cases h

/-- **What is read of a text is read again where it is written.** -/
theorem read?_stamp_of_read? {s : String} {t : Instant} (h : read? s = some t) : read? t.stamp = some t :=
  (proper_of_read? h).read?_stamp

end RecordGate.Instant
