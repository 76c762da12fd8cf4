import Mathlib.Algebra.Group.Nat.Defs
import StatusRouter.Time.Rfc3339

/-!
# A written time is read back

The text of a time is made of numbers, each padded to its place, and of marks between them.  A
number is read up to the first character that is no digit, and every mark is one of these, so each
part of the text is read back as it was written, and leaves the rest of the text to the next.
-/

namespace StatusRouter.Instant

variable {width n : Nat} {c : Char} {rest : List Char}

/-- No number goes on at the front of a text. -/
def EndsNumber (rest : List Char) : Prop := rest.takeWhile Char.isDigit = []

theorem endsNumber_cons (hc : c.isDigit = false) : EndsNumber (c :: rest) := by
  simp [EndsNumber, hc]

/-! ## Numbers -/

theorem isDigit_of_mem_padded (h : c ∈ padded width n) : c.isDigit = true := by
  rcases List.mem_append.mp h with hzero | hdigit
  · rw [List.eq_of_mem_replicate hzero]
    rfl
  · exact Nat.isDigit_of_mem_toDigits (by decide) (by decide) hdigit

theorem length_padded (hwidth : 0 < width) (hn : n < 10 ^ width) :
    (padded width n).length = width := by
  have hdigits : (Nat.toDigits 10 n).length ≤ width :=
    (Nat.length_toDigits_le_iff (by decide) hwidth).mpr hn
  rw [padded, List.length_append, List.length_replicate]
  omega

/-- A padded number is a digit and perhaps more of them. -/
theorem exists_padded_eq_cons (width n : Nat) :
    ∃ first others, padded width n = first :: others ∧ first.isDigit = true := by
  have hne : padded width n ≠ [] := List.append_ne_nil_of_right_ne_nil _ Nat.toDigits_ne_nil
  obtain ⟨first, others, hpadded⟩ := List.exists_cons_of_ne_nil hne
  exact ⟨first, others, hpadded, isDigit_of_mem_padded (hpadded ▸ List.mem_cons_self)⟩

theorem digitsValue_padded : digitsValue (padded width n) = n := by
  have hvalue (digits : List Char) : digitsValue digits = Nat.ofDigitChars 10 digits 0 := rfl
  rw [hvalue, padded, Nat.ofDigitChars_append, Nat.ofDigitChars_replicate_zero, Nat.mul_zero,
    Nat.ofDigitChars_ten_toDigits]

/-- A padded number is read up to its end, if its place holds all its digits. -/
theorem readNumber_padded {place : Option Nat} (hvalue : n ≤ largestNumber)
    (hplace : ∀ most ∈ place, (padded width n).length ≤ most)
    (hrest : EndsNumber rest) : readNumber place (padded width n ++ rest) = .ok (n, rest) := by
  have hrun : (padded width n ++ rest).takeWhile Char.isDigit = padded width n := by
    rw [List.takeWhile_append_of_pos fun _ => isDigit_of_mem_padded, hrest, List.append_nil]
  have hdrop : (padded width n ++ rest).drop (padded width n).length = rest := List.drop_left
  obtain ⟨first, others, hpadded, -⟩ := exists_padded_eq_cons width n
  have hdigits : digitsValue (first :: others) = n := hpadded ▸ digitsValue_padded
  rw [hpadded] at hrun hdrop hplace ⊢
  cases place with
  | none =>
      simp only [readNumber, hrun, hdrop, hdigits]
      rw [if_neg (by simp), if_neg (Nat.not_lt.mpr hvalue)]
      rfl
  | some most =>
      simp only [readNumber, hrun, List.take_of_length_le (hplace most rfl), hdrop, hdigits]
      rw [if_neg (by simp), if_neg (Nat.not_lt.mpr hvalue)]
      rfl

theorem readNumber_some_padded {most : Nat} (hwidth : 0 < width) (hmost : width ≤ most)
    (hn : n < 10 ^ width) (hvalue : n ≤ largestNumber) (hrest : EndsNumber rest) :
    readNumber (some most) (padded width n ++ rest) = .ok (n, rest) := by
  have hlength : (padded width n).length = width := length_padded hwidth hn
  exact readNumber_padded hvalue (by simpa [hlength] using hmost) hrest

/-! ## Places and marks -/

/-- No digit is a blank. -/
theorem isBlank_of_isDigit (hc : c.isDigit = true) : Text.isBlank c = false := by
  have hrange : 48 ≤ c.toNat ∧ c.toNat ≤ 57 := Char.isDigit_iff_toNat.mp hc
  simp only [Text.isBlank, Bool.or_eq_false_iff, Bool.and_eq_false_iff, decide_eq_false_iff_not,
    beq_eq_false_iff_ne]
  omega

theorem skipBlanks_padded : Text.skipBlanks (padded width n ++ rest) = padded width n ++ rest := by
  obtain ⟨first, others, hpadded, hfirst⟩ := exists_padded_eq_cons width n
  rw [hpadded, List.cons_append, Text.skipBlanks,
    List.dropWhile_cons_of_neg (by simp [isBlank_of_isDigit hfirst])]

theorem readPlace_padded {low high : Nat} (hlow : low ≤ n) (hhigh : n ≤ high) (hsmall : high < 100)
    (hrest : EndsNumber rest) : readPlace low high (padded 2 n ++ rest) = .ok (n, rest) := by
  have hread : readNumber (some 2) (padded 2 n ++ rest) = .ok (n, rest) :=
    readNumber_some_padded (by decide) (by decide) (by omega) (by unfold largestNumber; omega) hrest
  simp only [readPlace, skipBlanks_padded, hread]
  exact if_pos ⟨hlow, hhigh⟩

theorem readMark_cons (hc : Text.isBlank c = false) : readMark c (c :: rest) = .ok rest := by
  rw [readMark, Text.skipBlanks, List.dropWhile_cons_of_neg (by simp [hc])]
  exact if_pos rfl

/-! ## Years -/

theorem fitsYear_of_bounds {year : Int} (hlow : -2147483648 ≤ year) (hhigh : year ≤ 2147483647) :
    fitsYear year = true := by
  simp [fitsYear, hlow, hhigh]

theorem readYear_padded (hn : n ≤ 9999) (hrest : EndsNumber rest) :
    readYear (padded 4 n ++ rest) = .ok ((n : Int), rest) := by
  have hread : readNumber (some 4) (padded 4 n ++ rest) = .ok (n, rest) :=
    readNumber_some_padded (by decide) (by decide) (by omega) (by unfold largestNumber; omega) hrest
  have hfits : fitsYear n = true := fitsYear_of_bounds (by omega) (by omega)
  -- a digit is no sign, so the year is read as one without
  obtain ⟨first, others, hpadded, hdigit⟩ := exists_padded_eq_cons 4 n
  have hsign (sign : Char) (digits : List Char) (hsign : sign.isDigit = false) :
      padded 4 n ++ rest ≠ sign :: digits := by
    rw [hpadded, List.cons_append]
    intro heq
    rw [(List.cons.inj heq).1, hsign] at hdigit
    cases hdigit
  unfold readYear
  rw [skipBlanks_padded]
  split
  · rename_i digits heq
    exact absurd heq (hsign '-' digits rfl)
  · rename_i digits heq
    exact absurd heq (hsign '+' digits rfl)
  · rw [hread]
    exact if_pos hfits

theorem readYear_signed {year : Int} {sign : Char}
    (hsign : sign = '-' ∧ year = -(n : Int) ∨ sign = '+' ∧ year = n) (hn : n ≤ 2147483647)
    (hrest : EndsNumber rest) : readYear (sign :: padded 4 n ++ rest) = .ok (year, rest) := by
  have hread : readNumber none (padded 4 n ++ rest) = .ok (n, rest) :=
    readNumber_padded (by unfold largestNumber; omega) (by simp) hrest
  have hfits : fitsYear year = true := fitsYear_of_bounds (by omega) (by omega)
  unfold readYear
  rcases hsign with ⟨rfl, rfl⟩ | ⟨rfl, rfl⟩
  all_goals
    rw [List.cons_append, Text.skipBlanks, List.dropWhile_cons_of_neg (by decide)]
    simp only [hread]
    exact if_pos hfits

theorem readYear_yearChars {year : Int} (hyear : firstYear ≤ year ∧ year ≤ lastYear)
    (hrest : EndsNumber rest) : readYear (yearChars year ++ rest) = .ok (year, rest) := by
  obtain ⟨hfirst, hlast⟩ := hyear
  unfold firstYear at hfirst
  unfold lastYear at hlast
  unfold yearChars
  split
  · have hread := readYear_padded (n := year.toNat) (by omega) hrest
    rwa [Int.toNat_of_nonneg (by omega)] at hread
  · refine readYear_signed ?_ (by omega) hrest
    split
    · exact Or.inl ⟨rfl, by omega⟩
    · exact Or.inr ⟨rfl, by omega⟩

/-! ## Fractions of a second -/

/-- A point and so many digits are read as that fraction of a second. -/
theorem readFraction_padded (hwidth : 0 < width) (hmost : width ≤ 9) (hn : n < 10 ^ width) :
    readFraction ('.' :: padded width n ++ ['Z']) = .ok (n * 10 ^ (9 - width), ['Z']) := by
  have hlength : (padded width n).length = width := length_padded hwidth hn
  have hbound : 10 ^ width ≤ 10 ^ 9 := Nat.pow_le_pow_right (by decide) hmost
  have hread : readNumber (some 9) (padded width n ++ ['Z']) = .ok (n, ['Z']) :=
    readNumber_some_padded hwidth hmost hn (by unfold largestNumber; omega) rfl
  -- how many digits there were is told by how much of the text is left
  have hcount : (padded width n ++ ['Z']).length - ['Z'].length = width := by simp [hlength]
  simp only [List.cons_append, readFraction, hread]
  show Except.ok (n * Nat.pow 10 (9 - _), _) = _
  rw [hcount]
  rfl

theorem readFraction_fractionChars (hn : n < 1000000000) :
    readFraction (fractionChars n ++ ['Z']) = .ok (n, ['Z']) := by
  unfold fractionChars
  split
  · rename_i hzero
    rw [hzero]
    rfl
  · split
    · rename_i hmilli
      rw [readFraction_padded (by decide) (by decide) (by omega)]
      congr 2
      omega
    · split
      · rename_i hmicro
        rw [readFraction_padded (by decide) (by decide) (by omega)]
        congr 2
        omega
      · rw [readFraction_padded (by decide) (by decide) hn, Nat.sub_self, Nat.pow_zero, Nat.mul_one]

/-! ## Times -/

theorem date_bounds (date : Date) : 1 ≤ date.month ∧ date.month ≤ 12 ∧ date.day ≤ 31 := by
  have hday := date.day_mem
  unfold daysInMonth at hday
  split at hday
  · split at hday <;> omega
  all_goals omega

theorem endsNumber_fractionChars : EndsNumber (fractionChars n ++ ['Z']) := by
  unfold fractionChars
  split
  · rfl
  · split
    · rfl
    · split <;> rfl

theorem ofChars_chars (t : Instant) : ofChars t.chars = .ok t := by
  obtain ⟨hmonth, hmonth', hday⟩ := date_bounds t.date
  have hminute := t.minute_lt
  have hreadYear (rest : List Char) :
      readYear (yearChars t.date.year ++ '-' :: rest) = .ok (t.date.year, '-' :: rest) :=
    readYear_yearChars t.date.year_mem (endsNumber_cons rfl)
  have hdash (rest : List Char) : readMark '-' ('-' :: rest) = .ok rest := readMark_cons rfl
  have hcolon (rest : List Char) : readMark ':' (':' :: rest) = .ok rest := readMark_cons rfl
  have hreadMonth (rest : List Char) :
      readPlace 1 12 (padded 2 t.date.month ++ '-' :: rest) = .ok (t.date.month, '-' :: rest) :=
    readPlace_padded hmonth hmonth' (by decide) (endsNumber_cons rfl)
  have hreadDay (rest : List Char) :
      readPlace 1 31 (padded 2 t.date.day ++ 'T' :: rest) = .ok (t.date.day, 'T' :: rest) :=
    readPlace_padded t.date.day_mem.1 hday (by decide) (endsNumber_cons rfl)
  have hreadHour (rest : List Char) :
      readPlace 0 23 (padded 2 (t.minute / 60) ++ ':' :: rest) = .ok (t.minute / 60, ':' :: rest) :=
    readPlace_padded (Nat.zero_le _) (by omega) (by decide) (endsNumber_cons rfl)
  have hreadMinute (rest : List Char) :
      readPlace 0 59 (padded 2 (t.minute % 60) ++ ':' :: rest) = .ok (t.minute % 60, ':' :: rest) :=
    readPlace_padded (Nat.zero_le _) (by omega) (by decide) (endsNumber_cons rfl)
  have hreadSecond :
      readPlace 0 60 (padded 2 t.second ++ (fractionChars t.nanosecond ++ ['Z'])) =
        .ok (t.second, fractionChars t.nanosecond ++ ['Z']) :=
    readPlace_padded (Nat.zero_le _) t.second_le (by decide) endsNumber_fractionChars
  have hreadSeparator (rest : List Char) : readSeparator ('T' :: rest) = .ok rest := rfl
  have hreadOffset : readOffset ['Z'] = .ok (0, []) := rfl
  have hminutes : 60 * (t.minute / 60) + t.minute % 60 = t.minute := Nat.div_add_mod ..
  simp only [chars, List.append_assoc, List.cons_append]
  simp only [ofChars, bind, Except.bind, hreadYear, hdash, hreadMonth, hreadDay, hreadSeparator,
    hreadHour, hcolon, hreadMinute, hreadSecond, readFraction_fractionChars t.nanosecond_lt,
    hreadOffset, Date.ofNumbers?_self, hminutes, ofLocal?_self]
  rfl

/-- A written time is read as the same time. -/
theorem ofText_text (t : Instant) : ofText t.text = .ok t := by
  rw [ofText, text, String.toList_ofList, ofChars_chars]

end StatusRouter.Instant
