import CommonPurse.Proofs.Text.Digits
import CommonPurse.Proofs.Time.Calendar
import CommonPurse.Time.Timestamp

/-!
# Timestamps in documents

A timestamp is read back from the text that documents hold, to the microsecond, if its offset is
known in whole minutes or not known at all. No other timestamps are ever read.

## Main definitions

* `CommonPurse.Timestamp.Sound` — universal time from year 1 to year 9999.
* `CommonPurse.Timestamp.Legible` — any clock whose offset a text can name, in the same years.

## Main results

* `CommonPurse.Timestamp.parse?_zuluText` — a legible timestamp is read back.
* `CommonPurse.Timestamp.legible_of_parse?` — what is read is legible.
-/

namespace CommonPurse.Timestamp

open CommonPurse.Text

/-- The reading of a clock that shows universal time, from year 1 to year 9999. -/
structure Sound (t : Timestamp) : Prop where
  universal : t.offset = some 0
  low : -719162 * day ≤ t.wall
  high : t.wall < 2932897 * day

instance (t : Timestamp) : Decidable t.Sound :=
  decidable_of_iff (t.offset = some 0 ∧ -719162 * day ≤ t.wall ∧ t.wall < 2932897 * day)
    ⟨fun ⟨u, l, h⟩ => ⟨u, l, h⟩, fun ⟨u, l, h⟩ => ⟨u, l, h⟩⟩

/-- A reading that a text can name, from year 1 to year 9999: the offset of the clock is not known,
or it is less than a day, in whole minutes. -/
structure Legible (t : Timestamp) : Prop where
  minutes : ∀ o ∈ t.offset, 60 ∣ o ∧ o.natAbs < 86400
  low : -719162 * day ≤ t.wall
  high : t.wall < 2932897 * day

instance (t : Timestamp) : Decidable t.Legible :=
  decidable_of_iff ((∀ o ∈ t.offset, 60 ∣ o ∧ o.natAbs < 86400) ∧ -719162 * day ≤ t.wall ∧
      t.wall < 2932897 * day)
    ⟨fun ⟨m, l, h⟩ => ⟨m, l, h⟩, fun ⟨m, l, h⟩ => ⟨m, l, h⟩⟩

lemma Sound.legible {t : Timestamp} (h : t.Sound) : t.Legible where
  minutes := by simp [h.universal]
  low := h.low
  high := h.high

/-! ## Numbers of a fixed width -/

/-- A number of a fixed width is read back in front of anything. -/
lemma takeDigits_padded {w n : Nat} (hw : 0 < w) (h : n < 10 ^ w) (rest : List Char) :
    takeDigits w (padded w n ++ rest) = some (n, rest) := by
  have len := length_padded hw h
  have digits : ((padded w n).filterMap asciiDigit?).length = w := by
    rw [length_filterMap_of_digits fun _ => isSome_of_mem_padded, len]
  have taken : (padded w n ++ rest).take w = padded w n := by
    rw [List.take_append_of_le_length (by omega), List.take_of_length_le (by omega)]
  have left : (padded w n ++ rest).drop w = rest := by
    rw [List.drop_append_of_le_length (by omega), List.drop_of_length_le (by omega)]
    rfl
  rw [takeDigits, taken, left, if_pos digits, ofDigits_padded]

lemma expect_cons {p : Char → Bool} {c : Char} (h : p c = true) (rest : List Char) :
    expect p (c :: rest) = some rest := by
  rw [expect, if_pos h]

/-! ## Dates -/

/-- A date is read back in front of anything. -/
lemma takeDate_dateText {t : Timestamp} (h : t.Legible) (rest : List Char) :
    takeDate (dateText t ++ rest) = some (Int.fdiv t.wall day, rest) := by
  have range : -719162 ≤ Int.fdiv t.wall day ∧ Int.fdiv t.wall day ≤ 2932896 := by
    have low := h.low
    have high := h.high
    rw [Int.fdiv_eq_ediv_of_nonneg _ (by decide)]
    simp only [day, second] at *
    omega
  obtain ⟨pos, isDay⟩ := Calendar.isDay_civil range
  have number := Calendar.dayNumber_civil (Int.fdiv t.wall day)
  rw [dateText]
  generalize Int.fdiv t.wall day = n at *
  generalize Calendar.civil n = date at *
  obtain ⟨y, m, d⟩ := date
  dsimp only at *
  have cast : (y.toNat : Int) = y := Int.toNat_of_nonneg pos
  have bounds : y.toNat < 10 ^ 4 ∧ m < 10 ^ 2 ∧ d < 10 ^ 2 := by
    have long : Calendar.daysIn y.toNat m ≤ 31 := by
      unfold Calendar.daysIn
      split_ifs <;> omega
    simp only [Calendar.isDay, Bool.and_eq_true, decide_eq_true_eq] at isDay
    omega
  simp only [takeDate, List.append_assoc, List.cons_append,
    takeDigits_padded (by decide) bounds.1, takeDigits_padded (by decide) bounds.2.1,
    takeDigits_padded (by decide) bounds.2.2, expect, Option.bind_eq_bind, Option.bind_some,
    beq_self_eq_true, if_true, isDay, cast, number]

/-! ## Offsets -/

/-- The text of the offset of a clock, as documents hold it. -/
def zoneText : Option Int → List Char
  | none => []
  | some o => if o = 0 then ['Z'] else offsetText o

/-- The text of an offset begins neither with a digit nor with a point. -/
lemma head?_zoneText (zone : Option Int) :
    ∀ c ∈ (zoneText zone).head?, c = 'Z' ∨ c = '+' ∨ c = '-' := by
  cases zone with
  | none => simp [zoneText]
  | some o =>
    by_cases zero : o = 0
    · simp [zoneText, zero]
    · by_cases negative : o < 0
      · simp [zoneText, zero, offsetText, negative]
      · simp [zoneText, zero, offsetText, negative]

/-- Whole minutes behind a sign are read back. -/
lemma readOffset_signed {n : Nat} (minutes : n % 60 = 0) (short : n < 86400) (negative : Bool) :
    readOffset ((if negative then '-' else '+') ::
        (padded 2 (n / 3600) ++ ':' :: padded 2 (n / 60 % 60))) =
      some (some (if negative then -(n : Int) else n)) := by
  have hours : n / 3600 < 10 ^ 2 := by omega
  have rest : n / 60 % 60 < 10 ^ 2 := by omega
  have inDay : n / 3600 ≤ 23 ∧ n / 60 % 60 ≤ 59 := by omega
  have sum : n / 3600 * 3600 + n / 60 % 60 * 60 = n := by omega
  have front := takeDigits_padded (w := 2) (by decide) hours
  have back := takeDigits_padded (w := 2) (by decide) rest []
  rw [List.append_nil] at back
  have minus : isMinus '-' = true := by decide
  cases negative with
  | true =>
    simp only [if_true, readOffset, minus, or_true, front, back, Option.bind_eq_bind,
      Option.bind_some, List.isEmpty_nil, inDay, and_self, sum, if_false, Char.reduceEq, or_self]
  | false =>
    simp only [if_true, readOffset, front, back, Option.bind_eq_bind, Option.bind_some,
      List.isEmpty_nil, inDay, and_self, sum, if_false, true_or, Bool.false_eq_true,
      Char.reduceEq, or_self]

/-- An offset is read back. -/
lemma readOffset_zoneText {zone : Option Int} (h : ∀ o ∈ zone, 60 ∣ o ∧ o.natAbs < 86400) :
    readOffset (zoneText zone) = some zone := by
  cases zone with
  | none => rfl
  | some o =>
    obtain ⟨minutes, short⟩ := h o rfl
    by_cases zero : o = 0
    · rw [zero]
      decide
    · have whole : o.natAbs % 60 = 0 := by omega
      have signed := readOffset_signed whole short (decide (o < 0))
      have value : (if o < 0 then -(o.natAbs : Int) else o.natAbs) = o := by
        split <;> omega
      simp only [decide_eq_true_eq, value] at signed
      rw [zoneText, if_neg zero, offsetText, if_pos whole, List.append_nil]
      exact signed

/-! ## Times of day -/

/-- Six decimals of a second are read back in front of an offset. -/
lemma takeFraction_padded {n : Nat} (h : n < 10 ^ 6) (zone : Option Int) :
    takeFraction ('.' :: padded 6 n ++ zoneText zone) = some (n, zoneText zone) := by
  have digit : ∀ c ∈ padded 6 n, (asciiDigit? c).isSome = true := fun _ => isSome_of_mem_padded
  have len : ((padded 6 n).filterMap asciiDigit?).length = 6 := by
    rw [length_filterMap_of_digits digit, length_padded (by decide) h]
  have full : ((padded 6 n).filterMap asciiDigit?).isEmpty = false := by
    rw [List.isEmpty_eq_false_iff, ← List.length_pos_iff, len]
    decide
  have mark : ∀ c ∈ (zoneText zone).head?, (asciiDigit? c).isSome = false := by
    intro c hc
    rcases head?_zoneText zone c hc with rfl | rfl | rfl <;> decide
  have split := span_append digit mark
  have micros : fractionMicros ((padded 6 n).filterMap asciiDigit?) = n := by
    rw [fractionMicros, List.take_append_of_le_length (by omega),
      List.take_of_length_le (by omega), ofDigits_padded]
  rw [List.cons_append, takeFraction, split.1, split.2]
  simp [full, micros]

/-- The decimals of a second that a text may leave out. -/
lemma takeFraction_optional {n : Nat} (h : n < 10 ^ 6) (zone : Option Int) :
    takeFraction ((if n = 0 then [] else '.' :: padded 6 n) ++ zoneText zone) =
      some (n, zoneText zone) := by
  by_cases zero : n = 0
  · rw [if_pos zero, zero, List.nil_append]
    have head := head?_zoneText zone
    cases hz : zoneText zone with
    | nil => rfl
    | cons c rest =>
      have hc : c = 'Z' ∨ c = '+' ∨ c = '-' := head c (by rw [hz]; rfl)
      rcases hc with rfl | rfl | rfl <;> rfl
  · rw [if_neg zero]
    exact takeFraction_padded h zone

lemma timeText_eq (t : Timestamp) :
    timeText t = (clockText t).1 ++
      (if (clockText t).2 = 0 then [] else '.' :: padded 6 (clockText t).2) := by
  unfold timeText
  dsimp only
  split
  · exact (List.append_nil _).symm
  · rfl

/-- A time of day is read back in front of an offset. -/
lemma takeTime_timeText (t : Timestamp) (zone : Option Int) :
    takeTime (timeText t ++ zoneText zone) = some (Int.fmod t.wall day, zoneText zone) := by
  have range : 0 ≤ Int.fmod t.wall day ∧ Int.fmod t.wall day < 86400 * 1000000 := by
    rw [Int.fmod_eq_emod_of_nonneg _ (by decide)]
    simp only [day, second]
    omega
  rw [timeText_eq, clockText]
  generalize Int.fmod t.wall day = w at *
  have hours : w.toNat / 1000000 / 3600 < 10 ^ 2 := by omega
  have minutes : w.toNat / 1000000 / 60 % 60 < 10 ^ 2 := by omega
  have seconds : w.toNat / 1000000 % 60 < 10 ^ 2 := by omega
  have micros : w.toNat % 1000000 < 10 ^ 6 := by omega
  have inDay : ¬(23 < w.toNat / 1000000 / 3600 ∨ 59 < w.toNat / 1000000 / 60 % 60) := by omega
  have inMinute : ¬59 < w.toNat / 1000000 % 60 := by omega
  have sum : (((w.toNat / 1000000 / 3600 * 3600 + w.toNat / 1000000 / 60 % 60 * 60 +
      w.toNat / 1000000 % 60) * 1000000 + w.toNat % 1000000 : Nat) : Int) = w := by omega
  simp only [takeTime, List.append_assoc, List.cons_append,
    takeDigits_padded (by decide) hours, takeDigits_padded (by decide) minutes,
    takeDigits_padded (by decide) seconds, takeFraction_optional micros, expect,
    Option.bind_eq_bind, Option.bind_some, beq_self_eq_true, if_true, inDay, inMinute, if_false,
    sum]

/-! ## Whole timestamps -/

/-- **A legible timestamp is read back** from the text that documents hold. -/
theorem parse?_zuluText {t : Timestamp} (h : t.Legible) : parse? t.zuluText = some t := by
  have text : t.zuluText.toList = dateText t ++ 'T' :: (timeText t ++ zoneText t.offset) := by
    cases ho : t.offset <;> simp [zuluText, textWith, zoneText, ho]
  have sum : Int.fdiv t.wall day * day + Int.fmod t.wall day = t.wall := by
    have := Int.mul_fdiv_add_fmod t.wall day
    rw [Int.mul_comm]
    exact this
  have separator : isSeparator 'T' = true := by decide
  have full : parseFull? t.zuluText.toList = some t := by
    rw [text]
    simp only [parseFull?, takeDate_dateText h, expect_cons separator, takeTime_timeText,
      readOffset_zoneText h.minutes, Option.bind_eq_bind, Option.bind_some, sum]
  rw [parse?, full]
  rfl

/-! ## What is read -/

/-- A date that is read lies from year 1 to year 9999. -/
lemma range_of_takeDate {s rest : List Char} {d : Int} (h : takeDate s = some (d, rest)) :
    -719162 ≤ d ∧ d ≤ 2932896 := by
  simp only [takeDate, Option.bind_eq_bind, Option.bind_eq_some_iff,
    Option.ite_none_right_eq_some, Option.some.injEq, Prod.mk.injEq] at h
  obtain ⟨y, -, _, -, m, -, _, -, n, -, isDay, rfl, -⟩ := h
  exact Calendar.dayNumber_range isDay

/-- The decimals of a second that are read are less than a second. -/
lemma fractionMicros_lt {ds : List Nat} (h : ∀ d ∈ ds, d < 10) : fractionMicros ds < 1000000 := by
  have digits : ∀ d ∈ (ds ++ List.replicate 6 0).take 6, d < 10 := by
    intro d hd
    rcases List.mem_append.mp (List.mem_of_mem_take hd) with hd | hd
    · exact h d hd
    · rw [List.eq_of_mem_replicate hd]
      decide
  have six : ((ds ++ List.replicate 6 0).take 6).length = 6 := by
    rw [List.length_take, List.length_append, List.length_replicate]
    omega
  have bound := ofDigits_lt digits
  rw [six] at bound
  exact bound

lemma lt_of_takeFraction {s rest : List Char} {n : Nat} (h : takeFraction s = some (n, rest)) :
    n < 1000000 := by
  cases s with
  | nil =>
    cases h
    decide
  | cons c s =>
    rw [takeFraction] at h
    split_ifs at h with point
    · rw [Option.ite_none_left_eq_some] at h
      obtain ⟨-, h⟩ := h
      cases h
      apply fractionMicros_lt
      intro d hd
      obtain ⟨c, -, hc⟩ := List.mem_filterMap.mp hd
      exact asciiDigit?_lt hc
    · cases h
      decide

/-- A time that is read is one of a day. -/
lemma range_of_takeTime {s rest : List Char} {t : Int} (h : takeTime s = some (t, rest)) :
    0 ≤ t ∧ t < day := by
  simp only [takeTime, Option.bind_eq_bind, Option.bind_eq_some_iff,
    Option.ite_none_left_eq_some] at h
  obtain ⟨⟨hours, _⟩, -, _, -, ⟨minutes, _⟩, -, inDay, h⟩ := h
  dsimp only at inDay h
  split at h
  · simp only [Option.bind_eq_some_iff, Option.ite_none_left_eq_some, Option.some.injEq,
      Prod.mk.injEq] at h
    obtain ⟨⟨seconds, _⟩, -, ⟨micros, _⟩, fraction, inMinute, rfl, -⟩ := h
    have short := lt_of_takeFraction fraction
    simp only [day, second]
    omega
  · cases h
    simp only [day, second]
    omega

/-- An offset that is read is less than a day, in whole minutes. -/
lemma minutes_of_readOffset {s : List Char} {zone : Option Int} (h : readOffset s = some zone) :
    ∀ o ∈ zone, 60 ∣ o ∧ o.natAbs < 86400 := by
  cases s with
  | nil =>
    cases h
    simp
  | cons c s =>
    rw [readOffset] at h
    split at h
    · rw [Option.ite_none_right_eq_some] at h
      obtain ⟨-, h⟩ := h
      cases h
      simp
    · simp only [Option.bind_eq_bind, Option.ite_none_right_eq_some, Option.bind_eq_some_iff,
        Option.some.injEq] at h
      obtain ⟨-, ⟨hours, _⟩, -, ⟨minutes, _⟩, -, inDay, rfl⟩ := h
      intro o ho
      rw [Option.mem_some_iff] at ho
      rw [← ho]
      split <;> omega

lemma legible_of_parseFull? {s : List Char} {t : Timestamp} (h : parseFull? s = some t) :
    t.Legible := by
  simp only [parseFull?, Option.bind_eq_bind, Option.bind_eq_some_iff, Option.some.injEq] at h
  obtain ⟨⟨d, _⟩, date, _, -, ⟨n, _⟩, time, zone, offset, rfl⟩ := h
  have inYears := range_of_takeDate date
  have inDay := range_of_takeTime time
  refine ⟨minutes_of_readOffset offset, ?_, ?_⟩
  · simp only [day, second] at *
    omega
  · simp only [day, second] at *
    omega

lemma legible_of_ofNumber? {n : Int} {micros : Nat} {t : Timestamp}
    (h : ofNumber? n micros = some t) : t.Legible := by
  simp only [ofNumber?, Option.ite_none_left_eq_some, Option.some.injEq] at h
  obtain ⟨-, inYears, rfl⟩ := h
  generalize (if n.natAbs ≤ secondsLimit.natAbs then n * second + micros
    else n * 1000 + micros : Int) = total at *
  rw [Int.fdiv_eq_ediv_of_nonneg _ (by decide)] at inYears
  simp only [second, firstSecond, lastSecond] at inYears
  refine ⟨by simp [utc], ?_, ?_⟩
  · simp only [utc, day, second]
    omega
  · simp only [utc, day, second]
    omega

lemma legible_of_ofReal? {x : Binary64} {t : Timestamp} (h : ofReal? x = some t) :
    t.Legible := by
  cases x with
  | finite n m e => exact legible_of_ofNumber? h
  | infinite n => cases h
  | nan => cases h

lemma legible_of_parseNumber? {s : List Char} {t : Timestamp} (h : parseNumber? s = some t) :
    t.Legible := by
  simp only [parseNumber?, Option.ite_none_left_eq_some] at h
  obtain ⟨-, h⟩ := h
  split at h
  · exact legible_of_ofNumber? h
  · rw [Option.ite_none_left_eq_some] at h
    exact legible_of_ofReal? h.2
  · cases h

lemma legible_of_parseDate? {s : List Char} {t : Timestamp} (h : parseDate? s = some t) :
    t.Legible := by
  rw [parseDate?] at h
  split at h
  next d date =>
    cases h
    have inYears := range_of_takeDate date
    refine ⟨by simp, ?_, ?_⟩
    · simp only [day, second]
      omega
    · simp only [day, second]
      omega
  next => cases h

/-- **What is read is legible**, be it a full timestamp, a bare number or a bare date. -/
theorem legible_of_parse? {s : String} {t : Timestamp} (h : parse? s = some t) : t.Legible := by
  rw [parse?, Option.or_eq_some_iff, Option.or_eq_some_iff] at h
  rcases h with (full | ⟨-, number⟩) | ⟨-, date⟩
  · exact legible_of_parseFull? full
  · exact legible_of_parseNumber? number
  · exact legible_of_parseDate? date

end CommonPurse.Timestamp
