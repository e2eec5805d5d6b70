import Provisioning.Calendar.Stamp
import Provisioning.Proofs.Days
import Provisioning.Proofs.Numerals

/-!
# Instants are read from their stamps

A number with zeros in front is read up to its last digit when nothing that follows goes on with it
(`digits?_append`). So each part of a stamp is read as it was written, and an instant comes back
from its stamp exactly if its year is one that dates can lie in and its nanoseconds are those of a
clock (`ofText?_stamp_iff`).
-/

namespace Provisioning.Calendar

open Provisioning.Text Json.Numeral

/-- Instants that a clock can show: in a year that dates can lie in, with a leap second only at the
end of a minute. -/
structure Instant.OnClock (t : Instant) : Prop where
  year : Instant.yearInRange t.date.year
  nanos : t.nanos < 2 * Instant.nanosPerSecond
  leap : Instant.nanosPerSecond ≤ t.nanos → t.seconds % 60 = 59

namespace Stamp

variable {c : Char} {ds cs rest : List Char} {width n : Nat}

section Padded

/-- The digits of a number with zeros in front, up to a width. -/
def paddedDigits (width n : Nat) : List Char :=
  List.replicate (width - (Nat.toDigits 10 n).length) '0' ++ Nat.toDigits 10 n

theorem toList_zeroPadded : (zeroPadded width n).toList = paddedDigits width n := by
  rw [zeroPadded, padded, String.toList_append, String.toList_ofList, ← String.length_toList,
    toList_toString_nat]
  rfl

theorem isDigit_of_mem_paddedDigits (h : c ∈ paddedDigits width n) : c.isDigit := by
  rcases List.mem_append.1 h with h | h
  · rw [List.eq_of_mem_replicate h]
    rfl
  · exact isDigit_of_mem_toDigits h

theorem length_paddedDigits (hw : 0 < width) (hn : n < 10 ^ width) :
    (paddedDigits width n).length = width := by
  have hlength := (Nat.length_toDigits_le_iff (by decide) hw).2 hn
  rw [paddedDigits, List.length_append, List.length_replicate]
  omega

theorem paddedDigits_ne_nil : paddedDigits width n ≠ [] := by
  simp [paddedDigits]

theorem natOf_replicate_append : ∀ {k : Nat}, natOf (List.replicate k '0' ++ ds) = natOf ds
  | 0 => rfl
  | k + 1 => natOf_replicate_append (k := k)

theorem digitsValue_paddedDigits : digitsValue (paddedDigits width n) = n := by
  show natOf (List.replicate _ '0' ++ _) = n
  rw [natOf_replicate_append, natOf_toDigits]

end Padded

theorem toNat_of_isDigit (h : c.isDigit) : 48 ≤ c.toNat ∧ c.toNat ≤ 57 := by
  simpa [Char.isDigit, UInt32.le_iff_toNat_le] using h

theorem not_isWhiteSpace_of_isDigit (h : c.isDigit) : isWhiteSpace c = false := by
  have hc := toNat_of_isDigit h
  simp [isWhiteSpace, inRanges, whiteSpaceRanges]
  omega

theorem dropLeading_cons (hc : isWhiteSpace c = false) :
    dropLeading (c :: rest) = c :: rest :=
  List.dropWhile_cons_of_neg (by simp [hc])

theorem dropLeading_digits (hne : ds ≠ []) (hds : ∀ c ∈ ds, c.isDigit) :
    dropLeading (ds ++ rest) = ds ++ rest := by
  obtain ⟨c, ds, rfl⟩ := List.exists_cons_of_ne_nil hne
  have hc := not_isWhiteSpace_of_isDigit (hds c List.mem_cons_self)
  exact dropLeading_cons hc

/-- Digits are read up to the last of them, when they fill the width or no digit follows. -/
theorem digits?_append (hne : ds ≠ []) (hds : ∀ c ∈ ds, c.isDigit) (hlength : ds.length ≤ width)
    (hend : ds.length = width ∨ ∀ c ∈ rest.head?, c.isDigit = false) :
    digits? width (ds ++ rest) = some (ds, rest) := by
  have htake : ((ds ++ rest).take width).takeWhile Char.isDigit = ds := by
    rw [List.take_append, List.take_of_length_le hlength, List.takeWhile_append_of_pos hds]
    rcases hend with hend | hend
    · simp [hend]
    rcases rest with _ | ⟨c, rest⟩
    · simp
    · rcases width - ds.length with _ | k
      · simp
      · simp [hend c rfl]
  rw [digits?, htake]
  simp [hne]

theorem number?_paddedDigits (hw : 0 < width) (hn : n < 10 ^ width) :
    number? width (paddedDigits width n ++ rest) = some (n, rest) := by
  have hlength := length_paddedDigits hw hn
  rw [number?, dropLeading_digits paddedDigits_ne_nil fun _ => isDigit_of_mem_paddedDigits,
    digits?_append paddedDigits_ne_nil (fun _ => isDigit_of_mem_paddedDigits) hlength.le
      (.inl hlength)]
  simp [digitsValue_paddedDigits]

theorem mark?_cons (hc : isWhiteSpace c = false) : mark? c (c :: rest) = some rest := by
  rw [mark?, dropLeading_cons hc]
  exact if_pos rfl

/-- A year with no sign is read by its digits, of which there may be four. -/
theorem year?_of_digits (hne : ds ≠ []) (hds : ∀ c ∈ ds, c.isDigit) (hlength : ds.length ≤ 4)
    (hrest : ∀ c ∈ rest.head?, c.isDigit = false) :
    year? (ds ++ rest) = some ((digitsValue ds : Int), rest) := by
  have hdigits := digits?_append hne hds hlength (.inr hrest)
  obtain ⟨c, ds, rfl⟩ := List.exists_cons_of_ne_nil hne
  have hc := hds c List.mem_cons_self
  unfold year?
  rw [dropLeading_digits hne hds, List.cons_append]
  -- a digit is no sign
  split
  · rename_i h
    rw [(List.cons.inj h).1] at hc
    exact absurd hc (by decide)
  · rename_i h
    rw [(List.cons.inj h).1] at hc
    exact absurd hc (by decide)
  · rw [List.cons_append] at hdigits
    rw [hdigits]
    rfl

/-- A year is read as it was written. -/
theorem year?_yearText {year : Int} (hrest : ∀ c ∈ rest.head?, c.isDigit = false) :
    year? ((Instant.yearText year).toList ++ rest) = some (year, rest) := by
  have hdigits : ∀ c ∈ paddedDigits 4 year.natAbs, c.isDigit :=
    fun _ => isDigit_of_mem_paddedDigits
  have hsigned : digits? (paddedDigits 4 year.natAbs ++ rest).length
      (paddedDigits 4 year.natAbs ++ rest) = some (paddedDigits 4 year.natAbs, rest) :=
    digits?_append paddedDigits_ne_nil hdigits (by simp) (.inr hrest)
  unfold Instant.yearText
  split_ifs with hshort hneg
  · have hlength : (paddedDigits 4 year.toNat).length = 4 :=
      length_paddedDigits (by decide) (by omega)
    rw [toList_zeroPadded, year?_of_digits paddedDigits_ne_nil
      (fun _ => isDigit_of_mem_paddedDigits) hlength.le hrest, digitsValue_paddedDigits,
      Int.toNat_of_nonneg hshort.1]
  · rw [String.toList_append, toList_zeroPadded]
    show year? ('-' :: (paddedDigits 4 year.natAbs ++ rest)) = _
    rw [year?, dropLeading_cons (by decide)]
    simp only
    rw [hsigned, Option.bind_eq_bind, Option.bind_some, digitsValue_paddedDigits,
      show -(year.natAbs : Int) = year by omega]
    rfl
  · rw [String.toList_append, toList_zeroPadded]
    show year? ('+' :: (paddedDigits 4 year.natAbs ++ rest)) = _
    rw [year?, dropLeading_cons (by decide)]
    simp only
    rw [hsigned, Option.bind_eq_bind, Option.bind_some, digitsValue_paddedDigits,
      show (year.natAbs : Int) = year by omega]
    rfl

theorem date?_append {year : Int} {month day : Nat} (hm : month < 100) (hd : day < 100) :
    date? ((Instant.yearText year).toList ++ '-' :: (paddedDigits 2 month ++ '-' ::
      (paddedDigits 2 day ++ rest))) = some (⟨year, month, day⟩, rest) := by
  rw [date?, year?_yearText (by simp)]
  simp only [Option.bind_eq_bind, Option.bind_some,
    mark?_cons (show isWhiteSpace '-' = false by decide),
    @number?_paddedDigits _ 2 month (by decide) hm,
    @number?_paddedDigits _ 2 day (by decide) hd]
  rfl

theorem fraction?_paddedDigits (hw : 0 < width) (hwidth : width ≤ 9) (hn : n < 10 ^ width) :
    fraction? ('.' :: (paddedDigits width n ++ 'Z' :: rest)) =
      some (n * 10 ^ (9 - width), 'Z' :: rest) := by
  have hlength := length_paddedDigits hw hn
  rw [fraction?, digits?_append paddedDigits_ne_nil (fun _ => isDigit_of_mem_paddedDigits)
    (hlength.le.trans hwidth) (.inr (by simp)), Option.bind_eq_bind, Option.bind_some]
  simp only [digitsValue_paddedDigits, hlength]
  rfl

/-- A fraction of a second is read as it was written, with as many digits as it takes. -/
theorem fraction?_fractionText {nanos : Nat} (hn : nanos < Instant.nanosPerSecond) :
    fraction? ((Instant.fractionText nanos).toList ++ 'Z' :: rest) =
      some (nanos, 'Z' :: rest) := by
  have hpoint (width n : Nat) :
      ("." ++ zeroPadded width n).toList ++ 'Z' :: rest =
        '.' :: (paddedDigits width n ++ 'Z' :: rest) := by
    rw [String.toList_append, toList_zeroPadded]
    rfl
  unfold Instant.nanosPerSecond at hn
  unfold Instant.fractionText
  split_ifs with hzero hmillis hmicros
  · rw [hzero]
    rfl
  · rw [hpoint, fraction?_paddedDigits (by decide) (by decide) (by omega)]
    congr 2
    omega
  · rw [hpoint, fraction?_paddedDigits (by decide) (by decide) (by omega)]
    congr 2
    omega
  · rw [hpoint, fraction?_paddedDigits (by decide) (by decide) (by omega)]
    congr 2
    omega

/-- A time of day is read as it was written; the sixtieth second counts as the one before it with
its nanoseconds. -/
theorem time?_append {hour minute second nanos : Nat} (hh : hour < 24) (hm : minute < 60)
    (hs : second ≤ 60) (hn : nanos < Instant.nanosPerSecond) :
    time? (paddedDigits 2 hour ++ ':' :: (paddedDigits 2 minute ++ ':' ::
      (paddedDigits 2 second ++ ((Instant.fractionText nanos).toList ++ 'Z' :: rest)))) =
    some ((hour * 3600 + minute * 60 + second - (if second = 60 then 1 else 0),
      nanos + (if second = 60 then 1 else 0) * Instant.nanosPerSecond), 'Z' :: rest) := by
  rw [time?, number?_paddedDigits (by decide) (by omega)]
  simp only [Option.bind_eq_bind, Option.bind_some,
    mark?_cons (show isWhiteSpace ':' = false by decide),
    @number?_paddedDigits _ 2 minute (by decide) (by omega),
    @number?_paddedDigits _ 2 second (by decide) (by omega), fraction?_fractionText hn]
  rw [if_pos ⟨hh, hm, hs⟩]
  rfl

theorem isDigit_of_digits? (h : digits? width cs = some (ds, rest)) :
    (∀ c ∈ ds, c.isDigit) ∧ ds.length ≤ width := by
  unfold digits? at h
  simp only at h
  split_ifs at h
  obtain ⟨rfl, -⟩ := Prod.mk.inj (Option.some.inj h)
  exact ⟨List.all_eq_true.1 List.all_takeWhile,
    (List.takeWhile_sublist _).length_le.trans (List.length_take_le ..)⟩

theorem foldl_digits_lt : ∀ {ds : List Char} {n : Nat}, (∀ c ∈ ds, c.isDigit) →
    ds.foldl (fun n c => n * 10 + (c.toNat - 48)) n < (n + 1) * 10 ^ ds.length
  | [], n, _ => by simp
  | c :: ds, n, h => by
    obtain ⟨hc, hds⟩ := List.forall_mem_cons.1 h
    have hdigit : c.toNat - 48 < 10 := by
      have hc : 48 ≤ c.toNat ∧ c.toNat ≤ 57 := toNat_of_isDigit hc
      omega
    calc (c :: ds).foldl (fun n c => n * 10 + (c.toNat - 48)) n
        < (n * 10 + (c.toNat - 48) + 1) * 10 ^ ds.length := foldl_digits_lt hds
      _ ≤ ((n + 1) * 10) * 10 ^ ds.length := Nat.mul_le_mul_right _ (by omega)
      _ = (n + 1) * 10 ^ (c :: ds).length := by
          rw [List.length_cons, Nat.pow_succ', Nat.mul_assoc]

theorem digitsValue_lt (hds : ∀ c ∈ ds, c.isDigit) : digitsValue ds < 10 ^ ds.length := by
  have h := @foldl_digits_lt ds 0 hds
  rwa [Nat.zero_add, Nat.one_mul] at h

theorem fraction?_lt {nanos : Nat} (h : fraction? cs = some (nanos, rest)) :
    nanos < Instant.nanosPerSecond := by
  unfold fraction? at h
  split at h
  · obtain ⟨⟨ds, rest'⟩, hds, hvalue⟩ := Option.bind_eq_some_iff.1 h
    obtain ⟨hdigits, hlength⟩ := isDigit_of_digits? hds
    obtain ⟨rfl, -⟩ := Prod.mk.inj (Option.some.inj hvalue)
    calc digitsValue ds * 10 ^ (9 - ds.length) < 10 ^ ds.length * 10 ^ (9 - ds.length) :=
          Nat.mul_lt_mul_of_pos_right (digitsValue_lt hdigits) (Nat.pow_pos (by decide))
      _ = Instant.nanosPerSecond := by
          rw [← Nat.pow_add, Nat.add_sub_cancel' hlength]
          rfl
  · obtain ⟨rfl, -⟩ := Prod.mk.inj (Option.some.inj h)
    decide

/-- A time that is read is one of the day, or a leap second at the end of a minute. -/
theorem time?_bounds {second nanos : Nat} (h : time? cs = some ((second, nanos), rest)) :
    nanos < 2 * Instant.nanosPerSecond ∧ (Instant.nanosPerSecond ≤ nanos → second % 60 = 59) := by
  unfold time? at h
  simp only [Option.bind_eq_bind, Option.bind_eq_some_iff, Prod.exists] at h
  obtain ⟨hour, cs₁, -, cs₂, -, minute, cs₃, -, cs₄, -, s, cs₅, -, f, cs₆, hf, h⟩ := h
  have hf := fraction?_lt hf
  split_ifs at h with hbounds hleap
  all_goals
    obtain ⟨htime, -⟩ := Prod.mk.inj (Option.some.inj h)
    obtain ⟨rfl, rfl⟩ := Prod.mk.inj htime
    constructor <;> omega

/-- An offset is one of whole minutes. -/
theorem zone?_minutes {offset : Int} (h : zone? cs = some (offset, rest)) : offset % 60 = 0 := by
  have hoffset {cs : List Char} (h : offset? cs = some (offset, rest)) : offset % 60 = 0 := by
    simp only [offset?, Option.bind_eq_bind, Option.bind_eq_some_iff, Prod.exists] at h
    obtain ⟨west, cs₁, -, hours, cs₂, -, minutes, cs₃, -, h⟩ := h
    split_ifs at h
    all_goals
      obtain ⟨rfl, -⟩ := Prod.mk.inj (Option.some.inj h)
      omega
  unfold zone? at h
  split at h
  · obtain ⟨rfl, -⟩ := Prod.mk.inj (Option.some.inj h)
    rfl
  · obtain ⟨rfl, -⟩ := Prod.mk.inj (Option.some.inj h)
    rfl
  · split_ifs at h
    · obtain ⟨rfl, -⟩ := Prod.mk.inj (Option.some.inj h)
      rfl
    · exact hoffset h
  · exact hoffset h

end Stamp

namespace Instant

open Stamp

variable {t : Instant}

theorem toList_stamp : t.stamp.toList = (yearText t.date.year).toList ++ '-' ::
    (paddedDigits 2 t.date.month ++ '-' :: (paddedDigits 2 t.date.day ++ 'T' ::
      (paddedDigits 2 t.hour ++ ':' :: (paddedDigits 2 t.minute ++ ':' ::
        (paddedDigits 2 t.second ++ ((fractionText t.fraction).toList ++ ['Z'])))))) := by
  simp only [stamp, localText, String.toList_append, toList_zeroPadded, List.append_assoc]
  rfl

theorem second_eq (h : t.OnClock) : t.second ≤ 60 ∧
    t.secondOfDay = t.hour * 3600 + t.minute * 60 + t.second - (if t.second = 60 then 1 else 0) ∧
    t.nanos = t.fraction + (if t.second = 60 then 1 else 0) * nanosPerSecond := by
  have hleap : nanosPerSecond ≤ t.nanos → t.secondOfDay % 60 = 59 := by
    intro hn
    have hs := h.leap hn
    unfold secondOfDay
    omega
  have hnanos := h.nanos
  unfold second hour minute fraction
  unfold nanosPerSecond at *
  split_ifs <;> omega

theorem date_bounds : t.date.month < 100 ∧ t.date.day < 100 := by
  have h := Date.isValid_ofDayNumber (t.seconds / 86400)
  simp only [Date.isValid, Bool.and_eq_true, decide_eq_true_eq] at h
  have hdays : daysInMonth t.date.year t.date.month ≤ 31 := by
    unfold daysInMonth
    split_ifs <;> omega
  exact ⟨by have := h.1.1.2; unfold date; omega, by have := h.2; unfold date at *; omega⟩

/-- An instant that a clock can show is read from its stamp. -/
theorem ofText?_stamp (h : t.OnClock) : ofText? t.stamp = some t := by
  obtain ⟨hs, hsecond, hnanos⟩ := second_eq h
  obtain ⟨hmonth, hday⟩ := @date_bounds t
  have hh : t.hour < 24 := by
    unfold hour secondOfDay
    omega
  have hm : t.minute < 60 := by
    unfold minute
    omega
  have hf : t.fraction < nanosPerSecond := Nat.mod_lt _ (by decide)
  have hinstant : (⟨t.date.dayNumber * 86400 + t.secondOfDay - 0, t.nanos⟩ : Instant) = t := by
    have hseconds : t.date.dayNumber * 86400 + t.secondOfDay - 0 = t.seconds := by
      rw [date, Date.dayNumber_ofDayNumber]
      unfold secondOfDay
      omega
    rw [hseconds]
  have hread : instant? t.date t.secondOfDay t.nanos 0 = some t := by
    have hvalid : t.date.isValid := Date.isValid_ofDayNumber _
    unfold instant?
    rw [hinstant]
    simp [hvalid, h.year]
  have htime := @time?_append [] _ _ _ _ hh hm hs hf
  rw [← hsecond, ← hnanos] at htime
  rw [ofText?, toList_stamp, date?_append hmonth hday]
  simp only [Option.bind_eq_bind, Option.bind_some, separator?, htime]
  exact hread

/-- Only instants that a clock can show are read. -/
theorem onClock_of_ofText? {s : String} (h : ofText? s = some t) : t.OnClock := by
  simp only [ofText?, Option.bind_eq_bind, Option.bind_eq_some_iff, Prod.exists] at h
  obtain ⟨date, cs₁, -, cs₂, -, second, nanos, cs₃, htime, offset, cs₄, hzone, h⟩ := h
  obtain ⟨hnanos, hleap⟩ := time?_bounds htime
  have hminutes := zone?_minutes hzone
  unfold instant? at h
  simp only at h
  split_ifs at h with hend hvalid
  obtain rfl := Option.some.inj h
  exact ⟨(Bool.and_eq_true_iff.1 hvalid).2, hnanos, fun hn => by have := hleap hn; simp only; omega⟩

theorem ofText?_stamp_iff : ofText? t.stamp = some t ↔ t.OnClock :=
  ⟨onClock_of_ofText?, ofText?_stamp⟩

end Instant

end Provisioning.Calendar
