import Mathlib.Tactic.Common
import Provisioning.Json.Numeral
import Provisioning.Json.Printer

/-!
# Numbers as they are read back

A number is written as a proper numeral, an integer by its digits alone and a double with a point or
an exponent, and a proper numeral is read as its own parts wherever nothing goes on with it
(`read?_chars`). So an integer of sixty-four bits is read as itself (`toJson_ofInt`), and a double
as whatever its decimal is rounded to, which is always a double or nothing (`toJson_ofDouble`).
-/

namespace Provisioning.Json.Numeral

/-- A point with digits behind it, if there are any. -/
def fractionChars (ds : List Char) : List Char :=
  if ds.isEmpty then [] else '.' :: ds

def exponentChars : Option Int → List Char
  | some e => 'e' :: (toString e).toList
  | none => []

/-- The numeral as it is written, without its sign. -/
def sizeChars (n : Numeral) : List Char :=
  n.whole ++ (fractionChars n.fraction ++ exponentChars n.exponent)

/-- The numeral as it is written. -/
def chars (n : Numeral) : List Char :=
  (if n.negative then ['-'] else []) ++ n.sizeChars

/-- Numerals that can be written: digits with no zero in front, but for the zero alone. -/
structure Proper (n : Numeral) : Prop where
  whole_ne_nil : n.whole ≠ []
  whole_digits : ∀ c ∈ n.whole, c.isDigit
  leading : n.whole = ['0'] ∨ n.whole.head? ≠ some '0'
  fraction_digits : ∀ c ∈ n.fraction, c.isDigit

/-- Whether nothing goes on with a numeral before a text. -/
def closes : List Char → Bool
  | [] => true
  | c :: _ => !c.isDigit && c != '.' && c != 'e' && c != 'E'

section Read

variable {ds rest : List Char} {n : Numeral}

theorem digitsOf_of_closes (h : closes rest) : digitsOf rest = [] := by
  rcases rest with _ | ⟨c, rest⟩
  · rfl
  · have hc : c.isDigit = false := by
      simp only [closes, Bool.and_eq_true, Bool.not_eq_true'] at h
      exact h.1.1.1
    rw [digitsOf, List.takeWhile_cons_of_neg (by rw [hc]; exact Bool.false_ne_true)]

theorem digitsOf_append (hds : ∀ c ∈ ds, c.isDigit) (hrest : digitsOf rest = []) :
    digitsOf (ds ++ rest) = ds := by
  rw [digitsOf, List.takeWhile_append_of_pos hds, ← digitsOf, hrest, List.append_nil]

theorem whole?_append (hne : ds ≠ []) (hds : ∀ c ∈ ds, c.isDigit)
    (hlead : ds = ['0'] ∨ ds.head? ≠ some '0') (hrest : digitsOf rest = []) :
    whole? (ds ++ rest) = some (ds, rest) := by
  unfold whole?
  rw [digitsOf_append hds hrest]
  split
  · exact absurd rfl hne
  · rfl
  · rcases hlead with h | h
    · simp_all
    · simp at h
  · rw [List.drop_left]

theorem fraction?_append (hds : ∀ c ∈ ds, c.isDigit) (hrest : digitsOf rest = [])
    (hpoint : rest.head? ≠ some '.') : fraction? (fractionChars ds ++ rest) = some (ds, rest) := by
  rcases ds with _ | ⟨d, ds⟩
  · rcases rest with _ | ⟨c, rest⟩
    · rfl
    · show fraction? (c :: rest) = _
      unfold fraction?
      split
      · simp_all
      · rfl
  · show fraction? ('.' :: (d :: ds ++ rest)) = _
    rw [fraction?, digitsOf_append hds hrest]
    simp

theorem digitsOf_fractionChars (hrest : digitsOf rest = []) :
    digitsOf (fractionChars ds ++ rest) = [] := by
  rcases ds with _ | ⟨d, ds⟩
  · exact hrest
  · rfl

theorem exponentDigits?_append {negative : Bool} (hne : ds ≠ []) (hds : ∀ c ∈ ds, c.isDigit)
    (hrest : digitsOf rest = []) :
    exponentDigits? negative (ds ++ rest) =
      some (some (if negative then -(natOf ds : Int) else natOf ds), rest) := by
  rw [exponentDigits?, digitsOf_append hds hrest]
  simp [hne]

end Read

section Digits

variable {n : Nat}

theorem isDigit_of_mem_toDigits {c : Char} (h : c ∈ Nat.toDigits 10 n) : c.isDigit :=
  Nat.isDigit_of_mem_toDigits (by decide) (by decide) h

theorem isDigit_of_mem_zero {c : Char} (h : c ∈ ['0']) : c.isDigit := by
  rw [List.mem_singleton.1 h]
  rfl

theorem natOf_toDigits : natOf (Nat.toDigits 10 n) = n := by
  have h : natOf (Nat.toDigits 10 n) = Nat.ofDigitChars 10 (Nat.toDigits 10 n) 0 := by
    rw [Nat.ofDigitChars_eq_foldl, natOf]
    congr 1
    funext k c
    rw [Nat.mul_comm]
    rfl
  rw [h, Nat.ofDigitChars_ten_toDigits]

theorem head?_toDigits : ∀ {n : Nat}, n ≠ 0 → (Nat.toDigits 10 n).head? ≠ some '0' := by
  intro n
  induction n using Nat.strongRecOn with
  | ind n ih =>
    intro hn
    rw [Nat.toDigits_eq_if (by decide)]
    by_cases hlt : n < 10
    · rw [if_pos hlt, List.head?_cons, ne_eq, Option.some.injEq, Nat.digitChar_eq_zero]
      exact hn
    · have hhead := ih (n / 10) (by omega) (by omega)
      rw [if_neg hlt]
      rcases hds : Nat.toDigits 10 (n / 10) with _ | ⟨d, ds⟩
      · exact absurd hds Nat.toDigits_ne_nil
      · rwa [hds] at hhead

theorem toList_toString_nat : (toString n).toList = Nat.toDigits 10 n := by
  rw [Nat.toString_eq_ofList_toDigits, String.toList_ofList]

theorem toList_toString_int {i : Int} :
    (toString i).toList = (if i < 0 then ['-'] else []) ++ Nat.toDigits 10 i.natAbs := by
  rw [Int.toString_eq_repr, Int.repr_eq_if]
  by_cases hi : i < 0
  · have habs : (-i).toNat = i.natAbs := by omega
    rw [if_neg (by omega), if_pos hi, String.toList_append, Nat.repr_eq_ofList_toDigits,
      String.toList_ofList, String.toList_ofList, habs]
  · have habs : i.toNat = i.natAbs := by omega
    rw [if_pos (by omega), if_neg hi, Nat.repr_eq_ofList_toDigits, String.toList_ofList, habs,
      List.nil_append]

end Digits

section Chars

variable {n : Numeral} {rest : List Char} {exponent : Option Int}

theorem digitsOf_exponentChars (hrest : closes rest) :
    digitsOf (exponentChars exponent ++ rest) = [] := by
  rcases exponent with _ | e
  · exact digitsOf_of_closes hrest
  · rfl

theorem head?_exponentChars (hrest : closes rest) :
    (exponentChars exponent ++ rest).head? ≠ some '.' := by
  rcases exponent with _ | e
  · rcases rest with _ | ⟨c, rest⟩
    · simp [exponentChars]
    · simp only [closes, Bool.and_eq_true, bne_iff_ne] at hrest
      simpa [exponentChars] using hrest.1.1.2
  · simp [exponentChars]

theorem exponent?_of_isDigit {d : Char} {cs : List Char} (hd : d.isDigit) :
    exponent? ('e' :: d :: cs) = exponentDigits? false (d :: cs) := by
  rw [exponent?, if_pos (Or.inl rfl)]
  -- a digit is no sign
  all_goals
    rintro _ ⟨⟩
    exact absurd hd (by decide)

theorem exponent?_append (hrest : closes rest) :
    exponent? (exponentChars exponent ++ rest) = some (exponent, rest) := by
  rcases exponent with _ | e
  · rcases rest with _ | ⟨c, rest⟩
    · rfl
    · have hc : ¬(c = 'e' ∨ c = 'E') := by
        simp only [closes, Bool.and_eq_true, bne_iff_ne] at hrest
        tauto
      show (if c = 'e' ∨ c = 'E' then _ else some (none, c :: rest)) = _
      rw [if_neg hc]
  · have hdigits (negative : Bool) :
        exponentDigits? negative (Nat.toDigits 10 e.natAbs ++ rest) = _ :=
      exponentDigits?_append Nat.toDigits_ne_nil (fun _ => isDigit_of_mem_toDigits)
        (digitsOf_of_closes hrest)
    show exponent? ('e' :: ((toString e).toList ++ rest)) = _
    rw [toList_toString_int]
    by_cases he : e < 0
    · rw [if_pos he]
      refine (hdigits true).trans ?_
      rw [natOf_toDigits, if_pos rfl, show -(e.natAbs : Int) = e by omega]
    · rw [if_neg he, List.nil_append]
      refine Eq.trans ?_ ((hdigits false).trans ?_)
      · rcases hds : Nat.toDigits 10 e.natAbs with _ | ⟨d, ds⟩
        · exact absurd hds Nat.toDigits_ne_nil
        · refine exponent?_of_isDigit (isDigit_of_mem_toDigits (n := e.natAbs) ?_)
          rw [hds]
          exact List.mem_cons_self
      · rw [natOf_toDigits, if_neg Bool.false_ne_true, show (e.natAbs : Int) = e by omega]

/-- What comes behind the sign. -/
def unsigned? (negative : Bool) (cs : List Char) : Option (Numeral × List Char) := do
  let (whole, cs) ← whole? cs
  let (fraction, cs) ← fraction? cs
  let (exponent, cs) ← exponent? cs
  return ({ negative, whole, fraction, exponent }, cs)

theorem read?_minus {cs : List Char} : read? ('-' :: cs) = unsigned? true cs :=
  rfl

theorem read?_of_isDigit {d : Char} {cs : List Char} (hd : d.isDigit) :
    read? (d :: cs) = unsigned? false (d :: cs) := by
  unfold read?
  split
  rename_i negative cs' h
  split at h
  · simp_all
  · obtain ⟨rfl, rfl⟩ := Prod.mk.inj h
    rfl

/-- A proper numeral is read as its own parts. -/
theorem read?_chars (h : n.Proper) (hrest : closes rest) :
    read? (n.chars ++ rest) = some (n, rest) := by
  obtain ⟨negative, whole, fraction, exponent⟩ := n
  obtain ⟨hne, hwhole, hlead, hfraction⟩ := h
  have hdigits : digitsOf (exponentChars exponent ++ rest) = [] := digitsOf_exponentChars hrest
  have hunsigned : unsigned? negative
      (whole ++ (fractionChars fraction ++ (exponentChars exponent ++ rest))) =
        some (⟨negative, whole, fraction, exponent⟩, rest) := by
    rw [unsigned?, whole?_append hne hwhole hlead (digitsOf_fractionChars hdigits)]
    simp only [Option.bind_eq_bind, Option.bind_some,
      fraction?_append hfraction hdigits (head?_exponentChars hrest), exponent?_append hrest]
    rfl
  rw [chars, sizeChars, List.append_assoc, List.append_assoc, List.append_assoc]
  rcases negative with _ | _
  · rcases whole with _ | ⟨d, whole⟩
    · exact absurd rfl hne
    · exact (read?_of_isDigit (hwhole d List.mem_cons_self)).trans hunsigned
  · exact read?_minus.trans hunsigned

end Chars

section Integers

variable {i : Int}

/-- The numeral of an integer. -/
def ofInt (i : Int) : Numeral :=
  ⟨decide (i < 0), Nat.toDigits 10 i.natAbs, [], none⟩

theorem chars_ofInt : (ofInt i).chars = (toString i).toList := by
  rw [toList_toString_int, chars, ofInt]
  by_cases hi : i < 0 <;> simp [hi, sizeChars, fractionChars, exponentChars]

theorem toDigits_leading {n : Nat} :
    Nat.toDigits 10 n = ['0'] ∨ (Nat.toDigits 10 n).head? ≠ some '0' := by
  by_cases hn : n = 0
  · exact .inl (hn ▸ Nat.toDigits_zero 10)
  · exact .inr (head?_toDigits hn)

theorem proper_ofInt : (ofInt i).Proper where
  whole_ne_nil := Nat.toDigits_ne_nil
  whole_digits _ := isDigit_of_mem_toDigits
  leading := toDigits_leading
  fraction_digits _ h := absurd h List.not_mem_nil

/-- An integer of sixty-four bits, signed or not, is read as itself. -/
theorem toJson_ofInt (hlow : -Nat.pow 2 63 ≤ i) (hhigh : i ≤ maxWord) :
    (ofInt i).toJson = .int i := by
  have habs : natOf (Nat.toDigits 10 i.natAbs) = i.natAbs := natOf_toDigits
  unfold toJson
  rw [if_pos]
  · simp only [ofInt, habs]
    by_cases hi : i < 0
    · rw [decide_eq_true hi, if_pos rfl]
      congr 1
      omega
    · rw [decide_eq_false hi, if_neg Bool.false_ne_true]
      congr 1
      omega
  · simp only [ofInt, habs, List.isEmpty_nil, Option.isNone_none, Bool.true_and]
    by_cases hi : i < 0
    · rw [decide_eq_true hi, if_pos rfl, Bool.and_eq_true, decide_eq_true_eq, decide_eq_true_eq]
      omega
    · rw [decide_eq_false hi, if_neg Bool.false_ne_true, decide_eq_true_eq]
      omega

end Integers

section Decimals

variable {d : Decimal} {negative : Bool}

/-- The numeral of a decimal: up to a point in its place, else with an exponent. -/
def ofDecimal (negative : Bool) (d : Decimal) : Numeral :=
  let ds := Nat.toDigits 10 d.digits
  let place := (ds.length : Int) + d.exponent
  if -5 < place ∧ place ≤ 16 then
    if 0 ≤ d.exponent then ⟨negative, ds ++ List.replicate d.exponent.toNat '0', ['0'], none⟩
    else if ds.length ≤ d.exponent.natAbs then
      ⟨negative, ['0'], List.replicate (d.exponent.natAbs - ds.length) '0' ++ ds, none⟩
    else
      ⟨negative, ds.take (ds.length - d.exponent.natAbs), ds.drop (ds.length - d.exponent.natAbs),
        none⟩
  else ⟨negative, ds.take 1, ds.drop 1, some (d.exponent + ((ds.drop 1).length : Int))⟩

theorem sizeChars_ofDecimal : (ofDecimal negative d).sizeChars = (decimalText d).toList := by
  have hdigits : (toString d.digits).toList = Nat.toDigits 10 d.digits := toList_toString_nat
  have hlength : (toString d.digits).length = (Nat.toDigits 10 d.digits).length := by
    rw [← String.length_toList, hdigits]
  unfold ofDecimal decimalText Decimal.layout scientific
  simp only [hlength, hdigits]
  by_cases hplace : -5 < ((Nat.toDigits 10 d.digits).length : Int) + d.exponent ∧
      ((Nat.toDigits 10 d.digits).length : Int) + d.exponent ≤ 16
  · rw [if_pos hplace, if_pos hplace]
    by_cases he : 0 ≤ d.exponent
    · rw [if_pos he, if_pos he, if_pos he]
      simp [sizeChars, fractionChars, exponentChars]
    · rw [if_neg he, if_neg he, if_neg he]
      by_cases hlong : (Nat.toDigits 10 d.digits).length ≤ d.exponent.natAbs
      · rw [if_pos hlong, if_pos hlong]
        simp [sizeChars, fractionChars, exponentChars]
      · have hne : ¬ (List.drop ((Nat.toDigits 10 d.digits).length - d.exponent.natAbs)
            (Nat.toDigits 10 d.digits)).isEmpty := by
          rw [List.isEmpty_iff, List.drop_eq_nil_iff]
          omega
        rw [if_neg hlong, if_neg hlong, String.toList_append, String.toList_append,
          String.toList_ofList, String.toList_ofList, sizeChars, fractionChars, if_neg hne]
        simp [exponentChars]
  · rw [if_neg hplace, if_neg hplace, String.toList_append, String.toList_append,
      String.toList_ofList, sizeChars, ← fractionChars, exponentChars]
    simp

theorem proper_ofDecimal (hd : d.digits ≠ 0) : (ofDecimal negative d).Proper := by
  have hzeros {k : Nat} {c : Char} (h : c ∈ List.replicate k '0') : c.isDigit :=
    isDigit_of_mem_zero (List.mem_singleton.2 (List.eq_of_mem_replicate h))
  obtain ⟨first, ds, hds, hfirst⟩ : ∃ c ds, Nat.toDigits 10 d.digits = c :: ds ∧ c ≠ '0' := by
    rcases hds : Nat.toDigits 10 d.digits with _ | ⟨c, ds⟩
    · exact absurd hds Nat.toDigits_ne_nil
    · exact ⟨c, ds, rfl, fun hc => head?_toDigits hd (by rw [hds, hc]; rfl)⟩
  have hall {c : Char} (h : c ∈ first :: ds) : c.isDigit := isDigit_of_mem_toDigits (hds ▸ h)
  unfold ofDecimal
  dsimp only
  rw [hds]
  split_ifs with hplace he hlong
  · refine ⟨by simp, fun c hc => ?_, .inr (by simpa using hfirst), fun _ => isDigit_of_mem_zero⟩
    exact (List.mem_append.1 hc).elim hall hzeros
  · refine ⟨by simp, fun _ => isDigit_of_mem_zero, .inl rfl, fun c hc => ?_⟩
    exact (List.mem_append.1 hc).elim hzeros hall
  · obtain ⟨k, hk⟩ : ∃ k, (first :: ds).length - d.exponent.natAbs = k + 1 :=
      ⟨(first :: ds).length - d.exponent.natAbs - 1, by omega⟩
    rw [hk]
    refine ⟨by simp, fun c hc => hall (List.mem_of_mem_take hc), .inr (by simpa using hfirst),
      fun c hc => hall (List.mem_of_mem_drop hc)⟩
  · refine ⟨by simp, fun c hc => hall (List.mem_of_mem_take hc), .inr (by simpa using hfirst),
      fun c hc => hall (List.mem_of_mem_drop hc)⟩

theorem negative_ofDecimal : (ofDecimal negative d).negative = negative := by
  unfold ofDecimal
  dsimp only
  split_ifs <;> rfl

/-- A decimal is not written as an integer. -/
theorem isReal_ofDecimal :
    (ofDecimal negative d).fraction ≠ [] ∨ (ofDecimal negative d).exponent ≠ none := by
  unfold ofDecimal
  dsimp only
  split_ifs with hplace he hlong
  · exact .inl (by simp)
  · exact .inl (by simp)
  · refine .inl ?_
    rw [ne_eq, List.drop_eq_nil_iff]
    omega
  · exact .inr (by simp)

end Decimals

end Provisioning.Json.Numeral

namespace Provisioning.Decimal

variable {d : Decimal} {x : Double} {tie : Tie}

theorem significand_pos (hx : x.isZero = false) : 0 < x.significand := by
  have hm : x.magnitude ≠ 0 := by
    simpa [Double.isZero] using hx
  unfold Double.significand
  split_ifs
  · exact Nat.pos_of_ne_zero hm
  · exact Nat.add_pos_left (Nat.pow_pos (by decide)) _

theorem num_pos (hx : x.isZero = false) : 0 < x.num :=
  Nat.mul_pos (significand_pos hx) (Nat.pow_pos (by decide))

/-- What reads back to a number other than zero is not zero. -/
theorem digits_of_readsBack (hx : x.isZero = false) (h : d.readsBack x) : d.digits ≠ 0 := by
  intro hd
  have hm := significand_pos hx
  have hlow {n : Nat} {j : Int} (hn : 0 < n) :
      compareScaled d.digits d.exponent n j = .lt := by
    rw [compareScaled, hd, Nat.zero_mul, Nat.zero_mul, Nat.compare_eq_lt]
    exact Nat.mul_pos (Nat.mul_pos hn (Nat.pow_pos (by decide))) (Nat.pow_pos (by decide))
  unfold readsBack at h
  simp only at h
  rw [hlow (by split_ifs <;> omega)] at h
  simp at h

theorem readsBack_of_onGrid? {e : Int} (h : onGrid? tie x e = some d) : d.readsBack x := by
  simp only [onGrid?] at h
  split at h
  · rename_i hlow hhigh
    split at h
    all_goals obtain rfl := Option.some.inj h
    · exact hlow
    · exact hhigh
    · exact hhigh
    · split_ifs
      · exact hlow
      · exact hhigh
  · rename_i hlow _
    exact Option.some.inj h ▸ hlow
  · rename_i _ hhigh
    exact Option.some.inj h ▸ hhigh
  · cases h

theorem digits_stripZeros {fuel : Nat} : ∀ {d : Decimal}, d.digits ≠ 0 →
    (stripZeros fuel d).digits ≠ 0 := by
  induction fuel with
  | zero => exact fun h => h
  | succ fuel ih =>
    intro d h
    rw [stripZeros]
    split_ifs with hd
    · refine ih ?_
      show d.digits / 10 ≠ 0
      omega
    · exact h

theorem digits_shortest (hx : x.isZero = false) : (shortest tie x).digits ≠ 0 := by
  unfold shortest
  dsimp only
  split
  · rename_i d hd
    obtain ⟨n, -, hn⟩ := List.exists_of_findSome?_eq_some hd
    exact digits_stripZeros (digits_of_readsBack hx (readsBack_of_onGrid? hn))
  · exact Nat.ne_of_gt (Nat.mul_pos (num_pos hx) (Nat.pow_pos (by decide)))

end Provisioning.Decimal

namespace Provisioning.Json.Numeral

section Doubles

variable {d : Double}

/-- The numeral of a finite double. -/
def ofDouble (d : Double) : Numeral :=
  if d.isZero then ⟨d.negative, ['0'], ['0'], none⟩
  else ofDecimal d.negative (Decimal.shortest .even d)

theorem chars_ofDouble : (ofDouble d).chars = (doubleText d).toList := by
  have hsign : (if d.negative then "-" else "").toList = if d.negative then ['-'] else [] := by
    split_ifs <;> rfl
  rw [doubleText, String.toList_append, hsign, chars, ofDouble]
  by_cases hd : d.isZero
  · rw [if_pos hd, if_pos hd]
    rfl
  · rw [if_neg hd, if_neg hd, negative_ofDecimal, sizeChars_ofDecimal]

theorem proper_ofDouble : (ofDouble d).Proper := by
  unfold ofDouble
  split_ifs with hd
  · exact ⟨by simp, fun _ => isDigit_of_mem_zero, .inl rfl, fun _ => isDigit_of_mem_zero⟩
  · exact proper_ofDecimal (Decimal.digits_shortest (Bool.eq_false_iff.2 hd))

/-- The numeral of a double stands for a double or for nothing. -/
theorem toJson_ofDouble : (ofDouble d).toJson =
    match (ofDouble d).toDouble? with
    | some x => .double x
    | none => .unreadable := by
  have hreal : (ofDouble d).fraction ≠ [] ∨ (ofDouble d).exponent ≠ none := by
    unfold ofDouble
    split_ifs
    · exact .inl (by simp)
    · exact isReal_ofDecimal
  have hword : ((ofDouble d).fraction.isEmpty && (ofDouble d).exponent.isNone) = false := by
    rw [Bool.and_eq_false_iff]
    exact hreal.imp (fun h => by simpa using h)
      fun h => by simpa [Option.isSome_iff_ne_none] using h
  unfold toJson
  rw [hword]
  rfl

end Doubles

end Provisioning.Json.Numeral
