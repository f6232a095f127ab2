import DataDiagram.Number.Fixed
import Mathlib.Algebra.Order.Field.Power
import Mathlib.Data.Rat.Cast.Order
import Mathlib.Tactic.FieldSimp
import Mathlib.Tactic.Linarith
import Mathlib.Tactic.NormNum
import Mathlib.Tactic.Positivity
import Mathlib.Tactic.Ring
/-!
# Rounding keeps the order

The number of double precision nearest to a quotient does not get smaller when the quotient gets
larger, and neither do the digits it is printed with.  Two quotients with the same exponent are
compared by their mantissas; if the exponents differ, a power of two stands between the rounded
quotients.
-/

namespace DataDiagram.Binary64

variable {a b c d k : Nat} {e f : Int}

/-! ### Quotients of naturals -/

theorem roundDiv_mono (hb : 0 < b) (hd : 0 < d) (h : (a : ℚ) / b ≤ c / d) :
    roundDiv a b ≤ roundDiv c d := by
  rw [div_le_div_iff₀ (by exact_mod_cast hb) (by exact_mod_cast hd)] at h
  norm_cast at h
  have hq : a / b ≤ c / d := by
    rw [Nat.le_div_iff_mul_le hd]
    refine Nat.le_of_mul_le_mul_right ?_ hb
    calc a / b * d * b = a / b * b * d := Nat.mul_right_comm _ _ _
      _ ≤ a * d := Nat.mul_le_mul_right d (Nat.div_mul_le_self a b)
      _ ≤ c * b := h
  rcases Nat.lt_or_eq_of_le hq with hlt | heq
  · simp only [roundDiv]
    split <;> split <;> omega
  · -- with equal integral parts the rests are in order, and the greater one is rounded up first
    have hrest : 2 * (a % b) * d ≤ 2 * (c % d) * b := by
      have ha := congrArg (· * d) (Nat.div_add_mod a b)
      have hc := congrArg (· * b) (Nat.div_add_mod c d)
      simp only [Nat.add_mul, heq] at ha hc
      have hcomm : b * (c / d) * d = d * (c / d) * b := by ring
      rw [Nat.mul_assoc, Nat.mul_assoc]
      omega
    have hup (hle : b ≤ 2 * (a % b)) : d ≤ 2 * (c % d) := by
      refine Nat.le_of_mul_le_mul_right (c := b) ?_ hb
      exact (Nat.mul_comm d b ▸ Nat.mul_le_mul_right d hle).trans hrest
    have hover (hlt : b < 2 * (a % b)) : d < 2 * (c % d) := by
      refine Nat.lt_of_mul_lt_mul_right (a := b) ?_
      exact (Nat.mul_comm d b ▸ Nat.mul_lt_mul_of_pos_right hlt hd).trans_le hrest
    simp only [roundDiv, Bool.or_eq_true, decide_eq_true_eq, Bool.and_eq_true, beq_iff_eq]
    split <;> split <;> omega

theorem roundDiv_one (k : Nat) : roundDiv k 1 = k := by simp [roundDiv, Nat.mod_one]

theorem roundDiv_le (hd : 0 < d) (h : (c : ℚ) / d ≤ k) : roundDiv c d ≤ k :=
  (roundDiv_mono hd Nat.one_pos (by simpa using h)).trans_eq (roundDiv_one k)

theorem le_roundDiv (hd : 0 < d) (h : (k : ℚ) ≤ c / d) : k ≤ roundDiv c d :=
  (roundDiv_one k).symm.trans_le (roundDiv_mono Nat.one_pos hd (by simpa using h))

theorem roundDiv_eq (hd : 0 < d) (h : (c : ℚ) / d = k) : roundDiv c d = k :=
  le_antisymm (roundDiv_le hd h.le) (le_roundDiv hd h.ge)

/-! ### Mantissas -/

theorem scaled_pos (num : Nat) (e : Int) (h : 0 < d) : 0 < (scaled num d e).2 := by
  simp only [scaled]
  split
  · exact Nat.mul_pos h (Nat.pow_pos (by decide))
  · exact h

theorem scaled_ratio (num den : Nat) (e : Int) :
    ((scaled num den e).1 : ℚ) / (scaled num den e).2 = num / den / 2 ^ e := by
  simp only [scaled]
  split
  case isTrue h =>
    obtain ⟨n, rfl⟩ := Int.eq_ofNat_of_zero_le h
    simp [Nat.pow_eq, div_div]
  case isFalse h =>
    obtain ⟨n, hn⟩ := Int.eq_ofNat_of_zero_le (show 0 ≤ -e by omega)
    obtain rfl : e = -(n : Int) := by omega
    simp [Nat.pow_eq, div_eq_mul_inv, mul_right_comm]

/-- The mantissa of a quotient at an exponent. -/
def mantissaAt (num den : Nat) (e : Int) : Nat := roundDiv (scaled num den e).1 (scaled num den e).2

theorem mantissaAt_mono (hb : 0 < b) (h : a ≤ c) : mantissaAt a b e ≤ mantissaAt c b e := by
  refine roundDiv_mono (scaled_pos a e hb) (scaled_pos c e hb) ?_
  rw [scaled_ratio, scaled_ratio]
  gcongr

theorem mantissaAt_le (hd : 0 < d) (h : (c : ℚ) / d ≤ k * 2 ^ e) : mantissaAt c d e ≤ k := by
  refine roundDiv_le (scaled_pos c e hd) ?_
  rwa [scaled_ratio, div_le_iff₀ (by positivity)]

theorem le_mantissaAt (hd : 0 < d) (h : k * 2 ^ e ≤ (c : ℚ) / d) : k ≤ mantissaAt c d e := by
  refine le_roundDiv (scaled_pos c e hd) ?_
  rwa [scaled_ratio, le_div_iff₀ (by positivity)]

/-! ### Exponents -/

/-- An exponent at which the mantissa of a quotient has 53 bits. -/
def fullExponent (num den : Nat) : Int :=
  let low : Int := (num.log2 : Int) - (den.log2 : Int) - 53
  if (scaled num den low).1 / (scaled num den low).2 < Nat.pow 2 53 then low else low + 1

/-- The exponent at which a quotient is rounded. -/
def exponentOf (num den : Nat) : Int :=
  if fullExponent num den < minExponent then minExponent else fullExponent num den

theorem ofRatio_eq (negative : Bool) (ha : 0 < a) (hb : 0 < b) :
    ofRatio negative a b = pack negative (mantissaAt a b (exponentOf a b)) (exponentOf a b) := by
  have hnonzero : (a == 0 || b == 0) = false := by simp [ha.ne', hb.ne']
  simp only [ofRatio, hnonzero]
  rfl

theorem log2_bounds (h : 0 < k) : (2 : ℚ) ^ k.log2 ≤ k ∧ (k : ℚ) < 2 ^ (k.log2 + 1) :=
  ⟨by exact_mod_cast Nat.log2_self_le h.ne', by exact_mod_cast Nat.lt_log2_self⟩

theorem two_zpow_natCast_sub (m n : Nat) : (2 : ℚ) ^ ((m : Int) - n) = 2 ^ m / 2 ^ n := by
  rw [zpow_sub₀ two_ne_zero, zpow_natCast, zpow_natCast]

theorem ratio_bounds (ha : 0 < a) (hb : 0 < b) :
    (2 : ℚ) ^ ((a.log2 : Int) - (b.log2 + 1 : Nat)) ≤ a / b ∧
    (a : ℚ) / b < 2 ^ (((a.log2 + 1 : Nat) : Int) - b.log2) := by
  obtain ⟨ha1, ha2⟩ := log2_bounds ha
  obtain ⟨hb1, hb2⟩ := log2_bounds hb
  rw [two_zpow_natCast_sub, two_zpow_natCast_sub]
  have hpos : (0 : ℚ) < b := by exact_mod_cast hb
  exact ⟨div_le_div₀ (by positivity) ha1 hpos hb2.le,
    (div_lt_div_of_pos_right ha2 hpos).trans_le (by gcongr)⟩

theorem fullExponent_bounds (ha : 0 < a) (hb : 0 < b) :
    (2 : ℚ) ^ (fullExponent a b + 52) ≤ a / b ∧ (a : ℚ) / b < 2 ^ (fullExponent a b + 53) := by
  obtain ⟨hlow, hhigh⟩ := ratio_bounds ha hb
  let low : Int := (a.log2 : Int) - b.log2 - 53
  have hfits : (scaled a b low).1 / (scaled a b low).2 < Nat.pow 2 53 ↔
      (a : ℚ) / b < 2 ^ (low + 53) := by
    have hpos := scaled_pos a low hb
    rw [Nat.div_lt_iff_lt_mul hpos, zpow_add₀ two_ne_zero, mul_comm _ ((2 : ℚ) ^ (53 : Int)),
      ← div_lt_iff₀ (by positivity), ← scaled_ratio, div_lt_iff₀ (by exact_mod_cast hpos)]
    norm_cast
  by_cases h : (scaled a b low).1 / (scaled a b low).2 < Nat.pow 2 53
  · have hfull : fullExponent a b = low := if_pos h
    rw [hfull]
    exact ⟨by convert hlow using 2; push_cast; omega, hfits.1 h⟩
  · have hfull : fullExponent a b = low + 1 := if_neg h
    rw [hfull, show low + 1 + 52 = low + 53 by omega]
    exact ⟨not_lt.1 (mt hfits.2 h), by convert hhigh using 2; push_cast; omega⟩

theorem minExponent_le (a b : Nat) : minExponent ≤ exponentOf a b := by
  rw [exponentOf]
  split <;> omega

theorem lt_two_zpow (ha : 0 < a) (hb : 0 < b) : (a : ℚ) / b < 2 ^ (exponentOf a b + 53) := by
  refine (fullExponent_bounds ha hb).2.trans_le (zpow_le_zpow_right₀ one_le_two ?_)
  rw [exponentOf]
  split <;> omega

/-- A mantissa has fewer bits at the least exponent only. -/
theorem two_zpow_le (ha : 0 < a) (hb : 0 < b) :
    exponentOf a b = minExponent ∨ (2 : ℚ) ^ (exponentOf a b + 52) ≤ a / b := by
  rw [exponentOf]
  split
  · exact .inl rfl
  · exact .inr (fullExponent_bounds ha hb).1

theorem exponentOf_mono (ha : 0 < a) (hb : 0 < b) (h : a ≤ c) :
    exponentOf a b ≤ exponentOf c b := by
  rcases two_zpow_le ha hb with hmin | hpow
  · exact hmin.trans_le (minExponent_le c b)
  · have hlt : exponentOf a b + 52 < exponentOf c b + 53 := by
      rw [← zpow_lt_zpow_iff_right₀ (one_lt_two (α := ℚ))]
      exact hpow.trans_lt (lt_of_le_of_lt (by gcongr) (lt_two_zpow (ha.trans_le h) hb))
    omega

theorem exponentOf_self (hb : 0 < b) : exponentOf b b = -52 := by
  have hone : (b : ℚ) / b = 2 ^ (0 : Int) := by rw [div_self (by positivity), zpow_zero]
  have hlow : exponentOf b b + 52 ≤ 0 := by
    rcases two_zpow_le hb hb with hmin | hpow
    · rw [hmin]
      decide
    · rwa [hone, zpow_le_zpow_iff_right₀ one_lt_two] at hpow
  have hhigh := lt_two_zpow hb hb
  rw [hone, zpow_lt_zpow_iff_right₀ one_lt_two] at hhigh
  omega

/-! ### Rounded quotients -/

/-- What a quotient is rounded to. -/
def nearest (num den : Nat) : ℚ := mantissaAt num den (exponentOf num den) * 2 ^ exponentOf num den

theorem nearest_zero (hb : 0 < b) : nearest 0 b = 0 := by
  have hzero : mantissaAt 0 b (exponentOf 0 b) = 0 := Nat.le_zero.1 (mantissaAt_le hb (by simp))
  rw [nearest, hzero, Nat.cast_zero, zero_mul]

theorem nearest_self (hb : 0 < b) : nearest b b = 1 := by
  have hone : (b : ℚ) / b = 1 := div_self (by positivity)
  have hexact : ((2 ^ 52 : Nat) : ℚ) * 2 ^ (-52 : Int) = 1 := by norm_num
  have hm : mantissaAt b b (-52) = 2 ^ 52 :=
    le_antisymm (mantissaAt_le hb (by rw [hone, hexact])) (le_mantissaAt hb (by rw [hone, hexact]))
  rw [nearest, exponentOf_self hb, hm, hexact]

theorem nearest_mono (hb : 0 < b) (h : a ≤ c) : nearest a b ≤ nearest c b := by
  rcases Nat.eq_zero_or_pos a with rfl | ha
  · rw [nearest_zero hb, nearest]
    positivity
  have hc := ha.trans_le h
  rw [nearest, nearest]
  rcases (exponentOf_mono ha hb h).eq_or_lt with heq | hlt
  · rw [heq]
    gcongr
    exact mantissaAt_mono hb h
  · -- a power of two stands between the two
    have hm : mantissaAt a b (exponentOf a b) ≤ 2 ^ 53 := by
      refine mantissaAt_le hb ((lt_two_zpow ha hb).le.trans_eq ?_)
      rw [zpow_add₀ two_ne_zero, mul_comm]
      norm_num
    have hn : 2 ^ 52 ≤ mantissaAt c b (exponentOf c b) := by
      have hpow := (two_zpow_le hc hb).resolve_left (by have := minExponent_le a b; omega)
      refine le_mantissaAt hb (le_of_eq_of_le ?_ hpow)
      rw [zpow_add₀ two_ne_zero, mul_comm]
      norm_num
    calc (mantissaAt a b (exponentOf a b) * 2 ^ exponentOf a b : ℚ)
        ≤ 2 ^ (53 : Nat) * 2 ^ exponentOf a b := by gcongr; exact_mod_cast hm
      _ = 2 ^ (52 : Nat) * 2 ^ (exponentOf a b + 1) := by rw [zpow_add_one₀ two_ne_zero]; ring
      _ ≤ 2 ^ (52 : Nat) * 2 ^ exponentOf c b := by gcongr; exacts [one_le_two, hlt]
      _ ≤ _ := by gcongr; exact_mod_cast hn

theorem exists_pack_eq (negative : Bool) (m : Nat) (h : e < maxExponent) :
    ∃ n f, pack negative m e = finite negative n f ∧ (n * 2 ^ f : ℚ) = m * 2 ^ e := by
  by_cases hm : m = Nat.pow 2 53
  · refine ⟨Nat.pow 2 52, e + 1, ?_, ?_⟩
    · simp only [pack, hm, beq_self_eq_true, if_true, if_neg (show ¬ maxExponent < e + 1 by omega)]
    · rw [hm, zpow_add_one₀ two_ne_zero]
      norm_num [Nat.pow_eq]
      ring
  · refine ⟨m, e, ?_, rfl⟩
    simp only [pack, beq_eq_false_iff_ne.2 hm, Bool.false_eq_true, if_false,
      if_neg (show ¬ maxExponent < e by omega)]

theorem exists_ofRatio_eq (hb : 0 < b) (h : a ≤ b) :
    ∃ m e, ofRatio false a b = finite false m e ∧ (m * 2 ^ e : ℚ) = nearest a b := by
  rcases Nat.eq_zero_or_pos a with rfl | ha
  · exact ⟨0, minExponent, by simp [ofRatio, zero], by simp [nearest_zero hb]⟩
  · rw [ofRatio_eq false ha hb]
    refine exists_pack_eq false _ ((exponentOf_mono ha hb h).trans_lt ?_)
    rw [exponentOf_self hb]
    decide

/-! ### Printed digits -/

/-- How many parts of `10 ^ places` the text of a number shows. -/
def parts (places : Nat) : Binary64 → Nat
  | finite _ m e => roundDiv ((scaled m 1 (-e)).1 * Nat.pow 10 places) (scaled m 1 (-e)).2
  | _ => 0

theorem parts_ratio (places m : Nat) (e : Int) :
    (((scaled m 1 (-e)).1 * Nat.pow 10 places : Nat) : ℚ) / (scaled m 1 (-e)).2 =
      m * 2 ^ e * Nat.pow 10 places := by
  rw [Nat.cast_mul, mul_div_right_comm, scaled_ratio]
  simp [zpow_neg]

/-- The thousandths that are printed for a quotient of naturals. -/
def share (a b : Nat) : Nat := (ofRatio false a b).parts 3

theorem fixedText_ofRatio (hb : 0 < b) (h : a ≤ b) :
    (ofRatio false a b).fixedText 3 = String.ofList (placesText 3 false (share a b)) := by
  obtain ⟨m, e, heq, -⟩ := exists_ofRatio_eq hb h
  rw [share, heq]
  rfl

theorem share_mono (hb : 0 < b) (hac : a ≤ c) (hcb : c ≤ b) : share a b ≤ share c b := by
  obtain ⟨m, e, heq, hval⟩ := exists_ofRatio_eq hb (hac.trans hcb)
  obtain ⟨n, f, hfeq, hfval⟩ := exists_ofRatio_eq hb hcb
  rw [share, share, heq, hfeq]
  refine roundDiv_mono (scaled_pos m _ Nat.one_pos) (scaled_pos n _ Nat.one_pos) ?_
  rw [parts_ratio, parts_ratio, hval, hfval]
  have hle := nearest_mono hb hac
  gcongr

theorem share_of_natural (hb : 0 < b) (h : a ≤ b) (hk : nearest a b = k) :
    share a b = k * 1000 := by
  obtain ⟨m, e, heq, hval⟩ := exists_ofRatio_eq hb h
  rw [share, heq]
  refine roundDiv_eq (scaled_pos m _ Nat.one_pos) ?_
  rw [parts_ratio, hval, hk]
  norm_num

end DataDiagram.Binary64
