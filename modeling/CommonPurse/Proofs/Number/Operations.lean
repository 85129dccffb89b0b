import CommonPurse.Proofs.Number.Size

/-!
# Decimal operations within bounds

Sums, quotients and absolute values of numbers that are not too large: there is a result, and it is
not too large either. Finite decimals are compared as the numbers that they are.

## Main definitions

* `CommonPurse.Decimal.value` — the number that a finite decimal is.
* `CommonPurse.Decimal.largest` — the largest amount.

## Main results

* `CommonPurse.Decimal.gives_add_of_ne`, `gives_add_of_small`, `gives_divFinite`, `gives_abs` —
  results within a mark.
* `CommonPurse.Decimal.compareFinite_eq` — how finite decimals are compared.
-/

namespace CommonPurse.Decimal

/-! ## Sums -/

/-- A small number beside another one is left as it is, or it becomes something that is small
beside the other one too. -/
lemma nearBy_cases (c : Nat) {e : Int} (d : Nat) {f : Int} (le : f ≤ e) :
    f ≤ (nearBy c e d f).2 ∧ (nearBy c e d f).2 ≤ e ∧
      (size (nearBy c e d f).1 (nearBy c e d f).2 = size d f ∨
        d ≠ 0 ∧ size d f ≤ size c e * 10 ^ (-29 : Int) ∧
          size (nearBy c e d f).1 (nearBy c e d f).2 ≤ size c e * 10 ^ (-29 : Int)) := by
  obtain ⟨floor, below, first, eq⟩ : ∃ floor, floor ≤ e ∧ floor ≤ adjusted c e - 29 ∧
      nearBy c e d f =
        if c ≠ 0 ∧ adjusted d f < floor then (if d = 0 then 0 else 1, floor) else (d, f) := by
    have digits : precision = 28 := rfl
    have pos := digitCount_pos c
    refine ⟨_, ?_, ?_, rfl⟩
    · split <;> omega
    · unfold adjusted
      split <;> omega
  rw [eq]
  by_cases far : c ≠ 0 ∧ adjusted d f < floor
  · rw [if_pos far]
    have least : f ≤ adjusted d f := by
      have pos := digitCount_pos d
      unfold adjusted
      omega
    refine ⟨by omega, below, ?_⟩
    by_cases zero : d = 0
    · exact .inl (by simp [zero])
    · rw [if_neg zero]
      have unit := mul_le_mul_of_nonneg_right (pow_adjusted_le far.1 e)
        (by positivity : (0 : ℚ) ≤ 10 ^ (-29 : Int))
      rw [← zpow_add₀ (by norm_num)] at unit
      have small : (10 : ℚ) ^ floor ≤ size c e * 10 ^ (-29 : Int) :=
        (zpow_le_zpow_right₀ (by norm_num) (by omega)).trans unit
      have less : size d f ≤ 10 ^ floor :=
        (size_lt_pow d f).le.trans (zpow_le_zpow_right₀ (by norm_num) (by omega))
      refine .inr ⟨zero, less.trans small, ?_⟩
      rwa [size, Nat.cast_one, one_mul]
  · rw [if_neg far]
    exact ⟨le_rfl, le, .inl rfl⟩

/-- A sum is the result for two coefficients at one exponent, which have the sizes of the summands,
except that the second one may have become another that is small beside the first. -/
lemma addAligned_eq (n : Bool) (c : Nat) {e : Int} (k : Bool) (d : Nat) {f : Int} (le : f ≤ e) :
    ∃ x y g, f ≤ g ∧ size x g = size c e ∧
      (size y g = size d f ∨ d ≠ 0 ∧ size d f ≤ size c e * 10 ^ (-29 : Int) ∧
        size y g ≤ size c e * 10 ^ (-29 : Int)) ∧
      addAligned n c e k d f =
        if n = k then fit n (x + y) g
        else if x = y then fit false 0 g
        else if y < x then fit n (x - y) g
        else fit k (y - x) g := by
  obtain ⟨least, low, near⟩ := nearBy_cases c d le
  refine ⟨if c = 0 then 0 else c * tenTo (e - (nearBy c e d f).2).toNat, (nearBy c e d f).1,
    (nearBy c e d f).2, least, ?_, near, rfl⟩
  split
  next zero => simp [zero]
  next => exact size_mul_tenTo c low

/-- The result for two coefficients at one exponent is not behind a mark when their sum is less
than half a unit behind it; for different signs it is enough that the greater one is. -/
lemma gives_combined (b : Mark) {n k : Bool} {x y : Nat} {g : Int}
    (less : (if n = k then size x g + size y g else max (size x g) (size y g)) < b.reach) :
    Gives b (if n = k then fit n (x + y) g
      else if x = y then fit false 0 g
      else if y < x then fit n (x - y) g
      else fit k (y - x) g) := by
  have pos : 0 < b.reach := (size_nonneg _ _).trans_lt b.size_lt_reach
  by_cases same : n = k
  · rw [if_pos same] at less ⊢
    exact gives_fit b n (by rwa [size_add])
  · rw [if_neg same] at less ⊢
    have left := (size_mono (Nat.sub_le x y) g).trans_lt ((le_max_left _ _).trans_lt less)
    have right := (size_mono (Nat.sub_le y x) g).trans_lt ((le_max_right _ _).trans_lt less)
    split_ifs
    · exact gives_fit b false (by rwa [size_zero])
    · exact gives_fit b n left
    · exact gives_fit b k right

variable {c d : Nat} {e f : Int}

lemma add_finite (n k : Bool) :
    add (.finite n c e) (.finite k d f) =
      if f ≤ e then addAligned n c e k d f else addAligned k d f n c e := rfl

/-- The sum of numbers with different signs, or of which one is zero, is within a mark when both
are. -/
lemma gives_add_of_ne (b : Mark) {n k : Bool} (apart : n ≠ k ∨ c = 0 ∨ d = 0)
    (hc : size c e ≤ b.size) (hd : size d f ≤ b.size) :
    Gives b (add (.finite n c e) (.finite k d f)) := by
  have aligned : ∀ {n k : Bool} {c d : Nat} {e f : Int}, n ≠ k ∨ c = 0 ∨ d = 0 →
      size c e ≤ b.size → size d f ≤ b.size → f ≤ e → Gives b (addAligned n c e k d f) := by
    intro n k c d e f apart hc hd le
    obtain ⟨x, y, g, -, hx, hy, eq⟩ := addAligned_eq n c k d le
    have small : size c e * 10 ^ (-29 : Int) ≤ size c e :=
      mul_le_of_le_one_right (size_nonneg c e) (by norm_num)
    have hy' : size y g ≤ b.size := by
      rcases hy with same | ⟨-, -, less⟩
      · exact same.trans_le hd
      · exact less.trans (small.trans hc)
    rw [eq]
    refine gives_combined b (lt_of_le_of_lt ?_ b.size_lt_reach)
    split
    next same =>
      rcases apart with ne | rfl | rfl
      · exact absurd same ne
      · rwa [hx, size_zero, zero_add]
      · rcases hy with same | ⟨ne, -, -⟩
        · rwa [same, size_zero, add_zero, hx]
        · exact absurd rfl ne
    next => exact max_le (hx.trans_le hc) hy'
  rw [add_finite]
  split
  next le => exact aligned apart hc hd le
  next gt =>
    exact aligned (apart.imp Ne.symm Or.symm) hd hc (by omega)

/-- A number 29 digits below a mark is less than half a unit of its last digit. -/
lemma Mark.size_mul_lt (b : Mark) : b.size * 10 ^ (-29 : Int) < 1 / 2 * 10 ^ b.exponent := by
  have short : (b.coefficient : ℚ) < 10 ^ 28 := by exact_mod_cast b.short
  have pos : (0 : ℚ) < 10 ^ b.exponent := by positivity
  have less := mul_lt_mul_of_pos_right short pos
  have power : (10 : ℚ) ^ (-29 : Int) = 1 / 10 ^ 29 := by norm_num
  rw [power]
  unfold Mark.size Decimal.size
  norm_num at less ⊢
  linarith

/-- To add a number below half a unit of its last digit does not lead behind a mark. -/
lemma gives_add_of_small (b : Mark) {x y : Decimal} (hx : x.Within b.size) {small : ℚ}
    (hy : y.Within small) (less : small < 1 / 2 * 10 ^ b.exponent) : Gives b (add x y) := by
  obtain ⟨n, c, e, rfl, hc⟩ := hx.finite
  obtain ⟨k, d, f, rfl, le⟩ := hy.finite
  have hd := le.trans_lt less
  have reach : b.reach = b.size + 1 / 2 * 10 ^ b.exponent := by
    unfold Mark.reach Mark.size size
    ring
  have aligned : ∀ {n k : Bool} {c d : Nat} {e f : Int}, f ≤ e →
      size c e + size d f < b.reach → size c e + size c e * 10 ^ (-29 : Int) < b.reach →
      Gives b (addAligned n c e k d f) := by
    intro n k c d e f le near far
    obtain ⟨x, y, g, -, hx, hy, eq⟩ := addAligned_eq n c k d le
    have sum : size x g + size y g < b.reach := by
      rcases hy with same | ⟨-, -, less⟩
      · rwa [hx, same]
      · rw [hx]
        linarith
    rw [eq]
    refine gives_combined b (lt_of_le_of_lt ?_ sum)
    split
    · exact le_rfl
    · exact max_le_add_of_nonneg (size_nonneg _ _) (size_nonneg _ _)
  have unit := b.size_mul_lt
  rw [add_finite]
  split
  next le =>
    have scaled : size c e * 10 ^ (-29 : Int) ≤ b.size * 10 ^ (-29 : Int) :=
      mul_le_mul_of_nonneg_right hc (by positivity)
    have sum : size c e + size c e * 10 ^ (-29 : Int) < b.reach := by
      rw [reach]
      exact add_lt_add_of_le_of_lt hc (scaled.trans_lt unit)
    exact aligned le (by linarith) sum
  next gt =>
    have scaled : size d f * 10 ^ (-29 : Int) ≤ size d f :=
      mul_le_of_le_one_right (size_nonneg d f) (by norm_num)
    have ulp : (10 : ℚ) ^ b.exponent ≤ b.size :=
      (zpow_le_zpow_right₀ (by norm_num) (by omega)).trans b.pow_le_size
    have nonneg := size_nonneg c e
    exact aligned (by omega) (by linarith) (by rw [reach]; linarith)

/-- The number without its sign is within a mark when the number is. -/
lemma gives_abs (b : Mark) {d : Decimal} (h : d.Within b.size) :
    ∃ c e, d.abs = .ok (.finite false c e) ∧ size c e ≤ b.size := by
  obtain ⟨n, c, e, rfl, le⟩ := h.finite
  exact fit_le b false (le.trans_lt b.size_lt_reach)

/-! ## Quotients -/

/-- To drop zeros leaves the size as it is. -/
lemma size_dropZerosTo (wanted : Int) (fuel q : Nat) (x : Int) :
    size (dropZerosTo wanted fuel q x).1 (dropZerosTo wanted fuel q x).2 = size q x := by
  induction fuel generalizing q x with
  | zero => rfl
  | succ fuel ih =>
    unfold dropZerosTo
    split
    next zero =>
      have whole : q / 10 * 10 ^ 1 = q := by omega
      have power := size_mul_pow (q / 10) 1 x
      rw [whole] at power
      rw [ih, power, Nat.cast_one]
    next => rfl

/-- The quotient of two coefficients, of which the first has at least 29 digits more than the
second, is within a mark when the exact quotient is. -/
lemma gives_quotient (b : Mark) (n : Bool) {num den : Nat} {g : Int} (wanted : Int)
    (long : 10 ^ 28 * den ≤ num) (pos : 0 < den) (le : size num g ≤ b.size * den) :
    Gives b (if num % den = 0 then
        fit n (dropZerosTo wanted (digitCount (num / den)) (num / den) g).1
          (dropZerosTo wanted (digitCount (num / den)) (num / den) g).2
      else fit n (if num / den % 5 = 0 then num / den + 1 else num / den) g) := by
  have den_pos : (0 : ℚ) < den := by exact_mod_cast pos
  have unit_pos : (0 : ℚ) < 10 ^ g := by positivity
  have exact_le : size (num / den) g ≤ b.size := by
    have down : ((num / den : Nat) : ℚ) * den ≤ num := by exact_mod_cast Nat.div_mul_le_self num den
    refine le_of_mul_le_mul_right (le_trans ?_ le) den_pos
    calc size (num / den) g * den = ((num / den : Nat) : ℚ) * den * 10 ^ g := by unfold size; ring
      _ ≤ num * 10 ^ g := mul_le_mul_of_nonneg_right down unit_pos.le
  split
  next =>
    refine gives_fit b n ?_
    rw [size_dropZerosTo]
    exact exact_le.trans_lt b.size_lt_reach
  next inexact =>
    -- The mark is a multiple of the unit of the quotient, so there is room for one unit more.
    have many : 10 ^ 28 ≤ num / den := (Nat.le_div_iff_mul_le pos).mpr long
    have below : g ≤ b.exponent := by
      have high := ((size_mono many g).trans exact_le).trans_lt
        (b.size_lt_reach.trans_le b.reach_le_pow)
      rw [size_pow, zpow_lt_zpow_iff_right₀ (by norm_num)] at high
      push_cast at high
      omega
    have mark : b.size = size (b.coefficient * tenTo (b.exponent - g).toNat) g :=
      (size_mul_tenTo _ below).symm
    have room : num / den + 1 ≤ b.coefficient * tenTo (b.exponent - g).toNat := by
      rw [mark] at le
      have scaled : (num : ℚ) ≤ (b.coefficient * tenTo (b.exponent - g).toNat : Nat) * den := by
        refine le_of_mul_le_mul_right (le_trans le (le_of_eq ?_)) unit_pos
        unfold size
        ring
      have whole : num ≤ b.coefficient * tenTo (b.exponent - g).toNat * den := by
        exact_mod_cast scaled
      have strict := Nat.lt_of_le_of_ne whole fun same =>
        inexact (Nat.mod_eq_zero_of_dvd ⟨_, same.trans (Nat.mul_comm _ _)⟩)
      exact (Nat.div_lt_iff_lt_mul pos).mpr strict
    refine gives_fit b n (lt_of_le_of_lt ?_ b.size_lt_reach)
    rw [mark]
    exact size_mono (by split <;> omega) g

/-- A quotient is the result for the quotient of two coefficients, of which the first has at least
29 digits more than the second. -/
lemma divFinite_eq (n : Bool) (hc : c ≠ 0) (e : Int) (hd : 0 < d) :
    ∃ (num den : Nat) (g : Int), 10 ^ 28 * den ≤ num ∧ 0 < den ∧
      size num g * d = size c e * den ∧
      e - digitCount d - 29 ≤ g ∧
      divFinite n c e d =
        if num % den = 0 then
          fit n (dropZerosTo e (digitCount (num / den)) (num / den) g).1
            (dropZerosTo e (digitCount (num / den)) (num / den) g).2
        else fit n (if num / den % 5 = 0 then num / den + 1 else num / den) g := by
  have digits : precision = 28 := rfl
  have first := pow_digitCount_le hc
  have last := (lt_pow_digitCount d).le
  have positive := digitCount_pos c
  obtain ⟨shift, hshift⟩ : ∃ shift : Int,
      shift = (digitCount d : Int) - digitCount c + precision + 1 := ⟨_, rfl⟩
  have eq : divFinite n c e d = _ := if_neg hc
  rw [eq]
  dsimp only
  rw [← hshift]
  by_cases up : 0 ≤ shift
  · refine ⟨c * tenTo shift.toNat, d, e - shift, ?_, hd, ?_, by omega, by simp only [if_pos up]⟩
    · calc 10 ^ 28 * d ≤ 10 ^ 28 * 10 ^ digitCount d := Nat.mul_le_mul_left _ last
        _ = 10 ^ (digitCount c - 1) * 10 ^ shift.toNat := by
          rw [← pow_add, ← pow_add]
          congr 1
          omega
        _ ≤ c * tenTo shift.toNat := Nat.mul_le_mul_right _ first
    · have same := size_mul_tenTo c (Int.sub_le_self e up)
      rw [sub_sub_cancel] at same
      rw [same]
  · refine ⟨c, d * tenTo (-shift).toNat, e - shift, ?_,
      Nat.mul_pos hd (Nat.pow_pos (by decide)), ?_, by omega, by simp only [if_neg up]⟩
    · calc 10 ^ 28 * (d * tenTo (-shift).toNat)
          ≤ 10 ^ 28 * (10 ^ digitCount d * 10 ^ (-shift).toNat) :=
            Nat.mul_le_mul_left _ (Nat.mul_le_mul_right _ last)
        _ = 10 ^ (digitCount c - 1) := by
          rw [← pow_add, ← pow_add]
          congr 1
          omega
        _ ≤ c := first
    · have same := size_mul_tenTo c (show e ≤ e - shift by omega)
      rw [show e - shift - e = -shift by ring] at same
      rw [← same, size, size]
      push_cast
      ring

/-- The quotient by a natural number above zero is within a mark when the dividend is. -/
lemma gives_divFinite (b : Mark) (n : Bool) (hc : size c e ≤ b.size) (hd : 0 < d) :
    Gives b (divFinite n c e d) := by
  have nonneg : 0 ≤ b.size := size_nonneg _ _
  by_cases zero : c = 0
  · rw [divFinite, if_pos zero]
    exact gives_fit b n (by rw [size_zero]; exact nonneg.trans_lt b.size_lt_reach)
  obtain ⟨num, den, g, long, pos, same, -, eq⟩ := divFinite_eq n zero e hd
  have hd' : (1 : ℚ) ≤ d := by exact_mod_cast hd
  have hden : (0 : ℚ) ≤ den := Nat.cast_nonneg den
  rw [eq]
  refine gives_quotient b n e long pos ?_
  calc size num g ≤ size num g * d := le_mul_of_one_le_right (size_nonneg _ _) hd'
    _ = size c e * den := same
    _ ≤ b.size * den := mul_le_mul_of_nonneg_right hc hden

/-! ## The order -/

/-- The number that a finite decimal is. -/
def value : Decimal → ℚ
  | finite n c e => if n then -size c e else size c e
  | infinite _ => 0
  | nan .. => 0

lemma compare_size (c d : Nat) (e : Int) : compare (size c e) (size d e) = compare c d := by
  rcases lt_trichotomy c d with less | rfl | more
  · rw [compare_lt_iff_lt.mpr less, compare_lt_iff_lt.mpr ((size_lt_size_iff ..).mpr less)]
  · rw [compare_eq_iff_eq.mpr rfl, compare_eq_iff_eq.mpr rfl]
  · rw [compare_gt_iff_gt.mpr more, compare_gt_iff_gt.mpr ((size_lt_size_iff ..).mpr more)]

lemma size_pos {c : Nat} (h : c ≠ 0) (e : Int) : 0 < size c e := by
  have low := pow_adjusted_le h e
  exact (by positivity : (0 : ℚ) < 10 ^ adjusted c e).trans_le low

/-- What is positive is above zero. -/
lemma isPositive_iff (n : Bool) (c : Nat) (e : Int) :
    (finite n c e).isPositive = true ↔ 0 < (finite n c e).value := by
  have nonneg := size_nonneg c e
  cases n with
  | true => simpa [isPositive, value] using nonneg
  | false =>
    have some : c ≠ 0 ↔ 0 < size c e := by
      refine ⟨fun some => size_pos some e, ?_⟩
      rintro pos rfl
      simp at pos
    simpa [isPositive, value] using some

/-- A first digit at a smaller place makes a smaller number. -/
lemma size_lt_of_adjusted_lt (hd : d ≠ 0) (less : adjusted c e < adjusted d f) :
    size c e < size d f :=
  (size_lt_pow c e).trans_le
    ((zpow_le_zpow_right₀ (by norm_num) (by omega)).trans (pow_adjusted_le hd f))

/-- Magnitudes are compared as they should be. -/
lemma compareMagnitude_eq (c : Nat) (e : Int) (d : Nat) (f : Int) :
    compareMagnitude c e d f = compare (size c e) (size d f) := by
  unfold compareMagnitude
  by_cases zero : c = 0 ∨ d = 0
  · rw [if_pos zero]
    rcases eq_or_ne c 0 with rfl | hc
    · rcases eq_or_ne d 0 with rfl | hd
      · rw [size_zero, size_zero, compare_eq_iff_eq.mpr rfl, compare_eq_iff_eq.mpr rfl]
      · rw [size_zero, compare_lt_iff_lt.mpr (Nat.pos_of_ne_zero hd),
          compare_lt_iff_lt.mpr (size_pos hd f)]
    · obtain rfl := zero.resolve_left hc
      rw [size_zero, compare_gt_iff_gt.mpr (Nat.pos_of_ne_zero hc),
        compare_gt_iff_gt.mpr (size_pos hc e)]
  rw [if_neg zero]
  obtain ⟨hc, hd⟩ := not_or.mp zero
  dsimp only
  split_ifs with less more order
  · exact (compare_lt_iff_lt.mpr (size_lt_of_adjusted_lt hd less)).symm
  · exact (compare_gt_iff_gt.mpr (size_lt_of_adjusted_lt hc more)).symm
  · rw [← compare_size _ _ f, size_mul_tenTo c order]
  · rw [← compare_size _ _ e, size_mul_tenTo d (by omega)]

/-- **Finite decimals are compared as the numbers that they are.** -/
theorem compareFinite_eq (n : Bool) (c : Nat) (e : Int) (k : Bool) (d : Nat) (f : Int) :
    compareFinite n c e k d f = compare (finite n c e).value (finite k d f).value := by
  have less : ∀ {x y : ℚ}, x < y → Ordering.lt = compare x y :=
    fun h => (compare_lt_iff_lt.mpr h).symm
  have more : ∀ {x y : ℚ}, y < x → Ordering.gt = compare x y :=
    fun h => (compare_gt_iff_gt.mpr h).symm
  rcases eq_or_ne c 0 with rfl | hc <;> rcases eq_or_ne d 0 with rfl | hd
  · cases n <;> cases k <;> simp [compareFinite, value]
  · have pos := size_pos hd f
    cases n <;> cases k <;>
      simp only [compareFinite, value, hd, size_zero, neg_zero, and_false, Bool.false_eq_true,
        if_true, if_false] <;>
      first
        | exact less pos
        | exact more (neg_lt_zero.mpr pos)
  · have pos := size_pos hc e
    cases n <;> cases k <;>
      simp only [compareFinite, value, hc, size_zero, neg_zero, false_and, Bool.false_eq_true,
        if_true, if_false] <;>
      first
        | exact more pos
        | exact less (neg_lt_zero.mpr pos)
  · have posc := size_pos hc e
    have posd := size_pos hd f
    cases n <;> cases k <;>
      simp only [compareFinite, value, hc, hd, false_and, Bool.false_eq_true, if_true, if_false]
    · exact compareMagnitude_eq c e d f
    · exact more (by linarith)
    · exact less (by linarith)
    · rw [compareMagnitude_eq]
      rcases lt_trichotomy (size c e) (size d f) with below | same | above
      · rw [← more (neg_lt_neg below), ← more below]
      · rw [same, compare_eq_iff_eq.mpr rfl, compare_eq_iff_eq.mpr rfl]
      · rw [← less (neg_lt_neg above), ← less above]

/-- Whether one finite decimal is less than another. -/
lemma less?_finite (n : Bool) (c : Nat) (e : Int) (k : Bool) (d : Nat) (f : Int) :
    less? (finite n c e) (finite k d f) =
      .ok (decide ((finite n c e).value < (finite k d f).value)) := by
  have order : compare? (finite n c e) (finite k d f) =
      .ok (compare (finite n c e).value (finite k d f).value) :=
    congrArg Except.ok (compareFinite_eq n c e k d f)
  rw [less?, order]
  refine congrArg Except.ok ?_
  rcases lt_trichotomy (finite n c e).value (finite k d f).value with below | same | above
  · rw [compare_lt_iff_lt.mpr below, decide_eq_true below]
    rfl
  · rw [same, compare_eq_iff_eq.mpr rfl, decide_eq_false (lt_irrefl _)]
    rfl
  · rw [compare_gt_iff_gt.mpr above, decide_eq_false above.not_gt]
    rfl

/-! ## The largest amount -/

/-- The largest amount: 28 digits, of which two stand behind the point. -/
def largest : Mark where
  coefficient := 10 ^ 28 - 1
  exponent := -2
  full := by norm_num
  short := by norm_num
  low := by decide
  high := by decide

/-! ## Signs -/

/-- A result has the sign that it is given. -/
lemma sign_of_fit {n : Bool} {r : Decimal} (h : fit n c e = .ok r) : ∃ q f, r = .finite n q f := by
  unfold fit at h
  dsimp only at h
  split_ifs at h <;> exact ⟨_, _, (Except.ok.inj h).symm⟩

lemma sign_of_divFinite {n : Bool} {r : Decimal} (h : divFinite n c e d = .ok r) :
    ∃ q f, r = .finite n q f := by
  unfold divFinite at h
  dsimp only at h
  split_ifs at h <;> exact sign_of_fit h

end CommonPurse.Decimal
