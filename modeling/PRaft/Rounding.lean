import Mathlib

/-!
The rounding of Python's numbers. `pyRound` is the builtin `round(x)` on a float: the nearest
integer, a tie going to the even one. `roundBinary p x` is what binary floating point with a
`p`-bit significand makes of an exact result `x`: the nearest value `m * 2 ^ e` with
`|m| < 2 ^ p`, a tie going to the even `m`, as IEEE 754 rounds every operation. Python's
`float` and numpy's `float64` are `binary64` (53 bits), numpy's `float32` is `binary32`
(24 bits). A float operation is the exact operation followed by the rounding: Python's `a + b`
on floats is `binary64 (a + b)`.

The exponent range is unbounded: overflow to `inf` and subnormal results, which need
magnitudes beyond `2 ^ 1024` or below `2 ^ -1022` (`2 ^ 128` and `2 ^ -126` for `float32`),
are left out.

The rest of the development uses the rounding through three facts: it is monotone
(`roundBinary_mono`), a value with a short significand is its own rounding
(`roundBinary_eq_self`: small integers and dyadic loads are exact), and it moves a value by at
most `|x| / 2 ^ p` (`abs_roundBinary_sub_le`).
-/

namespace PRaft

/-! ### `round` -/

/-- Python's `round(x)` on a float: the nearest integer, a tie going to the even one. -/
def pyRound (x : ℚ) : ℤ :=
  if x - ⌊x⌋ < 1 / 2 then ⌊x⌋
  else if 1 / 2 < x - ⌊x⌋ then ⌊x⌋ + 1
  else if ⌊x⌋ % 2 = 0 then ⌊x⌋ else ⌊x⌋ + 1

theorem pyRound_le_ceil (x : ℚ) : pyRound x ≤ ⌈x⌉ := by
  have hlt : ∀ h : ¬ x - ⌊x⌋ < 1 / 2, ⌊x⌋ + 1 ≤ ⌈x⌉ := fun h =>
    Int.add_one_le_of_lt (Int.lt_ceil.2 (by linarith))
  unfold pyRound
  split_ifs with h1 <;> first | exact Int.floor_le_ceil x | exact hlt h1

theorem floor_le_pyRound (x : ℚ) : ⌊x⌋ ≤ pyRound x := by
  unfold pyRound; split_ifs <;> omega

theorem pyRound_le_floor_add_one (x : ℚ) : pyRound x ≤ ⌊x⌋ + 1 := by
  unfold pyRound; split_ifs <;> omega

theorem pyRound_mem {x : ℚ} {b : ℤ} (h0 : 0 ≤ x) (hb : x ≤ b) : 0 ≤ pyRound x ∧ pyRound x ≤ b :=
  ⟨(Int.floor_nonneg.2 h0).trans (floor_le_pyRound x),
    (pyRound_le_ceil x).trans (Int.ceil_le.2 hb)⟩

/-- The integers `round(x)` may be: the nearest one, or the even one of two nearest. -/
def RoundsTo (x : ℚ) (k : ℤ) : Prop :=
  |x - k| < 1 / 2 ∨ (|x - k| = 1 / 2 ∧ k % 2 = 0)

theorem roundsTo_pyRound (x : ℚ) : RoundsTo x (pyRound x) := by
  have h0 := Int.floor_le x
  have h1 := Int.lt_floor_add_one x
  unfold pyRound RoundsTo
  split_ifs with ha hb hc
  · exact .inl (abs_lt.2 ⟨by linarith, by linarith⟩)
  · exact .inl (abs_lt.2 ⟨by push_cast; linarith, by push_cast; linarith⟩)
  all_goals have htie : x - ⌊x⌋ = 1 / 2 := le_antisymm (not_lt.1 hb) (not_lt.1 ha)
  · exact .inr ⟨by rw [htie, abs_of_pos (by norm_num)], hc⟩
  · exact .inr ⟨by push_cast; rw [abs_of_neg (by linarith)]; linarith, by omega⟩

/-- `round` is determined by its rule: two integers that both follow it for `x` are equal. -/
theorem RoundsTo.unique {x : ℚ} {k k' : ℤ} (h : RoundsTo x k) (h' : RoundsTo x k') : k = k' := by
  have hle : ∀ {j : ℤ}, RoundsTo x j → |x - j| ≤ 1 / 2 := fun hj => hj.elim le_of_lt (·.1.le)
  have heven : ∀ {j : ℤ}, RoundsTo x j → 1 / 2 ≤ |x - j| → j % 2 = 0 := fun hj hj2 =>
    hj.elim (fun hlt => absurd hj2 (not_le.2 hlt)) (·.2)
  obtain ⟨ha, hb⟩ := abs_le.1 (hle h)
  obtain ⟨ha', hb'⟩ := abs_le.1 (hle h')
  -- two integers at most `1/2` from `x` are at most one apart
  have hd : k - k' ≤ 1 ∧ k' - k ≤ 1 := by
    constructor <;> (rw [← Int.cast_le (R := ℚ)]; push_cast; linarith)
  rcases (show k = k' ∨ k = k' + 1 ∨ k' = k + 1 by omega) with hk | hk | hk
  · exact hk
  -- one apart, both lie `1/2` from `x`, so both are even
  · have hq : (k : ℚ) = k' + 1 := by exact_mod_cast hk
    have := heven h (by rw [abs_of_nonpos (by linarith)]; linarith)
    have := heven h' (by rw [abs_of_nonneg (by linarith)]; linarith)
    omega
  · have hq : (k' : ℚ) = k + 1 := by exact_mod_cast hk
    have := heven h (by rw [abs_of_nonneg (by linarith)]; linarith)
    have := heven h' (by rw [abs_of_nonpos (by linarith)]; linarith)
    omega

/-- `round` is symmetric about an even integer: ties going to the even one, `round(n - x)` is
`n - round(x)`. -/
theorem pyRound_even_sub {n : ℤ} (hn : n % 2 = 0) (x : ℚ) : pyRound (n - x) = n - pyRound x := by
  refine (roundsTo_pyRound _).unique ?_
  have hdist : |((n : ℚ) - x) - ((n - pyRound x : ℤ) : ℚ)| = |x - pyRound x| := by
    push_cast; rw [abs_sub_comm]; ring_nf
  unfold RoundsTo
  rw [hdist]
  rcases roundsTo_pyRound x with h | ⟨h1, h2⟩
  · exact .inl h
  · exact .inr ⟨h1, by omega⟩

theorem pyRound_neg (x : ℚ) : pyRound (-x) = -pyRound x := by
  simpa using pyRound_even_sub (n := 0) rfl x

theorem pyRound_intCast (n : ℤ) : pyRound n = n := by
  simp [pyRound]

theorem abs_sub_pyRound_le (x : ℚ) : |x - pyRound x| ≤ 1 / 2 :=
  (roundsTo_pyRound x).elim le_of_lt (·.1.le)

theorem pyRound_mono {x y : ℚ} (h : x ≤ y) : pyRound x ≤ pyRound y := by
  rcases (Int.floor_mono h).lt_or_eq with hlt | heq
  · have := pyRound_le_floor_add_one x
    have := floor_le_pyRound y
    omega
  · have hfrac : x - ⌊x⌋ ≤ y - ⌊y⌋ := by rw [heq]; linarith
    unfold pyRound
    rw [heq] at hfrac ⊢
    split_ifs <;> first | omega | (exfalso; linarith)

/-! ### Binary floating point -/

/-- `x` rounded to a `p`-bit significand, to nearest with ties to even: `x` is scaled by the
power of two that brings its leading binary digit to the place of `2 ^ (p - 1)`, rounded to an
integer by `round`, and scaled back. It is irreducible: nothing evaluates it by unfolding, every
use goes through the lemmas below. -/
@[irreducible] def roundBinary (p : ℕ) (x : ℚ) : ℚ :=
  (pyRound (x * 2 ^ ((p : ℤ) - 1 - Int.log 2 |x|)) : ℚ) / 2 ^ ((p : ℤ) - 1 - Int.log 2 |x|)

/-- The result of a Python `float` or numpy `float64` operation whose exact value is `x`. -/
def binary64 (x : ℚ) : ℚ := roundBinary 53 x

/-- The result of a numpy `float32` operation whose exact value is `x`. -/
def binary32 (x : ℚ) : ℚ := roundBinary 24 x

section Binary

variable {p : ℕ}

@[simp] theorem roundBinary_zero : roundBinary p 0 = 0 := by
  simp [roundBinary, pyRound]

theorem roundBinary_neg (x : ℚ) : roundBinary p (-x) = -roundBinary p x := by
  unfold roundBinary
  rw [abs_neg, neg_mul, pyRound_neg]
  push_cast
  ring

theorem two_zpow_log_le {x : ℚ} (hx : 0 < x) : (2 : ℚ) ^ Int.log 2 x ≤ x := by
  exact_mod_cast Int.zpow_log_le_self (b := 2) (by norm_num) hx

theorem lt_two_zpow_log_add_one (x : ℚ) : x < (2 : ℚ) ^ (Int.log 2 x + 1) := by
  exact_mod_cast Int.lt_zpow_succ_log_self (b := 2) (by norm_num) x

theorem scaled_mem {x : ℚ} (hx : 0 < x) :
    (2 : ℚ) ^ ((p : ℤ) - 1) ≤ x * 2 ^ ((p : ℤ) - 1 - Int.log 2 x) ∧
      x * 2 ^ ((p : ℤ) - 1 - Int.log 2 x) < 2 ^ (p : ℤ) := by
  have h2 : (0 : ℚ) < 2 ^ ((p : ℤ) - 1 - Int.log 2 x) := zpow_pos (by norm_num) _
  constructor
  · calc (2 : ℚ) ^ ((p : ℤ) - 1) = 2 ^ Int.log 2 x * 2 ^ ((p : ℤ) - 1 - Int.log 2 x) := by
          rw [← zpow_add₀ two_ne_zero]; ring_nf
      _ ≤ x * 2 ^ ((p : ℤ) - 1 - Int.log 2 x) := by gcongr; exact two_zpow_log_le hx
  · calc x * 2 ^ ((p : ℤ) - 1 - Int.log 2 x)
        < 2 ^ (Int.log 2 x + 1) * 2 ^ ((p : ℤ) - 1 - Int.log 2 x) := by
          gcongr; exact lt_two_zpow_log_add_one x
      _ = 2 ^ (p : ℤ) := by rw [← zpow_add₀ two_ne_zero]; ring_nf

/-- A positive value rounds into the binade of its leading digit, its upper end included. -/
theorem roundBinary_mem_binade (hp : 0 < p) {x : ℚ} (hx : 0 < x) :
    (2 : ℚ) ^ Int.log 2 x ≤ roundBinary p x ∧ roundBinary p x ≤ 2 ^ (Int.log 2 x + 1) := by
  obtain ⟨hlo, hhi⟩ := scaled_mem (p := p) hx
  have h2 : (0 : ℚ) < 2 ^ ((p : ℤ) - 1 - Int.log 2 x) := zpow_pos (by norm_num) _
  have hcast : ∀ n : ℕ, (2 : ℚ) ^ (n : ℤ) = ((2 ^ n : ℤ) : ℚ) := fun n => by
    rw [zpow_natCast]; push_cast; rfl
  have hp1 : (2 : ℚ) ^ ((p : ℤ) - 1) = ((2 ^ (p - 1) : ℤ) : ℚ) := by
    rw [← hcast]; congr 1; omega
  -- the scaled value rounds to an integer between `2 ^ (p - 1)` and `2 ^ p`
  have hr1 : (2 : ℚ) ^ ((p : ℤ) - 1) ≤ pyRound (x * 2 ^ ((p : ℤ) - 1 - Int.log 2 x)) := by
    rw [hp1] at hlo ⊢
    exact_mod_cast (pyRound_intCast _).symm.le.trans (pyRound_mono hlo)
  have hr2 : (pyRound (x * 2 ^ ((p : ℤ) - 1 - Int.log 2 x)) : ℚ) ≤ 2 ^ (p : ℤ) := by
    rw [hcast] at hhi ⊢
    exact_mod_cast (pyRound_mono hhi.le).trans (pyRound_intCast _).le
  unfold roundBinary
  rw [abs_of_pos hx, le_div_iff₀ h2, div_le_iff₀ h2, ← zpow_add₀ two_ne_zero,
    ← zpow_add₀ two_ne_zero]
  constructor
  · convert hr1 using 2; ring
  · convert hr2 using 2; ring

theorem roundBinary_nonneg {x : ℚ} (hx : 0 ≤ x) : 0 ≤ roundBinary p x := by
  unfold roundBinary
  refine div_nonneg ?_ (zpow_pos (by norm_num) _).le
  exact_mod_cast (Int.floor_nonneg.2 (mul_nonneg hx (zpow_pos (by norm_num) _).le)).trans
    (floor_le_pyRound _)

theorem roundBinary_pos (hp : 0 < p) {x : ℚ} (hx : 0 < x) : 0 < roundBinary p x :=
  (zpow_pos (by norm_num) _).trans_le (roundBinary_mem_binade hp hx).1

theorem roundBinary_mono_of_pos (hp : 0 < p) {x y : ℚ} (hx : 0 < x) (h : x ≤ y) :
    roundBinary p x ≤ roundBinary p y := by
  have hy := hx.trans_le h
  rcases (Int.log_mono_right (b := 2) hx h).lt_or_eq with hlt | heq
  · calc roundBinary p x ≤ 2 ^ (Int.log 2 x + 1) := (roundBinary_mem_binade hp hx).2
      _ ≤ 2 ^ Int.log 2 y := zpow_le_zpow_right₀ (by norm_num) (by omega)
      _ ≤ roundBinary p y := (roundBinary_mem_binade hp hy).1
  · unfold roundBinary
    rw [abs_of_pos hx, abs_of_pos hy, heq]
    gcongr
    exact_mod_cast pyRound_mono (by gcongr)

theorem roundBinary_mono (hp : 0 < p) {x y : ℚ} (h : x ≤ y) : roundBinary p x ≤ roundBinary p y := by
  have hnonneg : ∀ {a b : ℚ}, 0 ≤ a → a ≤ b → roundBinary p a ≤ roundBinary p b := fun ha hab => by
    rcases ha.lt_or_eq with ha | rfl
    · exact roundBinary_mono_of_pos hp ha hab
    · simpa using roundBinary_nonneg hab
  rcases le_total 0 x with hx | hx
  · exact hnonneg hx h
  rcases le_total y 0 with hy | hy
  · have := hnonneg (neg_nonneg.2 hy) (neg_le_neg h)
    rw [roundBinary_neg, roundBinary_neg] at this
    linarith
  · have h0 := roundBinary_nonneg (p := p) (neg_nonneg.2 hx)
    rw [roundBinary_neg] at h0
    linarith [roundBinary_nonneg (p := p) hy]

/-- Rounding moves a value by at most `|x| / 2 ^ p`: half a unit of its last place. -/
theorem abs_roundBinary_sub_le (x : ℚ) : |roundBinary p x - x| ≤ |x| / 2 ^ p := by
  rcases eq_or_ne x 0 with rfl | hx
  · simp
  have hax : 0 < |x| := abs_pos.2 hx
  have h2 : (0 : ℚ) < 2 ^ ((p : ℤ) - 1 - Int.log 2 |x|) := zpow_pos (by norm_num) _
  have hlo := (scaled_mem (p := p) hax).1
  have hround := abs_sub_pyRound_le (x * 2 ^ ((p : ℤ) - 1 - Int.log 2 |x|))
  unfold roundBinary
  rw [show (pyRound (x * 2 ^ ((p : ℤ) - 1 - Int.log 2 |x|)) : ℚ) / 2 ^ ((p : ℤ) - 1 - Int.log 2 |x|) - x
      = -((x * 2 ^ ((p : ℤ) - 1 - Int.log 2 |x|) - pyRound (x * 2 ^ ((p : ℤ) - 1 - Int.log 2 |x|))) /
        2 ^ ((p : ℤ) - 1 - Int.log 2 |x|)) by field_simp; ring,
    abs_neg, abs_div, abs_of_pos h2, div_le_div_iff₀ h2 (by positivity)]
  calc |x * 2 ^ ((p : ℤ) - 1 - Int.log 2 |x|) - pyRound (x * 2 ^ ((p : ℤ) - 1 - Int.log 2 |x|))| * 2 ^ p
      ≤ 1 / 2 * 2 ^ p := by gcongr
    _ = 2 ^ ((p : ℤ) - 1) := by
        rw [zpow_sub₀ two_ne_zero, zpow_natCast]; ring
    _ ≤ |x| * 2 ^ ((p : ℤ) - 1 - Int.log 2 |x|) := hlo

/-- The rounding of a non-negative value lies within a factor `1 ± 2 ^ -p` of it. -/
theorem roundBinary_mem_of_nonneg {x : ℚ} (hx : 0 ≤ x) :
    x * (1 - 1 / 2 ^ p) ≤ roundBinary p x ∧ roundBinary p x ≤ x * (1 + 1 / 2 ^ p) := by
  have h := abs_le.1 ((abs_roundBinary_sub_le (p := p) x).trans_eq (by rw [abs_of_nonneg hx]))
  have hlo : x * (1 - 1 / 2 ^ p) = x - x / 2 ^ p := by ring
  have hhi : x * (1 + 1 / 2 ^ p) = x + x / 2 ^ p := by ring
  rw [hlo, hhi]
  constructor <;> linarith [h.1, h.2]

/-- A value with a significand of fewer than `p` bits is its own rounding. -/
theorem roundBinary_eq_self {x : ℚ} (m j : ℤ) (hx : x = m * 2 ^ j) (hm : |m| < 2 ^ p) :
    roundBinary p x = x := by
  rcases eq_or_ne m 0 with rfl | hm0
  · simp [hx]
  have hax : 0 < |x| := by
    rw [hx]; exact abs_pos.2 (mul_ne_zero (Int.cast_ne_zero.2 hm0) (zpow_ne_zero _ two_ne_zero))
  set k := (p : ℤ) - 1 - Int.log 2 |x| with hk
  have h2 : (0 : ℚ) < 2 ^ k := zpow_pos (by norm_num) _
  -- the leading digit of `x` lies below `2 ^ (p + j)`, so `x * 2 ^ k` is an integer
  have hlog : Int.log 2 |x| < p + j := by
    have hj : |(2 : ℚ) ^ j| = 2 ^ j := abs_of_pos (zpow_pos two_pos j)
    have hlt : |x| < 2 ^ ((p : ℤ) + j) := by
      rw [hx, abs_mul, hj, zpow_add₀ two_ne_zero, zpow_natCast]
      gcongr
      exact_mod_cast hm
    exact (Int.lt_zpow_iff_log_lt (b := 2) (by norm_num) hax).1 (by exact_mod_cast hlt)
  obtain ⟨n, hn⟩ : ∃ n : ℕ, (n : ℤ) = j + k := ⟨_, Int.toNat_of_nonneg (by omega)⟩
  have hint : x * 2 ^ k = ((m * 2 ^ n : ℤ) : ℚ) := by
    rw [hx, mul_assoc, ← zpow_add₀ two_ne_zero, ← hn, zpow_natCast]
    push_cast; rfl
  unfold roundBinary
  rw [← hk, hint, pyRound_intCast, ← hint, mul_div_assoc, div_self h2.ne', mul_one]

theorem roundBinary_natCast (n : ℕ) (h : n < 2 ^ p) : roundBinary p n = n :=
  roundBinary_eq_self n 0 (by simp) (by rw [Nat.abs_cast]; exact_mod_cast h)

end Binary

@[simp] theorem binary64_zero : binary64 0 = 0 := roundBinary_zero

@[simp] theorem binary64_one : binary64 1 = 1 := by
  simpa using roundBinary_natCast (p := 53) 1 (by norm_num)

@[simp] theorem binary32_zero : binary32 0 = 0 := roundBinary_zero

@[simp] theorem binary32_one : binary32 1 = 1 := by
  simpa using roundBinary_natCast (p := 24) 1 (by norm_num)

@[simp] theorem binary64_ofNat (n : ℕ) [n.AtLeastTwo] (h : n < 2 ^ 53) :
    binary64 (OfNat.ofNat n) = OfNat.ofNat n :=
  roundBinary_natCast (p := 53) n h

theorem binary64_natCast (n : ℕ) (h : n < 2 ^ 53) : binary64 n = n := roundBinary_natCast n h

theorem binary64_mono {x y : ℚ} (h : x ≤ y) : binary64 x ≤ binary64 y :=
  roundBinary_mono (by norm_num) h

theorem binary64_nonneg {x : ℚ} (hx : 0 ≤ x) : 0 ≤ binary64 x := roundBinary_nonneg hx

theorem binary64_mem_of_nonneg {x : ℚ} (hx : 0 ≤ x) :
    x * (1 - 1 / 2 ^ 53) ≤ binary64 x ∧ binary64 x ≤ x * (1 + 1 / 2 ^ 53) :=
  roundBinary_mem_of_nonneg hx

@[simp] theorem binary32_ofNat (n : ℕ) [n.AtLeastTwo] (h : n < 2 ^ 24) :
    binary32 (OfNat.ofNat n) = OfNat.ofNat n :=
  roundBinary_natCast (p := 24) n h

theorem binary32_mono {x y : ℚ} (h : x ≤ y) : binary32 x ≤ binary32 y :=
  roundBinary_mono (by norm_num) h

theorem binary32_nonneg {x : ℚ} (hx : 0 ≤ x) : 0 ≤ binary32 x := roundBinary_nonneg hx

theorem binary32_pos {x : ℚ} (hx : 0 < x) : 0 < binary32 x := roundBinary_pos (by norm_num) hx

end PRaft
