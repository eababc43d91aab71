import HealthAgent.Number.Binary64
/-!
# Values that are no numbers

A comparison with a value that is no number fails in both directions, so that of two values one can be
neither at most nor above the other. Such a value is read from one word only, and no quotient of whole
numbers is one unless it divides by zero.

Results:
* `not_le_iff`: what is not at most another value is above it, or one of the two is no number.
* `isNaN_parseFloat?`: a value that is no number is read from the word for it and from nothing else.
* `isNaN_percentage`: a percentage of a whole other than zero is a number.
-/
namespace HealthAgent.Number
open Float.Model Float.Model.UnpackedFloat Text

/-! ## Comparing -/

theorem compare_eq_none_iff (a b : UnpackedFloat) :
    a.compare b = none ↔ a.isNaN = true ∨ b.isNaN = true := by
  rcases a with s | _ | s | ⟨s, m, e, hm⟩ <;> rcases b with s' | _ | s' | ⟨s', m', e', hm'⟩
  all_goals (try cases s) <;> (try cases s')
  all_goals first
    | exact iff_of_true rfl (.inl rfl)
    | exact iff_of_true rfl (.inr rfl)
    | exact iff_of_false nofun (by rintro (h | h) <;> cases h)

theorem compare_swap (a b : UnpackedFloat) : b.compare a = (a.compare b).map Ordering.swap := by
  have hthen : ∀ (e₁ e₂ : Int) (m₁ m₂ : Nat),
      ((compare e₁ e₂).then (compare m₁ m₂)).swap = (compare e₂ e₁).then (compare m₂ m₁) := by
    intro e₁ e₂ m₁ m₂
    rw [Ordering.swap_then, Int.compare_swap, Nat.compare_swap]
  rcases a with s | _ | s | ⟨s, m, e, hm⟩ <;> rcases b with s' | _ | s' | ⟨s', m', e', hm'⟩
  all_goals (try cases s) <;> (try cases s')
  all_goals first
    | rfl
    | exact congrArg some (hthen _ _ _ _).symm
    | exact congrArg some ((congrArg Ordering.swap (hthen _ _ _ _)).symm)

theorem le_iff (a b : Float) :
    a ≤ b ↔ (a.toModel.unpack.compare b.toModel.unpack).any (·.isLE) = true := by
  change Float.le a b = true ↔ _
  unfold Float.le
  exact decide_eq_true_iff

theorem lt_iff (a b : Float) :
    a < b ↔ a.toModel.unpack.compare b.toModel.unpack = some .lt := by
  change Float.lt a b = true ↔ _
  unfold Float.lt
  refine decide_eq_true_iff.trans ?_
  exact beq_iff_eq

/-- What is not at most another value is above it, or one of the two is no number. -/
theorem not_le_iff (a b : Float) : ¬ a ≤ b ↔ b < a ∨ a.isNaN = true ∨ b.isNaN = true := by
  have hnone : a.toModel.unpack.compare b.toModel.unpack = none ↔ a.isNaN = true ∨ b.isNaN = true :=
    compare_eq_none_iff _ _
  rw [← hnone, le_iff, lt_iff, compare_swap a.toModel.unpack]
  cases a.toModel.unpack.compare b.toModel.unpack with
  | none => simp
  | some o => cases o <;> simp

/-- Nothing is below a value that is no number. -/
theorem not_lt_of_isNaN (a : Float) {b : Float} (h : b.isNaN = true) : ¬ a < b := by
  rw [lt_iff, (compare_eq_none_iff _ _).2 (.inr h)]
  exact nofun

/-! ## Packing -/

theorem mantissaBits_binary64 : Format.binary64.mantissaBits = 53 := rfl

theorem ofNat_ne_zero {w n : Nat} (hpos : 0 < n) (h : n < 2 ^ w) : BitVec.ofNat w n ≠ 0#w := by
  intro heq
  have hmod := congrArg BitVec.toNat heq
  rw [BitVec.toNat_ofNat, Nat.mod_eq_of_lt h, BitVec.toNat_zero] at hmod
  omega

/-- An exponent below the largest is not packed as the largest, which only infinities and values that
are no numbers have. -/
theorem exponent_ne_ones {n : Nat} (h : n < 2047) :
    BitVec.ofNat Format.binary64.exponentBits n ≠ (-1#_) := by
  intro heq
  have hmod := congrArg BitVec.toNat heq
  simp at hmod
  omega

theorem unpack_isNaN_iff (b : BitVec Format.binary64.numBits) :
    (UnpackedFloat.unpack Format.binary64 b).isNaN = true ↔
      unpackExponent b = (-1#_) ∧ unpackMantissa b ≠ 0#_ := by
  unfold UnpackedFloat.unpack
  dsimp only
  by_cases hexponent : unpackExponent b = (-1#_)
  · rw [if_pos hexponent]
    by_cases hmantissa : unpackMantissa b = 0#_
    · rw [if_pos hmantissa]
      exact iff_of_false nofun fun h => h.2 hmantissa
    · rw [if_neg hmantissa]
      exact iff_of_true rfl ⟨hexponent, hmantissa⟩
  · rw [if_neg hexponent]
    refine iff_of_false ?_ fun h => hexponent h.1
    by_cases hsubnormal : unpackExponent b = 0#_
    · rw [if_pos hsubnormal]
      by_cases hmantissa : unpackMantissa b = 0#_
      · rw [dif_pos hmantissa]
        exact nofun
      · rw [dif_neg hmantissa]
        exact nofun
    · rw [if_neg hsubnormal]
      exact nofun

theorem isNaN_pack (f : UnpackedFloat) : (Float.Model.pack f).isNaN = f.isNaN := by
  rw [Bool.eq_iff_iff]
  change (UnpackedFloat.unpack Format.binary64 (UnpackedFloat.pack Format.binary64 f)).isNaN =
    true ↔ _
  rw [unpack_isNaN_iff]
  fun_cases UnpackedFloat.pack
  · exact iff_of_true (by decide) rfl
  · exact iff_of_false (by simp [packedInfinity]) nofun
  · exact iff_of_false (by simp [packedZero]) nofun
  · exact iff_of_false (by simp [packedInfinity]) nofun
  · rename_i s m e hm log biased hfits hnormal
    have hlt : biased < 2047 := by
      simp only [Nat.not_le] at hfits
      omega
    rw [unpackExponent_packComponents]
    exact iff_of_false (fun h => exponent_ne_ones hlt h.1) nofun
  · exact iff_of_false (by simp) nofun

theorem isNaN_ofBits_iff (n : UInt64) :
    (Float.ofBits n).isNaN = true ↔ n.toNat / 2 ^ 52 % 2 ^ 11 = 2047 ∧ n.toNat % 2 ^ 52 ≠ 0 := by
  have hpacked : (Float.ofBits n).isNaN = (UnpackedFloat.unpack Format.binary64 n.toBitVec).isNaN :=
    isNaN_pack _
  have hexponent : (@unpackExponent Format.binary64 n.toBitVec).toNat =
      n.toNat / 2 ^ 52 % 2 ^ 11 := by
    simp [unpackExponent, Nat.shiftRight_eq_div_pow]
  have hmantissa : (@unpackMantissa Format.binary64 n.toBitVec).toNat =
      n.toNat % 2 ^ 52 := by
    simp [unpackMantissa]
  rw [hpacked, unpack_isNaN_iff, ← BitVec.toNat_inj, ne_eq, ← BitVec.toNat_inj, hexponent, hmantissa]
  exact Iff.rfl

theorem isNaN_ofBits_of_le {n : Nat} (h : n ≤ infinity) :
    (Float.ofBits n.toUInt64).isNaN = false ∧ (Float.ofBits (n + 2 ^ 63).toUInt64).isNaN = false := by
  have hlimit : n ≤ 2047 * 2 ^ 52 := h
  constructor
  · rw [← Bool.not_eq_true, isNaN_ofBits_iff]
    rintro ⟨hexponent, hmantissa⟩
    simp at hexponent hmantissa
    omega
  · rw [← Bool.not_eq_true, isNaN_ofBits_iff]
    rintro ⟨hexponent, hmantissa⟩
    simp at hexponent hmantissa
    omega

/-! ## Rounding -/

theorem targetExponent_binary64 (e : Int) :
    Format.binary64.targetExponent e = max (e - 53) (-1074) := by
  rw [Format.targetExponent, Format.minExponent, mantissaBits_binary64]
  rfl

/-- A number that is neither zero nor infinite. -/
def Ordinary : UnpackedFloat → Prop
  | .finite .. => True
  | _ => False

theorem ordinary_pack {s : Sign} {m : Nat} {e : Int} (hm : 0 < m) (hlt : m < 2 ^ 53)
    (hlow : -1000 ≤ e) (hhigh : e ≤ 900) :
    Ordinary (Float.Model.pack (.finite s m e hm)).unpack := by
  have hbias : (e + Format.binary64.exponentBias +
      Format.binary64.mantissaBitsWithoutImplicit).toNat = (e + 1075).toNat := by
    simp [Format.exponentBias]; omega
  have hpack : ∃ exponent mantissa, UnpackedFloat.pack Format.binary64 (.finite s m e hm) =
      packComponents Format.binary64 s exponent mantissa ∧ exponent ≠ (-1#_) ∧
        (exponent ≠ 0#_ ∨ mantissa ≠ 0#_) := by
    unfold UnpackedFloat.pack
    dsimp only
    rw [hbias, if_neg (by simp; omega)]
    split
    · have hbelow : (e + 1075).toNat < 2047 := by omega
      have hwidth : (e + 1075).toNat < 2 ^ Format.binary64.exponentBits :=
        Nat.lt_trans hbelow (by decide)
      exact ⟨_, _, rfl, exponent_ne_ones hbelow, .inl (ofNat_ne_zero (by omega) hwidth)⟩
    · rename_i hlog
      have hlog2 : m.log2 < 52 := by
        have hle := (Nat.log2_lt (Nat.ne_of_gt hm)).2 hlt
        rw [mantissaBits_binary64] at hlog
        omega
      have hsmall := (Nat.log2_lt (Nat.ne_of_gt hm)).1 hlog2
      exact ⟨_, _, rfl, by decide, .inr (ofNat_ne_zero hm hsmall)⟩
  obtain ⟨exponent, mantissa, hcomponents, hinf, hzero⟩ := hpack
  change Ordinary (UnpackedFloat.unpack Format.binary64
    (UnpackedFloat.pack Format.binary64 (.finite s m e hm)))
  rw [hcomponents]
  unfold UnpackedFloat.unpack
  dsimp only
  rw [unpackExponent_packComponents, if_neg hinf]
  by_cases hnull : exponent = 0#_
  · have hmantissa := hzero.resolve_left (fun h => h hnull)
    rw [if_pos hnull, dif_neg (by rw [unpackMantissa_packComponents]; exact hmantissa)]
    trivial
  · rw [if_neg hnull]
    trivial

theorem mantissa_shift (em : ExtendedMantissa) (n : Nat) :
    (em >>> n).mantissa = em.mantissa / 2 ^ n := by
  change (n.repeat ExtendedMantissa.shiftRightOne em).mantissa = _
  induction n with
  | zero => simp [Nat.repeat]
  | succ n ih =>
    rw [Nat.repeat, ExtendedMantissa.shiftRightOne, ih, Nat.div_div_eq_div_mul, Nat.pow_succ]

theorem roundedMantissa_bounds (em : ExtendedMantissa) :
    em.mantissa ≤ em.roundedMantissa ∧ em.roundedMantissa ≤ em.mantissa + 1 := by
  rcases em with ⟨m, _ | _, _ | _⟩ <;>
    simp [ExtendedMantissa.roundedMantissa, ExtendedMantissa.accuracy, Accuracy.roundToNearestEven]
  omega

theorem shiftToTargetExponent_exact {m : Nat} {e : Int} (he : -1000 ≤ e) :
    (shiftToTargetExponent Format.binary64 m e .exact).1.mantissa = m / 2 ^ (m.log2 - 52) ∧
      (shiftToTargetExponent Format.binary64 m e .exact).2 = e + (m.log2 - 52 : Nat) := by
  have hshift : (Format.binary64.targetExponent (totalExponent m e) - e).toNat = m.log2 - 52 := by
    rw [targetExponent_binary64, totalExponent]
    omega
  simp only [shiftToTargetExponent, shiftToExponent, hshift, mantissa_shift,
    ExtendedMantissa.ofMantissaAndAccuracy, and_self]

theorem shifted_bounds {m : Nat} (hm : 0 < m) :
    0 < m / 2 ^ (m.log2 - 52) ∧ m / 2 ^ (m.log2 - 52) < 2 ^ 53 := by
  have hlow : 2 ^ m.log2 ≤ m := Nat.log2_self_le (Nat.ne_of_gt hm)
  have hhigh : m < 2 ^ (m.log2 + 1) := Nat.lt_log2_self
  constructor
  · exact Nat.div_pos (Nat.le_trans (Nat.pow_le_pow_right (by decide) (by omega)) hlow)
      (Nat.two_pow_pos _)
  · refine Nat.div_lt_of_lt_mul ?_
    rw [← Nat.pow_add]
    exact Nat.lt_of_lt_of_le hhigh (Nat.pow_le_pow_right (by decide) (by omega))

theorem roundWithAccuracy_finite {s : Sign} {m : Nat} {e : Int} (hm : 0 < m) (hlt : m < 2 ^ 120)
    (hlow : -100 ≤ e) (hhigh : e ≤ 100) :
    ∃ m' e' hm', roundWithAccuracy Format.binary64 s m e .exact = .finite s m' e' hm' ∧
      m' < 2 ^ 53 ∧ -1000 ≤ e' ∧ e' ≤ 900 := by
  obtain ⟨hfirst, he₁⟩ := shiftToTargetExponent_exact (m := m) (e := e) (by omega)
  have hlog : m.log2 < 120 := (Nat.log2_lt (Nat.ne_of_gt hm)).2 hlt
  unfold roundWithAccuracy
  generalize shiftToTargetExponent Format.binary64 m e .exact = first at hfirst he₁ ⊢
  obtain ⟨em₁, e₁⟩ := first
  dsimp only at hfirst he₁ ⊢
  obtain ⟨hround, hround'⟩ := roundedMantissa_bounds em₁
  obtain ⟨hpos, hsmall⟩ := shifted_bounds hm
  rw [hfirst] at hround hround'
  generalize em₁.roundedMantissa = r at hround hround' ⊢
  have hr : 0 < r := by omega
  have hlogr : r.log2 < 54 := (Nat.log2_lt (Nat.ne_of_gt hr)).2 (by omega)
  obtain ⟨hsecond, he₂⟩ := shiftToTargetExponent_exact (m := r) (e := e₁) (by omega)
  generalize shiftToTargetExponent Format.binary64 r e₁ .exact = second at hsecond he₂ ⊢
  obtain ⟨em₂, e₂⟩ := second
  dsimp only at hsecond he₂ ⊢
  obtain ⟨hpos', hsmall'⟩ := shifted_bounds hr
  rw [dif_neg (by omega)]
  exact ⟨_, _, _, rfl, by omega, by omega, by omega⟩

theorem ofNat_finite {n : Nat} (hn : 0 < n) (hlt : n < 2 ^ 64) :
    ∃ m e hm, UnpackedFloat.ofNat Format.binary64 n = .finite .positive m e hm ∧
      m < 2 ^ 53 ∧ -1000 ≤ e ∧ e ≤ 900 := by
  have hcompare : compare (n : Int) 0 = .gt := Int.compare_eq_gt.2 (by omega)
  have hlog : n.log2 < 64 := (Nat.log2_lt (Nat.ne_of_gt hn)).2 hlt
  have htarget : Format.binary64.targetExponent (totalExponent n 0) = (n.log2 : Int) - 52 := by
    rw [targetExponent_binary64, totalExponent]
    omega
  have hround : UnpackedFloat.ofNat Format.binary64 n =
      roundWithAccuracy Format.binary64 .positive (n <<< (0 - ((n.log2 : Int) - 52)).toNat)
        (0 - (0 - ((n.log2 : Int) - 52)).toNat) .exact := by
    rw [UnpackedFloat.ofNat, UnpackedFloat.ofInt, UnpackedFloat.normalize, hcompare]
    simp only [Int.toNat_natCast, UnpackedFloat.round, htarget, decreaseExponent]
  rw [hround]
  refine roundWithAccuracy_finite ?_ ?_ (by omega) (by omega)
  · rw [Nat.shiftLeft_eq]
    exact Nat.mul_pos hn (Nat.two_pow_pos _)
  · rw [Nat.shiftLeft_eq]
    calc n * 2 ^ (0 - ((n.log2 : Int) - 52)).toNat
        < 2 ^ 64 * 2 ^ (0 - ((n.log2 : Int) - 52)).toNat :=
          Nat.mul_lt_mul_of_pos_right hlt (Nat.two_pow_pos _)
      _ ≤ 2 ^ 64 * 2 ^ 52 := Nat.mul_le_mul_left _ (Nat.pow_le_pow_right (by decide) (by omega))
      _ ≤ 2 ^ 120 := by decide

/-! ## Percentages -/

theorem isNaN_roundWithAccuracy (s : Sign) (m : Nat) (e : Int) (accuracy : Accuracy) :
    (roundWithAccuracy Format.binary64 s m e accuracy).isNaN = false := by
  unfold roundWithAccuracy
  dsimp only
  generalize shiftToTargetExponent Format.binary64 _ _ .exact = shifted
  by_cases hzero : shifted.1.mantissa = 0
  · rw [dif_pos hzero]
    rfl
  · rw [dif_neg hzero]
    rfl

theorem isNaN_toFloat (n : UInt64) : n.toFloat.isNaN = false := by
  have hpacked : n.toFloat.isNaN = (UnpackedFloat.ofNat Format.binary64 n.toNat).isNaN :=
    isNaN_pack _
  rw [hpacked, UnpackedFloat.ofNat, UnpackedFloat.ofInt, UnpackedFloat.normalize]
  split
  · exact isNaN_roundWithAccuracy _ _ _ _
  · rfl
  · exact isNaN_roundWithAccuracy _ _ _ _

theorem ordinary_toFloat {n : UInt64} (hn : n ≠ 0) : Ordinary n.toFloat.toModel.unpack := by
  have hpos : 0 < n.toNat := by
    rw [Nat.pos_iff_ne_zero]
    exact fun h => hn (UInt64.toNat_inj.1 h)
  obtain ⟨m, e, hm, heq, hlt, hlow, hhigh⟩ := ofNat_finite hpos n.toNat_lt
  change Ordinary (Float.Model.pack (UnpackedFloat.ofNat Format.binary64 n.toNat)).unpack
  rw [heq]
  exact ordinary_pack hm hlt hlow hhigh

theorem isNaN_mul {a b : Float} (ha : Ordinary a.toModel.unpack) (hb : b.isNaN = false) :
    (a * b).isNaN = false := by
  have hpacked : (a * b).isNaN =
      (UnpackedFloat.mul Format.binary64 a.toModel.unpack b.toModel.unpack).isNaN := isNaN_pack _
  change b.toModel.unpack.isNaN = false at hb
  rw [hpacked]
  generalize a.toModel.unpack = x at ha ⊢
  generalize b.toModel.unpack = y at hb ⊢
  cases x with
  | finite s m e hm =>
    cases y with
    | finite => exact isNaN_roundWithAccuracy _ _ _ _
    | notANumber => cases hb
    | infinity => rfl
    | zero => rfl
  | _ => exact ha.elim

theorem isNaN_div {a b : Float} (ha : a.isNaN = false) (hb : Ordinary b.toModel.unpack) :
    (a / b).isNaN = false := by
  have hpacked : (a / b).isNaN =
      (UnpackedFloat.div Format.binary64 a.toModel.unpack b.toModel.unpack).isNaN := isNaN_pack _
  change a.toModel.unpack.isNaN = false at ha
  rw [hpacked]
  generalize a.toModel.unpack = x at ha ⊢
  generalize b.toModel.unpack = y at hb ⊢
  cases y with
  | finite s m e hm =>
    cases x with
    | finite => exact isNaN_roundWithAccuracy _ _ _ _
    | notANumber => cases ha
    | infinity => rfl
    | zero => rfl
  | _ => exact hb.elim

theorem isNaN_percentage (part : UInt64) {whole : UInt64} (hwhole : whole ≠ 0) :
    (100.0 * part.toFloat / whole.toFloat).isNaN = false :=
  isNaN_div (isNaN_mul trivial (isNaN_toFloat part)) (ordinary_toFloat hwhole)

/-! ## Reading -/

theorem nearestDecimal_le (digits : Nat) (exponent : Int) :
    nearestDecimal digits exponent ≤ infinity := by
  have hnearest : ∀ num den, nearest num den ≤ infinity := by
    intro num den
    unfold nearest
    split
    · exact Nat.zero_le _
    · exact Nat.min_le_right _ _
  unfold nearestDecimal
  dsimp only
  split
  · exact Nat.zero_le _
  split
  · exact Nat.le_refl _
  split
  · exact Nat.zero_le _
  split
  · exact hnearest _ _
  · exact hnearest _ _

/-- The word for a value that is no number has bits of its own; all else that is read is a number. -/
theorem magnitude?_eq_some {cs : List Char} {n : Nat} (h : magnitude? cs = some n) :
    (lower cs = "nan".toList ∧ n = notANumber.toNat) ∨ (lower cs ≠ "nan".toList ∧ n ≤ infinity) := by
  unfold magnitude? at h
  dsimp only at h
  split at h
  · rename_i hword
    cases h
    refine .inr ⟨?_, Nat.le_refl _⟩
    intro hnan
    rw [hnan] at hword
    revert hword
    decide
  split at h
  · rename_i hnan
    cases h
    exact .inl ⟨hnan, rfl⟩
  · rename_i hnan
    refine .inr ⟨hnan, ?_⟩
    split at h <;> split at h
    · cases h
    · obtain ⟨e, -, rfl⟩ := Option.map_eq_some_iff.1 h
      exact nearestDecimal_le _ _
    · cases h
    · obtain ⟨e, -, rfl⟩ := Option.map_eq_some_iff.1 h
      exact nearestDecimal_le _ _

/-- A text without its sign. -/
def unsigned : List Char → List Char
  | '-' :: cs => cs
  | '+' :: cs => cs
  | cs => cs

theorem parseFloat?_eq (cs : List Char) : ∃ sign, (sign = 0 ∨ sign = 2 ^ 63) ∧
    parseFloat? cs = (magnitude? (unsigned cs)).map fun n => Float.ofBits (n + sign).toUInt64 := by
  unfold parseFloat?
  split
  · exact ⟨2 ^ 63, .inr rfl, rfl⟩
  · exact ⟨0, .inl rfl, rfl⟩
  · rename_i hminus hplus
    have hbare : unsigned cs = cs := by
      unfold unsigned
      split
      · exact absurd rfl (hminus _)
      · exact absurd rfl (hplus _)
      · rfl
    exact ⟨0, .inl rfl, by rw [hbare]; rfl⟩

/-- A value that is no number is read from the word for it and from nothing else. -/
theorem isNaN_parseFloat? {cs : List Char} {value : Float} (h : parseFloat? cs = some value) :
    value.isNaN = true ↔ lower (unsigned cs) = "nan".toList := by
  obtain ⟨sign, hsign, heq⟩ := parseFloat?_eq cs
  rw [heq] at h
  obtain ⟨n, hn, rfl⟩ := Option.map_eq_some_iff.1 h
  rcases magnitude?_eq_some hn with ⟨hword, rfl⟩ | ⟨hword, hle⟩
  · refine iff_of_true ?_ hword
    rcases hsign with rfl | rfl <;> decide +kernel
  · refine iff_of_false ?_ hword
    obtain ⟨hplus, hminus⟩ := isNaN_ofBits_of_le hle
    rcases hsign with rfl | rfl
    · rw [Nat.add_zero, hplus]
      exact Bool.false_ne_true
    · rw [hminus]
      exact Bool.false_ne_true

theorem parseFloat?_of_nan {cs : List Char} (h : lower (unsigned cs) = "nan".toList) :
    ∃ value, parseFloat? cs = some value := by
  obtain ⟨sign, -, heq⟩ := parseFloat?_eq cs
  have hword : magnitude? (unsigned cs) = some notANumber.toNat := by
    unfold magnitude?
    rw [h]
    rfl
  exact ⟨_, by rw [heq, hword]; rfl⟩

end HealthAgent.Number
