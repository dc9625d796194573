import Mathlib.Algebra.Group.Int.Defs
import Mathlib.Algebra.Group.Nat.Defs
import TabularReport.Json.Basic

/-!
# Numbers as floating-point numbers

An integer of 64 bits is far below the largest float, so it is finite as a float, however it is
rounded. The bound on the exponent is rough: rounding adds to it at most the bits of the mantissa,
twice.
-/

namespace TabularReport

/-- Whether a number can stand in a document: integers have 64 bits, floats are finite. -/
def Number.IsProper : Number → Prop
  | .int i => -2 ^ 63 ≤ i ∧ i < 2 ^ 64
  | .float x => x.isFinite = true

open Float.Model Float.Model.UnpackedFloat

/-- Whether a float is finite, with a mantissa of at most so many bits and an exponent of at most
so much. -/
inductive FloatWithin (bits : Nat) (bound : Int) : UnpackedFloat → Prop
  | zero (s : Sign) : FloatWithin bits bound (.zero s)
  | finite (s : Sign) {m : Nat} {e : Int} (hpos : 0 < m) :
      m < 2 ^ bits → e ≤ bound → FloatWithin bits bound (.finite s m e hpos)

namespace FloatWithin

private theorem mono {f : UnpackedFloat} {bits bits' : Nat} {bound bound' : Int}
    (h : FloatWithin bits bound f) (hbits : bits ≤ bits') (hbound : bound ≤ bound') :
    FloatWithin bits' bound' f := by
  cases h with
  | zero s => exact .zero s
  | finite s hpos hm he =>
    have hpow : 2 ^ bits ≤ 2 ^ bits' := Nat.pow_le_pow_right (by decide) hbits
    exact .finite s hpos (Nat.lt_of_lt_of_le hm hpow) (Int.le_trans he hbound)

private theorem mantissa_shiftRight_le (em : ExtendedMantissa) (n : Nat) :
    (em >>> n).mantissa ≤ em.mantissa := by
  change (Nat.repeat ExtendedMantissa.shiftRightOne n em).mantissa ≤ _
  induction n with
  | zero => exact Nat.le_refl _
  | succ n ih => exact Nat.le_trans (Nat.div_le_self ..) ih

private theorem mantissa_shift_le (m : Nat) (e : Int) (a : Accuracy) :
    (shiftToTargetExponent Format.binary64 m e a).1.mantissa ≤ m := by
  refine Nat.le_trans (mantissa_shiftRight_le _ _) (Nat.le_of_eq ?_)
  cases a with
  | exact => rfl
  | inexact o => cases o <;> rfl

private theorem roundedMantissa_le (em : ExtendedMantissa) :
    em.roundedMantissa ≤ em.mantissa + 1 := by
  obtain ⟨m, r, s⟩ := em
  cases r <;> cases s <;>
    simp only [ExtendedMantissa.roundedMantissa, ExtendedMantissa.accuracy,
      Accuracy.roundToNearestEven] <;> omega

private theorem exponent_shift_le {m : Nat} {e : Int} (a : Accuracy) {bits : Nat} {bound : Int}
    (hm : m < 2 ^ bits) (hbound : 0 ≤ bound) (he : e ≤ bound) :
    (shiftToTargetExponent Format.binary64 m e a).2 ≤ bound + bits := by
  have hlog : m.log2 ≤ bits := by
    by_cases h0 : m = 0
    · simp [h0]
    · exact Nat.le_of_lt ((Nat.log2_lt h0).mpr hm)
  have hwidth : Format.binary64.mantissaBits = 53 := rfl
  simp only [shiftToTargetExponent, shiftToExponent, Format.targetExponent, totalExponent,
    Format.minExponent, hwidth]
  omega

private theorem roundWithAccuracy (s : Sign) {m : Nat} {e : Int} (a : Accuracy) {bits : Nat}
    {bound : Int} (hm : m + 1 < 2 ^ bits) (hbound : 0 ≤ bound) (he : e ≤ bound) :
    FloatWithin bits (bound + 2 * bits)
      (UnpackedFloat.roundWithAccuracy Format.binary64 s m e a) := by
  have hmantissa := mantissa_shift_le m e a
  have hexponent := exponent_shift_le a (Nat.lt_of_succ_lt hm) hbound he
  rw [UnpackedFloat.roundWithAccuracy]
  generalize shiftToTargetExponent Format.binary64 m e a = first at hmantissa hexponent ⊢
  obtain ⟨em, e₁⟩ := first
  dsimp only at hmantissa hexponent ⊢
  have hrounded := roundedMantissa_le em
  have hlast := mantissa_shift_le em.roundedMantissa e₁ .exact
  have hfinal : (shiftToTargetExponent Format.binary64 em.roundedMantissa e₁ .exact).2 ≤
      bound + bits + bits := exponent_shift_le .exact (by omega) (by omega) hexponent
  generalize shiftToTargetExponent Format.binary64 em.roundedMantissa e₁ .exact = second
    at hlast hfinal ⊢
  obtain ⟨em', e₂⟩ := second
  dsimp only at hlast hfinal ⊢
  by_cases hzero : em'.mantissa = 0
  · rw [dif_pos hzero]
    exact .zero s
  · rw [dif_neg hzero]
    exact .finite s _ (by omega) (by omega)

private theorem toNat_unpackExponent_le {f : UnpackedFloat} {bits : Nat} {bound : Int}
    (h : FloatWithin bits bound f) (hbound : bound ≤ 971) :
    (unpackExponent (UnpackedFloat.pack Format.binary64 f)).toNat ≤ (bound + 1075).toNat := by
  cases h with
  | zero s =>
    unfold UnpackedFloat.pack
    rw [packedZero, unpackExponent_packComponents]
    exact Nat.zero_le _
  | @finite s m e hpos _ he =>
    have hbias : (e + (Format.exponentBias Format.binary64 : Int) + (52 : Nat)).toNat ≤
        (bound + 1075).toNat := by
      simp only [Format.exponentBias]
      omega
    unfold UnpackedFloat.pack
    dsimp only
    generalize (e + (Format.exponentBias Format.binary64 : Int) + (52 : Nat)).toNat = biased
      at hbias ⊢
    have hfits : ¬ 2 ^ 11 ≤ biased + 1 := by omega
    rw [if_neg hfits]
    by_cases hn : m.log2 + 1 = Format.binary64.mantissaBits
    · rw [if_pos hn, unpackExponent_packComponents, BitVec.toNat_ofNat]
      exact Nat.le_trans (Nat.mod_le ..) hbias
    · rw [if_neg hn, unpackExponent_packComponents]
      exact Nat.zero_le _

private theorem unpack_pack {f : UnpackedFloat} {bits : Nat} {bound : Int}
    (h : FloatWithin bits bound f) (hlow : -1074 ≤ bound) (hbound : bound ≤ 971) :
    FloatWithin 53 bound
      (UnpackedFloat.unpack Format.binary64 (UnpackedFloat.pack Format.binary64 f)) := by
  have hexponent := toNat_unpackExponent_le h hbound
  generalize UnpackedFloat.pack Format.binary64 f = v at hexponent ⊢
  have hmantissa : (unpackMantissa v).toNat < 2 ^ 52 := (unpackMantissa v).isLt
  unfold UnpackedFloat.unpack
  have hbias : (Format.exponentBias Format.binary64 : Int) + (52 : Nat) = 1075 := rfl
  have hfinite : unpackExponent v ≠ (-1#_) := by
    intro he
    have hnat : (unpackExponent v).toNat = 2047 := by rw [he]; rfl
    omega
  dsimp only
  rw [if_neg hfinite]
  by_cases hsmall : unpackExponent v = 0#_
  · have hnat : (unpackExponent v).toNat = 0 := by rw [hsmall]; rfl
    rw [if_pos hsmall]
    by_cases hzero : unpackMantissa v = 0#_
    · rw [dif_pos hzero]
      exact .zero _
    · rw [dif_neg hzero]
      exact .finite _ _ (Nat.lt_trans hmantissa (by decide)) (by omega)
  · rw [if_neg hsmall]
    exact .finite _ _ (BitVec.isLt _) (by omega)

/-- Changing the sign changes neither mantissa nor exponent. -/
theorem neg {f : UnpackedFloat} {bits : Nat} {bound : Int} (h : FloatWithin bits bound f) :
    FloatWithin bits bound f.neg := by
  cases h with
  | zero s => exact .zero _
  | finite s hpos hm he => exact .finite _ hpos hm he

private theorem mul {f g : UnpackedFloat} {bits bits' : Nat} {bound bound' : Int}
    (hf : FloatWithin bits bound f) (hg : FloatWithin bits' bound' g)
    (hbound : 0 ≤ bound + bound') :
    FloatWithin (bits + bits' + 1) (bound + bound' + 2 * (bits + bits' + 1 : Nat))
      (UnpackedFloat.mul Format.binary64 f g) := by
  cases hf with
  | zero s => cases hg <;> exact .zero _
  | @finite s m e hpos hm he =>
    cases hg with
    | zero => exact .zero _
    | @finite s' m' e' hpos' hm' he' =>
      have hproduct : m * m' < 2 ^ (bits + bits') := by
        rw [Nat.pow_add]
        exact Nat.mul_lt_mul'' hm hm'
      have hpow : 2 ^ (bits + bits' + 1) = 2 ^ (bits + bits') * 2 := Nat.pow_succ ..
      exact roundWithAccuracy _ _ (by omega) hbound (by omega)

private theorem round (s : Sign) {m : Nat} (hm : m < 2 ^ 64) :
    FloatWithin 117 234 (UnpackedFloat.round Format.binary64 s m 0) := by
  rw [UnpackedFloat.round]
  dsimp only [decreaseExponent]
  have hshift : (0 - Format.binary64.targetExponent (totalExponent m 0)).toNat ≤ 52 := by
    have hwidth : Format.binary64.mantissaBits = 53 := rfl
    simp only [Format.targetExponent, totalExponent, Format.minExponent, hwidth]
    omega
  generalize (0 - Format.binary64.targetExponent (totalExponent m 0)).toNat = shift at hshift ⊢
  have hmantissa : m <<< shift < 2 ^ 116 := by
    rw [Nat.shiftLeft_eq]
    have hpow : 2 ^ shift ≤ 2 ^ 52 := Nat.pow_le_pow_right (by decide) hshift
    calc m * 2 ^ shift ≤ m * 2 ^ 52 := Nat.mul_le_mul_left m hpow
      _ < 2 ^ 64 * 2 ^ 52 := Nat.mul_lt_mul_of_pos_right hm (by decide)
      _ = 2 ^ 116 := rfl
  exact roundWithAccuracy s .exact (by omega) (Int.le_refl 0) (by omega)

private theorem ofUInt64 (n : UInt64) :
    FloatWithin 117 234 (UnpackedFloat.ofUInt64 Format.binary64 n) := by
  have hn : n.toNat < 2 ^ 64 := n.toNat_lt
  rw [UnpackedFloat.ofUInt64, UnpackedFloat.ofNat, UnpackedFloat.ofInt, UnpackedFloat.normalize]
  split
  · exact round _ (by omega)
  · exact .zero _
  · exact round _ (by omega)

/-- A float whose exponent is not too large is finite once it is packed. -/
theorem isFinite_pack {f : UnpackedFloat} {bits : Nat} {bound : Int} (h : FloatWithin bits bound f)
    (hlow : -1074 ≤ bound) (hbound : bound ≤ 971) :
    (Float.ofModel (Float.Model.pack f)).isFinite = true := by
  have hpack := unpack_pack h hlow hbound
  change (UnpackedFloat.unpack Format.binary64
    (UnpackedFloat.pack Format.binary64 f)).isFinite = true
  generalize UnpackedFloat.unpack Format.binary64 (UnpackedFloat.pack Format.binary64 f) = g
    at hpack ⊢
  cases hpack <;> rfl

end FloatWithin

namespace FloatWithin

private theorem ofScientific {n : Nat} (hpos : n ≠ 0) (hn : n < 2 ^ 64) :
    FloatWithin 119 238 (UnpackedFloat.ofScientific Format.binary64 n 0) := by
  have hlog : ¬ (0 : Int) < -(2 ^ 11 + n.log2) := by omega
  rw [UnpackedFloat.ofScientific, dif_neg hpos, if_neg (by decide), if_neg hlog,
    if_pos (Int.le_refl 0)]
  have hfactor : n <<< 53 < 2 ^ 117 := by
    rw [Nat.shiftLeft_eq]
    exact Nat.mul_lt_mul_of_pos_right hn (by decide)
  have hshift : 0 < n <<< 53 := by
    rw [Nat.shiftLeft_eq]
    exact Nat.mul_pos (Nat.pos_of_ne_zero hpos) (by decide)
  have hleft : FloatWithin 117 0 (.finite .positive (n <<< 53) (-53) hshift) :=
    .finite _ _ hfactor (by decide)
  have hright : FloatWithin 1 0 (.finite .positive (10 ^ 0) 0 (by decide)) :=
    .finite _ _ (by decide) (by decide)
  exact hleft.mul hright (by decide)

end FloatWithin

-- A natural number of 64 bits is within small bounds as a float. It is a product with a power of
-- ten in both ways of reading it: of two floats up to 53 bits, and of exact numbers above.
private theorem exists_pack_ofNat {n : Nat} (hn : n < 2 ^ 64) :
    ∃ f, Float.ofNat n = Float.ofModel (Float.Model.pack f) ∧ FloatWithin 119 448 f := by
  change ∃ f, Float.ofScientific n false 0 = _ ∧ _
  rw [Float.ofScientific]
  split
  · have hone : FloatWithin 53 0 (UnpackedFloat.unpack Format.binary64 0x3FF0000000000000#64) :=
      .finite _ _ (by decide) (by decide)
    have hleft := (FloatWithin.ofUInt64 n.toUInt64).unpack_pack (by decide) (by decide)
    have hright := hone.unpack_pack (by decide) (by decide)
    exact ⟨_, rfl, (hleft.mul hright (by decide)).mono (by decide) (by decide)⟩
  · next hlarge =>
    have hpos : n ≠ 0 := by omega
    exact ⟨_, rfl, (FloatWithin.ofScientific hpos hn).mono (by decide) (by decide)⟩

/-- A number that can stand in a document is finite as a float. -/
theorem Number.IsProper.isFinite_toFloat {n : Number} (h : n.IsProper) :
    n.toFloat.isFinite = true := by
  cases n with
  | float x => exact h
  | int i =>
    obtain ⟨hlow, hhigh⟩ := h
    obtain ⟨f, hf, hwithin⟩ := exists_pack_ofNat (show i.natAbs < 2 ^ 64 by omega)
    rw [toFloat]
    split
    · rw [hf]
      exact (hwithin.unpack_pack (by decide) (by decide)).neg.isFinite_pack (by decide) (by decide)
    · rw [hf]
      exact hwithin.isFinite_pack (by decide) (by decide)

end TabularReport
