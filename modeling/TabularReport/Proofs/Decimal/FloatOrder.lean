import TabularReport.Chart.OfRows
import TabularReport.Proofs.Json.Number

/-!
# The order of floats

Floats that are numbers stand at places on a line, on which each is as far from zero as its bits
without the sign say. They are compared by their places. The total order goes by signs and bits: it
tells the two zeros apart, and otherwise is the comparison of numbers.
-/

namespace TabularReport

open Float.Model Float.Model.UnpackedFloat

/-- Whether a float has the mantissa and the exponent that its bits would give it. -/
inductive IsCanonical : UnpackedFloat → Prop
  | notANumber : IsCanonical .notANumber
  | infinity (s : Sign) : IsCanonical (.infinity s)
  | zero (s : Sign) : IsCanonical (.zero s)
  | finite (s : Sign) {m : Nat} {e : Int} (hpos : 0 < m) :
      m < 2 ^ 53 → -1074 ≤ e → e ≤ 971 → e = -1074 ∨ 2 ^ 52 ≤ m → IsCanonical (.finite s m e hpos)

/-- How far a float is from zero: as many steps as there are floats between. -/
def steps : UnpackedFloat → Int
  | .zero _ | .notANumber => 0
  | .finite _ m e _ => (e + 1074) * 2 ^ 52 + m
  | .infinity _ => 2047 * 2 ^ 52

/-- The sign of a float. -/
def signOf : UnpackedFloat → Sign
  | .zero s | .finite s .. | .infinity s => s
  | .notANumber => .positive

/-- The place of a float on the line. -/
def place (f : UnpackedFloat) : Int := (signOf f).apply (steps f)

private theorem place_positive {m : Nat} {e : Int} {hpos : 0 < m}
    (h : IsCanonical (.finite .positive m e hpos)) :
    place (.zero .positive) < place (.finite .positive m e hpos) ∧
      place (.finite .positive m e hpos) < place (.infinity .positive) := by
  cases h with
  | finite _ _ hm hlow hhigh _ =>
    dsimp only [place, signOf, Sign.apply, steps]
    omega

private theorem place_negative {m : Nat} {e : Int} {hpos : 0 < m}
    (h : IsCanonical (.finite .negative m e hpos)) :
    place (.infinity .negative) < place (.finite .negative m e hpos) ∧
      place (.finite .negative m e hpos) < place (.zero .positive) := by
  cases h with
  | finite _ _ hm hlow hhigh _ =>
    dsimp only [place, signOf, Sign.apply, steps]
    omega

private theorem compare_steps {s s' : Sign} {m m' : Nat} {e e' : Int} {hpos : 0 < m}
    {hpos' : 0 < m'} (h : IsCanonical (.finite s m e hpos))
    (h' : IsCanonical (.finite s' m' e' hpos')) :
    (compare e e').then (compare m m') =
      compare (steps (.finite s m e hpos)) (steps (.finite s' m' e' hpos')) := by
  cases h with
  | finite _ _ hm hlow _ hnormal =>
    cases h' with
    | finite _ _ hm' hlow' _ hnormal' =>
      dsimp only [steps]
      rcases Int.lt_trichotomy e e' with he | rfl | he
      · rw [Int.compare_eq_lt.mpr he, Ordering.lt_then, eq_comm, Int.compare_eq_lt]
        omega
      · rw [Int.compare_eq_eq.mpr rfl, Ordering.eq_then]
        rcases Nat.lt_trichotomy m m' with hlt | rfl | hgt
        · rw [Nat.compare_eq_lt.mpr hlt, eq_comm, Int.compare_eq_lt]
          omega
        · rw [Nat.compare_eq_eq.mpr rfl, Int.compare_eq_eq.mpr rfl]
        · rw [Nat.compare_eq_gt.mpr hgt, eq_comm, Int.compare_eq_gt]
          omega
      · rw [Int.compare_eq_gt.mpr he, Ordering.gt_then, eq_comm, Int.compare_eq_gt]
        omega

private theorem compare_neg_neg (x y : Int) : compare (-x) (-y) = (compare x y).swap := by
  rcases Int.lt_trichotomy x y with h | rfl | h
  · rw [Int.compare_eq_lt.mpr h, Int.compare_eq_gt.mpr (by omega), Ordering.swap_lt]
  · rw [Int.compare_eq_eq.mpr rfl, Int.compare_eq_eq.mpr rfl, Ordering.swap_eq]
  · rw [Int.compare_eq_gt.mpr h, Int.compare_eq_lt.mpr (by omega), Ordering.swap_gt]

private theorem compare_eq {f g : UnpackedFloat} (hf : IsCanonical f) (hg : IsCanonical g)
    (hnumber : f.isNaN = false) (hnumber' : g.isNaN = false) :
    f.compare g = some (compare (place f) (place g)) := by
  have hless {x y : Int} (h : x < y) : some .lt = some (compare x y) :=
    congrArg some (Int.compare_eq_lt.mpr h).symm
  have hmore {x y : Int} (h : y < x) : some .gt = some (compare x y) :=
    congrArg some (Int.compare_eq_gt.mpr h).symm
  cases f with
  | notANumber => cases hnumber
  | infinity s =>
    cases g with
    | notANumber => cases hnumber'
    | infinity s' => cases s <;> cases s' <;> rfl
    | zero s' => cases s <;> cases s' <;> rfl
    | finite s' m' e' hpos' =>
      cases s with
      | positive =>
        cases s' with
        | positive => exact hmore (place_positive hg).2
        | negative => exact hmore (Int.lt_trans (place_negative hg).2 (by decide))
      | negative =>
        cases s' with
        | positive => exact hless (Int.lt_trans (by decide) (place_positive hg).1)
        | negative => exact hless (place_negative hg).1
  | zero s =>
    cases g with
    | notANumber => cases hnumber'
    | infinity s' => cases s <;> cases s' <;> rfl
    | zero s' => cases s <;> cases s' <;> rfl
    | finite s' m' e' hpos' =>
      have hzero : place (.zero s) = place (.zero .positive) := by cases s <;> rfl
      rw [hzero]
      cases s' with
      | positive => exact hless (place_positive hg).1
      | negative => exact hmore (place_negative hg).2
  | finite s m e hpos =>
    cases g with
    | notANumber => cases hnumber'
    | infinity s' =>
      cases s' with
      | positive =>
        cases s with
        | positive => exact hless (place_positive hf).2
        | negative => exact hless (Int.lt_trans (place_negative hf).2 (by decide))
      | negative =>
        cases s with
        | positive => exact hmore (Int.lt_trans (by decide) (place_positive hf).1)
        | negative => exact hmore (place_negative hf).1
    | zero s' =>
      have hzero : place (.zero s') = place (.zero .positive) := by cases s' <;> rfl
      rw [hzero]
      cases s with
      | positive => exact hmore (place_positive hf).1
      | negative => exact hless (place_negative hf).2
    | finite s' m' e' hpos' =>
      have hsteps := compare_steps hf hg
      cases s with
      | positive =>
        cases s' with
        | positive => exact congrArg some hsteps
        | negative => exact hmore (Int.lt_trans (place_negative hg).2 (place_positive hf).1)
      | negative =>
        cases s' with
        | positive => exact hless (Int.lt_trans (place_negative hf).2 (place_positive hg).1)
        | negative =>
          change _ = some (compare (-steps _) (-steps _))
          rw [compare_neg_neg, ← hsteps]
          rfl

private theorem toNat_eq_fields (v : BitVec Format.binary64.numBits) :
    v.toNat = (unpackSign v).toNat * 2 ^ 63 + (unpackExponent v).toNat * 2 ^ 52 +
      (unpackMantissa v).toNat := by
  have hv : v.toNat < 2 ^ 64 := v.isLt
  have hsign : (unpackSign v).toNat = v.toNat >>> 63 % 2 := rfl
  have hexponent : (unpackExponent v).toNat = v.toNat >>> 52 % 2 ^ 11 := rfl
  have hmantissa : (unpackMantissa v).toNat = v.toNat >>> 0 % 2 ^ 52 := rfl
  rw [hsign, hexponent, hmantissa]
  omega

private theorem toNat_implicit (m : BitVec 52) : (1#1 ++ m).toNat = 2 ^ 52 + m.toNat := by
  rw [BitVec.toNat_append, ← Nat.shiftLeft_add_eq_or_of_lt m.isLt]
  rfl

private theorem unpack_spec (v : BitVec Format.binary64.numBits) :
    IsCanonical (UnpackedFloat.unpack Format.binary64 v) ∧
      ((UnpackedFloat.unpack Format.binary64 v).isNaN = false →
        steps (UnpackedFloat.unpack Format.binary64 v) =
            (unpackExponent v).toNat * 2 ^ 52 + (unpackMantissa v).toNat ∧
          signOf (UnpackedFloat.unpack Format.binary64 v) = Sign.ofBitVec (unpackSign v)) := by
  have hmantissa : (unpackMantissa v).toNat < 2 ^ 52 := (unpackMantissa v).isLt
  have hexponent : (unpackExponent v).toNat < 2 ^ 11 := (unpackExponent v).isLt
  have hbias : (Format.exponentBias Format.binary64 : Int) + (52 : Nat) = 1075 := rfl
  unfold UnpackedFloat.unpack
  dsimp only
  by_cases hlast : unpackExponent v = -1#_
  · have hexponent : (unpackExponent v).toNat = 2047 := by rw [hlast]; rfl
    rw [if_pos hlast]
    by_cases hzero : unpackMantissa v = 0#_
    · have hmantissa : (unpackMantissa v).toNat = 0 := by rw [hzero]; rfl
      rw [if_pos hzero]
      refine ⟨.infinity _, fun _ ↦ ⟨?_, rfl⟩⟩
      rw [hexponent, hmantissa]
      rfl
    · rw [if_neg hzero]
      exact ⟨.notANumber, fun h ↦ absurd h (by decide)⟩
  · have hne : (unpackExponent v).toNat ≠ 2047 := fun h ↦ hlast (BitVec.eq_of_toNat_eq h)
    rw [if_neg hlast]
    by_cases hsmall : unpackExponent v = 0#_
    · have hexponent : (unpackExponent v).toNat = 0 := by rw [hsmall]; rfl
      rw [if_pos hsmall]
      by_cases hzero : unpackMantissa v = 0#_
      · have hmantissa : (unpackMantissa v).toNat = 0 := by rw [hzero]; rfl
        rw [dif_pos hzero]
        refine ⟨.zero _, fun _ ↦ ⟨?_, rfl⟩⟩
        rw [hexponent, hmantissa]
        rfl
      · rw [dif_neg hzero]
        refine ⟨.finite _ _ (by omega) (by omega) (by omega) (.inl (by omega)), fun _ ↦ ⟨?_, rfl⟩⟩
        dsimp only [steps]
        omega
    · have hpos : (unpackExponent v).toNat ≠ 0 := fun h ↦ hsmall (BitVec.eq_of_toNat_eq h)
      have himplicit : (1#1 ++ unpackMantissa v).toNat = 2 ^ 52 + (unpackMantissa v).toNat :=
        toNat_implicit _
      rw [if_neg hsmall]
      refine ⟨.finite _ _ (by omega) (by omega) (by omega) (.inr (by omega)), fun _ ↦ ⟨?_, rfl⟩⟩
      dsimp only [steps]
      rw [himplicit]
      omega

/-- The bits of a float. -/
def packed (x : Float) : BitVec Format.binary64.numBits := x.toModel.toBits.toBitVec

/-- Whether a float has a minus sign. -/
def hasMinus (x : Float) : Prop := 2 ^ 63 ≤ x.toBits.toNat

instance (x : Float) : Decidable (hasMinus x) := inferInstanceAs (Decidable (_ ≤ _))

/-- The place of a float on the line. -/
def floatPlace (x : Float) : Int := place x.toModel.unpack

private theorem floatRank_eq {x : Float} (h : x.isNaN = false) :
    floatRank x = if hasMinus x then floatPlace x - 1 else floatPlace x := by
  obtain ⟨-, hspec⟩ := unpack_spec (packed x)
  obtain ⟨hsteps, hsign⟩ := hspec h
  have hbits : x.toBits.toNat = (unpackSign (packed x)).toNat * 2 ^ 63 +
      (unpackExponent (packed x)).toNat * 2 ^ 52 + (unpackMantissa (packed x)).toNat :=
    toNat_eq_fields _
  have hplace : floatPlace x = (Sign.ofBitVec (unpackSign (packed x))).apply
      ((unpackExponent (packed x)).toNat * 2 ^ 52 + (unpackMantissa (packed x)).toNat) := by
    rw [← hsteps, ← hsign]
    rfl
  have hmantissa : (unpackMantissa (packed x)).toNat < 2 ^ 52 := BitVec.isLt _
  have hexponent : (unpackExponent (packed x)).toNat < 2 ^ 11 := BitVec.isLt _
  have hpow : Nat.pow 2 63 = 2 ^ 63 := rfl
  rw [floatRank, hplace]
  dsimp only
  rcases BitVec.eq_zero_or_eq_one (unpackSign (packed x)) with hs | hs
  · have hzero : (unpackSign (packed x)).toNat = 0 := by rw [hs]; rfl
    have happly (n : Int) : (Sign.ofBitVec (unpackSign (packed x))).apply n = n := by rw [hs]; rfl
    have hplus : ¬ hasMinus x := Nat.not_le.mpr (by omega)
    rw [happly, if_pos (by omega), if_neg hplus]
    omega
  · have hone : (unpackSign (packed x)).toNat = 1 := by rw [hs]; rfl
    have happly (n : Int) : (Sign.ofBitVec (unpackSign (packed x))).apply n = -n := by rw [hs]; rfl
    have hminus : hasMinus x := by
      unfold hasMinus
      omega
    rw [happly, if_neg (by omega), if_pos hminus]
    omega

variable {a b : Float}

private theorem lt_iff_compare : a < b ↔ a.toModel.unpack.compare b.toModel.unpack = some .lt := by
  change decide (a.toModel.unpack.lt b.toModel.unpack = true) = true ↔ _
  rw [decide_eq_true_eq, UnpackedFloat.lt, beq_iff_eq]

private theorem compare_unpack (ha : a.isNaN = false) (hb : b.isNaN = false) :
    a.toModel.unpack.compare b.toModel.unpack = some (compare (floatPlace a) (floatPlace b)) :=
  compare_eq (unpack_spec (packed a)).1 (unpack_spec (packed b)).1 ha hb

private theorem lt_iff_floatPlace (ha : a.isNaN = false) (hb : b.isNaN = false) :
    a < b ↔ floatPlace a < floatPlace b := by
  rw [lt_iff_compare, compare_unpack ha hb, Option.some.injEq, Int.compare_eq_lt]

private theorem le_iff_floatPlace (ha : a.isNaN = false) (hb : b.isNaN = false) :
    a ≤ b ↔ floatPlace a ≤ floatPlace b := by
  change decide (a.toModel.unpack.le b.toModel.unpack = true) = true ↔ _
  rw [decide_eq_true_eq, UnpackedFloat.le, compare_unpack ha hb, Option.any_some,
    Int.isLE_compare]

private theorem FloatWithin.of_isFinite {x : Float} (h : x.isFinite = true) :
    FloatWithin 53 971 x.toModel.unpack := by
  have hcanonical : IsCanonical x.toModel.unpack := (unpack_spec (packed x)).1
  change x.toModel.unpack.isFinite = true at h
  generalize x.toModel.unpack = f at h hcanonical ⊢
  cases hcanonical with
  | notANumber => cases h
  | infinity => cases h
  | zero s => exact .zero s
  | finite s hpos hm _ he _ => exact .finite s hpos hm he

/-- The opposite of a finite float is finite. -/
theorem isFinite_neg {x : Float} (h : x.isFinite = true) : (-x).isFinite = true :=
  (FloatWithin.of_isFinite h).neg.isFinite_pack (by decide) (by decide)

/-- Finite floats are numbers. -/
theorem isNaN_of_isFinite {x : Float} (h : x.isFinite = true) : x.isNaN = false := by
  have hwithin := FloatWithin.of_isFinite h
  change x.toModel.unpack.isNaN = false
  generalize x.toModel.unpack = f at hwithin ⊢
  cases hwithin <;> rfl

private theorem isNaN_of_lt (h : a < b) : a.isNaN = false ∧ b.isNaN = false := by
  rw [lt_iff_compare] at h
  change a.toModel.unpack.isNaN = false ∧ b.toModel.unpack.isNaN = false
  generalize a.toModel.unpack = f at h ⊢
  generalize b.toModel.unpack = g at h ⊢
  cases f with
  | notANumber => cases h
  | infinity s | zero s | finite s =>
    cases g with
    | notANumber => cases s <;> cases h
    | infinity | zero | finite => exact ⟨rfl, rfl⟩

/-- The total order of floats: those with a minus sign come before the others. Among the others the
smaller bits come first, and among those with a minus sign the larger ones. -/
def TotalLe (a b : Float) : Prop :=
  hasMinus a ∧ ¬ hasMinus b ∨
    ¬ hasMinus a ∧ ¬ hasMinus b ∧ a.toBits.toNat ≤ b.toBits.toNat ∨
      hasMinus a ∧ hasMinus b ∧ b.toBits.toNat ≤ a.toBits.toNat

private theorem floatRank_eq_bits (x : Float) :
    floatRank x =
      if hasMinus x then (2 ^ 63 - 1 - x.toBits.toNat : Int) else (x.toBits.toNat : Int) := by
  have hpow : Nat.pow 2 63 = 2 ^ 63 := rfl
  rw [floatRank]
  by_cases h : hasMinus x
  · have hbits : 2 ^ 63 ≤ x.toBits.toNat := h
    rw [if_pos h, if_neg (by omega)]
    omega
  · have hbits : ¬ 2 ^ 63 ≤ x.toBits.toNat := h
    rw [if_neg h, if_pos (by omega)]

/-- Ranks go by the total order. -/
theorem floatRank_le_iff : floatRank a ≤ floatRank b ↔ TotalLe a b := by
  have ha : a.toBits.toNat < 2 ^ 64 := a.toBits.toNat_lt
  have hb : b.toBits.toNat < 2 ^ 64 := b.toBits.toNat_lt
  rw [floatRank_eq_bits, floatRank_eq_bits, TotalLe]
  split <;> split <;> unfold hasMinus at * <;> omega

private theorem floatRank_lt_of_lt (h : a < b) : floatRank a < floatRank b := by
  obtain ⟨ha, hb⟩ := isNaN_of_lt h
  rw [lt_iff_floatPlace ha hb] at h
  have hminus {x : Float} (hx : x.isNaN = false) (hm : hasMinus x) : floatPlace x ≤ 0 := by
    have hbits := floatRank_eq_bits x
    rw [floatRank_eq hx, if_pos hm, if_pos hm] at hbits
    unfold hasMinus at hm
    omega
  have hplus {x : Float} (hx : x.isNaN = false) (hm : ¬ hasMinus x) : 0 ≤ floatPlace x := by
    have hbits := floatRank_eq_bits x
    rw [floatRank_eq hx, if_neg hm, if_neg hm] at hbits
    omega
  rw [floatRank_eq ha, floatRank_eq hb]
  by_cases hma : hasMinus a
  · rw [if_pos hma]
    split
    · omega
    · next hmb =>
      have := hminus ha hma
      have := hplus hb hmb
      omega
  · rw [if_neg hma]
    split
    · next hmb =>
      have := hplus ha hma
      have := hminus hb hmb
      omega
    · omega

/-- No number comes after a larger one in the total order. -/
theorem TotalLe.not_lt (h : TotalLe a b) : ¬ b < a := by
  intro hlt
  have hrank := floatRank_lt_of_lt hlt
  rw [← floatRank_le_iff] at h
  omega

/-- What is cut to bounds lies within them. -/
theorem clamp_within {low high x : Float} (hlow : low.isNaN = false) (hhigh : high.isNaN = false)
    (hx : x.isNaN = false) (h : ¬ low > high) :
    low ≤ clamp low high x ∧ clamp low high x ≤ high := by
  have hbounds : low ≤ high := by
    rw [gt_iff_lt, lt_iff_floatPlace hhigh hlow] at h
    rw [le_iff_floatPlace hlow hhigh]
    omega
  have hself {y : Float} (hy : y.isNaN = false) : y ≤ y :=
    (le_iff_floatPlace hy hy).mpr (Int.le_refl _)
  unfold clamp
  dsimp only
  by_cases hless : x < low
  · rw [if_pos hless, if_neg h]
    exact ⟨hself hlow, hbounds⟩
  · rw [if_neg hless]
    by_cases hmore : x > high
    · rw [if_pos hmore]
      exact ⟨hbounds, hself hhigh⟩
    · rw [if_neg hmore]
      rw [lt_iff_floatPlace hx hlow] at hless
      rw [gt_iff_lt, lt_iff_floatPlace hhigh hx] at hmore
      rw [le_iff_floatPlace hlow hx, le_iff_floatPlace hx hhigh]
      omega

end TabularReport
