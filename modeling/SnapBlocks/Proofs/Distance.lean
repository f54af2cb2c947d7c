import SnapBlocks.Proofs.Binary32

/-!
# Which points have a distance

A distance is computed from two differences, and binary32 has none between a value and
what is not a number, nor between an infinity and itself. Nothing else can go wrong on
the way: the square of a difference is at least zero or infinite, so is the sum of two
squares, and of such a value there is a root. So two points have a distance exactly if
they have a difference in both coordinates (`Point.distance_eq_nan_iff`).

What matters about a value is thus what it is like once unpacked, its sign above all,
and packing keeps that.
-/

namespace SnapBlocks

open Float.Model Float.Model.UnpackedFloat
open Float32 (nan)

variable {u v : Float32}

/-! ## Order -/

/-- What is not a number unpacks to just that, and nothing else does. -/
theorem unpack_eq_notANumber_iff : v.toModel.unpack = .notANumber ↔ v = nan := by
  constructor
  · intro lost
    rw [← ofModel_pack_unpack v, lost]
    rfl
  · rintro rfl
    rfl

/-- Comparing two values the other way round gives the opposite answer. -/
theorem compare_swap (p q : UnpackedFloat) : q.compare p = (p.compare q).map Ordering.swap := by
  rcases p with ⟨_ | _⟩ | _ | _ | ⟨_ | _, m, e, _⟩ <;>
    rcases q with ⟨_ | _⟩ | _ | _ | ⟨_ | _, n, f, _⟩
  case finite.negative.finite.negative | finite.positive.finite.positive =>
    simp only [UnpackedFloat.compare, Option.map_some, Ordering.swap_then,
      ← Std.OrientedCmp.eq_swap]
  all_goals rfl

/-- Only what is not a number cannot be compared. -/
theorem compare_eq_none_iff {p q : UnpackedFloat} :
    p.compare q = none ↔ p = .notANumber ∨ q = .notANumber := by
  rcases p with ⟨_ | _⟩ | _ | _ | ⟨_ | _, m, e, _⟩ <;>
    rcases q with ⟨_ | _⟩ | _ | _ | ⟨_ | _, n, f, _⟩ <;>
    simp [UnpackedFloat.compare]

/-- **To be less is not to be at least as great, between numbers.** -/
theorem lt_iff_not_le : u < v ↔ ¬ v ≤ u ∧ u ≠ nan ∧ v ≠ nan := by
  have lt : u < v ↔ u.toModel.unpack.compare v.toModel.unpack = some .lt :=
    decide_eq_true_iff.trans beq_iff_eq
  have le : v ≤ u ↔ (u.toModel.unpack.compare v.toModel.unpack).any (·.isGE) = true := by
    refine decide_eq_true_iff.trans ?_
    show (v.toModel.unpack.compare u.toModel.unpack).any (·.isLE) = true ↔ _
    rw [compare_swap u.toModel.unpack, Option.any_map]
    simp only [Ordering.isLE_swap]
  have lost : u.toModel.unpack.compare v.toModel.unpack = none ↔ u = nan ∨ v = nan := by
    rw [compare_eq_none_iff, unpack_eq_notANumber_iff, unpack_eq_notANumber_iff]
  rw [lt, le, ← not_or, ← lost]
  rcases u.toModel.unpack.compare v.toModel.unpack with _ | _ | _ | _ <;> simp

/-! ## Differences -/

/-- Only what is not a number is packed as such. -/
theorem pack_eq_packedNaN_iff {p : UnpackedFloat} :
    pack .binary32 p = packedNaN .binary32 ↔ p = .notANumber := by
  constructor
  · intro packed
    have exponent : unpackExponent (pack .binary32 p) = -1#_ := by
      rw [packed, packedNaN, unpackExponent_packComponents]
    have mantissa : unpackMantissa (pack .binary32 p) ≠ 0#_ := by
      rw [packed, packedNaN, unpackMantissa_packComponents]
      decide
    -- no finite value is packed with an exponent of ones alone
    revert exponent mantissa
    fun_cases pack Format.binary32 p with
    | case1 => simp
    | case2 s => simp [packedInfinity]
    | case3 s => simp [packedZero]
    | case4 s m e hm biased large => simp [packedInfinity]
    | case5 s m e hm bits biased small normal =>
      intro exponent
      rw [unpackExponent_packComponents] at exponent
      have := congrArg BitVec.toNat exponent
      simp at this small
      omega
    | case6 s m e hm bits biased small subnormal => simp
  · rintro rfl
    rfl

/-- What is computed is not a number exactly if nothing else is packed. -/
theorem ofModel_pack_eq_nan_iff {p : UnpackedFloat} :
    Float32.ofModel (.pack p) = nan ↔ p = .notANumber := by
  rw [← pack_eq_packedNaN_iff]
  constructor
  · intro packed
    exact congrArg (fun v : Float32 => v.toModel.toBits.toBitVec) packed
  · intro packed
    rw [Float32.Model.pack]
    simp only [packed]
    rfl

/-- **Rounding gives a zero or a finite value**, of the sign it is given. -/
theorem roundWithAccuracy_cases (spec : Format) (sign : Sign) (mantissa : Nat) (exponent : Int)
    (accuracy : Accuracy) :
    roundWithAccuracy spec sign mantissa exponent accuracy = .zero sign ∨
      ∃ m e pos, roundWithAccuracy spec sign mantissa exponent accuracy = .finite sign m e pos := by
  unfold roundWithAccuracy
  dsimp only
  split
  · exact .inl rfl
  · rename_i nonzero
    exact .inr ⟨_, _, Nat.pos_of_ne_zero nonzero, rfl⟩

theorem normalize_ne_notANumber (spec : Format) (mantissa exponent : Int) (sign : Sign) :
    UnpackedFloat.normalize spec mantissa exponent sign ≠ .notANumber := by
  unfold UnpackedFloat.normalize
  split
  case h_2 => exact nofun
  all_goals
    unfold UnpackedFloat.round
    dsimp only
    rcases roundWithAccuracy_cases spec _ _ _ _ with h | ⟨_, _, _, h⟩ <;> rw [h] <;> exact nofun

/-- **Two values have a difference** if they are numbers and not the same infinity. -/
def HaveDifference (u v : Float32) : Prop := u ≠ nan ∧ v ≠ nan ∧ ¬ (u = v ∧ u.isInf = true)

theorem sub_eq_notANumber_iff {p q : UnpackedFloat} :
    UnpackedFloat.sub .binary32 p q = .notANumber ↔
      p = .notANumber ∨ q = .notANumber ∨ p = q ∧ p.isInf = true := by
  rcases p with s | _ | s | ⟨s, m, e, _⟩ <;> rcases q with t | _ | t | ⟨t, n, f, _⟩
  case infinity.infinity =>
    cases s <;> cases t <;> simp [UnpackedFloat.sub, UnpackedFloat.isInf] <;> rfl
  case zero.zero =>
    simp only [UnpackedFloat.sub, UnpackedFloat.isInf]
    split <;> simp
  all_goals simp [UnpackedFloat.sub, UnpackedFloat.isInf, normalize_ne_notANumber]

/-- **A difference is a number exactly if there is one.** -/
theorem sub_eq_nan_iff : u - v = nan ↔ ¬ HaveDifference u v := by
  have same : u.toModel.unpack = v.toModel.unpack ↔ u = v := by
    constructor
    · intro same
      rw [← ofModel_pack_unpack u, same, ofModel_pack_unpack]
    · rintro rfl
      rfl
  show Float32.ofModel (.pack (UnpackedFloat.sub .binary32 u.toModel.unpack v.toModel.unpack))
    = nan ↔ _
  rw [ofModel_pack_eq_nan_iff, sub_eq_notANumber_iff, unpack_eq_notANumber_iff,
    unpack_eq_notANumber_iff, same, HaveDifference]
  show u = nan ∨ v = nan ∨ u = v ∧ u.isInf = true ↔ _
  tauto

/-! ## Lengths -/

/-- A number without a negative sign. -/
inductive Unsigned : UnpackedFloat → Prop
  /-- Infinity. -/
  | infinity : Unsigned (.infinity .positive)
  /-- Zero. -/
  | zero : Unsigned (.zero .positive)
  /-- A finite value. -/
  | finite (mantissa : Nat) (exponent : Int) (pos : 0 < mantissa) :
      Unsigned (.finite .positive mantissa exponent pos)

theorem Unsigned.ne_notANumber {p : UnpackedFloat} (h : Unsigned p) : p ≠ .notANumber := by
  cases h <;> exact nofun

theorem unsigned_roundWithAccuracy (spec : Format) (mantissa : Nat) (exponent : Int)
    (accuracy : Accuracy) :
    Unsigned (roundWithAccuracy spec .positive mantissa exponent accuracy) := by
  rcases roundWithAccuracy_cases spec .positive mantissa exponent accuracy with h | ⟨_, _, _, h⟩
  · exact h ▸ .zero
  · exact h ▸ .finite _ _ _

/-- A square has no negative sign. -/
theorem unsigned_mul_self {p : UnpackedFloat} (number : p ≠ .notANumber) :
    Unsigned (UnpackedFloat.mul .binary32 p p) := by
  have positive : ∀ s : Sign, s * s = .positive := fun s => by cases s <;> rfl
  cases p with
  | notANumber => exact absurd rfl number
  | infinity s =>
    rw [UnpackedFloat.mul, positive]
    exact .infinity
  | zero s =>
    rw [UnpackedFloat.mul, positive]
    exact .zero
  | finite s m e pos =>
    rw [UnpackedFloat.mul, positive]
    exact unsigned_roundWithAccuracy ..

/-- The sum of two numbers without a negative sign is such a number. -/
theorem Unsigned.add {p q : UnpackedFloat} (hp : Unsigned p) (hq : Unsigned q) :
    Unsigned (UnpackedFloat.add .binary32 p q) := by
  cases hp <;> cases hq
  case finite.finite m e m_pos n f n_pos =>
    -- what is rounded is greater than zero, so its sign is not that of a sum of zero
    rw [UnpackedFloat.add]
    dsimp only [Sign.apply, decreaseExponent]
    rw [← Int.natCast_add]
    have pos : 0 < m <<< (e - min e f).toNat + n <<< (f - min e f).toNat := by
      simp only [Nat.shiftLeft_eq]
      positivity
    generalize m <<< (e - min e f).toNat + n <<< (f - min e f).toNat = sum at pos
    have greater : compare (sum : Int) 0 = .gt := compare_gt_iff_gt.mpr (Int.natCast_pos.mpr pos)
    rw [UnpackedFloat.normalize, greater]
    exact unsigned_roundWithAccuracy ..
  case infinity.infinity => exact .infinity
  case zero.zero => exact .zero
  all_goals constructor

/-- There is a root of every number without a negative sign. -/
theorem Unsigned.sqrt_ne {p : UnpackedFloat} (h : Unsigned p) :
    UnpackedFloat.sqrt .binary32 p ≠ .notANumber := by
  cases h with
  | infinity => exact nofun
  | zero => exact nofun
  | finite m e pos => exact (unsigned_roundWithAccuracy ..).ne_notANumber

/-- The sign bit tells the sign. -/
theorem unsigned_unpack {bits : BitVec (Format.numBits .binary32)} (sign : unpackSign bits = 0#1)
    (number : unpack .binary32 bits ≠ .notANumber) : Unsigned (unpack .binary32 bits) := by
  have positive : Sign.ofBitVec (0#1) = .positive := rfl
  unfold UnpackedFloat.unpack at number ⊢
  dsimp only at number ⊢
  rw [sign, positive] at number ⊢
  split_ifs at number ⊢
  · exact .infinity
  · exact absurd rfl number
  · exact .zero
  · exact .finite _ _ _
  · exact .finite _ _ _

/-- Packing a number without a negative sign gives it none. -/
theorem Unsigned.unpack_pack {p : UnpackedFloat} (h : Unsigned p) :
    Unsigned (unpack .binary32 (pack .binary32 p)) := by
  refine unsigned_unpack ?_ ?_
  · cases h with
    | infinity => exact unpackSign_packComponents ..
    | zero => exact unpackSign_packComponents ..
    | finite m e pos =>
      rw [UnpackedFloat.pack]
      dsimp only
      split_ifs <;> exact unpackSign_packComponents ..
  · intro lost
    rw [unpack_eq_notANumber_iff_of_valid valid_pack, pack_eq_packedNaN_iff] at lost
    exact h.ne_notANumber lost

namespace Point

/-- **Only a point that is lost has no length.** -/
theorem norm_eq_nan_iff {p : Point} : p.norm = nan ↔ p.x = nan ∨ p.y = nan := by
  obtain ⟨x, y⟩ := p
  dsimp only
  constructor
  · intro lost
    by_contra both
    obtain ⟨hx, hy⟩ := not_or.mp both
    rw [← unpack_eq_notANumber_iff] at hx hy
    have sum := (unsigned_mul_self hx).unpack_pack.add (unsigned_mul_self hy).unpack_pack
    exact sum.unpack_pack.sqrt_ne (ofModel_pack_eq_nan_iff.mp lost)
  · have square : nan * nan = nan := rfl
    have root : nan.sqrt = nan := rfl
    rintro (rfl | rfl)
    · rw [norm, square, nan_add, root]
    · rw [norm, square, add_nan, root]

/-- **Two points have a distance** if they have a difference in both coordinates. -/
def HaveDistance (p q : Point) : Prop := HaveDifference q.x p.x ∧ HaveDifference q.y p.y

/-- **A distance is a number exactly if there is one.** -/
theorem distance_eq_nan_iff {p q : Point} : p.distance q = nan ↔ ¬ p.HaveDistance q := by
  rw [distance, norm_eq_nan_iff, sub_x, sub_y, sub_eq_nan_iff, sub_eq_nan_iff, HaveDistance,
    not_and_or]

/-- **What is not at the range or beyond it is closer**, if there are a range and a
distance. -/
theorem distance_lt_iff {p q : Point} {range : Float32} (near : ¬ range ≤ p.distance q) :
    p.distance q < range ↔ range ≠ nan ∧ p.HaveDistance q := by
  rw [lt_iff_not_le, and_iff_right near, and_comm, ne_eq, ne_eq, distance_eq_nan_iff, not_not]

end Point

end SnapBlocks
