import Mathlib
import SnapBlocks.Proofs.Moving

/-!
# What a vanishing displacement leaves behind

A block that lies on its slot already is snapped by the difference of two equal
points. In binary32 this displacement is zero if the points are finite, and not a
number otherwise; here it is called **naught** in both cases. Adding it does not
always give back the same value: what is added to may be lost, becoming not a number,
and a negative zero may turn positive. `Faded` says that nothing worse has happened.

Two points that have faded from one point still lie at a naught displacement, and at a
distance of zero or none at all. So they are within every range that is not zero or
less.

The only fact about the encoding that is needed is that unpacking a value loses
nothing (`ofModel_pack_unpack`), for a sum with zero is unpacked and packed again.
-/

namespace SnapBlocks

open Float.Model Float.Model.UnpackedFloat
open Float32 (nan)

/-! ## Zeros and what is not a number -/

/-- **A displacement of nothing**: a zero of either sign, or not a number. -/
inductive Naught : Float32 → Prop
  /-- Zero. -/
  | zero : Naught 0
  /-- Negative zero. -/
  | negZero : Naught (-0)
  /-- Not a number. -/
  | nan : Naught nan

/-- **What naught displacements leave of a value.** -/
inductive Faded : Float32 → Float32 → Prop
  /-- The value is left. -/
  | same (v : Float32) : Faded v v
  /-- The value is lost. -/
  | lost (v : Float32) : Faded nan v
  /-- A negative zero has turned positive. -/
  | positive : Faded 0 (-0)

/-- Unpacking a value loses nothing. -/
theorem ofModel_pack_unpack (v : Float32) : Float32.ofModel (.pack v.toModel.unpack) = v := by
  obtain ⟨⟨bits, valid⟩⟩ := v
  rw [Float32.Model.pack, Float32.Model.unpack]
  simp only [pack_unpack_of_valid valid, UInt32.ofBitVec_toBitVec]

theorem nan_add (v : Float32) : nan + v = nan := rfl

theorem nan_sub (v : Float32) : nan - v = nan := rfl

theorem add_nan (v : Float32) : v + nan = nan := by
  show Float32.ofModel (.pack (UnpackedFloat.add .binary32 v.toModel.unpack .notANumber)) = nan
  cases v.toModel.unpack <;> rfl

theorem sub_nan (v : Float32) : v - nan = nan := by
  show Float32.ofModel (.pack (UnpackedFloat.sub .binary32 v.toModel.unpack .notANumber)) = nan
  cases v.toModel.unpack <;> rfl

/-- Nothing is less than what is not a number, or equal to it. -/
theorem not_le_nan (v : Float32) : ¬ v ≤ nan := by
  have incomparable : v.toModel.unpack.compare .notANumber = none := by
    cases v.toModel.unpack <;> rfl
  show ¬ decide ((v.toModel.unpack.compare .notANumber).any (·.isLE) = true) = true
  rw [incomparable]
  decide

/-- A value differs from itself by naught. -/
theorem naught_sub_self (v : Float32) : Naught (v - v) := by
  have zero : (0 : Float32) = .ofModel (.pack (.zero .positive)) := by decide +kernel
  have nan_eq : nan = .ofModel (.pack .notANumber) := by decide +kernel
  show Naught (.ofModel (.pack (UnpackedFloat.sub .binary32 v.toModel.unpack v.toModel.unpack)))
  cases v.toModel.unpack with
  | notANumber => exact nan_eq ▸ .nan
  | infinity sign =>
    have : UnpackedFloat.sub .binary32 (.infinity sign) (.infinity sign) = .notANumber := by
      cases sign <;> rfl
    rw [this, ← nan_eq]
    exact .nan
  | zero sign =>
    have : UnpackedFloat.sub .binary32 (.zero sign) (.zero sign) = .zero .positive := by
      cases sign <;> rfl
    rw [this, ← zero]
    exact .zero
  | finite sign mantissa exponent pos =>
    rw [UnpackedFloat.sub]
    dsimp only
    rw [Int.sub_self, UnpackedFloat.normalize]
    show Naught (.ofModel (.pack (.zero .positive)))
    rw [← zero]
    exact .zero

/-- Adding a negative zero changes nothing. -/
theorem add_negZero (v : Float32) : v + -0 = v := by
  have unpacked : (-0 : Float32).toModel.unpack = .zero .negative := by rfl
  show Float32.ofModel (.pack (UnpackedFloat.add .binary32 v.toModel.unpack
    (-0 : Float32).toModel.unpack)) = v
  rw [unpacked]
  refine Eq.trans ?_ (ofModel_pack_unpack v)
  cases v.toModel.unpack with
  | zero sign => cases sign <;> rfl
  | _ => rfl

/-- Adding a zero changes nothing but the sign of a negative zero. -/
theorem faded_add_zero (v : Float32) : Faded (v + 0) v := by
  have unpacked : (0 : Float32).toModel.unpack = .zero .positive := by rfl
  have whole := ofModel_pack_unpack v
  show Faded (.ofModel (.pack (UnpackedFloat.add .binary32 v.toModel.unpack
    (0 : Float32).toModel.unpack))) v
  rw [unpacked]
  generalize v.toModel.unpack = unpacked_v at whole ⊢
  cases whole
  cases unpacked_v with
  | zero sign =>
    cases sign with
    | positive => exact .same _
    | negative => exact .positive
  | _ => exact .same _

/-- Fading goes on as naught is added. -/
theorem Faded.add {u v d : Float32} (h : Faded u v) (naught : Naught d) : Faded (u + d) v := by
  cases naught with
  | zero =>
    cases h with
    | same => exact faded_add_zero _
    | lost =>
      rw [nan_add]
      exact .lost _
    | positive => exact .positive
  | negZero =>
    rw [add_negZero]
    exact h
  | nan =>
    rw [add_nan]
    exact .lost v

/-- What has faded from one value differs by naught. -/
theorem Faded.sub {u u' v : Float32} (h : Faded u v) (h' : Faded u' v) : Naught (u - u') := by
  cases h with
  | lost =>
    rw [nan_sub]
    exact .nan
  | same =>
    cases h' with
    | same => exact naught_sub_self _
    | lost =>
      rw [sub_nan]
      exact .nan
    | positive => exact .negZero
  | positive =>
    cases h' with
    | same => exact .zero
    | lost => exact .nan
    | positive => exact .zero

/-! ## Points -/

namespace Point

/-- A displacement of nothing. -/
def Naught (d : Point) : Prop := SnapBlocks.Naught d.x ∧ SnapBlocks.Naught d.y

/-- What naught displacements leave of a point. -/
def Faded (p q : Point) : Prop := SnapBlocks.Faded p.x q.x ∧ SnapBlocks.Faded p.y q.y

theorem Faded.same (p : Point) : p.Faded p := ⟨.same p.x, .same p.y⟩

/-- Two points that have faded from one lie at a naught displacement. -/
theorem Faded.sub {p p' q : Point} (h : p.Faded q) (h' : p'.Faded q) : (p - p').Naught :=
  ⟨h.1.sub h'.1, h.2.sub h'.2⟩

/-- Fading goes on under a naught displacement. -/
theorem Faded.shift {p q d : Point} (h : p.Faded q) (naught : d.Naught) : (p.shift d).Faded q := by
  unfold Point.shift
  split
  · exact h
  · exact ⟨h.1.add naught.1, h.2.add naught.2⟩

/-- **A naught displacement has length zero, or none.** -/
theorem Naught.norm_eq {d : Point} (naught : d.Naught) : d.norm = 0 ∨ d.norm = nan := by
  obtain ⟨x, y⟩ := d
  obtain ⟨hx, hy⟩ := naught
  dsimp only at hx hy
  cases hx <;> cases hy
  case nan.zero | nan.negZero | nan.nan | zero.nan | negZero.nan => exact .inr rfl
  all_goals exact .inl rfl

/-- A naught displacement that is a number has length zero. -/
theorem Naught.norm_eq_zero {d : Point} (naught : d.Naught) (zero : d.isZero = true) :
    d.norm = 0 := by
  obtain ⟨x, y⟩ := d
  obtain ⟨hx, hy⟩ := naught
  dsimp only at hx hy
  cases hx <;> cases hy
  case nan.zero | nan.negZero | nan.nan | zero.nan | negZero.nan => cases zero
  all_goals rfl

/-- What lies at a naught displacement is within every range that is not zero or less. -/
theorem Naught.not_le_norm {d : Point} (naught : d.Naught) {range : Float32} (pos : ¬ range ≤ 0) :
    ¬ range ≤ d.norm := by
  rcases naught.norm_eq with zero | lost
  · rw [zero]
    exact pos
  · rw [lost]
    exact not_le_nan range

end Point

end SnapBlocks
