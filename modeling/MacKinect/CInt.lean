import Mathlib.Algebra.Group.Int

/-! The C integer conversions the control center and the DAL plugin rely on. An `int` result
wraps onto `[-2^31, 2^31)` as the two's-complement targets do (the standard leaves signed
overflow undefined), and a `static_cast` to an unsigned type of `w` bits keeps the value
modulo `2^w`; `/` on `int` truncates toward zero (`Int.tdiv`). -/
namespace MacKinect

/-- An `int` operation's result. -/
def int32 (x : Int) : Int := (x + 2 ^ 31) % 2 ^ 32 - 2 ^ 31

/-- `static_cast` of an integer to an unsigned type of `w` bits. -/
def unsignedOf (w : Nat) (x : Int) : Nat := (x % 2 ^ w).toNat

theorem int32_of_fits {x : Int} (low : -2 ^ 31 ≤ x) (high : x < 2 ^ 31) : int32 x = x := by
  unfold int32
  omega

theorem int32_natCast {n : Nat} (fits : n < 2 ^ 31) : int32 n = n :=
  int32_of_fits (by omega) (by omega)

theorem unsignedOf_of_fits {w : Nat} {x : Int} (low : 0 ≤ x) (high : x < 2 ^ w) :
    unsignedOf w x = x.toNat := by
  rw [unsignedOf, Int.emod_eq_of_lt low high]

theorem unsignedOf_natCast (w : Nat) {n : Nat} (fits : n < 2 ^ w) : unsignedOf w n = n := by
  rw [unsignedOf_of_fits (Int.natCast_nonneg n) (by exact_mod_cast fits), Int.toNat_natCast]

end MacKinect
