import Mathlib.Algebra.Group.Nat.Defs

/-!
# Build targets

The two cross-compilation targets differ in the width of `size_t` and `unsigned long`.
-/

set_option autoImplicit false

namespace Se05x

inductive Target where
  | aarch64
  | armhf
deriving DecidableEq, Repr

def Target.wordBits : Target → Nat
  | .aarch64 => 64
  | .armhf => 32

/-- Arithmetic on `size_t` and `unsigned long` wraps at the word size. -/
def Target.wrap (target : Target) (value : Nat) : Nat := value % 2 ^ target.wordBits

/-- The bit count of a byte string wraps to that of a shorter one. -/
theorem Target.wrap_bits (target : Target) (bytes : Nat) :
    target.wrap (bytes * 8) = bytes % 2 ^ (target.wordBits - 3) * 8 := by
  cases target <;> simp only [wrap, wordBits] <;> omega

end Se05x
