/-!
# Status values

Every call of the secure subsystem reports a status. The programs only compare it with
success and hand it on.
-/

set_option autoImplicit false

namespace Se05x

inductive SssStatus where
  | success
  | fail
  | other (code : Int)
deriving DecidableEq, Repr

theorem SssStatus.fail_ne_success : fail ≠ success := by decide

end Se05x
