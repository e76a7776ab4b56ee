import Se05x.CppApp.CryptoProperties

/-!
# EC handles and where they come from

A handle is generated with its key or opened on one that exists.
-/

set_option autoImplicit false

namespace Se05x.CppApp

open Interaction

inductive Origin where
  | generate
  | open
deriving DecidableEq, Repr

def Origin.obtain (keyId : KeyId) (curve : EcCurve) : Origin → Cpp EcKey
  | .generate => EcKey.generate keyId curve
  | .open => EcKey.open keyId

/-- The handle has just been returned, whatever the secure element answered. -/
def Fresh (origin : Origin) (curve : EcCurve) (k : EcKey) : Prop :=
  ∃ keyId trace, (origin.obtain keyId curve).run.Runs trace (.ok k)

def Origin.sigAlgo (curve : EcCurve) : Origin → Algorithm
  | .generate => curveSigAlgo curve
  | .open => .sha256

theorem EcKey.generate_sigAlgo {keyId : KeyId} {curve : EcCurve} {trace : List (Event host)}
    {k : EcKey} (run : (EcKey.generate keyId curve).run.Runs trace (.ok k)) :
    k.sigAlgo = curveSigAlgo curve := by
  have met : (EcKey.generate keyId curve).run.wp (.stateless fun _ => True)
      (fun outcome _ => ∀ k, outcome = .ok k → k.sigAlgo = curveSigAlgo curve) () := by
    simp only [EcKey.generate, wp_sss_bind, wp_check_bind, wp_pure]
    simp
  exact run.ensures_always met k rfl

theorem EcKey.open_sigAlgo {keyId : KeyId} {trace : List (Event host)} {k : EcKey}
    (run : (EcKey.open keyId).run.Runs trace (.ok k)) : k.sigAlgo = .sha256 := by
  have met : (EcKey.open keyId).run.wp (.stateless fun _ => True)
      (fun outcome _ => ∀ k, outcome = .ok k → k.sigAlgo = .sha256) () := by
    simp only [EcKey.open, openHandle, bind_assoc, pure_bind, wp_sss_bind, wp_check_bind, wp_pure]
    simp
  exact run.ensures_always met k rfl

/-- The algorithm a fresh handle signs under. -/
theorem Fresh.sigAlgo {origin : Origin} {curve : EcCurve} {k : EcKey}
    (fresh : Fresh origin curve k) : k.sigAlgo = origin.sigAlgo curve := by
  obtain ⟨keyId, trace, run⟩ := fresh
  cases origin with
  | generate => exact EcKey.generate_sigAlgo run
  | «open» => exact EcKey.open_sigAlgo run

end Se05x.CppApp
