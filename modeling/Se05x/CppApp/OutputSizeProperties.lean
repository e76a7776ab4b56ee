import Se05x.App.Demo
import Se05x.CppApp.Permissions
import Se05x.Der.KeyEncodings

/-!
# Room for signatures and public keys

The buffers the handles pass on hold every signature and public key of the key they describe,
and so do the fixed ones of the demos.
-/

set_option autoImplicit false

namespace Se05x

open Der Interaction

/-- The size of the vector or of the output buffer a call asks for. -/
def HostCall.bufferSize : HostCall → Option Nat
  | .allocate size => some size
  | .sss (.keyStoreGetKey _ capacity) => some capacity
  | .sss (.asymmetricSignDigest _ _ capacity) => some capacity
  | .sss (.asymmetricEncrypt _ _ capacity) => some capacity
  | .sss (.asymmetricDecrypt _ _ capacity) => some capacity
  | .sss (.digestOneGo _ _ capacity) => some capacity
  | _ => none

namespace CppApp

def HasRoom (output : Bytes) (request : HostCall) : Prop :=
  ∀ size, request.bufferSize = some size → output.length ≤ size

/-- Every buffer of every run has room for the output, and some run returns it. -/
structure Holds (operation : Cpp Bytes) (output : Bytes) : Prop where
  room : ∀ trace outcome, operation.run.Runs trace outcome →
    ∀ event ∈ trace, HasRoom output event.request
  returned : ∃ trace, operation.run.Runs trace (.ok output)

def EcCurve.oid : EcCurve → Bytes
  | .nistP256 => [0x2A, 0x86, 0x48, 0xCE, 0x3D, 0x03, 0x01, 0x07]
  | .nistP384 => [0x2B, 0x81, 0x04, 0x00, 0x22]
  | .nistP521 => [0x2B, 0x81, 0x04, 0x00, 0x23]

def EcCurve.fieldBytes (curve : EcCurve) : Nat := (curveBits curve + 7) / 8

section Operations

variable {output : Bytes}

theorem hasRoom_of_sized {request : HostCall} {size : Nat} (fits : output.length ≤ size)
    (sized : request.bufferSize = some size) : HasRoom output request := by
  intro other same
  rw [sized] at same
  cases same
  exact fits

theorem hasRoom_of_unsized {request : HostCall} (unsized : request.bufferSize = none) :
    HasRoom output request := by
  intro size sized
  rw [unsized] at sized
  cases sized

theorem allocate_roomy {size : Nat} (fits : output.length ≤ size) :
    Confined (HasRoom output) (fun _ => True) (allocate size) :=
  allocate_confined (fun _ => trivial) (hasRoom_of_sized fits rfl)

theorem EcKey.sign_holds {k : EcKey} {digest : Bytes} (fits : output.length ≤ 256) :
    Holds (k.sign digest) output where
  room _ _ run _ issued := by
    have confined : Confined (HasRoom output) (fun _ => True) (k.sign digest) := by
      refine checked_confined (fun _ _ => trivial) (.issuing (hasRoom_of_unsized rfl)) ?_
      refine .bind (allocate_roomy fits) fun _ => ?_
      refine .bind (.issuing (hasRoom_of_sized fits rfl)) fun _ => ?_
      refine .bind (.issuing (hasRoom_of_unsized rfl)) fun _ => ?_
      exact .bind (check_confined fun _ _ => trivial) fun _ => .returning
    exact confined.allowed run issued
  returned := by
    let context : KeyContext := ⟨k.obj, k.sigAlgo, .sign⟩
    refine ⟨[⟨.sss (.asymmetricContextInit context), .success⟩, ⟨.allocate 256, .granted⟩,
      ⟨.sss (.asymmetricSignDigest context digest 256), (.success, ⟨output, fits⟩)⟩,
      ⟨.sss (.asymmetricContextFree (some context)), ()⟩], ?_⟩
    exact .call (.call (.call (.call .done)))

theorem export_holds {obj : SssObject} {capacity : Nat} {place : String}
    (fits : output.length ≤ capacity) :
    Holds (do
      allocate capacity
      let (st, buf) ← sss (.keyStoreGetKey obj capacity)
      check st place
      return buf.val) output where
  room _ _ run _ issued := by
    have confined : Confined (HasRoom output) (fun _ => True) (do
        allocate capacity
        let (st, buf) ← sss (.keyStoreGetKey obj capacity)
        check st place
        return buf.val) := by
      refine .bind (allocate_roomy fits) fun _ => ?_
      refine .bind (.issuing (hasRoom_of_sized fits rfl)) fun exported => ?_
      refine .bind (check_confined fun _ _ => trivial) fun _ => ?_
      exact .returning
    exact confined.allowed run issued
  returned := by
    refine ⟨[⟨.allocate capacity, .granted⟩,
      ⟨.sss (.keyStoreGetKey obj capacity), (.success, ⟨output, fits⟩)⟩], ?_⟩
    exact .call (.call .done)

theorem EcKey.publicKeyDer_holds {k : EcKey} (fits : output.length ≤ 256) :
    Holds k.publicKeyDer output :=
  export_holds fits

theorem RsaKey.publicKeyDer_holds {k : RsaKey} (fits : output.length ≤ k.bits / 8 + 64) :
    Holds k.publicKeyDer output :=
  export_holds fits

end Operations

/-- The longest signatures take 72, 104 and 139 bytes. -/
theorem longestSignature_le (curve : EcCurve) :
    elementLength (2 * elementLength (curveBits curve / 8 + 1)) ≤ 256 := by
  cases curve with
  | nistP256 => decide
  | nistP384 => decide
  | nistP521 => decide

/-- The public keys take 91, 120 and 158 bytes. -/
theorem publicKeyInfo_le (curve : EcCurve) :
    elementLength (elementLength (9 + elementLength curve.oid.length) +
      elementLength (2 * curve.fieldBytes + 2)) ≤ 256 := by
  cases curve with
  | nistP256 => decide
  | nistP384 => decide
  | nistP521 => decide

theorem outputs_fit_buffers :
    (∀ (k : EcKey) (r s : Nat), r < 2 ^ curveBits k.curve → s < 2 ^ curveBits k.curve →
      (∀ digest, Holds (k.sign digest) (ecdsaSignature r s)) ∧
      (k.curve = .nistP256 → (ecdsaSignature r s).length ≤ App.ecSigBufLen)) ∧
    (∀ (k : EcKey) (point : UncompressedPoint k.curve.fieldBytes),
      Holds k.publicKeyDer (ecPublicKeyInfo k.curve.oid point) ∧
      (k.curve = .nistP256 → (ecPublicKeyInfo k.curve.oid point).length ≤ App.ecPubBufLen)) ∧
    (∀ (k : RsaKey) (m modulus publicExponent : Nat), m < 65536 → modulus < 2 ^ (8 * m) →
      publicExponent < 256 ^ 8 →
      (k.bits = 8 * m → Holds k.publicKeyDer (rsaPublicKeyInfo modulus publicExponent)) ∧
      (m = 256 → (rsaPublicKeyInfo modulus publicExponent).length ≤ App.rsaPubBufLen)) := by
  refine ⟨?_, ?_, ?_⟩
  · intro k r s rBound sBound
    have longest := ecdsaSignature_length_le rBound sBound
    constructor
    · intro digest
      exact EcKey.sign_holds (longest.trans (longestSignature_le k.curve))
    · intro p256
      rw [p256] at longest
      exact longest.trans (by decide)
  · intro k point
    have size := ecPublicKeyInfo_length k.curve.oid point
    constructor
    · exact EcKey.publicKeyDer_holds (size.trans_le (publicKeyInfo_le k.curve))
    · intro p256
      rw [size, p256]
      decide
  · intro k m modulus publicExponent sized modulusBound exponentBound
    have longest := rsaPublicKeyInfo_length_le sized modulusBound exponentBound
    constructor
    · intro described
      apply RsaKey.publicKeyDer_holds
      rw [described]
      omega
    · intro rsa2048
      rw [rsa2048] at longest
      exact longest.trans (by decide)

theorem outputs_fit_buffers_longest :
    Holds (EcKey.sign .new (List.replicate 32 0))
        (ecdsaSignature (2 ^ 256 - 1) (2 ^ 256 - 1)) ∧
      Holds (RsaKey.publicKeyDer .new) (rsaPublicKeyInfo (256 ^ 256 - 1) (256 ^ 8 - 1)) := by
  obtain ⟨signatures, _, moduli⟩ := outputs_fit_buffers
  constructor
  · exact (signatures .new (2 ^ 256 - 1) (2 ^ 256 - 1) (by decide) (by decide)).1 _
  · exact (moduli .new 256 (256 ^ 256 - 1) (256 ^ 8 - 1) (by decide) (by decide +kernel)
      (by decide)).1 rfl

end CppApp

end Se05x
