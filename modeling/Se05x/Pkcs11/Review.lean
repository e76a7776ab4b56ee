import Se05x.Interaction.Contract
import Se05x.Pkcs11.Cryptoki

/-!
# Review of a run

What the checks of a run were answered: its verifications, its decryptions beside what had
been encrypted, and the two shared secrets of its key agreement.
-/

set_option autoImplicit false

namespace Se05x.Pkcs11

open Der Interaction

/-- Bytes under a length, which a module may put past the end of the buffer. -/
structure Text where
  length : Nat
  content : Bytes
deriving DecidableEq, Repr

def Output.text {capacity : Nat} (output : Output capacity) : Text := ⟨output.length, output.bytes⟩

def textOf (data : Bytes) : Text := ⟨data.length, data⟩

structure Decryption where
  original : Text
  returned : Text
deriving DecidableEq, Repr

structure Review where
  verifications : List CkRv
  encrypted : Bytes
  decryptions : List Decryption
  derivations : Nat
  alice : Option Text
  bob : Option Text
deriving DecidableEq, Repr

namespace Review

def start : Review := ⟨[], [], [], 0, none, none⟩

/-- A decryption is set beside the data of the latest `C_Encrypt`. Alice's secret is the
first one derived and Bob's the second. -/
def note : Review → Event cryptoki → Review
  | r, ⟨.verify _ _ _ _, rv⟩ => { r with verifications := rv :: r.verifications }
  | r, ⟨.encrypt _ data _, _⟩ => { r with encrypted := data }
  | r, ⟨.decrypt _ _ _ _, output⟩ => { r with
      decryptions :=
        if output.rv = ckrOk then ⟨textOf r.encrypted, output.text⟩ :: r.decryptions
        else r.decryptions }
  | r, ⟨.deriveKey _ _ _ _, key⟩ => { r with
      derivations := if key.rv = ckrOk then r.derivations + 1 else r.derivations }
  | r, ⟨.getAttributeValue _ _ .value _, output⟩ => { r with
      alice := if output.rv = ckrOk ∧ r.derivations = 1 then some output.text else r.alice
      bob := if output.rv = ckrOk ∧ r.derivations = 2 then some output.text else r.bob }
  | r, _ => r

/-- No verification was refused and every decryption gave back the original. -/
structure Sound (r : Review) : Prop where
  verified : ∀ rv ∈ r.verifications, rv = ckrOk
  decrypted : ∀ decryption ∈ r.decryptions, decryption.returned = decryption.original

/-- Not both sides exported a secret, or both exported the same. -/
def SecretsAgree (r : Review) : Prop :=
  ∀ alice bob, r.alice = some alice → r.bob = some bob → alice = bob

end Review

def review (trace : List (Event cryptoki)) : Review := trace.foldl Review.note .start

end Se05x.Pkcs11
