import Se05x.CppApp.CryptoProperties
import Se05x.Sss.Reference

/-!
# Generated and opened RSA handles

A handle made by `open` keeps the key size the class starts with, so its output buffers are
those of a 2048-bit key whatever key it is bound to.
-/

set_option autoImplicit false

namespace Se05x.CppApp

open Der Interaction SecureElement

inductive RsaUse where
  | sign (digest : Bytes)
  | verify (digest signature : Bytes)
  | encrypt (plaintext : Bytes)
  | decrypt (ciphertext : Bytes)
  | publicKeyDer

abbrev RsaUse.Result : RsaUse → Type
  | .verify _ _ => Bool
  | _ => Bytes

def RsaUse.apply (k : RsaKey) : (use : RsaUse) → Cpp use.Result
  | .sign digest => k.sign digest
  | .verify digest signature => k.verify digest signature
  | .encrypt plaintext => k.encrypt plaintext
  | .decrypt ciphertext => k.decrypt ciphertext
  | .publicKeyDer => k.publicKeyDer

variable {element : SecureElement} {server : Server host (State element)} {state : State element}

/-- The same bytes are returned, or the same exception thrown. -/
def SameOutcome (server : Server host (State element)) (state : State element) (left right : RsaKey)
    (use : RsaUse) : Prop :=
  ((use.apply left).run.exec server state).1 = ((use.apply right).run.exec server state).1

/-- The element refuses the use, or its result fits the buffer of a 2048-bit handle. A
public key too long for the generated handle's buffer as well fails on both. -/
def RsaUse.FitsDefault (element : SecureElement) (key : element.Key) (bits : RsaBits) :
    RsaUse → Prop
  | .sign digest => element.sign key .rsassaPkcs1V15Sha256 digest = none
  | .verify _ _ => True
  | .encrypt plaintext => element.encrypt key .rsaesPkcs1OaepSha256 plaintext = none
  | .decrypt ciphertext => ∀ message,
      element.decrypt key .rsaesPkcs1OaepSha256 ciphertext = some message → message.length ≤ 256
  | .publicKeyDer => (element.publicKeyDer key).length ≤ 320 ∨
      bits.toNat / 8 + 64 < (element.publicKeyDer key).length

theorem RsaKey.generate_exec (hosts : Hosts element server) (keyId : KeyId) (bits : RsaBits) :
    (RsaKey.generate keyId bits).run.exec server state =
      (.ok ⟨.allocated keyId .pair .rsa (bits.toNat / 8) .persistent, bits.toNat, true⟩,
        (state.store keyId (some (.pair (element.newKey .rsa bits.toNat state.draws)))).draw) := by
  rw [RsaKey.generate, exec_sss_bind hosts]
  change (sss (.keyObjectAllocateHandle _ _ _ _ _) >>= _).run.exec server state = _
  rw [exec_sss_bind hosts]
  change (sss (.keyStoreGenerateKey _ _) >>= _).run.exec server state = _
  rw [exec_sss_bind hosts]
  rfl

theorem RsaKey.open_exec (hosts : Hosts element server) {keyId : KeyId}
    (stored : (state.objects keyId).isSome) :
    (RsaKey.open keyId).run.exec server state = (.ok ⟨.existing keyId, 2048, false⟩, state) := by
  rw [RsaKey.open, Program.exec_throwing_bind_ok (openHandle_exec hosts stored)]
  rfl

section Uses

variable {key : element.Key} {k : RsaKey}

theorem RsaKey.sign_exec (hosts : Hosts element server)
    (stored : state.lookup k.obj = some (.pair key)) (digest : Bytes) :
    (k.sign digest).run.exec server state = (finished "asymmetric_sign_digest(RSA)"
      (deliver (k.bits / 8) (element.sign key .rsassaPkcs1V15Sha256 digest)), state) := by
  refine asymmetricOutput_exec hosts ?_
  rw [ask_eq_call, Program.exec_call, hosts.sss, serve, stored]
  rfl

theorem RsaKey.sign_returns (hosts : Hosts element server)
    (stored : state.lookup k.obj = some (.pair key)) {digest signature : Bytes}
    (signed : element.sign key .rsassaPkcs1V15Sha256 digest = some signature)
    (fits : signature.length ≤ k.bits / 8) :
    ((k.sign digest).run.exec server state).1 = .ok signature := by
  rw [RsaKey.sign_exec hosts stored, signed, finished_deliver_fits fits]

theorem RsaKey.sign_fails (hosts : Hosts element server)
    (stored : state.lookup k.obj = some (.pair key)) {digest signature : Bytes}
    (signed : element.sign key .rsassaPkcs1V15Sha256 digest = some signature)
    (full : k.bits / 8 < signature.length) :
    ((k.sign digest).run.exec server state).1 =
      .error (.crypto "SSS call failed: asymmetric_sign_digest(RSA)" .fail) := by
  rw [RsaKey.sign_exec hosts stored, signed, finished_deliver_full full]
  rfl

theorem RsaKey.verify_exec (hosts : Hosts element server)
    (stored : state.lookup k.obj = some (.pair key)) (digest signature : Bytes) :
    (k.verify digest signature).run.exec server state = (.ok (succeeded (statusOf
      (element.verify key .rsassaPkcs1V15Sha256 digest signature))), state) := by
  rw [RsaKey.verify, asymmetricVerify_exec hosts, serve, stored]
  rfl

theorem RsaKey.encrypt_exec (hosts : Hosts element server)
    (stored : state.lookup k.obj = some (.pair key)) (plaintext : Bytes) :
    (k.encrypt plaintext).run.exec server state = (finished "asymmetric_encrypt(RSA)"
      (deliver (k.bits / 8) (element.encrypt key .rsaesPkcs1OaepSha256 plaintext)), state) := by
  refine asymmetricOutput_exec hosts ?_
  rw [ask_eq_call, Program.exec_call, hosts.sss, serve, stored]
  rfl

theorem RsaKey.decrypt_exec (hosts : Hosts element server)
    (stored : state.lookup k.obj = some (.pair key)) (ciphertext : Bytes) :
    (k.decrypt ciphertext).run.exec server state = (finished "asymmetric_decrypt(RSA)"
      (deliver (k.bits / 8) (element.decrypt key .rsaesPkcs1OaepSha256 ciphertext)), state) := by
  refine asymmetricOutput_exec hosts ?_
  rw [ask_eq_call, Program.exec_call, hosts.sss, serve, stored]
  rfl

theorem RsaKey.publicKeyDer_exec (hosts : Hosts element server)
    (stored : state.lookup k.obj = some (.pair key)) :
    k.publicKeyDer.run.exec server state = (finished "key_store_get_key(RSA pub)"
      (deliver (k.bits / 8 + 64) (some (element.publicKeyDer key))), state) := by
  rw [RsaKey.publicKeyDer, exec_allocate_bind hosts, exec_sss_bind hosts, serve, stored]
  exact exec_check_output _

end Uses

theorem RsaBits.toNat_ge (bits : RsaBits) : 256 ≤ bits.toNat / 8 := by
  cases bits <;> decide

theorem RsaBits.toNat_gt {bits : RsaBits} (larger : bits ≠ .rsa2048) : 256 < bits.toNat / 8 := by
  cases bits with
  | rsa2048 => exact absurd rfl larger
  | rsa3072 => decide
  | rsa4096 => decide

/-- A result as long as the modulus of a larger key never fits the default buffer. -/
theorem modulus_result_eq_iff {place : String} {bits : RsaBits} {result : Option Bytes}
    (larger : bits ≠ .rsa2048)
    (sized : ∀ bytes, result = some bytes → bytes.length = bits.toNat / 8) :
    finished place (deliver (bits.toNat / 8) result) = finished place (deliver 256 result) ↔
      result = none := by
  rw [finished_deliver_eq_iff bits.toNat_ge]
  cases result with
  | none => exact ⟨fun _ => rfl, fun _ => nofun⟩
  | some bytes =>
      have gap := RsaBits.toNat_gt larger
      have same := sized bytes rfl
      constructor
      · intro fits
        rcases fits bytes rfl with small | full <;> omega
      · intro absent
        cases absent

/-- Two handles on one key that differ in the size they assume. -/
theorem sameOutcome_iff (hosts : Hosts element server) (sized : ModulusSized element) {draw : Nat}
    {bits : RsaBits} {made opened : RsaKey} (madeBits : made.bits = bits.toNat)
    (openedBits : opened.bits = 2048)
    (madeStored : state.lookup made.obj = some (.pair (element.newKey .rsa bits.toNat draw)))
    (openedStored : state.lookup opened.obj = some (.pair (element.newKey .rsa bits.toNat draw)))
    (use : RsaUse) :
    SameOutcome server state made opened use ↔
      bits = .rsa2048 ∨ use.FitsDefault element (element.newKey .rsa bits.toNat draw) bits := by
  by_cases default : bits = .rsa2048
  · have sameBits : made.bits = opened.bits := by rw [madeBits, openedBits, default]; rfl
    refine iff_of_true ?_ (.inl default)
    cases use with
    | sign digest =>
        rw [SameOutcome, RsaUse.apply, RsaUse.apply, RsaKey.sign_exec hosts madeStored,
          RsaKey.sign_exec hosts openedStored, sameBits]
    | verify digest signature =>
        rw [SameOutcome, RsaUse.apply, RsaUse.apply, RsaKey.verify_exec hosts madeStored,
          RsaKey.verify_exec hosts openedStored]
    | encrypt plaintext =>
        rw [SameOutcome, RsaUse.apply, RsaUse.apply, RsaKey.encrypt_exec hosts madeStored,
          RsaKey.encrypt_exec hosts openedStored, sameBits]
    | decrypt ciphertext =>
        rw [SameOutcome, RsaUse.apply, RsaUse.apply, RsaKey.decrypt_exec hosts madeStored,
          RsaKey.decrypt_exec hosts openedStored, sameBits]
    | publicKeyDer =>
        rw [SameOutcome, RsaUse.apply, RsaUse.apply, RsaKey.publicKeyDer_exec hosts madeStored,
          RsaKey.publicKeyDer_exec hosts openedStored, sameBits]
  · rw [or_iff_right default]
    cases use with
    | sign digest =>
        rw [SameOutcome, RsaUse.apply, RsaUse.apply, RsaKey.sign_exec hosts madeStored,
          RsaKey.sign_exec hosts openedStored, madeBits, openedBits]
        exact modulus_result_eq_iff default fun _ => sized.sign
    | verify digest signature =>
        rw [SameOutcome, RsaUse.apply, RsaUse.apply, RsaKey.verify_exec hosts madeStored,
          RsaKey.verify_exec hosts openedStored]
        exact iff_of_true rfl trivial
    | encrypt plaintext =>
        rw [SameOutcome, RsaUse.apply, RsaUse.apply, RsaKey.encrypt_exec hosts madeStored,
          RsaKey.encrypt_exec hosts openedStored, madeBits, openedBits]
        exact modulus_result_eq_iff default fun _ => sized.encrypt
    | decrypt ciphertext =>
        rw [SameOutcome, RsaUse.apply, RsaUse.apply, RsaKey.decrypt_exec hosts madeStored,
          RsaKey.decrypt_exec hosts openedStored, madeBits, openedBits]
        refine (finished_deliver_eq_iff bits.toNat_ge).trans ?_
        refine forall_congr' fun message => imp_congr_right fun decrypted => ?_
        exact or_iff_left (Nat.not_lt.mpr (sized.decrypt decrypted))
    | publicKeyDer =>
        rw [SameOutcome, RsaUse.apply, RsaUse.apply, RsaKey.publicKeyDer_exec hosts madeStored,
          RsaKey.publicKeyDer_exec hosts openedStored, madeBits, openedBits]
        refine (finished_deliver_eq_iff (Nat.add_le_add_right bits.toNat_ge 64)).trans ?_
        simp only [Option.some.injEq, forall_eq']
        rfl

/-- A handle opened on a key that was generated gives the outcomes of the generated handle
exactly for 2048-bit keys and for uses that do not need a larger buffer. -/
theorem RsaKey.open_matches_generate_iff (hosts : Hosts element server)
    (sized : ModulusSized element) {keyId : KeyId} {bits : RsaBits} {before after : State element}
    {made : RsaKey}
    (generated : (RsaKey.generate keyId bits).run.exec server before = (.ok made, after)) :
    ∃ key, after.objects keyId = some (.pair key) ∧
      ∀ later : State element, later.objects keyId = some (.pair key) →
        ∃ opened, (RsaKey.open keyId).run.exec server later = (.ok opened, later) ∧
          ∀ use : RsaUse, SameOutcome server later made opened use ↔
            bits = .rsa2048 ∨ use.FitsDefault element key bits := by
  rw [RsaKey.generate_exec hosts] at generated
  obtain ⟨⟨⟩, rfl⟩ := generated
  refine ⟨_, State.store_objects _ _ _, ?_⟩
  intro later stored
  refine ⟨_, RsaKey.open_exec hosts (by rw [stored]; rfl), ?_⟩
  exact sameOutcome_iff hosts sized rfl rfl stored stored

/-- A 2048-bit key of the reference element. -/
theorem RsaKey.open_matches_generate_2048 :
    ∃ made after, (RsaKey.generate 0x10 .rsa2048).run.exec reference.server reference.emptyState =
        (.ok made, after) ∧
      ∃ opened, (RsaKey.open 0x10).run.exec reference.server after = (.ok opened, after) ∧
        SameOutcome reference.server after made opened (.sign (List.replicate 32 0)) := by
  have generated := @RsaKey.generate_exec _ _ reference.emptyState reference.server_hosts 0x10
    .rsa2048
  obtain ⟨key, stored, matching⟩ :=
    RsaKey.open_matches_generate_iff reference.server_hosts reference.modulusSized generated
  obtain ⟨opened, reopened, same⟩ := matching _ stored
  exact ⟨_, _, generated, opened, reopened, (same _).mpr (.inl rfl)⟩

/-- A 3072-bit key signs through the handle that made it and fails through an opened one. -/
theorem RsaKey.open_fails_3072 :
    ∃ made after opened,
      (RsaKey.generate 0x10 .rsa3072).run.exec reference.server reference.emptyState =
        (.ok made, after) ∧
      (RsaKey.open 0x10).run.exec reference.server after = (.ok opened, after) ∧
      ((made.sign (List.replicate 32 0)).run.exec reference.server after).1 =
        .ok (List.replicate 384 0x5a) ∧
      ((opened.sign (List.replicate 32 0)).run.exec reference.server after).1 =
        .error (.crypto "SSS call failed: asymmetric_sign_digest(RSA)" .fail) ∧
      ¬ SameOutcome reference.server after made opened (.sign (List.replicate 32 0)) := by
  have generated := @RsaKey.generate_exec _ _ reference.emptyState reference.server_hosts 0x10
    .rsa3072
  refine ⟨_, _, _, generated, RsaKey.open_exec reference.server_hosts rfl, ?_, ?_, ?_⟩
  · exact RsaKey.sign_returns reference.server_hosts rfl (reference.sign_rsa List.length_replicate)
      (Nat.le_of_eq List.length_replicate)
  · refine RsaKey.sign_fails reference.server_hosts rfl
      (reference.sign_rsa List.length_replicate) ?_
    rw [List.length_replicate]
    decide
  · rw [sameOutcome_iff reference.server_hosts reference.modulusSized rfl rfl rfl rfl]
    rintro (⟨⟨⟩⟩ | refused)
    rw [RsaUse.FitsDefault, reference.sign_rsa List.length_replicate] at refused
    cases refused

end Se05x.CppApp
