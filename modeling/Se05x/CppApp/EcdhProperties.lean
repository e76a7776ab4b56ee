import Se05x.CppApp.Handles
import Se05x.Sss.Reference

/-!
# Key agreement of two EC handles

The peer's bit length comes from the handle, which knows its curve only when it generated
the key; the derived secret passes through an object and a buffer of 64 bytes.
-/

set_option autoImplicit false

namespace Se05x.CppApp

open Der Interaction SecureElement

variable {element : SecureElement} {server : Server host (State element)} {state : State element}

theorem curveBits_mem (curve : EcCurve) : curveBits curve ∈ nistSizes := by
  cases curve <;> decide

theorem EcKey.generate_exec (hosts : Hosts element server) (keyId : KeyId) (curve : EcCurve) :
    (EcKey.generate keyId curve).run.exec server state =
      (.ok ⟨.allocated keyId .pair .ecNistP (3 * ((curveBits curve + 7) / 8) + 8) .persistent,
          curveSigAlgo curve, curve, true⟩,
        (state.store keyId (some (.pair
          (element.newKey .ecNistP (curveBits curve) state.draws)))).draw) := by
  rw [EcKey.generate, exec_sss_bind hosts]
  change (sss (.keyObjectAllocateHandle _ _ _ _ _) >>= _).run.exec server state = _
  rw [exec_sss_bind hosts]
  change (sss (.keyStoreGenerateKey _ _) >>= _).run.exec server state = _
  rw [exec_sss_bind hosts]
  rfl

theorem EcKey.open_exec (hosts : Hosts element server) {keyId : KeyId}
    (stored : (state.objects keyId).isSome) :
    (EcKey.open keyId).run.exec server state =
      (.ok ⟨.existing keyId, .sha256, .nistP256, false⟩, state) := by
  rw [EcKey.open, Program.exec_throwing_bind_ok (openHandle_exec hosts stored)]
  rfl

section Handles

variable {key : element.Key} {k : EcKey} {der : Bytes}

theorem EcKey.publicKeyDer_exec (hosts : Hosts element server)
    (stored : state.lookup k.obj = some (.pair key))
    (short : (element.publicKeyDer key).length ≤ 256) :
    k.publicKeyDer.run.exec server state = (.ok (element.publicKeyDer key), state) := by
  rw [EcKey.publicKeyDer, exec_allocate_bind hosts, exec_sss_bind hosts, serve, stored]
  refine (exec_check_output (deliver 256 (some (element.publicKeyDer key)))).trans ?_
  rw [finished_deliver_fits short]

/-- The store while the peer's public key is imported. -/
def withPeer (state : State element) (der : Bytes) : State element :=
  state.store 0xEF009E01 (some (.publicKey der))

theorem withPeer_lookup {keyObject : SssObject} {object : StoredObject element.Key}
    (stored : state.lookup keyObject = some object) (apart : keyObject.keyId ≠ some 0xEF009E01) :
    (withPeer state der).lookup keyObject = some object := by
  cases bound : keyObject.keyId with
  | none => rw [State.lookup, bound] at stored; cases stored
  | some keyId =>
      rw [State.lookup, bound] at stored ⊢
      rw [bound] at apart
      exact (State.store_other state _ fun same => apart (congrArg some same)).trans stored

theorem withPeer_agreed {algorithm : Algorithm} {mode : Mode} {derived : SssObject} {bytes : Nat}
    (stored : state.lookup k.obj = some (.pair key)) (apart : k.obj.keyId ≠ some 0xEF009E01) :
    serve (withPeer state der) (.deriveKeyDh ⟨k.obj, algorithm, mode⟩
        (.allocated 0xEF009E01 .publicPart .ecNistP bytes .transient) derived) =
      deriveKey (withPeer state der) (element.sharedX key der) derived := by
  rw [serve, agreed, withPeer_lookup stored apart]
  rfl

/-- The stored objects and the handle's curve decide how `ecdh` ends. -/
theorem EcKey.ecdh_exec (hosts : Hosts element server)
    (stored : state.lookup k.obj = some (.pair key)) (apart : k.obj.keyId ≠ some 0xEF009E01) :
    (k.ecdh der).run.exec server state =
      if element.derCurveBits der = some (curveBits k.curve) then
        match element.sharedX key der with
        | none => (.error (.crypto "SSS call failed: derive_key_dh" .fail), withPeer state der)
        | some secret =>
          if secret.length ≤ 64 then
            (.ok secret, (withPeer state der).store 0xEF009E02 (some (.secret secret)))
          else (.error (.crypto "SSS call failed: derive_key_dh" .fail), withPeer state der)
      else (.error (.crypto "SSS call failed: key_store_set_key(peer)" .fail), state) := by
  rw [EcKey.ecdh, exec_sss_bind hosts]
  change (sss (.keyObjectAllocateHandle _ _ _ _ _) >>= _).run.exec server state = _
  rw [exec_sss_bind hosts]
  change (sss (.keyStoreSetKey _ _ _) >>= _).run.exec server state = _
  rw [exec_sss_bind hosts, serve, setKey]
  by_cases named : element.derCurveBits der = some (curveBits k.curve)
  · rw [if_pos named, if_pos named]
    change (sss .keyObjectInit >>= _).run.exec server (withPeer state der) = _
    rw [exec_sss_bind hosts]
    change (sss (.keyObjectAllocateHandle _ _ _ _ _) >>= _).run.exec server (withPeer state der) = _
    rw [exec_sss_bind hosts]
    change (sss (.deriveKeyContextInit _) >>= _).run.exec server (withPeer state der) = _
    rw [exec_sss_bind hosts]
    change (sss (.deriveKeyDh _ _ _) >>= _).run.exec server (withPeer state der) = _
    rw [exec_sss_bind hosts, exec_sss_bind hosts, withPeer_agreed stored apart]
    cases element.sharedX key der with
    | none => exact exec_check_failed SssStatus.fail_ne_success
    | some secret =>
        by_cases fits : secret.length ≤ 64
        · have stores : ∀ keyId keyPart cipherType mode, deriveKey (withPeer state der) (some secret)
              (.allocated keyId keyPart cipherType 64 mode) =
              (.success, (withPeer state der).store keyId (some (.secret secret))) :=
            fun _ _ _ _ => if_pos fits
          rw [stores, exec_check_success, exec_allocate_bind hosts, exec_sss_bind hosts]
          simp only [if_pos fits]
          refine (exec_check_output (deliver 64 (some secret))).trans ?_
          rw [finished_deliver_fits fits]
          rfl
        · have refuses : ∀ keyId keyPart cipherType mode, deriveKey (withPeer state der) (some secret)
              (.allocated keyId keyPart cipherType 64 mode) = (.fail, withPeer state der) :=
            fun _ _ _ _ => if_neg fits
          rw [refuses]
          simp only [if_neg fits]
          exact exec_check_failed SssStatus.fail_ne_success
  · rw [if_neg named, if_neg named]
    exact exec_check_failed SssStatus.fail_ne_success

theorem EcKey.ecdh_returns (hosts : Hosts element server)
    (stored : state.lookup k.obj = some (.pair key)) (apart : k.obj.keyId ≠ some 0xEF009E01)
    (named : element.derCurveBits der = some (curveBits k.curve)) {secret : Bytes}
    (shared : element.sharedX key der = some secret) (fits : secret.length ≤ 64) :
    (k.ecdh der).run.exec server state =
      (.ok secret, (withPeer state der).store 0xEF009E02 (some (.secret secret))) := by
  rw [EcKey.ecdh_exec hosts stored apart, if_pos named, shared]
  exact if_pos fits

theorem EcKey.ecdh_fails (hosts : Hosts element server)
    (stored : state.lookup k.obj = some (.pair key)) (apart : k.obj.keyId ≠ some 0xEF009E01)
    {secret : Bytes} (shared : element.sharedX key der = some secret)
    (mismatch : element.derCurveBits der = some (curveBits k.curve) → 64 < secret.length) :
    ∃ error after, (k.ecdh der).run.exec server state = (.error error, after) := by
  rw [EcKey.ecdh_exec hosts stored apart, shared]
  by_cases named : element.derCurveBits der = some (curveBits k.curve)
  · rw [if_pos named]
    exact ⟨_, _, if_neg (Nat.not_le.mpr (mismatch named))⟩
  · rw [if_neg named]
    exact ⟨_, _, rfl⟩

end Handles

/-- Each side derives with the other's exported public key. -/
def agreement (a b : EcKey) : Cpp (Bytes × Bytes) := do
  let first ← a.ecdh (← b.publicKeyDer)
  let second ← b.ecdh (← a.publicKeyDer)
  return (first, second)

/-- Both sides return one secret of the curve's coordinate size. -/
def Agree (server : Server host (State element)) (state : State element) (curve : EcCurve)
    (a b : EcKey) : Prop :=
  ∃ secret after, secret.length = (curveBits curve + 7) / 8 ∧
    (agreement a b).run.exec server state = (.ok (secret, secret), after)

/-- The handle came out of `generate` or `open` at some time. -/
def Obtained (server : Server host (State element)) (origin : Origin) (keyId : KeyId)
    (curve : EcCurve) (k : EcKey) : Prop :=
  ∃ before after, (origin.obtain keyId curve).run.exec server before = (.ok k, after)

/-- The object under the identifier is one that `generate` installed. -/
def StoresPair (server : Server host (State element)) (state : State element) (keyId : KeyId)
    (curve : EcCurve) : Prop :=
  ∃ before k after, (EcKey.generate keyId curve).run.exec server before = (.ok k, after) ∧
    state.objects keyId = after.objects keyId

/-- The curve a handle knows: an opened one knows the default. -/
def Origin.knows (curve : EcCurve) : Origin → EcCurve
  | .generate => curve
  | .open => .nistP256

theorem Obtained.handle (hosts : Hosts element server) {origin : Origin} {keyId : KeyId}
    {curve : EcCurve} {k : EcKey} (obtained : Obtained server origin keyId curve k) :
    k.obj.keyId = some keyId ∧ k.curve = origin.knows curve := by
  obtain ⟨before, after, made⟩ := obtained
  cases origin with
  | generate =>
      rw [Origin.obtain, EcKey.generate_exec hosts] at made
      cases made
      exact ⟨rfl, rfl⟩
  | «open» =>
      rw [Origin.obtain] at made
      cases stored : (before.objects keyId).isSome with
      | false =>
          rw [EcKey.open, Program.exec_throwing_bind_error (openHandle_exec_absent hosts stored)]
            at made
          cases made
      | true =>
          rw [EcKey.open_exec hosts stored] at made
          cases made
          exact ⟨rfl, rfl⟩

theorem StoresPair.key (hosts : Hosts element server) {keyId : KeyId} {curve : EcCurve}
    (stores : StoresPair server state keyId curve) :
    ∃ draw, state.objects keyId =
      some (.pair (element.newKey .ecNistP (curveBits curve) draw)) := by
  obtain ⟨before, k, after, made, same⟩ := stores
  rw [EcKey.generate_exec hosts] at made
  cases made
  exact ⟨_, same.trans (State.store_objects _ _ _)⟩

section Agreement

variable {curve : EcCurve} {a b : EcKey} {derA derB first : Bytes} {middle : State element}

theorem not_agree_of_first_fails (exportB : b.publicKeyDer.run.exec server state = (.ok derB, state))
    (fails : ∃ error after, (a.ecdh derB).run.exec server state = (.error error, after)) :
    ¬ Agree server state curve a b := by
  obtain ⟨error, after, failed⟩ := fails
  intro returned
  obtain ⟨secret, last, _, run⟩ := returned
  rw [agreement, Program.exec_throwing_bind_ok exportB,
    Program.exec_throwing_bind_error failed] at run
  cases run

theorem not_agree_of_second_fails
    (exportB : b.publicKeyDer.run.exec server state = (.ok derB, state))
    (derived : (a.ecdh derB).run.exec server state = (.ok first, middle))
    (exportA : a.publicKeyDer.run.exec server middle = (.ok derA, middle))
    (fails : ∃ error after, (b.ecdh derA).run.exec server middle = (.error error, after)) :
    ¬ Agree server state curve a b := by
  obtain ⟨error, after, failed⟩ := fails
  intro returned
  obtain ⟨secret, last, _, run⟩ := returned
  rw [agreement, Program.exec_throwing_bind_ok exportB, Program.exec_throwing_bind_ok derived,
    Program.exec_throwing_bind_ok exportA, Program.exec_throwing_bind_error failed] at run
  cases run

/-- Scratch objects leave the other objects as they were. -/
theorem objects_scratched {keyId : KeyId} {der : Bytes} {object : Option (StoredObject element.Key)}
    (apart : keyId ≠ 0xEF009E01 ∧ keyId ≠ 0xEF009E02) :
    ((withPeer state der).store 0xEF009E02 object).objects keyId = state.objects keyId :=
  (State.store_other _ _ apart.2).trans (State.store_other _ _ apart.1)

/-- The handle knows the key's curve, and the coordinates fit 64 bytes. -/
def Origin.Suits (curve : EcCurve) (origin : Origin) : Prop :=
  origin.knows curve = curve ∧ curve ≠ .nistP521

theorem Origin.suits_iff {originA originB : Origin} :
    originA.Suits curve ∧ originB.Suits curve ↔
      curve = .nistP256 ∨ curve = .nistP384 ∧ originA = .generate ∧ originB = .generate := by
  cases curve <;> cases originA <;> cases originB <;> simp [Origin.Suits, Origin.knows]

section Side

variable {k : EcKey} {keyId : KeyId} {origin : Origin} {draw other : Nat} {x : Bytes}

theorem side_export (hosts : Hosts element server) (laws : CurveLaws element)
    (bound : k.obj.keyId = some keyId)
    (stored : state.objects keyId = some (.pair (element.newKey .ecNistP (curveBits curve) draw))) :
    k.publicKeyDer.run.exec server state =
      (.ok (element.publicKeyDer (element.newKey .ecNistP (curveBits curve) draw)), state) := by
  refine EcKey.publicKeyDer_exec hosts ?_ (laws.short (curveBits_mem curve))
  rw [State.lookup, bound]
  exact stored

theorem side_returns (hosts : Hosts element server) (laws : CurveLaws element)
    (bound : k.obj.keyId = some keyId) (knows : k.curve = origin.knows curve)
    (apart : keyId ≠ 0xEF009E01)
    (stored : state.objects keyId = some (.pair (element.newKey .ecNistP (curveBits curve) draw)))
    (shared : element.sharedX (element.newKey .ecNistP (curveBits curve) draw)
      (element.publicKeyDer (element.newKey .ecNistP (curveBits curve) other)) = some x)
    (coordinate : x.length = (curveBits curve + 7) / 8) (suits : origin.Suits curve) :
    ∃ after : State element,
      (∀ kept, kept ≠ 0xEF009E01 ∧ kept ≠ 0xEF009E02 → after.objects kept = state.objects kept) ∧
      (k.ecdh (element.publicKeyDer (element.newKey .ecNistP (curveBits curve) other))).run.exec
        server state = (.ok x, after) := by
  refine ⟨_, fun kept => objects_scratched, EcKey.ecdh_returns hosts ?_ ?_ ?_ shared ?_⟩
  · rw [State.lookup, bound]
    exact stored
  · rw [bound]
    exact fun same => apart (Option.some.inj same)
  · rw [knows, suits.1]
    exact laws.named (curveBits_mem curve)
  · rw [coordinate]
    cases curve with
    | nistP256 => decide
    | nistP384 => decide
    | nistP521 => exact absurd rfl suits.2

theorem side_fails (hosts : Hosts element server) (laws : CurveLaws element)
    (bound : k.obj.keyId = some keyId) (knows : k.curve = origin.knows curve)
    (apart : keyId ≠ 0xEF009E01)
    (stored : state.objects keyId = some (.pair (element.newKey .ecNistP (curveBits curve) draw)))
    (shared : element.sharedX (element.newKey .ecNistP (curveBits curve) draw)
      (element.publicKeyDer (element.newKey .ecNistP (curveBits curve) other)) = some x)
    (coordinate : x.length = (curveBits curve + 7) / 8) (unsuited : ¬ origin.Suits curve) :
    ∃ error after, (k.ecdh (element.publicKeyDer
      (element.newKey .ecNistP (curveBits curve) other))).run.exec server state =
        (.error error, after) := by
  refine EcKey.ecdh_fails hosts ?_ ?_ shared ?_
  · rw [State.lookup, bound]
    exact stored
  · rw [bound]
    exact fun same => apart (Option.some.inj same)
  · rw [laws.named (curveBits_mem curve), knows, coordinate]
    intro same
    cases curve <;> cases origin <;> simp [Origin.Suits, Origin.knows, curveBits] at same unsuited ⊢

end Side

/-- Two parties on one curve agree exactly when both know the curve and its coordinates fit
the 64-byte object. -/
theorem EcKey.ecdh_agrees_iff (hosts : Hosts element server) (laws : CurveLaws element)
    {idA idB : KeyId} {originA originB : Origin}
    (storesA : StoresPair server state idA curve) (storesB : StoresPair server state idB curve)
    (apartA : idA ≠ 0xEF009E01 ∧ idA ≠ 0xEF009E02) (apartB : idB ≠ 0xEF009E01 ∧ idB ≠ 0xEF009E02)
    (obtainedA : Obtained server originA idA curve a)
    (obtainedB : Obtained server originB idB curve b) :
    Agree server state curve a b ↔
      curve = .nistP256 ∨ curve = .nistP384 ∧ originA = .generate ∧ originB = .generate := by
  obtain ⟨drawA, storedA⟩ := storesA.key hosts
  obtain ⟨drawB, storedB⟩ := storesB.key hosts
  obtain ⟨boundA, knowsA⟩ := obtainedA.handle hosts
  obtain ⟨boundB, knowsB⟩ := obtainedB.handle hosts
  obtain ⟨x, coordinate, sharedA, sharedB⟩ := laws.agreed drawA drawB (curveBits_mem curve)
  have exportB := side_export hosts laws boundB storedB
  rw [← Origin.suits_iff]
  by_cases suitsA : originA.Suits curve
  · obtain ⟨middle, kept, first⟩ :=
      side_returns hosts laws boundA knowsA apartA.1 storedA sharedA coordinate suitsA
    have laterA := (kept idA apartA).trans storedA
    have laterB := (kept idB apartB).trans storedB
    have exportA := side_export hosts laws boundA laterA
    by_cases suitsB : originB.Suits curve
    · obtain ⟨last, _, second⟩ :=
        side_returns hosts laws boundB knowsB apartB.1 laterB sharedB coordinate suitsB
      refine iff_of_true ⟨x, last, coordinate, ?_⟩ ⟨suitsA, suitsB⟩
      rw [agreement, Program.exec_throwing_bind_ok exportB, Program.exec_throwing_bind_ok first,
        Program.exec_throwing_bind_ok exportA, Program.exec_throwing_bind_ok second]
      rfl
    · have second := side_fails hosts laws boundB knowsB apartB.1 laterB sharedB coordinate suitsB
      exact iff_of_false (not_agree_of_second_fails exportB first exportA second)
        fun suited => suitsB suited.2
  · have failed := side_fails hosts laws boundA knowsA apartA.1 storedA sharedA coordinate suitsA
    exact iff_of_false (not_agree_of_first_fails exportB failed) fun suited => suitsA suited.1

end Agreement

section Examples

/-- The reference store after two key generations on one curve. -/
def twoPairs (curve : EcCurve) : reference.State :=
  ((((reference.emptyState.store 0x10
    (some (.pair (reference.newKey .ecNistP (curveBits curve) 0)))).draw).store 0x11
    (some (.pair (reference.newKey .ecNistP (curveBits curve) 1)))).draw)

theorem twoPairs_first (curve : EcCurve) :
    StoresPair reference.server (twoPairs curve) 0x10 curve :=
  ⟨reference.emptyState, _, _, EcKey.generate_exec reference.server_hosts 0x10 curve, rfl⟩

theorem twoPairs_second (curve : EcCurve) :
    StoresPair reference.server (twoPairs curve) 0x11 curve :=
  ⟨_, _, _, EcKey.generate_exec reference.server_hosts 0x11 curve, rfl⟩

theorem obtained_open {keyId : KeyId} {curve : EcCurve}
    (stores : ((twoPairs curve).objects keyId).isSome) :
    ∃ k, Obtained reference.server .open keyId curve k :=
  ⟨_, twoPairs curve, _, EcKey.open_exec reference.server_hosts stores⟩

/-- Opened P-256 handles agree. -/
theorem ecdh_agrees_p256 :
    ∃ a b, Obtained reference.server .open 0x10 .nistP256 a ∧
      Obtained reference.server .open 0x11 .nistP256 b ∧
      Agree reference.server (twoPairs .nistP256) .nistP256 a b := by
  obtain ⟨a, obtainedA⟩ := @obtained_open 0x10 .nistP256 rfl
  obtain ⟨b, obtainedB⟩ := @obtained_open 0x11 .nistP256 rfl
  exact ⟨a, b, obtainedA, obtainedB, (EcKey.ecdh_agrees_iff reference.server_hosts
    reference.curveLaws (twoPairs_first _) (twoPairs_second _) (by decide) (by decide) obtainedA
    obtainedB).mpr (.inl rfl)⟩

/-- Opened P-384 handles do not: the peer's key is imported under 256 bits. -/
theorem ecdh_fails_p384 :
    ∃ a b, Obtained reference.server .open 0x10 .nistP384 a ∧
      Obtained reference.server .open 0x11 .nistP384 b ∧
      ¬ Agree reference.server (twoPairs .nistP384) .nistP384 a b := by
  obtain ⟨a, obtainedA⟩ := @obtained_open 0x10 .nistP384 rfl
  obtain ⟨b, obtainedB⟩ := @obtained_open 0x11 .nistP384 rfl
  refine ⟨a, b, obtainedA, obtainedB, ?_⟩
  obtain ⟨drawA, storedA⟩ := (twoPairs_first .nistP384).key reference.server_hosts
  obtain ⟨drawB, storedB⟩ := (twoPairs_second .nistP384).key reference.server_hosts
  obtain ⟨boundA, knowsA⟩ := obtainedA.handle reference.server_hosts
  obtain ⟨boundB, knowsB⟩ := obtainedB.handle reference.server_hosts
  obtain ⟨x, coordinate, shared, _⟩ :=
    reference.curveLaws.agreed drawA drawB (curveBits_mem .nistP384)
  refine not_agree_of_first_fails
    (side_export reference.server_hosts reference.curveLaws boundB storedB)
    (side_fails reference.server_hosts reference.curveLaws boundA knowsA (by decide) storedA shared
      coordinate ?_)
  intro returned
  obtain ⟨⟨⟩, _⟩ := returned

end Examples

end Se05x.CppApp
