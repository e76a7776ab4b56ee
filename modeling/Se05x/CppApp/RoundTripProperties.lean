import Se05x.CppApp.InvocationsProperties
import Se05x.Der.Hexadecimal
import Se05x.Der.PemReading

/-!
# What one invocation makes and a later one reads

Signatures, ciphertexts, public keys and requests pass through files from one invocation to
another. Anything may be invoked in between that spares the key and leaves the files.
-/

set_option autoImplicit false

namespace Se05x.CppApp

open Der Interaction SecureElement

/-- Invocations that spare the keys and leave the files alone. -/
def Quietly (platform : Platform) (target : Target) (keyIds : List KeyId) (files : List Nat)
    (invocations : List (List String)) : Prop :=
  ∀ argv ∈ invocations, (∀ keyId ∈ keyIds, Spares target keyId argv) ∧
    ∀ file ∈ files, Leaves platform file argv

section RoundTrips

variable {element : SecureElement} {platform : Platform} {machine : Machine element}
  {mbedtls : Mbedtls} {nameDer : mbedtls.Names → Bytes} {target : Target}
  {statusCode : SssStatus → Nat} {between : List (List String)}

/-- The machine after a sequence of invocations. -/
def Machine.after (platform : Platform) (mbedtls : Mbedtls) (target : Target)
    (statusCode : SssStatus → Nat) (machine : Machine element) (invocations : List (List String)) :
    Machine element :=
  (series (Machine.launch platform mbedtls target statusCode) machine invocations).2

/-- The P-256 key under this identifier has its public key in this file. -/
def Published (platform : Platform) (machine : Machine element) (keyId : KeyId) (path : String) :
    Prop :=
  ∃ draw, machine.store.objects keyId = some (.pair (element.newKey .ecNistP 256 draw)) ∧
    machine.read platform path = some (element.publicKeyDer (element.newKey .ecNistP 256 draw))

/-- One side of a key agreement: it provisions a key, and derives with a peer's file. -/
structure Party (platform : Platform) (target : Target) (provision exchange : List String)
    (keyId : KeyId) (published peer secret : String) : Prop where
  provisions : ∃ force,
    Asks platform target provision (.provision keyId force (some (.ec .nistP256))) published
  exchanges : Asks platform target exchange (.agree keyId peer) secret
  publishes : published ≠ "" ∧ platform.writable published = true
  writes : secret ≠ "" ∧ platform.writable secret = true
  unscratched : keyId ∉ [0xEF009E01, 0xEF009E02]

variable (documented : mbedtls.Documented nameDer) (full : mbedtls.FailsOnlyFull nameDer)
  (pem : mbedtls.PemDocumented)

section Sequences

include documented full pem

theorem after_keeps (invariant : Machine element → Prop)
    (keeps : ∀ argv ∈ between, ∀ other, invariant other →
      invariant (other.invoke platform mbedtls nameDer target argv).2)
    (start : invariant machine) :
    invariant (machine.after platform mbedtls target statusCode between) := by
  refine series_keeps ?_ start
  intro argv member other held
  rw [launch_eq_invoke documented full pem]
  exact keeps argv member other held

theorem after_object {keyIds : List KeyId} {files : List Nat} {keyId : KeyId}
    (quietly : Quietly platform target keyIds files between) (member : keyId ∈ keyIds) :
    (machine.after platform mbedtls target statusCode between).store.objects keyId =
      machine.store.objects keyId := by
  refine after_keeps documented full pem
    (fun other => other.store.objects keyId = machine.store.objects keyId) ?_ rfl
  intro argv invoked other same
  exact (invoke_keeps_object ((quietly argv invoked).1 keyId member)).trans same

theorem after_file {keyIds : List KeyId} {files : List Nat} {file : Nat}
    (quietly : Quietly platform target keyIds files between) (member : file ∈ files) :
    (machine.after platform mbedtls target statusCode between).files file = machine.files file := by
  refine after_keeps documented full pem (fun other => other.files file = machine.files file) ?_ rfl
  intro argv invoked other same
  exact (invoke_keeps_file ((quietly argv invoked).2 file member)).trans same

end Sequences

section Signatures

include documented full pem

/-- A signature that was written to a file verifies from then on, whatever else is invoked. -/
theorem signature_verifies (laws : KeyLaws element) (stocked : Stocked machine.store)
    {signing verifying : List String} {family : Family} {keyId : KeyId}
    {input out message signature shown : String}
    (signs : Asks platform target signing (.sign family keyId input) out)
    (verifies : Asks platform target verifying (.verify family keyId message signature) shown)
    (sameMessage : platform.resolve message = platform.resolve input)
    (sameSignature : platform.resolve signature = platform.resolve out)
    (apart : platform.resolve out ≠ platform.resolve input) (named : out ≠ "")
    (succeeds : (machine.launch platform mbedtls target statusCode signing).1 = 0)
    (quietly : Quietly platform target [keyId] [platform.resolve input, platform.resolve out]
      between) :
    let later := (machine.launch platform mbedtls target statusCode signing).2.after platform
      mbedtls target statusCode between
    later.launch platform mbedtls target statusCode verifying =
      (0, later.print (asciiBytes "VERIFY OK\n")) := by
  intro later
  rw [launch_eq_invoke documented full pem] at succeeds
  obtain ⟨product, performed, _, written⟩ := signs.succeeds succeeds
  obtain ⟨data, present, made⟩ := Option.bind_eq_some_iff.mp performed
  obtain ⟨bytes, fitted, rfl⟩ := Option.map_eq_some_iff.mp made
  obtain ⟨signed, _⟩ := limited_eq_some_iff.mp fitted
  obtain ⟨key, paired, signed⟩ := Option.bind_eq_some_iff.mp signed
  have stored := pairAt_eq_some_iff.mp paired
  have storedLater : later.store.objects keyId = some (.pair key) := by
    rw [after_object documented full pem quietly List.mem_cons_self,
      launch_eq_invoke documented full pem, invoke_keeps_object (signs.spares (List.not_mem_nil))]
    exact stored
  have messageLater : later.read platform message = some data := by
    rw [Machine.read, sameMessage, after_file documented full pem quietly List.mem_cons_self,
      launch_eq_invoke documented full pem, invoke_keeps_file (signs.leaves apart)]
    exact present
  have signatureLater : later.read platform signature = some bytes := by
    rw [Machine.read, sameSignature, after_file documented full pem quietly
      (List.mem_cons_of_mem _ List.mem_cons_self), launch_eq_invoke documented full pem]
    exact written named bytes rfl
  have verdict : verified later.store family keyId (sha256 mbedtls data) bytes = some true := by
    rw [verified, storedLater, pairAt_eq_some_iff.mpr storedLater]
    exact congrArg some (laws.verifies (stocked keyId key stored) signed)
  have performedLater : (Command.verify family keyId message signature).perform mbedtls nameDer
      (later.read platform) later.store = (some (.verdict true), later.store) := by
    rw [Command.perform, messageLater, Option.bind_some, signatureLater, Option.bind_some, verdict]
    rfl
  rw [launch_eq_invoke documented full pem, verifies.prints performedLater]
  rfl

end Signatures

section Examples

theorem demoMachine_stocked : Stocked demoMachine.store := by
  have first : Stocked (twoPairs .nistP256) := by
    refine stocked_store (stocked_store nofun ?_) ?_
    · intro key same
      cases same
      exact .ec List.mem_cons_self
    · intro key same
      cases same
      exact .ec List.mem_cons_self
  refine stocked_store first ?_
  intro key same
  cases same
  exact .rsa List.mem_cons_self

/-- Another signature on the terminal, and another key pair. -/
def unrelated : List (List String) :=
  [["app", "rsa", "sign", "--id", "0x20", "--in", "message"],
    ["app", "ecc", "genkey", "--id", "0x12"]]

theorem unrelated_quietly {keyIds : List KeyId} {files : List Nat} (apart : 0x12 ∉ keyIds) :
    Quietly demoPlatform .aarch64 keyIds files unrelated := by
  have signs : Asks demoPlatform .aarch64 ["app", "rsa", "sign", "--id", "0x20", "--in", "message"]
      (.sign .rsa 0x20 "message") "" := ⟨rfl, rfl, rfl⟩
  have provisions : Asks demoPlatform .aarch64 ["app", "ecc", "genkey", "--id", "0x12"]
      (.provision 0x12 false (some (.ec .nistP256))) "" := ⟨rfl, rfl, rfl⟩
  refine List.forall_mem_cons.mpr ⟨⟨fun keyId _ => signs.spares List.not_mem_nil,
    fun file _ => .inl signs.out⟩, List.forall_mem_singleton.mpr ⟨fun keyId member =>
    provisions.spares ?_, fun file _ => .inl provisions.out⟩⟩
  intro targeted
  obtain rfl := List.mem_singleton.mp targeted
  exact apart member

theorem signing_asks : Asks demoPlatform .aarch64 signing (.sign .ecc 0x10 "message") "signature" :=
  ⟨rfl, rfl, rfl⟩

theorem verifying_asks :
    Asks demoPlatform .aarch64 verifying (.verify .ecc 0x10 "message" "signature") "" :=
  ⟨rfl, rfl, rfl⟩

theorem signing_succeeds : (demoMachine.demoLaunch signing).1 = 0 := rfl

theorem signature_verifies_demo :
    let later := (demoMachine.demoLaunch signing).2.after demoPlatform Mbedtls.demo .aarch64
      (fun _ => 0) unrelated
    later.demoLaunch verifying = (0, later.print (asciiBytes "VERIFY OK\n")) :=
  @signature_verifies reference demoPlatform demoMachine Mbedtls.demo Mbedtls.demoNameDer .aarch64
    (fun _ => 0) unrelated Mbedtls.demo_documented Mbedtls.demo_failsOnlyFull
    Mbedtls.demo_pemDocumented reference.keyLaws
    demoMachine_stocked signing verifying .ecc 0x10 "message" "signature" "message" "signature" ""
    signing_asks verifying_asks rfl rfl (by decide) (by decide) signing_succeeds
    (unrelated_quietly (by decide))

end Examples

section Ciphertexts

include documented full pem

/-- What was encrypted into a file is what a later decryption of the file delivers. -/
theorem decryption_recovers (laws : KeyLaws element) (stocked : Stocked machine.store)
    {encrypting decrypting : List String} {keyId : KeyId} {input out ciphertext recovered : String}
    (encrypts : Asks platform target encrypting (.encrypt keyId input) out)
    (decrypts : Asks platform target decrypting (.decrypt keyId ciphertext) recovered)
    (sameCiphertext : platform.resolve ciphertext = platform.resolve out) (named : out ≠ "")
    (succeeds : (machine.launch platform mbedtls target statusCode encrypting).1 = 0)
    (quietly : Quietly platform target [keyId] [platform.resolve out] between) :
    let later := (machine.launch platform mbedtls target statusCode encrypting).2.after platform
      mbedtls target statusCode between
    ∃ plaintext, machine.read platform input = some plaintext ∧
      later.launch platform mbedtls target statusCode decrypting =
        later.deliver platform recovered plaintext := by
  intro later
  rw [launch_eq_invoke documented full pem] at succeeds
  obtain ⟨product, performed, _, written⟩ := encrypts.succeeds succeeds
  obtain ⟨plaintext, present, made⟩ := Option.bind_eq_some_iff.mp performed
  obtain ⟨bytes, fitted, rfl⟩ := Option.map_eq_some_iff.mp made
  obtain ⟨encrypted, fits⟩ := limited_eq_some_iff.mp fitted
  obtain ⟨key, paired, encrypted⟩ := Option.bind_eq_some_iff.mp encrypted
  have stored := pairAt_eq_some_iff.mp paired
  have drawn := stocked keyId key stored
  have storedLater : later.store.objects keyId = some (.pair key) := by
    rw [after_object documented full pem quietly List.mem_cons_self,
      launch_eq_invoke documented full pem, invoke_keeps_object (encrypts.spares List.not_mem_nil)]
    exact stored
  have ciphertextLater : later.read platform ciphertext = some bytes := by
    rw [Machine.read, sameCiphertext, after_file documented full pem quietly List.mem_cons_self,
      launch_eq_invoke documented full pem]
    exact written named bytes rfl
  have short : plaintext.length ≤ 256 := (laws.expands drawn encrypted).trans fits
  have performedLater : (Command.decrypt keyId ciphertext).perform mbedtls nameDer
      (later.read platform) later.store = (some (.bytes plaintext), later.store) := by
    rw [Command.perform, ciphertextLater, Option.bind_some, pairAt_eq_some_iff.mpr storedLater,
      Option.bind_some, laws.decrypts drawn encrypted, limited_some short]
    rfl
  refine ⟨plaintext, present, ?_⟩
  rw [launch_eq_invoke documented full pem, decrypts.delivers performedLater]
  rfl

end Ciphertexts

section Examples

def encrypting : List String :=
  ["app", "rsa", "encrypt", "--id", "0x20", "--in", "message", "--out", "ciphertext"]

def decrypting : List String :=
  ["app", "rsa", "decrypt", "--id", "0x20", "--in", "ciphertext", "--out", "recovered"]

theorem encrypting_asks :
    Asks demoPlatform .aarch64 encrypting (.encrypt 0x20 "message") "ciphertext" :=
  ⟨rfl, rfl, rfl⟩

theorem decrypting_asks :
    Asks demoPlatform .aarch64 decrypting (.decrypt 0x20 "ciphertext") "recovered" :=
  ⟨rfl, rfl, rfl⟩

theorem encrypting_succeeds : (demoMachine.demoLaunch encrypting).1 = 0 := by decide +kernel

theorem decryption_recovers_demo :
    let later := (demoMachine.demoLaunch encrypting).2.after demoPlatform Mbedtls.demo .aarch64
      (fun _ => 0) unrelated
    ∃ plaintext, demoMachine.read demoPlatform "message" = some plaintext ∧
      later.demoLaunch decrypting = later.deliver demoPlatform "recovered" plaintext :=
  @decryption_recovers reference demoPlatform demoMachine Mbedtls.demo Mbedtls.demoNameDer .aarch64
    (fun _ => 0) unrelated Mbedtls.demo_documented Mbedtls.demo_failsOnlyFull
    Mbedtls.demo_pemDocumented reference.keyLaws
    demoMachine_stocked encrypting decrypting 0x20 "message" "ciphertext" "ciphertext" "recovered"
    encrypting_asks decrypting_asks rfl (by decide) encrypting_succeeds
    (unrelated_quietly (by decide))

end Examples

/-! ## Key agreement through files -/

section Agreement

include documented full pem

theorem provision_publishes (laws : CurveLaws element) {argv : List String} {keyId : KeyId}
    {force : Bool} {out : String}
    (asks : Asks platform target argv (.provision keyId force (some (.ec .nistP256))) out)
    (writes : out ≠ "" ∧ platform.writable out = true) :
    (machine.launch platform mbedtls target statusCode argv).1 = 0 ∧
      Published platform (machine.launch platform mbedtls target statusCode argv).2 keyId out := by
  generalize cleared : (if force then machine.store.store keyId none else machine.store) = store
  have stored : (provisioned store keyId (.ec .nistP256)).objects keyId =
      some (.pair (element.newKey .ecNistP 256 store.draws)) := State.store_objects _ _ _
  have exported : publicKeyOf (provisioned store keyId (.ec .nistP256)) 256 keyId =
      some (element.publicKeyDer (element.newKey .ecNistP 256 store.draws)) := by
    rw [publicKeyOf, stored]
    exact limited_some (laws.short List.mem_cons_self)
  have performed : (Command.provision keyId force (some (.ec .nistP256))).perform mbedtls nameDer
      (machine.read platform) machine.store =
        (some (.bytes (element.publicKeyDer (element.newKey .ecNistP 256 store.draws))),
          provisioned store keyId (.ec .nistP256)) := by
    simp only [Command.perform, cleared, Kind.exportRoom, exported, Option.map_some]
  rw [launch_eq_invoke documented full pem, asks.writes writes.1 writes.2 performed]
  exact ⟨rfl, store.draws, stored, Function.update_self _ _ _⟩

theorem published_after {keyIds : List KeyId} {files : List Nat} {keyId : KeyId} {path : String}
    (quietly : Quietly platform target keyIds files between) (key : keyId ∈ keyIds)
    (file : platform.resolve path ∈ files) (published : Published platform machine keyId path) :
    Published platform (machine.after platform mbedtls target statusCode between) keyId path := by
  obtain ⟨draw, stored, exported⟩ := published
  refine ⟨draw, ?_, ?_⟩
  · rw [after_object documented full pem quietly key, stored]
  · rw [Machine.read, after_file documented full pem quietly file]
    exact exported

theorem published_launch {keyId : KeyId} {path : String} {argv : List String}
    (spares : Spares target keyId argv) (leaves : Leaves platform (platform.resolve path) argv)
    (published : Published platform machine keyId path) :
    Published platform (machine.launch platform mbedtls target statusCode argv).2 keyId path := by
  obtain ⟨draw, stored, exported⟩ := published
  rw [launch_eq_invoke documented full pem]
  refine ⟨draw, ?_, ?_⟩
  · rw [invoke_keeps_object spares, stored]
  · rw [Machine.read, invoke_keeps_file leaves]
    exact exported

/-- One side derives the secret it shares with the owner of the key in the peer's file. -/
theorem exchange_writes (laws : CurveLaws element) {argv : List String} {keyId : KeyId}
    {own other : Nat} {peer out : String} (asks : Asks platform target argv (.agree keyId peer) out)
    (writes : out ≠ "" ∧ platform.writable out = true) (unscratched : keyId ≠ 0xEF009E01)
    (stored : machine.store.objects keyId = some (.pair (element.newKey .ecNistP 256 own)))
    (exported : machine.read platform peer =
      some (element.publicKeyDer (element.newKey .ecNistP 256 other))) :
    ∃ secret : Bytes, element.sharedX (element.newKey .ecNistP 256 own)
        (element.publicKeyDer (element.newKey .ecNistP 256 other)) = some secret ∧
      secret.length = 32 ∧
      (machine.launch platform mbedtls target statusCode argv).1 = 0 ∧
      (machine.launch platform mbedtls target statusCode argv).2.files (platform.resolve out) =
        some secret := by
  have supported : 256 ∈ nistSizes := List.mem_cons_self
  obtain ⟨secret, length, shared, _⟩ := laws.agreed own other supported
  have named : element.derCurveBits (element.publicKeyDer (element.newKey .ecNistP 256 other)) =
      some 256 := laws.named supported
  have imported : (withPeer machine.store (element.publicKeyDer
      (element.newKey .ecNistP 256 other))).pairAt keyId = some (element.newKey .ecNistP 256 own) :=
    pairAt_eq_some_iff.mpr ((State.store_other _ _ unscratched).trans stored)
  have performed : (Command.agree keyId peer).perform mbedtls nameDer (machine.read platform)
      machine.store = (some (.bytes secret), (exchanged machine.store keyId
        (element.publicKeyDer (element.newKey .ecNistP 256 other))).2) := by
    have derived : (exchanged machine.store keyId
        (element.publicKeyDer (element.newKey .ecNistP 256 other))).1 = some secret := by
      rw [exchanged, stored, if_pos ⟨rfl, named⟩, imported, Option.bind_some, shared,
        limited_some (by rw [length]; decide)]
    rw [Command.perform, exported]
    simp only [derived]
    rfl
  refine ⟨secret, shared, length, ?_⟩
  rw [launch_eq_invoke documented full pem, asks.writes writes.1 writes.2 performed]
  exact ⟨rfl, Function.update_self _ _ _⟩

/-- Two parties that provision keys and derive with each other's files get one secret. -/
theorem exchange_agrees (laws : CurveLaws element) {a b : KeyId}
    {provisionA provisionB exchangeA exchangeB : List String}
    {publishedA publishedB peerA peerB secretA secretB : String} {first second third : List (List String)}
    (partyA : Party platform target provisionA exchangeA a publishedA peerB secretA)
    (partyB : Party platform target provisionB exchangeB b publishedB peerA secretB) (apart : a ≠ b)
    (crossed : platform.resolve peerA = platform.resolve publishedA ∧
      platform.resolve peerB = platform.resolve publishedB)
    (distinct : ([publishedA, publishedB, secretA, secretB].map platform.resolve).Nodup)
    (quietly : Quietly platform target [a] [platform.resolve publishedA] first ∧
      Quietly platform target [a, b] ([publishedA, publishedB].map platform.resolve) second ∧
      Quietly platform target [b] ([publishedA, secretA].map platform.resolve) third) :
    let madeA := machine.launch platform mbedtls target statusCode provisionA
    let madeB := (madeA.2.after platform mbedtls target statusCode first).launch platform mbedtls
      target statusCode provisionB
    let derivedA := (madeB.2.after platform mbedtls target statusCode second).launch platform mbedtls
      target statusCode exchangeA
    let derivedB := (derivedA.2.after platform mbedtls target statusCode third).launch platform
      mbedtls target statusCode exchangeB
    (madeA.1 = 0 ∧ madeB.1 = 0 ∧ derivedA.1 = 0 ∧ derivedB.1 = 0) ∧ ∃ secret : Bytes,
      secret.length = 32 ∧ derivedB.2.files (platform.resolve secretA) = some secret ∧
      derivedB.2.files (platform.resolve secretB) = some secret := by
  intro madeA madeB derivedA derivedB
  obtain ⟨forceA, provisionsA⟩ := partyA.provisions
  obtain ⟨forceB, provisionsB⟩ := partyB.provisions
  obtain ⟨quietFirst, quietSecond, quietThird⟩ := quietly
  simp only [List.map_cons, List.map_nil, List.nodup_cons, List.mem_cons, List.not_mem_nil, or_false,
    not_or] at distinct
  obtain ⟨⟨publicsApart, publicASecretA, publicASecretB⟩, ⟨publicBSecretA, publicBSecretB⟩,
    secretsApart, _⟩ := distinct
  -- both public keys are published before anything is derived
  obtain ⟨succeedsA, publishedFirst⟩ : madeA.1 = 0 ∧ Published platform madeA.2 a publishedA :=
    provision_publishes documented full pem laws provisionsA partyA.publishes
  have keptFirst : Published platform (madeA.2.after platform mbedtls target statusCode first) a
      publishedA :=
    published_after documented full pem quietFirst List.mem_cons_self List.mem_cons_self publishedFirst
  have bothA : Published platform madeB.2 a publishedA :=
    published_launch documented full pem (provisionsB.spares (by simpa [Command.targets] using apart))
      (provisionsB.leaves (Ne.symm publicsApart)) keptFirst
  obtain ⟨succeedsB, bothB⟩ : madeB.1 = 0 ∧ Published platform madeB.2 b publishedB :=
    provision_publishes documented full pem laws provisionsB partyB.publishes
  obtain ⟨drawA, storedA, exportedA⟩ : Published platform
      (madeB.2.after platform mbedtls target statusCode second) a publishedA :=
    published_after documented full pem quietSecond List.mem_cons_self List.mem_cons_self bothA
  obtain ⟨drawB, storedB, exportedB⟩ : Published platform
      (madeB.2.after platform mbedtls target statusCode second) b publishedB :=
    published_after documented full pem quietSecond (List.mem_cons_of_mem _ List.mem_cons_self)
      (List.mem_cons_of_mem _ List.mem_cons_self) bothB
  -- the first side derives
  have unscratched : ∀ {keyId : KeyId}, keyId ∉ [0xEF009E01, 0xEF009E02] → keyId ≠ 0xEF009E01 :=
    fun outside same => outside (by rw [same]; exact List.mem_cons_self)
  rw [Machine.read, ← crossed.2] at exportedB
  obtain ⟨secret, sharedA, length, zeroA, filedA⟩ := exchange_writes documented full pem laws
    partyA.exchanges partyA.writes (unscratched partyA.unscratched) storedA exportedB
  -- its secret, its public key and the other key are still there when the second side derives
  have laterB : derivedA.2.store.objects b = some (.pair (element.newKey .ecNistP 256 drawB)) := by
    change (Machine.launch _ _ _ _ _ _).2.store.objects b = _
    rw [launch_eq_invoke documented full pem,
      invoke_keeps_object (partyA.exchanges.spares partyB.unscratched), storedB]
  have laterA : derivedA.2.files (platform.resolve publishedA) =
      some (element.publicKeyDer (element.newKey .ecNistP 256 drawA)) := by
    change (Machine.launch _ _ _ _ _ _).2.files _ = _
    rw [launch_eq_invoke documented full pem,
      invoke_keeps_file (partyA.exchanges.leaves (Ne.symm publicASecretA))]
    exact exportedA
  have readyB : (derivedA.2.after platform mbedtls target statusCode third).store.objects b = _ :=
    (after_object documented full pem quietThird List.mem_cons_self).trans laterB
  have peerKey : (derivedA.2.after platform mbedtls target statusCode third).read platform peerA =
      some (element.publicKeyDer (element.newKey .ecNistP 256 drawA)) := by
    rw [Machine.read, crossed.1, after_file documented full pem quietThird List.mem_cons_self, laterA]
  obtain ⟨other, sharedB, _, zeroB, filedB⟩ := exchange_writes documented full pem laws
    partyB.exchanges partyB.writes (unscratched partyB.unscratched) readyB peerKey
  have same : secret = other := by
    obtain ⟨common, _, left, right⟩ := laws.agreed drawA drawB (List.mem_cons_self : 256 ∈ nistSizes)
    rw [sharedA] at left
    rw [sharedB] at right
    exact (Option.some.inj left).trans (Option.some.inj right).symm
  refine ⟨⟨succeedsA, succeedsB, zeroA, zeroB⟩, secret, length, ?_, ?_⟩
  · change (Machine.launch _ _ _ _ _ _).2.files _ = _
    rw [launch_eq_invoke documented full pem,
      invoke_keeps_file (partyB.exchanges.leaves (Ne.symm secretsApart)),
      after_file documented full pem quietThird (List.mem_cons_of_mem _ List.mem_cons_self)]
    exact filedA
  · rw [same]
    exact filedB

end Agreement

section Examples

def provisionA : List String :=
  ["app", "ecc", "genkey", "--id", "0x10", "--force", "--out", "publicA"]

def provisionB : List String := ["app", "ecc", "genkey", "--id", "0x30", "--out", "publicB"]

def exchangeA : List String :=
  ["app", "ecc", "ecdh", "--id", "0x10", "--peer", "publicB", "--out", "secretA"]

def exchangeB : List String :=
  ["app", "ecc", "ecdh", "--id", "0x30", "--peer", "publicA", "--out", "secretB"]

theorem partyA :
    Party demoPlatform .aarch64 provisionA exchangeA 0x10 "publicA" "publicB" "secretA" where
  provisions := ⟨true, rfl, rfl, rfl⟩
  exchanges := ⟨rfl, rfl, rfl⟩
  publishes := ⟨by decide, rfl⟩
  writes := ⟨by decide, rfl⟩
  unscratched := by decide

theorem partyB :
    Party demoPlatform .aarch64 provisionB exchangeB 0x30 "publicB" "publicA" "secretB" where
  provisions := ⟨false, rfl, rfl, rfl⟩
  exchanges := ⟨rfl, rfl, rfl⟩
  publishes := ⟨by decide, rfl⟩
  writes := ⟨by decide, rfl⟩
  unscratched := by decide

theorem exchange_agrees_demo :
    let madeA := demoMachine.launch demoPlatform Mbedtls.demo .aarch64 (fun _ => 0) provisionA
    let madeB := (madeA.2.after demoPlatform Mbedtls.demo .aarch64 (fun _ => 0) unrelated).launch
      demoPlatform Mbedtls.demo .aarch64 (fun _ => 0) provisionB
    let derivedA := (madeB.2.after demoPlatform Mbedtls.demo .aarch64 (fun _ => 0) unrelated).launch
      demoPlatform Mbedtls.demo .aarch64 (fun _ => 0) exchangeA
    let derivedB := (derivedA.2.after demoPlatform Mbedtls.demo .aarch64 (fun _ => 0) unrelated).launch
      demoPlatform Mbedtls.demo .aarch64 (fun _ => 0) exchangeB
    (madeA.1 = 0 ∧ madeB.1 = 0 ∧ derivedA.1 = 0 ∧ derivedB.1 = 0) ∧ ∃ secret : Bytes,
      secret.length = 32 ∧ derivedB.2.files (demoPlatform.resolve "secretA") = some secret ∧
      derivedB.2.files (demoPlatform.resolve "secretB") = some secret :=
  @exchange_agrees reference demoPlatform demoMachine Mbedtls.demo Mbedtls.demoNameDer .aarch64
    (fun _ => 0) Mbedtls.demo_documented Mbedtls.demo_failsOnlyFull Mbedtls.demo_pemDocumented
    reference.curveLaws 0x10 0x30 provisionA provisionB exchangeA exchangeB "publicA" "publicB" "publicA" "publicB" "secretA"
    "secretB" unrelated unrelated unrelated partyA partyB (by decide) ⟨rfl, rfl⟩ (by decide)
    ⟨unrelated_quietly (by decide), unrelated_quietly (by decide), unrelated_quietly (by decide)⟩

end Examples

/-! ## Requests -/

/-- What a strict reader and the element say about the text of a request. -/
structure Certifies (element : SecureElement) (mbedtls : Mbedtls) (family : Family)
    (key : element.Key) (subject text der info signature : Bytes) (digest : Vector UInt8 32) :
    Prop where
  decoded : readPem pemHeader pemFooter text = some der
  request : readCertificationRequest der = some ⟨info, signatureAlgorithm family.isEc, 0, signature⟩
  content : readCertificationRequestInfo info = some ⟨[0], subject, element.publicKeyDer key, []⟩
  hashed : mbedtls.sha256Ret info = some digest
  verifies : element.verify key family.algorithm digest.toList signature = true

section Requests

include documented full pem

/-- A request in a file reads back as one for the stored key, signed by that key. -/
theorem request_certifies (laws : KeyLaws element) (stocked : Stocked machine.store)
    {argv : List String} {family : Family} {keyId : KeyId} {subject out : String}
    (requests : Asks platform target argv (.request family keyId subject) out) (named : out ≠ "")
    (subjects : ∀ names, mbedtls.x509StringToNames (cStr subject) = some names →
      IsElement sequenceTag (nameDer names))
    (succeeds : (machine.launch platform mbedtls target statusCode argv).1 = 0) :
    ∃ key names text der info signature digest, machine.store.objects keyId = some (.pair key) ∧
      mbedtls.x509StringToNames (cStr subject) = some names ∧
      (machine.launch platform mbedtls target statusCode argv).2.read platform out =
        some (text ++ [0]) ∧
      Certifies element mbedtls family key (nameDer names) text der info signature digest := by
  rw [launch_eq_invoke documented full pem] at succeeds ⊢
  obtain ⟨product, performed, _, written⟩ := requests.succeeds succeeds
  obtain ⟨bytes, made, rfl⟩ := Option.map_eq_some_iff.mp performed
  obtain ⟨spki, exported, made⟩ := Option.bind_eq_some_iff.mp made
  obtain ⟨names, parsed, made⟩ := Option.bind_eq_some_iff.mp made
  obtain ⟨info, sized, made⟩ := Option.bind_eq_some_iff.mp made
  obtain ⟨digest, hashed, made⟩ := Option.bind_eq_some_iff.mp made
  obtain ⟨signature, fitted, made⟩ := Option.bind_eq_some_iff.mp made
  obtain ⟨same, bound⟩ := limited_eq_some_iff.mp sized
  obtain rfl := Option.some.inj same
  obtain ⟨signed, short⟩ := limited_eq_some_iff.mp fitted
  obtain ⟨key, paired, signed⟩ := Option.bind_eq_some_iff.mp signed
  have stored := pairAt_eq_some_iff.mp paired
  have drawn := stocked keyId key stored
  have same : element.publicKeyDer key = spki := by
    have found := (limited_eq_some_iff.mp exported).1
    rw [stored] at found
    exact Option.some.inj found
  refine ⟨key, names, pemText pemHeader pemFooter (requestEncoding (infoEncoding (nameDer names) spki)
    (signatureAlgorithm family.isEc) signature), requestEncoding (infoEncoding (nameDer names) spki)
    (signatureAlgorithm family.isEc) signature, _, signature, digest, stored, parsed, ?_,
    ⟨?_, ?_, ?_, hashed, ?_⟩⟩
  · rw [Machine.read, written named bytes rfl]
    exact made.symm
  · have hyphen : asciiBytes pemFooter = 45 :: (asciiBytes pemFooter).drop 1 := by decide +kernel
    exact readPem_pemText hyphen
  · refine readCertificationRequest_encoding (infoEncoding_isElement bound)
      (signatureAlgorithm_read family.isEc) ?_
    exact (csrEncoding_length_le bound (short.trans (by decide))).trans_lt
      ((by omega : _ < 8192).trans (by decide))
  · rw [same]
    refine readCertificationRequestInfo_encoding (subjects names parsed) ?_
      (bound.trans_lt (by decide))
    rw [← same]
    exact laws.exports drawn
  · exact laws.verifies drawn signed

end Requests

section Examples

def requesting : List String :=
  ["app", "ecc", "csr", "--id", "0x10", "--subject", "CN=SE051-Demo", "--out", "request"]

theorem requesting_asks :
    Asks demoPlatform .aarch64 requesting (.request .ecc 0x10 "CN=SE051-Demo") "request" :=
  ⟨rfl, rfl, rfl⟩

/-- The request information with that subject and the key under 0x10. -/
def requestingInfo : Bytes := infoEncoding Mbedtls.demoName (ReferenceKey.ecSpki ⟨.ecNistP, 256, 0⟩)

theorem requesting_parses :
    Mbedtls.demo.x509StringToNames (cStr "CN=SE051-Demo") = some Mbedtls.demoName := by
  have whole : cStr "CN=SE051-Demo" = Mbedtls.demoSubject := by decide +kernel
  rw [whole]
  exact Mbedtls.demo_parses_demoSubject

theorem requesting_made : ∃ text,
    requested Mbedtls.demo Mbedtls.demoNameDer demoMachine.store .ecc 0x10 "CN=SE051-Demo" =
      some text := by
  have exported : publicKeyOf demoMachine.store 256 0x10 =
      some (ReferenceKey.ecSpki ⟨.ecNistP, 256, 0⟩) :=
    limited_some (reference.curveLaws.short List.mem_cons_self)
  obtain ⟨names, parsed, named⟩ : ∃ names,
      Mbedtls.demo.x509StringToNames (cStr "CN=SE051-Demo") = some names ∧
        Mbedtls.demoNameDer names = Mbedtls.demoName := ⟨_, requesting_parses, rfl⟩
  have info : infoEncoding (Mbedtls.demoNameDer names) (ReferenceKey.ecSpki ⟨.ecNistP, 256, 0⟩) =
      requestingInfo := by
    rw [named, requestingInfo]
  have fits : limited 4096 (some requestingInfo) = some requestingInfo :=
    limited_some (by decide +kernel)
  have made : signed demoMachine.store .ecc 0x10 (Sha256.hash requestingInfo).toList =
      some (ReferenceKey.signature ⟨.ecNistP, 256, 0⟩) := by
    have paired : demoMachine.store.pairAt 0x10 = some (reference.newKey .ecNistP 256 0) := rfl
    rw [signed, paired, Option.bind_some, Family.algorithm, reference.sign_ec Vector.length_toList]
    rfl
  simp only [requested, Family.exportRoom, exported, parsed, Option.bind_eq_bind,
    Option.bind_some, info, fits, Mbedtls.demo_sha256Ret, made]
  exact ⟨_, rfl⟩

theorem requesting_succeeds : (demoMachine.demoLaunch requesting).1 = 0 := by
  obtain ⟨text, made⟩ := requesting_made
  rw [Machine.demoLaunch, launch_eq_invoke Mbedtls.demo_documented Mbedtls.demo_failsOnlyFull
    Mbedtls.demo_pemDocumented, requesting_asks.invoke, Command.perform, made]
  rfl

theorem request_certifies_demo :
    ∃ key names text der info signature digest, demoMachine.store.objects 0x10 = some (.pair key) ∧
      Mbedtls.demo.x509StringToNames (cStr "CN=SE051-Demo") = some names ∧
      (demoMachine.demoLaunch requesting).2.read demoPlatform "request" = some (text ++ [0]) ∧
      Certifies reference Mbedtls.demo .ecc key names text der info signature digest := by
  refine @request_certifies reference demoPlatform demoMachine Mbedtls.demo Mbedtls.demoNameDer .aarch64
    (fun _ => 0) Mbedtls.demo_documented Mbedtls.demo_failsOnlyFull Mbedtls.demo_pemDocumented
    reference.keyLaws demoMachine_stocked requesting .ecc 0x10 "CN=SE051-Demo" "request" requesting_asks (by decide) ?_
    requesting_succeeds
  intro names parsed
  cases parsed
  exact ⟨_, by decide, rfl⟩

end Examples

/-! ## Files and terminal -/

theorem hexLine_octets (data : Bytes) : hexLine data = data.flatMap hexOctet ++ [10] := by
  have digits : ∀ value < 256,
      asciiBytes (hexText 2 value) = [hexDigit (value / 16), hexDigit (value % 16)] := by
    decide +kernel
  rw [hexLine]
  refine congrArg₂ _ (List.flatMap_congr fun octet _ => ?_) rfl
  exact digits octet.toNat octet.toNat_lt

/-- A command whose result is neither a text nor a verdict. -/
def Command.Binary : Command → Prop
  | .verify _ _ _ _ | .request _ _ _ => False
  | _ => True

theorem perform_binary {command : Command} {read : String → Option Bytes} {store : State element}
    (binary : command.Binary) :
    (command.perform mbedtls nameDer read store).1 = none ∨
      ∃ data, (command.perform mbedtls nameDer read store).1 = some (.bytes data) := by
  have mapped : ∀ result : Option Bytes, result.map Product.bytes = none ∨
      ∃ data, result.map Product.bytes = some (.bytes data) := by
    intro result
    cases result with
    | none => exact .inl rfl
    | some data => exact .inr ⟨data, rfl⟩
  have bound : ∀ (source : Option Bytes) (result : Bytes → Option Bytes),
      (source.bind fun data => (result data).map Product.bytes) = none ∨
        ∃ data, (source.bind fun data => (result data).map Product.bytes) = some (.bytes data) := by
    intro source result
    cases source with
    | none => exact .inl rfl
    | some data => exact mapped (result data)
  cases command with
  | random count => exact .inr ⟨_, rfl⟩
  | provision keyId force kind =>
      cases kind with
      | none => exact .inl rfl
      | some kind => exact mapped _
  | publicKey family keyId => exact mapped _
  | sign family keyId input => exact bound _ _
  | encrypt keyId input => exact bound _ _
  | decrypt keyId input => exact bound _ _
  | agree keyId peer =>
      rw [Command.perform]
      split
      · exact .inl rfl
      · exact mapped _
  | verify family keyId input signature => exact binary.elim
  | request family keyId subject => exact binary.elim

section Outputs

include documented full pem

/-- With and without an output file a command has the same result, and what the terminal shows
reads back as what the file gets. Only a file that cannot be opened makes a difference. -/
theorem outputs_agree {filing showing : List String} {command : Command} {out : String}
    (files : Asks platform target filing command out) (shows : Asks platform target showing command "")
    (binary : command.Binary) :
    ∃ store : State element,
      machine.launch platform mbedtls target statusCode filing = (1, machine.withStore store) ∧
        machine.launch platform mbedtls target statusCode showing = (1, machine.withStore store) ∨
      ∃ data line, readHexLine line = some data ∧
        machine.launch platform mbedtls target statusCode filing =
          (machine.withStore store).deliver platform out data ∧
        machine.launch platform mbedtls target statusCode showing =
          (0, (machine.withStore store).print line) := by
  rw [launch_eq_invoke documented full pem, launch_eq_invoke documented full pem]
  cases performed : command.perform mbedtls nameDer (machine.read platform) machine.store with
  | mk result store =>
      refine ⟨store, ?_⟩
      rcases @perform_binary _ mbedtls nameDer command (machine.read platform) machine.store binary with
        refused | ⟨data, produced⟩
      · rw [performed] at refused
        obtain rfl : result = none := refused
        refine .inl ⟨?_, ?_⟩
        · rw [files.invoke, performed]
          rfl
        · rw [shows.invoke, performed]
          rfl
      · rw [performed] at produced
        obtain rfl : result = some (.bytes data) := produced
        refine .inr ⟨data, hexLine data, ?_, files.delivers performed, ?_⟩
        · rw [hexLine_octets, readHexLine_octets]
        · rw [shows.invoke, performed]
          rfl

end Outputs

section Examples

theorem outputs_agree_demo : ∃ store : State reference,
    demoMachine.demoLaunch signing = (1, demoMachine.withStore store) ∧
      demoMachine.demoLaunch ["app", "ecc", "sign", "--id", "0x10", "--in", "message"] =
        (1, demoMachine.withStore store) ∨
    ∃ data line, readHexLine line = some data ∧
      demoMachine.demoLaunch signing =
        (demoMachine.withStore store).deliver demoPlatform "signature" data ∧
      demoMachine.demoLaunch ["app", "ecc", "sign", "--id", "0x10", "--in", "message"] =
        (0, (demoMachine.withStore store).print line) :=
  @outputs_agree reference demoPlatform demoMachine Mbedtls.demo Mbedtls.demoNameDer .aarch64
    (fun _ => 0) Mbedtls.demo_documented Mbedtls.demo_failsOnlyFull Mbedtls.demo_pemDocumented signing
    ["app", "ecc", "sign", "--id", "0x10", "--in", "message"] (.sign .ecc 0x10 "message") "signature"
    signing_asks ⟨rfl, rfl, rfl⟩ trivial

end Examples

end RoundTrips

end Se05x.CppApp
