import Se05x.App.ScriptProperties
import Se05x.Sss.KeyLaws

/-!
# A complete run

On an element whose fresh keys do what such keys are for, every run reaches its end, whatever
the key store held before, and this is what it leaves behind.
-/

set_option autoImplicit false

namespace Se05x.App

open Der Interaction SecureElement
open CppApp (Machine Platform limited_some)

/-- A signature of the key verifies and fits the room for it. -/
def SignsWithin (element : SecureElement) (key : element.Key) (algorithm : Algorithm) (room : Nat) : Prop :=
  ∀ digest : Bytes, digest.length = 32 → ∃ signature,
    element.sign key algorithm digest = some signature ∧ signature.length ≤ room ∧
      element.verify key algorithm digest signature = true

/-- What the demos ask of a new key pair. -/
structure Supports (element : SecureElement) : Prop where
  digests : ∀ message, (element.digest .sha256 message).length = 32
  ecExports : ∀ draw, (element.publicKeyDer (element.newKey .ecNistP 256 draw)).length ≤ 200
  ecSigns : ∀ draw, SignsWithin element (element.newKey .ecNistP 256 draw) .ecdsaSha256 128
  agrees : ∀ left right, ∃ secret : Bytes, secret.length ≤ 32 ∧
    element.sharedX (element.newKey .ecNistP 256 left)
      (element.publicKeyDer (element.newKey .ecNistP 256 right)) = some secret
  rsaExports : ∀ draw, (element.publicKeyDer (element.newKey .rsaCrt 2048 draw)).length ≤ 512
  rsaSigns : ∀ draw, SignsWithin element (element.newKey .rsaCrt 2048 draw) .rsassaPkcs1V15Sha256 256
  recovers : ∀ draw, ∀ plaintext : Bytes, plaintext.length ≤ 190 → ∃ ciphertext : Bytes,
    ciphertext.length ≤ 256 ∧
    element.encrypt (element.newKey .rsaCrt 2048 draw) .rsaesPkcs1OaepSha256 plaintext =
      some ciphertext ∧
    element.decrypt (element.newKey .rsaCrt 2048 draw) .rsaesPkcs1OaepSha256 ciphertext =
      some plaintext

section Scenes

variable {element : SecureElement} {platform : Platform} {machine : Machine element}
  {state : State element} {mbedtls : Mbedtls} {name : Bytes}

theorem perform_cons {scene : Scene element} {scenes : List (Scene element)} {after : Machine element}
    (played : scene machine = (true, after)) :
    perform (scene :: scenes) machine = perform scenes after := by
  rw [perform, played, if_pos rfl]

theorem onStore_played {scene : State element → Bool × State element}
    (played : scene machine.store = (true, state)) :
    Scene.onStore scene machine = (true, machine.withStore state) := by
  rw [Scene.onStore, played]

theorem checking_played {holds : State element → Bool} (held : holds machine.store = true) :
    Scene.checking holds machine = (true, machine) := by
  rw [Scene.checking, held]

theorem pairAt_some {keyId : KeyId} {key : element.Key}
    (stored : state.objects keyId = some (.pair key)) : state.pairAt keyId = some key := by
  rw [State.pairAt, stored]
  rfl

theorem signedAndVerified_of_signs {keyId : KeyId} {key : element.Key} {algorithm : Algorithm}
    {message : Bytes} {room : Nat} (supports : Supports element)
    (signs : SignsWithin element key algorithm room)
    (stored : state.objects keyId = some (.pair key)) :
    signedAndVerified state keyId message algorithm room = true := by
  have digest := supports.digests message
  obtain ⟨signature, signed, fits, verified⟩ := signs _ digest
  rw [signedAndVerified, limited_some (Nat.le_of_eq digest), pairAt_some stored]
  simp only [Option.bind_eq_bind, Option.bind_some, signed, limited_some fits, Option.pure_def,
    verified, Option.getD_some]

theorem aliceGenerated_of_supports (supports : Supports element) :
    aliceGenerated state = (true, generated state demoKeyEcAlice .ecNistP 256) := by
  have exports : element.exported ((generated state demoKeyEcAlice .ecNistP 256).objects
      demoKeyEcAlice) = some (element.publicKeyDer (element.newKey .ecNistP 256 state.draws)) := by
    rw [generated_objects]
    rfl
  rw [aliceGenerated, exports, limited_some (supports.ecExports _)]
  rfl

theorem agreedWithBob_of_supports {draw : Nat} {secret : Bytes} (fits : secret.length ≤ 32)
    (agreed : element.sharedX (element.newKey .ecNistP 256 draw)
      (element.publicKeyDer (element.newKey .ecNistP 256 state.draws)) = some secret)
    (alice : state.objects demoKeyEcAlice = some (.pair (element.newKey .ecNistP 256 draw))) :
    agreedWithBob state = (true, (generated state demoKeyEcBob .ecNistP 256).store demoKeyEcShared
      (some (.secret secret))) := by
  have found : (state.objects demoKeyEcAlice).isSome = true := by
    rw [alice]
    rfl
  rw [agreedWithBob, if_pos found, pairAt_some alice]
  simp only [Option.bind_some, agreed, limited_some fits, store_store]

theorem recovers_of_supports {draw : Nat} (supports : Supports element)
    (stored : state.objects demoKeyRsa = some (.pair (element.newKey .rsaCrt 2048 draw))) :
    recovers state = true := by
  obtain ⟨ciphertext, fits, encrypted, decrypted⟩ :=
    supports.recovers draw (asciiBytes "Hello from SE051!") (by decide)
  have short : (asciiBytes "Hello from SE051!").length ≤ 256 := by decide
  rw [recovers, pairAt_some stored]
  simp only [Option.bind_eq_bind, Option.bind_some, encrypted, limited_some fits, decrypted,
    limited_some short, Option.pure_def, Option.getD_some, beq_self_eq_true]

/-- The request and its signature, for a stored key pair that signs. -/
theorem requestFiles_of_signs {csrDemo : CsrDemo} {isEc : Bool} {key : element.Key}
    (hashes : ∀ data, (mbedtls.sha256Ret data).isSome)
    (signs : SignsWithin element key csrDemo.algorithm csrDemo.sigSize)
    (exports : (element.publicKeyDer key).length ≤ csrDemo.spkiSize)
    (stored : state.objects csrDemo.keyId = some (.pair key)) :
    ∃ digest signature, mbedtls.sha256Ret (infoEncoding name (element.publicKeyDer key)) = some digest ∧
      element.verify key csrDemo.algorithm digest.toList signature = true ∧
      requestFiles state mbedtls name csrDemo isEc =
        some (completeFiles csrDemo isEc name (element.publicKeyDer key) signature) := by
  obtain ⟨digest, hashed⟩ := Option.isSome_iff_exists.mp
    (hashes (infoEncoding name (element.publicKeyDer key)))
  obtain ⟨signature, signed, fits, verified⟩ := signs digest.toList Vector.length_toList
  refine ⟨digest, signature, hashed, verified, ?_⟩
  have exported : element.exported (state.objects csrDemo.keyId) =
      some (element.publicKeyDer key) := by
    rw [stored]
    rfl
  rw [requestFiles, exported, limited_some exports, pairAt_some stored]
  simp only [Option.bind_eq_bind, Option.bind_some, hashed, signed, limited_some fits, Option.pure_def]

theorem requested_made {csrDemo : CsrDemo} {isEc : Bool} {files : List (String × Bytes)}
    (made : requestFiles state mbedtls name csrDemo isEc = some files) :
    requested platform mbedtls name csrDemo isEc (machine.withStore state) =
      (true, files.foldl (save platform) (machine.withStore state)) := by
  have found : requestFiles (machine.withStore state).store mbedtls name csrDemo isEc =
      some files := made
  rw [requested, found]

theorem foldl_save_output {files : List (String × Bytes)} :
    (files.foldl (save platform) machine).output = machine.output := by
  induction files generalizing machine with
  | nil => rfl
  | cons file files ih =>
      rw [List.foldl_cons, ih, save]
      split <;> rfl

theorem foldl_save_withStore {files : List (String × Bytes)} :
    files.foldl (save platform) (machine.withStore state) =
      (files.foldl (save platform) machine).withStore state := by
  induction files generalizing machine with
  | nil => rfl
  | cons file files ih =>
      have step : save platform (machine.withStore state) file =
          (save platform machine file).withStore state := by
        rw [save, save]
        split <;> rfl
      rw [List.foldl_cons, step, ih, List.foldl_cons]

theorem foldl_save_other {files : List (String × Bytes)} {other : Nat}
    (apart : other ∉ files.map fun file => platform.resolve file.1) :
    (files.foldl (save platform) machine).files other = machine.files other := by
  induction files generalizing machine with
  | nil => rfl
  | cons file files ih =>
      rw [List.map_cons, List.mem_cons, not_or] at apart
      rw [List.foldl_cons, ih apart.2, save]
      split
      · exact Function.update_of_ne apart.1 _ _
      · rfl

/-- In files that can be opened and are not one another's, everything saved is found again. -/
theorem foldl_save_read {files : List (String × Bytes)}
    (writable : ∀ file ∈ files, platform.writable file.1 = true)
    (apart : (files.map fun file => platform.resolve file.1).Nodup) :
    ∀ file ∈ files, (files.foldl (save platform) machine).read platform file.1 = some file.2 := by
  induction files generalizing machine with
  | nil => exact List.forall_mem_nil _
  | cons file files ih =>
      obtain ⟨opens, others⟩ := List.forall_mem_cons.mp writable
      rw [List.map_cons, List.nodup_cons] at apart
      rw [List.foldl_cons]
      refine List.forall_mem_cons.mpr ⟨?_, ih others apart.2⟩
      rw [Machine.read, foldl_save_other apart.1, save, if_pos opens]
      exact Function.update_self _ _ _

end Scenes

/-- The files of the two requests. -/
def requestPaths : List String :=
  ["/tmp/ec_csr.der", "/tmp/ec_csr.pem", "/tmp/rsa_csr.der", "/tmp/rsa_csr.pem"]

/-- The four paths can be opened, and they name four files. -/
structure Spacious (platform : Platform) : Prop where
  writable : ∀ path ∈ requestPaths, platform.writable path = true
  apart : (requestPaths.map platform.resolve).Nodup

/-- A request for the key, signed with the key, stands in its two files. -/
def RequestSaved (platform : Platform) (mbedtls : Mbedtls) (name : Bytes) (csrDemo : CsrDemo)
    (isEc : Bool) {element : SecureElement} (key : element.Key) (after : Machine element) : Prop :=
  ∃ digest signature, mbedtls.sha256Ret (infoEncoding name (element.publicKeyDer key)) = some digest ∧
    element.verify key csrDemo.algorithm digest.toList signature = true ∧
    ∀ file ∈ completeFiles csrDemo isEc name (element.publicKeyDer key) signature,
      after.read platform file.1 = some file.2

/-- What a complete run leaves behind: new keys, the secret Alice and Bob share, two requests in
two files each, and everything else as it was. -/
structure Completed (platform : Platform) (mbedtls : Mbedtls) (name : Bytes)
    {element : SecureElement} (machine after : Machine element) : Prop where
  alice : after.store.objects demoKeyEcAlice =
    some (.pair (element.newKey .ecNistP 256 (machine.store.draws + 1)))
  bob : after.store.objects demoKeyEcBob =
    some (.pair (element.newKey .ecNistP 256 (machine.store.draws + 2)))
  shared : ∃ secret, element.sharedX (element.newKey .ecNistP 256 (machine.store.draws + 1))
      (element.publicKeyDer (element.newKey .ecNistP 256 (machine.store.draws + 2))) = some secret ∧
    after.store.objects demoKeyEcShared = some (.secret secret)
  rsa : after.store.objects demoKeyRsa =
    some (.pair (element.newKey .rsaCrt 2048 (machine.store.draws + 3)))
  others : ∀ keyId ∉ [demoKeyEcAlice, demoKeyEcBob, demoKeyEcShared, demoKeyRsa],
    after.store.objects keyId = machine.store.objects keyId
  draws : after.store.draws = machine.store.draws + 4
  ecRequest : RequestSaved platform mbedtls name (ecCsr mbedtls) true
    (element.newKey .ecNistP 256 (machine.store.draws + 1)) after
  rsaRequest : RequestSaved platform mbedtls name (rsaCsr mbedtls) false
    (element.newKey .rsaCrt 2048 (machine.store.draws + 3)) after
  otherFiles : ∀ file, (∀ path ∈ requestPaths, platform.resolve path ≠ file) →
    after.files file = machine.files file
  output : after.output = machine.output

section Runs

variable {element : SecureElement} {platform : Platform} {mbedtls : Mbedtls} {name : Bytes}

/-- All of the four files are kept, and no other file is touched. -/
theorem Spacious.saves (spacious : Spacious platform) {machine : Machine element}
    {files : List (String × Bytes)} (paths : files.map Prod.fst = requestPaths) :
    (∀ file ∈ files, (files.foldl (save platform) machine).read platform file.1 = some file.2) ∧
      ∀ other, (∀ path ∈ requestPaths, platform.resolve path ≠ other) →
        (files.foldl (save platform) machine).files other = machine.files other := by
  constructor
  · refine foldl_save_read ?_ ?_
    · intro file member
      exact spacious.writable file.1 (paths ▸ List.mem_map_of_mem member)
    · have resolved : (files.map fun file => platform.resolve file.1) =
          requestPaths.map platform.resolve := by
        rw [← paths, List.map_map]
        rfl
      rw [resolved]
      exact spacious.apart
  · intro other elsewhere
    refine foldl_save_other fun member => ?_
    obtain ⟨file, listed, same⟩ := List.mem_map.mp member
    exact elsewhere file.1 (paths ▸ List.mem_map_of_mem listed) same

theorem script_completes (spacious : Spacious platform) (supports : Supports element)
    (hashes : ∀ data, (mbedtls.sha256Ret data).isSome) (machine : Machine element) :
    ∃ after, perform (script platform mbedtls name element) machine = (true, after) ∧
      Completed platform mbedtls name machine after := by
  let drawn := machine.store.draw
  let keyed := generated drawn demoKeyEcAlice .ecNistP 256
  obtain ⟨secret, fits, shares⟩ := supports.agrees (machine.store.draws + 1) (machine.store.draws + 2)
  let agreed := (generated keyed demoKeyEcBob .ecNistP 256).store demoKeyEcShared (some (.secret secret))
  let both := generated agreed demoKeyRsa .rsaCrt 2048
  have keyedAlice : keyed.objects demoKeyEcAlice =
      some (.pair (element.newKey .ecNistP 256 (machine.store.draws + 1))) := generated_objects
  have agreedOther : ∀ keyId, keyId ≠ demoKeyEcShared → keyId ≠ demoKeyEcBob →
      agreed.objects keyId = keyed.objects keyId := fun keyId shared bob =>
    (State.store_other _ _ shared).trans (generated_other bob)
  have agreedAlice := (agreedOther demoKeyEcAlice (by decide) (by decide)).trans keyedAlice
  have bothRsa : both.objects demoKeyRsa =
      some (.pair (element.newKey .rsaCrt 2048 (machine.store.draws + 3))) := generated_objects
  obtain ⟨ecDigest, ecSignature, ecHashed, ecVerified, ecMade⟩ :=
    @requestFiles_of_signs element agreed mbedtls name (ecCsr mbedtls) true _ hashes
      (supports.ecSigns _) (supports.ecExports _) agreedAlice
  obtain ⟨rsaDigest, rsaSignature, rsaHashed, rsaVerified, rsaMade⟩ :=
    @requestFiles_of_signs element both mbedtls name (rsaCsr mbedtls) false _ hashes
      (supports.rsaSigns _) (supports.rsaExports _) bothRsa
  let ecFiles := completeFiles (ecCsr mbedtls) true name
    (element.publicKeyDer (element.newKey .ecNistP 256 (machine.store.draws + 1))) ecSignature
  let rsaFiles := completeFiles (rsaCsr mbedtls) false name
    (element.publicKeyDer (element.newKey .rsaCrt 2048 (machine.store.draws + 3))) rsaSignature
  let filed := ecFiles.foldl (save platform) machine
  have ecRequested : requested platform mbedtls name (ecCsr mbedtls) true (machine.withStore agreed) =
      (true, filed.withStore agreed) := by
    rw [requested_made ecMade, foldl_save_withStore]
  have rsaRequested : requested platform mbedtls name (rsaCsr mbedtls) false (filed.withStore both) =
      (true, (rsaFiles.foldl (save platform) filed).withStore both) := by
    rw [requested_made rsaMade, foldl_save_withStore]
  obtain ⟨found, others⟩ :=
    @Spacious.saves element platform spacious machine (ecFiles ++ rsaFiles) rfl
  rw [List.foldl_append] at found others
  refine ⟨(rsaFiles.foldl (save platform) filed).withStore both, ?_, ?_⟩
  · have begins : Scene.onStore (fun store => (true, store.draw)) machine =
        (true, machine.withStore drawn) := rfl
    have generates : Scene.onStore aliceGenerated (machine.withStore drawn) =
        (true, machine.withStore keyed) := onStore_played (aliceGenerated_of_supports supports)
    have agrees : Scene.onStore agreedWithBob (machine.withStore keyed) =
        (true, machine.withStore agreed) :=
      onStore_played (agreedWithBob_of_supports fits shares keyedAlice)
    have continues : Scene.onStore rsaGenerated (filed.withStore agreed) =
        (true, filed.withStore both) := rfl
    rw [script, perform_cons begins, perform_cons generates,
      perform_cons (checking_played (signedAndVerified_of_signs supports (supports.ecSigns _) keyedAlice)),
      perform_cons agrees, perform_cons ecRequested, perform_cons continues,
      perform_cons (checking_played (signedAndVerified_of_signs supports (supports.rsaSigns _) bothRsa)),
      perform_cons (checking_played (recovers_of_supports supports bothRsa)), perform_cons rsaRequested]
    rfl
  · refine ⟨?_, ?_, ⟨secret, shares, ?_⟩, bothRsa, ?_, rfl, ⟨_, _, ecHashed, ecVerified, ?_⟩,
      ⟨_, _, rsaHashed, rsaVerified, ?_⟩, ?_, ?_⟩
    · exact (generated_other (by decide)).trans agreedAlice
    · exact (generated_other (by decide)).trans
        ((State.store_other _ _ (by decide)).trans generated_objects)
    · exact (generated_other (by decide)).trans (State.store_objects _ _ _)
    · intro keyId apart
      simp only [List.mem_cons, List.not_mem_nil, or_false, not_or] at apart
      obtain ⟨alice, bob, shared, rsa⟩ := apart
      exact (generated_other rsa).trans ((agreedOther keyId shared bob).trans (generated_other alice))
    · exact fun file member => found file (List.mem_append_left _ member)
    · exact fun file member => found file (List.mem_append_right _ member)
    · exact others
    · exact foldl_save_output.trans foldl_save_output

/-- From any machine on which the request files can be opened the application runs to its end. -/
theorem exSssEntry_completes {nameDer : mbedtls.Names → Bytes} {names : mbedtls.Names}
    (documented : mbedtls.Documented nameDer) (full : mbedtls.FailsOnlyFull nameDer)
    (pemDocumented : mbedtls.PemDocumented) (parsed : mbedtls.x509StringToNames subject = some names)
    (named : (nameDer names).length = 23) (spacious : Spacious platform)
    (supports : Supports element) (hashes : ∀ data, (mbedtls.sha256Ret data).isSome)
    (machine : Machine element) :
    ∃ after, (exSssEntry mbedtls).exec platform.server machine = (.success, after) ∧
      Completed platform mbedtls (nameDer names) machine after := by
  obtain ⟨after, performed, completed⟩ := script_completes spacious supports hashes machine
  refine ⟨after, ?_, completed⟩
  rw [exSssEntry_follows documented full pemDocumented parsed named, performed]
  rfl

end Runs

section Examples

open SecureElement.reference (publicKeyDer_ec rsaSpki_length_le decrypt_encrypt)

/-- The reference element signs every digest of the right length, and in the same way. -/
theorem reference_signs {key : ReferenceKey} {algorithm : Algorithm} {room : Nat}
    (hashed : ∃ hash, algorithm.hash = some hash ∧ hash.length = 32)
    (short : key.signature.length ≤ room) : SignsWithin reference key algorithm room := by
  intro digest sized
  obtain ⟨hash, named, length⟩ := hashed
  have signed : key.sign algorithm digest = some key.signature := by
    rw [ReferenceKey.sign, named]
    simp [length, sized]
  exact ⟨key.signature, signed, short, beq_iff_eq.mpr signed⟩

theorem reference_signs_rsa (draw : Nat) :
    SignsWithin reference (reference.newKey .rsaCrt 2048 draw) .rsassaPkcs1V15Sha256 256 := by
  have sized : (ReferenceKey.signature ⟨.rsaCrt, 2048, draw⟩).length ≤ 256 := by
    rw [ReferenceKey.signature, if_neg CipherType.noConfusion, List.length_replicate]
    exact (by decide : 2048 / 8 ≤ 256)
  exact reference_signs ⟨.sha256, rfl, rfl⟩ sized

theorem reference_recovers (draw : Nat) {plaintext : Bytes} (short : plaintext.length ≤ 190) :
    ∃ ciphertext : Bytes, ciphertext.length ≤ 256 ∧
      reference.encrypt (reference.newKey .rsaCrt 2048 draw) .rsaesPkcs1OaepSha256 plaintext =
        some ciphertext ∧
      reference.decrypt (reference.newKey .rsaCrt 2048 draw) .rsaesPkcs1OaepSha256 ciphertext =
        some plaintext := by
  have room : plaintext.length + 66 ≤ 2048 / 8 := by omega
  obtain ⟨ciphertext, encrypted⟩ : ∃ ciphertext,
      ReferenceKey.encrypt ⟨.rsaCrt, 2048, draw⟩ .rsaesPkcs1OaepSha256 plaintext =
        some ciphertext := ⟨_, if_pos room⟩
  have sized : ciphertext.length = 2048 / 8 :=
    @reference.modulusSized.encrypt 2048 draw .rsaesPkcs1OaepSha256 plaintext _ encrypted
  exact ⟨ciphertext, by omega, encrypted, (decrypt_encrypt (by decide : 2048 ≤ 4096) encrypted).1⟩

theorem reference_supports : Supports reference where
  digests _ := List.length_replicate
  ecExports draw := by
    rw [publicKeyDer_ec]
    simp [ReferenceKey.ecSpki, ReferenceKey.ecHeader, ReferenceKey.bytes]
  ecSigns draw := reference_signs ⟨.sha256, rfl, rfl⟩ (by decide : 8 ≤ 128)
  agrees left right := by
    obtain ⟨secret, length, shared, _⟩ :=
      @reference.curveLaws.agreed 256 left right List.mem_cons_self
    exact ⟨secret, by omega, shared⟩
  rsaExports draw := by
    have exported : reference.publicKeyDer (reference.newKey .rsaCrt 2048 draw) =
        ReferenceKey.rsaSpki (2048 / 8) := rfl
    have short := @rsaSpki_length_le (2048 / 8) (by decide)
    rw [exported]
    exact short.trans (by decide)
  rsaSigns := reference_signs_rsa
  recovers draw _ short := reference_recovers draw short

def emptyMachine : Machine reference := ⟨reference.emptyState, fun _ => none, []⟩

theorem demoPlatform_spacious : Spacious CppApp.demoPlatform where
  writable _ _ := rfl
  apart := by decide

theorem exSssEntry_completes_reference :
    ∃ after, (exSssEntry Mbedtls.demo).exec CppApp.demoPlatform.server emptyMachine =
        (.success, after) ∧
      Completed CppApp.demoPlatform Mbedtls.demo Mbedtls.demoName emptyMachine after :=
  @exSssEntry_completes reference CppApp.demoPlatform Mbedtls.demo id Mbedtls.demoName
    Mbedtls.demo_documented Mbedtls.demo_failsOnlyFull Mbedtls.demo_pemDocumented
    Mbedtls.demo_parses_demoSubject Mbedtls.demoName_length demoPlatform_spacious reference_supports
    Mbedtls.demo_hashes emptyMachine

end Examples

end Se05x.App
