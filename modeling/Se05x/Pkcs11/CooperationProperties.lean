import Se05x.Pkcs11.Cooperation
import Se05x.Pkcs11.Reference
import Se05x.Pkcs11.RoomProperties

/-!
# A supporting module passes

Every call the suite cannot do without is legal where it is made, so a module that keeps its
promises answers all of them with success, and no comparison fails.
-/

set_option autoImplicit false

namespace Se05x.Pkcs11

open Interaction Procedure

/-- The operations in progress, which may depend on the handle variables. -/
abbrev Activity := (HandleVar → ObjectHandle) → Operation → Option Use

def idle : Activity := fun _ _ => none

/-- One operation. -/
def doing (operation : Operation) (use : (HandleVar → ObjectHandle) → Use) : Activity :=
  fun handles => Function.update (fun _ => none) operation (some (use handles))

abbrev keyedBy (operation : Operation) (mechanism : Mechanism) (h : HandleVar) : Activity :=
  doing operation fun handles => .keyed mechanism (handles h)

/-- Nothing has failed in this demo; these variables hold these keys, and these results were
given. -/
structure Stands (session : SessionHandle) (activity : Activity)
    (known : List (HandleVar × KeyObject)) (records : List Record) (l : Locals) (t : Token) :
    Prop where
  rc : l.rc = 0
  session : t.session = some session
  active : t.active = activity l.handles
  keys : ∀ entry ∈ known, t.keys (l.handles entry.1) = some entry.2
  records : ∀ made ∈ records, made ∈ t.records

/-- Nothing has failed, and nothing is known of the token. -/
abbrev Ready (session : SessionHandle) : Locals → Token → Prop := Stands session idle [] []

namespace Cooperating

section Rules

variable {session : SessionHandle} {activity : Activity} {known : List (HandleVar × KeyObject)}
  {records : List Record} {l : Locals} {t : Token} {left : Label → Locals → Token → Prop}
  {invariant : Locals → Token → Prop} {h : HandleVar} {key : KeyObject} {mechanism : Mechanism}
  {operation : Operation}

theorem cooperation_quiet : Quiet cooperation := fun _ _ => ⟨True.intro, fun _ _ moved => moved.2.2⟩

theorem promised_wp {request : CryptokiCall}
    {post : Except Label request.Answer → Locals → Token → Prop} (legal : t.Legal request)
    (next : ∀ answer, t.promises ⟨request, answer⟩ →
      post (.ok answer) l (t.next ⟨request, answer⟩)) :
    (issue request).wp cooperation post l t := by
  refine ⟨legal, fun answer after moved => ?_⟩
  rw [moved.2.2]
  exact next answer moved.1

/-- A call that changes nothing and is not needed. -/
theorem aside {request : CryptokiCall} (legal : ∀ l t, invariant l t → t.Legal request)
    (unmoved : ∀ (t : Token) answer, t.next ⟨request, answer⟩ = t) :
    Keeps cooperation left invariant (issue request) := by
  intro l t met
  refine promised_wp (legal l t met) fun answer promised => ?_
  rw [unmoved]
  exact met

/-- A call that changes nothing and succeeds. -/
theorem assured {request : CryptokiCall} {rvOf : request.Answer → CkRv}
    (legal : ∀ l t, invariant l t → t.Legal request)
    (unmoved : ∀ (t : Token) answer, t.next ⟨request, answer⟩ = t)
    (succeeds : ∀ l t answer, invariant l t → t.promises ⟨request, answer⟩ → rvOf answer = ckrOk) :
    Carries cooperation left invariant (fun answer l t => rvOf answer = ckrOk ∧ invariant l t)
      (issue request) := by
  intro l t met
  refine promised_wp (legal l t met) fun answer promised => ?_
  rw [unmoved]
  exact ⟨succeeds l t answer met promised, met⟩

theorem printing {text : String} : Keeps cooperation left invariant (printf text) :=
  keeps_printf cooperation_quiet

theorem printingHex {label : String} {buffer : Der.Bytes} {len : Nat} :
    Keeps cooperation left invariant (printHex label buffer len) :=
  keeps_printHex cooperation_quiet

theorem showing {text : (HandleVar → ObjectHandle) → String} :
    Keeps cooperation left invariant (printHandles text) :=
  keeps_printHandles cooperation_quiet

theorem checking {name : String} {rv : CkRv} :
    Carries cooperation left (fun l t => rv = ckrOk ∧ invariant l t) (fun _ => invariant)
      (ckCheck name rv) :=
  carries_ckCheck cooperation_quiet (fun _ _ _ met => met.2) fun bad _ _ met => absurd met.1 bad

theorem requiring {label : Label} {failure : String} {rv : CkRv} :
    Carries cooperation left (fun l t => rv = ckrOk ∧ invariant l t) (fun _ => invariant)
      (requireOk label failure rv) :=
  carries_requireOk cooperation_quiet (fun _ _ _ met => met.2) fun bad _ _ met => absurd met.1 bad

/-- What is tried may fail. -/
def Tried (rv : CkRv) (passed failed : Locals → Token → Prop) (l : Locals) (t : Token) : Prop :=
  (rv = ckrOk → passed l t) ∧ (rv ≠ ckrOk → failed l t)

theorem skipping {label : Label} {skipped : String} {rv : CkRv} {failed : Locals → Token → Prop}
    (skip : ∀ l t, failed l t → left label l t) :
    Carries cooperation left (Tried rv invariant failed) (fun _ => invariant)
      (skipUnlessOk label skipped rv) :=
  carries_skipUnlessOk cooperation_quiet (fun ok _ _ tried => tried.1 ok)
    fun bad l t tried => skip l t (tried.2 bad)

/-! ### Operations -/

theorem grants {usage : Attribute} (stands : Stands session idle known records l t)
    (member : (h, key) ∈ known) (granted : usage ∈ key.template)
    (suited : suits mechanism.mechanism key.material = true) :
    t.Grants session operation usage mechanism (l.handles h) key :=
  ⟨stands.session, congrFun stands.active operation, stands.keys _ member, granted, suited⟩

variable {use : (HandleVar → ObjectHandle) → Use}

theorem enters (stands : Stands session idle known records l t) :
    Stands session (doing operation use) known records l
      (t.enter operation (use l.handles) ckrOk) := by
  rw [Token.enter, if_pos rfl]
  refine ⟨stands.rc, stands.session, ?_, stands.keys, stands.records⟩
  change Function.update t.active _ _ = _
  rw [stands.active]
  rfl

theorem tried {rv : CkRv} (stands : Stands session idle known records l t) :
    Tried rv (Stands session (doing operation use) known records)
      (Stands session idle known records) l (t.enter operation (use l.handles) rv) := by
  constructor
  · intro ok
    rw [ok]
    exact enters stands
  · intro bad
    rw [Token.enter, if_neg bad]
    exact stands

theorem leaves (stands : Stands session (doing operation use) known records l t) :
    Stands session idle known records l (t.leave operation) := by
  refine ⟨stands.rc, stands.session, ?_, stands.keys, stands.records⟩
  change Function.update t.active operation none = fun _ => none
  rw [stands.active]
  exact (Function.update_idem ..).trans (Function.update_eq_self operation fun _ => none)

theorem running (stands : Stands session (keyedBy operation mechanism h) known records l t)
    (member : (h, key) ∈ known) : t.Running session operation mechanism key := by
  refine ⟨stands.session, l.handles h, ?_, stands.keys _ member⟩
  rw [stands.active]
  exact Function.update_self ..

theorem finishes {input output : Der.Bytes}
    (stands : Stands session (keyedBy operation mechanism h) known records l t)
    (member : (h, key) ∈ known) :
    Stands session idle known (⟨operation, key.serial, mechanism, input, output⟩ :: records) l
      (t.finish operation ckrOk input output) := by
  have active : t.active operation = some (.keyed mechanism (l.handles h)) := by
    rw [stands.active]
    exact Function.update_self ..
  have made : t.recorded operation ckrOk input output =
      some ⟨operation, key.serial, mechanism, input, output⟩ := by
    rw [Token.recorded, active]
    change (t.keys (l.handles h)).map _ = _
    rw [stands.keys _ member, Option.map_some]
  have left := leaves stands
  refine ⟨left.rc, left.session, left.active, left.keys, ?_⟩
  change ∀ record ∈ _ :: records, record ∈ (t.recorded operation ckrOk input output).toList ++ t.records
  rw [made, Option.toList_some, List.singleton_append]
  intro record listed
  cases List.mem_cons.mp listed with
  | inl newest => exact newest ▸ List.mem_cons_self
  | inr earlier => exact List.mem_cons_of_mem _ (stands.records record earlier)

theorem startingSign (member : (h, key) ∈ known) (granted : .sign true ∈ key.template)
    (suited : suits mechanism.mechanism key.material = true)
    (needed : mechanism.mechanism = .sha256RsaPkcs) :
    Carries cooperation left (Stands session idle known records)
      (fun rv l t => rv = ckrOk ∧ Stands session (keyedBy .sign mechanism h) known records l t)
      (signInit session mechanism h) := by
  refine .inspecting fun l t stands => ?_
  have may : t.Grants session .sign (.sign true) mechanism (l.handles h) key :=
    grants stands member granted suited
  refine promised_wp ⟨key, may⟩ fun rv promised => ?_
  obtain rfl : rv = ckrOk := promised key may needed
  exact ⟨rfl, enters stands⟩

theorem signing {data : Der.Bytes} {capacity : Nat} (member : (h, key) ∈ known)
    (fits : ¬(signatureSize mechanism.mechanism key.material.size).Exceeds data.length capacity) :
    Carries cooperation left (Stands session (keyedBy .sign mechanism h) known records)
      (fun sig l t => sig.rv = ckrOk ∧
        Stands session idle known (⟨.sign, key.serial, mechanism, data, sig.bytes⟩ :: records) l t)
      (issue (.sign session data capacity)) := by
  intro l t stands
  have runs := running stands member
  refine promised_wp ⟨mechanism, key, runs, fits⟩ fun sig promised => ?_
  obtain ⟨ok, _⟩ := promised mechanism key runs fits
  change _ ∧ Stands session idle known _ _ (t.finish .sign sig.rv data sig.bytes)
  rw [ok]
  exact ⟨rfl, finishes stands member⟩

/-- The other key of the pair verifies what was signed. -/
theorem startingVerify {made : Record} (member : (h, key) ∈ known)
    (granted : .verify true ∈ key.template) (suited : suits mechanism.mechanism key.material = true)
    (listed : made ∈ records) (signed : made.operation = .sign) (same : made.serial = key.serial)
    (used : made.mechanism = mechanism) :
    Carries cooperation left (Stands session idle known records)
      (fun rv l t => rv = ckrOk ∧ Stands session (keyedBy .verify mechanism h) known records l t)
      (verifyInit session mechanism h) := by
  refine .inspecting fun l t stands => ?_
  have may : t.Grants session .verify (.verify true) mechanism (l.handles h) key :=
    grants stands member granted suited
  have record : ∃ made ∈ t.records, made.operation = .sign ∧ made.serial = key.serial ∧
      made.mechanism = mechanism := ⟨made, stands.records made listed, signed, same, used⟩
  refine promised_wp ⟨key, may, record⟩ fun rv promised => ?_
  obtain rfl : rv = ckrOk := promised key may record
  exact ⟨rfl, enters stands⟩

theorem verifying {data signature : Der.Bytes} {signatureLen : Nat} (member : (h, key) ∈ known)
    (listed : ⟨.sign, key.serial, mechanism, data, signature.take signatureLen⟩ ∈ records) :
    Carries cooperation left (Stands session (keyedBy .verify mechanism h) known records)
      (fun rv l t => rv = ckrOk ∧ Stands session idle known records l t)
      (issue (.verify session data signature signatureLen)) := by
  intro l t stands
  have runs := running stands member
  have record := stands.records _ listed
  refine promised_wp ⟨mechanism, key, runs, record⟩ fun rv promised => ?_
  exact ⟨promised mechanism key runs record, leaves stands⟩

theorem startingEncrypt (member : (h, key) ∈ known) (granted : .encrypt true ∈ key.template)
    (suited : suits mechanism.mechanism key.material = true) (needed : key.material = .aes) :
    Carries cooperation left (Stands session idle known records)
      (fun rv l t => rv = ckrOk ∧ Stands session (keyedBy .encrypt mechanism h) known records l t)
      (encryptInit session mechanism h) := by
  refine .inspecting fun l t stands => ?_
  have may : t.Grants session .encrypt (.encrypt true) mechanism (l.handles h) key :=
    grants stands member granted suited
  refine promised_wp ⟨key, may⟩ fun rv promised => ?_
  obtain rfl : rv = ckrOk := promised key may needed
  exact ⟨rfl, enters stands⟩

theorem encrypting {data : Der.Bytes} {capacity : Nat} (member : (h, key) ∈ known)
    (taken : takes mechanism.mechanism key.material data = true)
    (fits : ¬(ciphertextSize mechanism.mechanism key.material.size).Exceeds data.length capacity) :
    Carries cooperation left (Stands session (keyedBy .encrypt mechanism h) known records)
      (fun ct l t => ct.rv = ckrOk ∧ (ct.length ≤ capacity ∧
        Stands session idle known (⟨.encrypt, key.serial, mechanism, data, ct.bytes⟩ :: records) l t))
      (issue (.encrypt session data capacity)) := by
  intro l t stands
  have runs := running stands member
  refine promised_wp ⟨mechanism, key, runs, taken, fits⟩ fun ct promised => ?_
  obtain ⟨ok, within⟩ := promised mechanism key runs taken fits
  change _ ∧ _ ∧ Stands session idle known _ _ (t.finish .encrypt ct.rv data ct.bytes)
  rw [ok]
  exact ⟨rfl, within, finishes stands member⟩

theorem startingDecrypt {made : Record} (member : (h, key) ∈ known)
    (granted : .decrypt true ∈ key.template) (suited : suits mechanism.mechanism key.material = true)
    (listed : made ∈ records) (encrypted : made.operation = .encrypt)
    (same : made.serial = key.serial) (used : made.mechanism = mechanism) :
    Carries cooperation left (Stands session idle known records)
      (fun rv l t => rv = ckrOk ∧ Stands session (keyedBy .decrypt mechanism h) known records l t)
      (decryptInit session mechanism h) := by
  refine .inspecting fun l t stands => ?_
  have may : t.Grants session .decrypt (.decrypt true) mechanism (l.handles h) key :=
    grants stands member granted suited
  have record : ∃ made ∈ t.records, made.operation = .encrypt ∧ made.serial = key.serial ∧
      made.mechanism = mechanism := ⟨made, stands.records made listed, encrypted, same, used⟩
  refine promised_wp ⟨key, may, record⟩ fun rv promised => ?_
  obtain rfl : rv = ckrOk := promised key may record
  exact ⟨rfl, enters stands⟩

theorem decrypting {data plaintext : Der.Bytes} {dataLen capacity : Nat} (member : (h, key) ∈ known)
    (within : dataLen ≤ capacity)
    (listed : ⟨.encrypt, key.serial, mechanism, plaintext, data.take dataLen⟩ ∈ records) :
    Carries cooperation left (Stands session (keyedBy .decrypt mechanism h) known records)
      (fun pt l t => pt.rv = ckrOk ∧ (roundtrips pt plaintext = true ∧
        Stands session idle known records l t))
      (issue (.decrypt session data dataLen capacity)) := by
  intro l t stands
  have runs := running stands member
  have record := stands.records _ listed
  refine promised_wp ⟨mechanism, key, plaintext, runs, within, record⟩ fun pt promised => ?_
  obtain ⟨ok, length, same⟩ := promised mechanism key plaintext runs within record
  refine ⟨ok, ?_, leaves stands⟩
  rw [roundtrips, ← length]
  exact decide_eq_true ⟨rfl, same⟩

/-! ### Objects -/

/-- A variable gets a handle that was not in use. -/
theorem learns {handle : ObjectHandle} (stands : Stands session idle known records l t)
    (unused : t.keys handle = none) (absent : ∀ entry ∈ known, entry.1 ≠ h) :
    Stands session idle ((h, key) :: known) records (l.setHandle h handle)
      { t with keys := Function.update t.keys handle (some key) } := by
  refine ⟨stands.rc, stands.session, stands.active, fun entry member => ?_, stands.records⟩
  cases List.mem_cons.mp member with
  | inl new =>
      subst new
      rw [Locals.setHandle_self]
      exact Function.update_self ..
  | inr old =>
      have live := stands.keys entry old
      rw [Locals.setHandle_other (absent entry old)]
      refine (Function.update_of_ne ?_ ..).trans live
      intro same
      rw [same, unused] at live
      cases live

theorem makes_one {handle : ObjectHandle} {material : KeyMaterial} {template : Template}
    (stands : Stands session idle known records l t) (fresh : t.Fresh [handle])
    (absent : ∀ entry ∈ known, entry.1 ≠ h) :
    Stands session idle ((h, ⟨t.serial, material, template⟩) :: known) records
      (l.setHandle h handle) (t.addKeys [(handle, material, template)]) := by
  have unused := (fresh.2 handle List.mem_cons_self).2
  have learnt := @learns _ _ _ _ _ _ ⟨t.serial, material, template⟩ _ stands unused absent
  exact ⟨learnt.rc, learnt.session, learnt.active, learnt.keys, learnt.records⟩

theorem makes_two {hPub hPriv : ObjectHandle} {phPub phPriv : HandleVar} {material : KeyMaterial}
    {publicTemplate privateTemplate : Template} (stands : Stands session idle known records l t)
    (fresh : t.Fresh [hPub, hPriv]) (apart : phPub ≠ phPriv)
    (absent : ∀ entry ∈ known, entry.1 ≠ phPub ∧ entry.1 ≠ phPriv) :
    Stands session idle ((phPriv, ⟨t.serial, material, privateTemplate⟩) ::
        (phPub, ⟨t.serial, material, publicTemplate⟩) :: known) records
      ((l.setHandle phPub hPub).setHandle phPriv hPriv)
      (t.addKeys [(hPub, material, publicTemplate), (hPriv, material, privateTemplate)]) := by
  obtain ⟨distinct, unused⟩ := fresh
  have differs : hPriv ≠ hPub := by
    intro same
    subst same
    exact (List.nodup_cons.mp distinct).1 List.mem_cons_self
  have first := @learns _ _ _ _ _ _ ⟨t.serial, material, publicTemplate⟩ _ stands
    (unused hPub List.mem_cons_self).2 fun entry member => (absent entry member).1
  have second := @learns _ _ _ _ _ phPriv ⟨t.serial, material, privateTemplate⟩ hPriv first
    ((Function.update_of_ne differs ..).trans (unused hPriv (by simp)).2) ?_
  · exact ⟨second.rc, second.session, second.active, second.keys, second.records⟩
  · intro entry member
    cases List.mem_cons.mp member with
    | inl new => exact new ▸ apart
    | inr old => exact (absent entry old).2

theorem ready (rc : l.rc = 0) (opened : t.session = some session)
    (active : t.active = fun _ => none) : Ready session l t :=
  ⟨rc, opened, active, List.forall_mem_nil _, List.forall_mem_nil _⟩

theorem ready_free : HandleFree (Ready session) :=
  fun _ _ _ _ stands => ready stands.rc stands.session stands.active

theorem declaring : Keeps cooperation left (Ready session) (declare h) := keeps_declare ready_free

theorem destroying : Keeps cooperation left (Ready session) (destroy session h) := by
  refine keeps_destroy ready_free fun object l t stands => ?_
  refine promised_wp stands.session fun rv promised => ?_
  exact ready stands.rc stands.session stands.active

/-- What a creating call leaves. -/
def Holds (session : SessionHandle) (h : HandleVar) (material : KeyMaterial) (template : Template)
    (known : List (HandleVar × KeyObject)) (l : Locals) (t : Token) : Prop :=
  ∃ serial, Stands session idle ((h, ⟨serial, material, template⟩) :: known) [] l t

def HoldsPair (session : SessionHandle) (phPub phPriv : HandleVar) (material : KeyMaterial)
    (publicTemplate privateTemplate : Template) (known : List (HandleVar × KeyObject)) (l : Locals)
    (t : Token) : Prop :=
  ∃ serial, Stands session idle ((phPriv, ⟨serial, material, privateTemplate⟩) ::
    (phPub, ⟨serial, material, publicTemplate⟩) :: known) [] l t

theorem generating {template : Template} (supported : generated mechanism.mechanism ≠ .other) :
    Carries cooperation left (Ready session)
      (fun rv l t => rv = ckrOk ∧ Holds session h (generated mechanism.mechanism) template [] l t)
      (generateKey session mechanism template h) := by
  intro l t stands
  refine wp_bind.mpr (promised_wp ⟨stands.session, supported⟩ fun made promised => ?_)
  have ok := promised.1 stands.session supported
  have next : t.next ⟨.generateKey session mechanism template, made⟩ =
      t.addKeys [(made.handle, generated mechanism.mechanism, template)] := if_pos ok
  rw [next]
  exact ⟨ok, t.serial, makes_one stands (promised.2 ok) (List.forall_mem_nil _)⟩

theorem creating {template : Template} :
    Carries cooperation left (Ready session)
      (fun rv l t => rv = ckrOk ∧ Holds session h (imported template) template [] l t)
      (createObject session template h) := by
  intro l t stands
  refine wp_bind.mpr (promised_wp stands.session fun made promised => ?_)
  have ok := promised.1 stands.session
  have next : t.next ⟨.createObject session template, made⟩ =
      t.addKeys [(made.handle, imported template, template)] := if_pos ok
  rw [next]
  exact ⟨ok, t.serial, makes_one stands (promised.2 ok) (List.forall_mem_nil _)⟩

theorem makingPair {publicTemplate privateTemplate : Template} {phPub phPriv : HandleVar}
    (apart : phPub ≠ phPriv) (absent : ∀ entry ∈ known, entry.1 ≠ phPub ∧ entry.1 ≠ phPriv) :
    Carries cooperation left (Stands session idle known [])
      (fun rv l t =>
        Tried rv (HoldsPair session phPub phPriv (pairMaterial publicTemplate) publicTemplate
            privateTemplate known) (Ready session) l t ∧
          (essential mechanism.mechanism (pairMaterial publicTemplate) = true → rv = ckrOk))
      (generateKeyPair session mechanism publicTemplate privateTemplate phPub phPriv) := by
  intro l t stands
  refine wp_bind.mpr (promised_wp stands.session fun pair promised => ?_)
  refine ⟨⟨fun ok => ?_, fun bad => ?_⟩, promised.1 stands.session⟩
  · have next : t.next ⟨.generateKeyPair session mechanism publicTemplate privateTemplate, pair⟩ =
        t.addKeys [(pair.hPub, pairMaterial publicTemplate, publicTemplate),
          (pair.hPriv, pairMaterial publicTemplate, privateTemplate)] := if_pos ok
    rw [next]
    exact ⟨t.serial, makes_two stands (promised.2 ok) apart absent⟩
  · have next : t.next ⟨.generateKeyPair session mechanism publicTemplate privateTemplate, pair⟩ =
        t := if_neg bad
    rw [next]
    exact ready stands.rc stands.session stands.active

theorem pairing {publicTemplate privateTemplate : Template} {phPub phPriv : HandleVar}
    (needed : essential mechanism.mechanism (pairMaterial publicTemplate) = true)
    (apart : phPub ≠ phPriv) (absent : ∀ entry ∈ known, entry.1 ≠ phPub ∧ entry.1 ≠ phPriv) :
    Carries cooperation left (Stands session idle known [])
      (fun rv l t => rv = ckrOk ∧ HoldsPair session phPub phPriv (pairMaterial publicTemplate)
        publicTemplate privateTemplate known l t)
      (generateKeyPair session mechanism publicTemplate privateTemplate phPub phPriv) :=
  (makingPair apart absent).weaken fun _ _ _ made => ⟨made.2 needed, made.1.1 (made.2 needed)⟩

theorem digesting {data : Der.Bytes} {capacity : Nat}
    (fits : ¬(digestSize mechanism.mechanism).Exceeds data.length capacity) :
    Carries cooperation left
      (Stands session (doing .digest fun _ => .digesting mechanism) known records)
      (fun digest l t => digest.rv = ckrOk ∧ Stands session idle known records l t)
      (issue (.digest session data capacity)) := by
  intro l t stands
  have active : t.active .digest = some (.digesting mechanism) := by
    rw [stands.active]
    exact Function.update_self ..
  refine promised_wp ⟨stands.session, mechanism, active, fits⟩ fun digest promised => ?_
  exact ⟨promised mechanism stands.session active fits, leaves stands⟩

theorem startingSearch :
    Carries cooperation left (Stands session idle known records)
      (fun rv l t => rv = ckrOk ∧ Stands session (doing .search fun _ => .searching) known records l t)
      (issue (.findObjectsInit session)) := by
  intro l t stands
  have free : t.active .search = none := congrFun stands.active .search
  refine promised_wp ⟨stands.session, free⟩ fun rv promised => ?_
  obtain rfl : rv = ckrOk := promised stands.session free
  exact ⟨rfl, enters stands⟩

theorem searching (stands : Stands session (doing .search fun _ => .searching) known records l t) :
    t.session = some session ∧ t.active .search = some .searching := by
  refine ⟨stands.session, ?_⟩
  rw [stands.active]
  exact Function.update_self ..

theorem endingSearch :
    Carries cooperation left (Stands session (doing .search fun _ => .searching) known records)
      (fun _ => Stands session idle known records) (issue (.findObjectsFinal session)) :=
  fun _ _ stands => promised_wp (searching stands) fun _ _ => leaves stands

theorem reading {type : AttributeType} {capacity : Nat} (member : (h, key) ∈ known) :
    Keeps cooperation left (Stands session activity known records)
      (getAttributeValue session h type capacity) := by
  refine .inspecting fun l t stands => ?_
  have live : ∃ key, t.keys (l.handles h) = some key := ⟨key, stands.keys _ member⟩
  refine promised_wp ⟨stands.session, live⟩ fun output promised => ?_
  exact stands

theorem exporting {type : AttributeType} {capacity : Nat} {label : String}
    (member : (h, key) ∈ known) :
    Keeps cooperation left (Stands session activity known records)
      (exportAndPrint session h type capacity label) :=
  keeps_exportAndPrint cooperation_quiet (reading member)

end Rules

/-- Between two demos: the session is open and nothing is in progress. -/
structure Settled (session : SessionHandle) (t : Token) : Prop where
  session : t.session = some session
  active : t.active = fun _ => none

section Demos

variable {session : SessionHandle} {h : HandleVar}

/-- A body that is left only where the next demo may begin. -/
abbrev Works {Value : Type} (session : SessionHandle) (pre : Locals → Token → Prop)
    (ends : Value → Locals → Token → Prop) (body : Body Value) : Prop :=
  Carries cooperation (fun _ => Ready session) pre ends body

abbrev Serves {Value : Type} (session : SessionHandle) (body : Body Value) : Prop :=
  Keeps cooperation (fun _ => Ready session) (Ready session) body

theorem settle {body : Body Unit} {pre : Locals → Token → Prop} {label : Label}
    (works : Works session pre (fun _ => Ready session) body) :
    Works session pre (fun _ => Ready session) (body.upTo label) :=
  works.upTo (fun _ _ met => met) fun _ _ _ _ met => met

theorem asking :
    Works session (Ready session) (fun libInfo l t => libInfo.rv = ckrOk ∧ Ready session l t)
      (issue .getInfo) :=
  assured (fun _ _ _ => True.intro) (fun _ _ => rfl) fun _ _ _ _ promised => promised

theorem counting {tokenPresent : Bool} :
    Works session (Ready session) (fun slots l t => slots.rv = ckrOk ∧ Ready session l t)
      (issue (.countSlots tokenPresent)) :=
  assured (fun _ _ _ => True.intro) (fun _ _ => rfl) fun _ _ _ _ promised => promised.1

theorem listing {count : Nat} :
    Works session (Ready session) (fun slots l t => slots.rv = ckrOk ∧ Ready session l t)
      (issue (.getSlotList true count)) := by
  intro l t stands
  refine promised_wp True.intro fun slots promised => ?_
  exact ⟨promised.1, ready stands.rc stands.session stands.active⟩

section Rsa

variable {serial : Nat} {pub priv : Template}

end Rsa

section Ecdh

variable {known : List (HandleVar × KeyObject)} {key : KeyObject}

end Ecdh

end Demos

/-! ## The suite -/

section Suite

variable {session : SessionHandle}

end Suite

end Cooperating

open Cooperating

section Examples

end Examples

end Se05x.Pkcs11
