import Se05x.Interaction.Confinement
import Se05x.Pkcs11.DemoProperties

/-!
# Demos without lists

All demos but the first fetch nothing into an array of handles and open no session.
-/

set_option autoImplicit false

namespace Se05x.Pkcs11

open Interaction Procedure

/-- The call fills no array of slots or handles, reads no cell and opens no session. -/
def CryptokiCall.listFree : CryptokiCall → Bool
  | .readCell _ _ | .getSlotList _ _ | .findObjects _ _ | .openSession _ => false
  | _ => true

def listFree : Contract cryptoki Unit := confining fun request => request.listFree = true

abbrev ListFree {Value : Type} (body : Body Value) : Prop :=
  Keeps listFree (fun _ _ _ => True) (fun _ _ => True) body

namespace ListFree

variable {session : SessionHandle} {Value : Type}

theorem quiet : Quiet listFree := fun _ _ => ⟨rfl, fun _ _ _ => rfl⟩

theorem unasked : HandleFree fun _ (_ : Unit) => True := fun _ _ _ _ _ => trivial

theorem issuing {request : CryptokiCall} (free : request.listFree = true) :
    ListFree (issue request) :=
  keeps_issue fun _ _ _ => ⟨free, fun _ _ _ => trivial⟩

theorem printing {text : String} : ListFree (printf text) := keeps_printf quiet

theorem printingHex {label : String} {buffer : Der.Bytes} {len : Nat} :
    ListFree (printHex label buffer len) :=
  keeps_printHex quiet

theorem showing {text : (HandleVar → ObjectHandle) → String} : ListFree (printHandles text) :=
  keeps_printHandles quiet

theorem checking {name : String} {rv : CkRv} : ListFree (ckCheck name rv) :=
  keeps_ckCheck quiet fun _ _ _ => trivial

theorem requiring {label : Label} {failure : String} {rv : CkRv} :
    ListFree (requireOk label failure rv) :=
  keeps_requireOk quiet fun _ _ _ => trivial

theorem skipping {label : Label} {skipped : String} {rv : CkRv} :
    ListFree (skipUnlessOk label skipped rv) :=
  keeps_skipUnlessOk quiet fun _ _ _ => trivial

theorem failing {text : String} : ListFree (markFailed text) :=
  carries_markFailed quiet fun _ _ _ => trivial

theorem leaving {label : Label} : ListFree (throw label : Body Value) :=
  .jumping fun _ _ _ => trivial

theorem landing {label : Label} {body : Body Unit} (free : ListFree body) :
    ListFree (body.upTo label) :=
  .upTo free (fun _ _ _ => trivial) fun _ _ _ _ _ => trivial

theorem declaring {h : HandleVar} : ListFree (declare h) := keeps_declare unasked

theorem destroying {h : HandleVar} : ListFree (destroy session h) :=
  keeps_destroy unasked fun _ => issuing rfl

theorem generating {mechanism : Mechanism} {template : Template} {h : HandleVar} :
    ListFree (generateKey session mechanism template h) :=
  keeps_generateKey unasked (issuing rfl)

theorem creating {template : Template} {h : HandleVar} :
    ListFree (createObject session template h) :=
  keeps_createObject unasked (issuing rfl)

theorem derivingKey {mechanism : Mechanism} {base : HandleVar} {template : Template}
    {h : HandleVar} : ListFree (deriveKey session mechanism base template h) :=
  keeps_deriveKey unasked fun _ => issuing rfl

theorem pairing {mechanism : Mechanism} {publicTemplate privateTemplate : Template}
    {phPub phPriv : HandleVar} :
    ListFree (generateKeyPair session mechanism publicTemplate privateTemplate phPub phPriv) :=
  keeps_generateKeyPair unasked (issuing rfl)

theorem reading {h : HandleVar} {type : AttributeType} {capacity : Nat} :
    ListFree (getAttributeValue session h type capacity) :=
  Carries.reading fun _ => issuing rfl

theorem exporting {h : HandleVar} {type : AttributeType} {capacity : Nat} {label : String} :
    ListFree (exportAndPrint session h type capacity label) :=
  keeps_exportAndPrint quiet reading

theorem startingSign {mechanism : Mechanism} {h : HandleVar} :
    ListFree (signInit session mechanism h) :=
  Carries.reading fun _ => issuing rfl

theorem startingVerify {mechanism : Mechanism} {h : HandleVar} :
    ListFree (verifyInit session mechanism h) :=
  Carries.reading fun _ => issuing rfl

theorem startingEncrypt {mechanism : Mechanism} {h : HandleVar} :
    ListFree (encryptInit session mechanism h) :=
  Carries.reading fun _ => issuing rfl

theorem startingDecrypt {mechanism : Mechanism} {h : HandleVar} :
    ListFree (decryptInit session mechanism h) :=
  Carries.reading fun _ => issuing rfl

theorem verifying {mechanism : Mechanism} {h : HandleVar} {data : Der.Bytes} {capacity : Nat}
    {sig : Output capacity} : ListFree (verifyInitAndVerify session mechanism h data sig) := by
  refine .bind startingVerify fun rv => ?_
  refine .ite (fun _ => ?_) fun _ => ?_
  · exact issuing rfl
  · exact .returning fun _ _ entered => entered

theorem makingAndDestroying {heading : String} {h : HandleVar} {name : String}
    {make : Body CkRv} {inspect : Body Unit} (makes : ListFree make)
    (inspects : ListFree inspect) :
    ListFree (makeAndDestroy session heading h name make inspect) :=
  keeps_makeAndDestroy quiet unasked (fun _ _ _ => trivial) makes inspects fun _ => issuing rfl

end ListFree

/-- The program issues only calls of the kind. -/
def IsListFree (program : Program cryptoki Int) : Prop :=
  program.wp listFree (fun _ _ => True) ()

section Demos

open ListFree

variable {session : SessionHandle}

theorem listFree_demo {heading : String} {body : Body Unit} {released : List HandleVar}
    (free : ListFree body) : IsListFree (demo session heading body released) :=
  demo_wp quiet trivial free (.forM fun _ _ => destroying)

theorem listFree_runRandomGen : IsListFree (runRandomGen session) := by
  refine listFree_demo ?_
  refine .forM fun _ _ => ?_
  refine .bind (issuing rfl) fun answer => ?_
  refine .bind checking fun _ => ?_
  exact printingHex

theorem listFree_runDigest : IsListFree (runDigest session) := by
  refine listFree_demo ?_
  refine .forM fun _ _ => ?_
  refine landing ?_
  refine .bind (issuing rfl) fun answer => ?_
  refine .bind skipping fun _ => ?_
  refine .bind (issuing rfl) fun answer => ?_
  refine .bind requiring fun _ => ?_
  exact printingHex

theorem listFree_runSymKeyGen : IsListFree (runSymKeyGen session) := by
  refine listFree_demo ?_
  refine .bind (.forM fun bits _ => ?_) fun _ => ?_
  · exact makingAndDestroying generating showing
  · exact makingAndDestroying generating showing

theorem listFree_runImportObject : IsListFree (runImportObject session) := by
  refine listFree_demo ?_
  refine .bind (makingAndDestroying creating showing) fun _ => ?_
  refine .bind (makingAndDestroying creating showing) fun _ => ?_
  refine makingAndDestroying creating ?_
  refine .bind showing fun _ => ?_
  exact exporting

theorem signAndVerifyEcc_listFree {signMech : MechanismType} :
    ListFree (signAndVerifyEcc session signMech) := by
  refine .bind startingSign fun rv => ?_
  refine .bind skipping fun _ => ?_
  refine .bind (issuing rfl) fun answer => ?_
  refine .bind requiring fun _ => ?_
  refine .bind printingHex fun _ => ?_
  refine .bind verifying fun rv => ?_
  refine .bind requiring fun _ => ?_
  exact printing

theorem listFree_runEcc : IsListFree (runEcc session) := by
  refine listFree_demo ?_
  refine .forM fun _ _ => ?_
  refine landing ?_
  refine .bind declaring fun _ => ?_
  refine .bind declaring fun _ => ?_
  refine .bind printing fun _ => ?_
  refine .bind pairing fun rv => ?_
  refine .bind skipping fun _ => ?_
  refine .bind showing fun _ => ?_
  refine .bind exporting fun _ => ?_
  refine .bind (landing signAndVerifyEcc_listFree) fun _ => ?_
  refine .bind destroying fun _ => ?_
  exact destroying

theorem pkcs1SignAndVerify_listFree : ListFree (pkcs1SignAndVerify session) := by
  refine .bind printing fun _ => ?_
  refine .bind startingSign fun rv => ?_
  refine .bind checking fun _ => ?_
  refine .bind (issuing rfl) fun answer => ?_
  refine .bind checking fun _ => ?_
  refine .bind printingHex fun _ => ?_
  refine .bind startingVerify fun rv => ?_
  refine .bind checking fun _ => ?_
  refine .bind (issuing rfl) fun answer => ?_
  refine .bind checking fun _ => ?_
  exact printing

theorem pssSignAndVerify_listFree : ListFree (pssSignAndVerify session) := by
  refine .bind printing fun _ => ?_
  refine .bind startingSign fun rv => ?_
  refine .bind skipping fun _ => ?_
  refine .bind (issuing rfl) fun answer => ?_
  refine .bind requiring fun _ => ?_
  refine .bind printingHex fun _ => ?_
  refine .bind verifying fun rv => ?_
  refine .bind requiring fun _ => ?_
  exact printing

theorem listFree_runRsa : IsListFree (runRsa session) := by
  refine listFree_demo ?_
  refine .bind printing fun _ => ?_
  refine .bind pairing fun rv => ?_
  refine .bind checking fun _ => ?_
  refine .bind showing fun _ => ?_
  refine .bind exporting fun _ => ?_
  refine .bind pkcs1SignAndVerify_listFree fun _ => ?_
  exact pssSignAndVerify_listFree

theorem exportAliceSecret_listFree : ListFree (exportAliceSecret session) := by
  refine .bind showing fun _ => ?_
  refine .bind reading fun shared1 => ?_
  have printed : ListFree (printAliceSecret shared1) := by
    refine .ite (fun exported => ?_) fun hidden => ?_
    · exact printingHex
    · exact printing
  refine .bind printed fun _ => ?_
  exact .returning fun _ _ => id

theorem compareSecrets_listFree {shared1 : Output 32} :
    ListFree (compareSecrets session shared1) := by
  refine .bind showing fun _ => ?_
  refine .bind reading fun value => ?_
  refine .ite (fun exported => ?_) fun hidden => ?_
  · refine .bind printingHex fun _ => ?_
    refine .ite (fun agreed => ?_) fun differs => ?_
    · exact printing
    · exact printing
  · exact printing

theorem listFree_runEcdhDerive : IsListFree (runEcdhDerive session) := by
  refine listFree_demo ?_
  refine .bind pairing fun rv => ?_
  refine .bind checking fun _ => ?_
  refine .bind showing fun _ => ?_
  refine .bind pairing fun rv => ?_
  refine .bind checking fun _ => ?_
  refine .bind showing fun _ => ?_
  refine .bind reading fun value => ?_
  refine .bind checking fun _ => ?_
  refine .bind printingHex fun _ => ?_
  refine .bind reading fun value => ?_
  refine .bind checking fun _ => ?_
  refine .bind derivingKey fun rv => ?_
  refine .bind skipping fun _ => ?_
  refine .bind exportAliceSecret_listFree fun _ => ?_
  refine .bind derivingKey fun rv => ?_
  refine .bind skipping fun _ => ?_
  exact compareSecrets_listFree

theorem listFree_runHmac : IsListFree (runHmac session) := by
  refine listFree_demo ?_
  refine .bind creating fun rv => ?_
  refine .bind checking fun _ => ?_
  refine .bind showing fun _ => ?_
  refine .forM fun _ _ => ?_
  refine landing ?_
  refine .bind startingSign fun rv => ?_
  refine .bind skipping fun _ => ?_
  refine .bind (issuing rfl) fun answer => ?_
  refine .bind requiring fun _ => ?_
  refine .bind printingHex fun _ => ?_
  refine .bind verifying fun rv => ?_
  refine .bind requiring fun _ => ?_
  exact printing

theorem aesRoundtrip_listFree {mode : CipherMode} : ListFree (aesRoundtrip session mode) := by
  refine .bind printing fun _ => ?_
  refine .bind startingEncrypt fun rv => ?_
  refine .bind checking fun _ => ?_
  refine .bind (issuing rfl) fun answer => ?_
  refine .bind checking fun _ => ?_
  refine .bind printingHex fun _ => ?_
  refine .bind startingDecrypt fun rv => ?_
  refine .bind checking fun _ => ?_
  refine .bind (issuing rfl) fun answer => ?_
  refine .bind checking fun _ => ?_
  refine .ite (fun same => ?_) fun differs => ?_
  · exact printing
  · refine .bind failing fun _ => ?_
    exact leaving

theorem oaepRoundtrip_listFree : ListFree (oaepRoundtrip session) := by
  refine .bind startingEncrypt fun rv => ?_
  refine .ite (fun refused => ?_) fun started => ?_
  · exact printing
  · refine .bind (issuing rfl) fun answer => ?_
    refine .ite (fun refused => ?_) fun encrypted => ?_
    · exact failing
    · refine .bind printingHex fun _ => ?_
      refine .bind startingDecrypt fun rv => ?_
      refine .ite (fun started => ?_) fun refused => ?_
      · refine .bind (issuing rfl) fun answer => ?_
        refine .ite (fun refused => ?_) fun decrypted => ?_
        · exact failing
        · refine .ite (fun same => ?_) fun differs => ?_
          · exact printing
          · exact failing
      · exact failing

theorem rsaOaep_listFree : ListFree (rsaOaep session) := by
  refine .bind printing fun _ => ?_
  refine .bind declaring fun _ => ?_
  refine .bind declaring fun _ => ?_
  refine .bind printing fun _ => ?_
  refine .bind pairing fun rv => ?_
  refine .bind skipping fun _ => ?_
  refine .bind showing fun _ => ?_
  refine .bind oaepRoundtrip_listFree fun _ => ?_
  refine .bind destroying fun _ => ?_
  exact destroying

theorem listFree_runEncryptDecrypt : IsListFree (runEncryptDecrypt session) := by
  refine listFree_demo ?_
  refine .bind generating fun rv => ?_
  refine .bind checking fun _ => ?_
  refine .bind showing fun _ => ?_
  refine .bind aesRoundtrip_listFree fun _ => ?_
  refine .bind aesRoundtrip_listFree fun _ => ?_
  refine .bind destroying fun _ => ?_
  exact rsaOaep_listFree

theorem listFree_laterDemos : ∀ entry ∈ (demos session).tail, IsListFree entry.2 := by
  simp only [demos, List.tail_cons, List.forall_mem_cons]
  exact ⟨listFree_runRandomGen, listFree_runDigest, listFree_runSymKeyGen,
    listFree_runImportObject, listFree_runEcc, listFree_runRsa, listFree_runEcdhDerive,
    listFree_runHmac, listFree_runEncryptDecrypt, nofun⟩

end Demos

end Se05x.Pkcs11
