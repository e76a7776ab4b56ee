import Mathlib.Logic.Function.Basic
import Se05x.Interaction.Judging
import Se05x.Pkcs11.Main

/-!
# What the exit status stands for

Which answers of the module count against it. The suite does without key pairs, mechanisms
and derivations a module lacks, and without what it only prints; all else has to succeed, and
every decryption has to give back what was encrypted last.
-/

set_option autoImplicit false

namespace Se05x.Pkcs11

open Der Interaction

def Attribute.idValue : Attribute → Option Bytes
  | .id octets => some octets
  | _ => none

/-- The identifiers of the key pairs a module may decline to make. -/
def optionalPairs : List Bytes := curves.map (·.id) ++ [[0xEF, 0x00, 0x00, 0x51]]

/-- The identifiers of the key pairs whose public points are exchanged. -/
def exchangePairs : List Bytes := [[0xEF, 0x00, 0x00, 0x70], [0xEF, 0x00, 0x00, 0x71]]

def identified (template : Template) (ids : List Bytes) : Bool :=
  (template.findSome? Attribute.idValue).any fun id => decide (id ∈ ids)

def refused (rv : CkRv) : Bool := decide (rv ≠ ckrOk)

/-- What a reader of the calls remembers: whether the session is open, what was to be
encrypted last, and under which handles a key pair for the exchange was made last. -/
structure Observed where
  opened : Bool
  encrypted : Bytes
  exchanging : ObjectHandle → Bool

namespace Observed

def start : Observed := ⟨false, [], fun _ => false⟩

def note (seen : Observed) : Event cryptoki → Observed
  | ⟨.openSession _, opened⟩ => if opened.rv = ckrOk then { seen with opened := true } else seen
  | ⟨.encrypt _ data _, _⟩ => { seen with encrypted := data }
  | ⟨.generateKeyPair _ _ publicTemplate _, pair⟩ =>
    { seen with
      exchanging := Function.update seen.exchanging pair.hPub
        (identified publicTemplate exchangePairs) }
  | _ => seen

def fails (seen : Observed) : Event cryptoki → Bool
  | ⟨.dlopen _, dlerror⟩ => dlerror.isSome
  | ⟨.dlsym _, found⟩ => !found
  | ⟨.getFunctionList, list⟩ => refused list.1 || !list.2
  | ⟨.countSlots _, slots⟩ => refused slots.rv || !seen.opened && decide (slots.count = 0)
  | ⟨.getSlotList _ _, slots⟩ => seen.opened && refused slots.rv
  | ⟨.getInfo, info⟩ => refused info.rv
  | ⟨.openSession _, created⟩ | ⟨.generateKey _ _ _, created⟩ | ⟨.createObject _ _, created⟩ =>
    refused created.rv
  | ⟨.generateKeyPair _ _ publicTemplate _, pair⟩ =>
    !identified publicTemplate optionalPairs && refused pair.rv
  | ⟨.getAttributeValue _ object type _, output⟩ =>
    decide (type = .ecPoint) && seen.exchanging object && refused output.rv
  | ⟨.signInit _ mechanism _, rv⟩ => decide (mechanism.mechanism = .sha256RsaPkcs) && refused rv
  | ⟨.encryptInit _ mechanism _, rv⟩ =>
    decide (mechanism.mechanism ≠ .rsaPkcsOaep) && refused rv
  | ⟨.generateRandom _ _, output⟩ | ⟨.digest _ _ _, output⟩ | ⟨.sign _ _ _, output⟩
  | ⟨.encrypt _ _ _, output⟩ => refused output.rv
  | ⟨.decrypt _ _ _ _, output⟩ => refused output.rv || !roundtrips output seen.encrypted
  | ⟨.cInitialize, rv⟩ | ⟨.verifyInit _ _ _, rv⟩ | ⟨.verify _ _ _ _, rv⟩
  | ⟨.decryptInit _ _ _, rv⟩ | ⟨.findObjectsInit _, rv⟩ => refused rv
  | _ => false

end Observed

/-- The call reads behind the room of an array. -/
def CryptokiCall.strays : CryptokiCall → Bool
  | .readCell _ .outside => true
  | _ => false

/-- A call reports no more than it was given room for. The search is held to it even where it
fails, since its return code is ignored. -/
def withinRoom : Event cryptoki → Bool
  | ⟨.getSlotList _ count, fetched⟩ | ⟨.getMechanismList _ count, fetched⟩ =>
    refused fetched.rv || decide (fetched.count ≤ count)
  | ⟨.findObjects _ count, fetched⟩ => decide (fetched.count ≤ count)
  | ⟨.digest _ _ capacity, output⟩ | ⟨.sign _ _ capacity, output⟩
  | ⟨.encrypt _ _ capacity, output⟩ | ⟨.decrypt _ _ _ capacity, output⟩
  | ⟨.getAttributeValue _ _ _ capacity, output⟩ =>
    refused output.rv || decide (output.length ≤ capacity)
  | _ => true

def verdict : Judge cryptoki Observed := ⟨Observed.note, Observed.fails⟩

end Se05x.Pkcs11
