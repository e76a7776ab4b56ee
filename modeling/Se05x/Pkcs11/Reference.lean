import Se05x.Pkcs11.Main

/-!
# A module

Every call succeeds: handles count up, a decryption returns what was last encrypted, and an
exported value is 32 equal octets chosen by the number of keys derived so far.
-/

set_option autoImplicit false

namespace Se05x.Pkcs11

open Der Interaction

structure ModuleState where
  nextHandle : ObjectHandle
  encrypted : Bytes
  derived : Nat
deriving DecidableEq, Repr

namespace ModuleState

def start : ModuleState := ⟨1, [], 0⟩

/-- The answer of a creating call, and the state with the next handle. -/
def create (s : ModuleState) : Created × ModuleState :=
  (⟨ckrOk, s.nextHandle⟩, { s with nextHandle := s.nextHandle + 1 })

end ModuleState

def filled (capacity : Nat) (octet : UInt8) : Output capacity :=
  ⟨ckrOk, Vector.replicate capacity octet, capacity⟩

def emptyList (capacity : Nat) : Listed capacity := ⟨ckrOk, Vector.replicate capacity none, 0⟩

/-- What was not written reads as zero. -/
def Cell.zeroed : (cell : Cell) → cell.Answer
  | .written _ => ()
  | .unwritten | .outside => (0 : Nat)

def exampleModule (secret : Nat → UInt8) : Server cryptoki ModuleState := fun s request =>
  match request with
  | .dlopen _ => (none, s)
  | .dlsym _ => (true, s)
  | .getFunctionList => ((ckrOk, true), s)
  | .dlclose | .printf _ | .printError _ => ((), s)
  | .readCell _ cell => (cell.zeroed, s)
  | .getInfo => (⟨ckrOk, "NXP", "SSS PKCS#11", ⟨1, 0⟩, ⟨2, 40⟩⟩, s)
  | .countSlots _ => (⟨ckrOk, 1⟩, s)
  | .countMechanisms _ => (⟨ckrOk, 0⟩, s)
  | .getSlotList _ count => (⟨ckrOk, Vector.replicate count (some 1), count⟩, s)
  | .getMechanismList _ count => (emptyList count, s)
  | .getSlotInfo _ => (⟨ckrOk, "slot", ⟨1, 0⟩, ⟨1, 0⟩⟩, s)
  | .getTokenInfo _ => (⟨ckrOk, "token", "NXP", "SE051"⟩, s)
  | .openSession _ => (⟨ckrOk, 1⟩, s)
  | .generateKey _ _ _ | .createObject _ _ => s.create
  | .deriveKey _ _ _ _ => (⟨ckrOk, s.nextHandle⟩,
      { s with nextHandle := s.nextHandle + 1, derived := s.derived + 1 })
  | .generateKeyPair _ _ _ _ => (⟨ckrOk, s.nextHandle, s.nextHandle + 1⟩,
      { s with nextHandle := s.nextHandle + 2 })
  | .generateRandom _ length => (filled length 0x5A, s)
  | .digest _ _ capacity => (filled capacity 0xD1, s)
  | .sign _ _ capacity => (filled capacity 0x51, s)
  | .encrypt _ data capacity => (filled capacity 0xC7, { s with encrypted := data })
  | .decrypt _ _ _ _ => (⟨ckrOk, Vector.ofFn fun i => s.encrypted.getD i.val 0,
      s.encrypted.length⟩, s)
  | .getAttributeValue _ _ _ capacity => (filled capacity (secret s.derived), s)
  | .getObjectClass _ _ => (⟨ckrOk, .other 0⟩, s)
  | .findObjects _ maxObjectCount => (emptyList maxObjectCount, s)
  | .cInitialize | .cFinalize | .closeSession _ | .digestInit _ _ | .destroyObject _ _
  | .signInit _ _ _ | .verifyInit _ _ _ | .verify _ _ _ _ | .encryptInit _ _ _
  | .decryptInit _ _ _ | .findObjectsInit _ | .findObjectsFinal _ => (ckrOk, s)

def exampleTrace (secret : Nat → UInt8) : List (Event cryptoki) :=
  (main ["pkcs11_demo"]).transcript (exampleModule secret) .start

theorem exampleTrace_runs {secret : Nat → UInt8}
    (passed : ((main ["pkcs11_demo"]).exec (exampleModule secret) .start).1 = 0) :
    (main ["pkcs11_demo"]).Runs (exampleTrace secret) 0 :=
  passed ▸ Program.runs_transcript

end Se05x.Pkcs11
