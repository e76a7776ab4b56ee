import Se05x.CppApp.CommandsProperties
import Se05x.Sss.KeyLaws

/-!
# One invocation after another

What a sequence of invocations leaves alone, and what a later invocation gets back that an
earlier one left behind.
-/

set_option autoImplicit false

namespace Se05x.CppApp

open Der Interaction SecureElement

/-- The identifiers whose objects a command may replace or remove. -/
def Command.targets : Command → List KeyId
  | .provision keyId _ _ => [keyId]
  | .agree _ _ => [0xEF009E01, 0xEF009E02]
  | .random _ | .publicKey _ _ | .sign _ _ _ | .verify _ _ _ _ | .encrypt _ _ | .decrypt _ _
  | .request _ _ _ => []

/-- The invocation neither provisions this key nor uses its identifier for scratch. -/
def Spares (target : Target) (keyId : KeyId) (argv : List String) : Prop :=
  ∀ command, Command.ofArgs target (parseArgs argv) = some command → keyId ∉ command.targets

/-- The invocation writes to no file or to another one. -/
def Leaves (platform : Platform) (file : Nat) (argv : List String) : Prop :=
  (parseArgs argv).get "--out" = "" ∨ platform.resolve ((parseArgs argv).get "--out") ≠ file

/-- The invocation stands for a command whose result goes to a file, or to the terminal. -/
structure Asks (platform : Platform) (target : Target) (argv : List String) (command : Command)
    (out : String) : Prop where
  command : Command.ofArgs target (parseArgs argv) = some command
  out : (parseArgs argv).get "--out" = out
  connects : platform.connects (parseArgs argv) = true

/-- Every key pair in the store was drawn by a generation. -/
def Stocked {element : SecureElement} (store : State element) : Prop :=
  ∀ keyId key, store.objects keyId = some (.pair key) → element.Drawn key

section Frames

variable {element : SecureElement} {platform : Platform} {machine : Machine element}
  {mbedtls : Mbedtls} {nameDer : mbedtls.Names → Bytes} {target : Target} {keyId : KeyId} {file : Nat}

theorem accept_store {out : String} {filed shown : Bytes} :
    (machine.accept platform out filed shown).2.store = machine.store := by
  rw [Machine.accept]
  split
  · rfl
  · split <;> rfl

theorem accept_files {out : String} {filed shown : Bytes}
    (elsewhere : out = "" ∨ platform.resolve out ≠ file) :
    (machine.accept platform out filed shown).2.files file = machine.files file := by
  rw [Machine.accept]
  split
  · rfl
  next named =>
      split
      · exact Function.update_of_ne (elsewhere.resolve_left named).symm _ _
      · rfl

theorem hand_store {out : String} {product : Product} :
    (machine.hand platform out product).2.store = machine.store := by
  cases product with
  | bytes data => exact accept_store
  | text text => exact accept_store
  | verdict valid => rfl

theorem hand_files {out : String} {product : Product}
    (elsewhere : out = "" ∨ platform.resolve out ≠ file) :
    (machine.hand platform out product).2.files file = machine.files file := by
  cases product with
  | bytes data => exact accept_files elsewhere
  | text text => exact accept_files elsewhere
  | verdict valid => rfl

theorem settle_store {out : String} {result : Option Product} {store : State element} :
    (machine.settle platform out (result, store)).2.store = store := by
  cases result with
  | none => rfl
  | some product => exact hand_store

theorem settle_files {out : String} {result : Option Product × State element}
    (elsewhere : out = "" ∨ platform.resolve out ≠ file) :
    (machine.settle platform out result).2.files file = machine.files file := by
  obtain ⟨result, store⟩ := result
  cases result with
  | none => rfl
  | some product => exact hand_files elsewhere

theorem exchanged_objects {store : State element} {der : Bytes} {other : KeyId}
    (apart : other ∉ [0xEF009E01, 0xEF009E02]) :
    (exchanged store keyId der).2.objects other = store.objects other := by
  simp only [List.mem_cons, List.not_mem_nil, or_false, not_or] at apart
  rw [exchanged]
  split
  · split
    · exact State.store_other _ _ apart.1
    · exact objects_scratched apart
  · rfl

theorem perform_objects {command : Command} {read : String → Option Bytes} {store : State element}
    (untargeted : keyId ∉ command.targets) :
    (command.perform mbedtls nameDer read store).2.objects keyId = store.objects keyId := by
  cases command with
  | provision other force kind =>
      have apart : keyId ≠ other := fun same => untargeted (List.mem_singleton.mpr same)
      have cleared : (if force then store.store other none else store).objects keyId =
          store.objects keyId := by
        split
        · exact State.store_other _ _ apart
        · rfl
      cases kind with
      | none => exact cleared
      | some kind => exact (State.store_other _ _ apart).trans cleared
  | agree own peer =>
      rw [Command.perform]
      split
      · rfl
      · exact exchanged_objects untargeted
  | random | publicKey | sign | verify | encrypt | decrypt | request => rfl

/-- The store after an invocation that connects is its command's. -/
theorem invoke_store {argv : List String} :
    (machine.invoke platform mbedtls nameDer target argv).2.store = machine.store ∨
      ∃ command, Command.ofArgs target (parseArgs argv) = some command ∧
        (machine.invoke platform mbedtls nameDer target argv).2.store =
          (command.perform mbedtls nameDer (machine.read platform) machine.store).2 := by
  rw [Machine.invoke]
  dsimp only
  by_cases connects : platform.connects (parseArgs argv)
  · rw [if_pos connects]
    cases meant : Command.ofArgs target (parseArgs argv) with
    | none => exact .inl rfl
    | some command => exact .inr ⟨command, rfl, settle_store⟩
  · rw [if_neg connects]
    exact .inl rfl

theorem invoke_keeps_object {argv : List String} (spares : Spares target keyId argv) :
    (machine.invoke platform mbedtls nameDer target argv).2.store.objects keyId =
      machine.store.objects keyId := by
  rcases @invoke_store _ platform machine mbedtls nameDer target argv with same | ⟨command, meant, same⟩
  · rw [same]
  · rw [same, perform_objects (spares command meant)]

theorem invoke_keeps_file {argv : List String} (leaves : Leaves platform file argv) :
    (machine.invoke platform mbedtls nameDer target argv).2.files file = machine.files file := by
  rw [Machine.invoke]
  dsimp only
  split
  · cases Command.ofArgs target (parseArgs argv) with
    | none => rfl
    | some command => exact settle_files leaves
  · rfl

theorem stocked_store {store : State element} {object : Option (StoredObject element.Key)}
    (stocked : Stocked store) (drawn : ∀ key, object = some (.pair key) → element.Drawn key) :
    Stocked (store.store keyId object) := by
  intro other key stored
  by_cases same : other = keyId
  · rw [same, State.store_objects] at stored
    exact drawn key stored
  · rw [State.store_other _ _ same] at stored
    exact stocked other key stored

end Frames

/-! ## What an invocation leaves for later ones -/

theorem pairAt_eq_some_iff {element : SecureElement} {store : State element} {keyId : KeyId}
    {key : element.Key} : store.pairAt keyId = some key ↔ store.objects keyId = some (.pair key) := by
  rw [State.pairAt]
  constructor
  · intro paired
    cases found : store.objects keyId with
    | none =>
        rw [found] at paired
        cases paired
    | some object =>
        rw [found] at paired
        cases object with
        | pair other => rw [Option.some.inj paired]
        | publicKey der => cases paired
        | secret bytes => cases paired
  · intro stored
    rw [stored]
    rfl

/-- What a file gets of a result. -/
def Product.filed : Product → Option Bytes
  | .bytes data => some data
  | .text contents => some contents
  | .verdict _ => none

/-- Bytes are printed if no file is named for them, and lost with an exit code of 1 if the file
cannot be opened. -/
def Machine.deliver {element : SecureElement} (platform : Platform) (machine : Machine element)
    (out : String) (data : Bytes) : Nat × Machine element :=
  if out = "" then (0, machine.print (hexLine data))
  else if platform.writable out then (0, machine.write platform out data)
  else (1, machine)

section Successes

variable {element : SecureElement} {platform : Platform} {machine : Machine element}
  {mbedtls : Mbedtls} {nameDer : mbedtls.Names → Bytes} {target : Target} {argv : List String}
  {command : Command} {out : String}

theorem Asks.invoke (asks : Asks platform target argv command out) :
    machine.invoke platform mbedtls nameDer target argv =
      ((machine.settle platform out
          (command.perform mbedtls nameDer (machine.read platform) machine.store)).1.getD 1,
        (machine.settle platform out
          (command.perform mbedtls nameDer (machine.read platform) machine.store)).2) := by
  rw [Machine.invoke, if_pos asks.connects, asks.command, Machine.obey, asks.out]

theorem accept_filed {filed shown : Bytes} (named : out ≠ "")
    (accepted : (machine.accept platform out filed shown).1 = some ()) :
    (machine.accept platform out filed shown).2.files (platform.resolve out) = some filed := by
  rw [Machine.accept, if_neg named] at accepted ⊢
  by_cases writable : platform.writable out
  · rw [if_pos writable]
    exact Function.update_self _ _ _
  · rw [if_neg writable] at accepted
    cases accepted

theorem hand_filed {product : Product} {data : Bytes} (named : out ≠ "")
    (handed : (machine.hand platform out product).1 = some ()) (filed : product.filed = some data) :
    (machine.hand platform out product).2.files (platform.resolve out) = some data := by
  cases product with
  | bytes bytes =>
      cases filed
      exact accept_filed named handed
  | text text =>
      cases filed
      exact accept_filed named handed
  | verdict valid => cases filed

/-- An exit code of zero means that there was a result and that it went where it should. -/
theorem Asks.succeeds (asks : Asks platform target argv command out)
    (zero : (machine.invoke platform mbedtls nameDer target argv).1 = 0) :
    ∃ product, (command.perform mbedtls nameDer (machine.read platform) machine.store).1 =
        some product ∧ product.exitCode = 0 ∧
      (out ≠ "" → ∀ data, product.filed = some data →
        (machine.invoke platform mbedtls nameDer target argv).2.files (platform.resolve out) =
          some data) := by
  rw [asks.invoke] at zero ⊢
  cases performed : command.perform mbedtls nameDer (machine.read platform) machine.store with
  | mk result store =>
      rw [performed] at zero
      cases result with
      | none => cases zero
      | some product =>
          change ((((machine.withStore store).hand platform out product).1.map
            fun _ => product.exitCode).getD 1) = 0 at zero
          cases handed : ((machine.withStore store).hand platform out product).1 with
          | none =>
              rw [handed] at zero
              cases zero
          | some done =>
              rw [handed] at zero
              exact ⟨product, rfl, zero, fun named data => hand_filed named handed⟩

theorem Asks.prints (asks : Asks platform target argv command out) {valid : Bool}
    (performed : command.perform mbedtls nameDer (machine.read platform) machine.store =
      (some (.verdict valid), machine.store)) :
    machine.invoke platform mbedtls nameDer target argv =
      (if valid then 0 else 2,
        machine.print (asciiBytes (if valid then "VERIFY OK\n" else "VERIFY FAILED\n"))) := by
  rw [asks.invoke, performed]
  cases valid <;> rfl

theorem Asks.delivers (asks : Asks platform target argv command out) {data : Bytes}
    {store : State element}
    (performed : command.perform mbedtls nameDer (machine.read platform) machine.store =
      (some (.bytes data), store)) :
    machine.invoke platform mbedtls nameDer target argv =
      (machine.withStore store).deliver platform out data := by
  rw [asks.invoke, performed, Machine.settle, Machine.hand, Machine.accept, Machine.deliver]
  split
  · rfl
  · split
    · rfl
    · rfl

theorem Asks.writes (asks : Asks platform target argv command out) {data : Bytes}
    {store : State element} (named : out ≠ "") (writable : platform.writable out = true)
    (performed : command.perform mbedtls nameDer (machine.read platform) machine.store =
      (some (.bytes data), store)) :
    machine.invoke platform mbedtls nameDer target argv =
      (0, (machine.withStore store).write platform out data) := by
  rw [asks.delivers performed, Machine.deliver, if_neg named, if_pos writable]

theorem Asks.leaves {file : Nat} (asks : Asks platform target argv command out)
    (apart : platform.resolve out ≠ file) : Leaves platform file argv := by
  rw [Leaves, asks.out]
  exact .inr apart

theorem Asks.spares {keyId : KeyId} (asks : Asks platform target argv command out)
    (untargeted : keyId ∉ command.targets) : Spares target keyId argv := by
  intro other meant
  rw [asks.command] at meant
  cases meant
  exact untargeted

end Successes

end Se05x.CppApp
