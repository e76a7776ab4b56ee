import Se05x.CppApp.Arguments

/-!
# The command-line program

One invocation parses its arguments, opens a session, performs one command, and closes the
session again.
-/

set_option autoImplicit false

namespace Se05x.CppApp

open Der Interaction

def readFile (path : String) : Cpp Bytes := do
  match ← ExceptT.lift (ask (.readFile path)) with
  | .cannotOpen => throw (.argument (.cannotOpenInput path))
  | .failed what => throw (.inputFailed what)
  | .contents bytes => return bytes

/-- The state of the stream after `f.write` is not looked at. -/
def writeFile (path : String) (d : Bytes) : Cpp Unit := do
  let opened ← ExceptT.lift (ask (.writeFile path d))
  if opened then pure () else throw (.cannotOpenOutput path)

def printOut (text : Bytes) : Cpp Unit := ExceptT.lift (ask (.printOut text))
def printError (text : String) : Cpp Unit := ExceptT.lift (ask (.printError text))

def printHex (d : Bytes) : Cpp Unit :=
  printOut (d.flatMap (fun b => asciiBytes (hexText 2 b.toNat)) ++ asciiBytes "\n")

def emit (a : Args) (d : Bytes) : Cpp Unit := do
  let out := a.get "--out"
  if out ≠ "" then
    writeFile out d
    printError ("[+] wrote " ++ toString d.length ++ " bytes to " ++ out ++ "\n")
  else
    printHex d

/-- Standard output gets the text as a C string, up to its first NUL. -/
def emitText (a : Args) (text : Bytes) : Cpp Unit := do
  let out := a.get "--out"
  if out ≠ "" then
    writeFile out text
    printError ("[+] wrote " ++ out ++ "\n")
  else
    printOut (text.takeWhile (· ≠ 0))

/-- The result of hashing is not looked at; the vector starts out zeroed. -/
def sha256 (mbedtls : Mbedtls) (msg : Bytes) : Bytes :=
  ((mbedtls.sha256Ret msg).getD (Vector.replicate 32 0)).toList

/-- `try { eraseKey } catch (...) {}`. -/
def tryErase (keyId : KeyId) : Cpp Unit :=
  tryCatch (eraseKey keyId) fun _ => pure ()

def eraseIfForced (a : Args) (keyId : KeyId) : Cpp Unit :=
  if a.flag "--force" then tryErase keyId else pure ()

def idText (keyId : KeyId) : String := (hexText 8 keyId).map Char.toUpper

variable (mbedtls : Mbedtls) (target : Target)

def doRng (a : Args) : Cpp Nat := do
  if a.positional = "" then throw (.argument .rngUsage)
  else
    let n := strtoul target a.positional
    emit a (← getRandom n)
    return 0

def doEcc (a : Args) : Cpp Nat := do
  let cmd := a.command
  if cmd = "genkey" ∨ cmd = "provision" then
    let id ← liftExcept (parseId target a)
    eraseIfForced a id
    let curve ← liftExcept (parseCurve (a.get "--curve"))
    let k ← EcKey.generate id curve
    printError ("[+] EC key provisioned (id=0x" ++ idText id ++ ")\n")
    emit a (← k.publicKeyDer)
    return 0
  else if cmd = "pub" then
    let k ← EcKey.open (← liftExcept (parseId target a))
    emit a (← k.publicKeyDer)
    return 0
  else if cmd = "sign" then
    let k ← EcKey.open (← liftExcept (parseId target a))
    let k := k.setSigAlgo .sha256
    let digest := sha256 mbedtls (← readFile (a.get "--in"))
    emit a (← k.sign digest)
    return 0
  else if cmd = "verify" then
    let k ← EcKey.open (← liftExcept (parseId target a))
    let k := k.setSigAlgo .sha256
    let digest := sha256 mbedtls (← readFile (a.get "--in"))
    let sig ← readFile (a.get "--sig")
    let ok ← k.verify digest sig
    printOut (asciiBytes (if ok then "VERIFY OK\n" else "VERIFY FAILED\n"))
    return if ok then 0 else 2
  else if cmd = "ecdh" then
    let k ← EcKey.open (← liftExcept (parseId target a))
    let peer ← readFile (a.get "--peer")
    emit a (← k.ecdh peer)
    return 0
  else if cmd = "csr" then
    let k ← EcKey.open (← liftExcept (parseId target a))
    let k := k.setSigAlgo .sha256
    let dn ← liftExcept (subject a)
    emitText a (← k.makeCsr mbedtls target dn)
    return 0
  else throw (.argument (.unknownEccCommand cmd))

def doRsa (a : Args) : Cpp Nat := do
  let cmd := a.command
  if cmd = "genkey" ∨ cmd = "provision" then
    let id ← liftExcept (parseId target a)
    eraseIfForced a id
    let bits ← liftExcept (parseBits (a.get "--bits"))
    let k ← RsaKey.generate id bits
    printError ("[+] RSA key provisioned (id=0x" ++ idText id ++ ")\n")
    emit a (← k.publicKeyDer)
    return 0
  else if cmd = "pub" then
    let k ← RsaKey.open (← liftExcept (parseId target a))
    emit a (← k.publicKeyDer)
    return 0
  else if cmd = "sign" then
    let k ← RsaKey.open (← liftExcept (parseId target a))
    let digest := sha256 mbedtls (← readFile (a.get "--in"))
    emit a (← k.sign digest)
    return 0
  else if cmd = "verify" then
    let k ← RsaKey.open (← liftExcept (parseId target a))
    let digest := sha256 mbedtls (← readFile (a.get "--in"))
    let sig ← readFile (a.get "--sig")
    let ok ← k.verify digest sig
    printOut (asciiBytes (if ok then "VERIFY OK\n" else "VERIFY FAILED\n"))
    return if ok then 0 else 2
  else if cmd = "encrypt" then
    let k ← RsaKey.open (← liftExcept (parseId target a))
    emit a (← k.encrypt (← readFile (a.get "--in")))
    return 0
  else if cmd = "decrypt" then
    let k ← RsaKey.open (← liftExcept (parseId target a))
    emit a (← k.decrypt (← readFile (a.get "--in")))
    return 0
  else if cmd = "csr" then
    let k ← RsaKey.open (← liftExcept (parseId target a))
    let dn ← liftExcept (subject a)
    emitText a (← k.makeCsr mbedtls target dn)
    return 0
  else throw (.argument (.unknownRsaCommand cmd))

def usageText (prog : String) : String :=
  "Usage: " ++ prog ++ " [--port <conn>] <group> <command> [options]\n\n" ++
  "Groups:\n" ++
  "  rng <nbytes>\n" ++
  "  ecc genkey|pub|sign|verify|ecdh|csr\n" ++
  "  rsa genkey|pub|sign|verify|encrypt|decrypt|csr\n\n" ++
  "Common options: --id <hex>  --in <file>  --out <file>  --sig <file>\n" ++
  "  --curve p256|p384|p521   --bits 2048|3072|4096\n" ++
  "  --peer <pub.der>  --subject \"CN=...,O=...\"  --force\n\n" ++
  "Connect string via --port or $EX_SSS_BOOT_SSS_PORT.\n"

def usage (argv : List String) : Program host Unit :=
  ask (.printError (usageText (argv.headD "(null)")))

/-- The body of the `try` block. -/
def dispatch (argv : List String) (a : Args) : Cpp Nat :=
  if a.group = "rng" then doRng target a
  else if a.group = "ecc" then doEcc mbedtls target a
  else if a.group = "rsa" then doRsa mbedtls target a
  else do
    ExceptT.lift (usage argv)
    return 1

/-- The exit code, and the exception that led to it. -/
structure Ending where
  rc : Nat
  raised : Option CppException
deriving DecidableEq

variable (statusCode : SssStatus → Nat)

def perform (argv : List String) (a : Args) : Program host Ending := do
  match ← (dispatch mbedtls target argv a).run with
  | .ok rc => return ⟨rc, none⟩
  | .error e =>
    ask (.printError ("[!] " ++ e.what statusCode ++ "\n"))
    return ⟨1, some e⟩

/-- What follows once the session is open and its key store is ready. -/
def inSession (argv : List String) (a : Args) : Program host Ending := do
  let ending ← perform mbedtls target statusCode argv a
  ask .sessionClose
  return ending

def connectString (a : Args) : Program host (Option String) :=
  let port := a.get "--port"
  if port ≠ "" then pure (some port) else ask (.getenv "EX_SSS_BOOT_SSS_PORT")

def main (argv : List String) : Program host Ending := do
  let a := parseArgs argv
  if argv.length < 2 ∨ a.group = "" then
    usage argv
    return ⟨1, none⟩
  else
    let st ← ask (.bootOpen (← connectString a))
    if st ≠ .success then
      ask (.printError ("[!] ex_sss_boot_open failed (0x" ++ hexText 4 (statusCode st) ++
        "). Set --port or $EX_SSS_BOOT_SSS_PORT.\n"))
      return ⟨1, none⟩
    else
      let st ← ask .keyStoreAndObjectInit
      if st ≠ .success then
        ask (.printError ("[!] key store init failed (0x" ++ hexText 4 (statusCode st) ++ ")\n"))
        ask .sessionClose
        return ⟨1, none⟩
      else
        inSession mbedtls target statusCode argv a

end Se05x.CppApp
