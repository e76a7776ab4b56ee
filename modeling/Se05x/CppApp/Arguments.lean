import Mathlib.Logic.Function.Basic
import Se05x.CppApp.Crypto
import Se05x.Strtoul

/-!
# Command-line arguments

The option parser, and the checks each command makes on the options it reads.
-/

set_option autoImplicit false

namespace Se05x.CppApp

/-- `std::map<std::string, std::string>`. -/
abbrev Options := String → Option String

def Options.set (opt : Options) (key value : String) : Options :=
  Function.update opt key (some value)

structure Args where
  group : String
  command : String
  positional : String
  opt : Options

def Args.flag (a : Args) (k : String) : Bool := (a.opt k).isSome

/-- An option that is not given reads as the empty string. -/
def Args.get (a : Args) (k : String) : String := (a.opt k).getD ""

def isOption (t : String) : Bool := "--".toList.isPrefixOf t.toList

/-- The loop over the tokens. An option takes the next token whatever it looks like. -/
def scanTokens (opt : Options) (pos : List String) : List String → Options × List String
  | [] => (opt, pos)
  | t :: rest =>
    if isOption t then
      if t = "--force" then scanTokens (opt.set t "1") pos rest
      else
        match rest with
        | value :: rest => scanTokens (opt.set t value) pos rest
        | [] => (opt.set t "1", pos)
    else scanTokens opt (pos ++ [t]) rest

/-- The first element of `argv` is the program's name. -/
def parseArgs (argv : List String) : Args :=
  let (opt, pos) := scanTokens (fun _ => none) [] (argv.drop 1)
  let group := pos[0]?.getD ""
  let command := pos[1]?.getD ""
  let positional := pos[2]?.getD ""
  ⟨group, command, if group = "rng" ∧ positional = "" then command else positional, opt⟩

def parseId (target : Target) (a : Args) : Except CppException KeyId :=
  let s := a.get "--id"
  if s = "" then .error (.argument .idRequired) else .ok (strtoul target s % 2 ^ 32)

def parseCurve (s : String) : Except CppException EcCurve :=
  if s = "" ∨ s = "p256" then .ok .nistP256
  else if s = "p384" then .ok .nistP384
  else if s = "p521" then .ok .nistP521
  else .error (.argument (.unknownCurve s))

def parseBits (s : String) : Except CppException RsaBits :=
  if s = "" ∨ s = "2048" then .ok .rsa2048
  else if s = "3072" then .ok .rsa3072
  else if s = "4096" then .ok .rsa4096
  else .error (.argument (.unknownRsaSize s))

def subject (a : Args) : Except CppException String :=
  let dn := a.get "--subject"
  if dn = "" then .error (.argument .subjectRequired) else .ok dn

example : (parseArgs ["app", "--out", "--id", "ecc", "sign"]).get "--out" = "--id" := by decide

end Se05x.CppApp
