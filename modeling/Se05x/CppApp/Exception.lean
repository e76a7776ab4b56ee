import Se05x.Sss.Status

/-!
# Exceptions of the C++ program

A `CryptoError` reports a failed call of the secure subsystem or of mbedTLS. The
program's own argument checks throw `std::runtime_error`, allocations the standard ones.
-/

set_option autoImplicit false

namespace Se05x.CppApp

/-- Rejections of the command line by the program itself. -/
inductive ArgumentError where
  | idRequired
  | subjectRequired
  | unknownCurve (curve : String)
  | unknownRsaSize (size : String)
  | unknownEccCommand (command : String)
  | unknownRsaCommand (command : String)
  | cannotOpenInput (path : String)
  | rngUsage
deriving DecidableEq, Repr

def ArgumentError.message : ArgumentError → String
  | .idRequired => "--id is required"
  | .subjectRequired => "--subject is required"
  | .unknownCurve curve => "unknown curve: " ++ curve
  | .unknownRsaSize size => "unknown RSA size: " ++ size
  | .unknownEccCommand command => "unknown ecc command: " ++ command
  | .unknownRsaCommand command => "unknown rsa command: " ++ command
  | .cannotOpenInput path => "cannot open input file: " ++ path
  | .rngUsage => "usage: rng <nbytes>"

inductive CppException where
  | crypto (message : String) (status : SssStatus)
  | argument (error : ArgumentError)
  | cannotOpenOutput (path : String)
  | inputFailed (what : String)
  | badAlloc
  | lengthError
deriving DecidableEq, Repr

/-- Hexadecimal digits, padded with zeros on the left. -/
def hexText (width value : Nat) : String :=
  let digits := Nat.toDigits 16 value
  String.ofList (List.replicate (width - digits.length) '0' ++ digits)

def CppException.what (statusCode : SssStatus → Nat) : CppException → String
  | .crypto message status =>
    message ++ " (sss_status=0x" ++ hexText 4 (statusCode status) ++ ")"
  | .argument error => error.message
  | .cannotOpenOutput path => "cannot open output file: " ++ path
  | .inputFailed what => what
  | .badAlloc => "std::bad_alloc"
  | .lengthError => "cannot create std::vector larger than max_size()"

/-- A `CryptoError` raised without a status of the secure subsystem. -/
def cryptoError (message : String) : CppException := .crypto message .fail

end Se05x.CppApp
