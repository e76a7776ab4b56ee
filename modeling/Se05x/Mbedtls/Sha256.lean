import Se05x.Der.Pem

/-!
# SHA-256

The digest of the library the examples run with.
-/

set_option autoImplicit false

namespace Se05x.Sha256

open Der

abbrev Word := BitVec 32

/-- The chaining value, and the eight working variables of a block. -/
structure Working where
  a : Word
  b : Word
  c : Word
  d : Word
  e : Word
  f : Word
  g : Word
  h : Word
deriving DecidableEq

def initial : Working :=
  ⟨0x6A09E667, 0xBB67AE85, 0x3C6EF372, 0xA54FF53A, 0x510E527F, 0x9B05688C, 0x1F83D9AB, 0x5BE0CD19⟩

def roundConstants : List Word :=
  [0x428A2F98, 0x71374491, 0xB5C0FBCF, 0xE9B5DBA5, 0x3956C25B, 0x59F111F1, 0x923F82A4, 0xAB1C5ED5,
    0xD807AA98, 0x12835B01, 0x243185BE, 0x550C7DC3, 0x72BE5D74, 0x80DEB1FE, 0x9BDC06A7, 0xC19BF174,
    0xE49B69C1, 0xEFBE4786, 0x0FC19DC6, 0x240CA1CC, 0x2DE92C6F, 0x4A7484AA, 0x5CB0A9DC, 0x76F988DA,
    0x983E5152, 0xA831C66D, 0xB00327C8, 0xBF597FC7, 0xC6E00BF3, 0xD5A79147, 0x06CA6351, 0x14292967,
    0x27B70A85, 0x2E1B2138, 0x4D2C6DFC, 0x53380D13, 0x650A7354, 0x766A0ABB, 0x81C2C92E, 0x92722C85,
    0xA2BFE8A1, 0xA81A664B, 0xC24B8B70, 0xC76C51A3, 0xD192E819, 0xD6990624, 0xF40E3585, 0x106AA070,
    0x19A4C116, 0x1E376C08, 0x2748774C, 0x34B0BCB5, 0x391C0CB3, 0x4ED8AA4A, 0x5B9CCA4F, 0x682E6FF3,
    0x748F82EE, 0x78A5636F, 0x84C87814, 0x8CC70208, 0x90BEFFFA, 0xA4506CEB, 0xBEF9A3F7, 0xC67178F2]

def choose (x y z : Word) : Word := (x &&& y) ^^^ (~~~x &&& z)
def majority (x y z : Word) : Word := (x &&& y) ^^^ (x &&& z) ^^^ (y &&& z)

def bigSigma0 (x : Word) : Word := x.rotateRight 2 ^^^ x.rotateRight 13 ^^^ x.rotateRight 22
def bigSigma1 (x : Word) : Word := x.rotateRight 6 ^^^ x.rotateRight 11 ^^^ x.rotateRight 25
def smallSigma0 (x : Word) : Word := x.rotateRight 7 ^^^ x.rotateRight 18 ^^^ x >>> 3
def smallSigma1 (x : Word) : Word := x.rotateRight 17 ^^^ x.rotateRight 19 ^^^ x >>> 10

/-- A one bit, zeros up to eight bytes before a block's end, and the length in bits. -/
def pad (message : Bytes) : Bytes :=
  message ++ 0x80 :: List.replicate ((119 - message.length % 64) % 64) 0 ++
    (List.range 8).map fun place => UInt8.ofNat (message.length * 8 / 256 ^ (7 - place))

def wordAt (bytes : Bytes) (place : Nat) : Word :=
  ((bytes.drop (4 * place)).take 4).foldl
    (fun word byte => word <<< 8 ||| BitVec.ofNat 32 byte.toNat) 0

/-- The block's sixteen words and the forty-eight derived from them. -/
def schedule (block : Bytes) : List Word :=
  (List.range 48).foldl
    (fun words step => words ++ [words.getD step 0 + smallSigma0 (words.getD (step + 1) 0) +
      words.getD (step + 9) 0 + smallSigma1 (words.getD (step + 14) 0)])
    ((List.range 16).map (wordAt block))

def round (w : Working) (input : Word × Word) : Working :=
  let t1 := w.h + bigSigma1 w.e + choose w.e w.f w.g + input.1 + input.2
  let t2 := bigSigma0 w.a + majority w.a w.b w.c
  ⟨t1 + t2, w.a, w.b, w.c, w.d + t1, w.e, w.f, w.g⟩

def compress (chaining : Working) (block : Bytes) : Working :=
  let w := (roundConstants.zip (schedule block)).foldl round chaining
  ⟨chaining.a + w.a, chaining.b + w.b, chaining.c + w.c, chaining.d + w.d,
    chaining.e + w.e, chaining.f + w.f, chaining.g + w.g, chaining.h + w.h⟩

def blocks (padded : Bytes) : List Bytes :=
  (List.range (padded.length / 64)).map fun place => (padded.drop (64 * place)).take 64

def Working.toVector (w : Working) : Vector Word 8 := #v[w.a, w.b, w.c, w.d, w.e, w.f, w.g, w.h]

/-- Every word gives four bytes, the most significant one first. -/
def hash (message : Bytes) : Vector UInt8 32 :=
  let digest := ((blocks (pad message)).foldl compress initial).toVector
  Vector.ofFn fun place : Fin 32 =>
    UInt8.ofNat ((digest.get ⟨place.val / 4, by omega⟩).toNat / 256 ^ (3 - place.val % 4))

example : hash (asciiBytes "abc") =
    #v[0xBA, 0x78, 0x16, 0xBF, 0x8F, 0x01, 0xCF, 0xEA, 0x41, 0x41, 0x40, 0xDE, 0x5D, 0xAE, 0x22, 0x23,
      0xB0, 0x03, 0x61, 0xA3, 0x96, 0x17, 0x7A, 0x9C, 0xB4, 0x10, 0xFF, 0x61, 0xF2, 0x00, 0x15, 0xAD] := by
  decide +kernel

end Se05x.Sha256
