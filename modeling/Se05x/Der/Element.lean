import Mathlib.Data.Nat.Digits.Lemmas

/-!
# Tag-length-value elements

The distinguished encoding of one element and a strict reader for it. The reader
accepts low tag numbers, definite lengths in their shortest form, and nothing else;
it is exact in both directions on the elements the encoding can express.
-/

set_option autoImplicit false

namespace Der

abbrev Bytes := List UInt8

/-- Base-256 digits, most significant first, without a leading zero. -/
def bigEndian (value : Nat) : Bytes :=
  (Nat.digits 256 value).reverse.map UInt8.ofNat

def valueOf (octets : Bytes) : Nat :=
  Nat.ofDigits 256 (octets.map UInt8.toNat).reverse

/-- The shortest definite form of a length. -/
def lengthOctets (length : Nat) : Bytes :=
  if length < 128 then [UInt8.ofNat length]
  else UInt8.ofNat (128 + (bigEndian length).length) :: bigEndian length

def element (tag : UInt8) (content : Bytes) : Bytes :=
  tag :: (lengthOctets content.length ++ content)

/-- The length of an element whose content has this length. -/
def elementLength (length : Nat) : Nat := 1 + (lengthOctets length).length + length

/-- The content of an INTEGER that is not negative: a zero octet keeps the sign bit clear. -/
def naturalContent (value : Nat) : Bytes :=
  match bigEndian value with
  | [] => [0]
  | first :: rest => if first.toNat < 128 then first :: rest else 0 :: first :: rest

/-- Read a length and refuse the indefinite form, the reserved first octet, leading
zeros, and a long form where the short one suffices. -/
def readLength : Bytes → Option (Nat × Bytes)
  | [] => none
  | first :: rest =>
    if first.toNat < 128 then some (first.toNat, rest)
    else
      let octets := rest.take (first.toNat - 128)
      if first.toNat ≠ 255 ∧ octets.length = first.toNat - 128 ∧ octets.head? ≠ some 0 ∧
          128 ≤ valueOf octets then
        some (valueOf octets, rest.drop (first.toNat - 128))
      else none

structure Element where
  tag : UInt8
  content : Bytes
deriving DecidableEq, Repr

def Element.encoding (value : Element) : Bytes := element value.tag value.content

/-- A tag whose number fits the identifier octet. -/
def LowTag (tag : UInt8) : Prop := tag.toNat % 32 ≠ 31

instance (tag : UInt8) : Decidable (LowTag tag) := inferInstanceAs (Decidable (_ ≠ _))

def readElement : Bytes → Option (Element × Bytes)
  | [] => none
  | tag :: rest =>
    match readLength rest with
    | none => none
    | some (length, body) =>
      if LowTag tag ∧ length ≤ body.length then
        some (⟨tag, body.take length⟩, body.drop length)
      else none

/-- Read every element of a content, to its last byte. The count bounds how many. -/
def readElements : Nat → Bytes → Option (List Element)
  | _, [] => some []
  | 0, _ :: _ => none
  | count + 1, byte :: bytes =>
    match readElement (byte :: bytes) with
    | none => none
    | some (head, rest) => (readElements count rest).map (head :: ·)

/-- Read one element that is the whole input. -/
def readWhole (bytes : Bytes) : Option Element :=
  match readElement bytes with
  | some (value, []) => some value
  | _ => none

/-- One strict element with the given tag, whose length the definite form can express. -/
def IsElement (tag : UInt8) (bytes : Bytes) : Prop :=
  ∃ content : Bytes, content.length < 256 ^ 126 ∧ bytes = element tag content

theorem valueOf_bigEndian (value : Nat) : valueOf (bigEndian value) = value := by
  have digits : (Nat.digits 256 value).map (UInt8.toNat ∘ UInt8.ofNat) = Nat.digits 256 value := by
    conv_rhs => rw [← List.map_id (Nat.digits 256 value)]
    apply List.map_congr_left
    intro digit member
    exact UInt8.toNat_ofNat_of_lt' (Nat.digits_lt_base (by decide) member)
  simp only [valueOf, bigEndian, List.map_map, List.map_reverse, List.reverse_reverse, digits]
  exact Nat.ofDigits_digits 256 value

theorem bigEndian_length_le {value count : Nat} (bound : value < 256 ^ count) :
    (bigEndian value).length ≤ count := by
  simpa [bigEndian] using (Nat.digits_length_le_iff (by decide) value).mpr bound

theorem element_length (tag : UInt8) (content : Bytes) :
    (element tag content).length = elementLength content.length := by
  simp only [element, elementLength, List.length_cons, List.length_append]
  omega

theorem elementLength_mono {shorter longer : Nat} (ordered : shorter ≤ longer) :
    elementLength shorter ≤ elementLength longer := by
  have digits : (bigEndian shorter).length ≤ (bigEndian longer).length := by
    simpa [bigEndian] using Nat.le_length_digits_le 256 _ _ ordered
  simp only [elementLength, lengthOctets]
  split <;> split <;> simp only [List.length_cons, List.length_nil] <;> omega

theorem elementLength_le {length count : Nat} (bound : length < 256 ^ count) :
    elementLength length ≤ length + count + 2 := by
  have digits := bigEndian_length_le bound
  simp only [elementLength, lengthOctets]
  split <;> simp only [List.length_cons, List.length_nil] <;> omega

/-- The header of a content below 16 MiB takes at most five bytes. -/
theorem elementLength_le_add {length limit : Nat} (bound : length ≤ limit)
    (small : limit < 256 ^ 3) : elementLength length ≤ limit + 5 :=
  (elementLength_mono bound).trans (elementLength_le small)

/-- The header of a content below 64 KiB takes at most four bytes. -/
theorem element_length_le (tag : UInt8) (content : Bytes) (bound : content.length < 65536) :
    (element tag content).length ≤ content.length + 4 := by
  rw [element_length]
  exact @elementLength_le _ 2 bound

theorem bigEndian_head_ne_zero {value : Nat} (positive : value ≠ 0) :
    (bigEndian value).head? ≠ some 0 := by
  have nonempty : Nat.digits 256 value ≠ [] := Nat.digits_ne_nil_iff_ne_zero.mpr positive
  have last := Nat.getLast_digit_ne_zero 256 positive
  have small : (Nat.digits 256 value).getLast nonempty < 256 :=
    Nat.digits_lt_base (by decide) (List.getLast_mem nonempty)
  intro zero
  simp only [bigEndian, List.head?_map, List.head?_reverse,
    List.getLast?_eq_some_getLast nonempty, Option.map_some, Option.some.injEq] at zero
  have same : (UInt8.ofNat ((Nat.digits 256 value).getLast nonempty)).toNat = 0 := by
    rw [zero]; rfl
  rw [UInt8.toNat_ofNat_of_lt' small] at same
  exact last same

/-- Reading back a length written in its shortest form. -/
theorem readLength_lengthOctets {length : Nat} (bound : length < 256 ^ 126) (rest : Bytes) :
    readLength (lengthOctets length ++ rest) = some (length, rest) := by
  by_cases short : length < 128
  · have octet : (UInt8.ofNat length).toNat = length :=
      UInt8.toNat_ofNat_of_lt' (by simp only [UInt8.size]; omega)
    simp [lengthOctets, short, readLength, octet]
  · have count := bigEndian_length_le bound
    have octet : (UInt8.ofNat (128 + (bigEndian length).length)).toNat =
        128 + (bigEndian length).length :=
      UInt8.toNat_ofNat_of_lt' (by simp only [UInt8.size]; omega)
    have leading : (bigEndian length).head? ≠ some 0 := bigEndian_head_ne_zero (by omega)
    have shortest : 128 ≤ valueOf (bigEndian length) := by
      rw [valueOf_bigEndian]; omega
    have long : ¬ 128 + (bigEndian length).length < 128 := by omega
    have unreserved : 128 + (bigEndian length).length ≠ 255 := by omega
    simp only [lengthOctets, short, ↓reduceIte, List.cons_append, readLength, octet, long,
      Nat.add_sub_cancel_left, List.take_left, List.drop_left]
    rw [if_pos ⟨unreserved, trivial, leading, shortest⟩, valueOf_bigEndian]

/-- Reading back an element consumes exactly its encoding. -/
theorem readElement_element {tag : UInt8} {content : Bytes} (low : LowTag tag)
    (bound : content.length < 256 ^ 126) (rest : Bytes) :
    readElement (element tag content ++ rest) = some (⟨tag, content⟩, rest) := by
  simp only [element, List.cons_append, List.append_assoc, readElement,
    readLength_lengthOctets bound]
  simp [low]

theorem readWhole_element {tag : UInt8} {content : Bytes} (low : LowTag tag)
    (bound : content.length < 256 ^ 126) :
    readWhole (element tag content) = some ⟨tag, content⟩ := by
  have read := readElement_element low bound []
  rw [List.append_nil] at read
  simp only [readWhole, read]

theorem readElements_element {tag : UInt8} {content : Bytes} (low : LowTag tag)
    (bound : content.length < 256 ^ 126) (count : Nat) (rest : Bytes) :
    readElements (count + 1) (element tag content ++ rest) =
      (readElements count rest).map (⟨tag, content⟩ :: ·) := by
  have read := readElement_element low bound rest
  simp only [element, List.cons_append] at read ⊢
  simp only [readElements, read]

theorem bigEndian_valueOf {octets : Bytes} (leading : octets.head? ≠ some 0) :
    bigEndian (valueOf octets) = octets := by
  have digits : Nat.digits 256 (valueOf octets) = (octets.map UInt8.toNat).reverse := by
    apply Nat.digits_ofDigits 256 (by decide)
    · intro digit member
      obtain ⟨octet, _, rfl⟩ := List.mem_map.mp (List.mem_reverse.mp member)
      exact octet.toNat_lt
    · intro nonempty zero
      rw [List.getLast_reverse] at zero
      cases octets with
      | nil => simp at nonempty
      | cons first rest =>
          simp only [List.map_cons, List.head_cons] at zero
          exact leading (by simpa using UInt8.toNat_inj.mp (zero.trans rfl))
  simp [bigEndian, digits, Function.comp_def]

/-- A length is only read from its shortest form. -/
theorem readLength_exact {bytes rest : Bytes} {length : Nat}
    (read : readLength bytes = some (length, rest)) :
    bytes = lengthOctets length ++ rest := by
  cases bytes with
  | nil => simp [readLength] at read
  | cons first tail =>
      by_cases short : first.toNat < 128
      · simp only [readLength, short, ↓reduceIte, Option.some.injEq, Prod.mk.injEq] at read
        obtain ⟨rfl, rfl⟩ := read
        simp [lengthOctets, short]
      · simp only [readLength, short, ↓reduceIte] at read
        split at read
        · rename_i accepted
          obtain ⟨_, full, leading, shortest⟩ := accepted
          simp only [Option.some.injEq, Prod.mk.injEq] at read
          obtain ⟨rfl, rfl⟩ := read
          have long : ¬ valueOf (tail.take (first.toNat - 128)) < 128 := by omega
          simp only [lengthOctets, long, ↓reduceIte, bigEndian_valueOf leading, full,
            List.cons_append, List.take_append_drop, List.cons.injEq, and_true]
          have octet : 128 + (first.toNat - 128) = first.toNat := by omega
          rw [octet, UInt8.ofNat_toNat]
        · cases read

/-- The reader accepts nothing outside the encoding. -/
theorem readElement_exact {bytes rest : Bytes} {value : Element}
    (read : readElement bytes = some (value, rest)) :
    bytes = value.encoding ++ rest := by
  cases bytes with
  | nil => simp [readElement] at read
  | cons tag tail =>
      simp only [readElement] at read
      split at read
      · cases read
      · rename_i length body lengthRead
        split at read
        · rename_i accepted
          simp only [Option.some.injEq, Prod.mk.injEq] at read
          obtain ⟨rfl, rfl⟩ := read
          have size : (body.take length).length = length := by
            rw [List.length_take]; omega
          simp [Element.encoding, element, size, readLength_exact lengthRead]
        · cases read

end Der
