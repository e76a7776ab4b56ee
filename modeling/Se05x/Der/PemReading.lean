import Mathlib.Data.List.Basic
import Se05x.Der.Pem

/-!
# Reading a textual encoding

The strict reader of base64 between two lines, and that it recovers what was encoded.
-/

set_option autoImplicit false

namespace Der

def base64Value (octet : UInt8) : Option Nat :=
  if 65 ≤ octet ∧ octet ≤ 90 then some (octet.toNat - 65)
  else if 97 ≤ octet ∧ octet ≤ 122 then some (octet.toNat - 97 + 26)
  else if 48 ≤ octet ∧ octet ≤ 57 then some (octet.toNat - 48 + 52)
  else if octet = 43 then some 62
  else if octet = 47 then some 63
  else none

/-- Bits that the padding stands for must be zero, and padding ends the text. -/
def readBase64 : Bytes → Option Bytes
  | [] => some []
  | a :: b :: c :: d :: rest => do
    let first ← base64Value a
    let second ← base64Value b
    if d = 61 then
      if rest ≠ [] then none
      else if c = 61 then
        if second % 16 = 0 then some [UInt8.ofNat (first * 4 + second / 16)] else none
      else do
        let third ← base64Value c
        if third % 4 = 0 then
          some [UInt8.ofNat (first * 4 + second / 16),
            UInt8.ofNat (second % 16 * 16 + third / 4)]
        else none
    else do
      let third ← base64Value c
      let fourth ← base64Value d
      let others ← readBase64 rest
      return UInt8.ofNat (first * 4 + second / 16) ::
        UInt8.ofNat (second % 16 * 16 + third / 4) :: UInt8.ofNat (third % 4 * 64 + fourth) :: others
  | _ => none

/-- The text between the lines goes up to the first hyphen; its line ends are left out. -/
def readPem (header footer : String) (text : Bytes) : Option Bytes :=
  if (asciiBytes header).isPrefixOf text then
    let rest := text.drop (asciiBytes header).length
    let body := rest.takeWhile (· ≠ 45)
    if rest.drop body.length = asciiBytes footer then readBase64 (body.filter (· ≠ 10)) else none
  else none

section Digits

theorem base64Value_digit {value : Nat} (small : value < 64) :
    base64Value (base64Digit value) = some value := by
  have all : ∀ value < 64, base64Value (base64Digit value) = some value := by decide
  exact all value small

theorem base64Digit_ne {value : Nat} (small : value < 64) :
    base64Digit value ≠ 10 ∧ base64Digit value ≠ 45 ∧ base64Digit value ≠ 61 := by
  have all : ∀ value < 64,
      base64Digit value ≠ 10 ∧ base64Digit value ≠ 45 ∧ base64Digit value ≠ 61 := by decide
  exact all value small

theorem ofNat_eq_of_toNat {octet : UInt8} {value : Nat} (same : value = octet.toNat) :
    UInt8.ofNat value = octet := by
  rw [same, UInt8.ofNat_toNat]

end Digits

theorem readBase64_base64 (data : Bytes) : readBase64 (base64 data) = some data := by
  fun_induction base64 data with
  | case1 => rfl
  | case2 a =>
      have bound := a.toNat_lt
      have first := @base64Value_digit (a.toNat / 4) (by omega)
      have second := @base64Value_digit (a.toNat % 4 * 16) (by omega)
      have padded : a.toNat % 4 * 16 % 16 = 0 := by omega
      have octet : UInt8.ofNat (a.toNat / 4 * 4 + a.toNat % 4 * 16 / 16) = a :=
        ofNat_eq_of_toNat (by omega)
      simp only [readBase64, first, second, Option.bind_eq_bind, Option.bind_some, ne_eq,
        not_true_eq_false, if_true, if_false, padded, octet]
  | case3 a b =>
      have boundA := a.toNat_lt
      have boundB := b.toNat_lt
      have first := @base64Value_digit (a.toNat / 4) (by omega)
      have second := @base64Value_digit (a.toNat % 4 * 16 + b.toNat / 16) (by omega)
      have third := @base64Value_digit (b.toNat % 16 * 4) (by omega)
      have digit := (@base64Digit_ne (b.toNat % 16 * 4) (by omega)).2.2
      have padded : b.toNat % 16 * 4 % 4 = 0 := by omega
      have octetA : UInt8.ofNat (a.toNat / 4 * 4 + (a.toNat % 4 * 16 + b.toNat / 16) / 16) = a :=
        ofNat_eq_of_toNat (by omega)
      have octetB : UInt8.ofNat ((a.toNat % 4 * 16 + b.toNat / 16) % 16 * 16 +
          b.toNat % 16 * 4 / 4) = b := ofNat_eq_of_toNat (by omega)
      simp only [readBase64, first, second, third, Option.bind_eq_bind, Option.bind_some, ne_eq,
        not_true_eq_false, if_true, if_false, digit, padded, octetA, octetB]
  | case4 a b c rest ih =>
      have boundA := a.toNat_lt
      have boundB := b.toNat_lt
      have boundC := c.toNat_lt
      have first := @base64Value_digit (a.toNat / 4) (by omega)
      have second := @base64Value_digit (a.toNat % 4 * 16 + b.toNat / 16) (by omega)
      have third := @base64Value_digit (b.toNat % 16 * 4 + c.toNat / 64) (by omega)
      have fourth := @base64Value_digit (c.toNat % 64) (by omega)
      have digit := (@base64Digit_ne (c.toNat % 64) (by omega)).2.2
      have octetA : UInt8.ofNat (a.toNat / 4 * 4 + (a.toNat % 4 * 16 + b.toNat / 16) / 16) = a :=
        ofNat_eq_of_toNat (by omega)
      have octetB : UInt8.ofNat ((a.toNat % 4 * 16 + b.toNat / 16) % 16 * 16 +
          (b.toNat % 16 * 4 + c.toNat / 64) / 4) = b := ofNat_eq_of_toNat (by omega)
      have octetC : UInt8.ofNat ((b.toNat % 16 * 4 + c.toNat / 64) % 4 * 64 + c.toNat % 64) = c :=
        ofNat_eq_of_toNat (by omega)
      simp only [readBase64, first, second, third, fourth, Option.bind_eq_bind, Option.bind_some,
        if_false, digit, ih, octetA, octetB, octetC, pure]

/-- Neither a line end, a hyphen nor padding is a digit. -/
theorem base64_mem {data : Bytes} : ∀ octet ∈ base64 data, octet ≠ 10 ∧ octet ≠ 45 := by
  have digit : ∀ value < 64, base64Digit value ≠ 10 ∧ base64Digit value ≠ 45 :=
    fun value small => ⟨(base64Digit_ne small).1, (base64Digit_ne small).2.1⟩
  have padding : (61 : UInt8) ≠ 10 ∧ (61 : UInt8) ≠ 45 := by decide
  fun_induction base64 data with
  | case1 => exact nofun
  | case2 a =>
      have bound := a.toNat_lt
      simp only [List.forall_mem_cons]
      exact ⟨digit _ (by omega), digit _ (by omega), padding, padding, List.forall_mem_nil _⟩
  | case3 a b =>
      have boundA := a.toNat_lt
      have boundB := b.toNat_lt
      simp only [List.forall_mem_cons]
      exact ⟨digit _ (by omega), digit _ (by omega), digit _ (by omega), padding,
        List.forall_mem_nil _⟩
  | case4 a b c rest ih =>
      have boundA := a.toNat_lt
      have boundB := b.toNat_lt
      have boundC := c.toNat_lt
      simp only [List.forall_mem_cons]
      exact ⟨digit _ (by omega), digit _ (by omega), digit _ (by omega), digit _ (by omega), ih⟩

theorem breakLines_succ {width lines : Nat} {first : UInt8} {rest : Bytes} :
    breakLines width (lines + 1) (first :: rest) = (first :: rest).take width ++
      10 :: breakLines width lines ((first :: rest).drop width) := rfl

/-- Every line is a piece of the text, and the pieces make up the text. -/
theorem filter_breakLines {width lines : Nat} {text : Bytes} (unbroken : ∀ octet ∈ text, octet ≠ 10) :
    (breakLines width lines text).filter (· ≠ 10) = text := by
  have kept : ∀ part : Bytes, (∀ octet ∈ part, octet ≠ 10) → part.filter (· ≠ 10) = part :=
    fun part plain => List.filter_eq_self.mpr fun octet member => decide_eq_true (plain octet member)
  induction lines generalizing text with
  | zero =>
      cases text with
      | nil => rfl
      | cons first rest => exact kept _ unbroken
  | succ lines ih =>
      cases text with
      | nil => rfl
      | cons first rest =>
          have front := kept ((first :: rest).take width)
            fun octet member => unbroken octet (List.mem_of_mem_take member)
          have back := @ih ((first :: rest).drop width)
            fun octet member => unbroken octet (List.mem_of_mem_drop member)
          rw [breakLines_succ, List.filter_append, front, List.filter_cons_of_neg (by decide), back,
            List.take_append_drop]

theorem breakLines_mem {width lines : Nat} {text : Bytes} {kept : UInt8 → Prop}
    (ends : kept 10) (plain : ∀ octet ∈ text, kept octet) :
    ∀ octet ∈ breakLines width lines text, kept octet := by
  induction lines generalizing text with
  | zero =>
      cases text with
      | nil => exact nofun
      | cons first rest => exact plain
  | succ lines ih =>
      cases text with
      | nil => exact nofun
      | cons first rest =>
          rw [breakLines_succ]
          intro octet member
          rcases List.mem_append.mp member with before | after
          · exact plain octet (List.mem_of_mem_take before)
          · rcases List.mem_cons.mp after with rfl | later
            · exact ends
            · exact ih (fun other there => plain other (List.mem_of_mem_drop there)) octet later

/-- Reading recovers what was encoded if the last line starts with a hyphen. -/
theorem readPem_pemText {header footer : String} {rest der : Bytes}
    (hyphen : asciiBytes footer = 45 :: rest) :
    readPem header footer (pemText header footer der) = some der := by
  have body : ∀ octet ∈ breakLines 64 (base64 der).length (base64 der),
      decide (octet ≠ 45) = true := fun octet member =>
    decide_eq_true (breakLines_mem (by decide) (fun other there => (base64_mem other there).2) octet
      member)
  have cut : (breakLines 64 (base64 der).length (base64 der) ++ asciiBytes footer).takeWhile
      (· ≠ 45) = breakLines 64 (base64 der).length (base64 der) := by
    rw [List.takeWhile_append_of_pos body, hyphen, List.takeWhile_cons_of_neg (by decide),
      List.append_nil]
  have opening : (asciiBytes header).isPrefixOf (pemText header footer der) = true := by
    rw [pemText, List.append_assoc]
    exact List.isPrefixOf_iff_prefix.mpr (List.prefix_append _ _)
  rw [readPem, if_pos opening, pemText, List.append_assoc, List.drop_left]
  dsimp only
  rw [cut, List.drop_left, if_pos rfl, filter_breakLines fun octet member =>
    (base64_mem octet member).1]
  exact readBase64_base64 der

end Der
