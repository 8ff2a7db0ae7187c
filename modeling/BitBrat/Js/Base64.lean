import Mathlib.Data.List.Basic

/-! Bytes as base64 text: what is written reads back. -/

namespace Js

def base64Alphabet : List Char :=
  "ABCDEFGHIJKLMNOPQRSTUVWXYZabcdefghijklmnopqrstuvwxyz0123456789+/".toList

def base64Char (digit : Nat) : Char := base64Alphabet.getD digit '='

def base64Digit? (char : Char) : Option Nat :=
  if char = '-' then some 62
  else if char = '_' then some 63
  else base64Alphabet.idxOf? char

/-- The digits of a byte string: four for each three bytes, and fewer for the bytes left over. -/
def base64Digits : List UInt8 → List Nat
  | first :: second :: third :: rest =>
    let bits := first.toNat * 65536 + second.toNat * 256 + third.toNat
    bits / 262144 :: bits / 4096 % 64 :: bits / 64 % 64 :: bits % 64 :: base64Digits rest
  | [first, second] =>
    let bits := first.toNat * 1024 + second.toNat * 4
    [bits / 4096, bits / 64 % 64, bits % 64]
  | [first] => [first.toNat * 16 / 64, first.toNat * 16 % 64]
  | [] => []

/-- The bytes of a list of digits, of which a single one left over is no byte. -/
def base64Bytes : List Nat → List UInt8
  | first :: second :: third :: fourth :: rest =>
    let bits := first * 262144 + second * 4096 + third * 64 + fourth
    UInt8.ofNat (bits / 65536) :: UInt8.ofNat (bits / 256 % 256) :: UInt8.ofNat (bits % 256) ::
      base64Bytes rest
  | [first, second, third] =>
    let bits := first * 1024 + second * 16 + third / 4
    [UInt8.ofNat (bits / 256), UInt8.ofNat (bits % 256)]
  | [first, second] => [UInt8.ofNat ((first * 64 + second) / 16)]
  | [_] => []
  | [] => []

/-- The text of a byte string, filled up to a multiple of four characters. -/
def toBase64 (bytes : List UInt8) : String :=
  String.ofList ((base64Digits bytes).map base64Char ++
    List.replicate ((3 - bytes.length % 3) % 3) '=')

/-- The bytes of a text, in which other characters are skipped. -/
def ofBase64 (text : String) : List UInt8 := base64Bytes (text.toList.filterMap base64Digit?)

theorem base64Digit?_char {digit : Nat} (small : digit < 64) :
    base64Digit? (base64Char digit) = some digit := by
  -- There are sixty-four of them to try.
  revert digit
  decide +kernel

theorem base64Digits_lt (bytes : List UInt8) :
    ∀ digit ∈ base64Digits bytes, digit < 64 := by
  -- The induction takes three bytes at a time.
  induction bytes using base64Digits.induct with
  | case1 first second third rest ih =>
    have small := first.toNat_lt
    have little := second.toNat_lt
    have tiny := third.toNat_lt
    simp only [base64Digits, List.mem_cons, forall_eq_or_imp]
    refine ⟨?_, ?_, ?_, ?_, ih⟩ <;> omega
  | case2 first second =>
    have small := first.toNat_lt
    have little := second.toNat_lt
    simp only [base64Digits, List.mem_cons, forall_eq_or_imp]
    refine ⟨?_, ?_, ?_, nofun⟩ <;> omega
  | case3 first =>
    have small := first.toNat_lt
    simp only [base64Digits, List.mem_cons, forall_eq_or_imp]
    refine ⟨?_, ?_, nofun⟩ <;> omega
  | case4 => exact nofun

theorem four_digits (bits : Nat) :
    bits / 262144 * 262144 + bits / 4096 % 64 * 4096 + bits / 64 % 64 * 64 + bits % 64 = bits := by
  omega

private theorem three_digits (bits : Nat) :
    bits / 4096 * 1024 + bits / 64 % 64 * 16 + bits % 64 / 4 = bits / 4 := by
  omega

theorem base64Bytes_digits (bytes : List UInt8) :
    base64Bytes (base64Digits bytes) = bytes := by
  induction bytes using base64Digits.induct with
  | case1 first second third rest ih =>
    have little := second.toNat_lt
    have tiny := third.toNat_lt
    have high : (first.toNat * 65536 + second.toNat * 256 + third.toNat) / 65536 = first.toNat := by
      omega
    have middle : (first.toNat * 65536 + second.toNat * 256 + third.toNat) / 256 % 256 =
        second.toNat := by omega
    have low : (first.toNat * 65536 + second.toNat * 256 + third.toNat) % 256 = third.toNat := by
      omega
    simp only [base64Digits, base64Bytes, four_digits, high, middle, low, UInt8.ofNat_toNat, ih]
  | case2 first second =>
    have little := second.toNat_lt
    have high : (first.toNat * 1024 + second.toNat * 4) / 4 / 256 = first.toNat := by omega
    have low : (first.toNat * 1024 + second.toNat * 4) / 4 % 256 = second.toNat := by omega
    simp only [base64Digits, base64Bytes, three_digits, high, low, UInt8.ofNat_toNat]
  | case3 first =>
    have whole : (first.toNat * 16 / 64 * 64 + first.toNat * 16 % 64) / 16 = first.toNat := by
      omega
    simp only [base64Digits, base64Bytes, whole, UInt8.ofNat_toNat]
  | case4 => rfl

theorem ofBase64_toBase64 (bytes : List UInt8) : ofBase64 (toBase64 bytes) = bytes := by
  -- What fills up the text is skipped.
  have filling : ∀ count, (List.replicate count '=').filterMap base64Digit? = [] := by
    intro count
    refine List.filterMap_eq_nil_iff.mpr fun char member => ?_
    rw [List.eq_of_mem_replicate member]
    decide
  have digits : ((base64Digits bytes).map base64Char).filterMap base64Digit? =
      base64Digits bytes := by
    rw [List.filterMap_map]
    refine (List.filterMap_congr fun digit member => ?_).trans List.filterMap_some
    exact base64Digit?_char (base64Digits_lt bytes digit member)
  rw [ofBase64, toBase64, String.toList_ofList, List.filterMap_append, filling, digits,
    List.append_nil, base64Bytes_digits]

end Js
