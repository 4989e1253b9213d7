/-
Module: BairuiPlatform.Foundations.Base64
Purpose: Bytes as base64url without padding and as plain base64, and the lenient reader of such
texts.
Trusted boundary: none
Main exports: Base64.encode, Base64.decode, Base64.decode_encode, Base64.decode_encodePlain
-/
import Mathlib.Data.List.Basic
import Mathlib.Data.List.GetD
import Mathlib.Data.List.Nodup

namespace BairuiPlatform.Foundations

namespace Base64

/-- The characters of the values of six bits. -/
def alphabet : List Char :=
  "ABCDEFGHIJKLMNOPQRSTUVWXYZabcdefghijklmnopqrstuvwxyz0123456789-_".toList

/-- The character of six bits. -/
def letter (sextet : Nat) : Char :=
  alphabet.getD sextet 'A'

/-- The six bits of a character. The two signs of plain base64 are read too. -/
def sextet? (c : Char) : Option Nat :=
  if c = '+' then some 62
  else if c = '/' then some 63
  else if alphabet.contains c then some (alphabet.idxOf c)
  else none

/-- Three bytes become four characters; there is no padding. -/
@[grind =] def encode : List UInt8 → List Char
  | first :: second :: third :: rest =>
      letter (first.toNat / 4) :: letter (first.toNat % 4 * 16 + second.toNat / 16) ::
        letter (second.toNat % 16 * 4 + third.toNat / 64) :: letter (third.toNat % 64) ::
          encode rest
  | [first, second] =>
      [letter (first.toNat / 4), letter (first.toNat % 4 * 16 + second.toNat / 16),
        letter (second.toNat % 16 * 4)]
  | [first] => [letter (first.toNat / 4), letter (first.toNat % 4 * 16)]
  | [] => []

/-- The character of plain base64 in the place of one of base64url. -/
def plainLetter (c : Char) : Char :=
  if c = '-' then '+' else if c = '_' then '/' else c

/-- `bytes.toString("base64")`: with the two other signs, and padded to groups of four. -/
def encodePlain (bytes : List UInt8) : List Char :=
  (encode bytes).map plainLetter ++ List.replicate ((3 - bytes.length % 3) % 3) '='

/-- The bytes of groups of six bits. What is left of an incomplete byte is dropped. -/
@[grind =] def unpack : List Nat → List UInt8
  | first :: second :: third :: fourth :: rest =>
      .ofNat (first * 4 + second / 16) :: .ofNat (second % 16 * 16 + third / 4) ::
        .ofNat (third % 4 * 64 + fourth) :: unpack rest
  | [first, second, third] =>
      [.ofNat (first * 4 + second / 16), .ofNat (second % 16 * 16 + third / 4)]
  | [first, second] => [.ofNat (first * 4 + second / 16)]
  | _ => []

/-- `Buffer.from(text, "base64url")`: characters outside the alphabet are skipped. -/
@[grind =] def decode (text : List Char) : List UInt8 :=
  unpack (text.filterMap sextet?)

/-- The alphabet has 64 characters, and neither sign of plain base64, whose signs are read as the
last two of them. -/
theorem alphabet_spec : (alphabet.map Char.toNat).Nodup ∧ alphabet.length = 64 ∧
    'A' ∈ alphabet ∧ '+' ∉ alphabet ∧ '/' ∉ alphabet ∧
    sextet? '+' = sextet? '-' ∧ sextet? '/' = sextet? '_' := by
  decide +kernel

theorem sextet?_of_mem {c : Char} (member : c ∈ alphabet) :
    sextet? c = some (alphabet.idxOf c) := by
  obtain ⟨-, -, -, noPlus, noSlash, -⟩ := alphabet_spec
  have plus : c ≠ '+' := fun same => noPlus (same ▸ member)
  have slash : c ≠ '/' := fun same => noSlash (same ▸ member)
  rw [sextet?, if_neg plus, if_neg slash, if_pos (List.contains_iff_mem.mpr member)]

theorem sextet?_letter {sextet : Nat} (small : sextet < 64) :
    sextet? (letter sextet) = some sextet := by
  have inside : sextet < alphabet.length := alphabet_spec.2.1 ▸ small
  have found : letter sextet = alphabet[sextet] := List.getD_eq_getElem _ _ inside
  rw [found, sextet?_of_mem (List.getElem_mem inside),
    List.Nodup.idxOf_getElem (List.Nodup.of_map _ alphabet_spec.1)]

theorem ofNat_eq_of_eq_toNat {byte : UInt8} {number : Nat} (same : number = byte.toNat) :
    UInt8.ofNat number = byte := by
  rw [same, UInt8.ofNat_toNat]

/-- The reader gives back the bytes that were written. -/
theorem decode_encode : ∀ bytes : List UInt8, decode (encode bytes) = bytes
  | first :: second :: third :: rest => by
      have one := first.toNat_lt
      have two := second.toNat_lt
      have three := third.toNat_lt
      have ih := decode_encode rest
      unfold decode at ih ⊢
      rw [encode, List.filterMap_cons_some (sextet?_letter (by omega)),
        List.filterMap_cons_some (sextet?_letter (by omega)),
        List.filterMap_cons_some (sextet?_letter (by omega)),
        List.filterMap_cons_some (sextet?_letter (by omega)), unpack, ih]
      congr 1
      · exact ofNat_eq_of_eq_toNat (by omega)
      congr 1
      · exact ofNat_eq_of_eq_toNat (by omega)
      congr 1
      exact ofNat_eq_of_eq_toNat (by omega)
  | [first, second] => by
      have one := first.toNat_lt
      have two := second.toNat_lt
      unfold decode
      rw [encode, List.filterMap_cons_some (sextet?_letter (by omega)),
        List.filterMap_cons_some (sextet?_letter (by omega)),
        List.filterMap_cons_some (sextet?_letter (by omega)), List.filterMap_nil, unpack]
      congr 1
      · exact ofNat_eq_of_eq_toNat (by omega)
      congr 1
      exact ofNat_eq_of_eq_toNat (by omega)
  | [first] => by
      have one := first.toNat_lt
      unfold decode
      rw [encode, List.filterMap_cons_some (sextet?_letter (by omega)),
        List.filterMap_cons_some (sextet?_letter (by omega)), List.filterMap_nil, unpack]
      congr 1
      exact ofNat_eq_of_eq_toNat (by omega)
  | [] => rfl

theorem encode_ne_nil : ∀ {bytes : List UInt8}, bytes ≠ [] → encode bytes ≠ []
  | _ :: _ :: _ :: _, _ => by rw [encode]; exact List.cons_ne_nil _ _
  | [_, _], _ => by rw [encode]; exact List.cons_ne_nil _ _
  | [_], _ => by rw [encode]; exact List.cons_ne_nil _ _
  | [], nonempty => absurd rfl nonempty

theorem letter_mem (sextet : Nat) : letter sextet ∈ alphabet := by
  unfold letter
  by_cases small : sextet < alphabet.length
  · rw [List.getD_eq_getElem _ _ small]
    exact List.getElem_mem small
  · rw [List.getD_eq_default _ _ (Nat.le_of_not_lt small)]
    exact alphabet_spec.2.2.1

/-- Bytes are written in the alphabet. -/
theorem mem_alphabet : ∀ {bytes : List UInt8} {c : Char}, c ∈ encode bytes → c ∈ alphabet
  | _ :: _ :: _ :: rest, _, member => by
      rw [encode] at member
      simp only [List.mem_cons] at member
      rcases member with rfl | rfl | rfl | rfl | inside
      · exact letter_mem _
      · exact letter_mem _
      · exact letter_mem _
      · exact letter_mem _
      · exact mem_alphabet inside
  | [_, _], _, member => by
      simp only [encode, List.mem_cons, List.not_mem_nil, or_false] at member
      rcases member with rfl | rfl | rfl <;> exact letter_mem _
  | [_], _, member => by
      simp only [encode, List.mem_cons, List.not_mem_nil, or_false] at member
      rcases member with rfl | rfl <;> exact letter_mem _
  | [], _, member => absurd member List.not_mem_nil

theorem sextet?_plainLetter (c : Char) : sextet? (plainLetter c) = sextet? c := by
  obtain ⟨-, -, -, -, -, plus, slash⟩ := alphabet_spec
  unfold plainLetter
  split
  · rename_i same
    rw [same, plus]
  · split
    · rename_i same
      rw [same, slash]
    · rfl

/-- Plain base64 is read back too. -/
theorem decode_encodePlain (bytes : List UInt8) : decode (encodePlain bytes) = bytes := by
  have letters : ((encode bytes).map plainLetter).filterMap sextet? =
      (encode bytes).filterMap sextet? := by
    rw [List.filterMap_map]
    exact List.filterMap_congr fun c _ => sextet?_plainLetter c
  have padding : (List.replicate ((3 - bytes.length % 3) % 3) '=').filterMap sextet? = [] := by
    rw [List.filterMap_replicate_of_none]
    rfl
  have read := decode_encode bytes
  unfold decode at read ⊢
  unfold encodePlain
  rw [List.filterMap_append, letters, padding, List.append_nil, read]

theorem mem_encodePlain {bytes : List UInt8} {c : Char} (member : c ∈ encodePlain bytes) :
    c = '=' ∨ ∃ letter ∈ alphabet, plainLetter letter = c := by
  unfold encodePlain at member
  rcases List.mem_append.mp member with inside | padding
  · obtain ⟨letter, written, same⟩ := List.mem_map.mp inside
    exact .inr ⟨letter, mem_alphabet written, same⟩
  · exact .inl (List.eq_of_mem_replicate padding)

theorem length_encode : ∀ bytes : List UInt8, (encode bytes).length = (bytes.length * 4 + 2) / 3
  | _ :: _ :: _ :: rest => by
      rw [encode]
      simp only [List.length_cons, length_encode rest]
      omega
  | [_, _] => by simp [encode]
  | [_] => by simp [encode]
  | [] => rfl

end Base64

end BairuiPlatform.Foundations
