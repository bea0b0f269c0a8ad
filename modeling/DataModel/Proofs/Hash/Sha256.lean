import DataModel.Hash.Sha256
import Mathlib.Logic.Function.Defs

/-!
# Nothing is lost but in the hash

A fingerprint is a digest of the bytes of a text, written in hexadecimal. Neither step around the
digest loses anything: different texts have different bytes, and the eight digits of each word
denote the word. Two texts with one fingerprint are therefore two messages with one digest, a
`Sha256.Collision`.

## Main results

* `Sha256.natOfHex_wordHex`: the digits of a word denote it.
* `Sha256.hex_eq_iff`: texts have one fingerprint exactly if their bytes have one digest.
* `Sha256.collision_of_hex_eq`: **different texts with one fingerprint are a collision**.
-/

/-! ## Bytes of a text -/

/-- The list is built from what is left of the array. -/
theorem ByteArray.toList_loop (bytes : ByteArray) (i : Nat) (done : List UInt8) :
    ByteArray.toList.loop bytes i done = done.reverse ++ bytes.data.toList.drop i := by
  induction i, done using ByteArray.toList.loop.induct bytes with
  | case1 i done hi ih =>
    have hlength : i < bytes.data.toList.length := by simpa using hi
    have hget : bytes.get! i = bytes.data.toList[i] := by
      rw [Array.getElem_toList]
      exact getElem!_pos bytes.data i hlength
    rw [ByteArray.toList.loop, if_pos hi, ih, List.drop_eq_getElem_cons hlength, hget]
    simp
  | case2 i done hi =>
    have hlength : bytes.data.toList.length ≤ i := by simpa using hi
    rw [ByteArray.toList.loop, if_neg hi, List.drop_eq_nil_of_le hlength, List.append_nil]

/-- Arrays with the same bytes are the same array. -/
theorem ByteArray.toList_injective : Function.Injective ByteArray.toList := by
  intro bytes bytes' h
  unfold ByteArray.toList at h
  simp only [ByteArray.toList_loop, List.reverse_nil, List.nil_append, List.drop_zero] at h
  exact ByteArray.ext (Array.toList_inj.mp h)

/-- Texts with the same bytes are the same text. -/
theorem String.toList_toUTF8_injective :
    Function.Injective fun text : String => text.toUTF8.toList := by
  intro text text' h
  have hbytes : text.toUTF8 = text'.toUTF8 := ByteArray.toList_injective h
  exact String.toByteArray_inj.mp hbytes

namespace DataModel.Sha256

/-! ## Hexadecimal digits -/

/-- The value of a hexadecimal digit. -/
def digitValue (c : Char) : Nat :=
  (List.range 16).findIdx (Nat.digitChar · == c)

/-- The number that hexadecimal digits denote. -/
def natOfHex (ds : List Char) : Nat :=
  ds.foldl (fun n d => 16 * n + digitValue d) 0

/-- The digits of the numbers below sixteen denote them. -/
theorem digitValue_digitChar : ∀ n < 16, digitValue (Nat.digitChar n) = n := by
  decide

/-- A digit more is sixteen times as much and the digit. -/
theorem natOfHex_concat (ds : List Char) (d : Char) :
    natOfHex (ds ++ [d]) = 16 * natOfHex ds + digitValue d := by
  simp [natOfHex]

/-- The digits of a number denote it. -/
theorem natOfHex_toDigits (n : Nat) : natOfHex (Nat.toDigits 16 n) = n := by
  induction n using Nat.strongRecOn with
  | ind n ih =>
    by_cases hsmall : n < 16
    · rw [Nat.toDigits_of_lt_base hsmall, ← List.nil_append [_], natOfHex_concat,
        digitValue_digitChar n hsmall]
      simp [natOfHex]
    · rw [Nat.toDigits_of_base_le (by omega) (by omega), natOfHex_concat, ih (n / 16) (by omega),
        digitValue_digitChar (n % 16) (by omega)]
      omega

/-- Zeros in front do not change the number. -/
theorem natOfHex_replicate_append (k : Nat) (ds : List Char) :
    natOfHex (List.replicate k '0' ++ ds) = natOfHex ds := by
  induction k with
  | zero => rfl
  | succ k ih => exact ih

/-- The digits of a word denote it. -/
theorem natOfHex_wordHex (w : UInt32) : natOfHex (wordHex w) = w.toNat := by
  simp only [wordHex, natOfHex_replicate_append, natOfHex_toDigits]

/-- Different words have different digits. -/
theorem wordHex_injective : Function.Injective wordHex := by
  intro w w' h
  apply UInt32.toNat_inj.mp
  rw [← natOfHex_wordHex, h, natOfHex_wordHex]

/-- Every word has eight digits. -/
theorem length_wordHex (w : UInt32) : (wordHex w).length = 8 := by
  have hdigits : (Nat.toDigits 16 w.toNat).length ≤ 8 :=
    (Nat.length_toDigits_le_iff (by omega) (by omega)).mpr (by simpa using w.toNat_lt)
  simp only [wordHex, List.length_append, List.length_replicate]
  omega

/-- As many words in a row are the same words if they have the same digits. -/
theorem eq_of_flatMap_wordHex {words words' : List UInt32} (hlength : words.length = words'.length)
    (h : words.flatMap wordHex = words'.flatMap wordHex) : words = words' := by
  induction words generalizing words' with
  | nil => exact (List.eq_nil_of_length_eq_zero hlength.symm).symm
  | cons w words ih =>
    cases words' with
    | nil => nomatch hlength
    | cons w' words' =>
      simp only [List.flatMap_cons] at h
      obtain ⟨hw, hwords⟩ := List.append_inj h (by rw [length_wordHex, length_wordHex])
      rw [wordHex_injective hw, ih (Nat.succ.inj hlength) hwords]

/-! ## Fingerprints of texts -/

/-- Texts have one fingerprint exactly if their bytes have one digest. -/
theorem hex_eq_iff (text text' : String) :
    hex text = hex text' ↔ digest text.toUTF8.toList = digest text'.toUTF8.toList := by
  constructor
  · intro h
    exact eq_of_flatMap_wordHex rfl (String.ofList_injective h)
  · intro h
    rw [hex, hex, h]

/-- Two different messages with the same digest. -/
def Collision (message message' : List UInt8) : Prop :=
  message ≠ message' ∧ digest message = digest message'

/-- **Different texts with one fingerprint are a collision.** -/
theorem collision_of_hex_eq {text text' : String} (hne : text ≠ text') (h : hex text = hex text') :
    Collision text.toUTF8.toList text'.toUTF8.toList :=
  ⟨fun hbytes => hne (String.toList_toUTF8_injective hbytes), (hex_eq_iff text text').mp h⟩

end DataModel.Sha256
