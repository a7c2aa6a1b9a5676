import Criteria.Digest.Sha256
import Mathlib.Algebra.Group.Nat.Defs
import Mathlib.Data.List.Basic

/-!
# Digests as text

A digest is written as its 32 bytes, each as two lowercase hexadecimal digits. The digits determine
the eight words of the digest, and the bytes of a text determine the text. So different texts share
a written digest only if their bytes are two messages with one SHA-256 digest.
-/

namespace Criteria.Digest

/-- The bytes of the eight words in order, the highest byte of each word first. -/
def Mix.bytes (m : Mix) : List UInt8 := m.toList.flatMap fun word => bytesOfNat word.toNat 4

/-- The two hexadecimal digits of a byte. -/
def hexByte (byte : UInt8) : List Char :=
  [Nat.digitChar (byte.toNat / 16), Nat.digitChar (byte.toNat % 16)]

/-- Different messages with one digest. -/
def Collision (first second : List UInt8) : Prop := first ≠ second ∧ sha256 first = sha256 second

/-! ## Hexadecimal digits -/

/-- So many digits are written. -/
theorem length_hexDigits (n count : Nat) : (hexDigits n count).length = count := by
  induction count generalizing n with
  | zero => rfl
  | succ count ih => rw [hexDigits, List.length_append, ih, List.length_singleton]

/-- The digits of a number are those of its bytes. -/
theorem hexDigits_eq_flatMap (n count : Nat) :
    hexDigits n (2 * count) = (bytesOfNat n count).flatMap hexByte := by
  induction count generalizing n with
  | zero => rfl
  | succ count ih =>
    have hbyte : (UInt8.ofNat (n % 256)).toNat = n % 256 :=
      UInt8.toNat_ofNat_of_lt (Nat.mod_lt n (by decide))
    have hhigh : n % 256 / 16 = n / 16 % 16 := by omega
    have hlow : n % 256 % 16 = n % 16 := by omega
    have hrest : n / 16 / 16 = n / 256 := by omega
    rw [Nat.mul_succ, hexDigits, hexDigits, bytesOfNat, List.flatMap_append, hrest, ih]
    simp only [List.flatMap_singleton, hexByte, hbyte, hhigh, hlow, List.append_assoc,
      List.singleton_append]

/-- The digits are lowercase hexadecimal digits. -/
theorem mem_of_mem_hexDigits {n count : Nat} {c : Char} (h : c ∈ hexDigits n count) :
    c ∈ "0123456789abcdef".toList := by
  induction count generalizing n with
  | zero => exact absurd h List.not_mem_nil
  | succ count ih =>
    have hdigit : ∀ digit < 16, Nat.digitChar digit ∈ "0123456789abcdef".toList := by decide
    rw [hexDigits, List.mem_append, List.mem_singleton] at h
    rcases h with hrest | rfl
    · exact ih hrest
    · exact hdigit (n % 16) (Nat.mod_lt n (by decide))

/-- The digits determine a number that they have room for. -/
theorem hexDigits_inj {m n count : Nat} (hm : m < 16 ^ count) (hn : n < 16 ^ count)
    (h : hexDigits m count = hexDigits n count) : m = n := by
  induction count generalizing m n with
  | zero =>
    rw [Nat.pow_zero] at hm hn
    omega
  | succ count ih =>
    have hdigit : ∀ a < 16, ∀ b < 16, Nat.digitChar a = Nat.digitChar b → a = b := by decide
    rw [hexDigits, hexDigits] at h
    obtain ⟨hrest, hlast⟩ := List.append_inj' h rfl
    rw [Nat.pow_succ] at hm hn
    have hhigh : m / 16 = n / 16 :=
      ih (Nat.div_lt_of_lt_mul (by omega)) (Nat.div_lt_of_lt_mul (by omega)) hrest
    have hlow : m % 16 = n % 16 :=
      hdigit _ (Nat.mod_lt m (by decide)) _ (Nat.mod_lt n (by decide)) (List.singleton_inj.mp hlast)
    omega

/-- The digits of words determine the words. -/
theorem flatMap_hexDigits_inj {first second : List UInt32}
    (hlength : first.length = second.length)
    (h : (first.flatMap fun word => hexDigits word.toNat 8) =
      second.flatMap fun word => hexDigits word.toNat 8) : first = second := by
  induction first generalizing second with
  | nil => exact (List.length_eq_zero_iff.mp hlength.symm).symm
  | cons word rest ih =>
    obtain ⟨other, others, rfl⟩ := List.exists_cons_of_length_eq_add_one hlength.symm
    rw [List.flatMap_cons, List.flatMap_cons] at h
    obtain ⟨hword, hrest⟩ :=
      List.append_inj h ((length_hexDigits _ 8).trans (length_hexDigits _ 8).symm)
    have hnat := hexDigits_inj word.toNat_lt other.toNat_lt hword
    rw [UInt32.toNat_inj.mp hnat, ih (Nat.succ.inj hlength) hrest]

/-- The words determine the mix. -/
theorem Mix.toList_inj {m n : Mix} (h : m.toList = n.toList) : m = n := by
  obtain ⟨⟩ := m
  obtain ⟨⟩ := n
  simpa only [toList, List.cons.injEq, and_true, mk.injEq] using h

/-! ## Digests of texts -/

/-- The digest of a text is written as the digits of its bytes. -/
theorem toList_hexDigest (text : String) :
    (hexDigest text).toList = (sha256 text.toUTF8.toList).bytes.flatMap hexByte := by
  rw [hexDigest, String.toList_ofList, Mix.bytes, List.flatMap_assoc]
  simp only [← hexDigits_eq_flatMap]

/-- A digest is 64 digits long. -/
theorem length_toList_hexDigest (text : String) : (hexDigest text).toList.length = 64 := by
  rw [hexDigest, String.toList_ofList]
  simp only [List.length_flatMap, length_hexDigits]
  rfl

/-- A digest is written in lowercase hexadecimal digits. -/
theorem mem_of_mem_hexDigest {text : String} {c : Char} (h : c ∈ (hexDigest text).toList) :
    c ∈ "0123456789abcdef".toList := by
  rw [hexDigest, String.toList_ofList, List.mem_flatMap] at h
  obtain ⟨word, -, hc⟩ := h
  exact mem_of_mem_hexDigits hc

/-- Texts have one written digest exactly when their bytes have one digest. -/
theorem hexDigest_eq_iff {first second : String} :
    hexDigest first = hexDigest second ↔
      sha256 first.toUTF8.toList = sha256 second.toUTF8.toList := by
  constructor
  · intro h
    have hdigits := congrArg String.toList h
    rw [hexDigest, hexDigest, String.toList_ofList, String.toList_ofList] at hdigits
    have hlength : ∀ m n : Mix, m.toList.length = n.toList.length := fun _ _ => rfl
    exact Mix.toList_inj (flatMap_hexDigits_inj (hlength _ _) hdigits)
  · intro h
    rw [hexDigest, hexDigest, h]

/-- The bytes of an array are listed from a position on, behind those listed before. -/
theorem toList_loop (bytes : ByteArray) {position left : Nat}
    (hleft : position + left = bytes.size) (before : List UInt8) :
    ByteArray.toList.loop bytes position before =
      before.reverse ++ bytes.data.toList.drop position := by
  induction left generalizing position before with
  | zero =>
    have hend : bytes.data.toList.length ≤ position := Nat.le_of_eq hleft.symm
    rw [ByteArray.toList.loop, if_neg (by omega), List.drop_eq_nil_of_le hend, List.append_nil]
  | succ left ih =>
    have hposition : position < bytes.data.toList.length := by
      change position < bytes.size
      omega
    have hbyte : bytes.get! position = bytes.data.toList[position] :=
      getElem!_pos bytes.data position hposition
    rw [ByteArray.toList.loop, if_pos (by omega), ih (by omega), List.reverse_cons, hbyte,
      List.append_assoc, List.singleton_append, ← List.drop_eq_getElem_cons hposition]

/-- The bytes of a text determine the text. -/
theorem toList_toUTF8_inj {first second : String}
    (h : first.toUTF8.toList = second.toUTF8.toList) : first = second := by
  have hlist : ∀ bytes : ByteArray, bytes.toList = bytes.data.toList := fun bytes =>
    toList_loop bytes (Nat.zero_add bytes.size) []
  rw [hlist, hlist] at h
  exact String.toByteArray_inj.mp (ByteArray.ext (Array.toList_inj.mp h))

/-- Different texts with one written digest are a collision. -/
theorem collision_of_hexDigest_eq {first second : String} (hne : first ≠ second)
    (h : hexDigest first = hexDigest second) :
    Collision first.toUTF8.toList second.toUTF8.toList :=
  ⟨fun hbytes => hne (toList_toUTF8_inj hbytes), hexDigest_eq_iff.mp h⟩

end Criteria.Digest
