import Mathlib.Data.List.Basic
import QueryFoundry.Text.Octets

/-!
# Texts as octets

The octets of a text are those of its characters, one after the other. An ASCII character is a
single octet that no other character has a share in, so what such a character separates in a text it
separates in the octets as well.
-/

namespace QueryFoundry.Text

def octetCharacter (octet : UInt8) : Char := Char.ofNat octet.toNat

theorem toNat_octetCharacter (octet : UInt8) : (octetCharacter octet).toNat = octet.toNat := by
  have small := octet.toNat_lt
  have valid : octet.toNat.isValidChar := .inl (by omega)
  rw [octetCharacter, Char.ofNat, dif_pos valid]
  rfl

def characterOctets (character : Char) : List Char :=
  (String.utf8EncodeChar character).map octetCharacter

theorem byteArray_toList_loop (bytes : ByteArray) (index : Nat) (before : List UInt8) :
    ByteArray.toList.loop bytes index before =
      before.reverse ++ bytes.data.toList.drop index := by
  induction index, before using ByteArray.toList.loop.induct bytes with
  | case1 index before inside ih =>
      have next : bytes.data.toList.drop index =
          bytes.get! index :: bytes.data.toList.drop (index + 1) := by
        rw [List.drop_eq_getElem_cons (by simpa using inside)]
        simp [ByteArray.get!, inside]
      rw [ByteArray.toList.loop, if_pos inside, ih, next, List.reverse_cons, List.append_assoc,
        List.singleton_append]
  | case2 index before outside =>
      have nothing : bytes.data.toList.drop index = [] :=
        List.drop_of_length_le (by simpa using outside)
      rw [ByteArray.toList.loop, if_neg outside, nothing, List.append_nil]

theorem toList_toUTF8 (text : String) : text.toUTF8.toList = text.toUTF8.data.toList := by
  rw [ByteArray.toList, byteArray_toList_loop, List.reverse_nil, List.nil_append, List.drop_zero]

/-- The octets of a text are those of its characters. -/
theorem toList_toOctets (text : String) :
    (toOctets text).toList = text.toList.flatMap characterOctets := by
  have bytes : text.toUTF8 = (text.toList.flatMap String.utf8EncodeChar).toByteArray := by
    conv_lhs => rw [← String.ofList_toList (s := text)]
    exact String.toByteArray_ofList
  rw [toOctets, String.toList_ofList, toList_toUTF8, bytes, List.toList_data_toByteArray,
    List.map_flatMap]
  rfl

theorem toOctets_append (first second : String) :
    toOctets (first ++ second) = toOctets first ++ toOctets second := by
  rw [← String.toList_inj, String.toList_append, toList_toOctets, toList_toOctets, toList_toOctets,
    String.toList_append, List.flatMap_append]

theorem characterOctets_ascii {character : Char} (ascii : character.toNat ≤ 0x7F) :
    characterOctets character = [character] := by
  have encoded : String.utf8EncodeChar character = [UInt8.ofNat character.toNat] := by
    rw [String.utf8EncodeChar]
    exact if_pos ascii
  have small : character.toNat < UInt8.size := Nat.lt_of_le_of_lt ascii (by decide)
  rw [characterOctets, encoded, List.map_singleton, List.singleton_inj, octetCharacter,
    UInt8.toNat_ofNat_of_lt' small, Char.ofNat_toNat]

/-- No octet of another character is ASCII. -/
theorem lt_of_mem_characterOctets {character octet : Char} (wide : ¬character.toNat ≤ 0x7F)
    (member : octet ∈ characterOctets character) : 0x7F < octet.toNat := by
  obtain ⟨byte, encoded, rfl⟩ := List.mem_map.mp member
  have high {value : Nat} (least : 0x80 ≤ value) (small : value < UInt8.size) :
      0x7F < (UInt8.ofNat value).toNat := by
    rw [UInt8.toNat_ofNat_of_lt' small]
    exact least
  have size : UInt8.size = 256 := rfl
  rw [toNat_octetCharacter]
  rw [String.utf8EncodeChar] at encoded
  split at encoded
  · rename_i narrow
    exact absurd narrow wide
  split at encoded
  · simp only [List.mem_cons, List.not_mem_nil, or_false] at encoded
    rcases encoded with rfl | rfl <;> exact high (by omega) (by omega)
  split at encoded
  · simp only [List.mem_cons, List.not_mem_nil, or_false] at encoded
    rcases encoded with rfl | rfl | rfl <;> exact high (by omega) (by omega)
  · simp only [List.mem_cons, List.not_mem_nil, or_false] at encoded
    rcases encoded with rfl | rfl | rfl | rfl <;> exact high (by omega) (by omega)

theorem characterOctets_ne_nil (character : Char) : characterOctets character ≠ [] := by
  rw [characterOctets, ne_eq, List.map_eq_nil_iff, ← List.length_eq_zero_iff,
    String.length_utf8EncodeChar]
  exact Nat.ne_of_gt character.utf8Size_pos

section

variable {mark : Char} (ascii : mark.toNat ≤ 0x7F)
include ascii

theorem mem_characterOctets_iff {character : Char} :
    mark ∈ characterOctets character ↔ mark = character := by
  constructor
  · intro member
    by_cases narrow : character.toNat ≤ 0x7F
    · rwa [characterOctets_ascii narrow, List.mem_singleton] at member
    · exact absurd ascii (Nat.not_le_of_lt (lt_of_mem_characterOctets narrow member))
  · rintro rfl
    rw [characterOctets_ascii ascii]
    exact List.mem_singleton_self mark

theorem mem_toOctets_iff {text : String} :
    mark ∈ (toOctets text).toList ↔ mark ∈ text.toList := by
  rw [toList_toOctets, List.mem_flatMap]
  constructor
  · rintro ⟨character, inText, member⟩
    rwa [(mem_characterOctets_iff ascii).mp member]
  · exact fun inText => ⟨mark, inText, (mem_characterOctets_iff ascii).mpr rfl⟩

theorem head?_toOctets_eq_iff {text : String} :
    (toOctets text).toList.head? = some mark ↔ text.toList.head? = some mark := by
  rw [toList_toOctets]
  cases text.toList with
  | nil => rfl
  | cons first rest =>
      rw [List.flatMap_cons, List.head?_append_of_ne_nil _ (characterOctets_ne_nil first),
        List.head?_cons, Option.some_inj]
      constructor
      · intro starts
        exact ((mem_characterOctets_iff ascii).mp (List.mem_of_mem_head? starts)).symm
      · rintro rfl
        rw [characterOctets_ascii ascii, List.head?_cons]

theorem getLast?_toOctets_eq_iff {text : String} :
    (toOctets text).toList.getLast? = some mark ↔ text.toList.getLast? = some mark := by
  rw [toList_toOctets]
  rcases List.eq_nil_or_concat text.toList with empty | ⟨rest, last, ended⟩
  · rw [empty, List.flatMap_nil]
  · rw [ended, List.concat_eq_append, List.flatMap_append, List.flatMap_singleton,
      List.getLast?_append_of_ne_nil _ (characterOctets_ne_nil last), List.getLast?_concat,
      Option.some_inj]
    constructor
    · intro ends
      exact ((mem_characterOctets_iff ascii).mp (List.mem_of_getLast? ends)).symm
    · rintro rfl
      rw [characterOctets_ascii ascii, List.getLast?_singleton]

end

theorem flatMap_characterOctets {characters : List Char}
    (ascii : ∀ character ∈ characters, character.toNat ≤ 0x7F) :
    characters.flatMap characterOctets = characters := by
  induction characters with
  | nil => rfl
  | cons first rest ih =>
      rw [List.forall_mem_cons] at ascii
      rw [List.flatMap_cons, characterOctets_ascii ascii.1, ih ascii.2, List.singleton_append]

theorem toOctets_ascii {text : String}
    (ascii : ∀ character ∈ text.toList, character.toNat ≤ 0x7F) : toOctets text = text := by
  rw [← String.toList_inj, toList_toOctets, flatMap_characterOctets ascii]

theorem toOctets_empty : toOctets "" = "" :=
  toOctets_ascii (by simp)

theorem octetCharacter_injective : Function.Injective octetCharacter := by
  intro first second same
  have numbers := congrArg Char.toNat same
  rw [toNat_octetCharacter, toNat_octetCharacter] at numbers
  exact UInt8.toNat_inj.mp numbers

theorem toOctets_injective : Function.Injective toOctets := by
  intro first second same
  have lists : first.toUTF8.toList = second.toUTF8.toList :=
    octetCharacter_injective.list_map (String.ofList_injective same)
  rw [toList_toUTF8, toList_toUTF8, Array.toList_inj] at lists
  exact String.toByteArray_inj.mp (ByteArray.ext lists)

theorem foldl_push (bytes : List UInt8) (before : ByteArray) :
    (bytes.map octetCharacter).foldl (fun bytes character => bytes.push character.toNat.toUInt8)
      before = ⟨before.data ++ bytes.toArray⟩ := by
  induction bytes generalizing before with
  | nil => rw [List.map_nil, List.foldl_nil, Array.append_empty]
  | cons byte rest ih =>
      have again : byte.toNat.toUInt8 = byte := UInt8.ofNat_toNat
      rw [List.map_cons, List.foldl_cons, toNat_octetCharacter, again, ih, ByteArray.data_push]
      simp

/-- The octets of a text stand for its bytes. -/
theorem octetBytes_toOctets (text : String) : octetBytes (toOctets text) = text.toUTF8 := by
  have octets : (toOctets text).toList = text.toUTF8.data.toList.map octetCharacter := by
    rw [toOctets, String.toList_ofList, toList_toUTF8]
    rfl
  rw [octetBytes, octets, foldl_push]
  simp

theorem ofOctets?_toOctets (text : String) : ofOctets? (toOctets text) = some text := by
  have valid : text.toUTF8.IsValidUTF8 := text.isValidUTF8
  rw [ofOctets?, octetBytes_toOctets, String.fromUTF8?, dif_pos valid]
  rfl

end QueryFoundry.Text
