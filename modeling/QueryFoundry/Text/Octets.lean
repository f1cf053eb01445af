/-!
# Octet texts

File contents and names are bytes. They are held as texts in which each character stands for one
byte, so that the functions on texts apply to them. The encoding is UTF-8; reading is either strict
or puts the replacement character in place of what is malformed.
-/

namespace QueryFoundry.Text

/-- A text in which each character stands for one byte. -/
abbrev Octets := String

/-- The octets of a text in UTF-8. -/
def toOctets (text : String) : Octets :=
  String.ofList (text.toUTF8.toList.map fun octet => Char.ofNat octet.toNat)

/-- The bytes of an octet text. -/
def octetBytes (octets : Octets) : ByteArray :=
  octets.toList.foldl (fun bytes character => bytes.push character.toNat.toUInt8) ByteArray.empty

/-- The text that some octets encode, if they are well formed. -/
def ofOctets? (octets : Octets) : Option String :=
  String.fromUTF8? (octetBytes octets)

/-- How the first octet of a sequence restricts the second one and how many octets follow it. -/
structure LeadOctet where
  following : Nat
  lowest : Nat
  highest : Nat

/-- What a lead octet of a sequence of several octets announces; an octet that leads none has no
value. -/
def LeadOctet.of? (octet : Nat) : Option LeadOctet :=
  if 0xC2 ≤ octet ∧ octet ≤ 0xDF then some ⟨1, 0x80, 0xBF⟩
  else if octet = 0xE0 then some ⟨2, 0xA0, 0xBF⟩
  else if octet = 0xED then some ⟨2, 0x80, 0x9F⟩
  else if 0xE1 ≤ octet ∧ octet ≤ 0xEF then some ⟨2, 0x80, 0xBF⟩
  else if octet = 0xF0 then some ⟨3, 0x90, 0xBF⟩
  else if 0xF1 ≤ octet ∧ octet ≤ 0xF3 then some ⟨3, 0x80, 0xBF⟩
  else if octet = 0xF4 then some ⟨3, 0x80, 0x8F⟩
  else none

/-- The number of octets in front of `rest` that may follow a lead octet. -/
def followingLength (lead : LeadOctet) (rest : List Char) : Nat :=
  match rest with
  | [] => 0
  | second :: later =>
      if lead.lowest ≤ second.toNat ∧ second.toNat ≤ lead.highest then
        1 + ((later.take (lead.following - 1)).takeWhile
          fun octet => 0x80 ≤ octet.toNat && octet.toNat ≤ 0xBF).length
      else 0

/-- The code point of a complete sequence: the low bits of the lead octet, then six bits of each
octet that follows. -/
def sequenceValue (lead : LeadOctet) (first : Nat) (following : List Char) : Nat :=
  following.foldl (fun value octet => value * 64 + octet.toNat % 64)
    (first % Nat.pow 2 (6 - lead.following))

/-- Decode octets; each longest piece that starts a sequence but does not complete it becomes one
replacement character. `skip` counts the octets of the piece last decoded that are still to be
passed over. -/
def decodeFrom : Nat → List Char → List Char
  | _, [] => []
  | skip + 1, _ :: rest => decodeFrom skip rest
  | 0, octet :: rest =>
      if octet.toNat < 0x80 then octet :: decodeFrom 0 rest
      else
        match LeadOctet.of? octet.toNat with
        | none => '\uFFFD' :: decodeFrom 0 rest
        | some lead =>
            let length := followingLength lead rest
            if length = lead.following then
              Char.ofNat (sequenceValue lead octet.toNat (rest.take length)) ::
                decodeFrom length rest
            else '\uFFFD' :: decodeFrom length rest

/-- The text that some octets encode, with the replacement character for what is malformed. -/
def ofOctets (octets : Octets) : String :=
  match ofOctets? octets with
  | some text => text
  | none => String.ofList (decodeFrom 0 octets.toList)

/-- The two lower-case hexadecimal digits of each octet. -/
def octetsToHex (octets : Octets) : String :=
  String.ofList (octets.toList.flatMap fun octet =>
    [Nat.digitChar (octet.toNat / 16 % 16), Nat.digitChar (octet.toNat % 16)])

/-- The value of a hexadecimal digit. -/
def hexValue? (character : Char) : Option Nat :=
  if character.isDigit then some (character.toNat - '0'.toNat)
  else if 'a' ≤ character ∧ character ≤ 'f' then some (character.toNat - 'a'.toNat + 10)
  else if 'A' ≤ character ∧ character ≤ 'F' then some (character.toNat - 'A'.toNat + 10)
  else none

/-- Read octets from pairs of hexadecimal digits. -/
def hexToOctets? : List Char → Option (List Char)
  | [] => some []
  | high :: low :: rest => do
      let highValue ← hexValue? high
      let lowValue ← hexValue? low
      let others ← hexToOctets? rest
      return Char.ofNat (highValue * 16 + lowValue) :: others
  | [_] => none

/-- Read octets from a text of hexadecimal digits. -/
def octetsOfHex? (text : String) : Option Octets :=
  (hexToOctets? text.toList).map String.ofList

end QueryFoundry.Text
