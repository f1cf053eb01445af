import QueryFoundry.Text.Octets

/-!
# Terminal control

A text for a terminal holds control characters and sequences of characters that set colours or move
the cursor. What is left without them is what a file or a pipe is given. The sequences are those of
the VT500 family of terminals: an escape character, and then characters up to one that ends the
sequence of its kind.
-/

namespace QueryFoundry.Text.Terminal

/-- What a terminal is in the middle of. -/
inductive Phase where
  /-- Characters are shown. -/
  | ground
  /-- Behind an escape character. -/
  | escape
  | escapeIntermediate
  /-- A control sequence, which a bracket introduces. -/
  | sequenceEntry
  | sequenceParameter
  | sequenceIntermediate
  | sequenceIgnored
  /-- A device control string. -/
  | deviceEntry
  | deviceParameter
  | deviceIntermediate
  | deviceIgnored
  | deviceData
  /-- A command of the operating system. -/
  | systemCommand
  /-- A string that is meant for an application. -/
  | applicationString
  /-- Octets of a character that takes several. -/
  | characterRest (octets : Nat)
deriving DecidableEq, Repr

/-- What a terminal does with an octet. -/
inductive Act where
  | show
  | execute
  | nothing
deriving DecidableEq, Repr

/-- Whether an octet is a control character that is obeyed in the middle of a sequence. -/
def isObeyed (octet : Nat) : Bool :=
  octet ≤ 0x17 || octet == 0x19 || (0x1c ≤ octet && octet ≤ 0x1f)

/-- Whether an octet lies between two others, both included. -/
def within (octet low high : Nat) : Bool :=
  low ≤ octet && octet ≤ high

/-- The phase that an octet behind an escape character leads to. -/
def afterEscape (octet : Nat) : Option Phase :=
  if within octet 0x20 0x2f then some .escapeIntermediate
  else if octet == 0x5b then some .sequenceEntry
  else if octet == 0x5d then some .systemCommand
  else if octet == 0x50 then some .deviceEntry
  else if octet == 0x58 || octet == 0x5e || octet == 0x5f then some .applicationString
  else if within octet 0x30 0x7e then some .ground
  else none

/-- The phase that an octet leads to from another phase, if it leads anywhere. -/
def nextPhase? (octet : Nat) : Phase → Option Phase
  | .ground =>
      if within octet 0xc2 0xdf then some (.characterRest 1)
      else if within octet 0xe0 0xef then some (.characterRest 2)
      else if within octet 0xf0 0xf4 then some (.characterRest 3)
      else none
  | .escape => afterEscape octet
  | .escapeIntermediate => if within octet 0x30 0x7e then some .ground else none
  | .sequenceEntry =>
      if within octet 0x20 0x2f then some .sequenceIntermediate
      else if within octet 0x30 0x3f then some .sequenceParameter
      else if within octet 0x40 0x7e then some .ground
      else none
  | .sequenceParameter =>
      if within octet 0x20 0x2f then some .sequenceIntermediate
      else if within octet 0x3c 0x3f then some .sequenceIgnored
      else if within octet 0x40 0x7e then some .ground
      else none
  | .sequenceIntermediate =>
      if within octet 0x30 0x3f then some .sequenceIgnored
      else if within octet 0x40 0x7e then some .ground
      else none
  | .sequenceIgnored => if within octet 0x40 0x7e then some .ground else none
  | .deviceEntry =>
      if within octet 0x20 0x2f then some .deviceIntermediate
      else if within octet 0x30 0x3f then some .deviceParameter
      else if within octet 0x40 0x7e then some .deviceData
      else none
  | .deviceParameter =>
      if within octet 0x20 0x2f then some .deviceIntermediate
      else if within octet 0x3c 0x3f then some .deviceIgnored
      else if within octet 0x40 0x7e then some .deviceData
      else none
  | .deviceIntermediate =>
      if within octet 0x30 0x3f then some .deviceIgnored
      else if within octet 0x40 0x7e then some .deviceData
      else none
  | .deviceIgnored | .deviceData | .applicationString =>
      if octet == 0x9c then some .ground else none
  | .systemCommand => if octet == 0x07 then some .ground else none
  | .characterRest count => some (if count ≤ 1 then .ground else .characterRest (count - 1))

/-- What an octet does in a phase. -/
def actOf (octet : Nat) : Phase → Act
  | .ground =>
      if within octet 0x20 0x7f then .show
      else if within octet 0xc2 0xf4 then .show
      else if isObeyed octet || within octet 0x80 0x9c then .execute
      else .nothing
  | .escape | .escapeIntermediate | .sequenceEntry | .sequenceParameter | .sequenceIntermediate
  | .sequenceIgnored => if isObeyed octet then .execute else .nothing
  | .characterRest _ => .show
  | _ => .nothing

/-- The phase that an octet leads to, if it leads to another one, and what the octet does. Three
control characters count in every phase: two of them abort a sequence and one starts another. -/
def change (phase : Phase) (octet : Nat) : Option Phase × Act :=
  if octet == 0x18 || octet == 0x1a then (some .ground, .execute)
  else if octet == 0x1b then (some .escape, .nothing)
  else (nextPhase? octet phase, actOf octet phase)

/-- Whether an octet is kept for what it does: characters that are shown and blanks that are
obeyed. -/
def isKept (act : Act) (octet : Nat) : Bool :=
  match act with
  | .show => octet != 0x7f
  | .execute => [0x09, 0x0a, 0x0c, 0x0d, 0x20].contains octet
  | .nothing => false

/-- Where a text has been read to: the phase, and whether the last octet was kept. -/
structure Progress where
  phase : Phase := .ground
  isKeeping : Bool := false
deriving DecidableEq, Repr

/-- Read one octet and tell whether it is kept. While octets are dropped they are read in the phase
they are in, and from the first one that is kept on as in the ground phase, until one is dropped. -/
def Progress.read (progress : Progress) (octet : Nat) : Progress × Bool :=
  match progress.phase with
  | .characterRest count =>
      (⟨if count ≤ 1 then .ground else .characterRest (count - 1), true⟩, true)
  | phase =>
      let (reached, act) := change (if progress.isKeeping then .ground else phase) octet
      let settled := reached.getD phase
      if isKept act octet then (⟨((change .ground octet).1).getD settled, true⟩, true)
      else if progress.isKeeping then (⟨((change settled octet).1).getD settled, false⟩, false)
      else (⟨settled, false⟩, false)

/-- The octets that are kept. -/
def keep (progress : Progress) : List Char → List Char
  | [] => []
  | character :: rest =>
      let (after, isKept) := progress.read character.toNat
      if isKept then character :: keep after rest else keep after rest

/-- A text without what commands a terminal. -/
def strip (text : String) : String :=
  ofOctets (String.ofList (keep {} (toOctets text).toList))

end QueryFoundry.Text.Terminal
