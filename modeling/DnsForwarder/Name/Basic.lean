import DnsForwarder.Wire.Bytes

/-!
# Domain names

A name is its list of labels, the root the empty list.  Labels hold any bytes;
only their lengths are bounded, and those bounds are part of the type.  Names
compare without regard to the case of ASCII letters, so each name has a
lowercase form, reached by `Name.lower`; lowering twice changes nothing more.

The text of a name writes every byte so that the text cannot be mistaken for
that of another name: a byte that could be read as a separator or an escape is
preceded by a backslash, and a byte that does not print becomes three octal
digits.
-/

namespace DnsForwarder

/-- The bytes a name's labels take on the wire, the closing zero left out. -/
def wireLength : List Bytes → Nat
  | [] => 0
  | label :: rest => label.length + 1 + wireLength rest

/-- Labels that a name may have: none empty, none above 63 bytes, and short
enough together. -/
def LabelsAllowed (labels : List Bytes) : Prop :=
  (∀ label ∈ labels, 0 < label.length ∧ label.length ≤ 63) ∧ wireLength labels < 255

instance (labels : List Bytes) : Decidable (LabelsAllowed labels) := by
  unfold LabelsAllowed; infer_instance

structure Name where
  labels : List Bytes
  allowed : LabelsAllowed labels
deriving DecidableEq

namespace Name

def root : Name := ⟨[], by decide⟩

instance : Inhabited Name := ⟨root⟩

def isRoot (name : Name) : Bool := name.labels.isEmpty

def ofLabels? (labels : List Bytes) : Option Name :=
  if allowed : LabelsAllowed labels then some ⟨labels, allowed⟩ else none

/-! ## Case -/

/-- ASCII letters lose their case; every other byte stays. -/
def lowerByte (byte : UInt8) : UInt8 :=
  if 65 ≤ byte ∧ byte ≤ 90 then byte + 32 else byte

theorem lowerByte_lowerByte (byte : UInt8) : lowerByte (lowerByte byte) = lowerByte byte := by
  have bound := byte.toNat_lt
  unfold lowerByte
  split
  · rename_i upper
    rw [if_neg]
    rintro ⟨low, high⟩
    obtain ⟨lower, raise⟩ := upper
    simp only [UInt8.le_iff_toNat_le, UInt8.toNat_add, UInt8.reduceToNat] at *
    omega
  · rfl

def lowerLabels (labels : List Bytes) : List Bytes :=
  labels.map (List.map lowerByte)

theorem wireLength_lowerLabels (labels : List Bytes) :
    wireLength (lowerLabels labels) = wireLength labels := by
  induction labels with
  | nil => rfl
  | cons label rest ih =>
    simpa [wireLength, lowerLabels] using ih

theorem labelsAllowed_lowerLabels {labels : List Bytes} (allowed : LabelsAllowed labels) :
    LabelsAllowed (lowerLabels labels) := by
  refine ⟨?_, by rw [wireLength_lowerLabels]; exact allowed.2⟩
  intro label member
  obtain ⟨spelled, spelledMember, rfl⟩ := List.mem_map.mp member
  simpa using allowed.1 spelled spelledMember

def lower (name : Name) : Name :=
  ⟨lowerLabels name.labels, labelsAllowed_lowerLabels name.allowed⟩

theorem lower_lower (name : Name) : name.lower.lower = name.lower := by
  simp [lower, lowerLabels, Function.comp_def, lowerByte_lowerByte]

/-- Names that differ at most in the case of their letters. -/
def SameName (one other : Name) : Prop := one.lower = other.lower

instance (one other : Name) : Decidable (SameName one other) := by
  unfold SameName; infer_instance

/-! ## Text -/

/-- Letters, digits and the underscore need no escape anywhere; a hyphen needs
none after the first place, an asterisk none in the first. -/
def isPlain (first : Bool) (byte : UInt8) : Bool :=
  (48 ≤ byte && byte ≤ 57) || (65 ≤ byte && byte ≤ 90) || (97 ≤ byte && byte ≤ 122) ||
    byte == 95 || (byte == 45 && !first) || (byte == 42 && first)

def octalDigit (value : UInt8) : Char := Char.ofNat (48 + value.toNat % 8)

def byteText (first : Bool) (byte : UInt8) : List Char :=
  if isPlain first byte then [Char.ofNat byte.toNat]
  else if 33 ≤ byte ∧ byte ≤ 126 then ['\\', Char.ofNat byte.toNat]
  else ['\\', octalDigit (byte / 64), octalDigit (byte / 8), octalDigit byte]

def labelText : Bytes → List Char
  | [] => []
  | byte :: rest => byteText true byte ++ rest.flatMap (byteText false)

/-- Every label is followed by a dot; the root is a dot alone. -/
def text (name : Name) : String :=
  match name.labels with
  | [] => "."
  | labels => String.ofList (labels.flatMap fun label => labelText label ++ ['.'])

end Name

end DnsForwarder
