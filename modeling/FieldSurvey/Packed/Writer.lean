import FieldSurvey.Packed.ArrayForm

/-!
Values as packed bytes. Every value starts with a byte that tells its kind, small sizes and numbers
are part of that byte, and each number or size takes the shortest form that holds it; real numbers
always take eight bytes.
-/

namespace FieldSurvey

def packWhole (number : Int) : Except Error Bytes :=
  let marked (mark : UInt8) (count : Nat) : Except Error Bytes :=
    .ok (mark :: bigEndian count (number % (256 : Int) ^ count).toNat)
  if 0 ≤ number then
    if number < 2 ^ 7 then .ok (bigEndian 1 number.toNat)
    else if number < 2 ^ 8 then marked 0xcc 1
    else if number < 2 ^ 16 then marked 0xcd 2
    else if number < 2 ^ 32 then marked 0xce 4
    else if number < 2 ^ 64 then marked 0xcf 8
    else .error (.unpackable "int")
  else if -(2 ^ 5) ≤ number then .ok (bigEndian 1 (number % 256).toNat)
  else if -(2 ^ 7) ≤ number then marked 0xd0 1
  else if -(2 ^ 15) ≤ number then marked 0xd1 2
  else if -(2 ^ 31) ≤ number then marked 0xd2 4
  else if -(2 ^ 63) ≤ number then marked 0xd3 8
  else .error (.unpackable "int")

def textHead (size : Nat) : Bytes :=
  if size < 2 ^ 5 then [UInt8.ofNat (0xa0 + size)]
  else if size < 2 ^ 8 then 0xd9 :: bigEndian 1 size
  else if size < 2 ^ 16 then 0xda :: bigEndian 2 size
  else 0xdb :: bigEndian 4 size

def bytesHead (size : Nat) : Bytes :=
  if size < 2 ^ 8 then 0xc4 :: bigEndian 1 size
  else if size < 2 ^ 16 then 0xc5 :: bigEndian 2 size
  else 0xc6 :: bigEndian 4 size

def listHead (size : Nat) : Bytes :=
  if size < 2 ^ 4 then [UInt8.ofNat (0x90 + size)]
  else if size < 2 ^ 16 then 0xdc :: bigEndian 2 size
  else 0xdd :: bigEndian 4 size

def mapHead (size : Nat) : Bytes :=
  if size < 2 ^ 4 then [UInt8.ofNat (0x80 + size)]
  else if size < 2 ^ 16 then 0xde :: bigEndian 2 size
  else 0xdf :: bigEndian 4 size

/-- The head of something of a size, if four bytes hold the size. -/
def sizedHead (head : Nat → Bytes) (size : Nat) : Except Error Bytes :=
  if size < 2 ^ 32 then .ok (head size) else .error .badValue

def packText (content : String) : Except Error Bytes := do
  let bytes := content.toUTF8.data.toList
  let head ← sizedHead textHead bytes.length
  return head ++ bytes

def packBytes (content : Bytes) : Except Error Bytes := do
  let head ← sizedHead bytesHead content.length
  return head ++ content

/-- The plain number that a number with a type is written as; a complex one has none. -/
def TypedNumber.plain : TypedNumber → Except Error Value
  | .truth value => .ok (.truth value)
  | .int type word => .ok (.whole (type.read word))
  | .float .double word => .ok (.real ⟨word⟩)
  | .float width word => .ok (.real (.ofFloat (width.toFloat word)))
  | .complex _ _ => .error .wrongType

def packScalar : Value → Except Error Bytes
  | .null => .ok [0xc0]
  | .truth content => .ok [if content then 0xc3 else 0xc2]
  | .whole number => packWhole number
  | .real stored => .ok (0xcb :: bigEndian 8 stored.bits.toNat)
  | .text content => packText content
  | .bytes content => packBytes content
  | .foreign typeName _ => .error (.unpackable typeName)
  | _ => .error .wrongType

def packItems (pack : Value → Except Error Bytes) (items : List Value) : Except Error Bytes := do
  let head ← sizedHead listHead items.length
  let packed ← items.mapM pack
  return head ++ packed.flatten

/-- The bytes of the entries of a mapping, given how to pack a key or value. -/
def packEntries (pack : Value → Except Error Bytes) (entries : List (Value × Value)) :
    Except Error Bytes := do
  let head ← sizedHead mapHead entries.length
  let packed ← entries.mapM fun entry => do
    let key ← pack entry.1
    let value ← pack entry.2
    return key ++ value
  return head ++ packed.flatten

/-- Packs a value within a depth of nesting; an array is packed as its mapping. -/
def packWithin : Nat → Value → Except Error Bytes
  | 0, _ => .error .badValue
  | depth + 1, value =>
      match value with
      | .list items => packItems (packWithin depth) items
      | .map entries => packEntries (packWithin depth) entries
      | .array shape column => packEntries (packWithin depth) (Value.arrayForm shape column)
      | .typed number => do
          let plain ← number.plain
          packScalar plain
      | scalar => packScalar scalar

/-- How deep values may be nested to be written. -/
def writingDepth : Nat := 512

/-- Packs a value. -/
def pack (value : Value) : Except Error Bytes := packWithin writingDepth value

end FieldSurvey
