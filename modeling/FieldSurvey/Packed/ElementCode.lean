import FieldSurvey.Packed.Bytes
import FieldSurvey.Value.Shape

/-!
How element types are written beside packed entries: a code of byte order, kind and size. Reading
knows a letter or a name for most types as well.
-/

namespace FieldSurvey

namespace IntType

def byteCount (type : IntType) : Nat := type.bits / 8

def kindCode (type : IntType) : String :=
  (if type.isSigned then "i" else "u") ++ toString type.byteCount

def code (type : IntType) : String := (if type.byteCount = 1 then "|" else "<") ++ type.kindCode

end IntType

namespace FloatWidth

def byteCount (width : FloatWidth) : Nat := width.bits / 8

end FloatWidth

namespace ElementType

/-- The code of an element type: byte order, kind and size. -/
def code : ElementType → String
  | truth => "|b1"
  | int type => type.code
  | float width => "<f" ++ toString width.byteCount
  | complex width => "<c" ++ toString (2 * width.byteCount)
  | text length => "<U" ++ toString length
  | bytes length => "|S" ++ toString length
  | mixed => "|O"

def byteCount : ElementType → Nat
  | truth => 1
  | int type => type.byteCount
  | float width => width.byteCount
  | complex width => 2 * width.byteCount
  | text length => 4 * length
  | bytes length => length
  | mixed => 8

/-- The element types of one-letter codes. Texts and byte strings have no length by themselves, a
single character aside. -/
def lettered : List (Char × ElementType) :=
  [('?', .truth), ('b', .int .int8), ('B', .int .uint8), ('h', .int .int16), ('H', .int .uint16),
   ('i', .int .int32), ('I', .int .uint32), ('l', .int .int64), ('L', .int .uint64),
   ('q', .int .int64), ('Q', .int .uint64), ('p', .int .int64), ('P', .int .uint64),
   ('n', .int .int64), ('N', .int .uint64), ('e', .float .half), ('f', .float .single),
   ('d', .float .double), ('F', .complex .single), ('D', .complex .double), ('O', .mixed),
   ('S', .bytes 0), ('a', .bytes 0), ('V', .bytes 0), ('U', .text 0), ('c', .bytes 1)]

def named : List (String × ElementType) :=
  [("bool", .truth), ("bool_", .truth), ("byte", .int .int8), ("ubyte", .int .uint8),
   ("short", .int .int16), ("ushort", .int .uint16), ("intc", .int .int32),
   ("uintc", .int .uint32), ("int", .int .int64), ("int_", .int .int64), ("uint", .int .uint64),
   ("long", .int .int64), ("ulong", .int .uint64), ("longlong", .int .int64),
   ("ulonglong", .int .uint64), ("intp", .int .int64), ("uintp", .int .uint64),
   ("half", .float .half), ("single", .float .single), ("double", .float .double),
   ("float", .float .double), ("csingle", .complex .single), ("cdouble", .complex .double),
   ("complex", .complex .double), ("object", .mixed), ("object_", .mixed), ("str", .text 0),
   ("str_", .text 0), ("unicode", .text 0), ("bytes", .bytes 0), ("bytes_", .bytes 0),
   ("void", .bytes 0)] ++
  ([.int8, .int16, .int32, .int64, .uint8, .uint16, .uint32, .uint64] : List IntType).map
    (fun type => (type.name, .int type)) ++
  ([.half, .single, .double] : List FloatWidth).map (fun width => (width.name, .float width)) ++
  ([.single, .double] : List FloatWidth).map (fun width => (width.complexName, .complex width))

def sized : List (String × ElementType) :=
  [("b1", .truth), ("O4", .mixed), ("O8", .mixed), ("f2", .float .half), ("f4", .float .single),
   ("f8", .float .double), ("c8", .complex .single), ("c16", .complex .double)] ++
  ([.int8, .int16, .int32, .int64, .uint8, .uint16, .uint32, .uint64] : List IntType).map
    (fun type => (type.kindCode, .int type))

/-- The largest size of an entry in bytes. -/
def sizeLimit : Nat := 2 ^ 31 - 1

/-- The size behind the letter of a code: digits, perhaps after blanks and a plus sign. -/
def sizeOf? (rest : List Char) : Option Nat :=
  let signed := rest.dropWhile fun character =>
    [' ', '\t', '\n', '\u000b', '\u000c', '\r'].contains character
  let digits := match signed with
    | '+' :: digits => digits
    | _ => signed
  if !digits.isEmpty && digits.all Char.isDigit then
    (String.ofList digits).toNat?.filter (· ≤ sizeLimit)
  else none

def ofCode? : List Char → Option ElementType
  | [] => none
  | [letter] => lettered.lookup letter
  | kind :: rest =>
      match sizeOf? rest with
      | none => none
      | some size =>
        if kind = 'U' then if 4 * size ≤ sizeLimit then some (.text size) else none
        else if kind = 'S' ∨ kind = 'a' then some (.bytes size)
        else sized.lookup (String.singleton kind ++ toString size)

/-- A byte order that stands in front of a code, and the code: words may have the highest byte
first. -/
def splitOrder : List Char → Bool × List Char
  | '<' :: code => (false, code)
  | '=' :: code => (false, code)
  | '|' :: code => (false, code)
  | '>' :: code => (true, code)
  | code => (false, code)

/-- The element type of a code or name, and whether its words have the highest byte first. A name
has no byte order in front of it. -/
def ofText? (content : String) : Option (ElementType × Bool) :=
  let (isHighFirst, code) := splitOrder content.toList
  match ofCode? code with
  | some type => some (type, isHighFirst)
  | none => (named.lookup content).map (·, false)

/-- The element type that a value names; nothing at all names doubles. A mapping could only name
fields, and none of its entries does: how it is refused depends on whether the first has items. -/
def ofValue (value : Value) : Except Error (ElementType × Bool) :=
  let found (content : String) : Except Error (ElementType × Bool) :=
    match ofText? content with
    | some type => .ok type
    | none => .error .wrongType
  match value with
  | .null => .ok (.float .double, false)
  | .text content => found content
  | .bytes content =>
      match asciiText? content with
      | some characters => found characters
      | none => .error .wrongType
  | .map ((_, first) :: _) => do
      let _ ← first.items?
      throw .badValue
  | .map [] => .error .badValue
  | .list [] => .error .badValue
  | _ => .error .wrongType

end ElementType

end FieldSurvey
