import FieldSurvey.Column
import FieldSurvey.Decimal.Render
import FieldSurvey.Scalar
import FieldSurvey.Text.Quoted

/-!
The text of an array: its entries in nested brackets, numbers padded so that their points stand
under each other, long rows broken, and of a large array only the outer entries. The entries of a
mixed column come as texts already.
-/

namespace FieldSurvey

namespace ArrayText

/-- Most digits after the point. -/
def places : Nat := 8

/-- Most characters of a line. -/
def lineWidth : Nat := 75

/-- Arrays of more entries are shortened. -/
def fullSize : Nat := 1000

/-- Entries that stay at either end of a shortened axis. -/
def edgeCount : Nat := 3

def spaces (count : Nat) : String := String.ofList (List.replicate count ' ')

def padLeft (width : Nat) (text : String) : String := spaces (width - text.length) ++ text

def padRight (width : Nat) (text : String) : String := text ++ spaces (width - text.length)

def dropTrailing (dropped : Char) (text : String) : String :=
  String.ofList (text.toList.reverse.dropWhile (· == dropped)).reverse

def padZeros (width number : Nat) : String :=
  let digits := toString number
  zeros (width - digits.length) ++ digits

/-- A sign; that of a positive number is written only where asked for. -/
def signText (showsPlus negative : Bool) : String :=
  if negative then "-" else if showsPlus then "+" else ""

def widest (texts : List String) : Nat := texts.foldl (fun width text => max width text.length) 0

/-- The digits of a number: before the point, after it, and the power of ten. -/
structure NumberCell where
  whole : String
  fraction : String
  exponent : Int

/-- A finite number without a power of ten, its zeros at the end left out. -/
def positionalCell (width : FloatWidth) (sign : String) (significand : Nat) (exponent : Int) :
    NumberCell :=
  let scaled : Nat :=
    if significand = 0 then 0
    else
      let shortest := shortestDigits width significand exponent
      if -(places : Int) ≤ shortest.exponent then
        shortest.digits * 10 ^ (shortest.exponent + places).toNat
      else
        let value := Ratio.ofBinary significand exponent
        divideToEven (value.numerator * 10 ^ places) value.denominator
  ⟨sign ++ toString (scaled / 10 ^ places),
    dropTrailing '0' (padZeros places (scaled % 10 ^ places)), 0⟩

/-- A finite number with a power of ten, one digit standing before the point. -/
def scientificCell (width : FloatWidth) (sign : String) (significand : Nat) (exponent : Int) :
    NumberCell :=
  if significand = 0 then ⟨sign ++ "0", "", 0⟩
  else
    let shortest := shortestDigits width significand exponent
    let number :=
      if shortest.text.length ≤ places + 1 then shortest
      else
        let (digits, power) := (Ratio.ofBinary significand exponent).roundedDigits (places + 1)
        .trimmed (places + 1) digits power
    match number.text.toList with
    | [] => ⟨sign, "", 0⟩
    | digit :: others => ⟨sign ++ String.singleton digit, String.ofList others, number.lead⟩

/-- The power of ten from which on numbers of a width get exponents. -/
def exponentFrom : FloatWidth → Nat
  | .half => 3
  | .single => 6
  | .double => 8

/-- A double cut to a width. -/
def cutTo (width : FloatWidth) (number : Float) : Float := width.toFloat (width.ofFloat number)

/-- Whether some numbers of a width are written with exponents: if one is very large or very small,
or if they differ by more than a factor of a thousand. -/
def usesExponents (width : FloatWidth) (numbers : List Float) : Bool :=
  let sizes := (numbers.filter fun number => Scalar.isFinite number && !Scalar.eq number 0.0).map
    Float.abs
  match sizes with
  | [] => false
  | first :: rest =>
      let largest := rest.foldl Scalar.greater first
      let smallest := rest.foldl Scalar.lesser first
      Scalar.le (Float.ofNat (10 ^ exponentFrom width)) largest ||
        Scalar.lt smallest (cutTo width 0.0001) ||
        Scalar.lt (1000.0 : Float) (cutTo width (largest / smallest))

/-- The texts of real numbers, all of them equally long. -/
def realCells (width : FloatWidth) (showsPlus : Bool) (words : List (BitVec width.bits)) :
    List String :=
  let hasExponents := usesExponents width (words.map width.toFloat)
  let cellOf : BinaryNumber → Option NumberCell
    | .finite negative significand exponent =>
        let sign := signText showsPlus negative
        some (if hasExponents then scientificCell width sign significand exponent
          else positionalCell width sign significand exponent)
    | _ => none
  let numbers := words.map width.decode
  let cells := numbers.filterMap cellOf
  let digits := widest (cells.map NumberCell.fraction)
  let exponentDigits := (widest (cells.map fun cell => toString cell.exponent.natAbs)).max 2
  let wholeWidth := widest (cells.map NumberCell.whole)
  let tailWidth :=
    if hasExponents then exponentDigits + 2 + digits else digits
  let namedWidth (text : String) : Nat := text.length - (tailWidth + 1)
  let infinity := if showsPlus || numbers.contains (.infinite true) then "-inf" else "inf"
  let wholeWidth :=
    if cells.length = numbers.length then wholeWidth
    else max wholeWidth (max (namedWidth "nan") (namedWidth infinity))
  let tail (cell : NumberCell) : String :=
    if hasExponents then
      let sign := if cell.exponent < 0 then "e-" else "e+"
      cell.fraction ++ zeros (digits - cell.fraction.length) ++ sign ++
        padZeros exponentDigits cell.exponent.natAbs
    else padRight digits cell.fraction
  numbers.map fun number =>
    match cellOf number with
    | some cell => padLeft wholeWidth cell.whole ++ "." ++ tail cell
    | none =>
        padLeft (wholeWidth + tailWidth + 1) <|
          match number with
          | .infinite negative => signText showsPlus negative ++ "inf"
          | _ => signText showsPlus false ++ "nan"

/-- Puts the imaginary unit after a number, before the blanks that follow it. -/
def withUnit (text : String) : String :=
  let number := dropTrailing ' ' text
  number ++ "j" ++ spaces (text.length - number.length)

/-- The texts of the entries of a column. Truth values are as long as each other unless the array
has no axes. -/
def cellsOf (hasAxes : Bool) : Column String → List String
  | .truth entries =>
      entries.map fun entry => if entry then (if hasAxes then " True" else "True") else "False"
  | .int type entries =>
      let texts := entries.map fun word => toString (type.read word)
      texts.map (padLeft (widest texts))
  | .float width entries => realCells width false entries
  | .complex width entries =>
      List.zipWith (fun (first second : String) => first ++ withUnit second)
        (realCells width false (entries.map Prod.fst)) (realCells width true (entries.map Prod.snd))
  | .text _ entries => entries.map quotedText
  | .bytes _ entries => entries.map quotedBytes
  | .mixed entries => entries

/-- An axis as it is shown: how many entries of it, and whether some between them are left out. -/
structure ShownAxis where
  count : Nat
  isShortened : Bool

/-- What stands for the entries that are left out. -/
def omission : String := "..."

/-- The entries of an axis, a mark between those at its ends if others are left out. -/
def ShownAxis.marked (axis : ShownAxis) (texts : List String) : List String :=
  if axis.isShortened then texts.take edgeCount ++ omission :: texts.drop edgeCount else texts

def shownAxis (isShortened : Bool) (length : Nat) : ShownAxis :=
  if isShortened && decide (2 * edgeCount < length) then ⟨2 * edgeCount, true⟩
  else ⟨length, false⟩

def shownPlaces (axis : ShownAxis) (length : Nat) : List Nat :=
  if axis.isShortened then
    List.range edgeCount ++ (List.range edgeCount).map (length - edgeCount + ·)
  else List.range length

def shownEntries (isShortened : Bool) : List Nat → List Nat
  | [] => [0]
  | length :: inner =>
      let size := inner.foldl (· * ·) 1
      let within := shownEntries isShortened inner
      (shownPlaces (shownAxis isShortened length) length).flatMap fun place =>
        within.map (place * size + ·)

/-- A row under way: the lines that are done, and the last one. -/
structure Row where
  done : String
  line : String

/-- Adds a word to a row, on a new line if the last one would get too long by it. -/
def Row.add (row : Row) (width : Int) (indent word : String) : Row :=
  if width < row.line.length + word.length ∧ indent.length < row.line.length then
    ⟨row.done ++ dropTrailing ' ' row.line ++ "\n", indent ++ word⟩
  else ⟨row.done, row.line ++ word⟩

def Row.fill (separator indent : String) (width : Int) : Row → List String → Row
  | row, [] => row
  | row, [word] => row.add width indent word
  | row, word :: rest =>
      let next := row.add width indent word
      fill separator indent width ⟨next.done, next.line ++ separator⟩ rest

/-- Lays out the entries along some axes in brackets. A row is broken where it gets too long; rows
stand under each other, and so do blocks of them, with an empty line between two blocks for each axis
of a block beyond the first. -/
def layOut (separator : String) : List ShownAxis → List String → String → Int → String
  | [], cells, _, _ => cells.headD ""
  | [axis], cells, indent, width =>
      let mark := dropTrailing ' ' separator
      let row := Row.fill separator indent (width - (max mark.length 1 : Nat)) ⟨"", indent⟩
        (axis.marked cells)
      "[" ++ String.ofList ((row.done ++ row.line).toList.drop indent.length) ++ "]"
  | axis :: inner, cells, indent, width =>
      let size := inner.foldl (fun size shown => size * shown.count) 1
      let blocks := (List.range axis.count).map fun place =>
        layOut separator inner ((cells.drop (place * size)).take size) (indent ++ " ") (width - 1)
      let ending := dropTrailing ' ' separator ++ String.ofList (inner.map fun _ => '\n') ++ indent
      "[" ++ ending.intercalate (axis.marked blocks) ++ "]"

/-- The text of an array between a beginning and an ending of some lengths. -/
def body (separator : String) (before after : Nat) (shape : List Nat) (column : Column String) :
    String :=
  if column.size = 0 then "[]"
  else
    let isShortened := decide (fullSize < column.size)
    let shown := column.pick (shownEntries isShortened shape)
    layOut separator (shape.map (shownAxis isShortened)) (cellsOf (!shape.isEmpty) shown)
      (spaces (before + 1)) ((lineWidth : Int) - after)

def alone (shape : List Nat) (column : Column String) : String := body " " 0 0 shape column

def shapeText (shape : List Nat) : String :=
  match shape with
  | [length] => "(" ++ toString length ++ ",)"
  | lengths => "(" ++ ", ".intercalate (lengths.map toString) ++ ")"

/-- Whether the entries show their type: truth values, whole numbers of 64 bits with a sign, and
doubles do. -/
def showsType : ElementType → Bool
  | .truth => true
  | .int .int64 => true
  | .float .double => true
  | .complex .double => true
  | _ => false

def typeText : ElementType → String
  | .text length => "'<U" ++ toString length ++ "'"
  | .bytes length => "'|S" ++ toString length ++ "'"
  | other => other.name

/-- The text of an array as it stands inside a container: with its type and shape, where the entries
do not show them. -/
def inside (shape : List Nat) (column : Column String) : String :=
  let opening := "array("
  let entries := body ", " opening.length 1 shape column
  let isEmpty := column.size == 0
  let shapePart :=
    if (isEmpty && shape != [0]) || decide (fullSize < column.size) then
      ["shape=" ++ shapeText shape]
    else []
  let typePart :=
    if !showsType column.elementType || isEmpty then ["dtype=" ++ typeText column.elementType]
    else []
  match shapePart ++ typePart with
  | [] => opening ++ entries ++ ")"
  | parts =>
      let start := opening ++ entries ++ ","
      let ending := ", ".intercalate parts ++ ")"
      let lastLine := (start.toList.reverse.takeWhile (· != '\n')).length
      let gap :=
        if lineWidth < lastLine + ending.length + 1 then "\n" ++ spaces opening.length else " "
      start ++ gap ++ ending

end ArrayText

end FieldSurvey
