import ServiceContract.Json.Basic
import ServiceContract.Yaml.Char
import ServiceContract.Yaml.Fault
import ServiceContract.Yaml.Tag
import ServiceContract.Yaml.Token

/-!
# The values of scalars

A plain scalar may be null, a truth value or a number; other scalars are texts. A tag of the
standard types asks for a value of its type and is refused where the text does not fit.
-/

namespace ServiceContract.Yaml

/-! ## Words -/

/-- The ways to write null, the empty text apart. -/
def isNullWord (text : String) : Bool := ["null", "Null", "NULL", "~"].contains text

/-- The truth value that a text stands for. -/
def truthValue? (text : String) : Option Bool :=
  if ["true", "True", "TRUE"].contains text then some true
  else if ["false", "False", "FALSE"].contains text then some false
  else none

/-! ## Whole numbers -/

/-- Whether `c` is a digit of the base. -/
def isDigitOf (base : Nat) (c : Char) : Bool := isHexDigit c && hexValue c < base

/-- The number that digits of the base stand for; there has to be one. -/
def digits? (base : Nat) (cs : List Char) : Option Nat :=
  if !cs.isEmpty && cs.all (isDigitOf base) then some (numberOf base cs) else none

/-- Whether digits start with a zero that stands for nothing, in which case they are no number. -/
def hasIdleZero (cs : List Char) : Bool :=
  cs.length > 1 && cs.head? == some '0' && cs.all Char.isDigit

/-- The number that a text without a sign stands for: decimal, or in base 16, 8 or 2. -/
def unsigned? (cs : List Char) : Option Nat :=
  match cs with
  | '0' :: 'x' :: digits => digits? 16 digits
  | '0' :: 'o' :: digits => digits? 8 digits
  | '0' :: 'b' :: digits => digits? 2 digits
  | cs => if hasIdleZero cs then none else digits? 10 cs

/-- The whole number that a text stands for. -/
def whole? (cs : List Char) : Option Int :=
  match cs with
  | '+' :: cs => (unsigned? cs).map Int.ofNat
  | '-' :: cs => (unsigned? cs).map fun n => -(n : Int)
  | cs => (unsigned? cs).map Int.ofNat

/-- What a text is as a whole number. -/
inductive Whole where
  | none
  | fits (n : Int)
  /-- The number needs more than 64 bits, though not more than 128. -/
  | tooWide
  deriving DecidableEq, Repr

/-- Sorts a text by the whole number it stands for. Beyond 128 bits it is taken for no whole
number. -/
def Whole.of (cs : List Char) : Whole :=
  match whole? cs with
  | Option.none => .none
  | some n =>
    if -0x8000000000000000 ≤ n && n ≤ 0xFFFFFFFFFFFFFFFF then .fits n
    else if -0x80000000000000000000000000000000 ≤ n && n ≤ 0xFFFFFFFFFFFFFFFFFFFFFFFFFFFFFFFF then
      .tooWide
    else .none

/-! ## Numbers with a point or an exponent -/

/-- The exponent after a number's digits: nothing, or a mark, a sign and digits. -/
def exponent? (cs : List Char) : Option Int :=
  match cs with
  | [] => some 0
  | mark :: rest =>
    if mark = 'e' || mark = 'E' then
      match rest with
      | '+' :: digits => (digits? 10 digits).map Int.ofNat
      | '-' :: digits => (digits? 10 digits).map fun n => -(n : Int)
      | digits => (digits? 10 digits).map Int.ofNat
    else none

/-- The double that a text without a sign stands for: digits with at most one point among them or
beside them, and an exponent. -/
def unsignedDouble? (negative : Bool) (cs : List Char) : Option Decimal.Binary64 :=
  let whole := cs.takeWhile Char.isDigit
  let rest := cs.dropWhile Char.isDigit
  let (fraction, rest) := match rest with
    | '.' :: rest => (rest.takeWhile Char.isDigit, rest.dropWhile Char.isDigit)
    | rest => ([], rest)
  if whole.isEmpty && fraction.isEmpty then none
  else
    (exponent? rest).bind fun exponent =>
      Decimal.Binary64.ofDecimal? negative (numberOf 10 (whole ++ fraction))
        (exponent - fraction.length)

/-- The words for numbers that are infinite or none. -/
def isUnboundedWord (text : String) : Bool :=
  [".inf", ".Inf", ".INF", "+.inf", "+.Inf", "+.INF", "-.inf", "-.Inf", "-.INF",
    ".nan", ".NaN", ".NAN"].contains text

/-- The value of a text as a number with a point or an exponent. Numbers that JSON has not are
null. -/
def double? (text : String) : Option Json :=
  if isUnboundedWord text then some .null
  else
    let number := match text.toList with
      | '+' :: cs => unsignedDouble? false cs
      | '-' :: cs => unsignedDouble? true cs
      | cs => unsignedDouble? false cs
    number.map fun x => .number (.double x)

/-! ## Scalars -/

/-- The value of a plain scalar without a tag. -/
def plainValue (text : String) : Except Fault Json :=
  if text = "" || isNullWord text then .ok .null
  else
    match truthValue? text with
    | some b => .ok (.bool b)
    | none =>
      match Whole.of text.toList with
      | .fits n => .ok (.number (.whole n))
      | .tooWide => .error .numberTooWide
      | .none =>
        let unsigned := match text.toList with
          | '+' :: cs | '-' :: cs => cs
          | cs => cs
        if hasIdleZero unsigned then .ok (.string text)
        else .ok ((double? text).getD (.string text))

/-- The value of a scalar with a tag. Local types have no meaning here. An exclamation mark before
bytes that are no text names no type, so the scalar is read as one without a tag. -/
def taggedValue (tag : Tag) (text : String) (style : Style) : Except Fault Json :=
  if tag.isLocal then .error .unknownTag
  else if tag = .standard "bool" then
    match truthValue? text with
    | some b => .ok (.bool b)
    | none => .error .scalarDoesNotFit
  else if tag = .standard "int" then
    match Whole.of text.toList with
    | .fits n => .ok (.number (.whole n))
    | .tooWide => .error .numberTooWide
    | .none => .error .scalarDoesNotFit
  else if tag = .standard "float" then
    match double? text with
    | some x => .ok x
    | none => .error .scalarDoesNotFit
  else if tag = .standard "null" then
    if isNullWord text then .ok .null else .error .scalarDoesNotFit
  else if tag.localName?.isSome && style == .plain then plainValue text
  else .ok (.string text)

/-- The value of a scalar. -/
def scalarValue (tag : Option Tag) (text : String) (style : Style) : Except Fault Json :=
  match tag with
  | some tag => taggedValue tag text style
  | none => if style == .plain then plainValue text else .ok (.string text)

end ServiceContract.Yaml
