import SignalScript.Decimal.Reader
import SignalScript.Yaml.Tag

/-!
# What a plain scalar means

A plain scalar is null, a boolean, a whole number, another number, or else a text.

* `Scalar.null?`, `Scalar.bool?`   the words for null and for booleans;
* `Scalar.int?`     decimal, hexadecimal, octal and binary whole numbers;
* `Scalar.float?`   decimal numbers and the words for infinities and `nan`;
* `Scalar.node?`    the meaning of a plain scalar, `Scalar.tagged?` of one with a standard tag.
-/

namespace SignalScript.Yaml.Scalar

/-! ## words -/

def isNull (s : String) : Bool := s = "null" || s = "Null" || s = "NULL" || s = "~"

def bool? (s : String) : Option Bool :=
  if s = "true" ∨ s = "True" ∨ s = "TRUE" then some true
  else if s = "false" ∨ s = "False" ∨ s = "FALSE" then some false
  else none

/-! ## numbers -/

/-- digits after a leading zero are no number -/
def isPadded (cs : List Char) : Bool :=
  match (Decimal.splitSign cs).2 with
  | '0' :: d :: rest => (d :: rest).all Char.isDigit
  | _ => false

/-- the value of at least one digit in a base -/
def digits? (base : Nat) (cs : List Char) : Option Nat :=
  if cs.isEmpty then none
  else cs.foldlM (fun n c => ((hexValue? c).filter (· < base)).map (base * n + ·)) 0

/-- a number after its sign: with the mark of a base, or decimal -/
def magnitude? (cs : List Char) : Option Nat :=
  match cs with
  | '0' :: 'x' :: rest => digits? 16 rest
  | '0' :: 'o' :: rest => digits? 8 rest
  | '0' :: 'b' :: rest => digits? 2 rest
  | _ => if isPadded cs then none else digits? 10 cs

/-- a whole number of any size, with a sign or without -/
def int? (cs : List Char) : Option Int :=
  match cs with
  | '-' :: rest => (magnitude? rest).map fun n => -(n : Int)
  | '+' :: rest => (magnitude? rest).map Int.ofNat
  | _ => (magnitude? cs).map Int.ofNat

/-- whole numbers of 64 bits, with a sign or without -/
def fitsWord (i : Int) : Bool := -0x8000000000000000 ≤ i && i ≤ 0xffffffffffffffff

/-- whole numbers beyond these are not looked at as whole numbers -/
def fitsDoubleWord (i : Int) : Bool :=
  -0x80000000000000000000000000000000 ≤ i && i ≤ 0xffffffffffffffffffffffffffffffff

def float? (s : String) : Option Float :=
  let unsigned := match s.toList with
    | '+' :: rest => if rest.head?.any ['+', '-'].contains then none else some rest
    | cs => some cs
  match unsigned with
  | none => none
  | some cs =>
    let word := String.ofList cs
    if word = ".inf" ∨ word = ".Inf" ∨ word = ".INF" then some (Float.ofBits 0x7ff0000000000000)
    else if s = "-.inf" ∨ s = "-.Inf" ∨ s = "-.INF" then some (Float.ofBits 0xfff0000000000000)
    else if s = ".nan" ∨ s = ".NaN" ∨ s = ".NAN" then some (Float.ofBits 0x7ff8000000000000)
    else (Decimal.read? cs).filter fun x => (Binary.ofFloat x).isFinite

/-! ## meanings -/

/-- a whole number as a node, an error if it has more than 64 bits; numbers of more than 128 bits
are no whole numbers -/
def intNode? (s : String) : Option (Except Defect Node) :=
  match int? s.toList with
  | some i =>
    if fitsWord i then some (.ok (.number (.int i)))
    else if fitsDoubleWord i then some (.error .scalar)
    else none
  | none => none

/-- the meaning of a plain scalar -/
def node? (s : String) : Except Defect Node :=
  if s.isEmpty || isNull s then .ok .null
  else
    match bool? s with
    | some b => .ok (.bool b)
    | none =>
      match intNode? s with
      | some result => result
      | none =>
        if isPadded s.toList then .ok (.text s)
        else
          match float? s with
          | some x => .ok (.number (.float x))
          | none => .ok (.text s)

/-- the meaning of a scalar under a tag of the standard; under any other tag it is a text -/
def tagged? (tag : Octets) (s : String) : Except Defect Node :=
  if tag = standardTag "bool" then
    match bool? s with
    | some b => .ok (.bool b)
    | none => .error .scalar
  else if tag = standardTag "int" then (intNode? s).getD (.error .scalar)
  else if tag = standardTag "float" then
    match float? s with
    | some x => .ok (.number (.float x))
    | none => .error .scalar
  else if tag = standardTag "null" then if isNull s then .ok .null else .error .scalar
  else .ok (.text s)

end SignalScript.Yaml.Scalar
