import Rowsmith.Text.Basic

/-!
# Values and their octets

What can be sent to a database and read from it, and how it is spelled on the way.
-/

namespace Rowsmith

open Text

/-!
# Values

A value is what a statement binds to a placeholder and what a record keeps in a field. Its kind
fixes how it is written on the wire; floating point numbers are kept as their bits, so that a
value is recovered exactly. A value may be optional, and then it may be absent.
-/

inductive Kind where
  | bool
  | int8
  | int16
  | int32
  | int64
  | oid
  | float32
  | float64
  | text
  | bytes
  | int32List
  | textList
  deriving DecidableEq, Repr

inductive Datum where
  | bool (b : Bool)
  | int8 (n : Int8)
  | int16 (n : Int16)
  | int32 (n : Int32)
  | int64 (n : Int64)
  | oid (n : UInt32)
  | float32 (bits : UInt32)
  | float64 (bits : UInt64)
  | text (s : String)
  | bytes (octets : Bytes)
  | int32List (ns : List Int32)
  | textList (ss : List String)
  deriving DecidableEq, Repr

def Datum.kind : Datum → Kind
  | .bool _ => .bool
  | .int8 _ => .int8
  | .int16 _ => .int16
  | .int32 _ => .int32
  | .int64 _ => .int64
  | .oid _ => .oid
  | .float32 _ => .float32
  | .float64 _ => .float64
  | .text _ => .text
  | .bytes _ => .bytes
  | .int32List _ => .int32List
  | .textList _ => .textList

inductive Value where
  | required (d : Datum)
  | present (d : Datum)
  | absent (kind : Kind)
  deriving DecidableEq, Repr

/-- The kind of a value and whether it is optional: what scanning into a field never changes. -/
structure ValueType where
  kind : Kind
  optional : Bool
  deriving DecidableEq, Repr

def Value.type : Value → ValueType
  | .required d => ⟨d.kind, false⟩
  | .present d => ⟨d.kind, true⟩
  | .absent kind => ⟨kind, true⟩

def Value.datum? : Value → Option Datum
  | .required d => some d
  | .present d => some d
  | .absent _ => none

/-- A datum put into a field of the given type. -/
def ValueType.wrap (type : ValueType) (d : Datum) : Value :=
  if type.optional then .present d else .required d

/-!
# Values on the wire

Whole numbers are written in big-endian two's complement, floating point numbers as their bits,
texts as UTF-8. A list is an array of one dimension that starts at one: its header, then every
element with its length before it.
-/

/-- The given count of octets, the most significant one first. -/
def bigEndian : Nat → Nat → Bytes
  | 0, _ => []
  | width + 1, n => UInt8.ofNat (n / 256 ^ width) :: bigEndian width n

def readBigEndian (octets : Bytes) : Nat :=
  octets.foldl (fun n octet => 256 * n + octet.toNat) 0

/-!
## Writing
-/

def arrayElement (octets : Bytes) : Bytes :=
  bigEndian 4 octets.length ++ octets

def arrayOctets (elementType : Nat) (elements : List Bytes) : Bytes :=
  bigEndian 4 1 ++ bigEndian 4 0 ++ bigEndian 4 elementType ++ bigEndian 4 elements.length ++
    bigEndian 4 1 ++ elements.flatMap arrayElement

def int4TypeId : Nat := 23

def textTypeId : Nat := 25

def Datum.octets : Datum → Bytes
  | .bool b => [if b then 1 else 0]
  | .int8 n => bigEndian 1 n.toUInt8.toNat
  | .int16 n => bigEndian 2 n.toUInt16.toNat
  | .int32 n => bigEndian 4 n.toUInt32.toNat
  | .int64 n => bigEndian 8 n.toUInt64.toNat
  | .oid n => bigEndian 4 n.toNat
  | .float32 bits => bigEndian 4 bits.toNat
  | .float64 bits => bigEndian 8 bits.toNat
  | .text s => utf8Encode s
  | .bytes octets => octets
  | .int32List ns => arrayOctets int4TypeId (ns.map fun n => bigEndian 4 n.toUInt32.toNat)
  | .textList ss => arrayOctets textTypeId (ss.map utf8Encode)

/-- An absent value is sent as NULL. -/
def Value.octets? (v : Value) : Option Bytes :=
  v.datum?.map Datum.octets

/-!
## Reading
-/

inductive WireError where
  | tooShort
  | tooLong
  | text (error : Utf8Error)
  | unversioned (type : String)
  | dimensionCount
  | dimensionSize
  | tooManyElements
  | tooManyDimensions
  | elementLength
  | undrained
  | null
  deriving DecidableEq, Repr

def WireError.message : WireError → String
  | .tooShort => "failed to fill whole buffer"
  | .tooLong => "invalid buffer size"
  | .text error => error.message
  | .unversioned type => type ++ " version 1 only supported"
  | .dimensionCount => "invalid dimension count"
  | .dimensionSize => "invalid dimension size"
  | .tooManyElements => "too many array elements"
  | .tooManyDimensions => "array contains too many dimensions"
  | .elementLength => "invalid value length"
  | .undrained => "invalid message length: arrayvalue not drained"
  | .null => "a Postgres value was `NULL`"

/-- A number of exactly the given width. -/
def readWidth (width : Nat) (octets : Bytes) : Except WireError Nat :=
  if octets.length < width then .error .tooShort
  else if width < octets.length then .error .tooLong
  else .ok (readBigEndian octets)

def readText (octets : Bytes) : Except WireError String :=
  (utf8Decode octets).mapError .text

/-- A number of the given width at the front, and what follows it. -/
def takeWidth (width : Nat) (octets : Bytes) : Except WireError (Nat × Bytes) :=
  if octets.length < width then .error .tooShort
  else .ok (readBigEndian (octets.take width), octets.drop width)

def takeSigned (octets : Bytes) : Except WireError (Int × Bytes) :=
  (takeWidth 4 octets).map fun (n, rest) => ((UInt32.ofNat n).toInt32.toInt, rest)

/-- The sizes of the dimensions are multiplied up; more elements than a signed number of 32 bits
holds are refused. -/
def takeDimensions : Nat → Nat → Bytes → Except WireError (Nat × Bytes)
  | 0, elements, octets => .ok (elements, octets)
  | count + 1, elements, octets => do
      let (size, rest) ← takeSigned octets
      if size < 0 then throw .dimensionSize
      let (_, rest) ← takeSigned rest
      let elements := elements * size.toNat
      if 2 ^ 31 ≤ elements then throw .tooManyElements
      takeDimensions count elements rest

/-- The octets of one element with its length before them, and what follows. A length below zero
stands for NULL. -/
def takeElement (octets : Bytes) : Except WireError (Option Bytes × Bytes) := do
  let (length, rest) ← takeSigned octets
  if length < 0 then
    return (none, rest)
  else if rest.length < length.toNat then
    throw .elementLength
  else
    return (some (rest.take length.toNat), rest.drop length.toNat)

/-- Every element is read before the next one is looked at, and nothing may follow the last. -/
def readElements (element : Bytes → Except WireError α) :
    Nat → Bytes → Except WireError (List α)
  | 0, octets => if octets.isEmpty then .ok [] else .error .undrained
  | count + 1, octets => do
      match ← takeElement octets with
      | (none, _) => throw .null
      | (some cell, rest) =>
          let first ← element cell
          let others ← readElements element count rest
          return first :: others

/-- The dimensions are judged before any element is read. -/
def readArray (element : Bytes → Except WireError α) (octets : Bytes) :
    Except WireError (List α) := do
  let (dimensions, rest) ← takeSigned octets
  if dimensions < 0 then throw .dimensionCount
  let (_, rest) ← takeSigned rest
  let (_, rest) ← takeSigned rest
  let (elements, rest) ← takeDimensions dimensions.toNat 1 rest
  if 1 < dimensions then throw .tooManyDimensions
  readElements element (if dimensions = 0 then 0 else elements) rest

/-- The octets of one value of the given kind. Any octet but zero is a true boolean. -/
def Kind.read (kind : Kind) (octets : Bytes) : Except WireError Datum :=
  match kind with
  | .bool =>
      match octets with
      | [octet] => .ok (.bool (octet != 0))
      | _ => .error .tooLong
  | .int8 => (readWidth 1 octets).map fun n => .int8 (UInt8.ofNat n).toInt8
  | .int16 => (readWidth 2 octets).map fun n => .int16 (UInt16.ofNat n).toInt16
  | .int32 => (readWidth 4 octets).map fun n => .int32 (UInt32.ofNat n).toInt32
  | .int64 => (readWidth 8 octets).map fun n => .int64 (UInt64.ofNat n).toInt64
  | .oid => (readWidth 4 octets).map fun n => .oid (UInt32.ofNat n)
  | .float32 => (readWidth 4 octets).map fun n => .float32 (UInt32.ofNat n)
  | .float64 => (readWidth 8 octets).map fun n => .float64 (UInt64.ofNat n)
  | .text => (readText octets).map .text
  | .bytes => .ok (.bytes octets)
  | .int32List =>
      (readArray (fun cell => (readWidth 4 cell).map fun n => (UInt32.ofNat n).toInt32) octets).map
        .int32List
  | .textList => (readArray readText octets).map .textList

end Rowsmith
