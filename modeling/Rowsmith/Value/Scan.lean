import Rowsmith.Value.Basic

/-!
# Scanning a cell into a value

A result column has a database type. Scanning checks that the type suits the value, before
anything is said about NULL, and then reads the octets; a failed scan changes nothing.
-/

namespace Rowsmith

open Text

inductive PgType where
  | bool
  | bytea
  | char
  | nameType
  | int8
  | int2
  | int4
  | text
  | oid
  | json
  | float4
  | float8
  | unknown
  | bpchar
  | varchar
  | date
  | numeric
  | uuid
  | int4Array
  | textArray
  | custom (schema name : String)
  deriving DecidableEq, Repr

def PgType.catalogName : PgType → String
  | .bool => "bool"
  | .bytea => "bytea"
  | .char => "char"
  | .nameType => "name"
  | .int8 => "int8"
  | .int2 => "int2"
  | .int4 => "int4"
  | .text => "text"
  | .oid => "oid"
  | .json => "json"
  | .float4 => "float4"
  | .float8 => "float8"
  | .unknown => "unknown"
  | .bpchar => "bpchar"
  | .varchar => "varchar"
  | .date => "date"
  | .numeric => "numeric"
  | .uuid => "uuid"
  | .int4Array => "_int4"
  | .textArray => "_text"
  | .custom _ name => name

/-- The built-in types and those of the default schema go without their schema. -/
def PgType.display : PgType → String
  | .custom schema name =>
      if schema = "public" ∨ schema = "pg_catalog" then name else schema ++ "." ++ name
  | type => type.catalogName

/-- The text types that an extension adds and that are written with a leading version octet. -/
def versionedTextTypes : List String := ["ltree", "lquery", "ltxtquery"]

def Kind.accepts (kind : Kind) (type : PgType) : Bool :=
  match kind with
  | .bool => type = .bool
  | .int8 => type = .char
  | .int16 => type = .int2
  | .int32 => type = .int4
  | .int64 => type = .int8
  | .oid => type = .oid
  | .float32 => type = .float4
  | .float64 => type = .float8
  | .text =>
      match type with
      | .text | .varchar | .bpchar | .nameType | .unknown => true
      | .custom _ name => name = "citext" || versionedTextTypes.contains name
      | _ => false
  | .bytes => type = .bytea
  | .int32List => type = .int4Array
  | .textList => type = .textArray

/-- The name under which messages speak of a kind. -/
def Kind.hostName : Kind → String
  | .bool => "bool"
  | .int8 => "i8"
  | .int16 => "i16"
  | .int32 => "i32"
  | .int64 => "i64"
  | .oid => "u32"
  | .float32 => "f32"
  | .float64 => "f64"
  | .text => "alloc::string::String"
  | .bytes => "alloc::vec::Vec<u8>"
  | .int32List => "alloc::vec::Vec<i32>"
  | .textList => "alloc::vec::Vec<alloc::string::String>"

def ValueType.hostName (type : ValueType) : String :=
  if type.optional then "core::option::Option<" ++ type.kind.hostName ++ ">" else type.kind.hostName

inductive ScanError where
  | mismatch (type : PgType) (target : ValueType)
  | wire (error : WireError)
  deriving DecidableEq, Repr

def ScanError.message : ScanError → String
  | .mismatch type target =>
      "cannot convert between the Postgres type " ++ type.display ++ " and the Rust type " ++
        target.hostName
  | .wire error => error.message

/-- The version octet of a versioned text is checked and taken off. -/
def PgType.payload (type : PgType) (octets : Bytes) : Except WireError Bytes :=
  match type with
  | .custom _ name =>
      if versionedTextTypes.contains name then
        match octets with
        | 1 :: rest => .ok rest
        | _ => .error (.unversioned name)
      else
        .ok octets
  | _ => .ok octets

def ValueType.scan (target : ValueType) (type : PgType) (raw : Option Bytes) :
    Except ScanError Value :=
  if target.kind.accepts type then
    match raw with
    | none => if target.optional then .ok (.absent target.kind) else .error (.wire .null)
    | some octets =>
        match type.payload octets >>= target.kind.read with
        | .ok d => .ok (target.wrap d)
        | .error error => .error (.wire error)
  else
    .error (.mismatch type target)

def Value.scan (v : Value) (type : PgType) (raw : Option Bytes) : Except ScanError Value :=
  v.type.scan type raw

end Rowsmith
