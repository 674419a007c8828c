import Rowsmith.Failure
import Rowsmith.Text.Basic

/-!
# Connection pools and their addresses

A pool is made from an address that can be understood: the hosts in it, the octets that are written
with percent signs, and the parameters are all checked before any connection is made.
-/

namespace Rowsmith

/-!
# Addresses of hosts

An address of four numbers is written in decimal, one of eight groups in hexadecimal. The last two
groups may be written as four numbers, and one run of at least one group may be left out.
-/

namespace HostAddress

open Text

/-- A number from 0 to 255 without leading zeros. -/
def isNumber (cs : List Char) : Bool :=
  match natural? 10 cs with
  | some n => n < 256 && (cs.length = 1 || cs.head? != some '0')
  | none => false

def isFourNumbers (cs : List Char) : Bool :=
  let numbers := pieces '.' cs
  numbers.length = 4 && numbers.all isNumber

def isGroup (cs : List Char) : Bool :=
  cs.length ≤ 4 && (natural? 16 cs).isSome

/-- The count of the groups of a piece that may be the last one. -/
def lastSize? (cs : List Char) : Option Nat :=
  if isFourNumbers cs then some 2
  else if isGroup cs then some 1
  else none

/-- The count of groups between colons. -/
def size? (cs : List Char) : Option Nat :=
  let groups := pieces ':' cs
  if groups.dropLast.all isGroup then
    ((groups.getLast?).bind lastSize?).map (groups.length - 1 + ·)
  else
    none

/-- Nothing at all is no groups here. -/
def sizeBeside? (cs : List Char) : Option Nat :=
  if cs.isEmpty then some 0 else size? cs

/-- What stands before and after the first pair of colons. -/
def cutAtGap : List Char → Option (List Char × List Char)
  | ':' :: ':' :: rest => some ([], rest)
  | c :: rest => (cutAtGap rest).map fun (before, after) => (c :: before, after)
  | [] => none

def isGroups (cs : List Char) : Bool :=
  match cutAtGap cs with
  | none => size? cs = some 8
  | some (before, after) =>
      match sizeBeside? before, sizeBeside? after with
      | some m, some n => m + n ≤ 7 && !before.contains '.'
      | _, _ => false

end HostAddress

def isHostAddress (s : String) : Bool :=
  HostAddress.isFourNumbers s.toList || HostAddress.isGroups s.toList

/-!
# Percent signs

In an address any octet may be written as a percent sign and two hexadecimal digits. A percent sign
without them stands for itself.
-/

namespace Text

def percentOctets : List Char → Bytes
  | '%' :: high :: low :: rest =>
      match hexValue high, hexValue low with
      | some h, some l => UInt8.ofNat (16 * h + l) :: percentOctets rest
      | _, _ => String.utf8EncodeChar '%' ++ percentOctets (high :: low :: rest)
  | c :: rest => String.utf8EncodeChar c ++ percentOctets rest
  | [] => []

def percentText? (cs : List Char) : Option String :=
  (utf8Decode (percentOctets cs)).toOption

end Text

open Text

/-!
# Addresses of databases

The address of a database is a list of parameters. It is written either with one of two schemes,
then user, hosts, database and further parameters, or as keys and values with signs between them.
-/

inductive AddressParameter where
  | setting (key value : String)
  | password (octets : Bytes)
  /-- A host that is a file of the machine itself. -/
  | socket (path : Bytes)
  deriving DecidableEq, Repr

/-!
## Values
-/

inductive AddressForm where
  | anything
  | oneOf (values : List String)
  | ports
  | hostAddresses
  /-- A whole number from the first up to, and without, the second. -/
  | whole (least bound : Int)
  deriving DecidableEq, Repr

def signed64 : AddressForm :=
  .whole (-0x8000000000000000) 0x8000000000000000

def addressForms : List (String × AddressForm) :=
  [("user", .anything), ("password", .anything), ("dbname", .anything), ("options", .anything),
    ("application_name", .anything), ("host", .anything), ("hostaddr", .hostAddresses),
    ("port", .ports), ("sslmode", .oneOf ["disable", "prefer", "require"]),
    ("sslnegotiation", .oneOf ["postgres", "direct"]), ("connect_timeout", signed64),
    ("tcp_user_timeout", signed64), ("keepalives", .whole 0 0x10000000000000000),
    ("keepalives_idle", signed64), ("keepalives_interval", signed64),
    ("keepalives_retries", .whole 0 0x100000000),
    ("target_session_attrs", .oneOf ["any", "read-write", "read-only"]),
    ("channel_binding", .oneOf ["disable", "prefer", "require"]),
    ("load_balance_hosts", .oneOf ["disable", "random"])]

/-- A number may have a sign; a minus sign only where negative numbers are allowed. -/
def isWhole (least bound : Int) (cs : List Char) : Bool :=
  let value? : Option Int :=
    match cs with
    | '+' :: digits => (natural? 10 digits).map Int.ofNat
    | '-' :: digits => if least < 0 then (natural? 10 digits).map (-Int.ofNat ·) else none
    | digits => (natural? 10 digits).map Int.ofNat
  value?.any fun value => least ≤ value && value < bound

/-- A port that is left out is the usual one. -/
def isPort (cs : List Char) : Bool :=
  cs.isEmpty || isWhole 0 0x10000 cs

def AddressForm.fits (form : AddressForm) (value : String) : Bool :=
  match form with
  | .anything => true
  | .oneOf values => values.contains value
  | .ports => (pieces ',' value.toList).all isPort
  | .hostAddresses => (pieces ',' value.toList).all fun piece => isHostAddress (String.ofList piece)
  | .whole least bound => isWhole least bound value.toList

def AddressParameter.isValid : AddressParameter → Bool
  | .setting key value => (addressForms.lookup key).any (·.fits value)
  | .password _ => true
  | .socket _ => true

/-!
## Addresses with a scheme
-/

/-- What stands before the first of some characters, and the rest from there on. -/
def cutAt (ends : List Char) (cs : List Char) : List Char × List Char :=
  (cs.takeWhile (!ends.contains ·), cs.dropWhile (!ends.contains ·))

def hostParameter? (cs : List Char) : Option AddressParameter :=
  let octets := percentOctets cs
  if octets.head? = some '/'.toUInt8 then some (.socket octets)
  else (percentText? cs).map (.setting "host")

/-- Nothing is said about the user where there is no at sign. -/
def credentials? (cs : List Char) : Option (List AddressParameter × List Char) :=
  match cutAt ['@'] cs with
  | (_, []) => some ([], cs)
  | (text, _ :: rest) =>
      match cutAt [':'] text with
      | (user, []) => (percentText? user).map fun user => ([.setting "user" user], rest)
      | (user, _ :: password) =>
          (percentText? user).map fun user =>
            ([.setting "user" user, .password (percentOctets password)], rest)

/-- A host and its port; a host with colons of its own stands in brackets. -/
def hostAndPort? (cs : List Char) : Option (List Char × List Char) :=
  let portOr (rest : List Char) := if rest.isEmpty then "5432".toList else rest.drop 1
  match cs with
  | '[' :: rest =>
      match cutAt [']'] rest with
      | (_, []) => none
      | (host, _ :: rest) =>
          if rest.isEmpty || rest.head? = some ':' then some (host, portOr rest) else none
  | cs =>
      let (host, rest) := cutAt [':'] cs
      some (host, portOr rest)

def oneHost? (cs : List Char) : Option (List AddressParameter) := do
  let (host, port) ← hostAndPort? cs
  let host ← hostParameter? host
  let port ← percentText? port
  return [host, .setting "port" port]

def hosts? (cs : List Char) : Option (List AddressParameter × List Char) :=
  let (hosts, rest) := cutAt ['/', '?'] cs
  if hosts.isEmpty then some ([], rest)
  else ((pieces ',' hosts).mapM oneHost?).map fun parameters => (parameters.flatten, rest)

def databaseName? (cs : List Char) : Option (List AddressParameter × List Char) :=
  match cs with
  | '/' :: rest =>
      let (name, rest) := cutAt ['?'] rest
      if name.isEmpty then some ([], rest)
      else (percentText? name).map fun name => ([.setting "dbname" name], rest)
  | cs => some ([], cs)

/-- Keys and values; the first argument bounds their count. A key goes up to the sign, whatever
stands in it. -/
def queryParameters? : Nat → List Char → Option (List AddressParameter)
  | _, [] => some []
  | 0, _ => none
  | bound + 1, cs => do
      let (key, rest) := cutAt ['='] cs
      if rest.isEmpty then
        none
      else
        let (value, rest) := cutAt ['&'] (rest.drop 1)
        let key ← percentText? key
        let parameter ←
          if key = "host" then hostParameter? value
          else (percentText? value).map (.setting key)
        let others ← queryParameters? bound (rest.drop 1)
        return parameter :: others

def afterScheme? (cs : List Char) : Option (List AddressParameter) := do
  let (credentials, cs) ← credentials? cs
  let (hosts, cs) ← hosts? cs
  let (name, cs) ← databaseName? cs
  let others ← queryParameters? cs.length (cs.drop 1)
  return credentials ++ hosts ++ name ++ others

/-!
## Keys and values
-/

/-- A value up to a blank or the end. A backslash goes before any character that is meant as it
is. -/
def plainValue : List Char → List Char × List Char
  | '\\' :: c :: rest => let (value, after) := plainValue rest; (c :: value, after)
  | ['\\'] => ([], [])
  | c :: rest =>
      if isBlank c then ([], c :: rest)
      else let (value, after) := plainValue rest; (c :: value, after)
  | [] => ([], [])

/-- A value up to the closing quote. -/
def quotedValue? : List Char → Option (List Char × List Char)
  | '\'' :: rest => some ([], rest)
  | '\\' :: c :: rest => (quotedValue? rest).map fun (value, after) => (c :: value, after)
  | c :: rest => (quotedValue? rest).map fun (value, after) => (c :: value, after)
  | [] => none

def settingValue? (cs : List Char) : Option (List Char × List Char) :=
  match cs with
  | '\'' :: rest => quotedValue? rest
  | cs =>
      let (value, after) := plainValue cs
      if value.isEmpty then none else some (value, after)

/-- Nothing is read from a sign without a key on. The first argument bounds the count of the
settings. -/
def settings? : Nat → List Char → Option (List AddressParameter)
  | 0, _ => some []
  | bound + 1, cs =>
      let cs := trimStart cs
      let isKeyPart (c : Char) : Bool := !isBlank c && c != '='
      let key := cs.takeWhile isKeyPart
      if key.isEmpty then
        some []
      else
        match trimStart (cs.dropWhile isKeyPart) with
        | '=' :: rest => do
            let (value, rest) ← settingValue? (trimStart rest)
            let others ← settings? bound rest
            return .setting (String.ofList key) (String.ofList value) :: others
        | _ => none

/-!
## Addresses
-/

def schemes : List String := ["postgres://", "postgresql://"]

def afterPrefix? (s : String) (cs : List Char) : Option (List Char) :=
  if s.toList.isPrefixOf cs then some (cs.drop s.length) else none

/-- The parameters of an address, if it can be understood. -/
def addressParameters? (address : String) : Option (List AddressParameter) := do
  let cs := address.toList
  let parameters ←
    match schemes.findSome? (afterPrefix? · cs) with
    | some rest => afterScheme? rest
    | none => settings? (cs.length + 1) cs
  if parameters.all AddressParameter.isValid then some parameters else none

/-!
# Connection pools

A pool is made from an address that can be understood. It connects to nothing until a statement
needs a connection.
-/

structure Pool where
  parameters : List AddressParameter
  maxSize : Nat
  deriving DecidableEq, Repr

def Pool.ofAddress (address : String) (maxSize : Nat) : Except Failure Pool :=
  match addressParameters? address with
  | some parameters => .ok ⟨parameters, maxSize⟩
  | none => .error (.query "invalid connection string")

end Rowsmith
