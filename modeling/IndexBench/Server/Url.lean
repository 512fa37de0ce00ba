import IndexBench.Failure
import IndexBench.Text.Percent
import IndexBench.Text.Split
import IndexBench.Text.Utf8

/-!
# Addresses of servers

The address of a server names a host, perhaps with a user before it, a service
number after it, the name of a database and options.  Only what makes an address
unusable is found out here.

Main definitions:

- `Server.isIpv6` recognises the numeric addresses that stand in brackets.
- `Server.Url` is an address in parts, `Server.Url.split` finds them.
- `Server.urlFault?` is what is wrong with an address, if anything is.
-/

namespace IndexBench
namespace Server

/-! ## Numeric addresses -/

/-- Whether a character is a hexadecimal digit. -/
def isHexDigit (c : Char) : Bool :=
  c.isDigit || ('a' ≤ c && c ≤ 'f') || ('A' ≤ c && c ≤ 'F')

/-- Whether a text is a number up to 255 without leading zeros. -/
def isOctet (cs : List Char) : Bool :=
  match Natural.parse (String.ofList cs) with
  | .ok n => n ≤ 255 && cs.all Char.isDigit && (cs.length = 1 || cs.head? != some '0')
  | .error _ => false

/-- Whether a text is four octets with dots between them. -/
def isDotted (cs : List Char) : Bool :=
  let parts := Text.splitOn '.' cs
  parts.length = 4 && parts.all isOctet

/-- Whether a text is a group of up to four hexadecimal digits. -/
def isGroup (cs : List Char) : Bool :=
  1 ≤ cs.length && cs.length ≤ 4 && cs.all isHexDigit

/-- Number of groups in a list of parts, of which the last may be a dotted
address that counts as two, if all of them are groups. -/
def groups? : List (List Char) → Option Nat
  | [] => some 0
  | [part] => if isGroup part then some 1 else if isDotted part then some 2 else none
  | part :: parts => if isGroup part then (groups? parts).map (· + 1) else none

/-- The parts of a text before and after its first pair of colons. -/
def splitPair? : List Char → Option (List Char × List Char)
  | ':' :: ':' :: rest => some ([], rest)
  | c :: rest => (splitPair? rest).map fun (before, after) => (c :: before, after)
  | [] => none

/-- The parts between colons, of which an empty text has none. -/
def colonParts (cs : List Char) : List (List Char) :=
  if cs.isEmpty then [] else Text.splitOn ':' cs

/-- Whether a text is an address of eight groups, or of fewer around one pair of
colons. -/
def isIpv6 (cs : List Char) : Bool :=
  match splitPair? cs with
  | none => groups? (colonParts cs) == some 8
  | some (before, after) =>
      match groups? (colonParts before), groups? (colonParts after) with
      | some m, some n => (colonParts before).all isGroup && m + n ≤ 7
      | _, _ => false

/-! ## Addresses -/

/-- Characters that end the part of an address that names the host. -/
def endsHost (c : Char) : Bool :=
  c == '/' || c == '?' || c == '#'

/-- Characters that cannot stand in a host. -/
def isForbidden (c : Char) : Bool :=
  c == '\x00' || c == ' ' || c == '<' || c == '>' || c == '@' || c == '[' || c == '\\' ||
    c == ']' || c == '^' || c == '|'

/-- What follows the last at sign of a text. -/
def afterUser (cs : List Char) : List Char :=
  (cs.reverse.takeWhile (· != '@')).reverse

/-- Splits a text where its host ends: at a colon outside brackets. -/
def splitHost (bracket : Bool) : List Char → List Char × Option (List Char)
  | [] => ([], none)
  | c :: rest =>
      if c = ':' && !bracket then ([], some rest)
      else
        let (host, service) := splitHost (c == '[' || (bracket && c != ']')) rest
        (c :: host, service)

/-- What is wrong with a host. -/
def hostFault? (host : List Char) : Option String :=
  match host with
  | '[' :: rest =>
      if rest.getLast? = some ']' && isIpv6 rest.dropLast then none
      else some "invalid IPv6 address"
  | _ => if host.any isForbidden then some "invalid domain character" else none

/-- What is wrong with a service number. -/
def serviceFault? (service : List Char) : Option String :=
  if !service.all Char.isDigit then some "invalid port number"
  else
    match Natural.parse (String.ofList service) with
    | .ok n => if n ≤ 65535 then none else some "invalid port number"
    | .error .empty => none
    | .error _ => some "invalid port number"

/-- An address in parts. -/
structure Url where
  /-- The user before the host, if there is an at sign. -/
  user : Option (List Char)
  host : List Char
  /-- The service number after the host, if there is a colon. -/
  service : Option (List Char)
  /-- What follows the host, up to the options. -/
  path : List Char
  options : List Char

/-- What follows the two slashes after the scheme. -/
def afterScheme : List Char → List Char
  | ':' :: '/' :: '/' :: rest => rest
  | _ :: rest => afterScheme rest
  | [] => []

/-- Characters that do not count in an address. -/
def isIgnored (c : Char) : Bool :=
  c == '\t' || c == '\n' || c == '\r'

/-- The characters of an address that count. -/
def significant (url : String) : List Char :=
  let cs := url.toList.filter fun c => !isIgnored c
  (cs.reverse.dropWhile fun c => c.toNat ≤ 32).reverse

/-- Splits an address into its parts. -/
def Url.split (url : String) : Url :=
  let cs := afterScheme (significant url)
  let authority := cs.takeWhile fun c => !endsHost c
  let rest := Text.before '#' (cs.dropWhile fun c => !endsHost c)
  let hasUser := authority.contains '@'
  let named := if hasUser then afterUser authority else authority
  let (host, service) := splitHost false named
  { user := if hasUser then some (authority.take (authority.length - named.length - 1)) else none
    host := host
    service := service
    path := Text.before '?' rest
    options := Text.after '?' rest }

/-- What makes an address none at all. -/
def Url.malformation? (url : Url) : Option String :=
  match hostFault? url.host with
  | some fault => some fault
  | none =>
      if url.host.isEmpty && (url.user.isSome || url.service.isSome) then some "empty host"
      else url.service.bind serviceFault?

/-! ## Names in addresses -/

/-- The bytes that a part of an address stands for. -/
def bytesOf (cs : List Char) : List UInt8 :=
  Percent.decode (Utf8.encode (String.ofList cs))

/-- The wording of bytes that are no text. -/
def textFault : Utf8.Fault → String
  | .invalid index length =>
      "invalid utf-8 sequence of " ++ Natural.render length ++ " bytes from index " ++
        Natural.render index
  | .incomplete index => "incomplete utf-8 byte sequence from index " ++ Natural.render index

/-- What is wrong with a part of an address that has to be text. -/
def nameFault? (cs : List Char) : Option String :=
  match Utf8.read (bytesOf cs) with
  | .ok _ => none
  | .error fault => some (textFault fault)

/-- A host that stands for a path is text; other hosts are taken as written. -/
def hostNameFault? (host : List Char) : Option String :=
  if (bytesOf host).head? = some 47 then nameFault? host else none

/-- What is wrong with a user name, and the word that may follow it after a
colon. -/
def userFault? (user : List Char) : Option String :=
  (nameFault? (Text.before ':' user)).or (nameFault? (Text.after ':' user))

/-- Whether a part of a path is a dot, perhaps percent-encoded. -/
def isDot (cs : List Char) : Bool :=
  bytesOf cs == [46]

/-- Whether a part of a path is two dots, perhaps percent-encoded. -/
def isDoubleDot (cs : List Char) : Bool :=
  bytesOf cs == [46, 46]

/-- Takes the parts of a path one after the other: a dot stays where it is, and
two dots go back.  `parts` are those so far, last one first. -/
def walk (parts : List (List Char)) : List (List Char) → List (List Char)
  | [] => parts
  | part :: rest =>
      if isDoubleDot part then
        walk (if rest.isEmpty then [] :: parts.drop 1 else parts.drop 1) rest
      else if isDot part then walk (if rest.isEmpty then [] :: parts else parts) rest
      else walk (part :: parts) rest

/-- The name of the database that a path leads to. -/
def databaseName (path : List Char) : List Char :=
  let parts := (walk [] (Text.splitOn '/' (path.drop 1))).reverse
  (List.intercalate ['/'] parts).dropWhile (· == '/')

/-! ## Options -/

/-- The text that a part of an option stands for. -/
def optionText (cs : List Char) : String :=
  Utf8.decodeLossy (bytesOf (cs.map fun c => if c = '+' then ' ' else c))

/-- The options of an address, by name and value. -/
def optionPairs (options : List Char) : List (String × String) :=
  ((Text.splitOn '&' options).filter fun option => !option.isEmpty).map fun option =>
    (optionText (Text.before '=' option), optionText (Text.after '=' option))

/-- The levels of encryption. -/
def encryptionLevels : List String :=
  ["disable", "allow", "prefer", "require", "verify-ca", "verify-full"]

/-- What is wrong with an option that is a number. -/
def numberFault? (limit : Nat) (value : String) : Option ServerFault :=
  match Natural.parseUpTo limit value with
  | .ok _ => none
  | .error fault => some (.address fault.message)

/-- What is wrong with an option; options of other names are ignored. -/
def optionFault? (name value : String) : Option ServerFault :=
  match name with
  | "sslmode" | "ssl-mode" =>
      if encryptionLevels.contains (String.ofList (value.toList.map Char.toLower)) then none
      else some (.unknownOption "ssl_mode" value)
  | "port" => numberFault? 65535 value
  | "statement-cache-capacity" => numberFault? Natural.greatest value
  | "hostaddr" =>
      if isDotted value.toList || isIpv6 value.toList then none
      else some (.address "invalid IP address syntax")
  | _ => none

/-! ## Whole addresses -/

/-- What is wrong with the address of a server, if anything is. -/
def urlFault? (url : String) : Option ServerFault :=
  let parts := Url.split url
  (parts.malformation?.map .address).or <|
    ((hostNameFault? parts.host).map .address).or <|
      ((parts.user.bind userFault?).map .address).or <|
        ((nameFault? (databaseName parts.path)).map .address).or <|
          (optionPairs parts.options).findSome? fun option => optionFault? option.1 option.2

end Server
end IndexBench
