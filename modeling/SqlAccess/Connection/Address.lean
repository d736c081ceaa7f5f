import SqlAccess.Text.Blank
import SqlAccess.Text.Digits
import SqlAccess.Text.Hex
import SqlAccess.Text.Split
import SqlAccess.Wire.Bytes

/-!
# Connection strings

A connection string lists settings as `key = value` pairs between blanks, or is a URL whose query
does so. Reading one tells whether it can be read, and which hosts it names: a string without any
is no usable configuration.
-/

namespace SqlAccess

inductive AddressError
  /-- the string cannot be read -/
  | malformed
  /-- the settings do not fit together -/
  | unusable
  deriving DecidableEq, Repr

def AddressError.message : AddressError → String
  | malformed => "invalid connection string"
  | unusable => "invalid configuration"

/-- How often the settings name a host, a host address and a port. -/
structure Address where
  hosts : Nat
  hostAddresses : Nat
  ports : Nat
  deriving DecidableEq, Repr

namespace Address

def empty : Address := ⟨0, 0, 0⟩

/-! ## Values of settings -/

/-- A part of an IPv4 address: up to three digits without a leading zero, at most 255. -/
def isOctet (s : List Char) : Bool :=
  !s.isEmpty && s.all Char.isDigit && s.length ≤ 3 && (s.head? != some '0' || s.length == 1) &&
    (Text.natBelow? 256 s).isSome

def isIpv4 (s : List Char) : Bool :=
  let parts := Text.splitAtEach '.' s
  parts.length == 4 && parts.all isOctet

/-- A group of an IPv6 address. -/
def isHexGroup (s : List Char) : Bool :=
  !s.isEmpty && s.length ≤ 4 && s.all fun c => (Text.hexValue? c).isSome

/-- The number of groups in a run of them between colons, of which the last may be an IPv4 address
that counts twice; none if one is malformed. -/
def groupCount? (s : List Char) : Option Nat :=
  if s.isEmpty then some 0
  else
    let groups := Text.splitAtEach ':' s
    match groups.getLast? with
    | some last =>
      if isIpv4 last then
        if groups.dropLast.all isHexGroup then some (groups.length + 1) else none
      else if groups.all isHexGroup then some groups.length else none
    | none => none

/-- The texts before and behind the first double colon. -/
def splitDoubleColon : List Char → Option (List Char × List Char)
  | [] => none
  | ':' :: ':' :: rest => some ([], rest)
  | c :: rest => (splitDoubleColon rest).map fun (a, b) => (c :: a, b)

def isIpv6 (s : List Char) : Bool :=
  match splitDoubleColon s with
  | none => groupCount? s == some 8
  | some (a, b) =>
    match groupCount? a, groupCount? b with
    | some m, some n => m + n ≤ 7 && !isIpv4 ((Text.splitAtEach ':' a).getLast?.getD [])
    | _, _ => false

def isPort (s : List Char) : Bool :=
  s.isEmpty || (Text.natBelow? UInt16.size s).isSome

/-- The address after one setting; unknown keys and bad values are refused. -/
def withSetting (a : Address) (key : String) (value : List Char) :
    Except AddressError Address :=
  let oneOf (choices : List String) : Except AddressError Address :=
    if choices.contains (String.ofList value) then .ok a else .error .malformed
  let checked (ok : Bool) : Except AddressError Address :=
    if ok then .ok a else .error .malformed
  let parts := Text.splitAtEach ',' value
  match key with
  | "user" | "password" | "dbname" | "options" | "application_name" => .ok a
  | "sslmode" => oneOf ["disable", "prefer", "require"]
  | "sslnegotiation" => oneOf ["postgres", "direct"]
  | "target_session_attrs" => oneOf ["any", "read-write", "read-only"]
  | "channel_binding" => oneOf ["disable", "prefer", "require"]
  | "load_balance_hosts" => oneOf ["disable", "random"]
  | "connect_timeout" | "tcp_user_timeout" | "keepalives_idle" | "keepalives_interval" =>
    checked (Text.intWithin? Int64.minValue.toInt Int64.maxValue.toInt value).isSome
  | "keepalives" => checked (Text.natBelow? UInt64.size value).isSome
  | "keepalives_retries" => checked (Text.natBelow? UInt32.size value).isSome
  | "host" => .ok { a with hosts := a.hosts + parts.length }
  | "hostaddr" =>
    if parts.all fun p => isIpv4 p || isIpv6 p then
      .ok { a with hostAddresses := a.hostAddresses + parts.length }
    else .error .malformed
  | "port" =>
    if parts.all isPort then .ok { a with ports := a.ports + parts.length }
    else .error .malformed
  | _ => .error .malformed

/-! ## Pairs -/

def isKeyChar (c : Char) : Bool :=
  !Text.isBlank c && c != '='

/-- A value without quotes, up to the next blank. A backslash takes the next character as it
is. -/
def splitPlainValue : List Char → List Char × List Char
  | [] => ([], [])
  | c :: rest =>
    if Text.isBlank c then ([], c :: rest)
    else if c = '\\' then
      match rest with
      | [] => ([], [])
      | d :: rest =>
        let (value, rest) := splitPlainValue rest
        (d :: value, rest)
    else
      let (value, rest) := splitPlainValue rest
      (c :: value, rest)

/-- A value whose opening quote has been read; none if it is not closed. -/
def splitQuotedValue : List Char → Option (List Char × List Char)
  | [] => none
  | c :: rest =>
    if c = '\'' then some ([], rest)
    else if c = '\\' then
      match rest with
      | [] => none
      | d :: rest => (splitQuotedValue rest).map fun (value, rest) => (d :: value, rest)
    else (splitQuotedValue rest).map fun (value, rest) => (c :: value, rest)

def splitValue (s : List Char) : Except AddressError (List Char × List Char) :=
  match s with
  | '\'' :: rest =>
    match splitQuotedValue rest with
    | some r => .ok r
    | none => .error .malformed
  | s =>
    let r := splitPlainValue s
    if r.1.isEmpty then .error .malformed else .ok r

/-- Reads pairs to the end of the text, or to a place where no key stands. A pair takes at least
one character, so that `fuel` need not exceed the length. -/
def readPairs : Nat → Address → List Char → Except AddressError Address
  | 0, a, _ => .ok a
  | fuel + 1, a, s => do
    let s := s.dropWhile Text.isBlank
    let key := s.takeWhile isKeyChar
    if key.isEmpty then return a
    match (s.dropWhile isKeyChar).dropWhile Text.isBlank with
    | '=' :: rest =>
      let (value, rest) ← splitValue (rest.dropWhile Text.isBlank)
      readPairs fuel (← a.withSetting (String.ofList key) value) rest
    | _ => throw .malformed

/-! ## URLs -/

/-- Bytes with every percent sign and the two digits behind it made one byte. -/
def unescapePercent : List UInt8 → List UInt8
  | 37 :: a :: b :: rest =>
    match Text.bytesOfHex? [Char.ofNat a.toNat, Char.ofNat b.toNat] with
    | some [n] => n :: unescapePercent rest
    | _ => 37 :: unescapePercent (a :: b :: rest)
  | n :: rest => n :: unescapePercent rest
  | [] => []

/-- A part of a URL as the text it stands for, which has to be valid UTF-8. -/
def decodePart (s : List Char) : Except AddressError (List Char) :=
  match ofUtf8? (unescapePercent (utf8 (String.ofList s))) with
  | some t => .ok t.toList
  | none => .error .malformed

/-- The text before the first character for which `p` holds and the text from it on, if there is
one. -/
def cutAt? (p : Char → Bool) (s : List Char) : Option (List Char × List Char) :=
  if s.any p then some (s.takeWhile fun c => !p c, s.dropWhile fun c => !p c) else none

/-- The user before an at sign is only checked; the text behind it remains. -/
def afterCredentials (s : List Char) : Except AddressError (List Char) :=
  match cutAt? (· == '@') s with
  | none => .ok s
  | some (credentials, rest) => do
    let _ ← decodePart (credentials.takeWhile (· != ':'))
    return rest.tail

/-- The host and the port text of a chunk of a URL; brackets enclose a host with colons. -/
def hostAndPort (chunk : List Char) : Except AddressError (List Char × Option (List Char)) :=
  match chunk with
  | '[' :: rest =>
    match cutAt? (· == ']') rest with
    | none => .error .malformed
    | some (host, rest) =>
      match rest.tail with
      | [] => .ok (host, none)
      | ':' :: port => .ok (host, some port)
      | _ => .error .malformed
  | chunk =>
    match cutAt? (· == ':') chunk with
    | some (host, port) => .ok (host, some port.tail)
    | none => .ok (chunk, none)

/-- The address after one host of a URL. A host that starts with a slash is a path, which may hold
any bytes; every other host is a text. -/
def withHost (a : Address) (host : List Char) : Except AddressError Address := do
  if (unescapePercent (utf8 (String.ofList host))).head? ≠ some 47 then
    let _ ← decodePart host
  return { a with hosts := a.hosts + 1 }

/-- The address after one host of a URL with its port. -/
def withHostChunk (a : Address) (chunk : List Char) : Except AddressError Address := do
  let (host, port) ← hostAndPort chunk
  let a ← a.withHost host
  a.withSetting "port" (← decodePart (port.getD "5432".toList))

/-- Reads the query of a URL; each parameter takes at least one character. -/
def readQuery : Nat → Address → List Char → Except AddressError Address
  | 0, a, _ => .ok a
  | fuel + 1, a, s => do
    if s.isEmpty then return a
    match cutAt? (· == '=') s with
    | none => throw .malformed
    | some (key, rest) =>
      let key ← decodePart key
      let (value, rest) :=
        match cutAt? (· == '&') rest.tail with
        | some (value, rest) => (value, rest.tail)
        | none => (rest.tail, [])
      if key = "host".toList then readQuery fuel (← a.withHost value) rest
      else readQuery fuel (← a.withSetting (String.ofList key) (← decodePart value)) rest

/-- Reads a URL behind its scheme. -/
def readUrl (s : List Char) : Except AddressError Address := do
  let s ← afterCredentials s
  let (host, rest) := (cutAt? (fun c => c == '/' || c == '?') s).getD (s, [])
  let hosts := if host.isEmpty then [] else Text.splitAtEach ',' host
  let a ← hosts.foldlM withHostChunk empty
  let (path, query) := (cutAt? (· == '?') rest).getD (rest, [])
  let _ ← decodePart path.tail
  readQuery query.length a query.tail

/-! ## Addresses -/

/-- `s` behind the text `start`, if it begins with it. -/
def behind? (start : String) (s : List Char) : Option (List Char) :=
  if start.toList.isPrefixOf s then some (s.drop start.length) else none

def parse (s : String) : Except AddressError Address :=
  let cs := s.toList
  match (behind? "postgres://" cs).or (behind? "postgresql://" cs) with
  | some rest => readUrl rest
  | none => readPairs cs.length empty cs

/-- Whether the numbers of hosts, addresses and ports go together. -/
def isUsable (a : Address) : Bool :=
  let count := max a.hosts a.hostAddresses
  0 < count && (a.hosts == 0 || a.hostAddresses == 0 || a.hosts == a.hostAddresses) &&
    (a.ports ≤ 1 || a.ports == count)

/-- The address in a connection string that can be used. -/
def resolve (s : String) : Except AddressError Address := do
  let a ← parse s
  if a.isUsable then return a else throw .unusable

end Address

end SqlAccess
