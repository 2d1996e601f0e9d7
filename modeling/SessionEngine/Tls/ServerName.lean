import SessionEngine.Bytes
import SessionEngine.Tls.Fault

/-! The names by which a client calls a server: a DNS name or an IP address. -/

namespace SessionEngine.Tls

inductive ServerName where
  | dns (name : String)
  | ipv4 (octets : List Nat)
  /-- The eight groups of 16 bits. -/
  | ipv6 (groups : List Nat)
  deriving DecidableEq, Repr, Inhabited

namespace ServerName

/-- `text` cut at every `separator`. -/
def fields (separator : Char) : List Char → List (List Char)
  | [] => [[]]
  | c :: rest =>
    if c = separator then [] :: fields separator rest
    else match fields separator rest with
      | [] => [[c]]
      | first :: others => (c :: first) :: others

/-- The value of a digit in a base up to 16. -/
def digit? (base : Nat) (c : Char) : Option Nat :=
  let value :=
    if '0' ≤ c ∧ c ≤ '9' then some (c.toNat - '0'.toNat)
    else if 'a' ≤ c ∧ c ≤ 'f' then some (c.toNat - 'a'.toNat + 10)
    else if 'A' ≤ c ∧ c ≤ 'F' then some (c.toNat - 'A'.toNat + 10)
    else none
  value.filter (· < base)

/-- The number that `text` writes in `base` with at least one and at most `width` digits. -/
def number? (base width : Nat) (text : List Char) : Option Nat :=
  if text.isEmpty || decide (width < text.length) then none
  else text.foldlM (fun n c => (digit? base c).map (n * base + ·)) 0

/-- An octet of an IPv4 address: decimal, below 256, without a zero in front. -/
def octet? (text : List Char) : Option Nat :=
  if text.length > 1 && text.head? == some '0' then none
  else (number? 10 3 text).filter (· < 256)

/-- The four octets of an IPv4 address. -/
def ipv4? (text : List Char) : Option (List Nat) :=
  let parts := fields '.' text
  if parts.length = 4 then parts.mapM octet? else none

/-- The groups of a part of an IPv6 address without `::`; the last two may be written as an IPv4
address if `tail` holds. -/
def groups? (tail : Bool) (text : List Char) : Option (List Nat) :=
  if text.isEmpty then some []
  else
    let parts := fields ':' text
    let plain (parts : List (List Char)) := parts.mapM (number? 16 4)
    match parts.reverse with
    | last :: before =>
      if tail && last.contains '.' then
        match plain before.reverse, ipv4? last with
        | some groups, some [a, b, c, d] => some (groups ++ [a * 256 + b, c * 256 + d])
        | _, _ => none
      else plain parts
    | [] => none

/-- `text` around the first `::`. -/
def aroundGap : List Char → Option (List Char × List Char)
  | ':' :: ':' :: rest => some ([], rest)
  | c :: rest => (aroundGap rest).map fun (before, after) => (c :: before, after)
  | [] => none

/-- The eight groups of an IPv6 address; one `::` stands for as many zeros as are missing. -/
def ipv6? (text : List Char) : Option (List Nat) :=
  match aroundGap text with
  | none => (groups? true text).filter (·.length = 8)
  | some (before, after) =>
    match groups? false before, groups? true after with
    | some front, some back =>
      if front.length + back.length ≤ 7 then
        some (front ++ List.replicate (8 - front.length - back.length) 0 ++ back)
      else none
    | _, _ => none

/-- A character of a DNS label: a letter, a digit, a hyphen or an underscore, all ASCII. -/
def isLabelChar (c : Char) : Bool := c.isAlphanum || c == '-' || c == '_'

/-- A DNS label: 1 to 63 characters, with no hyphen at its ends. -/
def isLabel (text : List Char) : Bool :=
  0 < text.length && text.length ≤ 63 && text.all isLabelChar && text.head? != some '-' &&
    text.getLast? != some '-'

/-- A DNS name: labels with dots between them and perhaps one at the end, at most 253 bytes, the
last label not all digits. -/
def isDns (text : List Char) : Bool :=
  let labels := match (fields '.' text).reverse with
    | [] :: label :: labels => (label :: labels).reverse
    | labels => labels.reverse
  text.length ≤ 253 && !labels.isEmpty && labels.all isLabel &&
    !(labels.getLast?.getD []).all Char.isDigit

def parse (host : String) : Except ConfigFault ServerName :=
  let text := host.toList
  if isDns text then .ok (.dns host)
  else match ipv4? text, ipv6? text with
    | some octets, _ => .ok (.ipv4 octets)
    | none, some groups => .ok (.ipv6 groups)
    | none, none => .error (.serverName host)

/-- The address that 4 or 16 bytes write. -/
def ofAddress? (data : Bytes) : Option ServerName :=
  if data.length = 4 then some (.ipv4 (data.map UInt8.toNat))
  else if data.length = 16 then some (.ipv6 ((data.pieces 2).map Bytes.bigEndian))
  else none

/-- The longest run of two or more zeros in `groups`: where it starts and how long it is; of equal
runs the first. -/
def longestGap (groups : List Nat) : Option (Nat × Nat) :=
  let run (i : Nat) := ((groups.drop i).takeWhile (· == 0)).length
  (List.range groups.length).foldl (fun best i =>
    match best with
    | some (_, length) => if length < run i then some (i, run i) else best
    | none => if 2 ≤ run i then some (i, run i) else none) none

/-- `n` in lower-case hexadecimal. -/
def hex (n : Nat) : String := String.ofList (Nat.toDigits 16 n)

/-- The written form of an IPv6 address: the longest gap as `::`, the rest in hexadecimal. -/
def renderIpv6 (groups : List Nat) : String :=
  let join (groups : List Nat) := ":".intercalate (groups.map hex)
  match groups with
  | [0, 0, 0, 0, 0, 0xffff, a, b] => s!"::ffff:{a / 256}.{a % 256}.{b / 256}.{b % 256}"
  | _ =>
    match longestGap groups with
    | none => join groups
    | some (start, length) => s!"{join (groups.take start)}::{join (groups.drop (start + length))}"

/-- The written form of a name. -/
def render : ServerName → String
  | .dns name => name
  | .ipv4 octets => ".".intercalate (octets.map toString)
  | .ipv6 groups => renderIpv6 groups

/-- The written form of a name that a certificate presents. -/
def describe : ServerName → String
  | .dns name => s!"DnsName(\"{name}\")"
  | .ipv4 octets => s!"IpAddress({render (.ipv4 octets)})"
  | .ipv6 groups => s!"IpAddress({render (.ipv6 groups)})"

/-- A DNS name without the dot that may end it, in lower case. -/
def canonical (name : String) : List Char :=
  let text := name.toList.map Char.toLower
  if text.getLast? = some '.' then text.dropLast else text

/-- Whether a certificate that presents `presented` speaks for the server called `wanted`. -/
def covers (presented wanted : ServerName) : Bool :=
  match presented, wanted with
  | .dns a, .dns b => canonical a == canonical b
  | a, b => a == b

end ServerName

end SessionEngine.Tls
