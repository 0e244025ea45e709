import MeshFirmware.Url.Address
import MeshFirmware.Url.Domain.Label
import MeshFirmware.Url.Percent

/-!
# Hosts of URLs

A host is an address or a name. In a special URL the name is unescaped and must be a domain, which is kept in
ASCII, and it is an address if its last part is a number. In any other URL it is kept as it is.
-/

namespace MeshFirmware.Url

/-- Why a text is not a URL. -/
inductive Problem where
  | relative
  | emptyHost
  | badDomain
  | badHostCharacter
  | badPort
  | badIpv4
  | badIpv6
  deriving DecidableEq, Repr

/-- The message for a text that is not a URL. -/
def Problem.message : Problem → String
  | .relative => "relative URL without a base"
  | .emptyHost => "empty host"
  | .badDomain => "invalid international domain name"
  | .badHostCharacter => "invalid domain character"
  | .badPort => "invalid port number"
  | .badIpv4 => "invalid IPv4 address"
  | .badIpv6 => "invalid IPv6 address"

/-- A host. -/
inductive Host where
  | name (s : String)
  | ipv4 (a : Ipv4)
  | ipv6 (a : Ipv6)
  deriving DecidableEq, Repr

namespace Host

/-- The host as it stands in a URL. -/
def text : Host → String
  | .name s => s
  | .ipv4 a => a.text
  | .ipv6 a => "[" ++ String.ofList a.text ++ "]"

/-- An address between brackets, the first of which has been seen. -/
def bracketed? (s : List Char) : Except Problem Host :=
  if s.getLast? == some ']' then
    match Ipv6.read? ((s.drop 1).dropLast) with
    | some a => .ok (.ipv6 a)
    | none => .error .badIpv6
  else .error .badIpv6

/-- The characters that no host may have. -/
def isForbidden (c : Char) : Bool :=
  ['\x00', '\t', '\n', '\r', ' ', '#', '/', ':', '<', '>', '?', '@', '[', '\\', ']', '^', '|'].contains c

/-! ## Domains -/

/-- The domain in a name that may have escapes, in ASCII. -/
def domain? (s : List Char) : Except Problem String :=
  match (Bytes.text? (unescape (Bytes.ofText (String.ofList s)))).bind fun t => Domain.inAscii? t.toList with
  | none => .error .badDomain
  | some cs =>
    if cs.any fun c => isForbidden c || inControlSet c || c == '%' then .error .badDomain
    else if cs.isEmpty then .error .emptyHost
    else .ok (String.ofList cs)

/-- The host of a special URL. -/
def readSpecial (s : List Char) : Except Problem Host :=
  if s.head? == some '[' then bracketed? s
  else do
    let d ← domain? s
    if Ipv4.isMeant d.toList then
      match Ipv4.read? d.toList with
      | some a => .ok (.ipv4 a)
      | none => .error .badIpv4
    else .ok (.name d)

/-- The host of any other URL. -/
def readOpaque (s : List Char) : Except Problem Host :=
  if s.head? == some '[' then bracketed? s
  else if s.any isForbidden then .error .badHostCharacter
  else .ok (.name (String.ofList (escape inControlSet s)))

end Host

end MeshFirmware.Url
