import Mathlib.Data.List.Basic

/-!
# `ipaddress.ip_address`

The textual forms that `ipaddress.ip_address` accepts, and the `is_loopback` property of the address
it returns: 127.0.0.0/8, `::1`, and the IPv4-mapped forms of the former.
-/

namespace Python

/-- The value of a digit of base 16. -/
def hexDigit? (c : Char) : Option Nat :=
  if '0' ≤ c ∧ c ≤ '9' then some (c.toNat - '0'.toNat)
  else if 'a' ≤ c ∧ c ≤ 'f' then some (c.toNat - 'a'.toNat + 10)
  else if 'A' ≤ c ∧ c ≤ 'F' then some (c.toNat - 'A'.toNat + 10)
  else none

/-- The number that the digits write in the given base. -/
def digitsValue (base : Nat) (digits : List Nat) : Nat :=
  digits.foldl (fun acc d => acc * base + d) 0

/-- `IPv4Address._parse_octet`. -/
def parseOctet (octet : List Char) : Option Nat := do
  guard (octet ≠ [] ∧ octet.length ≤ 3 ∧ octet.all fun c => '0' ≤ c ∧ c ≤ '9')
  guard (octet = ['0'] ∨ octet.head? ≠ some '0')
  let value := digitsValue 10 (octet.map fun c => c.toNat - '0'.toNat)
  guard (value ≤ 255)
  return value

/-- `IPv4Address._ip_int_from_string`, by octets. -/
def parseIPv4 (text : List Char) : Option (List Nat) := do
  let octets := text.splitOn '.'
  guard (octets.length = 4)
  octets.mapM parseOctet

/-- `IPv6Address._parse_hextet`. -/
def parseHextet (hextet : List Char) : Option Nat := do
  guard (hextet ≠ [] ∧ hextet.length ≤ 4)
  return digitsValue 16 (← hextet.mapM hexDigit?)

/-- The two hextets of an IPv4 suffix. -/
def suffixHextets : List Nat → List Nat
  | [a, b, c, d] => [a * 256 + b, c * 256 + d]
  | _ => []

/-- The parts of an IPv6 text between its colons; an IPv4 suffix counts for two hextets. The empty
parts are `none`. -/
def ipv6Parts (text : List Char) : Option (List (Option Nat)) := do
  let parts := text.splitOn ':'
  guard (3 ≤ parts.length)
  let last := parts.getLast?.getD []
  let hextet (part : List Char) : Option (Option Nat) :=
    if part = [] then some none else (parseHextet part).map some
  if '.' ∈ last then
    let suffix ← parseIPv4 last
    let front ← parts.dropLast.mapM hextet
    return front ++ (suffixHextets suffix).map some
  else
    parts.mapM hextet

/-- `IPv6Address._ip_int_from_string`, by hextets: an inner empty part is the one `::`, and an empty
first or last part must touch it. -/
def expandParts (parts : List (Option Nat)) : Option (List Nat) := do
  guard (parts.length ≤ 9)
  let inner := (List.range parts.length).filter fun i =>
    decide (1 ≤ i ∧ i + 1 < parts.length) && (parts.getD i none).isNone
  match inner with
  | [] =>
    guard (parts.length = 8)
    parts.mapM id
  | [skip] =>
    let high := parts.take skip
    let low := parts.drop (skip + 1)
    let high ← if high.head? =
      some none then (do guard (high.length = 1); return []) else high.mapM id
    let low ← if low.getLast? =
      some none then (do guard (low.length = 1); return []) else low.mapM id
    guard (high.length + low.length ≤ 7)
    return high ++ List.replicate (8 - (high.length + low.length)) 0 ++ low
  | _ => none

/-- `IPv6Address._split_scope_id`: the address before a scope id. -/
def splitScopeId (text : List Char) : Option (List Char) :=
  match text.splitOn '%' with
  | [address] => some address
  | [address, scope] => if scope = [] then none else some address
  | _ => none

/-- `IPv6Address` of a text. -/
def parseIPv6 (text : List Char) : Option (List Nat) := do
  expandParts (← ipv6Parts (← splitScopeId text))

/-- `IPv6Address.is_loopback`: an IPv4-mapped address answers for the address it maps. -/
def ipv6IsLoopback (hextets : List Nat) : Bool :=
  if hextets.take 6 = [0, 0, 0, 0, 0, 0xffff] then hextets.getD 6 0 / 256 == 127
  else hextets == [0, 0, 0, 0, 0, 0, 0, 1]

/-- `ipaddress.ip_address(text).is_loopback`; `none` is the `ValueError` of a text that is no
address. -/
def ipIsLoopback (text : String) : Option Bool :=
  if '/' ∈ text.toList then none
  else
    match parseIPv4 text.toList with
    | some octets => some (octets.head? == some 127)
    | none => (parseIPv6 text.toList).map ipv6IsLoopback

example : ipIsLoopback "127.8.0.1" = some true := by decide
example : ipIsLoopback "::ffff:127.0.0.1" = some true := by decide
example : ipIsLoopback "query.example" = none := by decide

end Python
