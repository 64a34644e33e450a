import JsonTyping.Numeral.Digits

/-!
# UUIDs

A UUID is sixteen octets. Its text is thirty-two hexadecimal digits of either case, written
without separators, or in five groups with hyphens between them, the groups standing bare, between
braces, or after `urn:uuid:`. The upper half of octet 6 is the version, and the two upper bits of
octet 8 being `10` marks the standard variant.
-/

namespace JsonTyping

/-- Sixteen octets. -/
structure Uuid where
  octets : List UInt8
  length_octets : octets.length = 16
deriving DecidableEq

namespace Uuid

/-- The octets that pairs of hexadecimal digits denote. -/
def readOctets? : List Char → Option (List UInt8)
  | [] => some []
  | [_] => none
  | a :: b :: rest => do
    let high ← hexDigit? a
    let low ← hexDigit? b
    let octets ← readOctets? rest
    some (UInt8.ofNat (16 * high + low) :: octets)

/-- The UUID that thirty-two hexadecimal digits denote. -/
def ofDigits? (cs : List Char) : Option Uuid := do
  let octets ← readOctets? cs
  if h : octets.length = 16 then some ⟨octets, h⟩ else none

/-- The UUID that five groups of hexadecimal digits with hyphens between them denote. -/
def ofGroups? (cs : List Char) : Option Uuid :=
  if cs.length = 36 ∧ [8, 13, 18, 23].all (fun position ↦ cs[position]? == some '-') then
    ofDigits? (cs.take 8 ++ (cs.drop 9).take 4 ++ (cs.drop 14).take 4 ++ (cs.drop 19).take 4 ++
      cs.drop 24)
  else
    none

/-- The UUID that a text denotes in any of its forms. -/
def ofText? (cs : List Char) : Option Uuid :=
  match cs with
  | 'u' :: 'r' :: 'n' :: ':' :: 'u' :: 'u' :: 'i' :: 'd' :: ':' :: groups => ofGroups? groups
  | '\x7b' :: groups => if groups.getLast? = some '\x7d' then ofGroups? groups.dropLast else none
  | _ => if cs.length = 32 then ofDigits? cs else ofGroups? cs

/-- The octet at a position below sixteen. -/
def octet (u : Uuid) (position : Fin 16) : UInt8 :=
  u.octets.get ⟨position, by have := u.length_octets; omega⟩

/-- The version number. -/
def version (u : Uuid) : UInt8 := u.octet 6 >>> 4

/-- Whether the layout is the standard one. -/
def isStandardVariant (u : Uuid) : Bool := u.octet 8 >>> 6 == 2

end Uuid

/-- Whether a text is a random UUID, written in groups with nothing around them. -/
def isUuidV4 (s : String) : Bool :=
  s.utf8ByteSize == 36 &&
    match Uuid.ofText? s.toList with
    | some u => u.version == 4 && u.isStandardVariant
    | none => false

end JsonTyping
