import RecordStore.Text.Numeral
/-!
# Octets as text

Hexadecimal and Base64 texts of a list of octets, and the octets of a text.
-/

namespace RecordStore

namespace Octets

/-- Two lower-case hexadecimal digits for each octet. -/
def hex (octets : List UInt8) : String :=
  String.join (octets.map fun b => Numeral.hex 2 b.toNat)

/-- The octets that pairs of hexadecimal digits denote. -/
def ofHex? : List Char → Option (List UInt8)
  | [] => some []
  | [_] => none
  | c :: d :: rest => do
    let high ← Numeral.hexDigit? c
    let low ← Numeral.hexDigit? d
    let octets ← ofHex? rest
    pure (UInt8.ofNat (high * 16 + low) :: octets)

/-- The character for six bits: capitals, small letters, digits, plus and slash. -/
def sextet (n : Nat) : Char :=
  if n < 26 then Char.ofNat ('A'.toNat + n)
  else if n < 52 then Char.ofNat ('a'.toNat + (n - 26))
  else if n < 62 then Char.ofNat ('0'.toNat + (n - 52))
  else if n = 62 then '+' else '/'

/-- The characters for a group of three octets, the last group filled up with `=`. -/
def base64Chars : List UInt8 → List Char
  | [] => []
  | [a] =>
    let n := a.toNat * 2 ^ 4
    [sextet (n / 2 ^ 6), sextet (n % 2 ^ 6), '=', '=']
  | [a, b] =>
    let n := (a.toNat * 2 ^ 8 + b.toNat) * 2 ^ 2
    [sextet (n / 2 ^ 12), sextet (n / 2 ^ 6 % 2 ^ 6), sextet (n % 2 ^ 6), '=']
  | a :: b :: c :: rest =>
    let n := (a.toNat * 2 ^ 8 + b.toNat) * 2 ^ 8 + c.toNat
    sextet (n / 2 ^ 18) :: sextet (n / 2 ^ 12 % 2 ^ 6) :: sextet (n / 2 ^ 6 % 2 ^ 6) ::
      sextet (n % 2 ^ 6) :: base64Chars rest

/-- The padded Base64 text in the standard alphabet. -/
def base64 (octets : List UInt8) : String :=
  String.ofList (base64Chars octets)

/-- The six bits that a character stands for. -/
def sextet? (c : Char) : Option Nat :=
  (List.range 64).find? fun n => sextet n == c

/-- The octets that groups of four characters stand for; surplus bits of the last group are not
looked at. -/
def ofBase64Chars? : List Char → Option (List UInt8)
  | [] => some []
  | [a, b, '=', '='] => do
    let n := (← sextet? a) * 2 ^ 6 + (← sextet? b)
    pure [UInt8.ofNat (n / 2 ^ 4)]
  | [a, b, c, '='] => do
    let n := ((← sextet? a) * 2 ^ 6 + (← sextet? b)) * 2 ^ 6 + (← sextet? c)
    pure [UInt8.ofNat (n / 2 ^ 10), UInt8.ofNat (n / 2 ^ 2)]
  | a :: b :: c :: d :: rest => do
    let n := (((← sextet? a) * 2 ^ 6 + (← sextet? b)) * 2 ^ 6 + (← sextet? c)) * 2 ^ 6 +
      (← sextet? d)
    let octets ← ofBase64Chars? rest
    pure (UInt8.ofNat (n / 2 ^ 16) :: UInt8.ofNat (n / 2 ^ 8) :: UInt8.ofNat n :: octets)
  | _ => none

/-- The octets whose padded Base64 text the given one is. -/
def ofBase64? (s : String) : Option (List UInt8) :=
  (ofBase64Chars? s.toList).filter fun octets => base64 octets == s

/-- The UTF-8 form of a text. -/
def utf8 (s : String) : List UInt8 :=
  s.toUTF8.toList

/-- The number whose octets are given, the most significant first. -/
def bigEndian (octets : List UInt8) : Nat :=
  octets.foldl (fun n b => n * 256 + b.toNat) 0

/-- The number whose octets are given, the least significant first. -/
def littleEndian : List UInt8 → Nat
  | [] => 0
  | b :: rest => b.toNat + 256 * littleEndian rest

/-- The text whose UTF-8 form the octets are. -/
def utf8? (octets : List UInt8) : Option String :=
  String.fromUTF8? (ByteArray.mk octets.toArray)

end Octets

end RecordStore
