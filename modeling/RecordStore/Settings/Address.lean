import RecordStore.Settings.Lookup
import RecordStore.Text.Octets
/-!
# Addresses of servers

An address names a protocol before `://`, then servers and perhaps a database. Behind the first
question mark after the protocol there are options, as `name=value` pairs with ampersands between
them. The case of an option's name does not count, and its value may hold octets in hexadecimal
behind percent signs.

## Main definitions

* `Address.hasProtocol`, `Address.options`.
* `Address.emptyPool`: whether the options limit the pool of connections to none.
-/

namespace RecordStore

namespace Address

/-- The characters behind the first occurrence of the given ones. -/
def behind? (mark : List Char) : List Char → Option (List Char)
  | [] => none
  | c :: rest =>
    if mark.isPrefixOf (c :: rest) then some ((c :: rest).drop mark.length) else behind? mark rest

/-- What stands behind the protocol, if there is one. -/
def pastProtocol? (address : String) : Option (List Char) :=
  behind? "://".toList address.toList

/-- Whether an address names a protocol. -/
def hasProtocol (address : String) : Bool :=
  (pastProtocol? address).isSome

/-- The octets of a text, with those behind percent signs decoded. -/
def percentDecoded : List UInt8 → List UInt8
  | a :: b :: c :: rest =>
    match a == 37, Octets.ofHex? [Char.ofNat b.toNat, Char.ofNat c.toNat] with
    | true, some octets => octets ++ percentDecoded rest
    | _, _ => a :: percentDecoded (b :: c :: rest)
  | octets => octets

/-- The text that the value of an option stands for. -/
def decodedValue? (value : List Char) : Option String :=
  Octets.utf8? (percentDecoded (Octets.utf8 (String.ofList value)))

/-- A pair with the name in small letters. -/
def option (pair : List Char) : String × Option String :=
  let name := pair.takeWhile (· != '=')
  (String.ofList (name.map Char.toLower), decodedValue? (pair.drop (name.length + 1)))

/-- The parts of a text between ampersands. -/
def parts : List Char → List (List Char)
  | [] => [[]]
  | c :: rest =>
    match c == '&', parts rest with
    | false, first :: others => (c :: first) :: others
    | _, others => [] :: others

/-- The options of an address with their values. -/
def options (address : String) : List (String × Option String) :=
  match (pastProtocol? address).bind (behind? ['?']) with
  | some cs => (parts cs).map option
  | none => []

/-- Whether the options limit the pool of connections to none. -/
def emptyPool (address : String) : Bool :=
  (options address).any fun (name, value) =>
    name == "maxpoolsize" &&
      (value.bind fun s => (Settings.number (2 ^ 32) s).toOption) == some 0

end Address

end RecordStore
