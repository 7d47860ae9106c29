import Culprit.Text.Utf8

/-!
# Octets

Programs exchange bytes, and yet most of their rules speak of characters. Here a byte is held as
the character of its code, so that those rules can be written with the characters themselves. A
text that a program gets is first spelled in its bytes.
-/

namespace Culprit

abbrev Octets := List Char

namespace Octets

def ofBytes (bytes : Bytes) : Octets := bytes.map fun byte => Char.ofNat byte.toNat

def toBytes (octets : Octets) : Bytes := octets.map fun c => Utf8.byte c.toNat

def ofText (text : Text) : Octets := ofBytes (Utf8.encode text)

def toText (octets : Octets) : Text := Utf8.decodeReplacing (toBytes octets)

end Octets
end Culprit
