import SessionHandoff.Text.Utf8

/-!
# Octets

Programs exchange bytes and call them texts. An octet text is a text all of whose characters are
below 256, each standing for the byte of its number, so that every sequence of bytes is one. A text
of Unicode becomes an octet text by its encoding.
-/

set_option autoImplicit false

namespace SessionHandoff.Octets

/-- The octet text of bytes. -/
def ofBytes (bytes : Bytes) : List Char :=
  bytes.map fun b => Char.ofNat b.toNat

/-- The bytes of an octet text. -/
def toBytes (text : List Char) : Bytes :=
  text.map fun c => c.toNat.toUInt8

/-- The bytes of an octet text given as a string. -/
def bytesOf (s : String) : Bytes :=
  toBytes s.toList

/-- The octet text of a text. -/
def ofText (s : String) : String :=
  String.ofList (ofBytes (Utf8.ofString s))

/-- The text of an octet text, with replacements where it is the encoding of none. -/
def toText (s : String) : String :=
  String.ofList (Utf8.decodeLossy (bytesOf s))

end SessionHandoff.Octets
