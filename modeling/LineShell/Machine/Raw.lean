import LineShell.Text.Utf8

/-!
Texts of bytes. What programs of the machine deal with, be it names, arguments or lines, need not be
text in any encoding. So each character of a raw text stands for one byte: that of its number.
-/

namespace LineShell.Machine.Raw

def ofBytes (bytes : Bytes) : String := String.ofList (bytes.map fun b => Char.ofNat b.toNat)

def toBytes (text : String) : Bytes := text.toList.map fun c => c.toNat.toUInt8

/-- The bytes of a text, as a raw text. -/
def encode (text : String) : String := ofBytes (Utf8.encode text)

/-- The text whose bytes these are. -/
def decode (raw : String) : String := Utf8.decodeLossy (toBytes raw)

end LineShell.Machine.Raw
