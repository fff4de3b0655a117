import LineShell.Text.Utf8

/-!
Texts that the operating system keeps: names of files and values of variables. It keeps bytes, which
need not be text in any encoding, and a name that was read from it leads back to the same file even if
it cannot be shown.
-/

namespace LineShell

structure SystemText where
  bytes : Bytes
  deriving DecidableEq, Repr

namespace SystemText

def ofText (text : String) : SystemText := ⟨Utf8.encode text⟩

/-- The text for display, with replacement characters where the bytes are no characters. -/
def shown (name : SystemText) : String := Utf8.decodeLossy name.bytes

def isEmpty (name : SystemText) : Bool := name.bytes.isEmpty

instance : Coe String SystemText := ⟨ofText⟩

instance : Coe SystemText String := ⟨shown⟩

def separator : UInt8 := 47

/-- The file of this name in a directory. -/
def file (directory : SystemText) (name : String) : SystemText :=
  if directory.bytes.getLast? = some separator then ⟨directory.bytes ++ Utf8.encode name⟩
  else ⟨directory.bytes ++ separator :: Utf8.encode name⟩

end SystemText

end LineShell
