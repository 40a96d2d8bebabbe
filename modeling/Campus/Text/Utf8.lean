/-!
# UTF-8
-/

namespace Campus

def utf8Bytes (cs : List Char) : List UInt8 := (String.ofList cs).toUTF8.data.toList

/-- The text of bytes in UTF-8; none if they are not. -/
def utf8Text? (bytes : List UInt8) : Option (List Char) :=
  (String.fromUTF8? ⟨bytes.toArray⟩).map String.toList

end Campus
