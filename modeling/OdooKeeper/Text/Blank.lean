/-! # Blank characters

The characters with the Unicode property White_Space, and texts without them at either end. -/

namespace OdooKeeper.Text

def isBlank (c : Char) : Bool :=
  let n := c.toNat
  (9 ≤ n && n ≤ 13) || n == 0x20 || n == 0x85 || n == 0xA0 || n == 0x1680 ||
    (0x2000 ≤ n && n ≤ 0x200A) || n == 0x2028 || n == 0x2029 || n == 0x202F || n == 0x205F ||
    n == 0x3000

/-- The characters without the blank ones at either end. -/
def trimChars (cs : List Char) : List Char :=
  ((cs.dropWhile isBlank).reverse.dropWhile isBlank).reverse

def trim (text : String) : String := String.ofList (trimChars text.toList)

def isAllBlank (text : String) : Bool := text.toList.all isBlank

/-- The ASCII letters in lower case, everything else as it is. -/
def lowerAscii (text : String) : String := String.ofList (text.toList.map Char.toLower)

end OdooKeeper.Text
