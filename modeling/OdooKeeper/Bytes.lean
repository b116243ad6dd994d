/-! # Bytes

Values of secrets are bytes; text is their UTF-8 reading. -/

namespace OdooKeeper

abbrev Bytes := List UInt8

namespace Bytes

def ofText (text : String) : Bytes := text.toByteArray.data.toList

/-- The text whose UTF-8 bytes these are, if there is one. -/
def text? (bytes : Bytes) : Option String := String.fromUTF8? ⟨bytes.toArray⟩

@[simp] theorem text?_ofText (text : String) : text? (ofText text) = some text := by
  simp [text?, ofText, String.fromUTF8?, text.isValidUTF8, String.fromUTF8]

theorem ofText_inj {a b : String} : ofText a = ofText b ↔ a = b :=
  ⟨fun h => Option.some.inj (by rw [← text?_ofText a, h, text?_ofText]), fun h => h ▸ rfl⟩

/-- The number as `width` bytes, the least significant first. -/
def ofNatLittle (width n : Nat) : Bytes :=
  match width with
  | 0 => []
  | width + 1 => UInt8.ofNat n :: ofNatLittle width (n / 256)

/-- The number as `width` bytes, the most significant first. -/
def ofNatBig (width n : Nat) : Bytes := (ofNatLittle width n).reverse

end Bytes

end OdooKeeper
