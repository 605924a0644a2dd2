namespace MergeNotes

/-- Bytes, each as the character of its number. -/
abbrev Octets := List Char

namespace Octets

def ofBytes (b : ByteArray) : Octets := b.toList.map fun x => Char.ofNat x.toNat

def ofText (s : String) : Octets := ofBytes s.toUTF8

def bytes (o : Octets) : ByteArray := ⟨(o.map fun c => UInt8.ofNat c.toNat).toArray⟩

def text? (o : Octets) : Option String := String.fromUTF8? o.bytes

def untilNul (o : Octets) : Octets := o.takeWhile (· != '\x00')

end Octets
end MergeNotes
