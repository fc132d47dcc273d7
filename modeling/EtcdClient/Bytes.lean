/-
# Byte strings

Keys and values are byte strings. Their order is bytewise and lexicographic, a byte string before
its continuations, which is the order that lists of bytes have.

Source: `SPEC_FULL.md` §6, where keys, values and the ends of ranges are byte strings.
-/

namespace EtcdClient

/-- A byte string. -/
abbrev Bytes := List UInt8

/-- The UTF-8 bytes of a text. -/
def utf8 (s : String) : Bytes := s.toByteArray.data.toList

/-- The text that a byte string is in UTF-8, none if it is no UTF-8. -/
def ofUtf8? (b : Bytes) : Option String := String.fromUTF8? ⟨b.toArray⟩

theorem utf8_injective {s t : String} (h : utf8 s = utf8 t) : s = t :=
  String.toByteArray_inj.1 (ByteArray.ext (Array.toList_inj.1 h))

end EtcdClient
