/-
`Bytes.lean` -- the contents of device buffers: bytes, 32-bit words, hexadecimal text.

Words lie in memory low byte first, one after the other.
-/
import KernelShader.Text.Quoted

set_option autoImplicit false

namespace KernelShader

/-- The contents of a stretch of memory. -/
abbrev Bytes := List UInt8

namespace Bytes

/-- The four bytes of a word, low byte first. -/
def ofWord (word : UInt32) : Bytes :=
  let n := word.toNat
  [UInt8.ofNat n, UInt8.ofNat (n / 0x100), UInt8.ofNat (n / 0x10000), UInt8.ofNat (n / 0x1000000)]

/-- The bytes of words in a row. -/
def ofWords (words : List UInt32) : Bytes := words.flatMap ofWord

/-- The word of four bytes, low byte first. -/
def word (a b c d : UInt8) : UInt32 :=
  UInt32.ofNat (a.toNat + b.toNat * 0x100 + c.toNat * 0x10000 + d.toNat * 0x1000000)

/-- The words of a stretch of memory; up to three bytes at the end make no word. -/
def toWords : Bytes → List UInt32
  | a :: b :: c :: d :: rest => word a b c d :: toWords rest
  | _ => []

/-- Changes each of the first `count` words. Bytes that make no word stay. -/
def mapWords (f : UInt32 → UInt32) : (count : Nat) → Bytes → Bytes
  | count + 1, a :: b :: c :: d :: rest => ofWord (f (word a b c d)) ++ mapWords f count rest
  | _, bytes => bytes

/-- The bytes in hexadecimal, two digits each. -/
def hex (bytes : Bytes) : String :=
  String.ofList (bytes.flatMap fun b => Text.hexDigits 2 b.toNat)

/-- Empty memory of the given size. -/
def zeros (size : Nat) : Bytes := List.replicate size 0

/-- Writes `source` over the front of `target`. -/
def overwrite (source target : Bytes) : Bytes := source ++ target.drop source.length

end Bytes

end KernelShader
