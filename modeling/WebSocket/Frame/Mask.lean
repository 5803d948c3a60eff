import WebSocket.Bytes

/-!
Masking of payloads: byte number `i` is combined with key byte `i` modulo four.
`applyWords` does the same work on four bytes at a time, packed into a word in
either byte order.
-/

namespace WebSocket

structure MaskKey where
  first : Byte
  second : Byte
  third : Byte
  fourth : Byte
  deriving DecidableEq, Repr

/-- Which end of a word its first byte in memory is. -/
inductive ByteOrder where
  | little
  | big
  deriving DecidableEq, Repr

namespace ByteOrder

def pack (order : ByteOrder) (a b c d : Byte) : UInt32 :=
  match order with
  | little => a.toUInt32 ||| b.toUInt32 <<< 8 ||| c.toUInt32 <<< 16 ||| d.toUInt32 <<< 24
  | big => d.toUInt32 ||| c.toUInt32 <<< 8 ||| b.toUInt32 <<< 16 ||| a.toUInt32 <<< 24

def unpack (order : ByteOrder) (word : UInt32) : Bytes :=
  let ascending :=
    [word.toUInt8, (word >>> 8).toUInt8, (word >>> 16).toUInt8, (word >>> 24).toUInt8]
  match order with
  | little => ascending
  | big => ascending.reverse

end ByteOrder

namespace MaskKey

def toBytes (key : MaskKey) : Bytes := [key.first, key.second, key.third, key.fourth]

def ofBytes? : Bytes → Option MaskKey
  | first :: second :: third :: fourth :: _ => some ⟨first, second, third, fourth⟩
  | _ => none

/-- The key byte for position `index` of the payload. -/
def byteAt (key : MaskKey) (index : Nat) : Byte :=
  match index % 4 with
  | 0 => key.first
  | 1 => key.second
  | 2 => key.third
  | _ => key.fourth

def apply (key : MaskKey) (payload : Bytes) : Bytes :=
  payload.mapIdx fun index byte => byte ^^^ key.byteAt index

/-- Whole words first, then the at most three bytes that are left. -/
def applyWords (order : ByteOrder) (key : MaskKey) : Bytes → Bytes
  | a :: b :: c :: d :: rest =>
      order.unpack
          (order.pack a b c d ^^^ order.pack key.first key.second key.third key.fourth) ++
        applyWords order key rest
  | remainder => List.zipWith (fun byte keyByte => byte ^^^ keyByte) remainder key.toBytes

end MaskKey

end WebSocket
