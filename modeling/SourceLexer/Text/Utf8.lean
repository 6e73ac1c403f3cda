import SourceLexer.Text.CodePoint

/-!
# Reading UTF-8

Bytes are read strictly: overlong forms, surrogates and code points beyond U+10FFFF are refused.
The first byte of a character says how many bytes follow and in which range the first of them has
to lie; that narrowed range is what rules the refused forms out.

A `Fault` tells where the first bad part starts and which bytes belong to it: the first byte of a
character together with those that can still follow it.
-/

namespace SourceLexer
namespace Text
namespace Utf8

/-- Why a part of the input is not UTF-8. -/
inductive Reason where
  /-- No character starts with this byte. -/
  | invalidStart
  /-- The character breaks off before a byte that does not belong to it. -/
  | invalidContinuation
  /-- The input ends inside a character. -/
  | endOfData
  deriving DecidableEq, Repr

/-- The first part of an input that is not UTF-8. -/
structure Fault where
  /-- The offset of the first bad byte. -/
  start : Nat
  /-- The bad bytes. -/
  bytes : List UInt8
  reason : Reason
  deriving DecidableEq, Repr

/-- A range of bytes, ends included. -/
structure ByteRange where
  low : UInt8
  high : UInt8
  deriving DecidableEq, Repr

/-- Whether a byte lies in the range. -/
def ByteRange.contains (range : ByteRange) (byte : UInt8) : Bool :=
  range.low ≤ byte && byte ≤ range.high

/-- The bytes that can follow inside a character. -/
def tail : ByteRange := ⟨0x80, 0xbf⟩

/-- The ranges of the bytes that follow a first byte, or `none` if no character starts with it. -/
def followers (first : UInt8) : Option (List ByteRange) :=
  if first < 0x80 then some []
  else if first < 0xc2 then none
  else if first < 0xe0 then some [tail]
  else if first = 0xe0 then some [⟨0xa0, 0xbf⟩, tail]
  else if first = 0xed then some [⟨0x80, 0x9f⟩, tail]
  else if first < 0xf0 then some [tail, tail]
  else if first = 0xf0 then some [⟨0x90, 0xbf⟩, tail, tail]
  else if first < 0xf4 then some [tail, tail, tail]
  else if first = 0xf4 then some [⟨0x80, 0x8f⟩, tail, tail]
  else none

/-- The bytes at the front of the input that lie in the given ranges, one after the other. -/
def fitting : List ByteRange → List UInt8 → List UInt8
  | range :: ranges, byte :: bytes =>
    if range.contains byte then byte :: fitting ranges bytes else []
  | _, _ => []

/-- The payload of a first byte that `count` bytes follow. -/
def leadBits (first : UInt8) (count : Nat) : Nat :=
  match count with
  | 0 => first.toNat
  | 1 => first.toNat % 0x20
  | 2 => first.toNat % 0x10
  | _ => first.toNat % 0x08

/-- The character that a first byte and those after it stand for. -/
def assemble (first : UInt8) (rest : List UInt8) : Char :=
  Char.ofNat (rest.foldl (fun code byte => code * 0x40 + byte.toNat % 0x40)
    (leadBits first rest.length))

/-- Reads on at an offset, with the characters before it given in reverse. -/
def decodeFrom (offset : Nat) (before : List Char) (bytes : List UInt8) :
    Except Fault (List Char) :=
  match bytes with
  | [] => .ok before.reverse
  | first :: rest =>
    match followers first with
    | none => .error ⟨offset, [first], .invalidStart⟩
    | some ranges =>
      let good := fitting ranges rest
      if good.length = ranges.length then
        decodeFrom (offset + 1 + good.length) (assemble first good :: before)
          (rest.drop good.length)
      else
        .error ⟨offset, first :: good,
          if good.length = rest.length then .endOfData else .invalidContinuation⟩
  termination_by bytes.length
  decreasing_by
    simp only [List.length_drop, List.length_cons]
    omega

/-- The text that the bytes stand for, or the first part of them that stands for nothing. -/
def decode (bytes : List UInt8) : Except Fault (List Char) :=
  decodeFrom 0 [] bytes

/-- The wording of a reason. -/
def Reason.message : Reason → String
  | .invalidStart => "invalid start byte"
  | .invalidContinuation => "invalid continuation byte"
  | .endOfData => "unexpected end of data"

/-- The wording of a fault.  A single bad byte is shown, of several only the offsets. -/
def Fault.message (fault : Fault) : String :=
  match fault.bytes with
  | [byte] =>
    let shown := String.ofList (hexDigits 2 byte.toNat)
    s!"'utf-8' codec can't decode byte 0x{shown} in position {fault.start}: "
      ++ fault.reason.message
  | bytes =>
    let last := fault.start + bytes.length - 1
    s!"'utf-8' codec can't decode bytes in position {fault.start}-{last}: "
      ++ fault.reason.message

end Utf8
end Text
end SourceLexer
