import MonkeyScan.Text.Decimal
import MonkeyScan.Text.Hex

/-!
UTF-8, read strictly: only the shortest form of a scalar value is taken. A text that is not UTF-8
is refused at the first byte that cannot stand, with a fault that names the bytes of the broken
character and what is wrong with it. Writing is the inverse.
-/

namespace MonkeyScan.Text.Utf8

/-- What is wrong with a broken character. -/
inductive Reason where
  /-- A byte that begins no character. -/
  | startByte
  /-- A byte that does not continue the character before it. -/
  | continuationByte
  /-- The text ends within a character. -/
  | unexpectedEnd
deriving DecidableEq

/-- A broken character: the offset of its first byte, that byte, how many bytes are at fault, and
what is wrong. -/
structure Fault where
  start : Nat
  byte : UInt8
  count : Nat
  reason : Reason
deriving DecidableEq

/-- The words for what is wrong. -/
def Reason.message : Reason → String
  | .startByte => "invalid start byte"
  | .continuationByte => "invalid continuation byte"
  | .unexpectedEnd => "unexpected end of data"

/-- The words for a fault: one byte is named by its value, several by their offsets. -/
def Fault.message (f : Fault) : String :=
  let start := String.ofList (digits f.start)
  let place :=
    if f.count = 1 then
      "byte 0x" ++ String.ofList (hexDigits 2 f.byte.toNat) ++ " in position " ++ start
    else
      "bytes in position " ++ start ++ "-" ++ String.ofList (digits (f.start + f.count - 1))
  "'utf-8' codec can't decode " ++ place ++ ": " ++ f.reason.message

/-- Whether a byte may stand behind the first byte of a character. -/
def isContinuation (b : UInt8) : Bool := 0x80 ≤ b && b ≤ 0xbf

/-- Whether a byte may stand second in a character of three or four bytes: the first byte narrows
the range where a longer form than needed, a surrogate or too large a number would begin. -/
def isSecond (first b : UInt8) : Bool :=
  (if first = 0xe0 then 0xa0 else if first = 0xf0 then 0x90 else 0x80) ≤ b &&
    b ≤ (if first = 0xed then 0x9f else if first = 0xf4 then 0x8f else 0xbf)

/-- The value of the low six bits. -/
def low (b : UInt8) : Nat := b.toNat % 64

/-- Reads bytes that start at an offset. -/
def decodeFrom (offset : Nat) : List UInt8 → Except Fault (List Char)
  | [] => .ok []
  | a :: more =>
    let fault (count : Nat) (reason : Reason) : Except Fault (List Char) :=
      .error ⟨offset, a, count, reason⟩
    if a < 0x80 then do
      let cs ← decodeFrom (offset + 1) more
      .ok (Char.ofNat a.toNat :: cs)
    else if a < 0xc2 then fault 1 .startByte
    else if a < 0xe0 then
      match more with
      | [] => fault 1 .unexpectedEnd
      | b :: more =>
        if isContinuation b then do
          let cs ← decodeFrom (offset + 2) more
          .ok (Char.ofNat (a.toNat % 32 * 64 + low b) :: cs)
        else fault 1 .continuationByte
    else if a < 0xf0 then
      match more with
      | [] => fault 1 .unexpectedEnd
      | b :: more =>
        if isSecond a b then
          match more with
          | [] => fault 2 .unexpectedEnd
          | c :: more =>
            if isContinuation c then do
              let cs ← decodeFrom (offset + 3) more
              .ok (Char.ofNat (a.toNat % 16 * 4096 + low b * 64 + low c) :: cs)
            else fault 2 .continuationByte
        else fault 1 .continuationByte
    else if a < 0xf5 then
      match more with
      | [] => fault 1 .unexpectedEnd
      | b :: more =>
        if isSecond a b then
          match more with
          | [] => fault 2 .unexpectedEnd
          | c :: more =>
            if isContinuation c then
              match more with
              | [] => fault 3 .unexpectedEnd
              | d :: more =>
                if isContinuation d then do
                  let cs ← decodeFrom (offset + 4) more
                  .ok (Char.ofNat (a.toNat % 8 * 262144 + low b * 4096 + low c * 64 + low d) :: cs)
                else fault 3 .continuationByte
            else fault 2 .continuationByte
        else fault 1 .continuationByte
    else fault 1 .startByte

/-- The text of bytes. -/
def decode (bytes : List UInt8) : Except Fault String := (decodeFrom 0 bytes).map String.ofList

/-- The bytes of a text. -/
def encode (s : String) : List UInt8 := s.toList.flatMap String.utf8EncodeChar

end MonkeyScan.Text.Utf8
