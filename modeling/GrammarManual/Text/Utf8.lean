/-!
# Text/Utf8: bytes and characters

* `decode` reads bytes as UTF-8, refusing everything that is not its shortest form, surrogates and
  what lies beyond the last code point; `Utf8Fault` says where and why;
* `encode` writes characters as UTF-8.
-/

namespace GrammarManual

/-- Why bytes are no UTF-8. -/
inductive Utf8Reason where
  | start
  | continuation
  | ending
  deriving DecidableEq, Repr, Inhabited

/-- The bytes that are no UTF-8: the first of them, its place and their number. -/
structure Utf8Fault where
  byte : UInt8
  position : Nat
  count : Nat
  reason : Utf8Reason
  deriving DecidableEq, Repr, Inhabited

/-- The wording of a reason. -/
def Utf8Reason.message : Utf8Reason → String
  | .start => "invalid start byte"
  | .continuation => "invalid continuation byte"
  | .ending => "unexpected end of data"

/-- The wording of a fault. -/
def Utf8Fault.message (f : Utf8Fault) : String :=
  let hex := (Nat.toDigits 16 f.byte.toNat)
  let what :=
    if f.count = 1 then
      "byte 0x" ++ String.ofList (List.replicate (2 - hex.length) '0' ++ hex) ++ " in position "
        ++ toString f.position
    else
      "bytes in position " ++ toString f.position ++ "-" ++ toString (f.position + f.count - 1)
  "'utf-8' codec can't decode " ++ what ++ ": " ++ f.reason.message

/-- The fault as it is found in a file that is decoded while it is being read: bytes that break off
    at the end are then all that is left, so their place counts from themselves. -/
def Utf8Fault.whileReading (f : Utf8Fault) : Utf8Fault :=
  if f.reason = .ending then { f with position := 0 } else f

namespace Utf8

/-- Whether a byte continues a character. -/
def continues (b : UInt8) : Bool := 0x80 ≤ b && b < 0xc0

/-- Whether `b` may be the second byte behind the first byte `a`. -/
def secondFits (a b : UInt8) : Bool :=
  continues b &&
    (if a = 0xe0 then 0xa0 ≤ b
     else if a = 0xed then b < 0xa0
     else if a = 0xf0 then 0x90 ≤ b
     else if a = 0xf4 then b < 0x90
     else true)

/-- The six low bits of a byte. -/
def low (b : UInt8) : Nat := b.toNat % 64

/-- Reads UTF-8; `position` is the place of the first byte. -/
def decodeFrom (position : Nat) : List UInt8 → Except Utf8Fault (List Char)
  | [] => .ok []
  | a :: rest =>
    let fault (count : Nat) (reason : Utf8Reason) : Except Utf8Fault (List Char) :=
      .error ⟨a, position, count, reason⟩
    let put (n : Nat) (more : Except Utf8Fault (List Char)) : Except Utf8Fault (List Char) :=
      more.map (Char.ofNat n :: ·)
    if a < 0x80 then put a.toNat (decodeFrom (position + 1) rest)
    else if a < 0xc2 then fault 1 .start
    else if a < 0xe0 then
      match rest with
      | [] => fault 1 .ending
      | b :: rest' =>
        if continues b then
          put (a.toNat % 32 * 64 + low b) (decodeFrom (position + 2) rest')
        else fault 1 .continuation
    else if a < 0xf0 then
      match rest with
      | [] => fault 1 .ending
      | [b] => if secondFits a b then fault 2 .ending else fault 1 .continuation
      | b :: c :: rest' =>
        if !secondFits a b then fault 1 .continuation
        else if !continues c then fault 2 .continuation
        else
          put ((a.toNat % 16 * 64 + low b) * 64 + low c) (decodeFrom (position + 3) rest')
    else if a < 0xf5 then
      match rest with
      | [] => fault 1 .ending
      | [b] => if secondFits a b then fault 2 .ending else fault 1 .continuation
      | [b, c] =>
        if !secondFits a b then fault 1 .continuation
        else if !continues c then fault 2 .continuation
        else fault 3 .ending
      | b :: c :: d :: rest' =>
        if !secondFits a b then fault 1 .continuation
        else if !continues c then fault 2 .continuation
        else if !continues d then fault 3 .continuation
        else
          put (((a.toNat % 8 * 64 + low b) * 64 + low c) * 64 + low d)
            (decodeFrom (position + 4) rest')
    else fault 1 .start

/-- Reads UTF-8. -/
def decode (bytes : List UInt8) : Except Utf8Fault (List Char) := decodeFrom 0 bytes

/-- The bytes of one character. -/
def encodeChar (c : Char) : List UInt8 :=
  let n := c.toNat
  let tail (shift : Nat) : UInt8 := UInt8.ofNat (0x80 + n / shift % 64)
  if n < 0x80 then [UInt8.ofNat n]
  else if n < 0x800 then [UInt8.ofNat (0xc0 + n / 64), tail 1]
  else if n < 0x10000 then [UInt8.ofNat (0xe0 + n / 4096), tail 64, tail 1]
  else [UInt8.ofNat (0xf0 + n / 262144), tail 4096, tail 64, tail 1]

/-- Writes UTF-8. -/
def encode (s : List Char) : List UInt8 := s.flatMap encodeChar

end Utf8

end GrammarManual
