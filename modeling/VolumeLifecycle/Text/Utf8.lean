import VolumeLifecycle.Text.Quote
/-!
# Decoding UTF-8

Bytes decoded as UTF-8 into text, strictly: the first byte sequence that is not well formed
stops the decoding with a message that names the offending bytes and why they are wrong —
a byte that cannot start a character, a byte that cannot continue the one begun, or data
that ends inside a character. Overlong forms, surrogates and code points above `U+10FFFF`
are not well formed; their second byte is the one reported.
-/

namespace VolumeLifecycle.Text

/-- Whether a byte continues a multi-byte character. -/
def isContinuation (b : UInt8) : Bool := 0x80 ≤ b && b ≤ 0xBF

/-- The message for the `len` bytes at `pos`, the first of which is `first`. -/
def decodeProblem (pos len : Nat) (first : UInt8) (reason : String) : String :=
  if len == 1 then
    let shownByte := hexPadded 2 first.toNat
    s!"'utf-8' codec can't decode byte 0x{shownByte} in position {pos}: {reason}"
  else
    s!"'utf-8' codec can't decode bytes in position {pos}-{pos + len - 1}: {reason}"

/-- Why the sequence starting with `b` at `pos` is not well formed, if it is not; `r` is the
rest of the bytes after `b`. The result is the number of bytes reported and the reason. -/
def sequenceProblem (b : UInt8) (r : List UInt8) : Option (Nat × String) :=
  let n := r.length + 1
  let nth (k : Nat) : UInt8 := r.getD (k - 1) 0
  let ended := some (n, "unexpected end of data")
  let badStart := some (1, "invalid start byte")
  let badNext (k : Nat) := some (k, "invalid continuation byte")
  if b < 0x80 then none
  else if b < 0xC2 then badStart
  else if b < 0xE0 then
    if n < 2 then ended
    else if !isContinuation (nth 1) then badNext 1
    else none
  else if b < 0xF0 then
    let c2 := nth 1
    let secondBad := !isContinuation c2 || (if c2 < 0xA0 then b == 0xE0 else b == 0xED)
    if n < 3 then
      if n < 2 then ended
      else if secondBad then badNext 1
      else ended
    else if secondBad then badNext 1
    else if !isContinuation (nth 2) then badNext 2
    else none
  else if b < 0xF5 then
    let c2 := nth 1
    let secondBad := !isContinuation c2 || (if c2 < 0x90 then b == 0xF0 else b == 0xF4)
    if n < 4 then
      if n < 2 then ended
      else if secondBad then badNext 1
      else if n < 3 then ended
      else if !isContinuation (nth 2) then badNext 2
      else ended
    else if secondBad then badNext 1
    else if !isContinuation (nth 2) then badNext 2
    else if !isContinuation (nth 3) then badNext 3
    else none
  else badStart

/-- The length of the well-formed sequence that starts with `b`. -/
def sequenceLength (b : UInt8) : Nat :=
  if b < 0x80 then 1 else if b < 0xE0 then 2 else if b < 0xF0 then 3 else 4

/-- The code point of a well-formed sequence. -/
def sequenceValue (bs : List UInt8) : Nat :=
  match bs with
  | [a] => a.toNat
  | [a, b] => (a.toNat % 0x20) * 0x40 + b.toNat % 0x40
  | [a, b, c] => ((a.toNat % 0x10) * 0x40 + b.toNat % 0x40) * 0x40 + c.toNat % 0x40
  | [a, b, c, d] =>
      (((a.toNat % 0x08) * 0x40 + b.toNat % 0x40) * 0x40 + c.toNat % 0x40) * 0x40 + d.toNat % 0x40
  | _ => 0

/-- Decode the bytes `bs`, found at offset `pos`, onto `acc`. -/
def decodeFrom : Nat → Nat → List UInt8 → List Char → Except String (List Char)
  | 0, _, _, acc => .ok acc.reverse
  | _ + 1, _, [], acc => .ok acc.reverse
  | fuel + 1, pos, b :: r, acc =>
      match sequenceProblem b r with
      | some (len, reason) => .error (decodeProblem pos len b reason)
      | none =>
          let k := sequenceLength b
          let c := Char.ofNat (sequenceValue ((b :: r).take k))
          decodeFrom fuel (pos + k) ((b :: r).drop k) (c :: acc)

/-- Decode bytes as UTF-8, or the message of the first ill-formed sequence. -/
def decodeUtf8 (bs : List UInt8) : Except String String :=
  (decodeFrom (bs.length + 1) 0 bs []).map String.ofList

end VolumeLifecycle.Text
