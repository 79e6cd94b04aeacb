/-!
# Base64

Bytes written in the standard base64 alphabet, and read back.

**Encoding** turns each group of three bytes into four characters, padding the last group
with `=`; the lines of `encodeBase64Lines` hold 57 bytes (76 characters) each, every line
ended by a newline.

**Decoding** is lenient: characters outside the alphabet are skipped, and decoding stops at
the padding that completes a group of four. Data that stops part-way through a group is an
error: one character past a whole number of groups cannot encode anything, and two or three
need their padding.
-/

namespace VolumeLifecycle.Text

/-- The value of a character of the base64 alphabet. -/
def base64Value (c : Char) : Option Nat :=
  if 'A' ≤ c && c ≤ 'Z' then some (c.toNat - 'A'.toNat)
  else if 'a' ≤ c && c ≤ 'z' then some (c.toNat - 'a'.toNat + 26)
  else if '0' ≤ c && c ≤ '9' then some (c.toNat - '0'.toNat + 52)
  else if c == '+' then some 62
  else if c == '/' then some 63
  else none

/-- The character of a six-bit value. -/
def base64Char (v : Nat) : Char :=
  if v < 26 then Char.ofNat ('A'.toNat + v)
  else if v < 52 then Char.ofNat ('a'.toNat + v - 26)
  else if v < 62 then Char.ofNat ('0'.toNat + v - 52)
  else if v == 62 then '+'
  else '/'

/-- Bytes in base64, the last group padded. -/
def encodeBase64 : List UInt8 → String
  | [] => ""
  | [a] =>
      let n := a.toNat * 65536
      String.ofList [base64Char (n / 262144), base64Char (n / 4096 % 64), '=', '=']
  | [a, b] =>
      let n := a.toNat * 65536 + b.toNat * 256
      String.ofList [base64Char (n / 262144), base64Char (n / 4096 % 64),
        base64Char (n / 64 % 64), '=']
  | a :: b :: c :: rest =>
      let n := a.toNat * 65536 + b.toNat * 256 + c.toNat
      String.ofList [base64Char (n / 262144), base64Char (n / 4096 % 64),
        base64Char (n / 64 % 64), base64Char (n % 64)] ++ encodeBase64 rest

/-- Bytes in base64 lines of at most 76 characters, each ended by a newline; no bytes give no
line. -/
def encodeBase64Lines (bs : List UInt8) : String :=
  if bs.isEmpty then ""
  else encodeBase64 (bs.take 57) ++ "\n" ++ encodeBase64Lines (bs.drop 57)
termination_by bs.length
decreasing_by
  simp only [List.length_drop]
  have : bs.length ≠ 0 := by simpa [List.isEmpty_iff, List.length_eq_zero_iff] using ‹¬bs.isEmpty = true›
  omega

/-- The decoder's state: the bytes so far, the place in the group of four, the bits left
over, and the padding characters seen since the last data character. -/
structure Base64State where
  bytes : Array UInt8 := #[]
  place : Nat := 0
  carry : Nat := 0
  pads : Nat := 0

/-- Decode the characters `cs` from state `st`: the state at the end, and whether padding
ended the data early. -/
def base64Step : List Char → Base64State → Base64State × Bool
  | [], st => (st, false)
  | c :: cs, st =>
      if c == '=' then
        let pads := st.pads + 1
        if st.place ≥ 2 && st.place + pads ≥ 4 then ({ st with pads }, true)
        else base64Step cs { st with pads }
      else
        match base64Value c with
        | none => base64Step cs st
        | some v =>
            let st := { st with pads := 0 }
            let st := match st.place with
              | 0 => { st with place := 1, carry := v }
              | 1 => { st with place := 2, bytes := st.bytes.push (st.carry * 4 + v / 16).toUInt8,
                               carry := v % 16 }
              | 2 => { st with place := 3, bytes := st.bytes.push (st.carry * 16 + v / 4).toUInt8,
                               carry := v % 4 }
              | _ => { st with place := 0, bytes := st.bytes.push (st.carry * 64 + v).toUInt8,
                               carry := 0 }
            base64Step cs st

/-- Decode base64 text, or the reason it cannot be decoded. -/
def decodeBase64 (s : String) : Except String (List UInt8) :=
  let (st, stopped) := base64Step s.toList {}
  if stopped || st.place == 0 then .ok st.bytes.toList
  else if st.place == 1 then
    .error s!"Invalid base64-encoded string: number of data characters ({st.bytes.size / 3 * 4 + 1}) cannot be 1 more than a multiple of 4"
  else .error "Incorrect padding"

end VolumeLifecycle.Text
