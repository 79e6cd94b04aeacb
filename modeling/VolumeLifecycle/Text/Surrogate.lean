/-!
# Lone surrogates

A `\u` escape of JSON or YAML may name a UTF-16 surrogate (U+D800 to U+DFFF) on its own, and
the text it makes still holds that code point. No `Char` is a surrogate, so a text holds the
surrogate `U+D800 + k` as the private-use character `U+10D800 + k`: a character that stays
unequal to every other one (U+FFFD among them), counts as one character, and is written back
by its surrogate's code, `\udXXX`, wherever a text is quoted or serialised. Such a text has
no UTF-8 form (`utf8Problem`).
-/

namespace VolumeLifecycle.Text

/-- The character that stands for the surrogate U+D800. -/
def surrogateBase : Nat := 0x10D800

/-- Whether `n` is a surrogate code point. -/
def isSurrogateCode (n : Nat) : Bool := 0xD800 ≤ n && n ≤ 0xDFFF

/-- The character of a code point, a surrogate included. -/
def charOfCode (n : Nat) : Char :=
  if isSurrogateCode n then Char.ofNat (n - 0xD800 + surrogateBase) else Char.ofNat n

/-- The surrogate a character stands for, if it stands for one. -/
def surrogateOf? (c : Char) : Option Nat :=
  if surrogateBase ≤ c.toNat && c.toNat < surrogateBase + 0x800 then
    some (c.toNat - surrogateBase + 0xD800)
  else none

/-- The code point a character has in a text: its own, or the surrogate it stands for. -/
def codePoint (c : Char) : Nat := (surrogateOf? c).getD c.toNat

/-- Why a text has no UTF-8 form: its first run of lone surrogates, which UTF-8 cannot
encode, named by the position of its first character and, for a run of one, its code. -/
def utf8Problem (s : String) : Option String :=
  let cs := s.toList
  match cs.findIdx? fun c => (surrogateOf? c).isSome with
  | none => none
  | some i =>
      let run := (cs.drop i).takeWhile fun c => (surrogateOf? c).isSome
      let reason := "surrogates not allowed"
      match run with
      | [c] =>
          let code := String.ofList (Nat.toDigits 16 (codePoint c))
          some s!"'utf-8' codec can't encode character '\\u{code}' in position {i}: {reason}"
      | _ =>
          some s!"'utf-8' codec can't encode characters in position {i}-{i + run.length - 1}: {reason}"

example : surrogateOf? (charOfCode 0xD800) = some 0xD800 := by decide
example : surrogateOf? (charOfCode 0xDFFF) = some 0xDFFF := by decide
example : surrogateOf? (charOfCode 0xFFFD) = none := by decide

end VolumeLifecycle.Text
