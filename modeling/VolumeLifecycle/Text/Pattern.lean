/-!
# Text patterns

A small language of patterns over characters: a character class, sequence, choice, option
and repetition. A pattern is matched against a text by backtracking, trying the longer
alternative first, in continuation-passing style: `run` hands every way the pattern can
match a prefix to the continuation, which decides whether the rest is acceptable.

A repetition only goes round again when the last round read at least one character, so a
repeated pattern that can match nothing does not loop; and every call spends one unit of an
explicit budget, so matching is total. The budget `fullMatch` gives is far above what the
patterns of this library need on texts of the given length.

`fullMatch` accepts the whole text, or the whole text but a final line feed: the rule of a
pattern anchored at both ends.
-/

namespace VolumeLifecycle.Text

/-- A pattern over characters. -/
inductive Pattern where
  /-- Matches the empty text. -/
  | done
  /-- One character of a class. -/
  | char (p : Char → Bool)
  | seq (a b : Pattern)
  /-- `a`, or else `b`. -/
  | alt (a b : Pattern)
  /-- `a` or nothing. -/
  | opt (a : Pattern)
  /-- Any number of `a`s, as many as possible first. -/
  | star (a : Pattern)

namespace Pattern

/-- Whether `p` matches a prefix of `s` for which `k` accepts the rest. -/
def run : Nat → Pattern → List Char → (List Char → Bool) → Bool
  | 0, _, _, _ => false
  | _ + 1, .done, s, k => k s
  | _ + 1, .char p, s, k =>
      match s with
      | c :: r => p c && k r
      | [] => false
  | n + 1, .seq a b, s, k => run n a s (fun r => run n b r k)
  | n + 1, .alt a b, s, k => run n a s k || run n b s k
  | n + 1, .opt a, s, k => run n a s k || k s
  | n + 1, .star a, s, k =>
      run n a s (fun r => r.length < s.length && run n (.star a) r k) || k s

/-- Whether `p` matches all of `s`, or all of `s` but a final line feed. -/
def fullMatch (p : Pattern) (s : String) : Bool :=
  let cs := s.toList
  run (64 * (cs.length + 4)) p cs (fun r => r.isEmpty || r == ['\n'])

/-- The characters of `s` in order. -/
def lit (s : String) : Pattern := s.toList.foldr (fun c p => .seq (.char (· == c)) p) .done

/-- One character of `s`. -/
def oneOf (s : String) : Pattern := .char (s.toList.contains ·)

/-- One character from `lo` to `hi`. -/
def range (lo hi : Char) : Pattern := .char fun c => lo ≤ c && c ≤ hi

/-- One decimal digit. -/
def digit : Pattern := range '0' '9'

/-- The patterns one after the other. -/
def seqs (ps : List Pattern) : Pattern := ps.foldr .seq .done

/-- The first of the patterns that matches. -/
def alts : List Pattern → Pattern
  | [] => .char fun _ => false
  | [p] => p
  | p :: ps => .alt p (alts ps)

/-- One or more `a`s. -/
def plus (a : Pattern) : Pattern := .seq a (.star a)

end Pattern

end VolumeLifecycle.Text
