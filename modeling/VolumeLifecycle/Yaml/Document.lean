import VolumeLifecycle.Yaml.Value
/-!
# Loading a YAML document

`loadDocument` reads the text of a stream holding at most one document into a value: the
characters of the first portion are checked to be ones a document may hold (those after it
as the lexer takes their portion), the tokens, events and nodes are made on demand, so that
the first error in reading order is the one reported, and last the value is built from the
nodes. An empty stream (nothing but blanks and
comments) has no document, and gives `none`.
-/

namespace VolumeLifecycle.Yaml

/-- The value of the one document of a YAML text, or none for a stream without documents. -/
def loadDocument (text : String) : Except Error (Option Value) := do
  let cs := text.toList
  let bad := (firstUnacceptable cs).map fun (c, i) =>
    ({ code := Text.codePoint c, position := i, portionStart := portionStart i } : Unacceptable)
  if let some u := bad then
    if u.portionStart == 0 then throw (.unacceptable u.code u.position)
  let chars := cs.toArray
  let start : Assembly :=
    { events := { tokens := { TokenStream.start chars with unacceptable := bad } } }
  let (root, _) ← Assemble.single.run start
  match root with
  | none => pure none
  | some n => some <$> construct n (4 * (chars.size + 4))

end VolumeLifecycle.Yaml
