import VolumeLifecycle.Yaml.Mark
/-!
# Tokens of YAML documents

A document is cut into tokens: the indicators of structure (block and flow
collections, keys, values, entries, document markers), the properties of a node (anchor,
alias and tag) and scalars. Block collections have no indicator of their own in the text;
their start and end tokens are made from the indentation.

Each token has an identifier, which grammar errors show when a token is not what the
grammar expects there.
-/

namespace VolumeLifecycle.Yaml

/-- The value of a directive: the version of `%YAML`, the handle and prefix of `%TAG`, and
nothing for a directive of another name. -/
inductive Directive where
  | version (major minor : Nat)
  | tagPrefix (handle pre : String)
  | other
  deriving Inhabited

/-- How a scalar is written: plain, single or double quoted, literal or folded. -/
inductive ScalarStyle where
  | plain
  | single
  | double
  | literal
  | folded
  deriving Inhabited, DecidableEq

/-- What a token is. -/
inductive TokenKind where
  | streamStart
  | streamEnd
  | directive (name : String) (value : Directive)
  | documentStart
  | documentEnd
  | blockSequenceStart
  | blockMappingStart
  | blockEnd
  | flowSequenceStart
  | flowMappingStart
  | flowSequenceEnd
  | flowMappingEnd
  | key
  | value
  | blockEntry
  | flowEntry
  | alias (name : String)
  | anchor (name : String)
  /-- A tag: its handle (none for a verbatim tag) and its suffix. -/
  | tag (handle : Option String) (suffix : String)
  | scalar (text : String) (style : ScalarStyle)
  deriving Inhabited

/-- A token with the marks where it starts and ends. -/
structure Token where
  kind : TokenKind
  start : Mark
  stop : Mark
  deriving Inhabited

/-- The identifier of a token in grammar errors. -/
def TokenKind.id : TokenKind → String
  | .streamStart => "<stream start>"
  | .streamEnd => "<stream end>"
  | .directive .. => "<directive>"
  | .documentStart => "<document start>"
  | .documentEnd => "<document end>"
  | .blockSequenceStart => "<block sequence start>"
  | .blockMappingStart => "<block mapping start>"
  | .blockEnd => "<block end>"
  | .flowSequenceStart => "["
  | .flowMappingStart => "\x7b"
  | .flowSequenceEnd => "]"
  | .flowMappingEnd => "\x7d"
  | .key => "?"
  | .value => ":"
  | .blockEntry => "-"
  | .flowEntry => ","
  | .alias _ => "<alias>"
  | .anchor _ => "<anchor>"
  | .tag .. => "<tag>"
  | .scalar .. => "<scalar>"

/-- The kinds of tokens, without their contents: what the grammar asks the next token to be. -/
inductive TokenClass where
  | streamEnd
  | directive
  | documentStart
  | documentEnd
  | blockSequenceStart
  | blockMappingStart
  | blockEnd
  | flowSequenceStart
  | flowMappingStart
  | flowSequenceEnd
  | flowMappingEnd
  | key
  | value
  | blockEntry
  | flowEntry
  | alias
  | anchor
  | tag
  | scalar
  deriving DecidableEq

/-- Whether a token is of a class. -/
def TokenKind.isOf : TokenKind → TokenClass → Bool
  | .streamEnd, .streamEnd => true
  | .directive .., .directive => true
  | .documentStart, .documentStart => true
  | .documentEnd, .documentEnd => true
  | .blockSequenceStart, .blockSequenceStart => true
  | .blockMappingStart, .blockMappingStart => true
  | .blockEnd, .blockEnd => true
  | .flowSequenceStart, .flowSequenceStart => true
  | .flowMappingStart, .flowMappingStart => true
  | .flowSequenceEnd, .flowSequenceEnd => true
  | .flowMappingEnd, .flowMappingEnd => true
  | .key, .key => true
  | .value, .value => true
  | .blockEntry, .blockEntry => true
  | .flowEntry, .flowEntry => true
  | .alias _, .alias => true
  | .anchor _, .anchor => true
  | .tag .., .tag => true
  | .scalar .., .scalar => true
  | _, _ => false

end VolumeLifecycle.Yaml
