import ApiBindings.Yaml.Fault

/-!
# Tokens

The tokens of a YAML text. Indentation is made explicit: a block collection has a token where it begins
and one where it ends.
-/

namespace ApiBindings.Yaml

/-- A tag or a part of one, as octets: escapes may stand for octets that are no characters. -/
abbrev Octets := List UInt8

/-- The octets of a text. -/
def octetsOf (text : String) : Octets := text.toUTF8.toList

/-- The kinds of token. -/
inductive TokenKind where
  | streamStart
  | streamEnd
  | version (major minor : Nat)
  | tagDirective (handle : String) (value : Octets)
  | documentStart
  | documentEnd
  | blockSequenceStart
  | blockMappingStart
  | blockEnd
  | flowSequenceStart
  | flowSequenceEnd
  | flowMappingStart
  | flowMappingEnd
  | blockEntry
  | flowEntry
  | key
  | value
  | alias (name : String)
  | anchor (name : String)
  | tag (handle : String) (suffix : Octets)
  | scalar (text : String) (isPlain : Bool)
  deriving DecidableEq, Repr, Inhabited

/-- A token with the places where it begins and ends. -/
structure Token where
  kind : TokenKind
  first : Mark
  last : Mark
  deriving DecidableEq, Repr, Inhabited

end ApiBindings.Yaml
