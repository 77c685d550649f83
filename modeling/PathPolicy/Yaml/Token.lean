import PathPolicy.Yaml.Fault

/-! Tokens of a document. -/

namespace PathPolicy.Yaml

/-- A tag as it is written: in full, or with a handle to be looked up. -/
structure WrittenTag where
  handle : Option String
  suffix : String
  deriving Repr, DecidableEq

inductive Directive where
  | version (major minor : Nat)
  | handle (name replacement : String)
  | other
  deriving Repr, DecidableEq

inductive Token where
  | directive (d : Directive)
  | documentStart
  | documentEnd
  | blockSequenceStart
  | blockMappingStart
  | blockEnd
  | flowSequenceStart
  | flowSequenceEnd
  | flowMappingStart
  | flowMappingEnd
  | flowEntry
  | blockEntry
  | key
  | value
  | alias (name : String)
  | anchor (name : String)
  | tag (t : WrittenTag)
  | scalar (text : String) (plain : Bool)
  deriving Repr, DecidableEq

/-- The tokens up to the end of the text, or up to a place that cannot be read. -/
structure TokenStream where
  tokens : List Token
  refusal : Option Refusal := none

end PathPolicy.Yaml
