import PathPolicy.Error.Fault

/-! Why a document cannot be read. Most reasons are about its form; a value that does
not exist, such as the 31st of June, and a limit are faults. -/

namespace PathPolicy.Yaml

inductive Malformed where
  | unprintable
  | badStart
  | badDirective
  | badAnchor
  | badTag
  | badEscape
  | badBlockHeader
  | unclosedQuote
  | documentMarkInQuote
  | missingColon
  | misplacedEntry
  | misplacedKey
  | misplacedValue
  | unexpectedToken
  | undefinedHandle
  | undefinedAlias
  | repeatedAnchor
  | secondDocument
  | unknownTag
  | wrongKind
  | unhashableKey
  | badMerge
  | badBase64
  deriving Repr, DecidableEq

def Malformed.message : Malformed → String
  | unprintable => "unacceptable character"
  | badStart => "a character that cannot start a token"
  | badDirective => "bad directive"
  | badAnchor => "bad anchor or alias"
  | badTag => "bad tag"
  | badEscape => "unknown escape"
  | badBlockHeader => "bad header of a block text"
  | unclosedQuote => "quoted text without an end"
  | documentMarkInQuote => "document mark inside quoted text"
  | missingColon => "a key without its colon"
  | misplacedEntry => "sequence entries are not allowed here"
  | misplacedKey => "mapping keys are not allowed here"
  | misplacedValue => "mapping values are not allowed here"
  | unexpectedToken => "unexpected token"
  | undefinedHandle => "undefined tag handle"
  | undefinedAlias => "undefined alias"
  | repeatedAnchor => "anchor given twice"
  | secondDocument => "more than one document"
  | unknownTag => "no value for this tag"
  | wrongKind => "tag on the wrong kind of node"
  | unhashableKey => "a collection as a key"
  | badMerge => "only mappings can be merged"
  | badBase64 => "bad base64 text"

inductive Refusal where
  | malformed (reason : Malformed)
  | fault (f : Fault)

end PathPolicy.Yaml
