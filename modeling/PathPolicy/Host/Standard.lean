import PathPolicy.Host
import PathPolicy.Text.CharName
import PathPolicy.Yaml.Document

/-! The host that the library is run on. -/

namespace PathPolicy

namespace Regex

/-- Parts inside one another. The branches of a choice stand beside one another, the last
one being where no other choice follows. -/
def Node.depth (isBranch : Bool) : Node → Nat
  | .cat a b => max (depth false a) (depth false b) + isBranch.toNat
  | .alt a b => max (depth false a + 1) (depth true b)
  | .group _ _ body => depth false body + 1 + isBranch.toNat
  | .atomic body => depth false body + 1 + isBranch.toNat
  | .loop _ _ _ body => depth false body + 1 + isBranch.toNat
  | .look _ _ body => depth false body + 1 + isBranch.toNat
  | .given _ yes no => max (depth false yes) (depth false no) + 1 + isBranch.toNat
  | _ => isBranch.toNat

/-- The most parentheses that are open at once, if some are open already. -/
def openAtOnce (already : Nat) : List Char → Nat
  | [] => already
  | '(' :: cs => openAtOnce (already + 1) cs
  | ')' :: cs => max already (openAtOnce (already - 1) cs)
  | _ :: cs => openAtOnce already cs

end Regex

namespace Host

/-- For texts that are read, parts inside one another count too. -/
def standardRoom [Regex.CharacterNames] (source : String) (flags : Regex.Flags) : Bool :=
  Regex.openAtOnce 0 source.toList ≤ 490 &&
    match Regex.read source flags with
    | .ok p => p.node.depth false ≤ 980
    | .error _ => true

def standardDocument (bytes : List UInt8) : Except Unread Value :=
  match Yaml.readBytes 487 bytes with
  | .ok v => .ok v
  | .error (.malformed reason) => .error (.malformed reason.message)
  | .error (.fault f) => .error (.fault f)

@[reducible]
def standardNames : Regex.CharacterNames := ⟨Text.codeOfName?⟩

instance standard : Host where
  toCharacterNames := standardNames
  hasRoom _ source flags := @standardRoom standardNames source flags
  hasRoom_any := by decide +kernel
  jsonRoom := 990
  displayRoom := 985
  displayRoom_pos := by decide
  readDocument := standardDocument

/-- Bytes that are no text are not called malformed. -/
theorem readDocument_of_undecodable {bytes : List UInt8} {f : Text.Utf8.Fault}
    (h : Text.Utf8.decode bytes = .error f) :
    readDocument bytes = .error (.fault (Yaml.undecodable f)) := by
  show standardDocument bytes = _
  simp only [standardDocument, Yaml.readBytes, h]

end Host

end PathPolicy
