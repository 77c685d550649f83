import PathPolicy.Yaml.Node
import PathPolicy.Yaml.Scalar

/-! The value of a document. Merged pairs come before the pairs of a mapping itself, and
of equal keys the first gives the place and the last the value. What is wrong with a
document is looked for level by level, from the root down. -/

namespace PathPolicy.Yaml

namespace Node

def tag : Node → Tag
  | scalar t _ => t
  | sequence t _ _ => t
  | mapping t _ _ => t
  | enclosing _ isMap => if isMap then .map else .seq

mutual

def height : Node → Nat
  | scalar _ _ => 0
  | enclosing _ _ => 0
  | sequence _ _ items => itemsHeight items + 1
  | mapping _ _ pairs => pairsHeight pairs + 1

def itemsHeight : List Node → Nat
  | [] => 0
  | n :: rest => max (height n) (itemsHeight rest)

def pairsHeight : List (Node × Node) → Nat
  | [] => 0
  | (k, v) :: rest => max (max (height k) (height v)) (pairsHeight rest)

end

abbrev Pairs := List (Node × Node)

/-- The sign of a value is an ordinary key in a mapping. -/
def asKey : Node → Node
  | scalar .value text => scalar .str text
  | n => n

mutual

/-- The pairs that a mapping adds when it is merged. -/
def merged : Node → Except Malformed Pairs
  | mapping _ _ pairs => (flattened pairs).map fun p => p.1 ++ p.2
  | enclosing _ true => .ok []
  | _ => .error .badMerge

/-- Of several mappings the first counts most, so it comes last. -/
def mergedItems : List Node → Except Malformed Pairs
  | [] => .ok []
  | n :: rest =>
    match merged n, mergedItems rest with
    | .ok first, .ok later => .ok (later ++ first)
    | .error e, _ => .error e
    | _, .error e => .error e

/-- The merged pairs, and the pairs of the mapping itself. -/
def flattened : List (Node × Node) → Except Malformed (Pairs × Pairs)
  | [] => .ok ([], [])
  | (k, v) :: rest =>
    if k.tag = .merge then
      let added :=
        match v with
        | sequence _ _ items => mergedItems items
        | v => merged v
      match added, flattened rest with
      | .ok added, .ok (more, own) => .ok (added ++ more, own)
      | .error e, _ => .error e
      | _, .error e => .error e
    else
      match flattened rest with
      | .ok (more, own) => .ok (more, (asKey k, v) :: own)
      | .error e => .error e

end

/-- The text of a node that stands for a text; a mapping may have it under the sign of a
value. -/
def text? : Node → Option String
  | scalar _ s => some s
  | mapping _ _ pairs => pairsText? pairs
  | _ => none
where
  pairsText? : List (Node × Node) → Option String
    | [] => none
    | (k, v) :: rest => if k.tag = .value then text? v else pairsText? rest

end Node

/-- A value, and what is wrong on its way, each with its level. -/
structure Content where
  value : Value
  refusals : List (Nat × Refusal) := []

namespace Content

def refused (level : Nat) (e : Refusal) : Content := ⟨.null, [(level, e)]⟩

def malformed (level : Nat) (reason : Malformed) : Content := refused level (.malformed reason)

def scalar (level : Nat) (n : Node) : Content :=
  match n, n.text? with
  | .mapping .timestamp _ _, some _ => refused level (.fault (.notText "list"))
  | n, some s =>
    match Scalar.value? n.tag s with
    | some (.ok v) => ⟨v, []⟩
    | some (.error e) => refused level e
    | none => malformed level .unknownTag
  | _, none => malformed level .wrongKind

def unhashable (level : Nat) (key : Value) : List (Nat × Refusal) :=
  if key.unhashable?.isSome then [(level, .malformed .unhashableKey)] else []

/-- The entries of a mapping whose keys and values are at the given level. -/
def entries (of : Node → Content) (level : Nat) (pairs : List (Node × Node)) :
    Entries × List (Nat × Refusal) :=
  match (Node.flattened pairs).map fun p => p.1 ++ p.2 with
  | .error reason => ([], [(level, .malformed reason)])
  | .ok pairs =>
    pairs.foldl
      (fun (done, refusals) (k, v) =>
        let key := of k
        let value := of v
        (Entries.insert done key.value value.value,
          refusals ++ key.refusals ++ unhashable level key.value ++ value.refusals))
      ([], [])

def items (of : Node → Content) (nodes : List Node) : List Value × List (Nat × Refusal) :=
  let contents := nodes.map of
  (contents.map (·.value), contents.flatMap (·.refusals))

/-- A sequence of mappings with one pair each. -/
def couples (of : Node → Content) (level : Nat) (nodes : List Node) :
    List Value × List (Nat × Refusal) :=
  let contents : List Content := nodes.map fun
    | .mapping _ _ [(k, v)] =>
      let key := of k
      let value := of v
      ⟨.tuple [key.value, value.value], key.refusals ++ value.refusals⟩
    | _ => malformed level .wrongKind
  (contents.map (·.value), contents.flatMap (·.refusals))

/-- `around` has the anchors of the collections around the node, from the innermost on. -/
def ofNode (level : Nat) (around : List (Option String)) (n : Node) : Nat → Content
  | 0 => ⟨.null, []⟩
  | fuel + 1 =>
    let inner (anchor : Option String) (n : Node) : Content :=
      ofNode (level + 1) (anchor :: around) n fuel
    let within (anchor : Option String) (n : Node) : Content :=
      ofNode (level + 1) (none :: anchor :: around) n fuel
    match n with
    | .enclosing anchor isMap => ⟨.enclosing ⟨around.idxOf (some anchor), isMap⟩, []⟩
    | .sequence .seq a nodes => let (vs, es) := items (inner a) nodes; ⟨.list vs, es⟩
    | .sequence .omap a nodes =>
      let (vs, es) := couples (within a) (level + 1) nodes
      ⟨.list vs, es⟩
    | .sequence .pairs a nodes =>
      let (vs, es) := couples (within a) (level + 1) nodes
      ⟨.list vs, es⟩
    | .mapping .map a pairs => let (vs, es) := entries (inner a) (level + 1) pairs; ⟨.map vs, es⟩
    | .mapping .set a pairs =>
      let (vs, es) := entries (inner a) (level + 1) pairs
      ⟨.set (vs.map (·.1)), es⟩
    | n =>
      if [.seq, .map, .set, .omap, .pairs].contains n.tag then
        malformed (level + 1) .wrongKind
      else if [.merge, .value, .other].contains n.tag then malformed level .unknownTag
      else scalar level n

/-- The first refusal of the level nearest to the root. -/
def first? (c : Content) : Option Refusal :=
  let nearest := c.refusals.foldl (fun (n : Option Nat) e => some (min (n.getD e.1) e.1)) none
  (c.refusals.find? fun e => some e.1 = nearest).map (·.2)

end Content

def Node.value (n : Node) : Except Refusal Value :=
  let c := Content.ofNode 0 [] n (n.height + 1)
  match c.first? with
  | some e => .error e
  | none => .ok c.value

/-- Characters that a document may hold as they are. -/
def isPrintable (c : Char) : Bool :=
  let n := c.toNat
  n = 0x09 || n = 0x0A || n = 0x0D || (0x20 ≤ n && n ≤ 0x7E) || n = 0x85 || (0xA0 ≤ n && n ≤ 0xFFFD) ||
    0x10000 ≤ n

/-- All line ends written alike. -/
def unified : List Char → List Char
  | '\r' :: '\n' :: rest => '\n' :: unified rest
  | '\r' :: rest => '\n' :: unified rest
  | c :: rest => c :: unified rest
  | [] => []

/-- The value of a text; an empty one stands for nothing. -/
def readText (room : Nat) (text : List Char) : Except Refusal Value := do
  if !text.all isPrintable then throw (.malformed .unprintable)
  match ← Node.ofTokens room (TokenStream.ofText text) with
  | none => return .null
  | some n => n.value

/-- Bytes that are cut off at the end are reported from where they begin. -/
def undecodable (f : Text.Utf8.Fault) : Fault :=
  .undecodable (if f.reason = .unexpectedEnd then { f with position := 0 } else f)

def readBytes (room : Nat) (bytes : List UInt8) : Except Refusal Value :=
  match Text.Utf8.decode bytes with
  | .ok chars => readText room (unified chars)
  | .error f => .error (.fault (undecodable f))

end PathPolicy.Yaml
