import PathPolicy.Files.Disk
import PathPolicy.Notice
import PathPolicy.Error.Refusal

/-! Configurations: what holds for paths without a schema, the directories with policy
files, and the names of the sets to load. Every part has a default, and so does a
configuration that cannot be read. -/

namespace PathPolicy

open Files

/-- The mode is kept as it was given, and judged with the other issues. -/
structure Config where
  defaultMode : Value := .str DefaultMode.permissive.word
  schemaPaths : List String := []
  schemaSets : List String := []

namespace Config

variable [Host]

def texts? : List Value → Option (List String)
  | [] => some []
  | .str s :: rest => (texts? rest).map (s :: ·)
  | _ :: _ => none

/-- Nothing, one text, or a list of texts. -/
def names? : Value → Option (List String)
  | .null => some []
  | .str s => some [s]
  | .list items => texts? items
  | .tuple items => texts? items
  | _ => none

def names (key : String) (v : Value) : Except Failure (List String) :=
  match names? v with
  | some names => .ok names
  | none => .error (.refusing v (.notNames key v))

/-- A key that is not known is announced, if it can be written. -/
def ignored (key : Value) : Except Failure Notice :=
  match key.unwritable? with
  | some f => .error (.fault f)
  | none => .ok (.unknownConfigKey key)

/-- The configuration with one key set; of a key that is not known only a notice is
left. -/
def set (c : Config) (key value : Value) : Logged Failure Config :=
  match key with
  | .str "default_mode" => return { c with defaultMode := value }
  | .str "schema_paths" => ⟨(names "schema_paths" value).map ({ c with schemaPaths := · }), []⟩
  | .str "schema_sets" => ⟨(names "schema_sets" value).map ({ c with schemaSets := · }), []⟩
  | key => do
    Logged.tell [← ignored key]
    return c

def ofEntries (entries : Entries) : Logged Failure Config :=
  entries.foldlM (fun c e => c.set e.1 e.2) {}

/-- Where a configuration is looked for if no place is given. -/
def usualPath (d : Disk) : Path := d.homePath.join ⟨"", [".schemaguard", "config.yml"]⟩

/-- The entries in a file. A file that cannot be read, or holds something else, is as
good as an empty one and leaves a notice. -/
def entriesIn (d : Disk) (p : Path) : Logged Failure Entries :=
  let unreadable (reason : String) : Logged Failure Entries :=
    ⟨.ok [], [.unreadableConfig p.text reason]⟩
  match d.read p with
  | .error f => unreadable f.message
  | .ok bytes =>
    match Host.readDocument bytes with
    | .ok (.map entries) => ⟨.ok entries, []⟩
    | .ok _ => ⟨.ok [], [.configNotMapping p.text]⟩
    | .error (.malformed reason) => unreadable reason
    | .error (.fault f) => ⟨.error (.fault f), []⟩

/-- A file that is missing leaves the defaults. -/
def load (d : Disk) (path : Option String) : Logged Failure Config :=
  let p :=
    match path with
    | some s => if s.isEmpty then usualPath d else .ofText s
    | none => usualPath d
  match d.contains p with
  | .error f => ⟨.error (.fault f), []⟩
  | .ok false => ⟨.ok {}, []⟩
  | .ok true => do ofEntries (← entriesIn d p)

def toFields (c : Config) : Fields :=
  [("default_mode", c.defaultMode), ("schema_paths", .list (c.schemaPaths.map .str)),
    ("schema_sets", .list (c.schemaSets.map .str))]

def isDefault (c : Config) : Bool :=
  c.defaultMode.same (.str DefaultMode.permissive.word) && c.schemaPaths.isEmpty && c.schemaSets.isEmpty

end Config

end PathPolicy
