import PathPolicy.Files.Disk
import Mathlib

/-! Looking up a name in a directory. A path with a name at its end leads to what the directory
has under the name, if both the path and the name are short enough to be looked up. -/

namespace PathPolicy.Files

namespace Path

/-- The path of a name in the directory of another path. -/
def child (p : Path) (name : String) : Path := { p with parts := p.parts ++ [name] }

/-- One part, which is not left out. -/
structure IsName (name : String) : Prop where
  separator : '/' ∉ name.toList
  notEmpty : name ≠ ""
  notDot : name ≠ "."

theorem partsOf_name {name : String} (h : IsName name) : partsOf name.toList = [name] := by
  have hnil : name.toList ≠ [] := fun hn => h.notEmpty (String.toList_eq_nil_iff.1 hn)
  have hdot : name.toList ≠ ['.'] := fun hn => h.notDot (String.toList_injective hn)
  simp [partsOf, List.splitOn_eq_singleton h.separator, hnil, hdot]

theorem rootOf_name {name : String} (h : IsName name) : rootOf name.toList = "" := by
  have hseparator := h.separator
  unfold rootOf
  cases hn : name.toList with
  | nil => rfl
  | cons c cs =>
    have hc : c ≠ '/' := fun hc => hseparator (by simp [hn, hc])
    rw [List.takeWhile_cons_of_neg (by simpa using hc)]
    rfl

theorem join_name {name : String} (h : IsName name) (p : Path) :
    p.join (ofText name) = p.child name := by
  rw [ofText, partsOf_name h, rootOf_name h]
  rfl

theorem hasNul_child (p : Path) (name : String) :
    (p.child name).hasNul = (p.hasNul || name.toList.contains '\x00') := by
  simp [hasNul, child]

/-- A name stands at the end of the text of its path. -/
theorem exists_text_child (p : Path) :
    ∃ before, ∀ name, name ≠ "" → (p.child name).text = before ++ name := by
  obtain ⟨before, hbefore⟩ : ∃ before, ∀ name,
      String.intercalate "/" (p.parts ++ [name]) = before ++ name := by
    by_cases hparts : p.parts = []
    · exact ⟨"", fun name => by simp [hparts]⟩
    · refine ⟨String.intercalate "/" p.parts ++ "/", fun name => ?_⟩
      rw [String.intercalate_append_of_ne_nil hparts (by simp), String.intercalate_singleton]
  refine ⟨p.root ++ before, fun name hname => ?_⟩
  have htext : (p.child name).root ++ String.intercalate "/" (p.child name).parts =
      p.root ++ before ++ name := by
    rw [child, hbefore, String.append_assoc]
  unfold text
  rw [htext]
  exact if_neg (by simp [hname])

/-- Neither of the two can be taken for the dot of the ending. -/
theorem stem_append {name ending : String} {tail : List Char} (hname : name ≠ "")
    (hending : ending.toList = '.' :: tail) (hdot : '.' ∉ tail) (htail : tail ≠ []) :
    stem (name ++ ending) = name := by
  have hlength : (name ++ ending).length = name.length + (tail.length + 1) := by
    rw [← String.length_toList, String.toList_append, hending, List.length_append,
      List.length_cons, String.length_toList]
  have hafter : (((name ++ ending).toList.reverse).takeWhile (· ≠ '.')).length = tail.length := by
    rw [String.toList_append, hending, List.reverse_append, List.reverse_cons, List.append_assoc,
      List.takeWhile_append_of_pos (by simpa using fun c hc => ne_of_mem_of_not_mem hc hdot)]
    simp
  have hplace : (name ++ ending).length - (tail.length + 1) = name.length := by omega
  have hpos : 0 < name.length := by
    rw [← String.length_toList, List.length_pos_iff]
    exact fun h => hname (String.toList_eq_nil_iff.1 h)
  have htail' : 0 < tail.length := List.length_pos_iff.2 htail
  unfold stem
  simp only [hafter, hplace]
  rw [if_pos (by simp [hlength, hpos, htail']; omega), String.toList_append, ← String.length_toList,
    List.take_left, String.ofList_toList]

end Path

namespace Disk

variable {d : Disk} {p : Path} {place ps qs : List String} {name : String}

theorem isAbove_iff : d.isAbove place = true ↔
    ∃ parts ∈ d.items.map (·.1) ++ [d.work, d.home], place <+: parts := by
  simp only [isAbove, Bool.or_eq_true, List.isPrefixOf_iff_prefix, List.any_eq_true,
    List.mem_append, List.mem_map, List.mem_cons, List.not_mem_nil, or_false]
  constructor
  · rintro ((h | h) | ⟨e, he, h⟩)
    · exact ⟨_, .inr (.inl rfl), h⟩
    · exact ⟨_, .inr (.inr rfl), h⟩
    · exact ⟨_, .inl ⟨e, he, rfl⟩, h⟩
  · rintro ⟨_, ⟨e, he, rfl⟩ | rfl | rfl, h⟩
    · exact .inr ⟨e, he, h⟩
    · exact .inl (.inl h)
    · exact .inl (.inr h)

/-- Something is in a place if it is listed there or below. -/
theorem isSome_find? : (d.find? place).isSome = d.isAbove place := by
  unfold find?
  cases h : d.items.lookup place with
  | none => cases d.isAbove place <;> rfl
  | some item =>
    obtain ⟨e, he⟩ := List.lookup_eq_some_iff.1 h
    refine (isAbove_iff.2 ⟨place, ?_, List.prefix_refl _⟩).symm
    obtain ⟨after, hitems, -⟩ := he
    simp [hitems]

/-- A directory names what is there in it. -/
theorem mem_names : name ∈ d.names place ↔ (d.find? (place ++ [name])).isSome := by
  rw [isSome_find?, isAbove_iff, names, List.mem_eraseDups, List.mem_filterMap]
  constructor
  · rintro ⟨parts, hparts, h⟩
    split at h
    · next hprefix =>
      obtain ⟨rest, rfl⟩ := List.isPrefixOf_iff_prefix.1 hprefix
      rw [List.drop_left] at h
      obtain ⟨rest, rfl⟩ : ∃ t, rest = name :: t := List.head?_eq_some_iff.1 h
      exact ⟨_, hparts, rest, by simp⟩
    · cases h
  · rintro ⟨_, hparts, rest, rfl⟩
    refine ⟨_, hparts, ?_⟩
    have hprefix : place.isPrefixOf (place ++ [name] ++ rest) = true := by
      rw [List.isPrefixOf_iff_prefix, List.append_assoc]
      exact List.prefix_append _ _
    rw [if_pos hprefix, List.append_assoc, List.drop_left]
    rfl

theorem walk_append : d.walk place (ps ++ qs) = d.walk place ps >>= (d.walk · qs) := by
  induction ps generalizing place with
  | nil => rfl
  | cons p rest ih =>
    rw [List.cons_append, walk, walk, ih, ih]
    split
    · rfl
    · split
      · rfl
      · split
        · rfl
        · split <;> rfl

/-- No path holds the character of code zero. -/
theorem contains_of_nul (h : p.hasNul = true) : d.contains p = .ok false := by
  rw [contains, locate, if_pos h]
  rfl

theorem contains_child_of_nul (h : name.toList.contains '\x00' = true) :
    d.contains (p.child name) = .ok false :=
  contains_of_nul (by rw [Path.hasNul_child, h, Bool.or_true])

theorem locate_eq_some_iff : d.locate p = .ok (some place) ↔ p.hasNul = false ∧
    ¬longestPath < p.text.utf8ByteSize ∧
      d.walk (if p.isAbsolute then [] else d.work) p.parts = .ok place := by
  unfold locate
  by_cases hnul : p.hasNul = true
  · simp [hnul]
  · by_cases hlong : longestPath < p.text.utf8ByteSize
    · simp [hnul, hlong]
    · cases d.walk (if p.isAbsolute then [] else d.work) p.parts with
      | ok q => simp [hnul, hlong]
      | error m => cases m <;> simp [hnul, hlong]

theorem contains_eq_true_iff : d.contains p = .ok true ↔ ∃ place, d.locate p = .ok (some place) := by
  unfold contains
  cases d.locate p with
  | error f => simp [Except.map]
  | ok found => cases found <;> simp [Except.map]

/-- A path is read if it leads to a file. -/
theorem read_eq_ok_iff {bytes : List UInt8} : d.read p = .ok bytes ↔
    ∃ place, d.locate p = .ok (some place) ∧ d.find? place = some (.file bytes) := by
  unfold read
  cases d.locate p with
  | error f => simp [bind, Except.bind]
  | ok found =>
    cases found with
    | none => simp [bind, Except.bind, throw, throwThe, MonadExceptOf.throw]
    | some q =>
      simp only [bind, Except.bind, Option.bind_some]
      cases hitem : d.find? q with
      | none => simp [hitem, throw, throwThe, MonadExceptOf.throw]
      | some item =>
        cases item <;> simp [hitem, pure, Except.pure, throw, throwThe, MonadExceptOf.throw]

theorem walk_name (hdots : name ≠ "..") : d.walk place [name] =
    if !d.isDirectory place then .error .absent
    else if longestName < name.utf8ByteSize then .error .tooLong
    else if name ∈ d.names place then .ok (place ++ [name]) else .error .absent := by
  simp only [walk, if_neg hdots, mem_names]

/-- The name, or the path with it at the end, is too long to be looked up. -/
def tooLong (p : Path) (name : String) : Bool :=
  longestPath < (p.child name).text.utf8ByteSize || longestName < name.utf8ByteSize

theorem tooLong_of_le {longer : String} (hname : name ≠ "") (hlonger : longer ≠ "")
    (hle : name.utf8ByteSize ≤ longer.utf8ByteSize) (h : tooLong p name = true) :
    tooLong p longer = true := by
  obtain ⟨before, hbefore⟩ := p.exists_text_child
  simp only [tooLong, hbefore _ hname, hbefore _ hlonger, String.utf8ByteSize_append,
    Bool.or_eq_true, decide_eq_true_eq] at h ⊢
  omega

/-- In a directory a name is looked up, unless it or the path is too long. -/
theorem contains_child (hp : d.locate p = .ok (some place)) (hdir : d.isDirectory place = true)
    (hnul : name.toList.contains '\x00' = false) (hdots : name ≠ "..") :
    d.contains (p.child name) =
      if tooLong p name then .error (.nameTooLong (p.child name).text)
      else .ok (decide (name ∈ d.names place)) := by
  obtain ⟨hpnul, -, hwalk⟩ := locate_eq_some_iff.1 hp
  have hnul' : (p.child name).hasNul = false := by rw [Path.hasNul_child, hpnul, hnul]; rfl
  have hwalk' : d.walk (if (p.child name).isAbsolute then [] else d.work) (p.child name).parts =
      d.walk place [name] := by
    rw [Path.child, walk_append]
    exact congrArg (· >>= (d.walk · [name])) hwalk
  rw [contains, locate, hnul', hwalk', walk_name hdots, hdir, tooLong]
  by_cases hlong : longestPath < (p.child name).text.utf8ByteSize
  · simp [hlong, Except.map]
  · by_cases hname : longestName < name.utf8ByteSize
    · simp [hlong, hname, Except.map]
    · by_cases hmem : name ∈ d.names place <;> simp [hlong, hname, hmem, Except.map]

theorem isDirectoryAt_eq_false_iff : d.isDirectoryAt p = .ok false ↔ p.hasNul = true ∨
    ¬longestPath < p.text.utf8ByteSize ∧
      (d.walk (if p.isAbsolute then [] else d.work) p.parts = .error .absent ∨
        ∃ place, d.walk (if p.isAbsolute then [] else d.work) p.parts = .ok place ∧
          d.isDirectory place = false) := by
  unfold isDirectoryAt locate
  by_cases hnul : p.hasNul = true
  · simp [hnul, Except.map]
  · by_cases hlong : longestPath < p.text.utf8ByteSize
    · simp [hnul, hlong, Except.map]
    · rcases d.walk (if p.isAbsolute then [] else d.work) p.parts with (_ | _) | place <;>
        simp [hnul, hlong, Except.map]

/-- A path that goes on from what is no directory leads nowhere. -/
theorem contains_below_ne_true {more : List String} (hp : d.isDirectoryAt p = .ok false)
    (hmore : more ≠ []) : d.contains { p with parts := p.parts ++ more } ≠ .ok true := by
  intro h
  obtain ⟨q, hq⟩ := contains_eq_true_iff.1 h
  obtain ⟨hnul, -, hwalk⟩ := locate_eq_some_iff.1 hq
  rw [Path.hasNul, List.any_append, Bool.or_eq_false_iff] at hnul
  -- the walk goes through the place of the path itself
  change d.walk (if p.isAbsolute then [] else d.work) (p.parts ++ more) = _ at hwalk
  rw [walk_append] at hwalk
  rcases isDirectoryAt_eq_false_iff.1 hp with hp | ⟨-, habsent | ⟨place, hplace, hdir⟩⟩
  · cases hp.symm.trans hnul.1
  · rw [habsent] at hwalk
    cases hwalk
  · obtain ⟨part, rest, rfl⟩ := List.exists_cons_of_ne_nil hmore
    have hrest : d.walk place (part :: rest) = .error .absent := by
      rw [walk, hdir]
      rfl
    rw [hplace] at hwalk
    cases hwalk.symm.trans hrest

end Disk

end PathPolicy.Files
