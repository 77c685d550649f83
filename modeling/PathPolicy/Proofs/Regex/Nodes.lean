import PathPolicy.Proofs.Regex.Grammar

/-! What a row of nodes stands for. Putting branches together takes out what they have in
common and turns branches of one character into a class; the words stay the same as long as
letter case counts. -/

namespace PathPolicy.Regex

open scoped Computability

variable {dotAll : Bool} {l k : Language Char} {n : Node} {ns ms : List Node}

theorem Scope.enter_plain (m : Mode) : Scope.enter {} m = m := by
  obtain ⟨ignoreCase, multiline, dotAll, ascii⟩ := m
  simp [Scope.enter, Scope.setting]

/-- The nodes, one after another, are regular and stand for the words of `l`. -/
structure Means (dotAll : Bool) (ns : List Node) (l : Language Char) : Prop where
  regular : ∀ n ∈ ns, n.Regular
  language : (ns.map (·.language { dotAll := dotAll })).prod = l

namespace Means

theorem nil : Means dotAll [] 1 := ⟨by simp, rfl⟩

theorem single (hr : n.Regular) (hl : n.language { dotAll := dotAll } = l) : Means dotAll [n] l :=
  ⟨by simpa using hr, by simpa using hl⟩

theorem append (h : Means dotAll ns l) (h' : Means dotAll ms k) : Means dotAll (ns ++ ms) (l * k) := by
  refine ⟨fun n hn => ?_, ?_⟩
  · exact (List.mem_append.1 hn).elim (h.regular n) (h'.regular n)
  · rw [List.map_append, List.prod_append, h.language, h'.language]

theorem ofList (h : Means dotAll ns l) :
    (Node.ofList ns).Regular ∧ (Node.ofList ns).language { dotAll := dotAll } = l := by
  obtain ⟨hregular, rfl⟩ := h
  induction ns with
  | nil => exact ⟨.empty, rfl⟩
  | cons n rest ih =>
    obtain ⟨hn, hrest⟩ := List.forall_mem_cons.1 hregular
    cases rest with
    | nil => exact ⟨hn, by simp [Node.ofList]⟩
    | cons n' rest =>
      obtain ⟨hr, hl⟩ := ih hrest
      refine ⟨.cat hn hr, ?_⟩
      show n.language _ * (Node.ofList (n' :: rest)).language _ = _
      rw [hl, List.map_cons (a := n), List.prod_cons]

end Means

/-- A piece that stands for the words of `l`, also when it is repeated. -/
structure Repeats (dotAll : Bool) (p : Reading.Piece) (l : Language Char) : Prop where
  parts : Means dotAll p.parts l
  repeated : ∃ n, (∀ s, p.repeated s = .ok (n, s)) ∧ Means dotAll [n] l

theorem repeats_node (ha : n.isAnchor = false) (hl : n.isLoop = false) (h : Means dotAll [n] l) :
    Repeats dotAll (.node n) l := by
  refine ⟨h, n, fun s => ?_, h⟩
  rw [Reading.Piece.repeated, if_neg (by simp [ha]), if_neg (by simp [hl])]
  rfl

theorem repeats_inlined (h : Means dotAll ns l) : Repeats dotAll (.inlined ns) l :=
  ⟨h, Node.ofList ns, fun _ => rfl, .single h.ofList.1 h.ofList.2⟩

/-! Characters and classes. -/

theorem language_char (code : Nat) :
    (Node.char code).language { dotAll := dotAll } = one (· == code) := rfl

theorem language_oneOf (negated : Bool) (items : List ClassItem) :
    (Node.oneOf negated items).language { dotAll := dotAll } =
      one fun n => items.any (·.holds false n) != negated := rfl

theorem any_eraseDups (items : List ClassItem) (n : Nat) :
    items.eraseDups.any (·.holds false n) = items.any (·.holds false n) := by
  rw [Bool.eq_iff_iff]
  simp

/-- Classes side by side are one class of all their items. -/
theorem one_flatten (classes : List (List ClassItem)) :
    (classes.map fun items => one fun n => items.any (·.holds false n)).sum =
      one fun n => classes.flatten.any (·.holds false n) := by
  induction classes with
  | nil =>
    ext w
    simp [mem_one, Language.notMem_zero]
  | cons items rest ih =>
    ext w
    rw [List.map_cons, List.sum_cons, ih, Language.mem_add, mem_one, mem_one, mem_one]
    simp only [List.flatten_cons, List.any_append, Bool.or_eq_true]
    constructor
    · rintro (⟨c, rfl, h⟩ | ⟨c, rfl, h⟩)
      · exact ⟨c, rfl, .inl h⟩
      · exact ⟨c, rfl, .inr h⟩
    · rintro ⟨c, rfl, h | h⟩
      · exact .inl ⟨c, rfl, h⟩
      · exact .inr ⟨c, rfl, h⟩

/-! Branches. -/

/-- The branches are regular and stand for the words of `l` together. -/
structure MeansEither (dotAll : Bool) (bs : List (List Node)) (l : Language Char) : Prop where
  notEmpty : bs ≠ []
  regular : ∀ ns ∈ bs, ∀ n ∈ ns, n.Regular
  language : (bs.map fun ns => (ns.map (·.language { dotAll := dotAll })).prod).sum = l

namespace Reading

theorem splitCommon_eq (first : List Node) (others : List (List Node)) :
    first :: others = (splitCommon first others).2.map ((splitCommon first others).1 ++ ·) := by
  induction first generalizing others with
  | nil => simp [splitCommon]
  | cons n rest ih =>
    rw [splitCommon]
    split
    · next h =>
      simp only [Bool.and_eq_true, List.all_eq_true, beq_iff_eq] at h
      have hothers : others = (others.map List.tail).map (n :: ·) := by
        rw [List.map_map]
        refine (List.map_id others).symm.trans (List.map_congr_left fun ns hns => ?_)
        obtain ⟨tail, rfl⟩ := List.head?_eq_some_iff.1 (h.2 ns hns)
        rfl
      conv_lhs => rw [hothers, ← List.map_cons (f := (n :: ·)), ih, List.map_map]
      rfl
    · simp

/-- A sequence that counts as a class is one. -/
theorem means_of_asItems? {items : List ClassItem} (h : asItems? ns = some items) :
    Means dotAll ns (one fun n => items.any (·.holds false n)) := by
  unfold asItems? at h
  split at h
  · obtain rfl := Option.some.inj h
    refine .single (.char _) ?_
    simp [language_char, ClassItem.holds]
  · obtain rfl := Option.some.inj h
    refine .single (.oneOf _ _) ?_
    simp [language_oneOf]
  · contradiction

theorem ofBranches_means (dotAll : Bool) {ns : List Node} (hne : ns ≠ []) (hregular : ∀ n ∈ ns, n.Regular) :
    (Node.ofBranches ns).Regular ∧ (Node.ofBranches ns).language { dotAll := dotAll } =
      (ns.map (·.language { dotAll := dotAll })).sum := by
  induction ns with
  | nil => contradiction
  | cons n rest ih =>
    obtain ⟨hn, hrest⟩ := List.forall_mem_cons.1 hregular
    cases rest with
    | nil => exact ⟨hn, by simp [Node.ofBranches]⟩
    | cons n' rest =>
      obtain ⟨hr, hl⟩ := ih (by simp) hrest
      refine ⟨.alt hn hr, ?_⟩
      show n.language _ + (Node.ofBranches (n' :: rest)).language _ = _
      rw [hl, List.map_cons (a := n), List.sum_cons]

theorem language_of_mapM_asItems? {left : List (List Node)} {classes : List (List ClassItem)}
    (h : left.mapM asItems? = some classes) :
    left.map (fun ns => (ns.map (·.language { dotAll := dotAll })).prod) =
      classes.map fun items => one fun n => items.any (·.holds false n) := by
  induction left generalizing classes with
  | nil =>
    obtain rfl : classes = [] := by simpa using h.symm
    rfl
  | cons ns rest ih =>
    simp only [List.mapM_cons, Option.bind_eq_bind, Option.bind_eq_some_iff, Option.pure_def,
      Option.some.injEq] at h
    obtain ⟨items, hitems, classes, hclasses, rfl⟩ := h
    rw [List.map_cons, List.map_cons, (means_of_asItems? hitems).language, ih hclasses]

/-- What is left of the branches as one node. -/
theorem means_rest (dotAll : Bool) {left : List (List Node)} (hne : left ≠ [])
    (hregular : ∀ ns ∈ left, ∀ n ∈ ns, n.Regular) :
    Means dotAll
      (match left.mapM asItems? with
        | some items => [.oneOf false items.flatten.eraseDups]
        | none => [Node.ofBranches (left.map Node.ofList)])
      (left.map fun ns => (ns.map (·.language { dotAll := dotAll })).prod).sum := by
  split
  · next classes h =>
    refine .single (.oneOf _ _) ?_
    rw [language_of_mapM_asItems? h, one_flatten, language_oneOf]
    simp only [any_eraseDups, Bool.bne_false]
  · have hofList : ∀ ns ∈ left, (Node.ofList ns).Regular ∧
        (Node.ofList ns).language { dotAll := dotAll } =
          (ns.map (·.language { dotAll := dotAll })).prod :=
      fun ns hns => Means.ofList ⟨hregular ns hns, rfl⟩
    have hnodes : ∀ n ∈ left.map Node.ofList, n.Regular := by
      intro n hn
      obtain ⟨ns, hns, rfl⟩ := List.mem_map.1 hn
      exact (hofList ns hns).1
    obtain ⟨hr, hl⟩ := ofBranches_means dotAll (by simpa using hne) hnodes
    refine .single hr ?_
    rw [hl, List.map_map]
    exact congrArg List.sum (List.map_congr_left fun ns hns => (hofList ns hns).2)

/-- Putting branches together keeps the words. -/
theorem means_branches {bs : List (List Node)} (h : MeansEither dotAll bs l) :
    Means dotAll (branches bs) l := by
  obtain ⟨hne, hregular, rfl⟩ := h
  cases bs with
  | nil => contradiction
  | cons first others =>
    cases others with
    | nil => exact ⟨hregular first (by simp), by simp [branches]⟩
    | cons second others =>
      have hsplit := splitCommon_eq first (second :: others)
      rw [branches]
      · generalize splitCommon first (second :: others) = split at hsplit ⊢
        obtain ⟨common, left⟩ := split
        simp only at hsplit ⊢
        have hleft : left ≠ [] := by
          rintro rfl
          simp at hsplit
        rw [hsplit] at hregular ⊢
        have hparts : ∀ ns ∈ left, ∀ n ∈ common ++ ns, n.Regular :=
          fun ns hns => hregular _ (List.mem_map_of_mem hns)
        have hcommon : ∀ n ∈ common, n.Regular := by
          obtain ⟨ns, hns⟩ := List.exists_mem_of_ne_nil left hleft
          exact fun n hn => hparts ns hns n (List.mem_append_left _ hn)
        have hrest := means_rest dotAll hleft
          fun ns hns n hn => hparts ns hns n (List.mem_append_right _ hn)
        have hwhole := Means.append ⟨hcommon, rfl⟩ hrest
        rw [← List.sum_map_mul_left] at hwhole
        simp only [List.map_map, Function.comp_def, List.map_append, List.prod_append]
        revert hwhole
        cases left.mapM asItems? <;> exact id
      · simp

end Reading

end PathPolicy.Regex
