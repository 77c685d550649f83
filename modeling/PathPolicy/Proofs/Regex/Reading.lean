import PathPolicy.Proofs.Regex.Escape
import PathPolicy.Proofs.Regex.Repeat

/-! Reading a whole expression: what is read stands for the words of the expression that is
written. The induction is on how the text is spelled; the reader's state grows by the groups of
each part, and its fuel is counted against the text that is left. -/

namespace PathPolicy.Regex

open scoped Computability

namespace Reading

variable {s s' s'' : ReadState} {c : Char} {cs r : List Char} {depth fuel : Nat}
  {first isStart : Bool} {pieces : List Piece}

/-! One step of a branch. -/

/-- A branch ends at a bar, a parenthesis or the end. -/
def Ends (r : List Char) : Prop := ∀ c ∈ r.head?, c = '|' ∨ c = ')'

/-- Branches end at a parenthesis or the end. -/
def Closes (r : List Char) : Prop := ∀ c ∈ r.head?, c = ')'

section

variable [CharacterNames]

theorem sequence_end (h : Ends r) :
    sequence depth false first pieces (fuel + 1) (s.at r) = .ok (flatten pieces, s.at r) := by
  rw [sequence, bind_ok peek_at]
  cases r with
  | nil => rfl
  | cons c r =>
    obtain rfl | rfl := h c rfl
    all_goals
      rw [tokenAt_cons (by decide)]
      rfl

theorem sequence_simple {token : Token} {next : List Piece} (htoken : tokenAt cs = some token)
    (hw : Whole (afterToken cs)) (hbar : token ≠ .char '|') (hclose : token ≠ .char ')')
    (hopen : token ≠ .char '(')
    (hstep : simplePiece token pieces (s.at (afterToken cs)) = .ok (next, s')) :
    sequence depth false first pieces (fuel + 1) (s.at cs) =
      sequence depth false first next fuel s' := by
  rw [sequence, bind_ok peek_at, htoken]
  simp only [beq_iff_eq, hbar, hclose, Bool.or_eq_true, or_self, if_false]
  rw [bind_ok (advance_at hw)]
  cases token with
  | char c =>
    have hc : c ≠ '(' := fun e => hopen (by rw [e])
    simp only [Bool.false_and, Bool.false_eq_true, if_false, hc]
    exact bind_ok hstep
  | escaped c => exact bind_ok hstep

theorem sequence_open {p : Piece} (hw : Whole cs)
    (hstep : opened depth false (first && pieces.isEmpty) fuel (s.at cs) = .ok (.part p, s')) :
    sequence depth false first pieces (fuel + 1) (s.at ('(' :: cs)) =
      sequence depth false first (p :: pieces) fuel s' := by
  rw [sequence, bind_ok peek_at, tokenAt_cons (by decide)]
  simp only [beq_iff_eq, Token.char.injEq, Char.reduceEq, Bool.or_eq_true, or_self, if_false]
  rw [bind_ok (advance_char (by decide) hw)]
  simp only [Bool.false_and, Bool.false_eq_true, if_false, if_true]
  rw [bind_ok hstep]

/-! Branches. -/

theorem alternation_last {done : List (List Node)} {ns : List Node} (hr : r.head? ≠ some '|')
    (hseq : sequence depth false (depth == 0 && done.isEmpty) [] fuel (s.at cs) = .ok (ns, s'.at r)) :
    alternation depth false done (fuel + 1) (s.at cs) = .ok (branches (done ++ [ns]), s'.at r) := by
  rw [alternation, bind_ok hseq]
  rw [bind_ok (accept_no hr)]
  rfl

theorem alternation_or {done : List (List Node)} {ns : List Node} (hr : Whole r)
    (hverbose : s'.flags.has .verbose = false)
    (hseq : sequence depth false (depth == 0 && done.isEmpty) [] fuel (s.at cs) =
      .ok (ns, s'.at ('|' :: r))) :
    alternation depth false done (fuel + 1) (s.at cs) =
      alternation depth false (done ++ [ns]) fuel (s'.at r) := by
  rw [alternation, bind_ok hseq]
  rw [bind_ok (accept_char (by decide) hr)]
  simp only [if_true]
  rw [bind_ok get_ok]
  have hflags : (s'.at r).flags.has .verbose = false := hverbose
  simp only [hflags, ite_self]

end

/-! Groups. -/

theorem not_mem_of_isIdentifier {name : List Char} (h : Text.isIdentifier name = true)
    (hstart : Text.identifierStartRanges.holds c.toNat = false)
    (hcontinue : Text.identifierContinueRanges.holds c.toNat = false) : c ∉ name := by
  cases name with
  | nil => simp
  | cons d rest =>
    simp only [Text.isIdentifier, Bool.and_eq_true, List.all_eq_true] at h
    obtain ⟨hd, hrest⟩ := h
    intro hmem
    rcases List.mem_cons.1 hmem with rfl | hmem
    · simp [hstart] at hd
    · exact absurd (hrest c hmem) (by simp [hcontinue])

theorem slash_not_mem_identifier {name : List Char} (h : Text.isIdentifier name = true) :
    '\\' ∉ name :=
  not_mem_of_isIdentifier h (by decide +kernel) (by decide +kernel)

theorem angle_not_mem_identifier {name : List Char} (h : Text.isIdentifier name = true) :
    '>' ∉ name :=
  not_mem_of_isIdentifier h (by decide +kernel) (by decide +kernel)

theorem heading_capturing (h : cs.head? ≠ some '?') :
    heading isStart (s.at cs) = .ok (.body (.capturing none), s.at cs) := by
  rw [heading, bind_ok (accept_no h)]
  rfl

theorem heading_plain (hw : Whole cs) :
    heading isStart (s.at ('?' :: ':' :: cs)) = .ok (.body (.scoped {}), s.at cs) := by
  rw [heading, bind_ok (accept_char (by decide) ((whole_cons (by decide)).2 hw))]
  simp only [Bool.not_true, Bool.false_eq_true, if_false]
  rw [bind_ok (take_char (by decide) hw)]
  rfl

theorem heading_named {name : List Char} (h : Text.isIdentifier name = true) (hw : Whole cs) :
    heading isStart (s.at ('?' :: 'P' :: '<' :: (name ++ '>' :: cs))) =
      .ok (.body (.capturing (some name)), s.at cs) := by
  have hslash := slash_not_mem_identifier h
  have hwhole : Whole (name ++ '>' :: cs) := (whole_append hslash).2 ((whole_cons (by decide)).2 hw)
  have hangle : Whole ('<' :: (name ++ '>' :: cs)) := (whole_cons (by decide)).2 hwhole
  have hne : name ≠ [] := by
    rintro rfl
    contradiction
  rw [heading, bind_ok (accept_char (by decide) ((whole_cons (by decide)).2 hangle))]
  simp only [Bool.not_true, Bool.false_eq_true, if_false]
  rw [bind_ok (take_char (by decide) hangle)]
  simp only [if_true, namedHeading]
  rw [bind_ok (accept_char (by decide) hwhole)]
  simp only [if_true]
  have hname : groupName '>' (s.at (name ++ '>' :: cs)) = .ok (name, s.at cs) := by
    rw [groupName, bind_ok (takeName_at (by decide) hslash (angle_not_mem_identifier h) hne hw)]
    simp [h, pure_ok]
  rw [bind_ok hname, pure_ok]

end Reading

/-! How the state of the reader grows. -/

/-- The names of the groups so far, last name first. -/
def ReadState.keys (s : ReadState) : List String := s.names.map (·.1)

/-- There is room for the expression: its counts, its groups and their names. -/
structure ReadState.Room (s : ReadState) (e : Expr) : Prop where
  verbose : s.flags.has .verbose = false
  counts : e.ModestCounts
  groups : s.widths.length + e.captures < Reading.largestGroup
  names : (e.names.reverse ++ s.keys).Nodup

/-- Reading the expression adds its groups and their names, and nothing else. -/
structure ReadState.Grown (s s' : ReadState) (e : Expr) : Prop where
  flags : s'.flags = s.flags
  conditions : s'.conditions = s.conditions
  groups : s'.widths.length = s.widths.length + e.captures
  keys : s'.keys = e.names.reverse ++ s.keys

namespace ReadState

variable {s s' s'' : ReadState} {a b e : Expr}

theorem Grown.refl (hc : e.captures = 0) (hn : e.names = []) : s.Grown s e :=
  ⟨rfl, rfl, by rw [hc]; rfl, by rw [hn]; rfl⟩

theorem Grown.cat (ha : s.Grown s' a) (hb : s'.Grown s'' b) : s.Grown s'' (.cat a b) where
  flags := hb.flags.trans ha.flags
  conditions := hb.conditions.trans ha.conditions
  groups := by rw [hb.groups, ha.groups, Expr.captures, Nat.add_assoc]
  keys := by rw [hb.keys, ha.keys, Expr.names, List.reverse_append, List.append_assoc]

theorem Grown.alt (ha : s.Grown s' a) (hb : s'.Grown s'' b) : s.Grown s'' (.alt a b) :=
  let h := ha.cat hb
  ⟨h.flags, h.conditions, h.groups, h.keys⟩

theorem Room.first (h : s.Room (.cat a b)) : s.Room a where
  verbose := h.verbose
  counts := h.counts.1
  groups := by
    have := h.groups
    simp only [Expr.captures] at this
    omega
  names := by
    have := h.names
    rw [Expr.names, List.reverse_append, List.append_assoc] at this
    exact (List.nodup_append.1 this).2.1

theorem Room.rest (h : s.Room (.cat a b)) (ha : s.Grown s' a) : s'.Room b where
  verbose := ha.flags ▸ h.verbose
  counts := h.counts.2
  groups := by
    have := h.groups
    rw [ha.groups]
    simp only [Expr.captures] at this
    omega
  names := by
    have := h.names
    rwa [Expr.names, List.reverse_append, List.append_assoc, ← ha.keys] at this

/-- Room for alternatives is room for the two in a row. -/
theorem Room.ofAlt (h : s.Room (.alt a b)) : s.Room (.cat a b) :=
  ⟨h.verbose, h.counts, h.groups, h.names⟩

theorem Room.body {isLazy : Bool} {q : Quantifier} (h : s.Room (.loop isLazy q e)) :
    s.Room e :=
  ⟨h.verbose, h.counts.2, h.groups, h.names⟩

theorem Grown.loop {isLazy : Bool} {q : Quantifier} (h : s.Grown s' e) :
    s.Grown s' (.loop isLazy q e) :=
  ⟨h.flags, h.conditions, h.groups, h.keys⟩

/-- The state after a group was opened. -/
def opening (s : ReadState) : Opening → ReadState
  | .plain => s
  | .capturing => { s with widths := s.widths ++ [none] }
  | .named name =>
    { s with
      widths := s.widths ++ [none]
      names := (String.ofList name, s.widths.length + 1) :: s.names }

theorem Room.opening {o : Opening} (h : s.Room (.group o e)) :
    (s.opening o).Room e where
  verbose := by cases o <;> exact h.verbose
  counts := h.counts
  groups := by
    have := h.groups
    cases o <;> simp [ReadState.opening, Expr.captures, Opening.captures] at this ⊢ <;> omega
  names := by
    have := h.names
    cases o <;> simpa [ReadState.opening, ReadState.keys, Expr.names, Opening.names] using this

theorem Grown.group {o : Opening} (h : (s.opening o).Grown s' e) : s.Grown s' (.group o e) where
  flags := by
    have := h.flags
    cases o <;> exact this
  conditions := by
    have := h.conditions
    cases o <;> exact this
  groups := by
    have := h.groups
    rw [this]
    cases o <;> simp [ReadState.opening, Expr.captures, Opening.captures] <;> omega
  keys := by
    have := h.keys
    rw [this]
    cases o <;> simp [ReadState.opening, ReadState.keys, Expr.names, Opening.names]

/-- The state after a group was closed: its width is known. -/
def closed (s : ReadState) (index : Nat) (body : Node) : ReadState :=
  { s with widths := s.widths.set (index - 1) (some (body.widthIn (Reading.closedGroups s))) }

theorem Grown.closed (h : s.Grown s' e) (index : Nat) (body : Node) :
    s.Grown (s'.closed index body) e :=
  ⟨h.flags, h.conditions, List.length_set.trans h.groups, h.keys⟩

end ReadState

namespace Reading

variable {s s' : ReadState} {cs inside r : List Char} {depth fuel : Nat} {isStart dotAll : Bool}
  {ns : List Node} {l : Language Char} {e : Expr}

theorem lookup_eq_none_of_keys {name : String} (h : name ∉ s.keys) : s.names.lookup name = none := by
  rw [List.lookup_eq_none_iff]
  intro p hp
  rw [bne_iff_ne]
  rintro rfl
  exact h (List.mem_map_of_mem hp)

theorem openGroup_unnamed (h : s.Room (.group .capturing e)) :
    openGroup none (s.at cs) = .ok (s.widths.length + 1, (s.opening .capturing).at cs) := by
  have hgroups := h.groups
  simp only [Expr.captures, Opening.captures] at hgroups
  have hcount : ¬ largestGroup < groupCount (s.at cs) + 1 := by
    show ¬ largestGroup < s.widths.length + 1 + 1
    omega
  rw [openGroup, bind_ok get_ok]
  simp only [hcount, if_false]
  rfl

theorem openGroup_named {name : List Char} (h : s.Room (.group (.named name) e)) :
    openGroup (some name) (s.at cs) =
      .ok (s.widths.length + 1, (s.opening (.named name)).at cs) := by
  have hgroups := h.groups
  simp only [Expr.captures, Opening.captures] at hgroups
  have hcount : ¬ largestGroup < groupCount (s.at cs) + 1 := by
    show ¬ largestGroup < s.widths.length + 1 + 1
    omega
  have hfresh : ((s.at cs).names.lookup (String.ofList name)).isSome = false := by
    have hnames := h.names
    simp only [Expr.names, Opening.names, List.singleton_append, List.reverse_cons,
      List.append_assoc, List.singleton_append] at hnames
    have hnew := (List.nodup_cons.1 (List.nodup_append.1 hnames).2.1).1
    show (s.names.lookup (String.ofList name)).isSome = false
    rw [lookup_eq_none_of_keys hnew]
    rfl
  rw [openGroup, bind_ok get_ok]
  simp only [hcount, if_false, hfresh, Bool.false_eq_true]
  rfl

theorem expectClose_at (hr : Whole r) : expectClose (s.at (')' :: r)) = .ok ((), s.at r) := by
  rw [expectClose, bind_ok (accept_char (by decide) hr)]
  rfl

/-- A group is read if its body is. -/
theorem opened_at [CharacterNames] (isStart : Bool) {o : Opening} (hroom : s.Room (.group o e))
    (hfits : o.Fits cs) (hcs : o.text ++ cs = '(' :: inside) (hw : Whole cs) (hr : Whole r)
    (halt : alternation (depth + 1) false [] fuel ((s.opening o).at cs) = .ok (ns, s'.at (')' :: r)))
    (hgrown : (s.opening o).Grown s' e) (hns : Means dotAll ns l) :
    ∃ s'' p, s.Grown s'' (.group o e) ∧ Repeats dotAll p l ∧
      opened depth false isStart (fuel + 1) (s.at inside) = .ok (.part p, s''.at r) := by
  obtain ⟨hregular, hlanguage⟩ := hns.ofList
  have hgroup : ∀ index, (Node.group index {} (Node.ofList ns)).language { dotAll := dotAll } = l := by
    intro index
    rw [Node.language, Scope.enter_plain, hlanguage]
  cases o with
  | plain =>
    obtain rfl : '?' :: ':' :: cs = inside := (List.cons.inj hcs).2
    refine ⟨s', _, hgrown.group, repeats_inlined hns, ?_⟩
    rw [opened, bind_ok (heading_plain hw)]
    dsimp only
    rw [show Scope.setting {} .verbose false = false from rfl, bind_ok (s := s.at cs) halt,
      bind_ok (expectClose_at hr)]
    rfl
  | capturing =>
    obtain rfl : cs = inside := (List.cons.inj hcs).2
    refine ⟨_, _, hgrown.group.closed (s.widths.length + 1) (Node.ofList ns),
      repeats_node rfl rfl (.single (.group (some (s.widths.length + 1)) {} hregular) (hgroup _)), ?_⟩
    rw [opened, bind_ok (heading_capturing hfits)]
    dsimp only
    rw [bind_ok (openGroup_unnamed hroom), bind_ok halt, bind_ok (expectClose_at hr)]
    rfl
  | named name =>
    obtain rfl : '?' :: 'P' :: '<' :: (name ++ '>' :: cs) = inside := by
      simpa [Opening.text] using hcs
    refine ⟨_, _, hgrown.group.closed (s.widths.length + 1) (Node.ofList ns),
      repeats_node rfl rfl (.single (.group (some (s.widths.length + 1)) {} hregular) (hgroup _)), ?_⟩
    rw [opened, bind_ok (heading_named hfits hw)]
    dsimp only
    rw [bind_ok (openGroup_named hroom), bind_ok halt, bind_ok (expectClose_at hr)]
    rfl

end Reading

/-! Spelled texts. -/

namespace Spells

variable {e : Expr} {cs r : List Char}

theorem ne_of_not_isSpecial {c d : Char} (h : isSpecial c = false) (hd : isSpecial d = true) :
    c ≠ d := by
  rintro rfl
  rw [hd] at h
  contradiction

theorem slash_not_mem_text {q : Quantifier} (hq : q.Written) : '\\' ∉ q.text := by
  have hcounts : ∀ ds ∈ q.counts, '\\' ∉ ds := by
    intro ds hds hmem
    exact absurd (hq.digits ds hds _ hmem) (by decide)
  cases q with
  | star => decide
  | plus => decide
  | optional => decide
  | counted lo hi => cases hi <;> simp_all [Quantifier.text, Quantifier.counts]

theorem slash_not_mem_opening {o : Opening} (h : o.Fits cs) : '\\' ∉ o.text := by
  cases o with
  | plain => decide
  | capturing => decide
  | named name =>
    have := Reading.slash_not_mem_identifier h
    simp [Opening.text, this]

section

variable [CharacterNames] {level : Level}

theorem whole (h : Spells level e cs r) (hr : Whole r) : Whole cs := by
  induction h with
  | char r hc => exact (whole_cons (ne_of_not_isSpecial hc (by decide))).2 hr
  | brace _ => exact (whole_cons (by decide)).2 hr
  | escape he _ => exact Reading.whole_escapeText he hr
  | octal ho _ => exact Reading.whole_itemText (.octal ho) hr
  | category r _ => exact hr
  | any r => exact (whole_cons (by decide)).2 hr
  | oneOf hitems _ => exact (whole_cons (by decide)).2 (Reading.whole_classText hitems hr)
  | notOneOf hitems =>
    exact (whole_cons (by decide)).2 ((whole_cons (by decide)).2 (Reading.whole_classText hitems hr))
  | group o hfits _ ih =>
    exact (whole_append (slash_not_mem_opening hfits)).2 (ih ((whole_cons (by decide)).2 hr))
  | once _ ih => exact ih hr
  | greedy hq _ _ _ _ ih => exact ih ((whole_append (slash_not_mem_text hq)).2 hr)
  | lazy hq _ _ ih =>
    exact ih ((whole_append (slash_not_mem_text hq)).2 ((whole_cons (by decide)).2 hr))
  | nil r => exact hr
  | cons _ _ iha ihb => exact iha (ihb hr)
  | last _ ih => exact ih hr
  | or _ _ iha ihb => exact iha ((whole_cons (by decide)).2 (ihb hr))

theorem length_le (h : Spells level e cs r) : r.length ≤ cs.length := by
  induction h with
  | char r _ => simp
  | brace _ => simp
  | escape he _ => exact (Reading.length_escapeText he).le.trans (by simp)
  | octal ho _ => exact (Reading.length_itemText (.octal ho)).le
  | category r _ => exact (r.length.le_add_right 2)
  | any r => simp
  | oneOf hitems _ => exact (Reading.length_classText hitems).le.trans (by simp)
  | @notOneOf _ cs _ hitems =>
    exact (Reading.length_classText hitems).le.trans (cs.length.le_add_right 2)
  | group o _ _ ih =>
    simp only [List.length_append, List.length_cons] at *
    omega
  | once _ ih => exact ih
  | greedy _ _ _ _ _ ih => exact le_trans (by simp) ih
  | lazy _ _ _ ih => exact le_trans (by simp; omega) ih
  | nil r => exact le_rfl
  | cons _ _ iha ihb => exact ihb.trans iha
  | last _ ih => exact ih
  | or _ _ iha ihb => exact ihb.trans (le_trans (by simp) iha)

end

end Spells

namespace Reading

variable {s s' : ReadState} {c : Char} {cs r : List Char} {depth fuel : Nat} {first dotAll : Bool}
  {pieces : List Piece} {l : Language Char} {e : Expr}

theorem repeatPiece_at (pieces : List Piece) {sign : Char} {p : Piece} {q : Quantifier} {g : Greed} {r' : List Char}
    (hp : Repeats dotAll p l) (hq : q.Written) (hm : q.Modest)
    (hb : ∀ top ∈ q.most, q.least ≤ top) (hw : Whole r') (hcs : q.text ++ r' = sign :: cs)
    (hgreed : greed (s.at r') = .ok (g, s.at r)) (hg : g ≠ .possessive) :
    ∃ n, repeatPiece sign (p :: pieces) (s.at cs) = .ok (.node n :: pieces, s.at r) ∧
      Means dotAll [n] (rounds l q.least q.most) := by
  obtain ⟨n, hrepeated, hmeans⟩ := hp.repeated
  have hregular := hmeans.regular n (by simp)
  have hlanguage : n.language { dotAll := dotAll } = l := by simpa using hmeans.language
  refine ⟨.loop g q.least q.most n, ?_, .single (.loop hg hb hregular) ?_⟩
  · rw [repeatPiece, bind_ok (bounds?_at hq hm hb hw hcs)]
    simp only
    rw [bind_ok (hrepeated _), bind_ok hgreed, pure_ok]
  · rw [Node.language, hlanguage]

theorem flatten_nil : flatten [] = [] := rfl

theorem flatten_cons (p : Piece) (pieces : List Piece) :
    flatten (p :: pieces) = flatten pieces ++ p.parts := by
  simp [flatten]

variable [CharacterNames]

/-- What reading a text does that spells an expression. A part of a branch becomes a piece, a
branch becomes nodes, and branches are put together in the end. -/
def Reads (dotAll : Bool) : Level → Expr → List Char → List Char → Prop
  | .atom, e, cs, r =>
    ∀ ⦃s : ReadState⦄ ⦃depth : Nat⦄ (first : Bool) (pieces : List Piece) (fuel : Nat),
      s.Room e → 3 * cs.length + 1 ≤ fuel →
      ∃ s' p fuel', s.Grown s' e ∧ Repeats dotAll p (e.language dotAll) ∧
        3 * r.length + 1 ≤ fuel' ∧
        sequence depth false first pieces fuel (s.at cs) =
          sequence depth false first (p :: pieces) fuel' (s'.at r)
  | .piece, e, cs, r =>
    ∀ ⦃s : ReadState⦄ ⦃depth : Nat⦄ (first : Bool) (pieces : List Piece) (fuel : Nat),
      s.Room e → 3 * cs.length + 1 ≤ fuel →
      ∃ s' p fuel', s.Grown s' e ∧ Means dotAll p.parts (e.language dotAll) ∧
        3 * r.length + 1 ≤ fuel' ∧
        sequence depth false first pieces fuel (s.at cs) =
          sequence depth false first (p :: pieces) fuel' (s'.at r)
  | .branch, e, cs, r => Ends r →
    ∀ ⦃s : ReadState⦄ ⦃depth : Nat⦄ (first : Bool) (pieces : List Piece) (fuel : Nat),
      s.Room e → 3 * cs.length + 1 ≤ fuel →
      ∃ s' ns, s.Grown s' e ∧ Means dotAll ns (e.language dotAll) ∧
        sequence depth false first pieces fuel (s.at cs) = .ok (flatten pieces ++ ns, s'.at r)
  | .branches, e, cs, r => Closes r →
    ∀ ⦃s : ReadState⦄ ⦃depth : Nat⦄ (done : List (List Node)) (fuel : Nat),
      s.Room e → 3 * cs.length + 2 ≤ fuel →
      ∃ s' bs, s.Grown s' e ∧ MeansEither dotAll bs (e.language dotAll) ∧
        alternation depth false done fuel (s.at cs) = .ok (branches (done ++ bs), s'.at r)

/-- A part that is read in one step and opens no group. -/
theorem reads_simple {token : Token} {n : Node} (htoken : tokenAt cs = some token)
    (hw : Whole (afterToken cs)) (hbar : token ≠ .char '|') (hclose : token ≠ .char ')')
    (hopen : token ≠ .char '(')
    (hstep : ∀ (s : ReadState) pieces, simplePiece token pieces (s.at (afterToken cs)) =
      .ok (.node n :: pieces, s.at r))
    (hlen : r.length < cs.length) (hc : e.captures = 0) (hn : e.names = [])
    (hmeans : Repeats dotAll (.node n) (e.language dotAll)) : Reads dotAll .atom e cs r := by
  intro s depth first pieces fuel hroom hfuel
  obtain ⟨fuel, rfl⟩ := Nat.exists_eq_add_of_le' (show 1 ≤ fuel by omega)
  exact ⟨s, .node n, fuel, .refl hc hn, hmeans, by omega,
    sequence_simple htoken hw hbar hclose hopen (hstep s pieces)⟩

/-- The signs of a quantifier are read as rounds of the piece before them. -/
theorem reads_loop {q : Quantifier} {isLazy : Bool} {g : Greed} {r' : List Char}
    (hq : q.Written) (hb : ∀ top ∈ q.most, q.least ≤ top) (hg : g ≠ .possessive)
    (hgreed : ∀ s : ReadState, greed (s.at r') = .ok (g, s.at r)) (hw : Whole r')
    (hlen : r.length ≤ r'.length) (h : Reads dotAll .atom e cs (q.text ++ r')) :
    Reads dotAll .piece (.loop isLazy q e) cs r := by
  intro s depth first pieces fuel hroom hfuel
  obtain ⟨s', p, fuel', hgrown, hp, hfuel', hseq⟩ :=
    h first pieces fuel hroom.body hfuel
  obtain ⟨sign, tail, htext⟩ : ∃ sign tail, q.text ++ r' = sign :: tail := by
    rcases q with _ | _ | _ | ⟨lo, _ | hi⟩ <;> exact ⟨_, _, rfl⟩
  have hsign := sign_of_text htext
  have hslash : sign ≠ '\\' := by
    rintro rfl
    simp at hsign
  have hwhole : Whole (sign :: tail) := htext ▸ (whole_append (Spells.slash_not_mem_text hq)).2 hw
  have hcounts : q.Modest := hroom.counts.1
  obtain ⟨n, hstep, hmeans⟩ :=
    repeatPiece_at pieces hp hq hcounts hb hw htext (hgreed s') hg
  have hsimple : simplePiece (.char sign) (p :: pieces) (s'.at tail) =
      .ok (.node n :: pieces, s'.at r) := by
    rw [← hstep]
    rcases hsign with rfl | rfl | rfl | rfl <;> rfl
  have hlen' : r'.length < (sign :: tail).length := by
    rw [← htext, List.length_append]
    rcases q with _ | _ | _ | ⟨lo, _ | hi⟩ <;> simp [Quantifier.text]
  rw [htext] at hseq hfuel'
  obtain ⟨fuel', rfl⟩ := Nat.exists_eq_add_of_le' (show 1 ≤ fuel' by omega)
  refine ⟨s', .node n, fuel', hgrown.loop, hmeans, by omega, ?_⟩
  rw [hseq]
  refine sequence_simple (tokenAt_cons hslash) ?_ ?_ ?_ ?_ ?_
  · rwa [afterToken_cons hslash, ← whole_cons hslash]
  · rcases hsign with rfl | rfl | rfl | rfl <;> decide
  · rcases hsign with rfl | rfl | rfl | rfl <;> decide
  · rcases hsign with rfl | rfl | rfl | rfl <;> decide
  · rwa [afterToken_cons hslash]

/-- A character outside a class that is read in one step. -/
theorem reads_char {n : Node} (hslash : c ≠ '\\') (hbar : c ≠ '|') (hclose : c ≠ ')')
    (hopen : c ≠ '(') (hr : Whole cs)
    (hstep : ∀ (s : ReadState) pieces, simplePiece (.char c) pieces (s.at cs) =
      .ok (.node n :: pieces, s.at r))
    (hlen : r.length ≤ cs.length) (hc : e.captures = 0) (hn : e.names = [])
    (hmeans : Repeats dotAll (.node n) (e.language dotAll)) : Reads dotAll .atom e (c :: cs) r := by
  refine reads_simple (tokenAt_cons hslash) ?_ (by simpa) (by simpa) (by simpa)
    ?_ (by simp; omega) hc hn hmeans
  · rwa [afterToken_cons hslash]
  · simpa only [afterToken_cons hslash] using hstep

/-- An escape outside a class. -/
theorem reads_escape {n : Node} (hr : Whole cs)
    (hstep : ∀ s : ReadState, escape c (s.at cs) = .ok (n, s.at r))
    (hlen : r.length ≤ cs.length) (hc : e.captures = 0) (hn : e.names = [])
    (hmeans : Repeats dotAll (.node n) (e.language dotAll)) :
    Reads dotAll .atom e ('\\' :: c :: cs) r := by
  have htoken : tokenAt ('\\' :: c :: cs) = some (.escaped c) := rfl
  refine reads_simple htoken hr (by simp) (by simp) (by simp)
    (fun s pieces => ?_) (by simp; omega) hc hn hmeans
  show simplePiece (.escaped c) pieces (s.at cs) = _
  rw [simplePiece, bind_ok (hstep s), pure_ok]

/-- A group is read if what stands inside it is. -/
theorem reads_group {o : Opening} (hfits : o.Fits cs) (hw : Whole cs) (hr : Whole r)
    (hlen : r.length < cs.length) (h : Reads dotAll .branches e cs (')' :: r)) :
    Reads dotAll .atom (.group o e) (o.text ++ cs) r := by
  intro s depth first pieces fuel hroom hfuel
  obtain ⟨inside, hinside⟩ : ∃ inside, o.text ++ cs = '(' :: inside := by
    cases o <;> exact ⟨_, rfl⟩
  have hopening : 1 ≤ o.text.length := by cases o <;> simp [Opening.text]
  simp only [List.length_append] at hfuel
  obtain ⟨fuel, rfl⟩ := Nat.exists_eq_add_of_le' (show 2 ≤ fuel by omega)
  obtain ⟨s', bs, hgrown, hbs, halt⟩ := h (by simp [Closes]) [] fuel hroom.opening (by omega)
  obtain ⟨s'', p, hgrown', hp, hopened⟩ := opened_at (first && pieces.isEmpty) hroom hfits hinside
    hw hr halt hgrown (means_branches hbs)
  have hinsideWhole : Whole inside := by
    have := (whole_append (Spells.slash_not_mem_opening hfits)).2 hw
    rwa [hinside, whole_cons (by decide)] at this
  refine ⟨s'', p, fuel + 1, hgrown', hp, by omega, ?_⟩
  rw [hinside]
  exact sequence_open hinsideWhole hopened

theorem reads_once (h : Reads dotAll .atom e cs r) : Reads dotAll .piece e cs r := by
  intro s depth first pieces fuel hroom hfuel
  obtain ⟨s', p, fuel', hgrown, hp, hfuel', hseq⟩ := h first pieces fuel hroom hfuel
  exact ⟨s', p, fuel', hgrown, hp.parts, hfuel', hseq⟩

section

variable {a b : Expr} {r' : List Char}

theorem reads_nil : Reads dotAll .branch .empty r r := by
  intro hends s depth first pieces fuel hroom hfuel
  obtain ⟨fuel, rfl⟩ := Nat.exists_eq_add_of_le' (show 1 ≤ fuel by omega)
  exact ⟨s, [], .refl rfl rfl, .nil, by rw [sequence_end hends, List.append_nil]⟩

theorem reads_cons (ha : Reads dotAll .piece a cs r) (hb : Reads dotAll .branch b r r') :
    Reads dotAll .branch (.cat a b) cs r' := by
  intro hends s depth first pieces fuel hroom hfuel
  obtain ⟨s₁, p, fuel₁, hgrown₁, hp, hfuel₁, hseq₁⟩ := ha first pieces fuel hroom.first hfuel
  obtain ⟨s₂, ns, hgrown₂, hns, hseq₂⟩ :=
    hb hends first (p :: pieces) fuel₁ (hroom.rest hgrown₁) hfuel₁
  refine ⟨s₂, p.parts ++ ns, hgrown₁.cat hgrown₂, hp.append hns, ?_⟩
  rw [hseq₁, hseq₂, flatten_cons, List.append_assoc]

theorem reads_last (h : Reads dotAll .branch e cs r) : Reads dotAll .branches e cs r := by
  intro hcloses s depth done fuel hroom hfuel
  obtain ⟨fuel, rfl⟩ := Nat.exists_eq_add_of_le' (show 1 ≤ fuel by omega)
  obtain ⟨s', ns, hgrown, hns, hseq⟩ := h (fun c hc => .inr (hcloses c hc))
    (depth == 0 && done.isEmpty) [] fuel hroom (by omega)
  have hbar : r.head? ≠ some '|' := fun e => by simpa using hcloses _ e
  exact ⟨s', [ns], hgrown, ⟨by simp, by simpa using hns.regular, by simpa using hns.language⟩,
    alternation_last hbar hseq⟩

theorem reads_or (hw : Whole r) (hlen : r.length < cs.length)
    (ha : Reads dotAll .branch a cs ('|' :: r)) (hb : Reads dotAll .branches b r r') :
    Reads dotAll .branches (.alt a b) cs r' := by
  intro hcloses s depth done fuel hroom hfuel
  obtain ⟨fuel, rfl⟩ := Nat.exists_eq_add_of_le' (show 1 ≤ fuel by omega)
  obtain ⟨s₁, ns, hgrown₁, hns, hseq⟩ := ha (by simp [Ends]) (depth == 0 && done.isEmpty) [] fuel
    hroom.ofAlt.first (by omega)
  have hrest := hroom.ofAlt.rest hgrown₁
  obtain ⟨s₂, bs, hgrown₂, hbs, halt⟩ := hb hcloses (done ++ [ns]) fuel hrest (by omega)
  refine ⟨s₂, ns :: bs, hgrown₁.alt hgrown₂, ?_, ?_⟩
  · refine ⟨by simp, List.forall_mem_cons.2 ⟨hns.regular, hbs.regular⟩, ?_⟩
    rw [List.map_cons, List.sum_cons, hns.language, hbs.language]
    rfl
  · rw [flatten_nil, List.nil_append] at hseq
    rw [alternation_or hw hrest.verbose hseq, halt, List.append_assoc, List.singleton_append]

end

/-- Whatever spells an expression is read as it. -/
theorem reads_of_spells (dotAll : Bool) {level : Level} (h : Spells level e cs r) (hr : Whole r) :
    Reads dotAll level e cs r := by
  induction h with
  | @char c r hc =>
    have hne : ∀ {d}, isSpecial d = true → c ≠ d := Spells.ne_of_not_isSpecial hc
    refine reads_char (hne (by decide)) (hne (by decide)) (hne (by decide)) (hne (by decide)) hr
      (fun s pieces => ?_) le_rfl rfl rfl (repeats_char _)
    rw [simplePiece, if_neg (hne (by decide)), if_neg ?_, if_neg (hne (by decide)),
      if_neg (hne (by decide)), if_neg (hne (by decide)), pure_ok]
    simp [hne (show isSpecial '*' = true by decide), hne (show isSpecial '+' = true by decide),
      hne (show isSpecial '?' = true by decide), hne (show isSpecial '\x7b' = true by decide)]
  | @brace r hno =>
    refine reads_char (by decide) (by decide) (by decide) (by decide) hr (fun s pieces => ?_) le_rfl
      rfl rfl (repeats_char _)
    show repeatPiece '\x7b' pieces (s.at r) = _
    rw [repeatPiece]
    exact bind_ok (braces?_none hr hno)
  | @escape code cs r he hb =>
    obtain ⟨c, cs, rfl⟩ : ∃ c cs', cs = c :: cs' := by cases he <;> exact ⟨_, _, rfl⟩
    have hlen := length_escapeText he
    exact reads_escape (whole_escapeText he hr)
      (fun s => escape_text he (by simpa using hb) hr) (by simpa using hlen) rfl rfl (repeats_char _)
  | @octal ds r ho houtside =>
    obtain ⟨c, ds, rfl, -, hds, -⟩ := cons_of_octal ho
    exact reads_escape (whole_append_of_kind (by decide) hds hr)
      (fun s => escape_octal ho hr (by simpa using houtside)) (by simp) rfl rfl (repeats_char _)
  | category r hkind =>
    exact reads_escape hr (fun s => escape_category hkind) le_rfl rfl rfl (repeats_oneOf _ _)
  | any r =>
    exact reads_char (by decide) (by decide) (by decide) (by decide) hr (fun s pieces => rfl) le_rfl
      rfl rfl (repeats_node rfl rfl (.single .any rfl))
  | @oneOf items cs r hitems hfirst =>
    refine reads_char (by decide) (by decide) (by decide) (by decide) (whole_classText hitems hr)
      (fun s pieces => ?_) (length_classText hitems).le rfl rfl (repeats_classNode false items)
    exact bind_ok (characterClass_at hitems hr (accept_no hfirst))
  | @notOneOf items cs r hitems =>
    have hw := whole_classText hitems hr
    refine reads_char (by decide) (by decide) (by decide) (by decide)
      ((whole_cons (by decide)).2 hw) (fun s pieces => ?_)
      ((length_classText hitems).le.trans (by simp)) rfl rfl (repeats_classNode true items)
    exact bind_ok (characterClass_at hitems hr (accept_char (by decide) hw))
  | @group e cs r o hfits hbody ih =>
    have hw := (whole_cons (c := ')') (by decide)).2 hr
    have hlen : r.length < cs.length := hbody.length_le
    exact reads_group hfits (hbody.whole hw) hr hlen (ih hw)
  | once _ ih => exact reads_once (ih hr)
  | greedy hq hb hlazy hpossessive _ ih =>
    exact reads_loop hq hb (by decide) (fun _ => greed_greedy hlazy hpossessive) hr le_rfl
      (ih ((whole_append (Spells.slash_not_mem_text hq)).2 hr))
  | lazy hq hb _ ih =>
    have hw := (whole_cons (c := '?') (by decide)).2 hr
    exact reads_loop hq hb (by decide) (fun _ => greed_lazy hr) hw (by simp)
      (ih ((whole_append (Spells.slash_not_mem_text hq)).2 hw))
  | nil r => exact reads_nil
  | cons _ hrest iha ihb => exact reads_cons (iha (hrest.whole hr)) (ihb hr)
  | last _ ih => exact reads_last (ih hr)
  | @or a b cs r r' hbranch hrest iha ihb =>
    have hw := hrest.whole hr
    have hlen : r.length < cs.length := hbranch.length_le
    exact reads_or hw hlen (iha ((whole_cons (by decide)).2 hw)) (ihb hr)

end Reading

end PathPolicy.Regex
