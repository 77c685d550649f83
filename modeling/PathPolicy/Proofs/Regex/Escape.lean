import PathPolicy.Proofs.Regex.Cursor
import PathPolicy.Proofs.Regex.Nodes

/-! Reading escapes and classes: each is read as what it stands for. -/

namespace PathPolicy.Regex

namespace Reading

variable {s s' : ReadState} {c : Char} {code : Nat} {cs cs' r : List Char}

/-! Which letters are escapes. -/

theorem isAsciiAlpha_of_category? {kind : Category} (h : category? c = some kind) :
    isAsciiAlpha c = true := by
  unfold category? at h
  split at h <;> first | rfl | contradiction

theorem isAsciiAlpha_of_anchor? {a : Anchor} (h : anchor? c = some a) : isAsciiAlpha c = true := by
  unfold anchor? at h
  split at h <;> first | rfl | contradiction

theorem category?_eq_none (h : isAsciiAlpha c = false) : category? c = none := by
  refine Option.eq_none_iff_forall_ne_some.2 fun kind hk => ?_
  rw [isAsciiAlpha_of_category? hk] at h
  contradiction

theorem anchor?_eq_none (h : isAsciiAlpha c = false) : anchor? c = none := by
  refine Option.eq_none_iff_forall_ne_some.2 fun a ha => ?_
  rw [isAsciiAlpha_of_anchor? ha] at h
  contradiction

theorem isAsciiAlpha_of_isDigit (h : c.isDigit = true) : isAsciiAlpha c = false := by
  simp only [Char.isDigit, Bool.and_eq_true, decide_eq_true_eq, ge_iff_le,
    UInt32.le_iff_toNat_le] at h
  simp only [isAsciiAlpha, Char.isUpper, Char.isLower, Bool.or_eq_false_iff, Bool.and_eq_false_iff,
    decide_eq_false_iff_not, ge_iff_le, UInt32.le_iff_toNat_le]
  have : ('0' : Char).val.toNat = 48 := rfl
  have : ('9' : Char).val.toNat = 57 := rfl
  have : ('A' : Char).val.toNat = 65 := rfl
  have : ('a' : Char).val.toNat = 97 := rfl
  omega

theorem isDigit_of_isOctal (h : isOctal c = true) : c.isDigit = true := by
  simp only [isOctal, Bool.and_eq_true, decide_eq_true_eq, Char.le_def,
    UInt32.le_iff_toNat_le] at h
  simp only [Char.isDigit, Bool.and_eq_true, decide_eq_true_eq, ge_iff_le, UInt32.le_iff_toNat_le]
  have : ('7' : Char).val.toNat = 55 := rfl
  have : ('9' : Char).val.toNat = 57 := rfl
  omega

theorem control?_of_isDigit (h : c.isDigit = true) : control? c = none := by
  unfold control?
  split <;> first | rfl | exact absurd h (by decide)

theorem hexCode_at {digits : List Char} (hdigits : ∀ c ∈ digits, isHex c = true)
    (hvalue : digitsValue 16 digits ≤ 0x10FFFF) (hr : Whole r) :
    hexCode digits.length (s.at (digits ++ r)) = .ok (digitsValue 16 digits, s.at r) := by
  rw [hexCode, bind_ok (takeWhile_at (by decide) hdigits hr (.inl rfl))]
  simp only [bne_self_eq_false, Bool.false_eq_true, if_false]
  rw [if_neg (by omega), pure_ok]

theorem cons_of_octal {ds : List Char} (h : Octal ds r) : ∃ c ds', ds = c :: ds' ∧
    isOctal c = true ∧ (∀ d ∈ ds', isOctal d = true) ∧
    (ds'.length = 2 ∨ ds'.length < 2 ∧ ∀ d ∈ r.head?, isOctal d = false) := by
  obtain ⟨hdigits, hne, hcomplete, -⟩ := h
  obtain ⟨c, ds', rfl⟩ := List.exists_cons_of_ne_nil hne
  obtain ⟨hc, hds⟩ := List.forall_mem_cons.1 hdigits
  refine ⟨c, ds', rfl, hc, hds, ?_⟩
  rcases hcomplete with hlen | ⟨hlen, hstop⟩
  · exact .inl (by simpa using hlen)
  · exact .inr ⟨Nat.lt_of_succ_lt_succ hlen, hstop⟩

/-- A bracket ends the class only after the first item. -/
theorem not_closes {token : Token} {done : List ClassItem} (htoken : tokenAt cs = some token)
    (h : done.isEmpty = true ∨ cs.head? ≠ some ']') :
    ¬ (token == .char ']' && !done.isEmpty) = true := by
  intro hclose
  simp only [Bool.and_eq_true, beq_iff_eq, Bool.not_eq_true'] at hclose
  obtain ⟨rfl, hdone⟩ := hclose
  rcases h with h | h
  · simp [h] at hdone
  · exact h (head?_of_tokenAt htoken)

/-! The nodes of characters and classes. -/

variable {dotAll negated : Bool}

theorem repeats_char (code : Nat) : Repeats dotAll (.node (.char code)) (one (· == code)) :=
  repeats_node rfl rfl (.single (.char code) rfl)

theorem repeats_oneOf (negated : Bool) (items : List ClassItem) :
    Repeats dotAll (.node (.oneOf negated items))
      (one fun n => items.any (·.holds false n) != negated) :=
  repeats_node rfl rfl (.single (.oneOf negated items) rfl)

/-- The node of a class. With one character it is that character, or all others. -/
def classNode (negated : Bool) (distinct : List ClassItem) : Node :=
  match distinct with
  | [.char code] => if negated then .notChar code else .char code
  | distinct => .oneOf negated distinct

theorem repeats_classNode (negated : Bool) (items : List ClassItem) :
    Repeats dotAll (.node (classNode negated items.eraseDups))
      (one fun n => items.any (·.holds false n) != negated) := by
  simp only [← any_eraseDups items]
  unfold classNode
  split
  · next code hitems =>
    rw [hitems]
    cases negated with
    | false => simpa [ClassItem.holds] using repeats_char code
    | true =>
      refine repeats_node rfl rfl (.single (.notChar code) ?_)
      simp [Node.language, charHolds, ClassItem.holds]
  · exact repeats_oneOf negated _

/-! Escapes. -/

variable [CharacterNames]

theorem namedCode_at {name : List Char} (hne : name ≠ []) (hbrace : '\x7d' ∉ name)
    (hslash : '\\' ∉ name) (hcode : CharacterNames.codeOf? name = some code) (hr : Whole r) :
    namedCode (s.at ('\x7b' :: (name ++ '\x7d' :: r))) = .ok (code, s.at r) := by
  have hwhole : Whole (name ++ '\x7d' :: r) :=
    (whole_append hslash).2 ((whole_cons (by decide)).2 hr)
  rw [namedCode, bind_ok (accept_char (by decide) hwhole)]
  simp only [Bool.not_true, Bool.false_eq_true, if_false]
  rw [bind_ok (takeName_at (by decide) hslash hbrace hne hr), hcode]
  rfl

/-- An escape that means the same everywhere is either a control character or read as such. -/
theorem plainEscape_at (h : EscapeText code (c :: cs) r) (hr : Whole r) :
    control? c = some code ∧ cs = r ∨
      control? c = none ∧ plainEscape c (s.at cs) = .ok (code, s.at r) := by
  cases h with
  | control r hc => exact .inl ⟨hc, rfl⟩
  | sign r hdigit halpha =>
    by_cases hslash : c = '\\'
    · subst hslash
      exact .inl ⟨rfl, rfl⟩
    · refine .inr ⟨?_, ?_⟩
      · unfold control?
        split <;> first | rfl | contradiction
      · have hletter : ∀ d : Char, isAsciiAlpha d = true → c ≠ d := by
          rintro d hd rfl
          rw [hd] at halpha
          contradiction
        rw [plainEscape, if_neg (hletter 'x' (by decide)), if_neg (hletter 'u' (by decide)),
          if_neg (hletter 'U' (by decide)), if_neg (hletter 'N' (by decide)),
          if_neg (by simp [hdigit, halpha]), pure_ok]
  | @hex mark digits r hmark hdigits hvalue =>
    refine .inr ?_
    have hcode := hexCode_at (s := s) hdigits hvalue hr
    simp only [List.mem_cons, Prod.mk.injEq, List.not_mem_nil, or_false] at hmark
    obtain ⟨rfl, hlen⟩ | ⟨rfl, hlen⟩ | ⟨rfl, hlen⟩ := hmark
    all_goals
      rw [hlen] at hcode
      exact ⟨rfl, hcode⟩
  | named r hne hbrace hslash hcode => exact .inr ⟨rfl, namedCode_at hne hbrace hslash hcode hr⟩

/-- The letters of plain escapes are no escapes of another kind. -/
theorem other_of_escapeText (h : EscapeText code (c :: cs) r) :
    category? c = none ∧ isOctal c = false ∧ c.isDigit = false ∧ (c ≠ 'b' → anchor? c = none) := by
  cases h with
  | control r hc =>
    unfold control? at hc
    split at hc <;> first | exact ⟨rfl, by decide, by decide, by simp [anchor?]⟩ | contradiction
  | sign r hdigit halpha =>
    refine ⟨category?_eq_none halpha, ?_, hdigit, fun _ => anchor?_eq_none halpha⟩
    by_contra hoctal
    rw [isDigit_of_isOctal (by simpa using hoctal)] at hdigit
    contradiction
  | @hex mark digits r hmark hdigits hvalue =>
    simp only [List.mem_cons, Prod.mk.injEq, List.not_mem_nil, or_false] at hmark
    obtain ⟨rfl, -⟩ | ⟨rfl, -⟩ | ⟨rfl, -⟩ := hmark
    all_goals exact ⟨rfl, by decide, by decide, fun _ => rfl⟩
  | named r _ _ _ _ => exact ⟨rfl, by decide, by decide, fun _ => rfl⟩

theorem whole_escapeText (h : EscapeText code cs r) (hr : Whole r) : Whole ('\\' :: cs) := by
  cases h with
  | control r _ => exact hr
  | sign r _ _ => exact hr
  | hex r _ hdigits _ => exact whole_append_of_kind (by decide) hdigits hr
  | named r _ _ hslash _ =>
    show Whole ('\x7b' :: _)
    exact (whole_cons (by decide)).2 ((whole_append hslash).2 ((whole_cons (by decide)).2 hr))

theorem length_escapeText (h : EscapeText code cs r) : r.length < cs.length := by
  cases h <;> simp only [List.length_cons, List.length_append] <;> omega

/-! Classes. -/

variable {i : ClassItem} {items : List ClassItem} {isFirst : Bool}

theorem whole_itemText (h : ItemText i cs r) (hr : Whole r) : Whole cs := by
  cases h with
  | raw r hc => exact (whole_cons hc).2 hr
  | escape he => exact whole_escapeText he hr
  | octal ho =>
    obtain ⟨c, ds, rfl, -, hds, -⟩ := cons_of_octal ho
    exact whole_append_of_kind (by decide) hds hr
  | category r _ => exact hr

theorem length_itemText (h : ItemText i cs r) : r.length < cs.length := by
  cases h with
  | raw r hc => simp
  | escape he => exact (length_escapeText he).trans (by simp)
  | octal ho => simp
  | category r _ => simp

/-- An item is read from its first token and what follows that. -/
theorem classItem_at (h : ItemText i cs r) (hr : Whole r) :
    ∃ token, tokenAt cs = some token ∧ Whole (afterToken cs) ∧
      classItem token (s.at (afterToken cs)) = .ok (i, s.at r) := by
  cases h with
  | @raw c r hc =>
    refine ⟨.char c, tokenAt_cons hc, ?_⟩
    rw [afterToken_cons hc]
    exact ⟨hr, rfl⟩
  | @escape code cs r he =>
    obtain ⟨c, cs, rfl⟩ : ∃ c cs', cs = c :: cs' := by cases he <;> exact ⟨_, _, rfl⟩
    obtain ⟨hcategory, hoctal, -, -⟩ := other_of_escapeText he
    refine ⟨.escaped c, rfl, whole_escapeText he hr, ?_⟩
    show classEscape c (s.at cs) = _
    rcases plainEscape_at he hr with ⟨hc, rfl⟩ | ⟨hc, hplain⟩
    · rw [classEscape, hc]
      rfl
    · simp only [classEscape, hc, hcategory, hoctal]
      exact bind_ok hplain
  | @octal ds r ho =>
    obtain ⟨c, ds, rfl, hc, hds, hlen⟩ := cons_of_octal ho
    have hdigit := isDigit_of_isOctal hc
    refine ⟨.escaped c, rfl, whole_append_of_kind (by decide) hds hr, ?_⟩
    show classEscape c (s.at (ds ++ r)) = _
    simp only [classEscape, control?_of_isDigit hdigit,
      category?_eq_none (isAsciiAlpha_of_isDigit hdigit), hc, if_true]
    rw [bind_ok (takeWhile_at (by decide) hds hr hlen), if_neg (by have := ho.byte; omega), pure_ok]
  | @category c kind r hkind =>
    refine ⟨.escaped c, rfl, hr, ?_⟩
    show classEscape c (s.at r) = _
    have hcontrol : control? c = none := by
      unfold category? at hkind
      split at hkind <;> first | rfl | contradiction
    simp only [classEscape, hcontrol, hkind]
    rfl

theorem whole_classText (h : ClassText isFirst items cs r) (hr : Whole r) : Whole cs := by
  induction h with
  | done r => exact (whole_cons (by decide)).2 hr
  | item _ hi _ _ ih => exact whole_itemText hi (ih hr)
  | dash _ hi =>
    exact whole_itemText hi ((whole_cons (by decide)).2 ((whole_cons (by decide)).2 hr))
  | range _ hlo _ hhi _ _ ih =>
    exact whole_itemText hlo ((whole_cons (by decide)).2 (whole_itemText hhi (ih hr)))

theorem length_classText (h : ClassText isFirst items cs r) : r.length < cs.length := by
  induction h with
  | done r => simp
  | item _ hi _ _ ih => exact ih.trans (length_itemText hi)
  | dash _ hi =>
    have := length_itemText hi
    simp only [List.length_cons] at this
    omega
  | range _ hlo _ hhi _ _ ih =>
    have := length_itemText hlo
    have := length_itemText hhi
    simp only [List.length_cons] at *
    omega

section

variable {done : List ClassItem} {fuel : Nat}

/-- An item with no dash behind it. -/
theorem classItems_item (hi : ItemText i cs r) (hr : Whole r)
    (hopen : done.isEmpty = true ∨ cs.head? ≠ some ']') (hdash : r.head? ≠ some '-') :
    classItems done (fuel + 1) (s.at cs) = classItems (done ++ [i]) fuel (s.at r) := by
  obtain ⟨token, htoken, hwhole, hitem⟩ := classItem_at (s := s) hi hr
  rw [classItems, bind_ok (take_at hwhole), htoken]
  simp only [not_closes htoken hopen, Bool.false_eq_true, if_false]
  rw [bind_ok hitem, bind_ok (accept_no hdash)]
  rfl

/-- An item with a dash behind it. -/
theorem classItems_dash (hi : ItemText i cs ('-' :: r)) (hr : Whole r)
    (hopen : done.isEmpty = true ∨ cs.head? ≠ some ']') :
    classItems done (fuel + 1) (s.at cs) = (do
      match ← take with
      | none => fail .unterminatedClass
      | some last =>
        if last == .char ']' then return done ++ [i, .char 0x2D]
        let r ← range i (← classItem last)
        classItems (done ++ [r]) fuel : Reading (List ClassItem)) (s.at r) := by
  obtain ⟨token, htoken, hwhole, hitem⟩ := classItem_at (s := s) hi ((whole_cons (by decide)).2 hr)
  rw [classItems, bind_ok (take_at hwhole), htoken]
  simp only [not_closes htoken hopen, Bool.false_eq_true, if_false]
  rw [bind_ok hitem, bind_ok (accept_char (by decide) hr)]
  rfl

theorem classItems_range {lo hi : Nat} (hlo : ItemText (.char lo) cs ('-' :: cs'))
    (hhi : ItemText (.char hi) cs' r) (hr : Whole r) (hle : lo ≤ hi)
    (hopen : done.isEmpty = true ∨ cs.head? ≠ some ']') (hbracket : cs'.head? ≠ some ']') :
    classItems done (fuel + 1) (s.at cs) = classItems (done ++ [.range lo hi]) fuel (s.at r) := by
  obtain ⟨last, hlast, hwhole, hitem⟩ := classItem_at (s := s) hhi hr
  have hlastne : last ≠ .char ']' := by
    rintro rfl
    exact hbracket (head?_of_tokenAt hlast)
  have hrange : range (.char lo) (.char hi) (s.at r) = .ok (.range lo hi, s.at r) := by
    rw [range, if_neg (by omega), pure_ok]
  rw [classItems_dash hlo (whole_itemText hhi hr) hopen, bind_ok (take_at hwhole), hlast]
  simp only [beq_iff_eq, hlastne, if_false]
  rw [bind_ok hitem, bind_ok hrange]

end

/-- Every item takes one step of the reader. -/
theorem classItems_at (done : List ClassItem) {fuel : Nat} (h : ClassText done.isEmpty items cs r)
    (hr : Whole r) (hfuel : cs.length ≤ fuel) :
    classItems done fuel (s.at cs) = .ok (done ++ items, s.at r) := by
  generalize hfirst : done.isEmpty = isFirst at h
  have hlen := length_classText h
  obtain ⟨fuel, rfl⟩ := Nat.exists_eq_add_of_le' (show 1 ≤ fuel by omega)
  induction h generalizing done fuel with
  | done r =>
    rw [classItems, bind_ok (take_char (by decide) hr)]
    simp only [beq_self_eq_true, hfirst, Bool.not_false, Bool.and_true, if_true, pure_ok,
      List.append_nil]
  | @item isFirst i items cs r r' hopen hi hdash hrest ih =>
    have hitem := length_itemText hi
    have hmore := length_classText hrest
    obtain ⟨fuel, rfl⟩ := Nat.exists_eq_add_of_le' (show 1 ≤ fuel by omega)
    rw [classItems_item hi (whole_classText hrest hr) (hfirst ▸ hopen) hdash,
      ih _ hr (by simp) hmore fuel (by omega), List.append_assoc, List.singleton_append]
  | @dash isFirst i cs r hopen hi =>
    rw [classItems_dash hi ((whole_cons (by decide)).2 hr) (hfirst ▸ hopen),
      bind_ok (take_char (by decide) hr)]
    rfl
  | @range isFirst lo hi items cs cs' r r' hopen hlo hbracket hhi hle hrest ih =>
    have hitem := length_itemText hlo
    have hitem' := length_itemText hhi
    have hmore := length_classText hrest
    simp only [List.length_cons] at hitem
    obtain ⟨fuel, rfl⟩ := Nat.exists_eq_add_of_le' (show 1 ≤ fuel by omega)
    rw [classItems_range hlo hhi (whole_classText hrest hr) hle (hfirst ▸ hopen) hbracket,
      ih _ hr (by simp) hmore fuel (by omega), List.append_assoc, List.singleton_append]

theorem characterClass_eq : characterClass = (do
    let negated ← accept '^'
    let items ← classItems [] ((← get).rest.length + 2)
    return classNode negated items.eraseDups) := by
  unfold characterClass classNode
  refine bind_congr fun negated => bind_congr fun start => bind_congr fun items => ?_
  match items.eraseDups with
  | [] => rfl
  | [.char _] => rfl
  | [.range _ _] => rfl
  | [.category _] => rfl
  | i :: _ :: _ => cases i <;> rfl

theorem characterClass_at (h : ClassText true items cs r) (hr : Whole r)
    (hstart : accept '^' s = .ok (negated, s'.at cs)) :
    characterClass s = .ok (classNode negated items.eraseDups, s'.at r) := by
  have hfuel : cs.length ≤ (s'.at cs).rest.length + 2 := length_afterToken cs
  rw [characterClass_eq, bind_ok hstart, bind_ok get_ok,
    bind_ok (classItems_at [] h hr hfuel), List.nil_append, pure_ok]

/-! Escapes outside a class. -/

theorem escape_text (h : EscapeText code (c :: cs) r) (hb : c ≠ 'b') (hr : Whole r) :
    escape c (s.at cs) = .ok (.char code, s.at r) := by
  obtain ⟨hcategory, -, hdigit, hanchor⟩ := other_of_escapeText h
  rcases plainEscape_at (s := s) h hr with ⟨hc, rfl⟩ | ⟨hc, hplain⟩
  · simp only [escape, hanchor hb, hcategory, hc]
    rfl
  · have hzero : c ≠ '0' := by
      rintro rfl
      exact absurd hdigit (by decide)
    simp only [escape, hanchor hb, hcategory, hc, hzero, hdigit, if_false, Bool.false_eq_true]
    exact bind_ok hplain

theorem escape_category {kind : Category} (h : category? c = some kind) :
    escape c s = .ok (.oneOf false [.category kind], s) := by
  have hanchor : anchor? c = none := by
    unfold category? at h
    split at h <;> first | rfl | contradiction
  simp only [escape, hanchor, h]
  rfl

theorem escape_octal {ds : List Char} (h : Octal (c :: ds) r) (hr : Whole r)
    (houtside : ds.length = 2 ∨ c = '0') :
    escape c (s.at (ds ++ r)) = .ok (.char (digitsValue 8 (c :: ds)), s.at r) := by
  obtain ⟨_, _, heq, hc, hds, hlen⟩ := cons_of_octal h
  obtain ⟨rfl, rfl⟩ := List.cons.inj heq
  have hdigit := isDigit_of_isOctal hc
  have halpha := isAsciiAlpha_of_isDigit hdigit
  simp only [escape, anchor?_eq_none halpha, category?_eq_none halpha, control?_of_isDigit hdigit]
  by_cases hzero : c = '0'
  · rw [if_pos hzero, bind_ok (takeWhile_at (by decide) hds hr hlen), pure_ok]
  · have htwo : ds.length = 2 := houtside.resolve_right hzero
    obtain ⟨d, e, rfl⟩ := List.length_eq_two.1 htwo
    obtain ⟨hd, he, -⟩ : isOctal d = true ∧ isOctal e = true ∧ True := by simpa using hds
    have he' : e ≠ '\\' := by
      rintro rfl
      contradiction
    have hdigits : takeWhile Char.isDigit 1 (s.at ([d] ++ e :: r)) = .ok ([d], s.at (e :: r)) :=
      takeWhile_at (by decide) (by simpa using isDigit_of_isOctal hd) ((whole_cons he').2 hr)
        (.inl rfl)
    have hlast : takeWhile isOctal 1 (s.at ([e] ++ r)) = .ok ([e], s.at r) :=
      takeWhile_at (by decide) (by simpa using he) hr (.inl rfl)
    rw [List.singleton_append] at hdigits hlast
    rw [if_neg hzero, if_pos hdigit, numberEscape, List.cons_append, List.cons_append,
      List.nil_append, bind_ok hdigits]
    simp only [hc, hd, Bool.and_self, if_true]
    rw [bind_ok hlast]
    simp only
    rw [if_neg (by have := h.byte; omega), pure_ok]

end Reading

end PathPolicy.Regex
