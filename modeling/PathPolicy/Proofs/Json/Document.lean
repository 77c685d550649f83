import PathPolicy.Proofs.Json.Value
import PathPolicy.Proofs.Text.Utf8
import PathPolicy.Host.Standard
import PathPolicy.Validator

/-! The validator for JSON content accepts the documents of the grammar. What is derived is taken
unless the room runs out, and the room does not run out before the text has more containers open
than there is room for. -/

namespace PathPolicy.Json

open Text.Utf8 (encodeChars decode_eq_ok_iff)

variable {b cs r v : List Char} {c : Container} {item : List Char → Rest} {closing : Char}
variable {fuel n room size : Nat}

/-- What may stand at the front of a value. -/
def Starts (c : Char) : Prop := isBlank c = false ∧ c ≠ ']' ∧ c ≠ '\x7d'

theorem starts_of_not_reserved {x : Char} (h : x ∉ reserved) : Starts x := by
  simp only [reserved, List.mem_cons, List.not_mem_nil, or_false, not_or] at h
  simp [Starts, isBlank, h]

theorem value_head (h : Derives .value v) : ∃ x t, v = x :: t ∧ Starts x := by
  cases h with
  | word hw =>
    obtain ⟨x, t, hxt, hx⟩ := words_head _ hw
    exact ⟨x, t, hxt, starts_of_not_reserved hx⟩
  | string h =>
    cases h
    exact ⟨'"', _, rfl, by unfold Starts; decide⟩
  | number h =>
    obtain ⟨x, t, hxt, hx⟩ := number_head h
    exact ⟨x, t, hxt, starts_of_not_reserved hx⟩
  | empty c _ => exact ⟨_, _, rfl, by cases c <;> (unfold Starts; decide)⟩
  | container c _ => exact ⟨_, _, rfl, by cases c <;> (unfold Starts; decide)⟩

theorem item_head (h : Derives (.item c) cs) (r : List Char) :
    ∃ x t, skipBlanks (cs ++ r) = x :: t ∧ Starts x := by
  cases h with
  | @element b v b' hb hv _ =>
    obtain ⟨x, t, rfl, hx⟩ := value_head hv
    refine ⟨x, t ++ b' ++ r, ?_, hx⟩
    rw [List.append_assoc, skipBlanks_append hb]
    exact skipBlanks_cons hx.1
  | @member b k b' cs hb hk _ _ =>
    obtain ⟨hbody⟩ := hk
    rw [List.append_assoc, skipBlanks_append hb]
    exact ⟨'"', _, rfl, by unfold Starts; decide⟩

theorem items_head (h : Derives (.items c) cs) (r : List Char) :
    ∃ x t, skipBlanks (cs ++ r) = x :: t ∧ Starts x := by
  cases h with
  | last h => exact item_head h r
  | more h _ =>
    rw [List.append_assoc]
    exact item_head h _

/-- The text goes on with a blank or a sign that ends a value, or not at all. -/
def Ends (r : List Char) : Prop :=
  ∀ c ∈ r.head?, isBlank c = true ∨ c = ',' ∨ c = ']' ∨ c = '\x7d'

/-- The text goes on with a sign that ends an item, or not at all. -/
def Stops (r : List Char) : Prop := ∀ c ∈ r.head?, c = ',' ∨ c = ']' ∨ c = '\x7d'

theorem Stops.skipBlanks (h : Stops r) : skipBlanks r = r := by
  cases r with
  | nil => rfl
  | cons c r =>
    apply skipBlanks_cons
    rcases h c rfl with rfl | rfl | rfl <;> rfl

theorem Stops.ends (h : Stops r) (hb : Blanks b) : Ends (b ++ r) := by
  cases b with
  | nil => exact fun c hc => .inr (h c hc)
  | cons x b => exact fun c hc => .inl (Option.some.inj hc ▸ hb x (by simp))

theorem Ends.noNumber (h : Ends r) : NoNumber r := by
  intro c hc
  rcases h c hc with hblank | rfl | rfl | rfl
  · simp only [isBlank, Bool.or_eq_true, decide_eq_true_eq] at hblank
    rcases hblank with ((rfl | rfl) | rfl) | rfl <;> decide
  all_goals decide

theorem stops_closing (c : Container) (r : List Char) : Stops (c.closing :: r) := by
  intro x hx
  obtain rfl := Option.some.inj hx
  cases c <;> simp [Container.closing]

theorem stops_comma (r : List Char) : Stops (',' :: r) := fun _ hx =>
  .inl (Option.some.inj hx).symm

/-- The text is taken up to `r`, unless there is too little room. -/
def Takes (x : Rest) (r : List Char) : Prop := x = .ok r ∨ x = .error .tooDeep

/-- How a text is taken for each form, with whatever room. An item leaves the blanks after it. -/
def Taken : Form → List Char → Prop
  | .value, cs => ∀ size room r, cs.length ≤ size → Ends r → Takes (value size room (cs ++ r)) r
  | .item c, cs => ∀ size room r, cs.length ≤ size → Stops r →
    ∃ b, Blanks b ∧ Takes (itemOf size room c (skipBlanks (cs ++ r))) (b ++ r)
  | .items c, cs => ∀ size room fuel r, cs.length ≤ size → cs.length < fuel →
    Takes (items (itemOf size room c) c.closing fuel (skipBlanks (cs ++ c.closing :: r))) r

theorem not_opening {x : Char} {t : List Char} (hx : x ∉ reserved) :
    ∀ c ∈ (x :: t ++ r).head?, c ≠ '[' ∧ c ≠ '\x7b' := by
  intro c hc
  obtain rfl := Option.some.inj hc
  simp only [reserved, List.mem_cons, List.not_mem_nil, or_false, not_or] at hx
  exact ⟨by simp [hx], by simp [hx]⟩

theorem taken_word {w : String} (hw : w ∈ words) : Taken .value w.toList := by
  intro size room r _ _
  obtain ⟨x, t, hxt, hx⟩ := words_head w hw
  rw [value_scalar (by rw [hxt]; exact not_opening hx)]
  exact .inl (scalar_word hw r)

theorem taken_string (h : StringText v) : Taken .value v := by
  intro size room r _ _
  rw [value_scalar (by cases h; simp)]
  exact .inl (scalar_string h r)

theorem taken_number (h : NumberText v) : Taken .value v := by
  intro size room r _ hr
  obtain ⟨x, t, hxt, hx⟩ := number_head h
  rw [value_scalar (by rw [hxt]; exact not_opening hx)]
  exact .inl (scalar_number h hr.noNumber)

theorem taken_empty (c : Container) (hb : Blanks b) :
    Taken .value (c.opening :: (b ++ [c.closing])) := by
  intro size room r _ _
  rw [List.cons_append, List.append_assoc]
  cases room with
  | zero => exact .inr (value_no_room c size _)
  | succ room =>
    rw [value_opening]
    have hskip : skipBlanks (b ++ ([c.closing] ++ r)) = c.closing :: r := by
      rw [skipBlanks_append hb]
      exact (stops_closing c r).skipBlanks
    refine .inl ?_
    rw [container, hskip]
    exact if_pos rfl

theorem taken_container (h : Derives (.items c) cs) (htaken : Taken (.items c) cs) :
    Taken .value (c.opening :: (cs ++ [c.closing])) := by
  intro size room r hsize _
  rw [List.cons_append, List.append_assoc]
  simp only [List.length_cons, List.length_append] at hsize
  cases room with
  | zero => exact .inr (value_no_room c size _)
  | succ room =>
    rw [value_opening]
    obtain ⟨x, t, hskip, hx⟩ := items_head h ([c.closing] ++ r)
    have hhead : (skipBlanks (cs ++ ([c.closing] ++ r))).head? ≠ some c.closing := by
      rw [hskip]
      intro he
      obtain rfl := Option.some.inj he
      cases c
      · exact hx.2.1 rfl
      · exact hx.2.2 rfl
    rw [container]
    simp only [hhead, if_false]
    exact htaken size room size r (by omega) (by omega)

theorem taken_element {b' : List Char} (hb : Blanks b) (hv : Derives .value v)
    (htaken : Taken .value v) (hb' : Blanks b') : Taken (.item .array) (b ++ (v ++ b')) := by
  intro size room r hsize hr
  refine ⟨b', hb', ?_⟩
  simp only [List.length_append] at hsize
  obtain ⟨x, t, hxt, hx⟩ := value_head hv
  have hskip : skipBlanks (b ++ (v ++ b') ++ r) = v ++ (b' ++ r) := by
    rw [List.append_assoc, skipBlanks_append hb, List.append_assoc, hxt]
    exact skipBlanks_cons hx.1
  rw [hskip]
  exact htaken size room _ (by omega) (hr.ends hb')

theorem taken_member {k b' : List Char} (hb : Blanks b) (hk : StringText k) (hb' : Blanks b')
    (htaken : Taken (.item .array) cs) : Taken (.item .object) (b ++ (k ++ (b' ++ ':' :: cs))) := by
  intro size room r hsize hr
  simp only [List.length_append, List.length_cons] at hsize
  obtain ⟨b'', hb'', htakes⟩ := htaken size room r (by omega) hr
  refine ⟨b'', hb'', ?_⟩
  obtain @⟨body, hbody⟩ := hk
  have hskip : skipBlanks (b ++ ('"' :: (body ++ ['"']) ++ (b' ++ ':' :: cs)) ++ r) =
      '"' :: (body ++ '"' :: (b' ++ ':' :: (cs ++ r))) := by
    rw [List.append_assoc, skipBlanks_append hb, List.cons_append, List.cons_append,
      skipBlanks_cons rfl]
    simp
  have hcolon : skipBlanks (b' ++ ':' :: (cs ++ r)) = ':' :: (cs ++ r) := by
    rw [skipBlanks_append hb', skipBlanks_cons rfl]
  rw [hskip, itemOf, member]
  simp only [string_of_body hbody, hcolon]
  exact htakes

theorem taken_last (htaken : Taken (.item c) cs) : Taken (.items c) cs := by
  intro size room fuel r hsize hfuel
  obtain ⟨b, hb, htakes⟩ := htaken size room (c.closing :: r) hsize (stops_closing c r)
  obtain ⟨fuel, rfl⟩ : ∃ k, fuel = k + 1 := ⟨fuel - 1, by omega⟩
  rw [items_succ]
  rcases htakes with h | h
  · rw [h]
    simp only [skipBlanks_append hb, (stops_closing c r).skipBlanks, if_true]
    exact .inl rfl
  · rw [h]
    exact .inr rfl

theorem taken_more {cs' : List Char} (htaken : Taken (.item c) cs)
    (htaken' : Taken (.items c) cs') : Taken (.items c) (cs ++ ',' :: cs') := by
  intro size room fuel r hsize hfuel
  simp only [List.length_append, List.length_cons] at hsize hfuel
  obtain ⟨b, hb, htakes⟩ := htaken size room (',' :: (cs' ++ c.closing :: r)) (by omega)
    (stops_comma _)
  obtain ⟨fuel, rfl⟩ : ∃ k, fuel = k + 1 := ⟨fuel - 1, by omega⟩
  rw [List.append_assoc, List.cons_append, items_succ]
  rcases htakes with h | h
  · rw [h]
    simp only [skipBlanks_append hb, (stops_comma _).skipBlanks, closing_ne_comma, if_false, if_true]
    exact htaken' size room fuel r (by omega) (by omega)
  · rw [h]
    exact .inr rfl

/-- Induction on the derivation. The room stays arbitrary, since each container takes one off. -/
theorem taken_of_derives {form : Form} (h : Derives form cs) : Taken form cs := by
  induction h with
  | word hw => exact taken_word hw
  | string h => exact taken_string h
  | number h => exact taken_number h
  | empty c hb => exact taken_empty c hb
  | container c h ih => exact taken_container h ih
  | element hb hv hb' ih => exact taken_element hb hv ih hb'
  | member hb hk hb' _ ih => exact taken_member hb hk hb' ih
  | last _ ih => exact taken_last ih
  | more _ _ ih ih' => exact taken_more ih ih'

/-! Whole texts. -/

theorem document_of_text (h : text room cs = .ok ()) : Document cs := by
  unfold text at h
  split at h
  · cases h
  · next r hr =>
    split at h
    · next hempty =>
      obtain ⟨v, hv, hderives⟩ := value_of_ok hr
      obtain ⟨b, hb, hcs⟩ := exists_blanks cs
      obtain ⟨b', hb', hrest⟩ := exists_blanks r
      rw [List.isEmpty_iff.1 hempty, List.append_nil] at hrest
      rw [hcs, hv, hrest]
      exact .element hb hderives hb'
    · cases h

theorem opens_of_text (h : text room cs = .error .tooDeep) : Opens (room + 1) cs := by
  obtain ⟨b, hb, hcs⟩ := exists_blanks cs
  unfold text at h
  split at h
  · next e he =>
    cases h
    rw [hcs]
    exact (opens_of_tooDeep he).blanks hb
  · split at h <;> cases h

theorem text_of_document (h : Document cs) (hopens : ¬Opens (room + 1) cs) :
    text room cs = .ok () := by
  obtain ⟨b, hb, htakes⟩ := taken_of_derives h cs.length room [] le_rfl (fun _ h => by cases h)
  rw [List.append_nil, List.append_nil] at htakes
  have hdeep : text room cs ≠ .error .tooDeep := fun h => hopens (opens_of_text h)
  unfold text at hdeep ⊢
  rcases htakes with h | h
  · rw [show value cs.length room (skipBlanks cs) = .ok b from h]
    simp [skipBlanks_of_blanks hb]
  · rw [show value cs.length room (skipBlanks cs) = .error .tooDeep from h] at hdeep
    exact absurd rfl hdeep

theorem document_of_ok {bytes : List UInt8} (h : document room bytes = .ok ()) :
    ∃ cs, bytes = encodeChars cs ∧ Document cs := by
  unfold document at h
  split at h
  · cases h
  · next cs hcs => exact ⟨cs, decode_eq_ok_iff.1 hcs, document_of_text h⟩

theorem opens_of_document {bytes : List UInt8} (h : document room bytes = .error .tooDeep) :
    ∃ cs, bytes = encodeChars cs ∧ Opens (room + 1) cs := by
  unfold document at h
  split at h
  · cases h
  · next cs hcs => exact ⟨cs, decode_eq_ok_iff.1 hcs, opens_of_text h⟩

theorem document_encodeChars (h : Document cs) (hopens : ¬Opens (room + 1) cs) :
    document room (encodeChars cs) = .ok () := by
  rw [document, decode_eq_ok_iff.2 rfl]
  exact text_of_document h hopens

end PathPolicy.Json

namespace PathPolicy.Validator

open Text.Utf8 (encodeChars)

/-- What the validator answers about content that has at most 501 containers open at once, on a
stack that has room for so many. -/
theorem accepts_json [Host] (hroom : 501 ≤ Host.jsonRoom) (allowEmpty : Bool) (bytes : List UInt8)
    (hopens : ∀ cs, bytes = encodeChars cs → ¬Json.Opens 502 cs) :
    ∃ answer, accepts (.json allowEmpty) (some bytes) = .ok answer ∧
      (bytes = [] → answer = allowEmpty) ∧
      (bytes ≠ [] → (answer = true ↔ ∃ cs, bytes = encodeChars cs ∧ Json.Document cs)) := by
  cases bytes with
  | nil => exact ⟨allowEmpty, rfl, fun _ => rfl, fun h => absurd rfl h⟩
  | cons b r =>
    have hopens' : ∀ cs, b :: r = encodeChars cs → ¬Json.Opens (Host.jsonRoom + 1) cs :=
      fun cs hcs h => hopens cs hcs (h.of_le (by omega) (by omega))
    have haccepts : accepts (.json allowEmpty) (some (b :: r)) =
      acceptsJson allowEmpty (some (b :: r)) := rfl
    cases hdocument : Json.document Host.jsonRoom (b :: r) with
    | ok u =>
      simp only [acceptsJson, Option.getD_some, hdocument] at haccepts
      exact ⟨true, haccepts, by simp, fun _ => iff_of_true rfl (Json.document_of_ok hdocument)⟩
    | error e =>
      cases e with
      | malformed =>
        simp only [acceptsJson, Option.getD_some, hdocument] at haccepts
        refine ⟨false, haccepts, by simp, fun _ => iff_of_false (by simp) ?_⟩
        rintro ⟨cs, hcs, hderives⟩
        rw [hcs, Json.document_encodeChars hderives (hopens' cs hcs)] at hdocument
        cases hdocument
      | tooDeep =>
        obtain ⟨cs, hcs, h⟩ := Json.opens_of_document hdocument
        exact absurd h (hopens' cs hcs)

/-- A list with an object in it, and blanks between its parts. -/
def nested : List Char := "[0, \x7b\"k\" : \"\\u00e9\"\x7d ]\n".toList

theorem accepts_json_nested : 501 ≤ Host.jsonRoom ∧
    (∀ cs, encodeChars nested = encodeChars cs → ¬Json.Opens 502 cs) ∧
    accepts (.json true) (some (encodeChars nested)) = .ok true := by
  have hroom : 501 ≤ Host.jsonRoom := by decide
  have hopens : ∀ cs, encodeChars nested = encodeChars cs → ¬Json.Opens 502 cs := by
    intro cs hcs hopens
    rw [← Text.Utf8.encodeChars_injective hcs] at hopens
    exact absurd hopens.le_length (by decide +kernel)
  have htext : Json.text Host.jsonRoom nested = .ok () := by decide +kernel
  have hdocument : Json.Document nested := Json.document_of_text htext
  have hne : encodeChars nested ≠ [] := by decide +kernel
  obtain ⟨answer, haccepts, -, hanswer⟩ := accepts_json hroom true (encodeChars nested) hopens
  rw [(hanswer hne).2 ⟨nested, rfl, hdocument⟩] at haccepts
  exact ⟨hroom, hopens, haccepts⟩

end PathPolicy.Validator
