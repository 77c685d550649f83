import PathPolicy.Proofs.Json.Document

/-! The room for open containers runs out on every text that has more of them open at once than
there is room for, whatever the text goes on with. Up to that place the containers are well
formed, so nothing ends the reading before the room does. -/

namespace PathPolicy.Json

open Text.Utf8 (encodeChars decode_eq_ok_iff)

variable {before cs t u : List Char} {c : Container} {fuel n room size : Nat}

theorem Opens.front (h : Opens (n + 1) cs) :
    ∃ c t, skipBlanks cs = Container.opening c :: t ∧ (n ≠ 0 → Reaches c n t) := by
  have hopening : ∀ (c : Container) (t : List Char),
      skipBlanks (c.opening :: t) = c.opening :: t := fun c t =>
    skipBlanks_cons (by cases c <;> rfl)
  cases h with
  | @one b t c hb =>
    exact ⟨c, t, by rw [skipBlanks_append hb, hopening], fun h => absurd rfl h⟩
  | @inside n b before t c hb hbefore h =>
    exact ⟨c, before ++ t, by rw [skipBlanks_append hb, hopening],
      fun _ => ⟨before, t, rfl, hbefore, h⟩⟩

/-- The next item is complete, or there are `n` containers open before it is. -/
inductive Goes (c : Container) (n : Nat) : List Char → Prop
  | next {cs t : List Char} : Derives (.item c) cs → Goes c n t → Goes c n (cs ++ ',' :: t)
  | value {cs : List Char} : c = .array → Opens n cs → Goes c n cs
  | member {b k b' cs : List Char} : c = .object → Blanks b → StringText k → Blanks b' →
    Opens n cs → Goes c n (b ++ (k ++ (b' ++ ':' :: cs)))

theorem Passed.goes (h : Passed c before) (hgoes : Goes c n t) : Goes c n (before ++ t) := by
  induction h with
  | nil => exact hgoes
  | item hv _ ih =>
    rw [List.append_assoc, List.cons_append]
    exact .next hv ih

theorem Reaches.goes (h : Reaches c n cs) : Goes c n cs := by
  obtain ⟨before, t, rfl, hbefore, ht⟩ := h
  cases hbefore with
  | element hpassed => exact hpassed.goes (.value rfl ht)
  | member hpassed hb hk hb' =>
    rw [List.append_assoc]
    apply hpassed.goes
    simpa using Goes.member rfl hb hk hb' ht

theorem Goes.head (h : Goes c (n + 1) cs) : ∃ x t, skipBlanks cs = x :: t ∧ Starts x := by
  cases h with
  | next hv _ => exact item_head hv _
  | value _ h =>
    obtain ⟨c, t, hskip, -⟩ := h.front
    exact ⟨_, _, hskip, by cases c <;> (unfold Starts; decide)⟩
  | member _ hb hk _ _ =>
    obtain ⟨hbody⟩ := hk
    rw [skipBlanks_append hb]
    exact ⟨'"', _, rfl, by unfold Starts; decide⟩

/-- Complete items are taken one by one, or the room runs out in one of them. -/
theorem items_of_goes
    (hdeep : ∀ t, t.length ≤ size → Opens n t → value size room (skipBlanks t) = .error .tooDeep)
    (h : Goes c n cs) (hsize : cs.length ≤ size) (hfuel : cs.length < fuel) :
    items (itemOf size room c) c.closing fuel (skipBlanks cs) = .error .tooDeep := by
  induction h generalizing fuel with
  | @next cs t hv hgoes ih =>
    simp only [List.length_append, List.length_cons] at hsize hfuel
    obtain ⟨fuel, rfl⟩ : ∃ k, fuel = k + 1 := ⟨fuel - 1, by omega⟩
    obtain ⟨b, hb, htakes⟩ := taken_of_derives hv size room (',' :: t) (by omega) (stops_comma t)
    rw [items_succ]
    rcases htakes with hok | hno
    · rw [hok]
      simp only [skipBlanks_append hb, (stops_comma t).skipBlanks, closing_ne_comma, if_false,
        if_true]
      exact ih (by omega) (by omega)
    · rw [hno]
  | value hc hopens =>
    subst hc
    obtain ⟨fuel, rfl⟩ : ∃ k, fuel = k + 1 := ⟨fuel - 1, by omega⟩
    rw [items_succ, itemOf, hdeep _ hsize hopens]
  | @member b k b' cs hc hb hk hb' hopens =>
    subst hc
    obtain ⟨fuel, rfl⟩ : ∃ k, fuel = k + 1 := ⟨fuel - 1, by omega⟩
    obtain @⟨body, hbody⟩ := hk
    simp only [List.length_append, List.length_cons] at hsize
    have hquote : skipBlanks (b ++ ('"' :: (body ++ ['"']) ++ (b' ++ ':' :: cs))) =
        '"' :: (body ++ '"' :: (b' ++ ':' :: cs)) := by
      rw [skipBlanks_append hb, List.cons_append, skipBlanks_cons rfl]
      simp
    have hcolon : skipBlanks (b' ++ ':' :: cs) = ':' :: cs := by
      rw [skipBlanks_append hb', skipBlanks_cons rfl]
    have hitem : itemOf size room .object ('"' :: (body ++ '"' :: (b' ++ ':' :: cs))) =
        .error .tooDeep := by
      simp only [itemOf, member, string_of_body hbody, hcolon]
      exact hdeep cs (by omega) hopens
    rw [items_succ, hquote, hitem]

theorem container_of_goes
    (hdeep : ∀ t, t.length ≤ size → Opens (n + 1) t →
      value size room (skipBlanks t) = .error .tooDeep)
    (h : Goes c (n + 1) cs) (hsize : cs.length < size) :
    container (itemOf size room c) c.closing size cs = .error .tooDeep := by
  obtain ⟨x, t, hskip, hx⟩ := h.head
  have hhead : (skipBlanks cs).head? ≠ some c.closing := by
    rw [hskip]
    intro he
    obtain rfl := Option.some.inj he
    cases c
    · exact hx.2.1 rfl
    · exact hx.2.2 rfl
  simp only [container, hhead, if_false]
  exact items_of_goes hdeep h (by omega) hsize

/-- Induction on the room. The front of the text opens a container, and what is left to open of the
text in it is one less, as is the room. -/
theorem tooDeep_of_opens (h : Opens (room + 1) cs) (hsize : cs.length ≤ size) :
    value size room (skipBlanks cs) = .error .tooDeep := by
  induction room generalizing cs with
  | zero =>
    obtain ⟨c, t, hskip, -⟩ := h.front
    rw [hskip]
    exact value_no_room c size t
  | succ room ih =>
    obtain ⟨c, t, hskip, hreaches⟩ := h.front
    have hlength : (c.opening :: t).length ≤ cs.length := hskip ▸ List.length_dropWhile_le ..
    rw [hskip, value_opening]
    exact container_of_goes (fun u hu h => ih h hu) (hreaches (by omega)).goes
      (by simp only [List.length_cons] at hlength; omega)

theorem text_tooDeep_iff : text room cs = .error .tooDeep ↔ Opens (room + 1) cs := by
  refine ⟨opens_of_text, fun h => ?_⟩
  rw [text, tooDeep_of_opens h le_rfl]

theorem document_tooDeep_iff {bytes : List UInt8} : document room bytes = .error .tooDeep ↔
    ∃ cs, bytes = encodeChars cs ∧ Opens (room + 1) cs := by
  refine ⟨opens_of_document, ?_⟩
  rintro ⟨cs, rfl, h⟩
  rw [document, decode_eq_ok_iff.2 rfl]
  exact text_tooDeep_iff.2 h

/-- Arrays in arrays. -/
theorem opens_replicate (n : Nat) : Opens (n + 1) (List.replicate (n + 1) '[') := by
  induction n with
  | zero => exact .one .array blanks_nil
  | succ n ih => exact .inside .array blanks_nil (.element .nil) ih

end PathPolicy.Json
