import PathPolicy.Proofs.Json.Scalar

/-! Arrays, objects and whole values. What the acceptor takes off the front of a text is derived.
What is derived it takes, unless it is out of room, and then the text has as many containers open
as there was room for, and one more. -/

namespace PathPolicy.Json

variable {b before cs r v : List Char} {c : Container} {item : List Char → Rest}
variable {closing : Char} {fuel n room size : Nat}

/-- How the acceptor takes an item of a container. -/
def itemOf (size room : Nat) : Container → List Char → Rest
  | .array => value size room
  | .object => member (value size room)

theorem value_scalar (h : ∀ c ∈ cs.head?, c ≠ '[' ∧ c ≠ '\x7b') (size room : Nat) :
    value size room cs = scalar cs := by
  cases room with
  | zero =>
    unfold value
    split
    · exact absurd rfl (h '[' rfl).1
    · exact absurd rfl (h '\x7b' rfl).2
    · rfl
  | succ room =>
    rw [value]
    · rintro t rfl
      exact (h '[' rfl).1 rfl
    · rintro t rfl
      exact (h '\x7b' rfl).2 rfl

theorem value_opening (c : Container) (size room : Nat) (cs : List Char) :
    value size (room + 1) (c.opening :: cs) =
      container (itemOf size room c) c.closing size cs := by
  cases c <;> rfl

theorem value_no_room (c : Container) (size : Nat) (cs : List Char) :
    value size 0 (c.opening :: cs) = .error .tooDeep := by
  cases c <;> rfl

theorem opening_or_scalar (cs : List Char) :
    (∃ (c : Container) (t : List Char), cs = c.opening :: t) ∨
      ∀ c ∈ cs.head?, c ≠ '[' ∧ c ≠ '\x7b' := by
  cases cs with
  | nil => exact .inr (by simp)
  | cons x t =>
    by_cases hx : x = '['
    · exact .inl ⟨.array, t, by rw [hx]; rfl⟩
    · by_cases hx' : x = '\x7b'
      · exact .inl ⟨.object, t, by rw [hx']; rfl⟩
      · exact .inr fun c hc => Option.some.inj hc ▸ ⟨hx, hx'⟩

theorem closing_ne_comma (c : Container) : ',' ≠ c.closing := by
  cases c <;> decide

/-! What is taken is derived. -/

theorem Derives.blanks_item (hb : Blanks b) (h : Derives (.item c) v) :
    Derives (.item c) (b ++ v) := by
  cases h with
  | element hb' hv hb'' =>
    rw [← List.append_assoc]
    exact .element (hb.append hb') hv hb''
  | member hb' hk hb'' hv =>
    rw [← List.append_assoc]
    exact .member (hb.append hb') hk hb'' hv

theorem Derives.blanks_items (hb : Blanks b) (h : Derives (.items c) v) :
    Derives (.items c) (b ++ v) := by
  cases h with
  | last h => exact .last (h.blanks_item hb)
  | more h h' =>
    rw [← List.append_assoc]
    exact .more (h.blanks_item hb) h'

theorem Derives.item_blanks (h : Derives (.item c) v) (hb : Blanks b) :
    Derives (.item c) (v ++ b) := by
  have element : ∀ {u}, Derives (.item .array) u → Derives (.item .array) (u ++ b) := by
    intro u hu
    cases hu with
    | element hb' hv hb'' =>
      rw [List.append_assoc, List.append_assoc]
      exact .element hb' hv (hb''.append hb)
  cases h with
  | element hb' hv hb'' => exact element (.element hb' hv hb'')
  | member hb' hk hb'' hv =>
    simp only [List.append_assoc, List.cons_append]
    exact .member hb' hk hb'' (element hv)

theorem items_succ (item : List Char → Rest) (closing : Char) (fuel : Nat) (cs : List Char) :
    items item closing (fuel + 1) cs =
      match item cs with
      | .error e => .error e
      | .ok r =>
        match skipBlanks r with
        | [] => .error .malformed
        | c :: t =>
          if c = closing then .ok t
          else if c = ',' then items item closing fuel (skipBlanks t)
          else .error .malformed := rfl

theorem items_of_ok
    (hitem : ∀ {cs r}, item cs = .ok r → ∃ v, cs = v ++ r ∧ Derives (.item c) v)
    (h : items item closing fuel cs = .ok r) :
    ∃ v, cs = v ++ closing :: r ∧ Derives (.items c) v := by
  induction fuel generalizing cs with
  | zero => cases h
  | succ fuel ih =>
    rw [items_succ] at h
    split at h
    · cases h
    · next t ht =>
      obtain ⟨v, rfl, hv⟩ := hitem ht
      obtain ⟨b, hb, hsplit⟩ := exists_blanks t
      split at h
      · cases h
      · next x u hu =>
        rw [hu] at hsplit
        split at h
        · next hx =>
          cases h
          refine ⟨v ++ b, ?_, .last (hv.item_blanks hb)⟩
          rw [hsplit, hx, List.append_assoc]
        · split at h
          · next hx =>
            obtain ⟨v', hu', hv'⟩ := ih h
            obtain ⟨b', hb', hsplit'⟩ := exists_blanks u
            refine ⟨v ++ b ++ ',' :: (b' ++ v'), ?_,
              .more (hv.item_blanks hb) (hv'.blanks_items hb')⟩
            rw [hsplit, hx, hsplit', hu']
            simp
          · cases h

theorem container_of_ok
    (hitem : ∀ {cs r}, item cs = .ok r → ∃ v, cs = v ++ r ∧ Derives (.item c) v)
    (h : container item c.closing size cs = .ok r) :
    ∃ v, cs = v ++ r ∧ Derives .value (c.opening :: v) := by
  obtain ⟨b, hb, hsplit⟩ := exists_blanks cs
  simp only [container] at h
  split at h
  · next hhead =>
    obtain ⟨t, ht⟩ := List.head?_eq_some_iff.1 hhead
    rw [ht] at h hsplit
    cases h
    exact ⟨b ++ [c.closing], by rw [hsplit]; simp, .empty c hb⟩
  · obtain ⟨v, hv, hderives⟩ := items_of_ok hitem h
    refine ⟨b ++ v ++ [c.closing], ?_, .container c (hderives.blanks_items hb)⟩
    rw [hsplit, hv]
    simp

theorem member_of_ok
    (hitem : ∀ {cs r}, item cs = .ok r → ∃ v, cs = v ++ r ∧ Derives (.item .array) v)
    (h : member item cs = .ok r) : ∃ v, cs = v ++ r ∧ Derives (.item .object) v := by
  unfold member at h
  split at h
  · split at h
    · cases h
    · next t hstring =>
      obtain ⟨body, rfl, hbody⟩ := body_of_string hstring
      obtain ⟨b, hb, hsplit⟩ := exists_blanks t
      split at h
      · next u hu =>
        obtain ⟨v, hv, hderives⟩ := hitem h
        obtain ⟨b', hb', hsplit'⟩ := exists_blanks u
        refine ⟨[] ++ ('"' :: (body ++ ['"']) ++ (b ++ ':' :: (b' ++ v))), ?_,
          .member blanks_nil (.quoted hbody) hb (hderives.blanks_item hb')⟩
        rw [hsplit, hu, hsplit', hv]
        simp
      · cases h
  · cases h

theorem element_of_value (h : Derives .value v) : Derives (.item .array) v := by
  simpa using Derives.element blanks_nil h blanks_nil

theorem itemOf_of_ok (hvalue : ∀ {cs r}, value size room cs = .ok r →
      ∃ v, cs = v ++ r ∧ Derives .value v) (h : itemOf size room c cs = .ok r) :
    ∃ v, cs = v ++ r ∧ Derives (.item c) v := by
  have element : ∀ {cs r}, value size room cs = .ok r →
      ∃ v, cs = v ++ r ∧ Derives (.item .array) v := fun h =>
    (hvalue h).imp fun _ hv => ⟨hv.1, element_of_value hv.2⟩
  cases c with
  | array => exact element h
  | object => exact member_of_ok element h

theorem value_of_ok (h : value size room cs = .ok r) : ∃ v, cs = v ++ r ∧ Derives .value v := by
  induction room generalizing cs r with
  | zero =>
    rcases opening_or_scalar cs with ⟨c, t, rfl⟩ | hhead
    · rw [value_no_room] at h
      cases h
    · rw [value_scalar hhead] at h
      exact text_of_scalar h
  | succ room ih =>
    rcases opening_or_scalar cs with ⟨c, t, rfl⟩ | hhead
    · rw [value_opening] at h
      obtain ⟨v, rfl, hv⟩ := container_of_ok (itemOf_of_ok ih) h
      exact ⟨_, rfl, hv⟩
    · rw [value_scalar hhead] at h
      exact text_of_scalar h

/-! A text that there is no room for. -/

/-- In an open container, the text goes on to a place where `n` more are open. -/
def Reaches (c : Container) (n : Nat) (cs : List Char) : Prop :=
  ∃ before t, cs = before ++ t ∧ Within c before ∧ Opens n t

theorem Reaches.blanks (hb : Blanks b) (h : Reaches c n cs) : Reaches c n (b ++ cs) := by
  obtain ⟨before, t, rfl, hbefore, ht⟩ := h
  cases hbefore with
  | element hpassed =>
    cases hpassed with
    | nil => exact ⟨[], b ++ t, rfl, .element .nil, ht.blanks hb⟩
    | item hv hpassed =>
      refine ⟨_, t, ?_, .element (.item (hv.blanks_item hb) hpassed), ht⟩
      simp
  | member hpassed hb' hk hb'' =>
    cases hpassed with
    | nil =>
      refine ⟨_, t, ?_, .member .nil (hb.append hb') hk hb'', ht⟩
      simp
    | item hv hpassed =>
      refine ⟨_, t, ?_, .member (.item (hv.blanks_item hb) hpassed) hb' hk hb'', ht⟩
      simp

theorem Reaches.more (hv : Derives (.item c) v) (h : Reaches c n cs) :
    Reaches c n (v ++ ',' :: cs) := by
  obtain ⟨before, t, rfl, hbefore, ht⟩ := h
  cases hbefore with
  | element hpassed =>
    refine ⟨_, t, ?_, .element (.item hv hpassed), ht⟩
    simp
  | member hpassed hb' hk hb'' =>
    refine ⟨_, t, ?_, .member (.item hv hpassed) hb' hk hb'', ht⟩
    simp

theorem Reaches.opens (h : Reaches c n cs) : Opens (n + 1) (c.opening :: cs) := by
  obtain ⟨before, t, rfl, hbefore, ht⟩ := h
  exact .inside c blanks_nil hbefore ht

theorem items_tooDeep
    (hitem : ∀ {cs r}, item cs = .ok r → ∃ v, cs = v ++ r ∧ Derives (.item c) v)
    (hdeep : ∀ {cs}, item cs = .error .tooDeep → Reaches c n cs)
    (h : items item closing fuel cs = .error .tooDeep) : Reaches c n cs := by
  induction fuel generalizing cs with
  | zero => cases h
  | succ fuel ih =>
    rw [items_succ] at h
    split at h
    · next e he =>
      cases h
      exact hdeep he
    · next t ht =>
      obtain ⟨v, rfl, hv⟩ := hitem ht
      obtain ⟨b, hb, hsplit⟩ := exists_blanks t
      split at h
      · cases h
      · next x u hu =>
        rw [hu] at hsplit
        split at h
        · cases h
        · split at h
          · next hx =>
            obtain ⟨b', hb', hsplit'⟩ := exists_blanks u
            rw [hsplit, hx, ← List.append_assoc, hsplit']
            exact .more (hv.item_blanks hb) (.blanks hb' (ih h))
          · cases h

theorem container_tooDeep
    (hitem : ∀ {cs r}, item cs = .ok r → ∃ v, cs = v ++ r ∧ Derives (.item c) v)
    (hdeep : ∀ {cs}, item cs = .error .tooDeep → Reaches c n cs)
    (h : container item closing size cs = .error .tooDeep) : Reaches c n cs := by
  obtain ⟨b, hb, hsplit⟩ := exists_blanks cs
  simp only [container] at h
  split at h
  · cases h
  · rw [hsplit]
    exact .blanks hb (items_tooDeep hitem hdeep h)

theorem member_tooDeep (hdeep : ∀ {cs}, item cs = .error .tooDeep → Opens n cs)
    (h : member item cs = .error .tooDeep) : Reaches .object n cs := by
  unfold member at h
  split at h
  · split at h
    · next e he =>
      cases h
      exact absurd he (string_ne_tooDeep _)
    · next t hstring =>
      obtain ⟨body, rfl, hbody⟩ := body_of_string hstring
      obtain ⟨b, hb, hsplit⟩ := exists_blanks t
      split at h
      · next u hu =>
        obtain ⟨b', hb', hsplit'⟩ := exists_blanks u
        refine ⟨_, u, ?_, .member .nil blanks_nil (.quoted hbody) hb, ?_⟩
        · rw [hsplit, hu]
          simp
        · rw [hsplit']
          exact (hdeep h).blanks hb'
      · cases h
  · cases h

theorem itemOf_tooDeep (hdeep : ∀ {cs}, value size room cs = .error .tooDeep → Opens n cs)
    (h : itemOf size room c cs = .error .tooDeep) : Reaches c n cs := by
  cases c with
  | array => exact ⟨[], cs, rfl, .element .nil, hdeep h⟩
  | object => exact member_tooDeep hdeep h

theorem opens_of_tooDeep (h : value size room cs = .error .tooDeep) : Opens (room + 1) cs := by
  induction room generalizing cs with
  | zero =>
    rcases opening_or_scalar cs with ⟨c, t, rfl⟩ | hhead
    · exact .one c blanks_nil
    · rw [value_scalar hhead] at h
      exact absurd h (scalar_ne_tooDeep cs)
  | succ room ih =>
    rcases opening_or_scalar cs with ⟨c, t, rfl⟩ | hhead
    · rw [value_opening] at h
      exact (container_tooDeep (itemOf_of_ok value_of_ok) (itemOf_tooDeep ih) h).opens
    · rw [value_scalar hhead] at h
      exact absurd h (scalar_ne_tooDeep cs)

end PathPolicy.Json
