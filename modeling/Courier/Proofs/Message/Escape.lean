import Courier.Proofs.Message.Markup

/-!
# Proofs — Message — Escape

Escaped text says what the text said, and when it is cut, what the start of the text says.

* `unescape`: entities are read from left to right, which undoes the escaping (`unescape_escape`).
* `LongestWithin`: the start of a text that has room when it is escaped.
* `escape_read_back_and_cut`: escaped text is read back, has no signs of tags or values, and is cut
  to such a start.
-/

namespace Courier.Html

/-- A text with its entities read from left to right; what is no entity stands for itself. -/
def unescape : List Char → List Char
  | '&' :: 'a' :: 'm' :: 'p' :: ';' :: rest => '&' :: unescape rest
  | '&' :: 'l' :: 't' :: ';' :: rest => '<' :: unescape rest
  | '&' :: 'g' :: 't' :: ';' :: rest => '>' :: unescape rest
  | '&' :: 'q' :: 'u' :: 'o' :: 't' :: ';' :: rest => '\x22' :: unescape rest
  | c :: rest => c :: unescape rest
  | [] => []

/-- `kept` is the longest start of a text that has room for `limit` characters when it is escaped. -/
structure LongestWithin (s : List Char) (limit : Nat) (kept : List Char) : Prop where
  start : kept <+: s
  length_le : (escape kept).length ≤ limit
  longest : ∀ other, other <+: s → (escape other).length ≤ limit → other <+: kept

/-! ### Reading -/

/-- What is no ampersand stands for itself. -/
theorem unescape_cons {c : Char} (h : c ≠ '&') (rest : List Char) :
    unescape (c :: rest) = c :: unescape rest := by
  rw [unescape]
  all_goals
    intros
    simp_all

/-- A character is read back from what it is escaped as. -/
theorem unescape_escapeChar (c : Char) (rest : List Char) :
    unescape (escapeChar c ++ rest) = c :: unescape rest := by
  unfold escapeChar
  split
  · next hc => exact hc ▸ rfl
  · next hamp =>
    split
    · next hc => exact hc ▸ rfl
    · split
      · next hc => exact hc ▸ rfl
      · split
        · next hc => exact hc ▸ rfl
        · exact unescape_cons hamp rest

/-- A text is read back from what it is escaped as. -/
theorem unescape_escape (s : List Char) : unescape (escape s) = s := by
  induction s with
  | nil => rfl
  | cons c rest ih =>
      rw [escape_cons, unescape_escapeChar, ih]

/-- An entity has none of the signs of tags and values. -/
theorem Entity.no_sign {e : List Char} (h : Entity e) :
    ∀ c ∈ e, c ≠ '<' ∧ c ≠ '>' ∧ c ≠ '\x22' := by
  have hall : e.all (fun c => c ≠ '<' ∧ c ≠ '>' ∧ c ≠ '\x22') = true := by
    cases h <;> decide
  exact fun c hc => of_decide_eq_true (List.all_eq_true.mp hall c hc)

/-- Escaped text has no sign of a tag or a value. -/
theorem no_sign_escape (s : List Char) : ∀ c ∈ escape s, c ≠ '<' ∧ c ≠ '>' ∧ c ≠ '\x22' := by
  intro c hc
  obtain ⟨d, -, hd⟩ := List.mem_flatMap.mp hc
  rcases escapeChar_cases d with he | ⟨hplain, he⟩
  · exact he.no_sign c hd
  · rw [he] at hd
    rw [List.mem_singleton.mp hd]
    exact ⟨hplain.1, hplain.2.1, hplain.2.2.2⟩

/-! ### Cutting -/

theorem cut_nil (limit : Nat) : cut [] limit = [] := by
  rw [cut, List.take_nil]
  rfl

/-- A character stays as a whole, or not at all. -/
theorem cut_escapeChar (c : Char) (t : List Char) (limit : Nat) :
    cut (escapeChar c ++ t) limit =
      if (escapeChar c).length ≤ limit then
        escapeChar c ++ cut t (limit - (escapeChar c).length)
      else [] := by
  rcases escapeChar_cases c with he | ⟨hc, he⟩
  · split
    · next hfits =>
      obtain ⟨n, rfl⟩ := Nat.exists_eq_add_of_le hfits
      rw [cut_entity he, Nat.add_sub_cancel_left]
    · next hover => exact cut_within_entity he t (Nat.lt_of_not_le hover)
  · rw [he]
    cases limit with
    | zero => rfl
    | succ n =>
        rw [if_pos (by simp)]
        exact cut_plain hc t n

/-- **Escaped text is cut to the longest start of the text that has room.** -/
theorem exists_cut_escape (s : List Char) (limit : Nat) :
    ∃ kept, LongestWithin s limit kept ∧ cut (escape s) limit = escape kept := by
  induction s generalizing limit with
  | nil =>
      refine ⟨[], ⟨List.prefix_refl _, Nat.zero_le _, fun _ h _ => h⟩, cut_nil limit⟩
  | cons c rest ih =>
      rw [escape_cons, cut_escapeChar]
      split
      · next hfits =>
        obtain ⟨kept, hkept, hcut⟩ := ih (limit - (escapeChar c).length)
        refine ⟨c :: kept, ⟨?_, ?_, ?_⟩, by rw [hcut, escape_cons]⟩
        · exact List.cons_prefix_cons.mpr ⟨rfl, hkept.start⟩
        · have hlength := hkept.length_le
          rw [escape_cons, List.length_append]
          omega
        · intro other hother hlength
          cases other with
          | nil => exact List.nil_prefix
          | cons d t =>
              obtain ⟨rfl, ht⟩ := List.cons_prefix_cons.mp hother
              rw [escape_cons, List.length_append] at hlength
              exact List.cons_prefix_cons.mpr ⟨rfl, hkept.longest t ht (by omega)⟩
      · next hover =>
        -- not even the first character has room
        refine ⟨[], ⟨List.nil_prefix, Nat.zero_le _, fun other hother hlength => ?_⟩, rfl⟩
        cases other with
        | nil => exact List.nil_prefix
        | cons d t =>
            obtain ⟨rfl, -⟩ := List.cons_prefix_cons.mp hother
            rw [escape_cons, List.length_append] at hlength
            omega

/-- **Escaped text is read back as what it was, has no sign of a tag or a value, and is cut to the
longest start of the text that has room**, whatever entities the text itself may spell. -/
theorem escape_read_back_and_cut (s : List Char) :
    unescape (escape s) = s ∧ (∀ c ∈ escape s, c ≠ '<' ∧ c ≠ '>' ∧ c ≠ '\x22') ∧
      ∀ limit, ∃ kept, LongestWithin s limit kept ∧ cut (escape s) limit = escape kept :=
  ⟨unescape_escape s, no_sign_escape s, exists_cut_escape s⟩

example : cut (escape "a&lt;<b".toList) 12 = escape "a&lt;".toList := by decide

end Courier.Html
