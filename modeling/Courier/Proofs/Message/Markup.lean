import Courier.Message.Html

/-!
# Proofs — Message — Markup

The HTML that Telegram takes, as a grammar.  A message is a row of plain characters, entities, and
elements in bold or with an address; what stands inside an element is text without elements, so that
tags are balanced and never nested (`Markup`, `Words`).

* `words_escape`: an escaped text is free of tags, whatever it was.
* `Words.cut`: so is what is left of such a text when it is cut.
* `markup_joinWithin`: lines that are well formed one by one are so together, also where some do not
  fit.
-/

namespace Courier.Html

/-- The character is not markup. -/
def IsPlain (c : Char) : Prop := c ≠ '<' ∧ c ≠ '>' ∧ c ≠ '&' ∧ c ≠ '\x22'

instance (c : Char) : Decidable (IsPlain c) :=
  inferInstanceAs (Decidable (_ ∧ _))

/-- No character is markup. -/
abbrev Plain (s : List Char) : Prop := ∀ c ∈ s, IsPlain c

instance (s : List Char) : Decidable (Plain s) := List.decidableBAll _ s

/-- A complete entity. -/
inductive Entity : List Char → Prop where
  | ampersand : Entity "&amp;".toList
  | less : Entity "&lt;".toList
  | greater : Entity "&gt;".toList
  | quote : Entity "&quot;".toList

/-- Text without tags: plain characters and complete entities. -/
inductive Words : List Char → Prop where
  | nil : Words []
  | plain {c : Char} {rest : List Char} (h : IsPlain c) (t : Words rest) : Words (c :: rest)
  | entity {e rest : List Char} (h : Entity e) (t : Words rest) : Words (e ++ rest)

/-- Text with tags around some of its parts. -/
inductive Markup : List Char → Prop where
  | nil : Markup []
  | plain {c : Char} {rest : List Char} (h : IsPlain c) (t : Markup rest) : Markup (c :: rest)
  | entity {e rest : List Char} (h : Entity e) (t : Markup rest) : Markup (e ++ rest)
  | bold {text rest : List Char} (h : Words text) (t : Markup rest) :
      Markup ("<b>".toList ++ text ++ "</b>".toList ++ rest)
  | link {url label rest : List Char} (hu : Words url) (hl : Words label) (t : Markup rest) :
      Markup ("<a href=\x22".toList ++ url ++ "\x22>".toList ++ label ++ "</a>".toList ++ rest)

/-! ### Text without tags -/

theorem Words.append {s t : List Char} (hs : Words s) (ht : Words t) : Words (s ++ t) := by
  induction hs with
  | nil => exact ht
  | plain h _ ih => exact .plain h ih
  | entity h _ ih =>
      rw [List.append_assoc]
      exact .entity h ih

/-- Plain text is made of words. -/
theorem words_of_plain {s : List Char} (h : Plain s) : Words s := by
  induction s with
  | nil => exact .nil
  | cons c rest ih =>
      exact .plain (h c List.mem_cons_self) (ih fun d hd => h d (List.mem_cons_of_mem c hd))

theorem Entity.words {e : List Char} (h : Entity e) : Words e := by
  simpa using Words.entity h .nil

theorem escape_cons (c : Char) (rest : List Char) :
    escape (c :: rest) = escapeChar c ++ escape rest := rfl

/-- A character is escaped as an entity, or stands for itself. -/
theorem escapeChar_cases (c : Char) : Entity (escapeChar c) ∨ IsPlain c ∧ escapeChar c = [c] := by
  unfold escapeChar
  split
  · exact .inl .ampersand
  · split
    · exact .inl .less
    · split
      · exact .inl .greater
      · split
        · exact .inl .quote
        · exact .inr ⟨⟨‹_›, ‹_›, ‹_›, ‹_›⟩, rfl⟩

/-- What a character is escaped as is made of words. -/
theorem words_escapeChar (c : Char) : Words (escapeChar c) := by
  rcases escapeChar_cases c with he | ⟨hc, he⟩
  · exact he.words
  · rw [he]
    exact .plain hc .nil

/-- An escaped text is free of tags. -/
theorem words_escape (s : List Char) : Words (escape s) := by
  induction s with
  | nil => exact .nil
  | cons c rest ih => exact (words_escapeChar c).append ih

/-! ### Cutting -/

/-- A text after a complete entity is cut as it is without it. -/
theorem beforeOpenEntity?_entity {e : List Char} (h : Entity e) (t : List Char) :
    beforeOpenEntity? (e ++ t) = (beforeOpenEntity? t).map (e ++ ·) := by
  cases h <;> cases ht : beforeOpenEntity? t <;> simp [beforeOpenEntity?, ht]

/-- A plain character stays, where there is room for it. -/
theorem cut_plain {c : Char} (h : IsPlain c) (t : List Char) (limit : Nat) :
    cut (c :: t) (limit + 1) = c :: cut t limit := by
  rw [cut, cut, List.take_succ_cons, beforeOpenEntity?]
  cases beforeOpenEntity? (t.take limit) with
  | some kept => rfl
  | none => simp [h.2.2.1]

/-- An entity stays as a whole, where there is room for it. -/
theorem cut_entity {e : List Char} (h : Entity e) (t : List Char) (limit : Nat) :
    cut (e ++ t) (e.length + limit) = e ++ cut t limit := by
  rw [cut, cut, List.take_length_add_append, beforeOpenEntity?_entity h]
  cases beforeOpenEntity? (t.take limit) <;> rfl

/-- Where there is no room for an entity, nothing is left of it. -/
theorem cut_within_entity {e : List Char} (h : Entity e) (t : List Char) {limit : Nat}
    (hlimit : limit < e.length) : cut (e ++ t) limit = [] := by
  rw [cut, List.take_append_of_le_length (Nat.le_of_lt hlimit)]
  cases h <;> revert limit <;> decide

/-- **A cut never ends within an entity.** -/
theorem Words.cut {s : List Char} (h : Words s) (limit : Nat) : Words (cut s limit) := by
  induction h generalizing limit with
  | nil =>
      rw [Html.cut, List.take_nil]
      exact .nil
  | @plain c rest hc _ ih =>
      cases limit with
      | zero => exact .nil
      | succ n =>
          rw [cut_plain hc]
          exact .plain hc (ih n)
  | @entity e rest he _ ih =>
      by_cases hlimit : limit < e.length
      · rw [cut_within_entity he rest hlimit]
        exact .nil
      · obtain ⟨n, rfl⟩ := Nat.exists_eq_add_of_le (Nat.not_lt.mp hlimit)
        rw [cut_entity he]
        exact .entity he (ih n)

/-! ### Text with tags -/

/-- Words are markup. -/
theorem Words.markup {s : List Char} (h : Words s) : Markup s := by
  induction h with
  | nil => exact .nil
  | plain h _ ih => exact .plain h ih
  | entity h _ ih => exact .entity h ih

theorem markup_of_plain {s : List Char} (h : Plain s) : Markup s :=
  (words_of_plain h).markup

/-- Escaped text is markup. -/
theorem markup_escape (s : List Char) : Markup (escape s) := (words_escape s).markup

theorem Markup.append {s t : List Char} (hs : Markup s) (ht : Markup t) : Markup (s ++ t) := by
  induction hs with
  | nil => exact ht
  | plain h _ ih => exact .plain h ih
  | entity h _ ih =>
      rw [List.append_assoc]
      exact .entity h ih
  | bold h _ ih =>
      rw [List.append_assoc]
      exact .bold h ih
  | link hu hl _ ih =>
      rw [List.append_assoc]
      exact .link hu hl ih

/-- Bold text is markup. -/
theorem markup_bold (s : List Char) : Markup (bold s) := by
  rw [← List.append_nil (bold s)]
  exact .bold (words_escape s) .nil

/-- A link is markup. -/
theorem markup_link (url label : List Char) : Markup (link url label) := by
  rw [← List.append_nil (link url label)]
  exact .link (words_escape url) (words_escape label) .nil

/-- A text without the sign that opens a tag has no tags. -/
theorem Markup.words {s : List Char} (h : Markup s) (hs : '<' ∉ s) : Words s := by
  induction h with
  | nil => exact .nil
  | plain hc _ ih => exact .plain hc (ih fun h => hs (List.mem_cons_of_mem _ h))
  | entity he _ ih => exact .entity he (ih fun h => hs (List.mem_append_right _ h))
  | bold => exact absurd (by simp) hs
  | link => exact absurd (by simp) hs

/-! ### Lines -/

theorem isPlain_lineFeed : IsPlain '\n' := by decide

theorem markup_separator (isFirst : Bool) : Markup (separator isFirst) := by
  cases isFirst with
  | true => exact .nil
  | false => exact .plain isPlain_lineFeed .nil

/-- Lines of markup are joined to markup. -/
theorem markup_joinLines {lines : List (List Char)} (h : ∀ line ∈ lines, Markup line) :
    Markup (joinLines lines) := by
  induction lines with
  | nil => exact .nil
  | cons line rest ih =>
      obtain ⟨hline, hrest⟩ := List.forall_mem_cons.mp h
      cases rest with
      | nil => exact hline
      | cons next rest => exact hline.append (.plain isPlain_lineFeed (ih hrest))

/-- A tail of markup is markup. -/
theorem markup_tailText {tail : List (List Char)} (h : ∀ line ∈ tail, Markup line) :
    Markup (tailText tail) := by
  induction tail with
  | nil => exact .nil
  | cons line rest ih =>
      obtain ⟨hline, hrest⟩ := List.forall_mem_cons.mp h
      exact .plain isPlain_lineFeed (hline.append (ih hrest))

/-- What is left of lines is whole lines, and the start of one without tags. -/
theorem markup_fill {lines : List (List Char)} (h : ∀ line ∈ lines, Markup line) (isFirst : Bool)
    (budget : Nat) : Markup (fill isFirst budget lines) := by
  induction lines generalizing isFirst budget with
  | nil => exact .nil
  | cons line rest ih =>
      obtain ⟨hline, hrest⟩ := List.forall_mem_cons.mp h
      simp only [fill]
      split
      · exact ((markup_separator isFirst).append hline).append (ih hrest false _)
      · split
        · -- only a line without tags is cut
          rename_i hcut
          exact (markup_separator isFirst).append ((hline.words hcut.2).cut _).markup
        · exact .nil

/-- **Lines that are well formed one by one are so when they are joined**, whatever the limit. -/
theorem markup_joinWithin {lines tail : List (List Char)} (hl : ∀ line ∈ lines, Markup line)
    (ht : ∀ line ∈ tail, Markup line) (limit : Nat) : Markup (joinWithin lines tail limit) := by
  have hmark : Markup truncationMark := markup_of_plain (by decide)
  have htail := markup_tailText ht
  simp only [joinWithin]
  split
  · exact (markup_joinLines hl).append htail
  · exact ((markup_fill hl true _).append hmark).append htail

end Courier.Html
