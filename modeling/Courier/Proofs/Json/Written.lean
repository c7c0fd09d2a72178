import Courier.Proofs.Json.Text

/-!
# Proofs — Json — Written

The text of a value is read back as the value (`parse?_render`), where its numbers are integers of
64 bits and its arrays and objects do not stand too deep (`Written`).  The reader takes two units of
fuel at most for each character, so every value within a text has fuel enough (`ReadBack`).
-/

namespace Courier.Json
open Text

/-- No object in the value has two members of one name. -/
inductive Distinct : Json → Prop where
  | null : Distinct null
  | bool (b : Bool) : Distinct (bool b)
  | integer (n : Int) : Distinct (integer n)
  | decimal (d : Decimal) : Distinct (decimal d)
  | string (s : String) : Distinct (string s)
  | array {items : List Json} (h : ∀ item ∈ items, Distinct item) : Distinct (array items)
  | object {members : List (String × Json)} (hn : (members.map (·.1)).Nodup)
      (h : ∀ m ∈ members, Distinct m.2) : Distinct (object members)

/-- A value as the program writes it, with arrays and objects at most `depth` deep. -/
inductive Written : Nat → Json → Prop where
  | null (depth : Nat) : Written depth null
  | bool (depth : Nat) (b : Bool) : Written depth (bool b)
  | integer (depth : Nat) {n : Int} (h : n.natAbs < 2 ^ 64) : Written depth (integer n)
  | string (depth : Nat) (s : String) : Written depth (string s)
  | array {depth : Nat} {items : List Json} (h : ∀ item ∈ items, Written depth item) :
      Written (depth + 1) (array items)
  | object {depth : Nat} {members : List (String × Json)} (hn : (members.map (·.1)).Nodup)
      (h : ∀ m ∈ members, Written depth m.2) : Written (depth + 1) (object members)

variable {fuel most depth : Nat} {v : Json} {s rest : List Char}

/-- No object that is written has two members of one name. -/
theorem Written.distinct (h : Written depth v) : v.Distinct := by
  induction h with
  | null => exact .null
  | bool _ b => exact .bool b
  | integer _ _ => exact .integer _
  | string _ s => exact .string s
  | array _ ih => exact .array ih
  | object hn _ ih => exact .object hn ih

/-! ### The text -/

theorem toList_quoted (s : String) :
    (quoted s).toList = quoteMark :: (s.toList.flatMap escapeChar ++ [quoteMark]) :=
  String.toList_ofList

theorem toList_render_array (items : List Json) :
    (array items).render.toList = '[' :: ((renderItems items).toList ++ [']']) := by
  rw [render, String.toList_append, String.toList_append]
  rfl

theorem toList_render_object (members : List (String × Json)) :
    (object members).render.toList = '\x7b' :: ((renderMembers members).toList ++ ['\x7d']) := by
  rw [render, String.toList_append, String.toList_append]
  rfl

theorem toList_renderItems_cons (item next : Json) (items : List Json) :
    (renderItems (item :: next :: items)).toList =
      item.render.toList ++ ',' :: (renderItems (next :: items)).toList := by
  rw [renderItems, String.toList_append, String.toList_append, List.append_assoc]
  · rfl
  · exact List.cons_ne_nil _ _

theorem toList_renderMembers_single (name : String) (v : Json) :
    (renderMembers [(name, v)]).toList = (quoted name).toList ++ ':' :: v.render.toList := by
  rw [renderMembers, String.toList_append, String.toList_append, List.append_assoc]
  rfl

theorem toList_renderMembers_cons (name : String) (v : Json) (next : String × Json)
    (members : List (String × Json)) :
    (renderMembers ((name, v) :: next :: members)).toList =
      (quoted name).toList ++
        ':' :: (v.render.toList ++ ',' :: (renderMembers (next :: members)).toList) := by
  rw [renderMembers]
  · simp only [String.toList_append, List.append_assoc]
    rfl
  · exact List.cons_ne_nil _ _

/-- An integer is written with its sign, if it is below zero, and its digits. -/
theorem toList_render_integer (n : Int) :
    (integer n).render.toList =
      if n < 0 then '-' :: natDigits n.natAbs else natDigits n.natAbs := by
  rw [render, intText]
  split
  · exact String.toList_ofList
  · exact String.toList_ofList

/-- A text starts with neither a blank nor a bracket that closes. -/
def Opens (s : List Char) : Prop :=
  ∃ c t, s = c :: t ∧ ¬(c = ' ' ∨ c = '\t' ∨ c = '\n' ∨ c = '\r') ∧ c ≠ ']'

/-- The text of a value starts with a character of its own, and no blank. -/
theorem Written.opens_render (h : Written depth v) : Opens v.render.toList := by
  cases h with
  | null => exact ⟨'n', _, rfl, by decide, by decide⟩
  | bool _ b =>
      cases b with
      | false => exact ⟨'f', _, rfl, by decide, by decide⟩
      | true => exact ⟨'t', _, rfl, by decide, by decide⟩
  | @integer _ n _ =>
      rw [toList_render_integer]
      split
      · exact ⟨'-', _, rfl, by decide, by decide⟩
      · obtain ⟨c, d, t, hdigits, hd⟩ :=
          (spells_natDigits n.natAbs).exists_cons (natDigits_ne_nil _)
        refine ⟨c, t, hdigits, ?_, ?_⟩
        · rintro (rfl | rfl | rfl | rfl) <;> cases hd
        · rintro rfl
          cases hd
  | string _ s => exact ⟨_, _, toList_quoted s, by decide, by decide⟩
  | array _ => exact ⟨_, _, toList_render_array _, by decide, by decide⟩
  | object _ _ => exact ⟨_, _, toList_render_object _, by decide, by decide⟩

/-- The elements of an array start with the text of the first. -/
theorem opens_renderItems {items : List Json} (h : ∀ item ∈ v :: items, Written depth item) :
    Opens (renderItems (v :: items)).toList := by
  obtain ⟨c, t, hhead, hc⟩ := (h v List.mem_cons_self).opens_render
  cases items with
  | nil => exact ⟨c, t, hhead, hc⟩
  | cons next items => exact ⟨c, _, by rw [toList_renderItems_cons, hhead, List.cons_append], hc⟩

/-- The members of an object start with a quotation mark. -/
theorem exists_renderMembers (m : String × Json) (members : List (String × Json)) :
    ∃ t, (renderMembers (m :: members)).toList = quoteMark :: t := by
  obtain ⟨name, v⟩ := m
  cases members with
  | nil => exact ⟨_, by rw [toList_renderMembers_single, toList_quoted, List.cons_append]⟩
  | cons next members =>
      exact ⟨_, by rw [toList_renderMembers_cons, toList_quoted, List.cons_append]⟩

/-! ### Reading the text -/

/-- The value is read back from its text, where no more than `depth` arrays and objects are open in
it at a time and something follows that closes it. -/
def ReadBack (depth : Nat) (v : Json) : Prop :=
  ∀ ⦃fuel most : Nat⦄ ⦃rest : List Char⦄, 2 * v.render.toList.length ≤ fuel → depth < most →
    Closes rest → value? fuel most (v.render.toList ++ rest) = some (v, rest)

/-- A digit begins a number without a sign. -/
theorem value?_digits {c : Char} {d : Nat} (h : digitValue? c = some d) (s : List Char) :
    value? (fuel + 1) most (c :: s) = number? false (c :: s) := by
  have hne : ∀ e, digitValue? e = none → c ≠ e := by
    rintro e he rfl
    rw [he] at h
    cases h
  rw [value?, skipBlanks_cons]
  · -- each of the other values starts with a character that is no digit
    split
    all_goals rename_i heq
    · cases heq
    · exact absurd (List.cons.inj heq).1 (hne _ rfl)
    · exact absurd (List.cons.inj heq).1 (hne _ rfl)
    · exact absurd (List.cons.inj heq).1 (hne _ rfl)
    · exact absurd (List.cons.inj heq).1 (hne _ rfl)
    · exact absurd (List.cons.inj heq).1 (hne _ rfl)
    · exact absurd (List.cons.inj heq).1 (hne _ rfl)
    · exact absurd (List.cons.inj heq).1 (hne _ rfl)
    · rfl
  · rintro (rfl | rfl | rfl | rfl) <;> cases h

/-- The first character of a text takes one call. -/
theorem readBack_of_cons {c : Char} {t : List Char} (hv : v.render.toList = c :: t)
    (h : ∀ ⦃fuel most : Nat⦄ ⦃rest : List Char⦄, 2 * t.length < fuel → depth < most →
      Closes rest → value? (fuel + 1) most (c :: (t ++ rest)) = some (v, rest)) :
    ReadBack depth v := by
  intro fuel most rest hf hd hr
  rw [hv, List.length_cons] at hf
  obtain ⟨fuel, rfl⟩ := Nat.exists_eq_add_of_le' (show 1 ≤ fuel by omega)
  rw [hv]
  exact h (by omega) hd hr

theorem afterWord?_append (word rest : List Char) : afterWord? word (word ++ rest) = some rest := by
  induction word with
  | nil => rfl
  | cons c word ih => rw [List.cons_append, afterWord?, if_pos rfl, ih]

theorem readBack_null (depth : Nat) : ReadBack depth null := by
  refine readBack_of_cons (c := 'n') (t := "ull".toList) rfl fun fuel most rest _ _ _ => ?_
  rw [value?, skipBlanks_cons (by decide)]
  simp only [afterWord?_append, Option.map_some]

theorem readBack_bool (depth : Nat) (b : Bool) : ReadBack depth (bool b) := by
  cases b with
  | false =>
      refine readBack_of_cons (c := 'f') (t := "alse".toList) rfl fun fuel most rest _ _ _ => ?_
      rw [value?, skipBlanks_cons (by decide)]
      simp only [afterWord?_append, Option.map_some]
  | true =>
      refine readBack_of_cons (c := 't') (t := "rue".toList) rfl fun fuel most rest _ _ _ => ?_
      rw [value?, skipBlanks_cons (by decide)]
      simp only [afterWord?_append, Option.map_some]

/-- An integer is read back. -/
theorem readBack_integer (depth : Nat) {n : Int} (h : n.natAbs < 2 ^ 64) :
    ReadBack depth (integer n) := by
  by_cases hneg : n < 0
  · have htext : (integer n).render.toList = '-' :: natDigits n.natAbs := by
      rw [toList_render_integer, if_pos hneg]
    refine readBack_of_cons htext fun fuel most rest _ _ hr => ?_
    have hread := number?_natDigits true h (fun _ => by omega) hr
    have hvalue : -(n.natAbs : Int) = n := by omega
    rw [if_pos rfl, hvalue] at hread
    rw [value?, skipBlanks_cons (by decide)]
    exact hread
  · obtain ⟨c, d, t, hdigits, hd⟩ :=
      (spells_natDigits n.natAbs).exists_cons (natDigits_ne_nil _)
    have htext : (integer n).render.toList = c :: t := by
      rw [toList_render_integer, if_neg hneg, hdigits]
    refine readBack_of_cons htext fun fuel most rest _ _ hr => ?_
    have hread := number?_natDigits false h (fun hfalse => by cases hfalse) hr
    have hvalue : (n.natAbs : Int) = n := by omega
    rw [if_neg Bool.false_ne_true, hvalue, hdigits] at hread
    rw [value?_digits hd]
    exact hread

/-- A string is read back. -/
theorem readBack_string (depth : Nat) (s : String) : ReadBack depth (string s) := by
  refine readBack_of_cons (toList_quoted s) fun fuel most rest _ _ _ => ?_
  rw [value?, skipBlanks_cons (by decide), List.append_assoc]
  show (string? (s.toList.flatMap escapeChar ++ quoteMark :: rest)).map _ = _
  rw [string?_quoted, Option.map_some]

/-- Elements that are read back one by one are read back as an array. -/
theorem items?_render {items : List Json} (hi : items ≠ []) (hr : ∀ v ∈ items, ReadBack depth v)
    (hd : depth < most) (hf : 2 * (renderItems items).toList.length + 1 ≤ fuel)
    (read : List Json) (rest : List Char) :
    items? fuel most read ((renderItems items).toList ++ ']' :: rest) =
      some (array (read.reverse ++ items), rest) := by
  -- a call for each element, and one for its value: two units for its first character
  induction items generalizing fuel read with
  | nil => exact absurd rfl hi
  | cons v items ih =>
      obtain ⟨fuel, rfl⟩ := Nat.exists_eq_add_of_le' (show 1 ≤ fuel by omega)
      have hv := hr v List.mem_cons_self
      cases items with
      | nil =>
          rw [renderItems] at hf ⊢
          rw [items?, hv (by omega) hd (closes_cons (by decide) _)]
          simp only [skipBlanks_cons (c := ']') (by decide), List.reverse_cons]
      | cons next items =>
          rw [toList_renderItems_cons, List.length_append, List.length_cons] at hf
          rw [toList_renderItems_cons, List.append_assoc, items?,
            List.cons_append, hv (by omega) hd (closes_cons (by decide) _)]
          simp only [skipBlanks_cons (c := ',') (by decide)]
          rw [ih (List.cons_ne_nil _ _) (fun w hw => hr w (List.mem_cons_of_mem _ hw)) (by omega),
            List.reverse_cons, List.append_assoc]
          rfl

/-- The name of a member is read. -/
theorem string?_name (name : String) (s : List Char) :
    string? (name.toList.flatMap escapeChar ++ '\x22' :: ':' :: s) = some (name, ':' :: s) :=
  string?_quoted name _

/-- A member with others after it. -/
theorem members?_more (name : String) (read : List (String × Json))
    (h : value? fuel most s = some (v, ',' :: rest)) :
    members? (fuel + 1) most read ((quoted name).toList ++ ':' :: s) =
      members? fuel most ((name, v) :: read) rest := by
  rw [toList_quoted, List.cons_append, List.append_assoc, members?, skipBlanks_cons (by decide)]
  simp only [quoteMark, List.singleton_append, string?_name, skipBlanks_cons (c := ':') (by decide),
    h, skipBlanks_cons (c := ',') (by decide)]

/-- The last member. -/
theorem members?_last (name : String) (read : List (String × Json))
    (h : value? fuel most s = some (v, '\x7d' :: rest)) :
    members? (fuel + 1) most read ((quoted name).toList ++ ':' :: s) =
      some (object ((name, v) :: read).reverse, rest) := by
  rw [toList_quoted, List.cons_append, List.append_assoc, members?, skipBlanks_cons (by decide)]
  simp only [quoteMark, List.singleton_append, string?_name, skipBlanks_cons (c := ':') (by decide),
    h, skipBlanks_cons (c := '\x7d') (by decide)]

/-- Members that are read back one by one are read back as an object. -/
theorem members?_render {members : List (String × Json)} (hm : members ≠ [])
    (hr : ∀ m ∈ members, ReadBack depth m.2) (hd : depth < most)
    (hf : 2 * (renderMembers members).toList.length + 1 ≤ fuel) (read : List (String × Json))
    (rest : List Char) :
    members? fuel most read ((renderMembers members).toList ++ '\x7d' :: rest) =
      some (object (read.reverse ++ members), rest) := by
  induction members generalizing fuel read with
  | nil => exact absurd rfl hm
  | cons m members ih =>
      obtain ⟨name, v⟩ := m
      obtain ⟨fuel, rfl⟩ := Nat.exists_eq_add_of_le' (show 1 ≤ fuel by omega)
      have hv : ReadBack depth v := hr (name, v) List.mem_cons_self
      cases members with
      | nil =>
          rw [toList_renderMembers_single] at hf ⊢
          simp only [List.length_cons, List.length_append] at hf
          rw [List.append_assoc, List.cons_append,
            members?_last name read (hv (by omega) hd (closes_cons (by decide) _)),
            List.reverse_cons]
      | cons next members =>
          rw [toList_renderMembers_cons] at hf ⊢
          simp only [List.length_cons, List.length_append] at hf
          rw [List.append_assoc, List.cons_append, List.append_assoc, List.cons_append,
            members?_more name read (hv (by omega) hd (closes_cons (by decide) _)),
            ih (List.cons_ne_nil _ _) (fun w hw => hr w (List.mem_cons_of_mem _ hw)) (by omega),
            List.reverse_cons, List.append_assoc]
          rfl

/-- An array is read back, if its elements are. -/
theorem readBack_array {items : List Json} (hw : ∀ v ∈ items, Written depth v)
    (hr : ∀ v ∈ items, ReadBack depth v) : ReadBack (depth + 1) (array items) := by
  refine readBack_of_cons (toList_render_array items) fun fuel most rest hf hd _ => ?_
  rw [List.length_append] at hf
  rw [List.append_assoc, List.singleton_append, value?, skipBlanks_cons (by decide)]
  simp only
  rw [if_neg (by omega)]
  cases items with
  | nil => rfl
  | cons v items =>
      have hitems : items? fuel (most - 1) [] ((renderItems (v :: items)).toList ++ ']' :: rest) =
          some (array (v :: items), rest) :=
        items?_render (List.cons_ne_nil v items) hr (by omega) (by omega) [] rest
      -- no element starts with the bracket that tells an empty array apart
      obtain ⟨c, t, hhead, hblank, hbracket⟩ := opens_renderItems hw
      rw [hhead, List.cons_append] at hitems
      rw [hhead, List.cons_append, skipBlanks_cons hblank]
      split
      · rename_i heq
        exact absurd (List.cons.inj heq).1 hbracket
      · exact hitems

/-- An object is read back, if its members are. -/
theorem readBack_object {members : List (String × Json)}
    (hr : ∀ m ∈ members, ReadBack depth m.2) : ReadBack (depth + 1) (object members) := by
  refine readBack_of_cons (toList_render_object members) fun fuel most rest hf hd _ => ?_
  rw [List.length_append] at hf
  rw [List.append_assoc, List.singleton_append, value?, skipBlanks_cons (by decide)]
  simp only
  rw [if_neg (by omega)]
  cases members with
  | nil => rfl
  | cons m members =>
      have hmembers : members? fuel (most - 1) []
          ((renderMembers (m :: members)).toList ++ '\x7d' :: rest) =
            some (object (m :: members), rest) :=
        members?_render (List.cons_ne_nil m members) hr (by omega) (by omega) [] rest
      obtain ⟨t, hhead⟩ := exists_renderMembers m members
      rw [hhead, List.cons_append] at hmembers
      rw [hhead, List.cons_append, skipBlanks_cons (by decide)]
      exact hmembers

/-- Every value is read back. -/
theorem Written.readBack (h : Written depth v) : ReadBack depth v := by
  induction h with
  | null depth => exact readBack_null depth
  | bool depth b => exact readBack_bool depth b
  | integer depth h => exact readBack_integer depth h
  | string depth s => exact readBack_string depth s
  | array hw ih => exact readBack_array hw ih
  | object _ _ ih => exact readBack_object ih

/-- **The text of a value is read back**, where arrays and objects stand at most 127 deep. -/
theorem parse?_render (h : Written depth v) (hd : depth < 128) : parse? v.render = some v := by
  have hread := h.readBack (Nat.le_add_right (2 * v.render.toList.length) 2) hd closes_nil
  rw [List.append_nil] at hread
  rw [parse?, whole?, hread]
  rfl

end Courier.Json
