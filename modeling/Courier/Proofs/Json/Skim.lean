import Courier.Json.Skim
import Mathlib.Data.List.Forall2

/-!
# Proofs — Json — Skim

Skimming a record finds in it what reading it in full finds.

* `skipValue?_of_value?`: a value that can be read is passed over to where its reading ends.
  Passing over asks for less than reading, so the converse fails.
* `keep`: what is kept of a record, and `Keeps`: a reader that keeps so much of what can be read.
  A skimmed record keeps the fields asked for (`KeepFields.skim?`), and so does a text that is one
  value (`Keeps.whole?`).
-/

namespace Courier.Json

variable {fuel depth : Nat} {s rest : List Char} {v : Json}

/-! ### Strings and numbers -/

/-- The digits of an escape are passed over. -/
theorem skipString?_unit {n : Nat} (h : hexUnit? s = some (n, rest)) :
    skipString? ('\\' :: 'u' :: s) = skipString? rest := by
  unfold hexUnit? at h
  split at h
  · next a b c d rest' =>
    obtain ⟨m, hm, heq⟩ := Option.map_eq_some_iff.mp h
    cases heq
    rw [skipString?, if_pos (by rw [hm]; rfl)]
  · cases h

/-- So are both halves of a pair. -/
theorem skipString?_unicode {c : Char} (h : unicodeEscape? s = some (c, rest)) :
    skipString? ('\\' :: 'u' :: s) = skipString? rest := by
  unfold unicodeEscape? at h
  split at h
  · cases h
  · next n rest' hunit =>
    rw [skipString?_unit hunit]
    split at h
    · cases h
    split at h
    · split at h
      · split at h
        · next hlow =>
          split at h
          · obtain rfl := (Prod.mk.inj (Option.some.inj h)).2
            exact skipString?_unit hlow
          · cases h
        · cases h
      · cases h
    · cases h
      rfl

/-- An escape other than `\u` is passed over. -/
theorem skipString?_short {c e : Char} (h : shortEscape? c = some e) :
    skipString? ('\\' :: c :: s) = skipString? s := by
  have hu : c ≠ 'u' := by
    rintro rfl
    cases h
  rw [skipString?]
  · rw [if_pos (by rw [h]; rfl)]
  · rintro a b d e' rest' rfl
    exact absurd rfl hu

/-- The characters of a string are passed over up to its closing quote. -/
theorem skipString?_of_stringBody? {read cs : List Char}
    (h : stringBody? fuel read s = some (cs, rest)) : skipString? s = some rest := by
  fun_induction stringBody? fuel read s with
  | case1 => cases h
  | case2 => cases h
  | case3 =>
      cases h
      rfl
  | case4 => cases h
  | case5 fuel read rest' d rest'' hescape hquote hcontrol ih =>
      rw [skipString?_unicode hescape]
      exact ih h
  | case6 => cases h
  | case7 fuel read d rest' hd e hescape hquote hcontrol ih =>
      rw [skipString?_short hescape]
      exact ih h
  | case8 => cases h
  | case9 => cases h
  | case10 fuel read c rest' hquote hcontrol hslash ih =>
      rw [skipString?, if_neg (not_or.mpr ⟨hcontrol, hslash⟩)]
      · exact ih h
      · exact hquote
      · exact fun _ _ _ _ _ hc _ => hslash hc
      · exact fun _ _ hc _ => hslash hc

/-- A string is passed over. -/
theorem skipString?_of_string? {t : String} (h : string? s = some (t, rest)) :
    skipString? s = some rest := by
  obtain ⟨⟨cs, rest'⟩, hbody, heq⟩ := Option.map_eq_some_iff.mp h
  obtain rfl := (Prod.mk.inj heq).2
  exact skipString?_of_stringBody? hbody

/-- A number is passed over, whatever its sign. -/
theorem skipNumber?_of_number? {negative : Bool} (h : number? negative s = some (v, rest)) :
    skipNumber? s = some rest := by
  unfold number? at h
  split at h
  · cases h
  · next whole afterWhole hwhole =>
    split at h
    · cases h
    · next places digits afterFraction hfraction =>
      split at h
      · cases h
      · next exponent afterExponent hexponent =>
        have hrest : afterExponent = rest := by
          simp only at h
          split at h
          · cases h
          split at h
          · cases h
            rfl
          · cases h
            rfl
        simp only [skipNumber?, hwhole, hfraction, hexponent, Option.map_some, hrest]

/-! ### Values -/

/-- With so much fuel, what can be read is passed over. -/
structure Skips (fuel : Nat) : Prop where
  value : ∀ {depth s v rest}, value? fuel depth s = some (v, rest) →
    skipValue? fuel s = some rest
  items : ∀ {depth read s v rest}, items? fuel depth read s = some (v, rest) →
    skipItems? fuel s = some rest
  members : ∀ {depth read s v rest}, members? fuel depth read s = some (v, rest) →
    skipMembers? fuel s = some rest

/-- What follows a value that was read. -/
theorem rest_of_map {α : Type} {f : α → Json} {x : Option (α × List Char)}
    (h : x.map (fun (a, r) => (f a, r)) = some (v, rest)) : ∃ a, x = some (a, rest) := by
  obtain ⟨⟨a, r⟩, hx, heq⟩ := Option.map_eq_some_iff.mp h
  exact ⟨a, hx.trans (congrArg (fun r => some (a, r)) (Prod.mk.inj heq).2)⟩

/-- What follows a word that was read. -/
theorem rest_of_word {w : Json} {x : Option (List Char)} (h : x.map (w, ·) = some (v, rest)) :
    x = some rest := by
  obtain ⟨r, hx, heq⟩ := Option.map_eq_some_iff.mp h
  rw [hx, (Prod.mk.inj heq).2]

/-- A value is passed over if its parts are. -/
theorem Skips.value_succ (hf : Skips fuel) (h : value? (fuel + 1) depth s = some (v, rest)) :
    skipValue? (fuel + 1) s = some rest := by
  rw [value?] at h
  -- the first character tells the kinds of value apart, in both readings alike
  split at h
  · cases h
  · next after heq =>
    rw [skipValue?]
    simp only [heq]
    exact rest_of_word h
  · next after heq =>
    rw [skipValue?]
    simp only [heq]
    exact rest_of_word h
  · next after heq =>
    rw [skipValue?]
    simp only [heq]
    exact rest_of_word h
  · next after heq =>
    rw [skipValue?]
    simp only [heq]
    exact skipNumber?_of_number? h
  · next after heq =>
    split at h
    · cases h
    split at h
    · next heq' =>
      cases h
      rw [skipValue?]
      simp only [heq, heq']
    · next hne =>
      rw [skipValue?]
      simp only [heq]
      exact hf.items h
  · next after heq =>
    split at h
    · cases h
    split at h
    · next heq' =>
      cases h
      rw [skipValue?]
      simp only [heq, heq']
    · next hne =>
      rw [skipValue?]
      simp only [heq]
      exact hf.members h
  · next after heq =>
    obtain ⟨t, ht⟩ := rest_of_map h
    rw [skipValue?]
    simp only [heq]
    exact skipString?_of_string? ht
  · next hnil hn ht hf' hminus hbracket hbrace hquote =>
    rw [skipValue?]
    split
    · next heq => exact absurd heq hnil
    · next heq => exact absurd heq (hn _)
    · next heq => exact absurd heq (ht _)
    · next heq => exact absurd heq (hf' _)
    · next heq => exact absurd heq (hminus _)
    · next heq => exact absurd heq (hbracket _)
    · next heq => exact absurd heq (hbrace _)
    · next heq => exact absurd heq (hquote _)
    · exact skipNumber?_of_number? h

/-- Elements are passed over if the first of them and the others are. -/
theorem Skips.items_succ (hf : Skips fuel) {read : List Json}
    (h : items? (fuel + 1) depth read s = some (v, rest)) :
    skipItems? (fuel + 1) s = some rest := by
  rw [items?] at h
  split at h
  · cases h
  · next item after hitem =>
    split at h
    · next heq =>
      rw [skipItems?, hf.value hitem]
      simp only [heq]
      exact hf.items h
    · next heq =>
      cases h
      rw [skipItems?, hf.value hitem]
      simp only [heq]
    · cases h

/-- So are members. -/
theorem Skips.members_succ (hf : Skips fuel) {read : List (String × Json)}
    (h : members? (fuel + 1) depth read s = some (v, rest)) :
    skipMembers? (fuel + 1) s = some rest := by
  rw [members?] at h
  split at h
  · next afterQuote hquote =>
    split at h
    · cases h
    · next name afterName hname =>
      split at h
      · next afterColon hcolon =>
        split at h
        · cases h
        · next item after hitem =>
          split at h
          · next heq =>
            rw [skipMembers?]
            simp only [hquote, skipString?_of_string? hname, hcolon, hf.value hitem, heq]
            exact hf.members h
          · next heq =>
            cases h
            rw [skipMembers?]
            simp only [hquote, skipString?_of_string? hname, hcolon, hf.value hitem, heq]
          · cases h
      · cases h
  · cases h

/-- So all that can be read is passed over. -/
theorem skips (fuel : Nat) : Skips fuel := by
  induction fuel with
  | zero => exact { value := nofun, items := nofun, members := nofun }
  | succ fuel ih => exact ⟨ih.value_succ, ih.items_succ, ih.members_succ⟩

/-- **A value that can be read is passed over to where its reading ends.** -/
theorem skipValue?_of_value? (h : value? fuel depth s = some (v, rest)) :
    skipValue? fuel s = some rest :=
  (skips fuel).value h

/-! ### What is kept of a record -/

/-- What is kept of the values of a record's fields. -/
abbrev Kept := List (String × (Json → Json))

/-- The members of a record for the fields that are kept. -/
def keepMembers (kept : Kept) (members : List (String × Json)) : List (String × Json) :=
  members.filterMap fun m => (kept.lookup m.1).map fun f => (m.1, f m.2)

theorem keepMembers_cons_of_some {kept : Kept} {name : String} {f : Json → Json}
    (h : kept.lookup name = some f) (v : Json) (members : List (String × Json)) :
    keepMembers kept ((name, v) :: members) = (name, f v) :: keepMembers kept members :=
  List.filterMap_cons_some (by simp only [h, Option.map_some])

theorem keepMembers_cons_of_none {kept : Kept} {name : String} (h : kept.lookup name = none)
    (v : Json) (members : List (String × Json)) :
    keepMembers kept ((name, v) :: members) = keepMembers kept members :=
  List.filterMap_cons_none (by simp only [h, Option.map_none])

/-- The members of a field that is kept, as far as they are. -/
theorem filter_keepMembers {kept : Kept} {name : String} {f : Json → Json}
    (h : kept.lookup name = some f) (members : List (String × Json)) :
    (keepMembers kept members).filter (·.1 = name) =
      (members.filter (·.1 = name)).map fun m => (m.1, f m.2) := by
  induction members with
  | nil => rfl
  | cons m members ih =>
      obtain ⟨name', v⟩ := m
      by_cases hname : name' = name
      · subst hname
        have hin (w : Json) (others : List (String × Json)) :
            ((name', w) :: others).filter (·.1 = name') =
              (name', w) :: others.filter (·.1 = name') :=
          List.filter_cons_of_pos (decide_eq_true rfl)
        rw [keepMembers_cons_of_some h, hin, hin, ih, List.map_cons]
      · have hout (w : Json) (others : List (String × Json)) :
            ((name', w) :: others).filter (·.1 = name) = others.filter (·.1 = name) :=
          List.filter_cons_of_neg (by rwa [decide_eq_true_iff])
        rw [hout, ← ih]
        cases hother : kept.lookup name' with
        | none => rw [keepMembers_cons_of_none hother]
        | some g => rw [keepMembers_cons_of_some hother, hout]

/-- The elements of a record that is written as a list, with nothing left out beyond the fields. -/
def keepItems : Kept → List Json → List Json
  | (_, f) :: kept, v :: items => f v :: keepItems kept items
  | _, items => items

/-- No element is left out. -/
theorem length_keepItems (kept : Kept) (items : List Json) :
    (keepItems kept items).length = items.length := by
  induction kept, items using keepItems.induct with
  | case1 _ _ _ _ _ ih => rw [keepItems, List.length_cons, List.length_cons, ih]
  | case2 kept items h =>
      rw [keepItems]
      exact h

/-- Each element is kept in its place, as its field is. -/
theorem getElem?_keepItems {kept : Kept} {index : Nat} {name : String} {f : Json → Json}
    (h : kept[index]? = some (name, f)) (items : List Json) :
    (keepItems kept items)[index]? = items[index]?.map f := by
  induction kept, items using keepItems.induct generalizing index with
  | case1 _ g kept v items ih =>
      rw [keepItems]
      cases index with
      | zero =>
          cases h
          rfl
      | succ index =>
          rw [List.getElem?_cons_succ] at h
          rw [List.getElem?_cons_succ, List.getElem?_cons_succ, ih h]
  | case2 kept items hne =>
      cases kept with
      | nil => cases h
      | cons k kept =>
          cases items with
          | nil => rfl
          | cons v items => exact (hne _ _ _ _ _ rfl rfl).elim

/-- What is kept of a record; anything else is kept whole. -/
def keep (kept : Kept) : Json → Json
  | object members => object (keepMembers kept members)
  | array items => array (keepItems kept items)
  | v => v

/-- Of a value that can be read in full, a reader keeps a part, and ends where the value ends. -/
def Keeps (f : Json → Json) (reader : Reader) : Prop :=
  ∀ ⦃fuel depth : Nat⦄ ⦃s : List Char⦄ ⦃v : Json⦄ ⦃rest : List Char⦄,
    value? fuel depth s = some (v, rest) → reader fuel depth s = some (f v, rest)

/-- The readers of some fields, each with what it keeps. -/
def KeepFields (kept : Kept) (fields : List (String × Reader)) : Prop :=
  List.Forall₂ (fun k field => k.1 = field.1 ∧ Keeps k.2 field.2) kept fields

/-- Reading in full keeps all. -/
theorem keeps_value : Keeps id value? := fun _ _ _ _ _ h => h

variable {kept : Kept} {fields : List (String × Reader)}

/-- A field has a reader exactly if it is kept. -/
theorem KeepFields.lookup (h : KeepFields kept fields) (name : String) :
    (kept.lookup name = none ∧ fields.lookup name = none) ∨
      ∃ f reader, kept.lookup name = some f ∧ fields.lookup name = some reader ∧
        Keeps f reader := by
  induction h with
  | nil => exact .inl ⟨rfl, rfl⟩
  | @cons k field kept fields hfield _ ih =>
      obtain ⟨name', f⟩ := k
      obtain ⟨_, reader⟩ := field
      obtain ⟨rfl, hkeeps⟩ := hfield
      by_cases hname : name = name'
      · subst hname
        exact .inr ⟨f, reader, List.lookup_cons_self, List.lookup_cons_self, hkeeps⟩
      · have hne : (name == name') = false := beq_eq_false_iff_ne.mpr hname
        simp only [List.lookup_cons, hne]
        exact ih

/-- The value of a member is kept if the field is. -/
theorem KeepFields.skimMember? (hk : KeepFields kept fields) (name : String)
    (read : List (String × Json)) (h : value? fuel depth s = some (v, rest)) :
    skimMember? fields fuel depth name (keepMembers kept read) s =
      some (keepMembers kept ((name, v) :: read), rest) := by
  rw [Json.skimMember?]
  rcases hk.lookup name with ⟨hkept, hfields⟩ | ⟨f, reader, hkept, hfields, hkeeps⟩
  · simp only [hfields, skipValue?_of_value? h, Option.map_some, keepMembers_cons_of_none hkept]
  · simp only [hfields, hkeeps h, Option.map_some, keepMembers_cons_of_some hkept]

/-- The members that are kept are those of the object that is kept. -/
theorem KeepFields.skimMembers? (hk : KeepFields kept fields) {read : List (String × Json)}
    (h : members? fuel depth read s = some (v, rest)) :
    skimMembers? fields fuel depth (keepMembers kept read) s = some (keep kept v, rest) := by
  induction fuel generalizing read s with
  | zero => cases h
  | succ fuel ih =>
      rw [members?] at h
      split at h
      · next afterQuote hquote =>
        split at h
        · cases h
        · next name afterName hname =>
          split at h
          · next afterColon hcolon =>
            split at h
            · cases h
            · next item after hitem =>
              split at h
              · next heq =>
                rw [Json.skimMembers?]
                simp only [hquote, hname, hcolon, hk.skimMember? name read hitem, heq]
                exact ih h
              · next heq =>
                cases h
                rw [Json.skimMembers?]
                simp only [hquote, hname, hcolon, hk.skimMember? name read hitem, heq]
                rw [keep, keepMembers, keepMembers, List.filterMap_reverse]
              · cases h
          · cases h
      · cases h

/-- The elements read before stand in front. -/
theorem exists_items {read : List Json} (h : items? fuel depth read s = some (v, rest)) :
    ∃ items, v = array (read.reverse ++ items) ∧
      ∀ read', items? fuel depth read' s = some (array (read'.reverse ++ items), rest) := by
  induction fuel generalizing read s with
  | zero => cases h
  | succ fuel ih =>
      rw [items?] at h
      split at h
      · cases h
      · next item after hitem =>
        split at h
        · next heq =>
          obtain ⟨items, hv, hitems⟩ := ih h
          refine ⟨item :: items, ?_, fun read' => ?_⟩
          · rw [hv, List.reverse_cons, List.append_assoc, List.singleton_append]
          · rw [items?, hitem]
            simp only [heq]
            rw [hitems, List.reverse_cons, List.append_assoc, List.singleton_append]
        · next heq =>
          cases h
          refine ⟨[item], by rw [List.reverse_cons], fun read' => ?_⟩
          rw [items?, hitem]
          simp only [heq, List.reverse_cons]
        · cases h

/-- The elements that are kept are those of the array that is kept. -/
theorem KeepFields.skimItems? (hk : KeepFields kept fields) {read : List Json}
    (h : items? fuel depth read s = some (v, rest)) :
    ∃ items, v = array (read.reverse ++ items) ∧
      ∀ read', skimItems? fields fuel depth read' s =
        some (array (read'.reverse ++ keepItems kept items), rest) := by
  induction hk generalizing fuel read s with
  | nil =>
      obtain ⟨items, hv, hitems⟩ := exists_items h
      refine ⟨items, hv, fun read' => ?_⟩
      cases fuel with
      | zero => cases h
      | succ fuel => exact hitems read'
  | @cons k field kept fields hfield _ ih =>
      obtain ⟨-, hkeeps⟩ := hfield
      cases fuel with
      | zero => cases h
      | succ fuel =>
          rw [items?] at h
          split at h
          · cases h
          · next item after hitem =>
            split at h
            · next heq =>
              obtain ⟨items, hv, hitems⟩ := ih h
              refine ⟨item :: items, ?_, fun read' => ?_⟩
              · rw [hv, List.reverse_cons, List.append_assoc, List.singleton_append]
              · rw [Json.skimItems?, hkeeps hitem]
                simp only [heq]
                rw [hitems, List.reverse_cons, List.append_assoc, List.singleton_append, keepItems]
            · next heq =>
              cases h
              refine ⟨[item], by rw [List.reverse_cons], fun read' => ?_⟩
              rw [Json.skimItems?, hkeeps hitem]
              simp only [heq, List.reverse_cons, keepItems]
            · cases h

/-- A number is kept whole. -/
theorem keep_number {negative : Bool} (h : number? negative s = some (v, rest)) :
    keep kept v = v := by
  unfold number? at h
  split at h
  · cases h
  split at h
  · cases h
  split at h
  · cases h
  simp only at h
  split at h
  · cases h
  split at h
  · cases h
    rfl
  · cases h
    rfl

/-- What is made of the parts of a value is kept whole if it is whatever the parts are. -/
theorem keep_of_map {α : Type} {x : Option α} {g : α → Json × List Char}
    (h : x.map g = some (v, rest)) (hg : ∀ a, keep kept (g a).1 = (g a).1) : keep kept v = v := by
  obtain ⟨a, -, ha⟩ := Option.map_eq_some_iff.mp h
  have hkeep := hg a
  rwa [ha] at hkeep

/-- What is neither an array nor an object is kept whole. -/
theorem keep_of_value? (harray : ∀ t, skipBlanks s ≠ '[' :: t)
    (hobject : ∀ t, skipBlanks s ≠ '\x7b' :: t) (h : value? fuel depth s = some (v, rest)) :
    keep kept v = v := by
  cases fuel with
  | zero => cases h
  | succ fuel =>
      rw [value?] at h
      split at h
      · cases h
      · exact keep_of_map h fun _ => rfl
      · exact keep_of_map h fun _ => rfl
      · exact keep_of_map h fun _ => rfl
      · exact keep_number h
      · next heq => exact absurd heq (harray _)
      · next heq => exact absurd heq (hobject _)
      · exact keep_of_map h fun _ => rfl
      · exact keep_number h

/-- A record written as a list. -/
theorem KeepFields.skim?_array (hk : KeepFields kept fields) {after : List Char}
    (heq : skipBlanks s = '[' :: after) (h : value? (fuel + 1) depth s = some (v, rest)) :
    skim? fields (fuel + 1) depth s = some (keep kept v, rest) := by
  simp only [value?, heq] at h
  split at h
  · cases h
  · next hdepth =>
    split at h
    · next hempty =>
      cases h
      rw [skim?]
      simp only [heq, if_neg hdepth, hempty]
      cases kept <;> rfl
    · next hne =>
      obtain ⟨items, rfl, hitems⟩ := hk.skimItems? h
      rw [skim?]
      simp only [heq, if_neg hdepth]
      exact hitems []

/-- A record written as an object. -/
theorem KeepFields.skim?_object (hk : KeepFields kept fields) {after : List Char}
    (heq : skipBlanks s = '\x7b' :: after) (h : value? (fuel + 1) depth s = some (v, rest)) :
    skim? fields (fuel + 1) depth s = some (keep kept v, rest) := by
  simp only [value?, heq] at h
  split at h
  · cases h
  · next hdepth =>
    split at h
    · next hempty =>
      cases h
      rw [skim?]
      simp only [heq, if_neg hdepth, hempty]
      rfl
    · next hne =>
      rw [skim?]
      simp only [heq, if_neg hdepth]
      exact hk.skimMembers? h

/-- **A skimmed record keeps the fields asked for.** -/
theorem KeepFields.skim? (hk : KeepFields kept fields) : Keeps (keep kept) (skim? fields) := by
  intro fuel depth s v rest h
  cases fuel with
  | zero => cases h
  | succ fuel =>
      by_cases harray : ∃ t, skipBlanks s = '[' :: t
      · obtain ⟨after, heq⟩ := harray
        exact hk.skim?_array heq h
      by_cases hobject : ∃ t, skipBlanks s = '\x7b' :: t
      · obtain ⟨after, heq⟩ := hobject
        exact hk.skim?_object heq h
      rw [not_exists] at harray hobject
      rw [keep_of_value? harray hobject h, Json.skim?]
      split
      · next heq => exact absurd heq (harray _)
      · next heq => exact absurd heq (hobject _)
      · exact h

/-- So a text that is one value is skimmed to what is kept of the value. -/
theorem Keeps.whole? {f : Json → Json} {reader : Reader} (hk : Keeps f reader) {body : String}
    (h : parse? body = some v) : whole? reader body = some (f v) := by
  rw [parse?, Json.whole?] at h
  rw [Json.whole?]
  split at h
  · next hread =>
    simp only [hk hread]
    split at h
    · next hend =>
      cases h
      rw [if_pos hend]
    · cases h
  · cases h

end Courier.Json
