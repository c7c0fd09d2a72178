import Mathlib.Order.Bounds.Defs
import Courier.Proofs.Message.Markup

/-!
# Proofs — Message — Fit

What is left of lines that are joined within a limit.

* `cutTo_cut`: a line that is cut ends inside no entity, and keeps as much as it may.
* `fills_fill`: as many whole lines are kept as there is room for, and the start of the next one
  where it has no tags.
* `lines_kept_within_limit`: so the joined lines are all there, or those first ones, the mark and
  the closing lines.
* `length_joinWithin_le_iff`: they keep to the limit as long as it has room for the mark and the
  closing lines.
-/

namespace Courier.Html

/-! ### Entities in a text -/

/-- The place is inside an entity of a text, after its first character and before its end. -/
def Splits (s : List Char) (n : Nat) : Prop :=
  ∃ before e after, Entity e ∧ s = before ++ (e ++ after) ∧
    before.length < n ∧ n < before.length + e.length

/-- Every `&` starts a complete entity. -/
def Whole (s : List Char) : Prop :=
  ∀ before after, s = before ++ '&' :: after → ∃ e, Entity e ∧ e <+: '&' :: after

/-- Only the first character of an entity is `&`, and only the last is `;`. -/
theorem Entity.exists_name {e : List Char} (h : Entity e) :
    ∃ name, e = '&' :: (name ++ [';']) ∧ '&' ∉ name ∧ ';' ∉ name := by
  cases h with
  | ampersand => exact ⟨"amp".toList, by decide⟩
  | less => exact ⟨"lt".toList, by decide⟩
  | greater => exact ⟨"gt".toList, by decide⟩
  | quote => exact ⟨"quot".toList, by decide⟩

/-- No entity starts inside another. -/
theorem getElem?_ne_of_splits {s : List Char} {n : Nat} (h : Splits s n) : s[n]? ≠ some '&' := by
  obtain ⟨before, e, after, he, rfl, hbefore, hend⟩ := h
  obtain ⟨name, rfl, hname, -⟩ := he.exists_name
  obtain ⟨i, rfl⟩ := Nat.exists_eq_add_of_lt hbefore
  have hi : i < (name ++ [';']).length := by
    rw [List.length_cons] at hend
    omega
  rw [Nat.add_assoc, List.getElem?_append_right (Nat.le_add_right _ _), Nat.add_sub_cancel_left,
    List.cons_append, List.getElem?_cons_succ, List.getElem?_append_left hi]
  intro hc
  rcases List.mem_append.mp (List.mem_of_getElem? hc) with hin | hin
  · exact hname hin
  · exact absurd (List.mem_singleton.mp hin) (by decide)

/-- The start of a text whose entities are complete is such a text, if it ends inside none. -/
theorem Whole.start {s kept : List Char} (h : Whole s) (hk : kept <+: s)
    (hn : ¬Splits s kept.length) : Whole kept := by
  rintro before after rfl
  obtain ⟨rest, rfl⟩ := hk
  obtain ⟨e, he, hstart⟩ := h before (after ++ rest) (by simp)
  refine ⟨e, he, ?_⟩
  rw [← List.cons_append] at hstart
  by_cases hlength : e.length ≤ ('&' :: after).length
  · exact List.prefix_of_prefix_length_le hstart (List.prefix_append _ _) hlength
  · -- the entity would go on beyond the end
    obtain ⟨tail, htail⟩ := hstart
    refine absurd ⟨before, e, tail, he, ?_, ?_, ?_⟩ hn
    · rw [htail, List.append_assoc]
    · simp
    · rw [List.length_append]
      omega

/-! ### Cutting a line -/

/-- `kept` is what may stay of a line that has `room` characters. -/
structure CutTo (line : List Char) (room : Nat) (kept : List Char) : Prop where
  start : kept <+: line
  length_le : kept.length ≤ room
  not_splits : ¬Splits line kept.length
  whole : Whole line → Whole kept
  /-- More would end inside an entity. -/
  longest : Whole line → ∀ n, kept.length < n → n ≤ room → n ≤ line.length → Splits line n

/-- An entity is open where the last `&` of a text has no `;` after it. -/
theorem beforeOpenEntity?_eq_some_iff {s kept : List Char} :
    beforeOpenEntity? s = some kept ↔
      ∃ rest, s = kept ++ '&' :: rest ∧ '&' ∉ rest ∧ ';' ∉ rest := by
  induction s generalizing kept with
  | nil => simp [beforeOpenEntity?]
  | cons c t ih =>
      rw [beforeOpenEntity?]
      cases ht : beforeOpenEntity? t with
      | some k =>
          obtain ⟨rest, rfl, hamp, hsemi⟩ := ih.mp ht
          constructor
          · rintro ⟨⟩
            exact ⟨rest, rfl, hamp, hsemi⟩
          · rintro ⟨rest', hs, hamp', hsemi'⟩
            cases kept with
            | nil =>
                obtain ⟨-, rfl⟩ := List.cons.inj hs
                exact absurd (by simp) hamp'
            | cons d kept =>
                obtain ⟨rfl, hrest⟩ := List.cons.inj hs
                have hk := ih.mpr ⟨rest', hrest, hamp', hsemi'⟩
                rw [ht] at hk
                rw [Option.some.inj hk]
      | none =>
          constructor
          · intro h
            obtain ⟨⟨rfl, hsemi, hamp⟩, hkept⟩ := Option.ite_none_right_eq_some.mp h
            exact ⟨t, by rw [← Option.some.inj hkept]; rfl, hamp, hsemi⟩
          · rintro ⟨rest, hs, hamp, hsemi⟩
            cases kept with
            | nil =>
                obtain ⟨rfl, rfl⟩ := List.cons.inj hs
                exact if_pos ⟨rfl, hsemi, hamp⟩
            | cons d kept =>
                have hk := ih.mpr ⟨rest, (List.cons.inj hs).2, hamp, hsemi⟩
                rw [ht] at hk
                cases hk

/-- A cut leaves the first characters, as far as they have no open entity. -/
theorem cut_cases (s : List Char) (n : Nat) :
    (cut s n = s.take n ∧
        ∀ kept rest, s.take n = kept ++ '&' :: rest → '&' ∉ rest → ';' ∈ rest) ∨
      ∃ rest, s.take n = cut s n ++ '&' :: rest ∧ '&' ∉ rest ∧ ';' ∉ rest := by
  rw [cut]
  cases h : beforeOpenEntity? (s.take n) with
  | some kept => exact .inr (beforeOpenEntity?_eq_some_iff.mp h)
  | none =>
      refine .inl ⟨rfl, fun kept rest hs hamp => Decidable.byContradiction fun hsemi => ?_⟩
      have hk := beforeOpenEntity?_eq_some_iff.mpr ⟨rest, hs, hamp, hsemi⟩
      rw [h] at hk
      cases hk

/-- What is cut is a start of the text of the length asked for, or of a shorter one. -/
theorem cut_take (s : List Char) (n : Nat) : cut s n <+: s.take n := by
  rcases cut_cases s n with ⟨h, -⟩ | ⟨rest, h, -, -⟩
  · exact h ▸ List.prefix_refl _
  · exact h ▸ List.prefix_append _ _

/-- What is cut has room. -/
theorem length_cut_le (s : List Char) (n : Nat) : (cut s n).length ≤ n :=
  Nat.le_trans (cut_take s n).length_le (List.length_take_le n s)

/-- A text that ends inside an entity ends in an open one. -/
theorem exists_open_of_splits {s : List Char} {n : Nat} (h : Splits s n) :
    ∃ kept rest, s.take n = kept ++ '&' :: rest ∧ '&' ∉ rest ∧ ';' ∉ rest := by
  obtain ⟨before, e, after, he, rfl, hbefore, hend⟩ := h
  obtain ⟨name, rfl, hamp, hsemi⟩ := he.exists_name
  obtain ⟨i, rfl⟩ := Nat.exists_eq_add_of_lt hbefore
  rw [List.length_cons, List.length_append, List.length_singleton] at hend
  refine ⟨before, name.take i, ?_, fun hin => hamp (List.mem_of_mem_take hin),
    fun hin => hsemi (List.mem_of_mem_take hin)⟩
  rw [Nat.add_assoc, List.take_length_add_append, List.cons_append, List.take_succ_cons,
    List.append_assoc, List.take_append_of_le_length (by omega)]

/-- **A cut ends inside no entity.** -/
theorem not_splits_cut (s : List Char) (n : Nat) : ¬Splits s (cut s n).length := by
  intro h
  rcases cut_cases s n with ⟨hcut, hclosed⟩ | ⟨rest, hcut, -, -⟩
  · -- what is left is not open
    obtain ⟨kept, rest, hopen, hamp, hsemi⟩ := exists_open_of_splits h
    rw [hcut, List.length_take, ← List.take_eq_take_min] at hopen
    exact hsemi (hclosed kept rest hopen hamp)
  · -- the next character is the start of an entity
    have hnext : (s.take n)[(cut s n).length]? = some '&' := by
      rw [hcut, List.getElem?_append_right (Nat.le_refl _), Nat.sub_self]
      rfl
    rw [List.getElem?_take] at hnext
    exact getElem?_ne_of_splits h (Option.ite_none_right_eq_some.mp hnext).2

/-- **A cut keeps as much as it may.** -/
theorem splits_of_length_cut_lt {s : List Char} (hs : Whole s) {n m : Nat}
    (hcut : (cut s n).length < m) (hn : m ≤ n) (hm : m ≤ s.length) : Splits s m := by
  rcases cut_cases s n with ⟨h, -⟩ | ⟨rest, h, -, hsemi⟩
  · rw [h, List.length_take] at hcut
    omega
  · have hsplit : s = cut s n ++ '&' :: (rest ++ s.drop n) := by
      rw [← List.cons_append, ← List.append_assoc, ← h, List.take_append_drop]
    obtain ⟨e, he, hstart⟩ := hs _ _ hsplit
    obtain ⟨after, hafter⟩ := hstart
    refine ⟨cut s n, e, after, he, hafter ▸ hsplit, hcut,
      Decidable.byContradiction fun hend => hsemi ?_⟩
    -- the whole entity would be among the first characters
    have hlength : (cut s n).length + ('&' :: rest).length = min n s.length := by
      rw [← List.length_append, ← h, List.length_take]
    have hin : e <+: '&' :: rest := by
      refine List.prefix_of_prefix_length_le ⟨after, hafter⟩ (List.prefix_append _ (s.drop n)) ?_
      omega
    obtain ⟨name, rfl, -, -⟩ := he.exists_name
    exact (List.cons_prefix_cons.mp hin).2.subset (by simp)

/-- A line is cut to the most that has room and takes no entity apart. -/
theorem cutTo_cut (line : List Char) (room : Nat) : CutTo line room (cut line room) where
  start := (cut_take line room).trans (List.take_prefix _ _)
  length_le := length_cut_le line room
  not_splits := not_splits_cut line room
  whole h := h.start ((cut_take line room).trans (List.take_prefix _ _)) (not_splits_cut line room)
  longest h _ hcut hroom hline := splits_of_length_cut_lt h hcut hroom hline

/-! ### Whole lines -/

/-- Lines with a line feed between them, and one in front unless nothing stands before them. -/
def joined (isFirst : Bool) (lines : List (List Char)) : List Char :=
  if isFirst then joinLines lines else tailText lines

@[simp] theorem joined_nil (isFirst : Bool) : joined isFirst [] = [] := by
  cases isFirst <;> rfl

/-- Lines are joined as the first and the text of a tail. -/
theorem joinLines_cons (line : List Char) (rest : List (List Char)) :
    joinLines (line :: rest) = line ++ tailText rest := by
  induction rest generalizing line with
  | nil => exact (List.append_nil line).symm
  | cons next rest ih =>
      show line ++ '\n' :: joinLines (next :: rest) = _
      rw [ih]
      rfl

theorem joined_cons (isFirst : Bool) (line : List Char) (rest : List (List Char)) :
    joined isFirst (line :: rest) = separator isFirst ++ line ++ joined false rest := by
  cases isFirst with
  | true => exact joinLines_cons line rest
  | false => rfl

/-- More lines take no less room. -/
theorem length_joined_take_le (isFirst : Bool) (lines : List (List Char)) {i j : Nat} (h : i ≤ j) :
    (joined isFirst (lines.take i)).length ≤ (joined isFirst (lines.take j)).length := by
  induction lines generalizing isFirst i j with
  | nil => simp
  | cons line rest ih =>
      cases i with
      | zero => simp
      | succ i =>
          obtain ⟨j, rfl⟩ := Nat.exists_eq_add_of_le' (Nat.le_trans (Nat.le_add_left 1 i) h)
          simp only [List.take_succ_cons, joined_cons, List.length_append]
          exact Nat.add_le_add_left (ih false (Nat.le_of_succ_le_succ h)) _

/-- What stays of the line after those that fit, if `room` is left behind a separator. -/
inductive Remains (lead : List Char) (room : Nat) (line : List Char) : List Char → Prop where
  /-- A line with tags is not cut, and none where no room is left. -/
  | nothing (h : '<' ∈ line ∨ room = 0) : Remains lead room line []
  | start {kept : List Char} (h : '<' ∉ line) (hroom : 0 < room) (hk : CutTo line room kept) :
      Remains lead room line (lead ++ kept)

/-- What stays of lines within a budget. -/
inductive Fills (isFirst : Bool) (budget : Nat) (lines : List (List Char)) : List Char → Prop where
  | all (h : (joined isFirst lines).length ≤ budget) :
      Fills isFirst budget lines (joined isFirst lines)
  | first {k : Nat} {line rest : List Char} (hline : lines[k]? = some line)
      (hfit : (joined isFirst (lines.take k)).length ≤ budget)
      (hnext : budget < (joined isFirst (lines.take (k + 1))).length)
      (hrest : Remains (separator (isFirst && k = 0))
        (budget - (joined isFirst (lines.take k)).length - (separator (isFirst && k = 0)).length)
        line rest) :
      Fills isFirst budget lines (joined isFirst (lines.take k) ++ rest)

namespace Fills

variable {isFirst : Bool} {budget : Nat} {line text : List Char} {lines : List (List Char)}

/-- A line that fits is kept before the others. -/
theorem cons (hfit : (separator isFirst).length + line.length ≤ budget)
    (h : Fills false (budget - ((separator isFirst).length + line.length)) lines text) :
    Fills isFirst budget (line :: lines) (separator isFirst ++ line ++ text) := by
  cases h with
  | all h =>
      rw [← joined_cons]
      refine .all ?_
      rw [joined_cons, List.length_append, List.length_append]
      omega
  | @first k next rest hline hk hnext hrest =>
      have htake : ∀ j, joined isFirst ((line :: lines).take (j + 1)) =
          separator isFirst ++ line ++ joined false (lines.take j) := fun j => joined_cons _ _ _
      have hlength : ∀ j, (joined isFirst ((line :: lines).take (j + 1))).length =
          (separator isFirst).length + line.length + (joined false (lines.take j)).length := by
        intro j
        rw [htake, List.length_append, List.length_append]
      rw [← List.append_assoc, ← htake]
      refine .first hline ?_ ?_ ?_
      · rw [hlength]
        omega
      · rw [hlength]
        omega
      · rw [hlength, ← Nat.sub_sub budget]
        simpa using hrest

/-- A line that does not fit is the last of which anything is kept. -/
theorem stop {rest : List Char} (hfit : budget < (separator isFirst).length + line.length)
    (h : Remains (separator isFirst) (budget - (separator isFirst).length) line rest) :
    Fills isFirst budget (line :: lines) rest := by
  have htext : joined isFirst ((line :: lines).take 0) ++ rest = rest := by simp
  rw [← htext]
  refine .first rfl ?_ ?_ ?_
  · simp
  · rw [List.take_succ_cons, List.take_zero, joined_cons, joined_nil, List.append_nil,
      List.length_append]
    exact hfit
  · simpa using h

/-- Filled lines have room. -/
theorem length_le (h : Fills isFirst budget lines text) : text.length ≤ budget := by
  cases h with
  | all h => exact h
  | first hline hfit hnext hrest =>
      rw [List.length_append]
      cases hrest with
      | nothing => exact hfit
      | start h hroom hk =>
          have hlength := hk.length_le
          rw [List.length_append]
          omega

end Fills

/-- **As many lines are kept as there is room for.** -/
theorem fills_fill (isFirst : Bool) (budget : Nat) (lines : List (List Char)) :
    Fills isFirst budget lines (fill isFirst budget lines) := by
  induction lines generalizing isFirst budget with
  | nil =>
      rw [fill, ← joined_nil isFirst]
      exact .all (by simp)
  | cons line rest ih =>
      simp only [fill]
      split
      · rename_i hfit
        exact (ih false _).cons hfit
      · rename_i hfit
        refine .stop (Nat.lt_of_not_le hfit) ?_
        split
        · rename_i hcut
          exact .start hcut.2 hcut.1 (cutTo_cut line _)
        · rename_i hcut
          refine .nothing (Decidable.or_iff_not_not_and_not.mpr fun h => ?_)
          exact hcut ⟨Nat.pos_of_ne_zero h.2, h.1⟩

/-! ### Lines within a limit -/

/-- What stays of lines that do not all fit into a budget. -/
inductive Keeps (lines : List (List Char)) (budget : Nat) : List Char → Prop where
  /-- The first `k` of them, which are as many as fit, and what remains of the next one. -/
  | mk {k : Nat} {line rest : List Char}
      (hk : IsGreatest {j | j ≤ lines.length ∧ (joinLines (lines.take j)).length ≤ budget} k)
      (hline : lines[k]? = some line)
      (hrest : Remains (separator (k = 0))
        (budget - (joinLines (lines.take k)).length - (separator (k = 0)).length) line rest) :
      Keeps lines budget (joinLines (lines.take k) ++ rest)

/-- Lines that do not fit as a whole are filled up to one that is cut. -/
theorem Fills.keeps {budget : Nat} {lines : List (List Char)} {text : List Char}
    (h : Fills true budget lines text) (hlines : budget < (joinLines lines).length) :
    Keeps lines budget text := by
  cases h with
  | all h => exact absurd hlines (Nat.not_lt.mpr h)
  | @first k line rest hline hfit hnext hrest =>
      refine .mk ⟨⟨?_, hfit⟩, fun j hj => ?_⟩ hline hrest
      · exact Nat.le_of_lt (List.getElem?_eq_some_iff.mp hline).1
      · refine Nat.le_of_not_lt fun hlt => ?_
        exact absurd hj.2 (Nat.not_le.mpr
          (Nat.lt_of_lt_of_le hnext (length_joined_take_le true lines hlt)))

/-- What has room is joined as it is. -/
theorem joinWithin_of_fits {lines tail : List (List Char)} {limit : Nat}
    (h : (joinLines lines ++ tailText tail).length ≤ limit) :
    joinWithin lines tail limit = joinLines lines ++ tailText tail :=
  if_pos h

/-- What has no room is filled up, marked and followed by its tail. -/
theorem joinWithin_of_not_fits {lines tail : List (List Char)} {limit : Nat}
    (h : limit < (joinLines lines ++ tailText tail).length) :
    joinWithin lines tail limit =
      fill true (limit - (tailText tail).length - truncationMark.length) lines ++
        truncationMark ++ tailText tail :=
  if_neg (Nat.not_le.mpr h)

/-- Where there is room for the mark and the closing lines, the limit is kept. -/
theorem length_joinWithin_le {lines tail : List (List Char)} {limit : Nat}
    (h : (tailText tail).length + truncationMark.length ≤ limit) :
    (joinWithin lines tail limit).length ≤ limit := by
  by_cases hfull : (joinLines lines ++ tailText tail).length ≤ limit
  · rwa [joinWithin_of_fits hfull]
  · have hlength :=
      (fills_fill true (limit - (tailText tail).length - truncationMark.length) lines).length_le
    rw [joinWithin_of_not_fits (Nat.lt_of_not_le hfull), List.length_append, List.length_append]
    omega

/-- **What is left of lines that are joined within a limit.**  Where the limit has room for the mark
and the closing lines, the joined lines keep to it.  They are all there if they fit; otherwise the
closing lines stand after the mark, and before it as many of the lines as there is room for and, of
the next one, what may be cut. -/
theorem lines_kept_within_limit {lines tail : List (List Char)} {limit : Nat}
    (h : (tailText tail).length + truncationMark.length ≤ limit) :
    (joinWithin lines tail limit).length ≤ limit ∧
      ((joinLines lines ++ tailText tail).length ≤ limit →
        joinWithin lines tail limit = joinLines lines ++ tailText tail) ∧
      (limit < (joinLines lines ++ tailText tail).length →
        ∃ kept, joinWithin lines tail limit = kept ++ truncationMark ++ tailText tail ∧
          Keeps lines (limit - (tailText tail).length - truncationMark.length) kept) := by
  have hfill := fills_fill true (limit - (tailText tail).length - truncationMark.length) lines
  refine ⟨length_joinWithin_le h, joinWithin_of_fits, fun hfull => ?_⟩
  refine ⟨_, joinWithin_of_not_fits hfull, hfill.keeps ?_⟩
  rw [List.length_append] at hfull
  omega

/-- Two lines of which the second has to be cut, where the cut would split an entity. -/
def sampleLines : List (List Char) := ["ab".toList, "c&amp;dddddddddddd".toList]

/-- Of a line that is cut inside an entity, what stands before the entity is kept. -/
theorem entity_is_left_out :
    (tailText ["end".toList]).length + truncationMark.length ≤ 24 ∧
      (joinWithin sampleLines ["end".toList] 24).length ≤ 24 ∧
      joinWithin sampleLines ["end".toList] 24 =
        "ab\nc".toList ++ truncationMark ++ tailText ["end".toList] ∧
      Keeps sampleLines 7 "ab\nc".toList := by
  have hroom : (tailText ["end".toList]).length + truncationMark.length ≤ 24 := by decide
  have hjoined : joinWithin sampleLines ["end".toList] 24 =
      "ab\nc".toList ++ truncationMark ++ tailText ["end".toList] := by decide
  obtain ⟨hlength, -, hcut⟩ := @lines_kept_within_limit sampleLines _ _ hroom
  obtain ⟨kept, hkept, hkeeps⟩ := hcut (by decide)
  rw [hjoined, List.append_left_inj, List.append_left_inj] at hkept
  exact ⟨hroom, hlength, hjoined, hkept ▸ hkeeps⟩

/-! ### Too little room -/

/-- Where the mark and the closing lines are too long, they are all that is left. -/
theorem joinWithin_of_no_room {lines tail : List (List Char)} {limit : Nat}
    (h : limit < (tailText tail).length + truncationMark.length)
    (hfull : limit < (joinLines lines ++ tailText tail).length) :
    joinWithin lines tail limit = truncationMark ++ tailText tail := by
  have hbudget : limit - (tailText tail).length - truncationMark.length = 0 := by omega
  have hlength := (fills_fill true 0 lines).length_le
  rw [joinWithin_of_not_fits hfull, hbudget, List.eq_nil_of_length_eq_zero (Nat.le_zero.mp hlength),
    List.nil_append]

/-- **The limit is kept exactly if** the lines fit, or the mark and the closing lines do. -/
theorem length_joinWithin_le_iff {lines tail : List (List Char)} {limit : Nat} :
    (joinWithin lines tail limit).length ≤ limit ↔
      (joinLines lines ++ tailText tail).length ≤ limit ∨
        (tailText tail).length + truncationMark.length ≤ limit := by
  by_cases hfull : (joinLines lines ++ tailText tail).length ≤ limit
  · rw [joinWithin_of_fits hfull]
    exact ⟨fun _ => .inl hfull, fun _ => hfull⟩
  · by_cases hroom : (tailText tail).length + truncationMark.length ≤ limit
    · exact ⟨fun _ => .inr hroom, fun _ => length_joinWithin_le hroom⟩
    · rw [joinWithin_of_no_room (Nat.lt_of_not_le hroom) (Nat.lt_of_not_le hfull),
        List.length_append, Nat.add_comm]
      exact ⟨.inr, fun h => h.resolve_left hfull⟩

end Courier.Html
