import Courier.Json.Record
import Courier.Proofs.Json.Written

/-!
# Proofs — Json — Codec

`Codec depth encode decode` says that what `encode` writes is read back by `decode`, as a value and
through its text (`Codec.parse?_render`).

* `Codec.required`, `Codec.optional`, `Codec.defaulted`: a field of a record is read where its
  member stands.
* `codec_object`: a record, from its fields; `Codec.list`, `codec_text`, `codec_int32` and
  `codec_int64`: what the fields are made of.
-/

namespace Courier.Json

variable {α β : Type}

/-- What is written for an `α` can be read back; it is never null, and `depth` arrays and objects at
most are open in it at a time. -/
structure Codec (depth : Nat) (encode : α → Json) (decode : Json → Option α) : Prop where
  decode_encode : ∀ a, decode (encode a) = some a
  ne_null : ∀ a, encode a ≠ null
  written : ∀ a, Written depth (encode a)

theorem some_bind {x : Option α} {f : α → Option β} {a : α} {b : β} (hx : x = some a)
    (hf : f a = some b) : (x >>= f) = some b := by
  rw [hx]
  exact hf

/-- A member in front of others gives way to theirs. -/
theorem Record.find?_append {members : List (String × Json)} {i : Nat} {name : String} {v : Json}
    (extra : List (String × Json)) (h : (named members).find? i name = some v) :
    (named (extra ++ members)).find? i name = some v := by
  rw [Record.find?] at h ⊢
  rw [List.reverse_append, List.lookup_append, h]
  rfl

/-- A list whose elements are read back is read back. -/
theorem mapM_map_eq_some {encode : α → Json} {decode : Json → Option α}
    (h : ∀ a, decode (encode a) = some a) (items : List α) :
    (items.map encode).mapM decode = some items := by
  induction items with
  | nil => rfl
  | cons a items ih =>
      rw [List.map_cons, List.mapM_cons]
      exact some_bind (h a) (some_bind ih rfl)

namespace Codec

variable {depth i : Nat} {encode : α → Json} {decode : Json → Option α} {r : Record}
  {name : String}

/-- What is written is read back from its text. -/
theorem parse?_render (c : Codec depth encode decode) (hd : depth < 128) (a : α) :
    parse? (encode a).render = some (encode a) :=
  Json.parse?_render (c.written a) hd

/-! ### Fields -/

/-- A field that has to be there is read back. -/
theorem required (c : Codec depth encode decode) {a : α}
    (h : r.find? i name = some (encode a)) : r.required decode i name = some a := by
  rw [Record.required, h]
  exact c.decode_encode a

/-- A field that may be missing is read back, default or not. -/
theorem defaulted (c : Codec depth encode decode) {a default : α}
    (h : r.find? i name = some (encode a)) : r.defaulted default decode i name = some a := by
  rw [Record.defaulted, h]
  exact c.decode_encode a

/-- A field that may be null is read back. -/
theorem optional (c : Codec depth encode decode) {o : Option α}
    (h : r.find? i name = some (ofOptional encode o)) : r.optional decode i name = some o := by
  cases o with
  | none => rw [Record.optional.eq_def, h, ofOptional]
  | some a =>
      -- null would be read as none
      have hne := c.ne_null a
      rw [Record.optional.eq_def, h, ofOptional]
      split
      · rename_i heq
        exact absurd (Option.some.inj heq) hne
      · rename_i heq
        rw [← Option.some.inj heq, c.decode_encode a, Option.map_some]
      · rename_i heq
        cases heq

theorem written_ofOptional (c : Codec depth encode decode) (o : Option α) :
    Written depth (ofOptional encode o) := by
  cases o with
  | none => exact .null depth
  | some a => exact c.written a

/-- A list is read back, one level deeper than its elements. -/
theorem list (c : Codec depth encode decode) :
    Codec (depth + 1) (ofList encode) (toList? decode) where
  decode_encode items := mapM_map_eq_some c.decode_encode items
  ne_null items := by
    intro h
    cases h
  written items := by
    refine .array fun v hv => ?_
    obtain ⟨a, -, rfl⟩ := List.mem_map.mp hv
    exact c.written a

end Codec

/-! ### Texts, integers and records -/

/-- What is written as a text is read back where the text is. -/
theorem codec_text {text : α → String} {decode : Json → Option α} (depth : Nat)
    (h : ∀ a, decode (string (text a)) = some a) :
    Codec depth (fun a => string (text a)) decode where
  decode_encode := h
  ne_null _ := by
    intro hnull
    cases hnull
  written a := .string depth (text a)

theorem codec_string (depth : Nat) : Codec depth string toText? :=
  codec_text depth fun _ => rfl

/-- An integer of less than 2^64 either way is read back. -/
theorem codec_integer {value : α → Int} {decode : Json → Option α} (depth : Nat)
    (h : ∀ a, decode (integer (value a)) = some a) (hv : ∀ a, (value a).natAbs < 2 ^ 64) :
    Codec depth (fun a => integer (value a)) decode where
  decode_encode := h
  ne_null _ := by
    intro hnull
    cases hnull
  written a := .integer depth (hv a)

theorem codec_int32 (depth : Nat) : Codec depth (fun n : Int32 => integer n.toInt) toInt32? := by
  refine codec_integer depth (fun n => ?_) fun n => ?_
  · rw [toInt32?, toInt?, if_pos ⟨n.minValue_le_toInt, n.toInt_le⟩, Option.map_some,
      Int32.ofInt_toInt]
  · have hlow := n.le_toInt
    have hhigh := n.toInt_lt
    omega

theorem codec_int64 (depth : Nat) : Codec depth (fun n : Int64 => integer n.toInt) toInt64? := by
  refine codec_integer depth (fun n => ?_) fun n => ?_
  · rw [toInt64?, toInt?, if_pos ⟨n.minValue_le_toInt, n.toInt_le⟩, Option.map_some,
      Int64.ofInt_toInt]
  · have hlow := n.le_toInt
    have hhigh := n.toInt_lt
    omega

/-- A record, written as an object with a member for each of the names. -/
theorem codec_object {members : α → List (String × Json)} {decode : Json → Option α} {depth : Nat}
    (names : List String) (hn : names.Nodup) (hm : ∀ a, (members a).map (·.1) = names)
    (hd : ∀ a, decode (object (members a)) = some a)
    (hw : ∀ a, ∀ m ∈ members a, Written depth m.2) :
    Codec (depth + 1) (fun a => object (members a)) decode where
  decode_encode := hd
  ne_null _ := by
    intro hnull
    cases hnull
  written a := by
    refine .object ?_ (hw a)
    rw [hm a]
    exact hn

end Courier.Json
