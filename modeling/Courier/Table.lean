/-!
# Table

Values by key, in the order in which the keys came.

* `change`: changes the value of a key, which starts from a given value where there is none.
* `get?_change`, `get?_set`: a change is seen at its key and nowhere else; `change_of_get?`: one that
  leaves the value leaves the table.
-/

namespace Courier

/-- Values by key. -/
structure Table (κ α : Type) where
  entries : List (κ × α)
  deriving DecidableEq, Repr

namespace Table

variable {κ α : Type} [DecidableEq κ]

/-- A table without entries. -/
def empty : Table κ α := ⟨[]⟩

/-- The value of a key among entries. -/
def find? (key : κ) : List (κ × α) → Option α
  | [] => none
  | (k, a) :: rest => if k = key then some a else find? key rest

/-- Entries with another value for a key. -/
def put (start : α) (key : κ) (f : α → α) : List (κ × α) → List (κ × α)
  | [] => [(key, f start)]
  | (k, a) :: rest => if k = key then (k, f a) :: rest else (k, a) :: put start key f rest

theorem find?_put (start : α) (key other : κ) (f : α → α) (entries : List (κ × α)) :
    find? other (put start key f entries) =
      if other = key then some (f ((find? key entries).getD start)) else find? other entries := by
  induction entries with
  | nil => simp only [put, find?, eq_comm (a := key)]; split <;> simp
  | cons entry rest ih =>
      obtain ⟨k, a⟩ := entry
      by_cases hk : k = key
      · by_cases h : other = key
        · simp [put, find?, hk, h]
        · simp [put, find?, hk, h, Ne.symm h]
      · by_cases h : other = key
        · simp_all [put, find?]
        · by_cases ho : k = other <;> simp_all [put, find?]

/-- A change that leaves the value of a key leaves the entries. -/
theorem put_of_find? {start a : α} {key : κ} {f : α → α} {entries : List (κ × α)}
    (h : find? key entries = some a) (hf : f a = a) : put start key f entries = entries := by
  induction entries with
  | nil => cases h
  | cons entry rest ih =>
      obtain ⟨k, b⟩ := entry
      by_cases hk : k = key
      · rw [find?, if_pos hk] at h
        rw [put, if_pos hk, Option.some.inj h, hf]
      · rw [find?, if_neg hk] at h
        rw [put, if_neg hk, ih h]

/-- The value of a key. -/
def get? (t : Table κ α) (key : κ) : Option α := find? key t.entries

/-- Changes the value of a key. -/
def change (t : Table κ α) (start : α) (key : κ) (f : α → α) : Table κ α :=
  ⟨put start key f t.entries⟩

/-- The table with the value of a key set. -/
def set (t : Table κ α) (key : κ) (value : α) : Table κ α := t.change value key fun _ => value

@[simp] theorem get?_empty (key : κ) : (empty : Table κ α).get? key = none := rfl

/-- A change concerns its own key only. -/
@[simp] theorem get?_change (t : Table κ α) (start : α) (key other : κ) (f : α → α) :
    (t.change start key f).get? other =
      if other = key then some (f ((t.get? key).getD start)) else t.get? other :=
  find?_put start key other f t.entries

@[simp] theorem get?_set (t : Table κ α) (key other : κ) (value : α) :
    (t.set key value).get? other = if other = key then some value else t.get? other :=
  get?_change t value key other _

/-- A change that leaves the entry as it is leaves the table as it is. -/
theorem change_of_get? {t : Table κ α} {start a : α} {key : κ} {f : α → α}
    (h : t.get? key = some a) (hf : f a = a) : t.change start key f = t :=
  congrArg mk (put_of_find? h hf)

end Table

end Courier
