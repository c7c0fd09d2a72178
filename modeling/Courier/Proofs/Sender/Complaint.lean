import Courier.Proofs.Json.Skim
import Courier.Sender.Telegram

/-!
# Proofs — Sender — Complaint

A body is read for a complaint without reading it in full.  Where it can be read in full, this makes
no difference: the complaint is that of the document (`Complaint.ofBody_of_parse?`).
-/

namespace Courier.TelegramApi
open Json

variable {α : Type} {decode : Json → Option α} {kept : Kept} {f : Json → Json} {index : Nat}
  {name : String}

/-- A field is read from what is kept of a record as from the record, if what is kept of its value
is read as the value. -/
theorem single?_keep (hname : kept.lookup name = some f) (hindex : kept[index]? = some (name, f))
    (hdecode : ∀ v, toOptional? decode (f v) = toOptional? decode v) (arity : Nat) (j : Json) :
    single? decode index name arity (keep kept j) = single? decode index name arity j := by
  cases j with
  | object members =>
      simp only [keep, single?, filter_keepMembers hname]
      cases members.filter (·.1 = name) with
      | nil => rfl
      | cons m others =>
          cases others with
          | nil => exact hdecode m.2
          | cons _ _ => rfl
  | array items =>
      simp only [keep, single?, length_keepItems, getElem?_keepItems hindex]
      cases items[index]? with
      | none => rfl
      | some v => simp only [Option.map_some, hdecode v]
  | _ => rfl

/-- What is kept of the parameters of an answer. -/
def parameterParts : Kept := [("retry_after", id)]

/-- What is kept of an answer: the parts of a complaint. -/
def Complaint.parts : Kept := [("description", id), ("parameters", keep parameterParts)]

/-- The seconds to wait are kept. -/
theorem parameters?_keep (j : Json) : parameters? (keep parameterParts j) = parameters? j :=
  single?_keep rfl rfl (fun _ => rfl) 1 j

namespace Complaint

/-- The complaint is kept. -/
theorem ofJson?_keep (j : Json) : ofJson? (keep parts j) = ofJson? j := by
  have hdescription : single? toText? 0 "description" 2 (keep parts j) =
      single? toText? 0 "description" 2 j :=
    single?_keep rfl rfl (fun _ => rfl) 2 j
  -- what is kept of the parameters is no less null than they are
  have hnull (v : Json) : toOptional? parameters? (keep parameterParts v) =
      toOptional? parameters? v := by
    cases v with
    | object members => exact congrArg (Option.map some) (parameters?_keep (.object members))
    | array items => exact congrArg (Option.map some) (parameters?_keep (.array items))
    | _ => rfl
  have hparameters : single? parameters? 1 "parameters" 2 (keep parts j) =
      single? parameters? 1 "parameters" 2 j :=
    single?_keep rfl rfl hnull 2 j
  rw [ofJson?, hdescription, hparameters]
  rfl

/-- What is read of a body is what is kept. -/
theorem keeps_reader : Keeps (keep parts) reader := by
  have hparameters : KeepFields parameterParts [("retry_after", value?)] :=
    .cons ⟨rfl, keeps_value⟩ .nil
  exact KeepFields.skim? (.cons ⟨rfl, keeps_value⟩ (.cons ⟨rfl, hparameters.skim?⟩ .nil))

/-- **A body that can be read in full tells the complaint of the document that it is.** -/
theorem ofBody_of_parse? {body : String} {j : Json} (h : parse? body = some j) :
    ofBody body = (ofJson? j).getD ⟨none, none⟩ := by
  rw [ofBody, keeps_reader.whole? h, Option.bind_some, ofJson?_keep]

end Complaint

end Courier.TelegramApi
