import Courier.Event

/-!
# Catalog

The services of the status page and their groups.
-/

namespace Courier

/-- A service and its current status. -/
structure Service where
  id : Uuid
  name : String
  status : ServiceStatus
  deriving DecidableEq, Repr

namespace Service

/-- A service as JSON. -/
def toJson (s : Service) : Json :=
  .object [("id", s.id.toJson), ("name", .string s.name), ("status", s.status.toJson)]

/-- The service that a JSON value stands for. -/
def ofJson? (j : Json) : Option Service := do
  let r ← Json.Record.of? 3 j
  return {
    id := ← r.required Uuid.ofJson? 0 "id"
    name := ← r.required Json.toText? 1 "name"
    status := ← r.required ServiceStatus.ofJson? 2 "status" }

end Service

/-- A named group of services. -/
structure Group where
  id : Uuid
  name : String
  deriving DecidableEq, Repr

namespace Group

/-- A group as JSON. -/
def toJson (g : Group) : Json :=
  .object [("id", g.id.toJson), ("name", .string g.name)]

/-- The group that a JSON value stands for. -/
def ofJson? (j : Json) : Option Group := do
  let r ← Json.Record.of? 2 j
  return {
    id := ← r.required Uuid.ofJson? 0 "id"
    name := ← r.required Json.toText? 1 "name" }

end Group

end Courier
