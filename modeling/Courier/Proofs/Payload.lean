import Courier.Message.Webhook
import Courier.Proofs.Json.Codec
import Courier.Proofs.Time.Rfc3339
import Courier.Proofs.Uuid
import Courier.Queue.Item

/-!
# Proofs — Payload

The JSON form of a payload and of all it is made of can be read back: one `codec` for each type.
-/

namespace Courier
open Json

/-! ### Texts -/

theorem Uuid.codec (depth : Nat) : Codec depth toJson ofJson? := by
  refine codec_text depth fun u => ?_
  rw [ofJson?, toText?, Option.bind_some, ofChars?_text]

theorem Instant.codec (depth : Nat) : Codec depth toJson ofJson? := by
  refine codec_text depth fun t => ?_
  rw [ofJson?, toText?, Option.bind_some, text, String.toList_ofList, Time.read?_write]

theorem EventType.codec (depth : Nat) : Codec depth toJson ofJson? :=
  codec_text depth ofName?_name

theorem EventStatus.codec (depth : Nat) : Codec depth toJson ofJson? :=
  codec_text depth fun s => congrArg some (ofName_name s)

theorem Severity.codec (depth : Nat) : Codec depth toJson ofJson? :=
  codec_text depth fun s => congrArg some (ofName_name s)

theorem ServiceStatus.codec (depth : Nat) : Codec depth toJson ofJson? :=
  codec_text depth fun s => congrArg some (ofName_name s)

theorem MessageKind.codec (depth : Nat) : Codec depth toJson ofJson? :=
  codec_text depth ofName?_name

theorem QueueStatus.codec (depth : Nat) : Codec depth toJson ofJson? :=
  codec_text depth ofName?_name

/-! ### Records -/

/-- A service written in a payload is read back. -/
theorem ServiceSnapshot.codec (depth : Nat) : Codec (depth + 1) toJson ofJson? := by
  refine codec_object ["id", "name", "status"] (by decide) (fun _ => rfl) (fun _ => ?_) fun _ => ?_
  · exact some_bind rfl <|
      some_bind ((Uuid.codec 0).required rfl) <|
      some_bind ((codec_string 0).required rfl) <|
      some_bind ((ServiceStatus.codec 0).required rfl) rfl
  · simp only [List.forall_mem_cons]
    exact ⟨(Uuid.codec _).written _, (codec_string _).written _, (ServiceStatus.codec _).written _,
      List.forall_mem_nil _⟩

theorem GroupSnapshot.codec (depth : Nat) : Codec (depth + 1) toJson ofJson? := by
  refine codec_object ["id", "name"] (by decide) (fun _ => rfl) (fun _ => ?_) fun _ => ?_
  · exact some_bind rfl <|
      some_bind ((Uuid.codec 0).required rfl) <|
      some_bind ((codec_string 0).required rfl) rfl
  · simp only [List.forall_mem_cons]
    exact ⟨(Uuid.codec _).written _, (codec_string _).written _, List.forall_mem_nil _⟩

/-- An event of a payload is read back, three levels deep at most. -/
theorem EventSnapshot.codec (depth : Nat) : Codec (depth + 3) toJson ofJson? := by
  refine codec_object ["id", "title", "event_type", "status", "severity", "message", "services",
      "groups", "started_at", "scheduled_start_at", "scheduled_end_at", "created_at"]
    (by decide) (fun _ => rfl) (fun _ => ?_) fun _ => ?_
  · exact some_bind rfl <|
      some_bind ((Uuid.codec 0).required rfl) <|
      some_bind ((codec_string 0).required rfl) <|
      some_bind ((EventType.codec 0).required rfl) <|
      some_bind ((EventStatus.codec 0).required rfl) <|
      some_bind ((Severity.codec 0).optional rfl) <|
      some_bind ((codec_string 0).required rfl) <|
      some_bind ((ServiceSnapshot.codec 0).list.required rfl) <|
      some_bind ((GroupSnapshot.codec 0).list.defaulted rfl) <|
      some_bind ((Instant.codec 0).optional rfl) <|
      some_bind ((Instant.codec 0).optional rfl) <|
      some_bind ((Instant.codec 0).optional rfl) <|
      some_bind ((Instant.codec 0).required rfl) rfl
  · simp only [List.forall_mem_cons]
    exact ⟨(Uuid.codec _).written _, (codec_string _).written _, (EventType.codec _).written _,
      (EventStatus.codec _).written _, (Severity.codec _).written_ofOptional _,
      (codec_string _).written _, (ServiceSnapshot.codec depth).list.written _,
      (GroupSnapshot.codec depth).list.written _, (Instant.codec _).written_ofOptional _,
      (Instant.codec _).written_ofOptional _, (Instant.codec _).written_ofOptional _,
      (Instant.codec _).written _, List.forall_mem_nil _⟩

theorem ServiceTransition.codec (depth : Nat) : Codec (depth + 1) toJson ofJson? := by
  refine codec_object ["id", "name", "from", "to"] (by decide) (fun _ => rfl) (fun _ => ?_)
    fun _ => ?_
  · exact some_bind rfl <|
      some_bind ((Uuid.codec 0).required rfl) <|
      some_bind ((codec_string 0).required rfl) <|
      some_bind ((ServiceStatus.codec 0).required rfl) <|
      some_bind ((ServiceStatus.codec 0).required rfl) rfl
  · simp only [List.forall_mem_cons]
    exact ⟨(Uuid.codec _).written _, (codec_string _).written _, (ServiceStatus.codec _).written _,
      (ServiceStatus.codec _).written _, List.forall_mem_nil _⟩

theorem StatusChange.codec (depth : Nat) : Codec (depth + 1) toJson ofJson? := by
  refine codec_object ["from", "to"] (by decide) (fun _ => rfl) (fun _ => ?_) fun _ => ?_
  · exact some_bind rfl <|
      some_bind ((EventStatus.codec 0).required rfl) <|
      some_bind ((EventStatus.codec 0).required rfl) rfl
  · simp only [List.forall_mem_cons]
    exact ⟨(EventStatus.codec _).written _, (EventStatus.codec _).written _, List.forall_mem_nil _⟩

/-- The changes of a payload are read back, three levels deep at most. -/
theorem PayloadChanges.codec (depth : Nat) : Codec (depth + 3) toJson ofJson? := by
  refine codec_object ["status", "services_added", "services_removed", "services_updated", "reason"]
    (by decide) (fun _ => rfl) (fun _ => ?_) fun _ => ?_
  · exact some_bind rfl <|
      some_bind ((StatusChange.codec 0).optional rfl) <|
      some_bind ((ServiceSnapshot.codec 0).list.defaulted rfl) <|
      some_bind ((ServiceSnapshot.codec 0).list.defaulted rfl) <|
      some_bind ((ServiceTransition.codec 0).list.defaulted rfl) <|
      some_bind ((codec_string 0).optional rfl) rfl
  · simp only [List.forall_mem_cons]
    exact ⟨(StatusChange.codec (depth + 1)).written_ofOptional _,
      (ServiceSnapshot.codec depth).list.written _, (ServiceSnapshot.codec depth).list.written _,
      (ServiceTransition.codec depth).list.written _, (codec_string _).written_ofOptional _,
      List.forall_mem_nil _⟩

/-- So is what resolved an event. -/
theorem ResolutionInfo.codec (depth : Nat) : Codec (depth + 1) toJson ofJson? := by
  refine codec_object ["resolved_at", "duration_seconds", "message"]
    (by decide) (fun _ => rfl) (fun _ => ?_) fun _ => ?_
  · exact some_bind rfl <|
      some_bind ((Instant.codec 0).required rfl) <|
      some_bind ((codec_int64 0).required rfl) <|
      some_bind ((codec_string 0).optional rfl) rfl
  · simp only [List.forall_mem_cons]
    exact ⟨(Instant.codec _).written _, (codec_int64 _).written _,
      (codec_string _).written_ofOptional _, List.forall_mem_nil _⟩

/-- Members in front of a payload are passed over, whatever they are. -/
theorem Payload.ofJson?_append (extra : List (String × Json)) (p : Payload) :
    ofJson? (.object (extra ++ p.members)) = some p :=
  some_bind rfl <|
  some_bind ((MessageKind.codec 0).required (Record.find?_append extra rfl)) <|
  some_bind ((EventSnapshot.codec 0).required (Record.find?_append extra rfl)) <|
  some_bind ((PayloadChanges.codec 0).optional (Record.find?_append extra rfl)) <|
  some_bind ((ResolutionInfo.codec 0).optional (Record.find?_append extra rfl)) <|
  some_bind ((codec_string 0).optional (Record.find?_append extra rfl)) <|
  some_bind ((Instant.codec 0).required (Record.find?_append extra rfl)) rfl

/-- The members of a payload can be written as JSON. -/
theorem Payload.written_members (depth : Nat) (p : Payload) :
    ∀ m ∈ p.members, Written (depth + 3) m.2 := by
  simp only [members, List.forall_mem_cons]
  exact ⟨(MessageKind.codec _).written _, (EventSnapshot.codec depth).written _,
    (PayloadChanges.codec depth).written_ofOptional _,
    (ResolutionInfo.codec (depth + 2)).written_ofOptional _, (codec_string _).written_ofOptional _,
    (Instant.codec _).written _, List.forall_mem_nil _⟩

/-- A payload is read back, four levels deep at most. -/
theorem Payload.codec (depth : Nat) : Codec (depth + 4) toJson ofJson? :=
  codec_object ["kind", "event", "changes", "resolution", "event_url", "generated_at"] (by decide)
    (fun _ => rfl) (ofJson?_append []) (written_members depth)

/-- An item is read back, five levels deep at most. -/
theorem QueueItem.codec (depth : Nat) : Codec (depth + 5) toJson ofJson? := by
  refine codec_object ["id", "event_id", "channel_id", "kind", "payload", "status", "attempts",
      "max_attempts", "next_attempt_at", "last_error", "created_at", "updated_at", "sent_at"]
    (by decide) (fun _ => rfl) (fun _ => ?_) fun _ => ?_
  · exact some_bind rfl <|
      some_bind ((Uuid.codec 0).required rfl) <|
      some_bind ((Uuid.codec 0).required rfl) <|
      some_bind ((Uuid.codec 0).required rfl) <|
      some_bind ((MessageKind.codec 0).required rfl) <|
      some_bind ((Payload.codec 0).required rfl) <|
      some_bind ((QueueStatus.codec 0).required rfl) <|
      some_bind ((codec_int32 0).required rfl) <|
      some_bind ((codec_int32 0).required rfl) <|
      some_bind ((Instant.codec 0).required rfl) <|
      some_bind ((codec_string 0).optional rfl) <|
      some_bind ((Instant.codec 0).required rfl) <|
      some_bind ((Instant.codec 0).required rfl) <|
      some_bind ((Instant.codec 0).optional rfl) rfl
  · simp only [headMembers, tailMembers, List.cons_append, List.nil_append, List.forall_mem_cons]
    exact ⟨(Uuid.codec _).written _, (Uuid.codec _).written _, (Uuid.codec _).written _,
      (MessageKind.codec _).written _, (Payload.codec depth).written _,
      (QueueStatus.codec _).written _, (codec_int32 _).written _, (codec_int32 _).written _,
      (Instant.codec _).written _, (codec_string _).written_ofOptional _,
      (Instant.codec _).written _, (Instant.codec _).written _,
      (Instant.codec _).written_ofOptional _, List.forall_mem_nil _⟩

/-! ### Documents -/

/-- The document of a payload, as it is read back. -/
theorem Webhook.parse?_document (p : Payload) :
    Written 4 (.object (members p)) ∧ parse? (document p) = some (.object (members p)) := by
  have hwritten : Written 4 (.object (members p)) := by
    refine .object (show ["subject", "kind", "event", "changes", "resolution", "event_url",
      "generated_at"].Nodup by decide) (List.forall_mem_cons.mpr ⟨.string _ _, ?_⟩)
    exact p.written_members 0
  exact ⟨hwritten, parse?_render hwritten (by decide)⟩

/-- **What is written can be read back.**  A payload, the document of a webhook message and an item
of the queue are the same after they went through their JSON text, and the payload that any value is
read as is the one that its own text is read as. -/
theorem json_read_back :
    (∀ p : Payload, parse? p.toJson.render = some p.toJson ∧ Payload.ofJson? p.toJson = some p) ∧
    (∀ p : Payload, ∃ members,
      parse? (Webhook.document p) = some (.object members) ∧ (Json.object members).Distinct ∧
        (Json.object members).member? "subject" = some (.string p.subject) ∧
        Payload.ofJson? (.object members) = some p) ∧
    (∀ item : QueueItem,
      parse? item.toJson.render = some item.toJson ∧ QueueItem.ofJson? item.toJson = some item) ∧
    (∀ v p, Payload.ofJson? v = some p →
      (parse? p.toJson.render).bind Payload.ofJson? = Payload.ofJson? v) := by
  have hpayload (p : Payload) : parse? p.toJson.render = some p.toJson :=
    (Payload.codec 0).parse?_render (by decide) p
  refine ⟨fun p => ⟨hpayload p, (Payload.codec 0).decode_encode p⟩, fun p => ?_, fun item => ?_,
    fun v p h => ?_⟩
  · obtain ⟨hwritten, hparse⟩ := Webhook.parse?_document p
    exact ⟨_, hparse, hwritten.distinct, rfl, p.ofJson?_append [("subject", .string p.subject)]⟩
  · exact ⟨(QueueItem.codec 0).parse?_render (by decide) item,
      (QueueItem.codec 0).decode_encode item⟩
  · rw [hpayload, h]
    exact (Payload.codec 0).decode_encode p

namespace Sample

/-- A payload with names of its own for a status and a severity, a member that is not known, and
nothing that may be missing. -/
def sparse : Json :=
  .object
    [("colour", .string "red"), ("kind", .string "update"),
      ("event", .object
        [("id", .string "0123456789abcdef0123456789ABCDEF"), ("title", .string "Maps"),
          ("event_type", .string "incident"), ("status", .string "paused"),
          ("severity", .string "dire"), ("message", .string ""), ("services", .array []),
          ("created_at", .string "2016-12-31 23:59:60.5Z")]),
      ("generated_at", .string "1970-01-01T00:00:00Z")]

/-- It is read as a payload without any of it, which is read back. -/
theorem sparse_is_read_back :
    ∃ p, Payload.ofJson? sparse = some p ∧
      (p.event.status = .unknown ∧ p.event.severity = some .unknown ∧ p.event.groups = [] ∧
        p.changes = none) ∧
      (parse? p.toJson.render).bind Payload.ofJson? = Payload.ofJson? sparse := by
  have hread : (Payload.ofJson? sparse).isSome = true := by decide +kernel
  obtain ⟨p, hp⟩ := Option.isSome_iff_exists.mp hread
  refine ⟨p, hp, ?_, json_read_back.2.2.2 sparse p hp⟩
  have hparts : (Payload.ofJson? sparse).map (fun p =>
      (p.event.status, p.event.severity, p.event.groups, p.changes)) =
        some (.unknown, some .unknown, [], none) := by
    decide +kernel
  rw [hp, Option.map_some] at hparts
  simpa only [Option.some.injEq, Prod.mk.injEq] using hparts

end Sample

end Courier
