import Mathlib.Data.List.Forall2
import Courier.Broadcast
import Courier.Proofs.Registry
import Courier.Proofs.Store.Channels
import Courier.Proofs.World

/-!
# Proofs — Broadcast

Sending past the queue.  A message about services goes once to each channel that hears about them,
whatever the senders answer, and to the address that the queue would use
(`broadcast_reaches_each_once`).

* `World.answers`, `World.timeAfter?`: what senders that are called in turn answer, and when.
  Answers that come at once take no time (`World.Prompt.timeAfter?`).
* `Registry.SentEach`: the messages to channels, one after the other, and the counts of them.
* `Registry.run_sendEach`: that is what sending to each of them comes to, by induction on the
  channels.
* `Registry.carries_looked_up`: the addresses are those under which the channels are looked up.
-/

namespace Courier

namespace World

/-- What the senders at these places answer, called one after the other. -/
def answers : Table Nat (List Reply) → List Nat → List Reply
  | _, [] => []
  | replies, place :: rest =>
    (takeNext place replies).1.getD .success :: answers (takeNext place replies).2 rest

/-- The time after the answers, if the years do not end before. -/
def timeAfter? (now : Instant) (replies : List Reply) : Option Instant :=
  replies.foldlM (fun now reply => now.shift? reply.took.nanos) now

/-- Each answer that is laid down comes at once. -/
def Prompt (replies : Table Nat (List Reply)) : Prop :=
  ∀ ⦃place list⦄, replies.get? place = some list → ∀ reply ∈ list, reply.took = ⟨0⟩

/-- An answer that is taken comes at once, and so do those left. -/
theorem Prompt.takeNext {replies : Table Nat (List Reply)} (h : Prompt replies) (place : Nat) :
    ((World.takeNext place replies).1.getD .success).took = ⟨0⟩ ∧
      Prompt (World.takeNext place replies).2 := by
  rw [World.takeNext]
  split
  · rename_i first rest hget
    refine ⟨h hget first List.mem_cons_self, fun other list hother reply hreply => ?_⟩
    rw [Table.get?_set] at hother
    split at hother
    · obtain rfl := Option.some.inj hother
      exact h hget reply (List.mem_cons_of_mem first hreply)
    · exact h hother reply hreply
  · exact ⟨rfl, h⟩

/-- Answers that come at once take no time. -/
theorem Prompt.timeAfter? {replies : Table Nat (List Reply)} (h : Prompt replies)
    (places : List Nat) (now : Instant) :
    World.timeAfter? now (answers replies places) = some now := by
  induction places generalizing replies with
  | nil => rfl
  | cons place rest ih =>
      obtain ⟨htook, hrest⟩ := h.takeNext place
      have hshift : now.shift? ((World.takeNext place replies).1.getD .success).took.nanos =
          some now := by
        rw [htook]
        exact now.shift?_zero
      rw [answers, World.timeAfter?, List.foldlM_cons, hshift]
      exact ih hrest

end World

/-- The channels that hear about services, as they are kept. -/
def Store.hearing (s : Store) (serviceIds : List Uuid) : List Channel :=
  s.channels.filter fun c => c.Hears serviceIds

/-- The audience of services is made of the channels that hear about them, with their addresses. -/
theorem Store.audience_eq (s : Store) (serviceIds : List Uuid) :
    s.audience serviceIds = (s.hearing serviceIds).map s.addressed :=
  rfl

namespace Registry

variable {r : Registry} {subject body : String}

/-! ### One channel after the other -/

/-- A channel as it is found for services. -/
def subscriber (c : Channel) : Subscriber := ⟨c.id, c.channelType, c.target, c.ownerEmail⟩

/-- The senders that are called for channels, in turn. -/
def called (r : Registry) (channels : List Channel) : List Nat :=
  channels.filterMap fun c => r.sender? c.channelType

/-- A channel without a sender calls none. -/
theorem called_cons_none {c : Channel} (h : r.sender? c.channelType = none) (rest : List Channel) :
    r.called (c :: rest) = r.called rest :=
  List.filterMap_cons_none h

/-- A channel with a sender calls it, before the channels that follow. -/
theorem called_cons_some {c : Channel} {place : Nat} (h : r.sender? c.channelType = some place)
    (rest : List Channel) : r.called (c :: rest) = place :: r.called rest :=
  List.filterMap_cons_some h

/-- A message to a channel from the sender that serves it. -/
def Carries (r : Registry) (subject body : String) (c : Channel) (sent : Sent) : Prop :=
  IsLast c.channelType r.types sent.sender ∧ sent.notification = ⟨c.recipient, subject, body⟩

/-- The messages to channels, one after the other, and what has been counted since an earlier
summary. -/
structure SentEach (r : Registry) (subject body : String) (channels : List Channel)
    (replies : List Reply) (sends : List Sent) (summary summary' : BroadcastSummary) : Prop where
  each : List.Forall₂ (r.Carries subject body)
    (channels.filter fun c => c.channelType ∈ r.types) sends
  places : sends.map (·.sender) = r.called channels
  results : sends.map (·.delivered) = replies.map (·.result.isOk)
  delivered : summary'.delivered = summary.delivered + sends.countP (·.delivered)
  failed : summary'.failed = summary.failed + sends.countP (!·.delivered)
  skipped : summary'.skipped =
    summary.skipped + channels.countP fun c => c.channelType ∉ r.types

namespace SentEach

variable {c : Channel} {channels : List Channel} {replies : List Reply} {sends : List Sent}
  {summary summary' : BroadcastSummary}

/-- A channel that no sender serves is counted and passed over. -/
theorem skip (hsender : r.sender? c.channelType = none)
    (h : r.SentEach subject body channels replies sends
      { summary with skipped := summary.skipped + 1 } summary') :
    r.SentEach subject body (c :: channels) replies sends summary summary' := by
  have hc := sender?_eq_none_iff.mp hsender
  refine ⟨?_, ?_, h.results, h.delivered, h.failed, ?_⟩
  · rw [List.filter_cons_of_neg (by simpa using hc)]
    exact h.each
  · rw [called_cons_none hsender]
    exact h.places
  · rw [h.skipped, List.countP_cons_of_pos (by simpa using hc)]
    exact Nat.add_right_comm _ _ _

/-- A message is counted by its answer, and the others follow. -/
theorem send {place : Nat} (hsender : r.sender? c.channelType = some place) {reply : Reply}
    (h : r.SentEach subject body channels replies sends (summary.count reply.result) summary') :
    r.SentEach subject body (c :: channels) (reply :: replies)
      (⟨place, ⟨c.recipient, subject, body⟩, reply.result.isOk⟩ :: sends) summary summary' := by
  have hplace := isLast_of_sender? hsender
  have hc : c.channelType ∈ r.types := List.mem_of_getElem? hplace.1
  refine ⟨?_, ?_, congrArg _ h.results, ?_, ?_, ?_⟩
  · rw [List.filter_cons_of_pos (by simpa using hc)]
    exact .cons ⟨hplace, rfl⟩ h.each
  · rw [called_cons_some hsender]
    exact congrArg _ h.places
  · rw [h.delivered, List.countP_cons]
    cases reply.result with
    | ok => exact Nat.add_right_comm _ _ _
    | error => rfl
  · rw [h.failed, List.countP_cons]
    cases reply.result with
    | ok => rfl
    | error => exact Nat.add_right_comm _ _ _
  · rw [h.skipped, List.countP_cons_of_neg (by simpa using hc)]
    cases reply.result <;> rfl

/-- Every channel is counted once. -/
theorem length_eq (h : r.SentEach subject body channels replies sends .zero summary) :
    summary.delivered + summary.failed + summary.skipped = channels.length := by
  have hsends := List.length_eq_countP_add_countP (·.delivered) (l := sends)
  have hchannels := List.length_eq_countP_add_countP (fun c => c.channelType ∈ r.types)
    (l := channels)
  have hserved := h.each.length_eq
  rw [← List.countP_eq_length_filter] at hserved
  simp only [h.delivered, h.failed, h.skipped, BroadcastSummary.zero, decide_not,
    Bool.not_eq_true, Bool.decide_eq_false] at hsends hchannels ⊢
  omega

end SentEach

/-- **One message to each channel that is served, in their order**, whatever becomes of it. -/
theorem run_sendEach {channels : List Channel} {w : World} {later : Instant}
    (h : World.timeAfter? w.now (World.answers w.replies (r.called channels)) = some later)
    (summary : BroadcastSummary) :
    ∃ w' summary' sends,
      w.run (r.sendEach subject body summary (channels.map subscriber)) = (w', some summary') ∧
      w'.store = w.store ∧ w'.sent = sends.reverse ++ w.sent ∧
      r.SentEach subject body channels (World.answers w.replies (r.called channels)) sends summary
        summary' := by
  induction channels generalizing w summary with
  | nil => exact ⟨w, summary, [], rfl, rfl, rfl, .nil, rfl, rfl, rfl, rfl, rfl⟩
  | cons c rest ih =>
      cases hsender : r.sender? c.channelType with
      | none =>
          rw [called_cons_none hsender] at h ⊢
          obtain ⟨w', summary', sends, hrun, hstore, hsent, heach⟩ := ih h _
          refine ⟨w', summary', sends, ?_, hstore, hsent, heach.skip hsender⟩
          rw [List.map_cons, sendEach, subscriber, hsender]
          exact hrun
      | some place =>
          rw [called_cons_some hsender, World.answers] at h ⊢
          rw [World.timeAfter?, List.foldlM_cons] at h
          obtain ⟨now, hnow, h⟩ := Option.bind_eq_some_iff.mp h
          obtain ⟨w', summary', sends, hrun, hstore, hsent, heach⟩ :=
            @ih (w.afterSend place ⟨c.recipient, subject, body⟩ now) h _
          refine ⟨w', summary', _, ?_, hstore, ?_, heach.send hsender⟩
          · rw [List.map_cons, sendEach, subscriber, hsender]
            exact (World.run_send hnow _).trans hrun
          · rw [hsent, World.afterSend, List.reverse_cons, List.append_assoc]
            rfl

/-! ### All who hear -/

/-- What is sent to channels that are found for services goes where they are looked up. -/
theorem carries_looked_up {s : Store} (h : s.Registered) {serviceIds : List Uuid}
    {sends : List Sent}
    (hsends : List.Forall₂ (r.Carries subject body)
      ((s.audience serviceIds).filter fun c => c.channelType ∈ r.types) sends) :
    List.Forall₂
      (fun c sent => IsLast c.channelType r.types sent.sender ∧
        ∃ found, s.getChannel? c.id = some found ∧
          sent.notification = ⟨found.recipient, subject, body⟩)
      ((s.hearing serviceIds).filter fun c => c.channelType ∈ r.types) sends := by
  have hkept : ∀ c ∈ (s.hearing serviceIds).filter fun c => c.channelType ∈ r.types,
      c ∈ s.channels := fun c hc => List.mem_of_mem_filter (List.mem_of_mem_filter hc)
  rw [s.audience_eq, List.filter_map, List.forall₂_map_left_iff] at hsends
  refine ((List.forall₂_and_left _ _).mpr ⟨hkept, hsends⟩).imp ?_
  rintro c sent ⟨hc, hlast, hnotification⟩
  exact ⟨hlast, _, h.getChannel?_of_mem hc, hnotification⟩

/-- What a broadcast about services comes to: the messages that were sent, and the summary. -/
structure Broadcasts (r : Registry) (subject body : String) (serviceIds : List Uuid) (w w' : World)
    (sends : List Sent) (summary : BroadcastSummary) : Prop where
  store : w'.store = w.store
  sent : w'.sent = sends.reverse ++ w.sent
  /-- No channel hears about the services twice. -/
  once : ((w.store.hearing serviceIds).map (·.id)).Nodup
  /-- Each of them of a kind that is served gets its message, in their order, from the sender of the
  kind and at the address that is looked up for the channel. -/
  each : List.Forall₂
    (fun c sent => IsLast c.channelType r.types sent.sender ∧
      ∃ found, w.store.getChannel? c.id = some found ∧
        sent.notification = ⟨found.recipient, subject, body⟩)
    ((w.store.hearing serviceIds).filter fun c => c.channelType ∈ r.types) sends
  /-- The senders answer as it is laid down. -/
  results : sends.map (·.delivered) =
    (World.answers w.replies (sends.map (·.sender))).map (·.result.isOk)
  delivered : summary.delivered = sends.countP (·.delivered)
  failed : summary.failed = sends.countP (!·.delivered)
  skipped : summary.skipped = (w.store.hearing serviceIds).countP fun c => c.channelType ∉ r.types
  total : summary.delivered + summary.failed + summary.skipped =
    (w.store.hearing serviceIds).length

end Registry

/-- **A broadcast reaches each channel once.**  Where the channels can be looked up and the years do
not end before the senders have answered, each channel that hears about the services and is of a
kind that is served gets one message, in the order of the channels and whatever became of those
before; the summary counts the messages that were taken, those that were not and the channels that
no sender serves, and nothing that is kept has changed. -/
theorem broadcast_reaches_each_once {ops : List (Instant × Operation)} {r : Registry} {w : World}
    {serviceIds : List Uuid} {subject body : String} (hs : w.store = Store.empty.after ops)
    (hf : w.nextFault? "find_subscribers" = none)
    (htime : (World.timeAfter? w.now
      (World.answers w.replies (r.called (w.store.hearing serviceIds)))).isSome = true) :
    ∃ w' sends summary,
      w.run (r.dispatch serviceIds subject body) = (w', some (.ok summary)) ∧
        r.Broadcasts subject body serviceIds w w' sends summary := by
  have hregistered : w.store.Registered := hs ▸ Store.registered_after ops
  have hcalled : r.called (w.store.audience serviceIds) = r.called (w.store.hearing serviceIds) :=
    List.filterMap_map
  obtain ⟨later, hlater⟩ := Option.isSome_iff_exists.mp htime
  rw [← hcalled] at hlater
  obtain ⟨w', summary, sends, hrun, hstore, hsent, heach⟩ :=
    @Registry.run_sendEach r subject body _ (w.afterCall "find_subscribers") later hlater .zero
  refine ⟨w', sends, summary, ?_, hstore, hsent, ?_, ?_, ?_, ?_, ?_, ?_, ?_⟩
  · have hfound : (StoreCall.findSubscribers serviceIds).answer? w.now w.store =
        some ((w.store.audience serviceIds).map Registry.subscriber) :=
      congrArg some (w.store.findSubscribers_eq serviceIds)
    rw [Registry.dispatch, Program.bind_eq_bind, World.run_call_served hf hfound]
    exact World.run_bind_some hrun _
  · have hnodup := hregistered.nodup_hearers serviceIds
    rwa [Store.hearers, Store.audience_eq, List.map_map] at hnodup
  · exact Registry.carries_looked_up hregistered heach.each
  · rw [heach.places]
    exact heach.results
  · rw [heach.delivered]
    exact Nat.zero_add _
  · rw [heach.failed]
    exact Nat.zero_add _
  · rw [heach.skipped, Store.audience_eq, List.countP_map]
    exact Nat.zero_add _
  · rw [heach.length_eq, Store.audience_eq, List.length_map]

namespace Sample

/-- Three channels, one of them for mail. -/
def channels : List Channel :=
  [channel, { channel with id := id 2, target := "2" },
    { channel with id := id 3, channelType := .email, target := "user@example.com" }]

/-- The first message gets no answer. -/
def deaf : World :=
  { World.start .epoch with
    store := Store.empty.after (channels.map fun c => (.epoch, .edit (.insertChannel c)))
    replies := Table.empty.set 0 [⟨.error (.timeout "no answer"), ⟨0⟩⟩] }

end Sample

/-- The second channel gets its message although the first did not, and there is no sender for the
third. -/
theorem second_channel_gets_message : ∃ w',
    Sample.deaf.run (Registry.dispatch ⟨[.telegram]⟩ [] "Maintenance" "Tonight") =
      (w', some (.ok ⟨1, 1, 1⟩)) ∧
    w'.sent = [⟨0, ⟨"2", "Maintenance", "Tonight"⟩, true⟩,
      ⟨0, ⟨"1", "Maintenance", "Tonight"⟩, false⟩] ∧
    w'.store = Sample.deaf.store := by
  have hprompt : World.Prompt Sample.deaf.replies := by
    intro place list hget reply hreply
    rw [Sample.deaf, Table.get?_set, Table.get?_empty] at hget
    split at hget
    · obtain rfl := Option.some.inj hget
      rw [List.mem_singleton.mp hreply]
    · cases hget
  obtain ⟨w', sends, summary, hrun, h⟩ := @broadcast_reaches_each_once _ ⟨[.telegram]⟩ Sample.deaf
    [] "Maintenance" "Tonight" rfl rfl (by rw [hprompt.timeAfter?]; rfl)
  have hran : (Sample.deaf.run
      (Registry.dispatch ⟨[.telegram]⟩ [] "Maintenance" "Tonight")).1.sent = w'.sent := by rw [hrun]
  have hsent : w'.sent = [⟨0, ⟨"2", "Maintenance", "Tonight"⟩, true⟩,
      ⟨0, ⟨"1", "Maintenance", "Tonight"⟩, false⟩] := hran.symm.trans (by decide)
  -- the messages tell what the summary has counted
  have hsends : sends = [⟨0, ⟨"1", "Maintenance", "Tonight"⟩, false⟩,
      ⟨0, ⟨"2", "Maintenance", "Tonight"⟩, true⟩] :=
    List.reverse_injective ((List.append_nil _).symm.trans (h.sent.symm.trans hsent))
  have hdelivered : summary.delivered = 1 := by rw [h.delivered, hsends]; rfl
  have hfailed : summary.failed = 1 := by rw [h.failed, hsends]; rfl
  have hskipped : summary.skipped = 1 := h.skipped.trans (by decide)
  obtain ⟨delivered, failed, skipped⟩ := summary
  subst hdelivered hfailed hskipped
  exact ⟨w', hrun, hsent, h.store⟩

end Courier
