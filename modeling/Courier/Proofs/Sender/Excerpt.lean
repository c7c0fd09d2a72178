import Courier.Proofs.Delivery.Verdict
import Courier.Proofs.Text.Digits
import Courier.Sender

/-!
# Proofs — Sender — Excerpt

How much of an answer a failed attempt leaves behind: in the error of the sender, and with the item
that the worker then settles.

* `Excerpt`: what may be kept of a text.
* `SendError.Quotes`: words of the error (`SendError.lead`), for which the answer supplies no more
  than its status, and an excerpt behind them.
* `Worker.settle_reports`: the store keeps the message of the error, with a few words in front when
  the attempts are used up.
* `error_keeps_excerpt_unless_overlong`: all of this is bounded but for one answer, that no chat is
  found, which is kept as long as it is.
-/

namespace Courier

/-! ### Excerpts -/

/-- A start of a text that is no longer than what is kept of a body, with or without dots. -/
def Excerpt (source text : String) : Prop :=
  ∃ start, start <+: source.toList ∧ start.length ≤ bodyLimit ∧
    (text.toList = start ∨ text.toList = start ++ "...".toList)

theorem excerpt_of_length_le {s : String} (h : s.toList.length ≤ bodyLimit) : Excerpt s s :=
  ⟨s.toList, List.prefix_rfl, h, .inl rfl⟩

theorem excerpt_empty (s : String) : Excerpt s "" :=
  ⟨[], List.nil_prefix, Nat.zero_le _, .inl rfl⟩

theorem excerpt_clip (s : String) : Excerpt s (clip s) := by
  rw [clip]
  split
  · next h => exact excerpt_of_length_le h
  · exact ⟨_, List.take_prefix bodyLimit _, List.length_take_le bodyLimit _, .inr (by simp)⟩

/-- An excerpt is never longer than the limit and three dots. -/
theorem Excerpt.length_le {source text : String} (h : Excerpt source text) :
    text.length ≤ bodyLimit + 3 := by
  obtain ⟨start, -, hlength, htext | htext⟩ := h
  · rw [← String.length_toList, htext]
    omega
  · rw [← String.length_toList, htext, List.length_append]
    exact Nat.add_le_add_right hlength 3

/-! ### Errors -/

namespace SendError

/-- What stands in the message of an error in front of the text of an answer. -/
def lead (status : Nat) : SendError → String
  | invalidRecipient _ => "invalid recipient: "
  | unauthorized _ => "unauthorized: "
  | notFound _ => "target not found: "
  | rejected _ => "rejected by remote: " ++ Text.natText status ++ ": "
  | rateLimited _ => "rate limited by remote"
  | timeout _ => "timed out: "
  | network _ => "network error: "
  | server _ _ => "remote server error (" ++ Text.natText status ++ "): "
  | other _ => "unexpected status " ++ Text.natText status ++ ": "

/-- The message of the error is an excerpt of the text, behind words of its own. -/
def Quotes (e : SendError) (status : Nat) (source : String) : Prop :=
  ∃ kept, e.message = e.lead status ++ kept ∧ Excerpt source kept

theorem length_lead_le (e : SendError) {status : Nat} (h : status ≤ 999) :
    (e.lead status).length ≤ 27 := by
  have hstatus : (Text.natText status).length ≤ 3 := by
    rw [Text.natText, String.length_ofList]
    exact Text.length_natDigits_le (by decide) (by omega)
  have haround : ∀ {before after : String}, before.length + after.length ≤ 24 →
      (before ++ Text.natText status ++ after).length ≤ 27 := by
    intro before after hwords
    rw [String.length_append, String.length_append]
    omega
  cases e with
  | rejected _ | server _ _ | other _ => exact haround (by decide)
  | _ =>
      -- not by the equations of `lead`, for which its texts would be taken apart
      unfold lead
      dsimp only
      decide

end SendError

/-- An error by status quotes no more than an excerpt. -/
theorem classifyStatus_quotes (status : Nat) (source : String) :
    (classifyStatus status source).Quotes status source := by
  have hclip := excerpt_clip source
  unfold classifyStatus
  split_ifs
  · exact ⟨_, rfl, hclip⟩
  · exact ⟨_, rfl, hclip⟩
  · exact ⟨_, rfl, hclip⟩
  · exact ⟨"", rfl, excerpt_empty source⟩
  · exact ⟨_, rfl, hclip⟩
  · refine ⟨clip source, ?_, hclip⟩
    show _ ++ (_ ++ _ ++ _) = _ ++ _ ++ _ ++ _
    simp only [String.append_assoc]
  · exact ⟨_, rfl, hclip⟩

namespace Sender

/-- The text of an answer: its body, or the description of the complaint that it is. -/
def told : Sender → String → String
  | telegram _ _, body => (TelegramApi.Complaint.ofBody body).description.getD body
  | _, body => body

/-- The answer says that no chat is found, at more length than is kept of a body. -/
structure Overlong (s : Sender) (status : Nat) (body : String) : Prop where
  channelType : s.channelType = .telegram
  status : status = 400
  missing : TelegramApi.saysChatNotFound (s.told body) = true
  length : bodyLimit < (s.told body).toList.length

/-- So does the error of any sender, unless a missing chat is described at length. -/
theorem classify_quotes {s : Sender} {status : Nat} {body : String} (h : ¬s.Overlong status body) :
    (s.classify status body).Quotes status (s.told body) := by
  cases s with
  | webhook => exact classifyStatus_quotes status body
  | email apiKey sender endpoint => exact classifyStatus_quotes status body
  | telegram token apiBase =>
      simp only [classify, TelegramApi.classify]
      split
      · exact ⟨"", rfl, excerpt_empty _⟩
      split
      · next hmissing =>
        have hlength := Nat.not_lt.mp fun hlength => h ⟨rfl, hmissing.1, hmissing.2, hlength⟩
        exact ⟨_, rfl, excerpt_of_length_le hlength⟩
      · exact classifyStatus_quotes status _

/-- That description is kept whole. -/
theorem classify_overlong {s : Sender} {status : Nat} {body : String} (h : s.Overlong status body) :
    s.classify status body = .notFound (s.told body) := by
  obtain ⟨hchannel, rfl, hmissing, -⟩ := h
  cases s with
  | webhook => cases hchannel
  | email apiKey sender endpoint => cases hchannel
  | telegram token apiBase =>
      simp only [classify, TelegramApi.classify]
      rw [if_neg (by decide), if_pos ⟨trivial, hmissing⟩]
      rfl

/-- What the other side does has no part in the request. -/
theorem request_send (s : Sender) (n : Notification) (remote : Remote) :
    (s.send n remote).request = (s.prepare n).toOption := by
  rw [send]
  cases s.prepare n <;> rfl

/-- Where a request is made, an answer without success means what it means. -/
theorem result_send {s : Sender} {n : Notification} {status : Nat} (body : String)
    (hmade : (s.prepare n).toOption.isSome = true) :
    (s.send n (.reply status body)).result =
      if isSuccess status = true then .ok () else .error (s.classify status body) := by
  rw [send]
  split
  · next hprepare =>
    rw [hprepare] at hmade
    cases hmade
  · rfl

end Sender

/-! ### Items -/

namespace Worker
open Program

variable {worker : Worker} {w : World} {item : QueueItem} {e : SendError}

/-- What the store is told after an attempt that failed. -/
inductive Reports (item : QueueItem) (e : SendError) : StoreCall → Prop where
  | fail (h : ¬e.isRetryable = true) : Reports item e (.markFailed item.id e.message)
  | exhaust (h : e.isRetryable = true) :
      Reports item e (.markFailed item.id (exhausted item e.message))
  | retry (h : e.isRetryable = true) (t : Instant) :
      Reports item e (.markForRetry item.id e.message t)

/-- After an attempt that failed, the store is told once, with the error's text. -/
theorem settle_reports (worker : Worker) (item : QueueItem) (e : SendError) (w : World) :
    (worker.settle item (.error e)).Yields
      (fun w' _ => ∃ call, Reports item e call ∧ w.Told call w') w := by
  by_cases hr : e.isRetryable = true
  · simp only [settle, if_pos hr, retryOrFail, bind_eq_bind, pure_eq_done]
    refine .orCrash fun last _ => ?_
    cases last with
    | true => exact .bind (fail_tells item _ w) fun w' _ h => .done ⟨_, .exhaust hr, h⟩
    | false =>
        simp only [Bool.false_eq_true, if_false]
        -- the wait is a power of floats, which is not to be evaluated
        generalize worker.wait? item e.retryAfter = wait?
        refine .orCrash fun wait _ => .of_run (World.run_clock _ w) (.orCrash fun t _ => ?_)
        exact .bind (w.call_tells _) fun w' _ h => .done ⟨_, .retry hr t, h⟩
  · rw [settle, if_neg hr]
    exact .bind (fail_tells item _ w) fun w' _ h => .done ⟨_, .fail hr, h⟩

/-- The words in front of the error of an item whose attempts are used up are few. -/
theorem length_exhausted_le (item : QueueItem) (error : String) :
    (exhausted item error).length ≤ 37 + error.length := by
  have hattempts : (Text.intText item.maxAttempts.toInt).length ≤ 11 := by
    have hlt := item.maxAttempts.toInt_lt
    have hle := item.maxAttempts.le_toInt
    have hrange : item.maxAttempts.toInt.natAbs < 10 ^ 10 := by omega
    have hdigits := Text.length_natDigits_le (by decide) hrange
    rw [Text.intText]
    split
    · rw [String.length_ofList, List.length_cons]
      omega
    · rw [Text.natText, String.length_ofList]
      omega
  have hbefore : "max attempts exceeded (".length = 23 := by decide
  have hafter : "): ".length = 3 := by decide
  show (_ ++ _ ++ _ ++ error).length ≤ _
  rw [String.length_append, String.length_append, String.length_append]
  omega

end Worker

/-- The error that a call of the store brings. -/
def StoreCall.error? : StoreCall → Option String
  | markFailed _ error => some error
  | markForRetry _ error _ => some error
  | _ => none

/-- The text told is that of the error, maybe behind the words that the attempts are used up. -/
theorem Worker.Reports.error_eq {item : QueueItem} {e : SendError} {call : StoreCall}
    (h : Reports item e call) {error : String} (he : call.error? = some error) :
    error = e.message ∨ error = exhausted item e.message := by
  cases h with
  | fail _ => exact .inl (Option.some.inj he).symm
  | exhaust _ => exact .inr (Option.some.inj he).symm
  | retry _ t => exact .inl (Option.some.inj he).symm

/-- A row keeps its error, or has the one that the operation brings. -/
theorem Operation.Alters.lastError {op : Operation} {now : Instant} {row row' : QueueItem}
    (h : op.Alters now row row') :
    row'.lastError = row.lastError ∨
      ∃ call error, op = .call call ∧ call.error? = some error ∧ row'.lastError = some error := by
  cases h with
  | fail _ error => exact .inr ⟨_, error, rfl, rfl, rfl⟩
  | putBack _ error t =>
      rcases Store.putBack_eq now error t row with he | ⟨attempts, -, he⟩
      · exact .inl (he ▸ rfl)
      · exact .inr ⟨_, error, rfl, rfl, he ▸ rfl⟩
  | _ => exact .inl rfl

namespace Store

/-- No error that is kept with an item is longer. -/
def ErrorsWithin (limit : Nat) (s : Store) : Prop :=
  ∀ row ∈ s.items, ∀ error, row.lastError = some error → error.length ≤ limit

/-- A call leaves the errors as short as they are, unless it brings a longer one. -/
theorem ErrorsWithin.serve {limit : Nat} {s : Store} (h : s.ErrorsWithin limit) {call : StoreCall}
    (hcall : ∀ error, call.error? = some error → error.length ≤ limit) (now : Instant) :
    (call.serve now s).ErrorsWithin limit := by
  obtain ⟨rows, hitems, hrows⟩ := (Operation.call call).alters_apply now s
  intro row' hrow' error herror
  rw [show (call.serve now s).items = _ from hitems, List.mem_append] at hrow'
  rcases hrow' with hrow' | hrow'
  · obtain ⟨i, hi', rfl⟩ := List.getElem_of_mem hrow'
    have hi : i < s.items.length := hrows.length_eq ▸ hi'
    rcases (hrows.get hi hi').lastError with he | ⟨_, _, ⟨rfl⟩, hbrought, he⟩
    · exact h _ (List.getElem_mem hi) error (he.symm.trans herror)
    · exact hcall error (hbrought.trans (he.symm.trans herror))
  · obtain ⟨item, -, rfl⟩ := List.mem_map.mp hrow'
    cases herror

end Store

/-- The longest error that an answer may leave with an item: a few words of the worker, a few of the
error, and an excerpt with dots. -/
def errorLimit : Nat := 37 + (27 + (bodyLimit + 3))

/-- An error that quotes no more than an excerpt has a bounded text. -/
theorem SendError.Quotes.length_le {e : SendError} {status : Nat} {source : String}
    (h : e.Quotes status source) (hstatus : status ≤ 999) :
    e.message.length ≤ 27 + (bodyLimit + 3) := by
  obtain ⟨kept, hmessage, hexcerpt⟩ := h
  rw [hmessage, String.length_append]
  exact Nat.add_le_add (e.length_lead_le hstatus) hexcerpt.length_le

/-- What a worker stores of an error that quotes an answer is within the limit. -/
theorem Worker.settle_errorsWithin {e : SendError} {status : Nat} {source : String}
    (h : e.Quotes status source) (hstatus : status ≤ 999) (worker : Worker) (item : QueueItem)
    (w : World) :
    (worker.settle item (.error e)).Yields
      (fun w' _ => w.store.ErrorsWithin errorLimit → w'.store.ErrorsWithin errorLimit) w := by
  intro w' outcome hrun hwithin
  obtain ⟨call, hreports, htold⟩ := settle_reports worker item e w w' outcome hrun
  have hlength := h.length_le hstatus
  rw [htold.store]
  split
  · refine hwithin.serve (fun error herror => ?_) w.now
    rcases hreports.error_eq herror with rfl | rfl
    · exact hlength.trans (Nat.le_add_left _ _)
    · exact (length_exhausted_le item e.message).trans (Nat.add_le_add_left hlength 37)
  · exact hwithin

/-- **What an answer leaves behind is bounded, whatever its length**, in the error of the sender and
with the item that the worker settles.  The exception is an answer that says at length that no chat
is found: its text is kept as it is. -/
theorem error_keeps_excerpt_unless_overlong {s : Sender} {n : Notification} {status : Nat}
    {body : String} {e : SendError} (hstatus : status ≤ 999)
    (hmade : (s.send n (.reply status body)).request.isSome = true)
    (herror : (s.send n (.reply status body)).result = .error e) :
    (¬s.Overlong status body →
      e.Quotes status (s.told body) ∧ (e.lead status).length ≤ 27 ∧
        ∀ (worker : Worker) (item : QueueItem) (w : World),
          (worker.settle item (.error e)).Yields
            (fun w' _ => w.store.ErrorsWithin errorLimit → w'.store.ErrorsWithin errorLimit) w) ∧
      (s.Overlong status body →
        e.message = "target not found: " ++ s.told body ∧
          ∀ (worker : Worker) (item : QueueItem) (w : World),
            (worker.settle item (.error e)).Yields
              (fun w' _ => w.Told (.markFailed item.id e.message) w') w) := by
  obtain rfl : s.classify status body = e := by
    rw [Sender.request_send] at hmade
    rw [Sender.result_send body hmade] at herror
    split at herror
    · cases herror
    · exact Except.error.inj herror
  refine ⟨fun h => ?_, fun h => ?_⟩
  · have hquotes := Sender.classify_quotes h
    exact ⟨hquotes, SendError.length_lead_le _ hstatus,
      Worker.settle_errorsWithin hquotes hstatus⟩
  · rw [Sender.classify_overlong h]
    refine ⟨rfl, fun worker item w => ?_⟩
    exact .bind (Worker.fail_tells item _ w) fun _ _ htold => .done htold

/-- A bot that is blocked. -/
theorem blocked_bot_is_quoted :
    let s := Sender.telegram "123:abc" "http://tg.example.com"
    let body := "Forbidden: bot was blocked by the user"
    (s.send ⟨"12345", "", "Hello"⟩ (.reply 403 body)).result = .error (.unauthorized body) ∧
      (SendError.unauthorized body).Quotes 403 (s.told body) := by
  intro s body
  have herror : (s.send ⟨"12345", "", "Hello"⟩ (.reply 403 body)).result =
      .error (.unauthorized body) := by decide +kernel
  have hkeeps := error_keeps_excerpt_unless_overlong (by decide) (by decide +kernel) herror
  exact ⟨herror, (hkeeps.1 fun h => absurd h.status (by decide)).1⟩

/-- What a service says of a chat that it does not find, with more behind it. -/
def missingChat (more : Nat) : List Char :=
  "Bad Request: chat not found".toList ++ List.replicate more 'x'

theorem length_missingChat (more : Nat) : (missingChat more).length = 27 + more := by
  have hwords : "Bad Request: chat not found".toList.length = 27 := by decide
  unfold missingChat
  rw [List.length_append, List.length_replicate, hwords]

/-- No document begins with a `B`, so the words are their own description. -/
theorem told_missingChat (token apiBase : String) (more : Nat) :
    (Sender.telegram token apiBase).told (String.ofList (missingChat more)) =
      String.ofList (missingChat more) := by
  have hvalue : ∀ fuel depth,
      TelegramApi.Complaint.reader (fuel + 1) depth (missingChat more) = none :=
    fun _ _ => rfl
  have hread : Json.whole? TelegramApi.Complaint.reader (String.ofList (missingChat more)) =
      none := by
    rw [Json.whole?, String.toList_ofList]
    simp only [hvalue]
  rw [Sender.told, TelegramApi.Complaint.ofBody, hread]
  rfl

/-- With enough added, the description of a missing chat is overlong. -/
theorem overlong_missingChat (token apiBase : String) {more : Nat} (h : bodyLimit ≤ more) :
    (Sender.telegram token apiBase).Overlong 400 (String.ofList (missingChat more)) := by
  have htold := told_missingChat token apiBase more
  refine ⟨rfl, rfl, ?_, ?_⟩
  · rw [htold, TelegramApi.saysChatNotFound, String.toList_ofList, String.toList_ofList]
    rfl
  · rw [htold, String.toList_ofList, length_missingChat]
    omega

/-- The error, and with it the last error of the item, has all of the 600 characters that follow. -/
theorem missing_chat_is_kept_whole :
    let s := Sender.telegram "123:abc" "http://tg.example.com"
    let body := String.ofList (missingChat 600)
    (s.send ⟨"12345", "", "Hello"⟩ (.reply 400 body)).request.isSome = true ∧
      (s.send ⟨"12345", "", "Hello"⟩ (.reply 400 body)).result = .error (.notFound body) ∧
      ¬(SendError.notFound body).Quotes 400 (s.told body) := by
  intro s body
  have hmade : (s.prepare ⟨"12345", "", "Hello"⟩).toOption.isSome = true := by decide +kernel
  have htold : s.told body = body := told_missingChat "123:abc" "http://tg.example.com" 600
  refine ⟨?_, ?_, fun h => ?_⟩
  · rw [Sender.request_send]
    exact hmade
  · rw [Sender.result_send body hmade, if_neg (by decide),
      Sender.classify_overlong (overlong_missingChat _ _ (by decide)), htold]
  · have hwords : "target not found: ".length = 18 := by decide
    have hbody : body.length = 27 + 600 := String.length_ofList.trans (length_missingChat 600)
    have hmessage : (SendError.notFound body).message.length = 18 + (27 + 600) := by
      show (_ ++ _ : String).length = _
      rw [String.length_append, hwords, hbody]
    have hle := h.length_le (by decide)
    rw [hmessage] at hle
    exact absurd hle (by decide)

end Courier
