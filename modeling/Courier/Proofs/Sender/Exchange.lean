import Mathlib.Data.List.DropRight
import Courier.Sender

/-!
# Proofs — Sender — Exchange

What comes of a notification that a sender gets (`send_tells_answer`).  A recipient of the wrong
form is refused without a request.  For any other the answer of the other side decides: its status
alone says whether all went well, and whether to try again.

* `MailApi.isAddress_iff`: which recipients an email can be sent to.
* `Sender.isRetryable_classify`: the senders agree on the statuses after which to try again,
  whatever stands in the body.
* `Sender.prepares`: the form of the recipient alone decides whether a notification is refused.
* `Exchange.concluded_made`: what comes of a request under each behaviour of the other side.
-/

namespace Courier

/-! ### Recipients -/

/-- Nothing is left to trim of a trimmed text. -/
theorem Text.trimmed_trimmed (s : List Char) : trimmed (trimmed s) = trimmed s := by
  have htrimmed : ∀ t, trimmed t = List.rdropWhile isBlank (dropBlanks t) := fun _ => rfl
  -- what is dropped behind leaves the first character
  have hstart : dropBlanks (trimmed s) = trimmed s := by
    rw [dropBlanks, List.dropWhile_eq_self_iff]
    intro hpos
    have hbegins : trimmed s <+: dropBlanks s := List.rdropWhile_prefix isBlank _
    rw [hbegins.getElem hpos]
    exact List.dropWhile_get_zero_not isBlank s (Nat.lt_of_lt_of_le hpos hbegins.length_le)
  rw [htrimmed (trimmed s), hstart, htrimmed, List.rdropWhile_idempotent]

namespace MailApi

/-- A name and a domain around an `@`: one `@` and no blanks, something in front of it, and behind
it a point, and none at the ends. -/
structure Address (s user domain : List Char) : Prop where
  split : s = user ++ '@' :: domain
  unblank : ∀ c ∈ s, ¬Text.isBlank c = true
  user_ne_nil : user ≠ []
  not_mem_user : '@' ∉ user
  not_mem_domain : '@' ∉ domain
  point : '.' ∈ domain
  head : domain.head? ≠ some '.'
  last : domain.getLast? ≠ some '.'

/-- A domain has no at sign and a point, which neither begins nor ends it. -/
theorem isDomain_iff {s : List Char} :
    isDomain s = true ↔ '@' ∉ s ∧ '.' ∈ s ∧ s.head? ≠ some '.' ∧ s.getLast? ≠ some '.' := by
  simp [isDomain, and_assoc]

/-- What stands before the first `@`, and what behind. -/
theorem takeWhile_split {user : List Char} (h : '@' ∉ user) (domain : List Char) :
    (user ++ '@' :: domain).takeWhile (· ≠ '@') = user ∧
      (user ++ '@' :: domain).drop (user.length + 1) = domain := by
  constructor
  · have hall : ∀ c ∈ user, decide (c ≠ '@') = true := fun c hc =>
      decide_eq_true fun he => h (he ▸ hc)
    rw [List.takeWhile_append_of_pos hall]
    simp
  · rw [List.drop_append, List.drop_of_length_le (Nat.le_succ _)]
    simp

/-- The check accepts exactly what is an address, blanks around it apart. -/
theorem isAddress_iff (text : String) :
    isAddress text = true ↔ ∃ user domain, Address (Text.trimmed text.toList) user domain := by
  rw [isAddress]
  generalize Text.trimmed text.toList = s
  constructor
  · intro h
    simp only [Bool.and_eq_true, Bool.not_eq_true', List.any_eq_false] at h
    obtain ⟨⟨⟨hblank, hat⟩, huser⟩, hdomain⟩ := h
    obtain ⟨user, domain, rfl, hnot⟩ := List.eq_append_cons_of_mem (List.contains_iff_mem.mp hat)
    obtain ⟨htake, hdrop⟩ := takeWhile_split hnot domain
    rw [htake] at huser hdomain
    rw [hdrop] at hdomain
    obtain ⟨hone, hpoint, hhead, hlast⟩ := isDomain_iff.mp hdomain
    exact ⟨user, domain, rfl, hblank, by simpa using huser, hnot, hone, hpoint, hhead, hlast⟩
  · rintro ⟨user, domain, rfl, hblank, huser, hnot, hone, hpoint, hhead, hlast⟩
    obtain ⟨htake, hdrop⟩ := takeWhile_split hnot domain
    have hdomain := isDomain_iff.mpr ⟨hone, hpoint, hhead, hlast⟩
    have hat : (user ++ '@' :: domain).contains '@' = true := by simp
    have hany : (user ++ '@' :: domain).any Text.isBlank = false := List.any_eq_false.mpr hblank
    rw [htake, hdrop, hdomain, hat, hany]
    simpa using huser

end MailApi

namespace Sender

/-- The trimmed recipients that a sender takes: a URL of the web, a chat, or an address. -/
def Accepts : Sender → String → Prop
  | webhook, recipient =>
    ∃ url, Url.parse recipient = .ok url ∧
      (url.scheme = "http".toList ∨ url.scheme = "https".toList)
  | telegram _ _, recipient => recipient ≠ ""
  | email _ _ _, recipient => ∃ user domain, MailApi.Address recipient.toList user domain

end Sender

/-! ### Answers -/

/-- The statuses after which there is no point in trying again. -/
def Final (status : Nat) : Prop := 400 ≤ status ∧ status ≤ 499 ∧ status ≠ 408 ∧ status ≠ 429

/-- An error by status may be tried again unless the status is final. -/
theorem isRetryable_classifyStatus (status : Nat) (body : String) :
    (classifyStatus status body).isRetryable = true ↔ ¬Final status := by
  unfold classifyStatus Final
  split_ifs <;> simp [SendError.isRetryable] <;> omega

/-- That no chat is found is said with a status that is final anyway. -/
theorem TelegramApi.isRetryable_classify (status : Nat) (body : String) :
    (classify status body).isRetryable = true ↔ ¬Final status := by
  simp only [classify]
  split
  · next hlimit => simp [SendError.isRetryable, Final, hlimit]
  split
  · next hmissing => simp [SendError.isRetryable, Final, hmissing.1]
  · exact isRetryable_classifyStatus status _

namespace Sender

/-- So may the error of any sender. -/
theorem isRetryable_classify (s : Sender) (status : Nat) (body : String) :
    (s.classify status body).isRetryable = true ↔ ¬Final status := by
  cases s with
  | telegram token apiBase => exact TelegramApi.isRetryable_classify status body
  | webhook => exact isRetryable_classifyStatus status body
  | email apiKey sender endpoint => exact isRetryable_classifyStatus status body

/-- No answer is about the form of the recipient. -/
theorem classify_ne_invalidRecipient (s : Sender) (status : Nat) (body reason : String) :
    s.classify status body ≠ .invalidRecipient reason := by
  have hstatus : ∀ body, classifyStatus status body ≠ .invalidRecipient reason := by
    intro body
    unfold classifyStatus
    split_ifs <;> simp
  cases s with
  | telegram token apiBase =>
      simp only [classify, TelegramApi.classify]
      split
      · simp
      split
      · simp
      · exact hstatus _
  | webhook => exact hstatus body
  | email apiKey sender endpoint => exact hstatus body

end Sender

/-! ### Requests -/

namespace OutboundRequest

/-- Whether a URL is one of the web that can stand in a request line. -/
def Postable (url : Url) : Prop :=
  url.isHttp = true ∧ (Http.Target.parse? url.withoutCredentials.text).isSome = true

/-- Whether a service can be reached at an endpoint, with an authorization that may stand in a
header. -/
def ServesAt (endpoint : String) (authorization : Option String) : Prop :=
  ∃ url, Url.parse endpoint = .ok url ∧ hasHost url = true ∧
    authorization.all isHeaderText = true ∧ Postable url

/-- What is left for a recipient of the right form: a request where one can be made, and the fault
of a network where none can. -/
def Tried (postable : Prop) (prepared : Except SendError OutboundRequest) : Prop :=
  (postable ∧ ∃ request, prepared = .ok request) ∨
    (¬postable ∧ ∃ reason, prepared = .error (.network reason))

/-- To a URL that was read, a request is made exactly if one can be. -/
theorem tried_post (url : Url) (authorization : Option String) (body : String) :
    Tried (Postable url) (post url authorization body) := by
  simp only [post]
  split
  · next h => exact .inl ⟨h, _, rfl⟩
  · next h => exact .inr ⟨h, _, rfl⟩

theorem tried_postTo (endpoint : String) (authorization : Option String) (body : String) :
    Tried (ServesAt endpoint authorization) (postTo endpoint authorization body) := by
  rw [postTo]
  cases hurl : Url.parse endpoint with
  | error fault =>
      refine .inr ⟨?_, _, rfl⟩
      rintro ⟨url, hparse, -⟩
      simp [hurl] at hparse
  | ok url =>
      have hserves : ServesAt endpoint authorization ↔
          hasHost url = true ∧ authorization.all isHeaderText = true ∧ Postable url := by
        simp [ServesAt, hurl]
      rw [hserves]
      simp only
      split
      · next h => exact .inr ⟨fun hs => h hs.1, _, rfl⟩
      split
      · next h => exact .inr ⟨fun hs => h hs.2.1, _, rfl⟩
      · next hhost htext =>
        simpa only [not_not.mp hhost, not_not.mp htext, true_and] using
          tried_post url authorization body

end OutboundRequest

namespace Sender
open OutboundRequest

/-- Whether a request can be made to where a sender posts. -/
def Posts : Sender → String → Prop
  | webhook, recipient => ∃ url, Url.parse recipient = .ok url ∧ Postable url
  | telegram token apiBase, _ => ServesAt (TelegramApi.endpoint token apiBase) none
  | email apiKey _ endpoint, _ => ServesAt endpoint (some ("Bearer " ++ apiKey))

/-- The form of the recipient decides whether a notification is refused or tried. -/
structure Prepares (s : Sender) (n : Notification) : Prop where
  refused : ¬s.Accepts (Text.trim n.recipient) →
    ∃ reason, s.prepare n = .error (.invalidRecipient reason)
  tried : s.Accepts (Text.trim n.recipient) →
    Tried (s.Posts (Text.trim n.recipient)) (s.prepare n)

theorem prepares_webhook (n : Notification) : webhook.Prepares n := by
  constructor
  · intro h
    rw [prepare, webhookTarget]
    split
    · exact ⟨_, rfl⟩
    · next url hurl =>
      have hhttp : ¬url.isHttp = true := fun hhttp =>
        h ⟨url, hurl, by simpa [Url.isHttp] using hhttp⟩
      rw [if_neg hhttp]
      exact ⟨_, rfl⟩
  · rintro ⟨url, hurl, hscheme⟩
    have hhttp : url.isHttp = true := by simpa [Url.isHttp] using hscheme
    have htarget : webhookTarget n.recipient = .ok url := by
      rw [webhookTarget, hurl]
      exact if_pos hhttp
    have hposts : webhook.Posts (Text.trim n.recipient) ↔ Postable url := by simp [Posts, hurl]
    rw [hposts, prepare, htarget]
    exact tried_post url none n.body

theorem prepares_telegram (token apiBase : String) (n : Notification) :
    (telegram token apiBase).Prepares n := by
  constructor
  · intro h
    rw [prepare, TelegramApi.prepare, if_pos (not_not.mp h)]
    exact ⟨_, rfl⟩
  · intro h
    rw [prepare, TelegramApi.prepare, if_neg h]
    exact tried_postTo _ _ _

theorem prepares_email (apiKey sender endpoint : String) (n : Notification) :
    (email apiKey sender endpoint).Prepares n := by
  have haddress : MailApi.isAddress (Text.trim n.recipient) = true ↔
      (email apiKey sender endpoint).Accepts (Text.trim n.recipient) := by
    rw [MailApi.isAddress_iff, Accepts, Text.trim, String.toList_ofList, Text.trimmed_trimmed]
  constructor
  · intro h
    rw [prepare, MailApi.prepare, if_neg (mt haddress.mp h)]
    exact ⟨_, rfl⟩
  · intro h
    rw [prepare, MailApi.prepare, if_pos (haddress.mpr h)]
    exact tried_postTo _ _ _

/-- Every sender checks the recipient first and then tries. -/
theorem prepares (s : Sender) (n : Notification) : s.Prepares n := by
  cases s with
  | webhook => exact prepares_webhook n
  | telegram token apiBase => exact prepares_telegram token apiBase n
  | email apiKey sender endpoint => exact prepares_email apiKey sender endpoint n

end Sender

namespace Exchange

/-- The status of the answer that an exchange got: none without a request, and none from a side that
ends the connection, keeps silent or is out of reach. -/
def answer? (x : Exchange) : Remote → Option Nat
  | .reply status _ => x.request.map fun _ => status
  | _ => none

/-- The end of an exchange over a recipient of the right form: the status of the answer alone says
whether all went well and whether to try again, and to try again is right without an answer. -/
structure Concluded (x : Exchange) (remote : Remote) : Prop where
  ok_iff : x.result = .ok () ↔
    ∃ status, x.answer? remote = some status ∧ 200 ≤ status ∧ status ≤ 299
  unanswered : x.answer? remote = none → ∃ e, x.result = .error e ∧ e.isRetryable = true
  answered : ∀ status e, x.answer? remote = some status → x.result = .error e →
    (e.isRetryable = true ↔ ¬Final status)
  not_refused : ∀ reason, x.result ≠ .error (.invalidRecipient reason)

/-- A request that cannot be made is a fault of the network. -/
theorem concluded_unmade (reason : String) (remote : Remote) :
    Concluded ⟨none, .error (.network reason)⟩ remote := by
  have hanswer : answer? ⟨none, .error (.network reason)⟩ remote = none := by cases remote <;> rfl
  exact
    { ok_iff := by simp [hanswer]
      unanswered := fun _ => ⟨_, rfl, rfl⟩
      answered := by simp [hanswer]
      not_refused := by simp }

/-- A request that is made ends as the other side answers it. -/
theorem concluded_made (s : Sender) (request : OutboundRequest) (remote : Remote) :
    Concluded ⟨some request, request.conclude s.classify remote⟩ remote := by
  cases remote with
  | reply status body =>
      simp only [OutboundRequest.conclude]
      by_cases hsuccess : isSuccess status = true
      · have hrange : 200 ≤ status ∧ status ≤ 299 := by simpa [isSuccess] using hsuccess
        rw [if_pos hsuccess]
        exact
          { ok_iff := by simp [answer?, hrange]
            unanswered := by simp [answer?]
            answered := by simp
            not_refused := by simp }
      · have hrange : ¬(200 ≤ status ∧ status ≤ 299) := by simpa [isSuccess] using hsuccess
        rw [if_neg hsuccess]
        exact
          { ok_iff := by simp [answer?, hrange]
            unanswered := by simp [answer?]
            answered := by
              rintro _ _ hstatus ⟨⟩
              cases hstatus
              exact s.isRetryable_classify status body
            not_refused := fun reason h =>
              s.classify_ne_invalidRecipient status body reason (Except.error.inj h) }
  | closed | silent | unreachable =>
      exact
        { ok_iff := by simp [OutboundRequest.conclude, answer?]
          unanswered := fun _ => ⟨_, rfl, rfl⟩
          answered := by simp [answer?]
          not_refused := by simp [OutboundRequest.conclude] }

end Exchange

/-! ### Sending -/

namespace Sender

/-- What becomes of a notification: no request without a recipient of the right form, and one
exactly where a request can be made. -/
structure Sends (s : Sender) (n : Notification) (remote : Remote) (x : Exchange) : Prop where
  once : (x.request.toList.flatMap remote.sees).length ≤ 1
  refused_iff : (x.request = none ∧ ∃ reason, x.result = .error (.invalidRecipient reason)) ↔
    ¬s.Accepts (Text.trim n.recipient)
  made_iff : x.request.isSome = true ↔
    s.Accepts (Text.trim n.recipient) ∧ s.Posts (Text.trim n.recipient)
  concluded : s.Accepts (Text.trim n.recipient) → x.Concluded remote

/-- A recipient of the wrong form is refused without a request. -/
theorem sends_refused {s : Sender} {n : Notification} (h : ¬s.Accepts (Text.trim n.recipient))
    (reason : String) (remote : Remote) :
    s.Sends n remote ⟨none, .error (.invalidRecipient reason)⟩ :=
  { once := by simp
    refused_iff := by simp [h]
    made_iff := by simp [h]
    concluded := fun ha => absurd ha h }

/-- Where no request can be made, the send ends with a fault of the network. -/
theorem sends_unmade {s : Sender} {n : Notification} (h : s.Accepts (Text.trim n.recipient))
    (hposts : ¬s.Posts (Text.trim n.recipient)) (reason : String) (remote : Remote) :
    s.Sends n remote ⟨none, .error (.network reason)⟩ :=
  { once := by simp
    refused_iff := by simp [h]
    made_iff := by simp [hposts]
    concluded := fun _ => Exchange.concluded_unmade reason remote }

/-- Where one is made, the send ends as the other side answers. -/
theorem sends_made {s : Sender} {n : Notification} (h : s.Accepts (Text.trim n.recipient))
    (hposts : s.Posts (Text.trim n.recipient)) (request : OutboundRequest) (remote : Remote) :
    s.Sends n remote ⟨some request, request.conclude s.classify remote⟩ :=
  { once := by cases remote <;> simp [Remote.sees]
    refused_iff := by simp [h]
    made_iff := by simp [h, hposts]
    concluded := fun _ => Exchange.concluded_made s request remote }

end Sender

/-- The other side gets to see at most one request of a notification, and none where the recipient
has the wrong form, which alone is a fault of the recipient.  For any other the status of the answer
decides, whatever text or document the body holds. -/
theorem send_tells_answer (s : Sender) (n : Notification) (remote : Remote) :
    s.Sends n remote (s.send n remote) := by
  by_cases h : s.Accepts (Text.trim n.recipient)
  · rcases (s.prepares n).tried h with ⟨hposts, request, hrequest⟩ | ⟨hposts, reason, hreason⟩
    · rw [Sender.send, hrequest]
      exact Sender.sends_made h hposts request remote
    · rw [Sender.send, hreason]
      exact Sender.sends_unmade h hposts reason remote
  · obtain ⟨reason, hreason⟩ := (s.prepares n).refused h
    rw [Sender.send, hreason]
    exact Sender.sends_refused h reason remote

end Courier
