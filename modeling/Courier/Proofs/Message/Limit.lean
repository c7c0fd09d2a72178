import Courier.Proofs.Message.Fit
import Courier.Proofs.Message.Renderer
import Courier.Proofs.World

/-!
# Proofs — Message — Limit

When a Telegram message keeps to the limit of its length.  Whatever else the payload holds is left
out where it does not fit; but the link to the event always stays, so that its address alone decides
(`telegram_body_within_limit_iff`).
-/

namespace Courier

open Html

namespace Telegram

/-- The longest address, as it is written, that leaves room for the mark and its own link. -/
def addressRoom : Nat := 4047

theorem escapeChar_ne_nil (c : Char) : escapeChar c ≠ [] := by
  rw [escapeChar]
  repeat' split
  all_goals simp

/-- Escaping makes no text shorter. -/
theorem length_le_length_escape (s : List Char) : s.length ≤ (escape s).length := by
  induction s with
  | nil => exact Nat.le_refl 0
  | cons c rest ih =>
      have hc := List.length_pos_iff.mpr (escapeChar_ne_nil c)
      show rest.length + 1 ≤ (escapeChar c ++ escape rest).length
      rw [List.length_append]
      omega

/-- Bold text is longer by its two tags. -/
theorem length_bold (s : List Char) : (bold s).length = (escape s).length + 7 := by
  have htags : "<b>".toList.length + "</b>".toList.length = 7 := by decide
  have hlength : ∀ a t b : List Char, (a ++ t ++ b).length = t.length + (a.length + b.length) := by
    intro a t b
    simp only [List.length_append]
    omega
  exact (hlength _ _ _).trans (congrArg ((escape s).length + ·) htags)

/-- A link is longer than its two texts by its tags. -/
theorem length_link (url label : List Char) :
    (link url label).length = (escape url).length + (escape label).length + 15 := by
  have htags : "<a href=\x22".toList.length + "\x22>".toList.length + "</a>".toList.length =
      15 := by
    decide
  have hlength : ∀ a t b u c : List Char, (a ++ t ++ b ++ u ++ c).length =
      t.length + u.length + (a.length + b.length + c.length) := by
    intro a t b u c
    simp only [List.length_append]
    omega
  exact (hlength _ _ _ _ _).trans
    (congrArg ((escape url).length + (escape label).length + ·) htags)

/-- The footer is a link to the address of the event, if it has one. -/
theorem length_tailText_footer (p : Payload) :
    (tailText (footer p)).length =
      p.eventUrl.elim 0 fun url => (escape url.toList).length + 36 := by
  rw [footer]
  cases p.eventUrl with
  | none => rfl
  | some url =>
      have hlabel : (escape "View on status page".toList).length = 19 := by decide
      rw [Option.elim_some, tailText, List.flatMap_cons, List.flatMap_cons, List.flatMap_nil,
        List.append_nil, List.length_append, List.length_cons, List.length_cons, length_link,
        hlabel, List.length_nil]
      omega

/-- There is room for the mark and the link, unless the address is too long. -/
theorem footer_fits_iff (p : Payload) :
    (tailText (footer p)).length + truncationMark.length ≤ messageLimit ↔
      ∀ url, p.eventUrl = some url → (escape url.toList).length ≤ addressRoom := by
  have hmark : truncationMark.length = 13 := by decide
  rw [length_tailText_footer, hmark, messageLimit, addressRoom]
  cases p.eventUrl with
  | none => simp
  | some url =>
      simp only [Option.elim_some, Option.some.injEq, forall_eq']
      omega

/-- A message starts with the title after a word for what happened. -/
theorem exists_heading (p : Payload) :
    ∃ icon headline rest, lines p = heading icon headline p.event.title :: rest ∧
      3 ≤ headline.length := by
  rw [lines]
  cases p.kind with
  | initial => cases p.event.eventType <;> exact ⟨_, _, _, rfl, by decide⟩
  | update => exact ⟨_, _, _, rfl, by decide⟩
  | resolved => exact ⟨_, _, _, rfl, by decide⟩
  | completed => exact ⟨_, _, _, rfl, by decide⟩
  | cancelled => exact ⟨_, _, _, rfl, by decide⟩

/-- The lines take more room than the mark. -/
theorem length_mark_le_lines (p : Payload) :
    truncationMark.length ≤ (joinLines (lines p)).length := by
  have hmark : truncationMark.length = 13 := by decide
  have hcolon : (": " : String).length = 2 := by decide
  obtain ⟨icon, headline, rest, hlines, hheadline⟩ := exists_heading p
  have htitle := length_le_length_escape (headline ++ ": " ++ p.event.title).toList
  rw [String.length_toList, String.length_append, String.length_append, hcolon] at htitle
  rw [hlines, joinLines_cons, heading, marked, hmark, List.length_append, List.length_append,
    List.length_cons, length_bold]
  omega

/-- **Whether a body keeps to the limit depends on the address of its link alone.** -/
theorem length_body_le_iff (p : Payload) :
    (body p).length ≤ messageLimit ↔
      ∀ url, p.eventUrl = some url → (escape url.toList).length ≤ addressRoom := by
  rw [← footer_fits_iff, body, length_joinWithin_le_iff]
  refine ⟨fun h => h.elim (fun hfull => ?_) id, .inr⟩
  -- where all lines fit, there would have been room for the mark in their place
  have hlines := length_mark_le_lines p
  rw [List.length_append] at hfull
  omega

end Telegram

/-- **A Telegram message keeps to the limit exactly if its link does.**  An address of no more than
4047 characters, as it is written with its entities, leaves enough room; with a longer one nothing
stays but the mark and the link, which are too long. -/
theorem telegram_body_within_limit_iff (p : Payload) :
    ∃ m, Renderer.standard.render .telegram p = .ok m ∧
      (m.body.length ≤ Telegram.messageLimit ↔
        ∀ url, p.eventUrl = some url → (escape url.toList).length ≤ Telegram.addressRoom) ∧
      (Telegram.messageLimit < m.body.length →
        m.body.toList = truncationMark ++ tailText (Telegram.footer p)) := by
  refine ⟨_, Renderer.render_standard .telegram p, ?_, ?_⟩
  · simp only [Renderer.body, String.length_ofList]
    exact Telegram.length_body_le_iff p
  · simp only [Renderer.body, String.length_ofList, String.toList_ofList]
    intro hlong
    have hover := mt length_joinWithin_le_iff.mpr (Nat.not_le.mpr hlong)
    rw [not_or] at hover
    exact joinWithin_of_no_room (Nat.lt_of_not_le hover.2) (Nat.lt_of_not_le hover.1)

namespace Sample

/-- A message with a link to an address of 4048 characters. -/
def farPayload : Payload :=
  { payload with eventUrl := some (String.ofList (List.replicate 4048 'a')) }

end Sample

/-- With an address of 4048 characters a message is too long. -/
theorem long_address_exceeds_limit :
    ∃ m, Renderer.standard.render .telegram Sample.farPayload = .ok m ∧
      Telegram.messageLimit < m.body.length := by
  refine ⟨_, Renderer.render_standard .telegram Sample.farPayload, ?_⟩
  simp only [Renderer.body, String.length_ofList]
  refine Nat.lt_of_not_le fun h => ?_
  have hroom := (Telegram.length_body_le_iff Sample.farPayload).mp h _ rfl
  have hlong := Telegram.length_le_length_escape (List.replicate 4048 'a')
  rw [List.length_replicate] at hlong
  rw [String.toList_ofList, Telegram.addressRoom] at hroom
  omega

end Courier
