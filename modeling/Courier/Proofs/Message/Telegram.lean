import Mathlib.Data.List.Basic
import Courier.Proofs.Message.Markup
import Courier.Proofs.Message.Renderer

/-!
# Proofs — Message — Telegram

The bodies of Telegram messages are well formed (`telegram_body_is_markup`).  Icons, labels, times
and durations are plain characters, what comes from the payload is escaped, and each line is well
formed on its own.
-/

namespace Courier

open Html

/-! ### Numbers and times -/

theorem isPlain_digit {n : Nat} (h : n < 10) : IsPlain (Char.ofNat (48 + n)) := by
  revert n
  decide

/-- The digits of a number are plain. -/
theorem plain_natDigits (n : Nat) : Plain (Text.natDigits n) := by
  induction n using Text.natDigits.induct with
  | case1 n h =>
      rw [Text.natDigits, if_pos h]
      exact List.forall_mem_singleton.mpr (isPlain_digit h)
  | case2 n h ih =>
      rw [Text.natDigits, if_neg h]
      refine List.forall_mem_append.mpr ⟨ih, List.forall_mem_singleton.mpr (isPlain_digit ?_)⟩
      omega

theorem plain_fixedDigits (width n : Nat) : Plain (Text.fixedDigits width n) := by
  induction width generalizing n with
  | zero => exact List.forall_mem_nil _
  | succ width ih =>
      refine List.forall_mem_append.mpr ⟨ih _, List.forall_mem_singleton.mpr (isPlain_digit ?_)⟩
      omega

theorem plain_yearText (year : Int) : Plain (Time.yearText year) := by
  have hpadded : Plain (List.replicate (4 - (Text.natDigits year.natAbs).length) '0' ++
      Text.natDigits year.natAbs) := by
    refine List.forall_mem_append.mpr ⟨fun c hc => ?_, plain_natDigits _⟩
    rw [List.eq_of_mem_replicate hc]
    decide
  simp only [Time.yearText]
  split
  · exact List.forall_mem_cons.mpr ⟨by decide, hpadded⟩
  · split
    · exact List.forall_mem_cons.mpr ⟨by decide, hpadded⟩
    · exact hpadded

theorem plain_dateText (d : Time.Date) : Plain d.text := by
  have hhyphen : IsPlain '-' := by decide
  simp only [Time.Date.text, Plain, List.forall_mem_append, List.forall_mem_cons]
  exact ⟨⟨plain_yearText _, hhyphen, plain_fixedDigits _ _⟩, hhyphen, plain_fixedDigits _ _⟩

/-- An instant is shown in plain text. -/
theorem plain_instantLabel (t : Instant) : Plain t.label.toList := by
  simp only [Instant.label, Time.clockText, String.toList_append, String.toList_ofList, Plain,
    List.forall_mem_append, List.forall_mem_cons]
  exact ⟨⟨plain_dateText _, by decide, plain_fixedDigits _ _, by decide, plain_fixedDigits _ _⟩,
    by decide⟩

theorem plain_partsText {parts : List (Nat × Char)} (h : ∀ part ∈ parts, IsPlain part.2) :
    Plain (partsText parts) := by
  induction parts with
  | nil => exact List.forall_mem_nil _
  | cons part rest ih =>
      obtain ⟨hpart, hrest⟩ := List.forall_mem_cons.mp h
      cases rest with
      | nil =>
          exact List.forall_mem_append.mpr
            ⟨plain_natDigits _, List.forall_mem_singleton.mpr hpart⟩
      | cons next rest =>
          refine List.forall_mem_append.mpr ⟨plain_natDigits _, ?_⟩
          exact List.forall_mem_cons.mpr ⟨hpart, List.forall_mem_cons.mpr ⟨by decide, ih hrest⟩⟩

/-- A duration is shown in plain text. -/
theorem plain_formatDuration (seconds : Int) : Plain (formatDuration seconds).toList := by
  have hunit : Plain ['d', 'h', 'm', 's'] := by decide
  have hparts : ∀ part ∈ durationParts seconds.toNat, IsPlain part.2 := by
    intro part hpart
    have hmem := List.mem_of_mem_filter hpart
    simp only [List.mem_cons, List.not_mem_nil, or_false] at hmem
    rcases hmem with rfl | rfl | rfl <;> exact hunit _ (by simp)
  simp only [formatDuration, String.toList_ofList]
  split
  · exact plain_partsText (List.forall_mem_singleton.mpr (hunit _ (by simp)))
  · exact plain_partsText hparts

/-! ### Icons and labels -/

theorem EventType.plain_icon (t : EventType) : Plain t.icon.toList := by cases t <;> decide

theorem EventStatus.plain_icon (s : EventStatus) : Plain s.icon.toList := by cases s <;> decide

theorem EventStatus.plain_label (s : EventStatus) : Plain s.label.toList := by cases s <;> decide

theorem Severity.plain_icon (s : Option Severity) : Plain (Severity.icon s).toList := by
  cases s with
  | none => decide
  | some s => cases s <;> decide

theorem ServiceStatus.plain_icon (s : ServiceStatus) : Plain s.icon.toList := by
  cases s <;> decide

theorem ServiceStatus.plain_label (s : ServiceStatus) : Plain s.label.toList := by
  cases s <;> decide

namespace Telegram

/-! ### Lines -/

/-- A line of markup is markup behind its icon. -/
theorem markup_marked {icon : String} (hicon : Plain icon.toList) {line : List Char}
    (h : Markup line) : Markup (marked icon line) :=
  (markup_of_plain hicon).append (.plain (by decide) h)

theorem plain_arrow {source target : String} (hs : Plain source.toList) (ht : Plain target.toList) :
    Plain (arrow source target) := by
  simp only [arrow, Plain, List.forall_mem_append, List.forall_mem_cons]
  exact ⟨hs, by decide, by decide, by decide, ht⟩

/-- A word in front of a line. -/
theorem markup_after {word : String} (hword : Plain word.toList) {line : List Char}
    (h : Markup line) : Markup (word.toList ++ line) :=
  (markup_of_plain hword).append h

/-- The lines about the status are markup. -/
theorem markup_statusLines (e : EventSnapshot) : ∀ line ∈ statusLines e, Markup line := by
  have hstatus : Markup (marked e.status.icon ("Status: ".toList ++ bold e.status.label.toList)) :=
    markup_marked e.status.plain_icon (markup_after (by decide) (markup_bold _))
  rw [statusLines]
  refine List.forall_mem_cons.mpr ⟨hstatus, ?_⟩
  cases e.eventType with
  | incident =>
      exact List.forall_mem_singleton.mpr (markup_marked (Severity.plain_icon _)
        (markup_after (by decide) (markup_bold _)))
  | maintenance =>
      cases e.scheduledStartAt with
      | none => exact List.forall_mem_nil _
      | some start =>
          cases e.scheduledEndAt with
          | none => exact List.forall_mem_nil _
          | some finish =>
              refine List.forall_mem_singleton.mpr (markup_marked (by decide) ?_)
              refine markup_of_plain ?_
              simp only [Plain, List.forall_mem_append]
              exact ⟨⟨⟨by decide, plain_instantLabel start⟩, by decide⟩, plain_instantLabel finish⟩

/-- The lines about services are markup. -/
theorem markup_serviceLines (e : EventSnapshot) : ∀ line ∈ serviceLines e, Markup line := by
  rw [serviceLines]
  split
  · exact List.forall_mem_nil _
  · refine List.forall_mem_cons.mpr ⟨.nil, List.forall_mem_cons.mpr ⟨markup_bold _, ?_⟩⟩
    refine List.forall_mem_map.mpr fun s _ => markup_marked s.status.plain_icon ?_
    exact ((markup_escape _).append (markup_of_plain (by decide))).append
      (markup_of_plain s.status.plain_label)

/-- Names of markup are markup as a list. -/
theorem markup_names {list : List (List Char)} (h : ∀ name ∈ list, Markup name) :
    Markup (names list) := by
  induction list with
  | nil => exact .nil
  | cons name rest ih =>
      obtain ⟨hname, hrest⟩ := List.forall_mem_cons.mp h
      cases rest with
      | nil => exact hname
      | cons next rest =>
          exact (hname.append (markup_of_plain (by decide))).append (ih hrest)

theorem markup_groupLines (e : EventSnapshot) : ∀ line ∈ groupLines e, Markup line := by
  rw [groupLines]
  split
  · exact List.forall_mem_nil _
  · refine List.forall_mem_singleton.mpr (markup_after (by decide) (markup_names ?_))
    exact List.forall_mem_map.mpr fun g _ => markup_escape _

theorem markup_services (e : EventSnapshot) : ∀ line ∈ services e, Markup line :=
  List.forall_mem_append.mpr ⟨markup_serviceLines e, markup_groupLines e⟩

/-- The footer is markup. -/
theorem markup_footer (p : Payload) : ∀ line ∈ footer p, Markup line := by
  rw [footer]
  cases p.eventUrl with
  | none => exact List.forall_mem_nil _
  | some url =>
      exact List.forall_mem_cons.mpr ⟨.nil, List.forall_mem_singleton.mpr (markup_link _ _)⟩

theorem markup_changeLines (c : PayloadChanges) : ∀ line ∈ changeLines c, Markup line := by
  simp only [changeLines, List.forall_mem_append, List.forall_mem_map, Option.mem_toList,
    Option.map_eq_some_iff, forall_exists_index, and_imp]
  refine ⟨⟨⟨⟨?_, fun s _ => ?_⟩, fun s _ => ?_⟩, fun s _ => ?_⟩, ?_⟩
  · rintro _ s - rfl
    exact markup_marked s.target.plain_icon (markup_after (by decide)
      (markup_of_plain (plain_arrow s.source.plain_label s.target.plain_label)))
  · exact markup_marked (by decide) ((((markup_escape _).append (markup_of_plain (by decide))).append
      (markup_of_plain s.status.plain_label)).append (markup_of_plain (by decide)))
  · exact markup_marked (by decide) (markup_escape _)
  · exact markup_marked s.target.plain_icon (((markup_escape _).append
      (markup_of_plain (by decide))).append
      (markup_of_plain (plain_arrow s.source.plain_label s.target.plain_label)))
  · rintro _ r - rfl
    exact markup_after (by decide) (markup_escape _)

/-- The paragraph about changes is markup. -/
theorem markup_changes (c : Option PayloadChanges) : ∀ line ∈ changes c, Markup line := by
  cases c with
  | none => exact List.forall_mem_nil _
  | some c =>
      rw [changes]
      split
      · exact List.forall_mem_nil _
      · exact List.forall_mem_cons.mpr ⟨.nil, List.forall_mem_cons.mpr
          ⟨markup_bold _, markup_changeLines c⟩⟩

/-- The paragraph about the resolution is markup. -/
theorem markup_resolution (r : Option ResolutionInfo) : ∀ line ∈ resolution r, Markup line := by
  cases r with
  | none => exact List.forall_mem_nil _
  | some r =>
      rw [resolution]
      refine List.forall_mem_append.mpr ⟨List.forall_mem_append.mpr ⟨?_, ?_⟩, ?_⟩
      · exact List.forall_mem_singleton.mpr
          (markup_after (by decide) (markup_of_plain (plain_instantLabel _)))
      · split
        · exact List.forall_mem_singleton.mpr
            (markup_after (by decide) (markup_of_plain (plain_formatDuration _)))
        · exact List.forall_mem_nil _
      · cases r.message with
        | none => exact List.forall_mem_nil _
        | some m => exact List.forall_mem_cons.mpr ⟨.nil, List.forall_mem_singleton.mpr
            (markup_escape _)⟩

/-- The title in bold, an empty line, and more lines. -/
theorem markup_headed {icon : String} (hicon : Plain icon.toList) (headline title : String)
    {rest : List (List Char)} (h : ∀ line ∈ rest, Markup line) :
    ∀ line ∈ [heading icon headline title, []] ++ rest, Markup line :=
  List.forall_mem_cons.mpr ⟨markup_marked hicon (markup_bold _),
    List.forall_mem_cons.mpr ⟨.nil, h⟩⟩

/-- An empty line and an escaped text. -/
theorem markup_spaced (text : String) : ∀ line ∈ [[], escape text.toList], Markup line :=
  List.forall_mem_cons.mpr ⟨.nil, List.forall_mem_singleton.mpr (markup_escape _)⟩

/-- A closing message has lines of markup. -/
theorem markup_closing (p : Payload) (headline : String) :
    ∀ line ∈ lines.closing p headline, Markup line := by
  rw [lines.closing, List.append_assoc]
  exact markup_headed (by decide) headline _
    (List.forall_mem_append.mpr ⟨markup_resolution _, markup_services _⟩)

/-- **Each line of a message is well formed on its own.** -/
theorem markup_lines (p : Payload) : ∀ line ∈ lines p, Markup line := by
  rw [lines]
  cases p.kind with
  | initial =>
      simp only [List.append_assoc]
      refine markup_headed p.event.eventType.plain_icon _ _ ?_
      simp only [List.forall_mem_append]
      exact ⟨markup_statusLines _, markup_spaced _, markup_services _⟩
  | update =>
      simp only [List.append_assoc]
      refine markup_headed (by decide) _ _ ?_
      simp only [List.forall_mem_append]
      exact ⟨markup_statusLines _, markup_spaced _, markup_changes _, markup_services _⟩
  | resolved => exact markup_closing p _
  | completed => exact markup_closing p _
  | cancelled =>
      refine markup_headed (by decide) _ _ (List.forall_mem_cons.mpr ⟨markup_escape _, ?_⟩)
      cases p.event.scheduledStartAt with
      | none => exact List.forall_mem_nil _
      | some t =>
          refine List.forall_mem_cons.mpr ⟨.nil, List.forall_mem_singleton.mpr ?_⟩
          exact markup_after (by decide) (markup_of_plain (plain_instantLabel t))

end Telegram

/-- **A Telegram message is well formed**, whatever the texts of its payload hold and wherever it is
cut. -/
theorem telegram_body_is_markup (p : Payload) :
    ∃ m, Renderer.standard.render .telegram p = .ok m ∧ Markup m.body.toList := by
  refine ⟨_, Renderer.render_standard .telegram p, ?_⟩
  simp only [Renderer.body, String.toList_ofList]
  exact markup_joinWithin (Telegram.markup_lines p) (Telegram.markup_footer p) _

end Courier
