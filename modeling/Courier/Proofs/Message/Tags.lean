import Courier.Proofs.Message.Fit
import Courier.Proofs.Message.Telegram
import Courier.Proofs.World

/-!
# Proofs — Message — Tags

The tags of a Telegram message are those of its template.  A message of which nothing is left out
has a pair of tags for each part in bold and one for the link to the event; the texts of the payload
add none to them and take none away (`texts_leave_tags_alone`).

* `tags`: the tags that a reader of HTML comes upon.
* `tags_append`: what stands before them is read on its own where it is well formed.
* `Telegram.tags_body`: the tags of a message, told by what its payload holds apart from texts.
-/

namespace Courier

namespace Html

/-- Where a reader of HTML stands: in text, or in a tag that is read so far, outside or inside the
quotes of a value. -/
inductive Place where
  | text
  | tag (read : List Char)
  | value (read : List Char)

/-- The tags from a place on, each without what it has between quotes. -/
def tagsFrom : Place → List Char → List (List Char)
  | .text, [] => []
  | .tag read, [] => [read]
  | .value read, [] => [read]
  | .text, c :: rest => if c = '<' then tagsFrom (.tag []) rest else tagsFrom .text rest
  | .tag read, c :: rest =>
    if c = '>' then read :: tagsFrom .text rest
    else if c = '\x22' then tagsFrom (.value (read ++ [c])) rest
    else tagsFrom (.tag (read ++ [c])) rest
  | .value read, c :: rest =>
    if c = '\x22' then tagsFrom (.tag (read ++ [c])) rest else tagsFrom (.value read) rest

/-- The tags of a text, values aside. -/
def tags (s : List Char) : List (List Char) := tagsFrom .text s

example : tags "a <b>1 &lt; 2</b> <a href=\x22x>y\x22>z</a>".toList =
    ["b".toList, "/b".toList, "a href=\x22\x22".toList, "/a".toList] := by decide

/-- The tags around a part in bold. -/
def boldTags : List (List Char) := ["b".toList, "/b".toList]

/-- The tags around a link. -/
def linkTags : List (List Char) := ["a href=\x22\x22".toList, "/a".toList]

/-- The tags of parts in bold. -/
def bolds (n : Nat) : List (List Char) := (List.replicate n boldTags).flatten

/-- Pairs of bold tags add up. -/
theorem bolds_append (m n : Nat) : bolds m ++ bolds n = bolds (m + n) := by
  rw [bolds, bolds, bolds, ← List.flatten_append, List.replicate_append_replicate]

/-! ### Texts and elements -/

/-- No tag opens in the text. -/
def Tagless (s : List Char) : Prop := ∀ c ∈ s, c ≠ '<'

instance (s : List Char) : Decidable (Tagless s) := List.decidableBAll _ s

theorem Tagless.append {s t : List Char} (hs : Tagless s) (ht : Tagless t) : Tagless (s ++ t) :=
  List.forall_mem_append.mpr ⟨hs, ht⟩

/-- Text without tags has no part in the tags of what it stands before. -/
theorem tags_skip {s : List Char} (h : Tagless s) (t : List Char) : tags (s ++ t) = tags t := by
  induction s with
  | nil => rfl
  | cons c rest ih =>
      obtain ⟨hc, hrest⟩ := List.forall_mem_cons.mp h
      exact (if_neg hc).trans (ih hrest)

/-- Text without tags has none. -/
theorem Tagless.tags {s : List Char} (h : Tagless s) : tags s = [] := by
  rw [← List.append_nil s, tags_skip h]
  rfl

/-- A value is read up to its closing quote, whatever it says. -/
theorem tagsFrom_value {s : List Char} (h : ∀ c ∈ s, c ≠ '\x22') (read t : List Char) :
    tagsFrom (.value read) (s ++ t) = tagsFrom (.value read) t := by
  induction s with
  | nil => rfl
  | cons c rest ih =>
      obtain ⟨hc, hrest⟩ := List.forall_mem_cons.mp h
      exact (if_neg hc).trans (ih hrest)

theorem Plain.tagless {s : List Char} (h : Plain s) : Tagless s := fun c hc => (h c hc).1

/-- No sign opens a tag or ends a value. -/
def Inert (s : List Char) : Prop := ∀ c ∈ s, c ≠ '<' ∧ c ≠ '\x22'

instance (s : List Char) : Decidable (Inert s) := List.decidableBAll _ s

theorem Entity.inert {e : List Char} (h : Entity e) : Inert e := by cases h <;> decide

/-- Words have no sign of a tag or a value. -/
theorem Words.inert {s : List Char} (h : Words s) : Inert s := by
  induction h with
  | nil => exact List.forall_mem_nil _
  | plain hc _ ih => exact List.forall_mem_cons.mpr ⟨⟨hc.1, hc.2.2.2⟩, ih⟩
  | entity he _ ih => exact List.forall_mem_append.mpr ⟨he.inert, ih⟩

theorem Words.tagless {s : List Char} (h : Words s) : Tagless s := fun c hc => (h.inert c hc).1

/-- Bold words have their two tags, whatever they say. -/
theorem tags_bold_append {text : List Char} (h : Words text) (rest : List Char) :
    tags ("<b>".toList ++ text ++ "</b>".toList ++ rest) = boldTags ++ tags rest := by
  rw [List.append_assoc, List.append_assoc]
  show "b".toList :: tags (text ++ ("</b>".toList ++ rest)) = _
  rw [tags_skip h.tagless]
  rfl

/-- A link of words has its two tags, whatever it says. -/
theorem tags_link_append {url label : List Char} (hu : Words url) (hl : Words label)
    (rest : List Char) :
    tags ("<a href=\x22".toList ++ url ++ "\x22>".toList ++ label ++ "</a>".toList ++ rest) =
      linkTags ++ tags rest := by
  rw [List.append_assoc, List.append_assoc, List.append_assoc, List.append_assoc]
  show tagsFrom (.value "a href=\x22".toList) (url ++ ("\x22>".toList ++ _)) = _
  rw [tagsFrom_value fun c hc => (hu.inert c hc).2]
  show "a href=\x22\x22".toList :: tags (label ++ ("</a>".toList ++ rest)) = _
  rw [tags_skip hl.tagless]
  rfl

/-- **The tags of well-formed text do not depend on what follows**, and do not change how it is
read. -/
theorem tags_append {s : List Char} (h : Markup s) (t : List Char) :
    tags (s ++ t) = tags s ++ tags t := by
  induction h with
  | nil => rfl
  | @plain c rest hc _ ih =>
      have hskip : ∀ u, tags (c :: u) = tags u :=
        @tags_skip [c] (List.forall_mem_singleton.mpr hc.1)
      rw [List.cons_append, hskip, hskip, ih]
  | @entity e rest he _ ih =>
      have hskip := tags_skip he.words.tagless
      rw [List.append_assoc, hskip, hskip, ih]
  | bold hw _ ih => rw [List.append_assoc, tags_bold_append hw, tags_bold_append hw, ih,
      List.append_assoc]
  | link hu hl _ ih => rw [List.append_assoc, tags_link_append hu hl, tags_link_append hu hl, ih,
      List.append_assoc]

/-- Joined lines have the tags of each. -/
theorem tags_joinLines {lines : List (List Char)} (h : ∀ line ∈ lines, Markup line) :
    tags (joinLines lines) = lines.flatMap tags := by
  induction lines with
  | nil => rfl
  | cons line rest ih =>
      obtain ⟨hline, hrest⟩ := List.forall_mem_cons.mp h
      rw [List.flatMap_cons, ← ih hrest]
      cases rest with
      | nil => exact (List.append_nil _).symm
      | cons next rest => exact tags_append hline _

/-- A tail has the tags of each line. -/
theorem tags_tailText {tail : List (List Char)} (h : ∀ line ∈ tail, Markup line) :
    tags (tailText tail) = tail.flatMap tags := by
  induction tail with
  | nil => rfl
  | cons line rest ih =>
      obtain ⟨hline, hrest⟩ := List.forall_mem_cons.mp h
      rw [List.flatMap_cons, ← ih hrest]
      exact tags_append hline _

end Html

open Html

/-! ### Payloads without their texts -/

/-- The service as it is shown, apart from its identifier and its name. -/
def ServiceSnapshot.outline (s : ServiceSnapshot) : ServiceSnapshot := ⟨⟨0⟩, "", s.status⟩

/-- A group without its texts. -/
def GroupSnapshot.outline (_ : GroupSnapshot) : GroupSnapshot := ⟨⟨0⟩, ""⟩

/-- The change of a service without its texts. -/
def ServiceTransition.outline (t : ServiceTransition) : ServiceTransition :=
  ⟨⟨0⟩, "", t.source, t.target⟩

/-- An event without its texts. -/
def EventSnapshot.outline (e : EventSnapshot) : EventSnapshot :=
  { e with
    id := ⟨0⟩
    title := ""
    message := ""
    services := e.services.map (·.outline)
    groups := e.groups.map (·.outline) }

/-- Changes without their texts. -/
def PayloadChanges.outline (c : PayloadChanges) : PayloadChanges :=
  { c with
    servicesAdded := c.servicesAdded.map (·.outline)
    servicesRemoved := c.servicesRemoved.map (·.outline)
    servicesUpdated := c.servicesUpdated.map (·.outline)
    reason := c.reason.map fun _ => "" }

/-- A resolution without its text. -/
def ResolutionInfo.outline (r : ResolutionInfo) : ResolutionInfo :=
  { r with message := r.message.map fun _ => "" }

/-- What a payload says apart from identifiers and texts: kinds, statuses, times, the lengths of
lists, and which texts there are. -/
def Payload.outline (p : Payload) : Payload :=
  { p with
    event := p.event.outline
    changes := p.changes.map (·.outline)
    resolution := p.resolution.map (·.outline)
    eventUrl := p.eventUrl.map fun _ => "" }

/-- Changes are empty with or without their texts. -/
theorem PayloadChanges.isEmpty_outline (c : PayloadChanges) : c.outline.isEmpty = c.isEmpty := by
  simp only [isEmpty, outline, List.isEmpty_map, Option.isNone_map]

namespace Telegram

/-! ### The tags of lines -/

theorem tagless_escape (s : List Char) : Tagless (escape s) := (words_escape s).tagless

/-- A line without tags has none behind its icon. -/
theorem tagless_marked {icon : String} (hicon : Plain icon.toList) {line : List Char}
    (h : Tagless line) : Tagless (marked icon line) :=
  hicon.tagless.append (List.forall_mem_cons.mpr ⟨by decide, h⟩)

/-- A line has the same tags behind its icon. -/
theorem tags_marked {icon : String} (hicon : Plain icon.toList) (line : List Char) :
    tags (marked icon line) = tags line := by
  rw [marked, tags_skip hicon.tagless]
  rfl

theorem tags_bold (s : List Char) : tags (bold s) = bolds 1 := by
  rw [← List.append_nil (bold s)]
  exact tags_bold_append (words_escape s) []

theorem tags_link (url label : List Char) : tags (link url label) = linkTags := by
  rw [← List.append_nil (link url label)]
  exact tags_link_append (words_escape url) (words_escape label) []

theorem flatMap_tags_of_tagless {lines : List (List Char)} (h : ∀ line ∈ lines, Tagless line) :
    lines.flatMap tags = [] :=
  List.flatMap_eq_nil_iff.mpr fun line hline => (h line hline).tags

/-- The parts in bold of the lines on the status. -/
def statusParts : EventType → Nat
  | .incident => 2
  | .maintenance => 1

/-- The lines about the status have a bold part for each. -/
theorem tags_statusLines (e : EventSnapshot) :
    (statusLines e).flatMap tags = bolds (statusParts e.eventType) := by
  rw [statusLines, List.flatMap_cons, tags_marked e.status.plain_icon, tags_skip (by decide),
    tags_bold]
  cases e.eventType with
  | incident =>
      rw [List.flatMap_singleton, tags_marked (Severity.plain_icon _), tags_skip (by decide),
        tags_bold, bolds_append]
      rfl
  | maintenance =>
      refine (congrArg _ (flatMap_tags_of_tagless ?_)).trans (List.append_nil _)
      cases e.scheduledStartAt with
      | none => exact List.forall_mem_nil _
      | some start =>
          cases e.scheduledEndAt with
          | none => exact List.forall_mem_nil _
          | some finish =>
              refine List.forall_mem_singleton.mpr (tagless_marked (by decide) ?_)
              exact .append (.append (.append (by decide) (plain_instantLabel start).tagless)
                (by decide)) (plain_instantLabel finish).tagless

/-- The heading of a list of services is in bold. -/
def serviceParts (e : EventSnapshot) : Nat := if e.services.isEmpty then 0 else 1

/-- The lines about services have one bold part, if there are any. -/
theorem tags_serviceLines (e : EventSnapshot) :
    (serviceLines e).flatMap tags = bolds (serviceParts e) := by
  rw [serviceLines, serviceParts]
  split
  · rfl
  · rw [List.flatMap_cons, List.flatMap_cons, tags_bold, flatMap_tags_of_tagless ?_,
      List.append_nil]
    · rfl
    · refine List.forall_mem_map.mpr fun s _ => tagless_marked s.status.plain_icon ?_
      exact .append (.append (tagless_escape _) (by decide)) s.status.plain_label.tagless

theorem tagless_names {list : List (List Char)} (h : ∀ name ∈ list, Tagless name) :
    Tagless (names list) := by
  induction list with
  | nil => exact List.forall_mem_nil _
  | cons name rest ih =>
      obtain ⟨hname, hrest⟩ := List.forall_mem_cons.mp h
      cases rest with
      | nil => exact hname
      | cons next rest =>
          exact .append (.append hname (by decide)) (ih hrest)

theorem tags_services (e : EventSnapshot) :
    (services e).flatMap tags = bolds (serviceParts e) := by
  have hgroups : ∀ line ∈ groupLines e, Tagless line := by
    rw [groupLines]
    split
    · exact List.forall_mem_nil _
    · refine List.forall_mem_singleton.mpr (.append (by decide) (tagless_names ?_))
      exact List.forall_mem_map.mpr fun g _ => tagless_escape _
  rw [services, List.flatMap_append, tags_serviceLines, flatMap_tags_of_tagless hgroups,
    List.append_nil]

/-- The lines about changes have no tags. -/
theorem tagless_changeLines (c : PayloadChanges) : ∀ line ∈ changeLines c, Tagless line := by
  simp only [changeLines, List.forall_mem_append, List.forall_mem_map, Option.mem_toList,
    Option.map_eq_some_iff, forall_exists_index, and_imp]
  refine ⟨⟨⟨⟨?_, fun s _ => ?_⟩, fun s _ => ?_⟩, fun s _ => ?_⟩, ?_⟩
  · rintro _ s - rfl
    exact tagless_marked s.target.plain_icon
      (.append (by decide) (plain_arrow s.source.plain_label s.target.plain_label).tagless)
  · exact tagless_marked (by decide) (.append (.append (.append (tagless_escape _) (by decide))
      s.status.plain_label.tagless) (by decide))
  · exact tagless_marked (by decide) (tagless_escape _)
  · exact tagless_marked s.target.plain_icon (.append (.append (tagless_escape _) (by decide))
      (plain_arrow s.source.plain_label s.target.plain_label).tagless)
  · rintro _ r - rfl
    exact .append (by decide) (tagless_escape _)

/-- The heading of a list of changes is in bold. -/
def changeParts : Option PayloadChanges → Nat
  | some c => if c.isEmpty then 0 else 1
  | none => 0

/-- The paragraph about changes has one bold part, if there are any. -/
theorem tags_changes (c : Option PayloadChanges) :
    (changes c).flatMap tags = bolds (changeParts c) := by
  cases c with
  | none => rfl
  | some c =>
      rw [changes, changeParts]
      split
      · rfl
      · rw [List.flatMap_cons, List.flatMap_cons, tags_bold,
          flatMap_tags_of_tagless (tagless_changeLines c), List.append_nil]
        rfl

/-- An empty line and an escaped text. -/
theorem tagless_spaced (text : String) : ∀ line ∈ [[], escape text.toList], Tagless line :=
  List.forall_mem_cons.mpr
    ⟨List.forall_mem_nil _, List.forall_mem_singleton.mpr (tagless_escape _)⟩

/-- The paragraph about the resolution has no tags. -/
theorem tags_resolution (r : Option ResolutionInfo) : (resolution r).flatMap tags = [] := by
  cases r with
  | none => rfl
  | some r =>
      refine flatMap_tags_of_tagless ?_
      rw [resolution]
      refine List.forall_mem_append.mpr ⟨List.forall_mem_append.mpr ⟨?_, ?_⟩, ?_⟩
      · exact List.forall_mem_singleton.mpr
          (.append (by decide) (plain_instantLabel _).tagless)
      · split
        · exact List.forall_mem_singleton.mpr
            (.append (by decide) (plain_formatDuration _).tagless)
        · exact List.forall_mem_nil _
      · cases r.message with
        | none => exact List.forall_mem_nil _
        | some m => exact tagless_spaced m

/-- The title in bold, an empty line, and more lines. -/
theorem tags_headed {icon : String} (hicon : Plain icon.toList) (headline title : String)
    (rest : List (List Char)) :
    ([heading icon headline title, []] ++ rest).flatMap tags = bolds 1 ++ rest.flatMap tags := by
  rw [List.flatMap_append, List.flatMap_cons, heading, tags_marked hicon, tags_bold]
  rfl

/-- The parts in bold of a message: its title, and what it holds beside texts. -/
def boldParts (p : Payload) : Nat :=
  1 + match p.kind with
    | .initial => statusParts p.event.eventType + serviceParts p.event
    | .update => statusParts p.event.eventType + changeParts p.changes + serviceParts p.event
    | .resolved => serviceParts p.event
    | .completed => serviceParts p.event
    | .cancelled => 0

/-- A closing message has its headline in bold, and the services. -/
theorem tags_closing (p : Payload) (headline : String) :
    (lines.closing p headline).flatMap tags = bolds (1 + serviceParts p.event) := by
  rw [lines.closing, List.append_assoc, tags_headed (by decide), List.flatMap_append,
    tags_resolution, tags_services, List.nil_append, bolds_append]

/-- The lines of a message have as many bold parts as its payload tells without its texts. -/
theorem tags_lines (p : Payload) : (lines p).flatMap tags = bolds (boldParts p) := by
  rw [lines, boldParts]
  cases p.kind with
  | initial =>
      simp only [List.append_assoc]
      rw [tags_headed p.event.eventType.plain_icon]
      simp only [List.flatMap_append, tags_statusLines, flatMap_tags_of_tagless (tagless_spaced _),
        tags_services, List.nil_append, bolds_append]
  | update =>
      simp only [List.append_assoc]
      rw [tags_headed (by decide)]
      simp only [List.flatMap_append, tags_statusLines, flatMap_tags_of_tagless (tagless_spaced _),
        tags_changes, tags_services, List.nil_append, bolds_append, Nat.add_assoc]
  | resolved => exact tags_closing p _
  | completed => exact tags_closing p _
  | cancelled =>
      refine (tags_headed (by decide) _ _ _).trans (congrArg _ (flatMap_tags_of_tagless ?_))
      refine List.forall_mem_cons.mpr ⟨tagless_escape _, ?_⟩
      cases p.event.scheduledStartAt with
      | none => exact List.forall_mem_nil _
      | some t =>
          refine List.forall_mem_cons.mpr ⟨List.forall_mem_nil _, List.forall_mem_singleton.mpr ?_⟩
          exact .append (by decide) (plain_instantLabel t).tagless

/-- The footer has the tags of a link, if there is one. -/
theorem tags_footer (p : Payload) :
    (footer p).flatMap tags = if p.eventUrl.isSome then linkTags else [] := by
  rw [footer]
  cases p.eventUrl with
  | none => rfl
  | some url =>
      rw [List.flatMap_cons, List.flatMap_singleton, tags_link]
      rfl

/-- Nothing is left out of the message. -/
def Complete (p : Payload) : Prop := body p = joinLines (lines p) ++ tailText (footer p)

/-- What has room as a whole is not cut. -/
theorem complete_of_length_le {p : Payload}
    (h : (joinLines (lines p) ++ tailText (footer p)).length ≤ messageLimit) : Complete p :=
  joinWithin_of_fits h

/-- **The tags of a message**, told by what its payload holds beside texts. -/
theorem Complete.tags_body {p : Payload} (h : Complete p) :
    tags (body p) = bolds (boldParts p) ++ if p.eventUrl.isSome then linkTags else [] := by
  rw [h, tags_append (markup_joinLines (markup_lines p)), tags_joinLines (markup_lines p),
    tags_tailText (markup_footer p), tags_lines, tags_footer]

/-- The bold parts are told without the texts. -/
theorem boldParts_outline (p : Payload) : boldParts p.outline = boldParts p := by
  have hservices : serviceParts p.outline.event = serviceParts p.event := by
    simp only [serviceParts, Payload.outline, EventSnapshot.outline, List.isEmpty_map]
  have hchanges : changeParts p.outline.changes = changeParts p.changes := by
    rw [Payload.outline]
    cases p.changes with
    | none => rfl
    | some c => exact congrArg (fun isEmpty : Bool => if isEmpty then 0 else 1) c.isEmpty_outline
  rw [boldParts, boldParts, hservices, hchanges]
  rfl

end Telegram

/-- **The texts of a payload leave the tags of its message alone.**  Two messages of which nothing
is left out, from payloads that differ in texts and identifiers only, have the same tags in the same
order. -/
theorem texts_leave_tags_alone {p q : Payload} (h : p.outline = q.outline)
    (hp : Telegram.Complete p) (hq : Telegram.Complete q) :
    ∃ m n, Renderer.standard.render .telegram p = .ok m ∧
      Renderer.standard.render .telegram q = .ok n ∧ tags m.body.toList = tags n.body.toList := by
  refine ⟨_, _, Renderer.render_standard .telegram p, Renderer.render_standard .telegram q, ?_⟩
  have hparts : Telegram.boldParts p = Telegram.boldParts q := by
    rw [← Telegram.boldParts_outline p, h, Telegram.boldParts_outline]
  have hlink : p.eventUrl.isSome = q.eventUrl.isSome := by
    have hurls := congrArg (fun r : Payload => r.eventUrl.isSome) h
    simpa only [Payload.outline, Option.isSome_map] using hurls
  simp only [Renderer.body, String.toList_ofList]
  show tags (Telegram.body p) = tags (Telegram.body q)
  rw [hp.tags_body, hq.tags_body, hparts, hlink]

namespace Sample

/-- An update with one text in all places. -/
def notice (text : String) : Payload :=
  { payload with
    kind := .update
    event := { payload.event with
      title := text, message := text
      services := [⟨id 4, text, .degraded⟩], groups := [⟨id 5, text⟩] }
    changes := some ⟨none, [], [], [], some text⟩
    eventUrl := some text }

end Sample

/-- A text that would end an element and open a link does neither: the message has the five parts in
bold and the one link that it has with any other text. -/
theorem tags_in_texts_are_text :
    ∃ m n, Renderer.standard.render .telegram (Sample.notice "Outage") = .ok m ∧
      Renderer.standard.render .telegram (Sample.notice "\x22></a></b><a href=\x22x") = .ok n ∧
      tags m.body.toList = tags n.body.toList :=
  texts_leave_tags_alone rfl (Telegram.complete_of_length_le (by decide +kernel))
    (Telegram.complete_of_length_le (by decide +kernel))

end Courier
