import Mathlib.Data.List.Nodup
import Courier.Message.Renderer
import Courier.Proofs.World

/-!
# Proofs — Message — Renderer

A table of templates that is accepted has one for every message.

* `TemplateEntry.IsLastFor`, `Renderer.isLastFor_of_find?`: of several entries for a pair the last
  counts.
* `Renderer.find?_eq_none_iff`, `Renderer.Lacks`: what a table leaves out.
* `Renderer.Serves`: what a renderer answers.
* `Renderer.render_standard`: the built-in templates leave no payload without a message.
* `accepted_exactly_if_complete`: all of this for any table.
* `denial_is_passed_on`: a complete table may still have a template that says it is missing.
-/

namespace Courier

/-- A kind of channel and a kind of message. -/
abbrev TemplatePair := ChannelType × MessageKind

namespace TemplatePair

/-- In the order of the kinds of channel, and for each in that of the kinds of message. -/
def Sooner (a b : TemplatePair) : Prop :=
  ChannelType.all.idxOf a.1 < ChannelType.all.idxOf b.1 ∨
    a.1 = b.1 ∧ MessageKind.all.idxOf a.2 < MessageKind.all.idxOf b.2

instance (a b : TemplatePair) : Decidable (a.Sooner b) := inferInstanceAs (Decidable (_ ∨ _))

/-- The name of a pair. -/
def key (pair : TemplatePair) : String := templateKey pair.1 pair.2

end TemplatePair

namespace TemplateEntry

/-- The entry has the template of the pair. -/
def IsFor (e : TemplateEntry) (pair : TemplatePair) : Prop :=
  e.channelType = pair.1 ∧ e.kind = pair.2

instance (e : TemplateEntry) (pair : TemplatePair) : Decidable (e.IsFor pair) :=
  inferInstanceAs (Decidable (_ ∧ _))

/-- The entry is for the pair, and none after it is. -/
def IsLastFor (e : TemplateEntry) (pair : TemplatePair) (entries : List TemplateEntry) : Prop :=
  e.IsFor pair ∧ ∃ before after, entries = before ++ e :: after ∧ ∀ later ∈ after, ¬later.IsFor pair

/-- The last entry for a pair is one of the entries. -/
theorem IsLastFor.mem {e : TemplateEntry} {pair : TemplatePair} {entries : List TemplateEntry}
    (h : e.IsLastFor pair entries) : e ∈ entries := by
  obtain ⟨-, before, after, hentries, -⟩ := h
  rw [hentries]
  exact List.mem_append_right before List.mem_cons_self

end TemplateEntry

namespace Renderer

variable {entries : List TemplateEntry} {t : ChannelType} {k : MessageKind}

/-- No pair is left out. -/
theorem mem_pairs (pair : TemplatePair) : pair ∈ pairs :=
  List.mem_flatMap.mpr ⟨pair.1, pair.1.mem_all, List.mem_map_of_mem pair.2.mem_all⟩

/-- Nothing is found for a pair exactly if there is no entry for it. -/
theorem find?_eq_none_iff : find? entries t k = none ↔ ∀ e ∈ entries, ¬e.IsFor (t, k) := by
  rw [find?, Option.map_eq_none_iff, List.find?_eq_none]
  simp only [List.mem_reverse, decide_eq_true_eq]
  rfl

/-- What is found for a pair is its last template. -/
theorem isLastFor_of_find? {template : Template} (h : find? entries t k = some template) :
    ∃ e : TemplateEntry, e.IsLastFor (t, k) entries ∧ e.template = template := by
  rw [find?, Option.map_eq_some_iff] at h
  obtain ⟨e, he, htemplate⟩ := h
  obtain ⟨hpair, later, earlier, hentries, hlater⟩ := List.find?_eq_some_iff_append.mp he
  refine ⟨e, ⟨of_decide_eq_true hpair, earlier.reverse, later.reverse, ?_, ?_⟩, htemplate⟩
  · rw [← List.reverse_reverse entries, hentries]
    simp
  · intro other hother
    have hfor := hlater other (List.mem_reverse.mp hother)
    exact of_decide_eq_false ((Bool.not_eq_true' _).mp hfor)

/-! ### What is missing -/

/-- The names are those of the pairs that have no entry, each once and in order. -/
def Lacks (entries : List TemplateEntry) (keys : List String) : Prop :=
  keys.Nodup ∧ ∃ absent : List TemplatePair, keys = absent.map TemplatePair.key ∧
    absent.Pairwise TemplatePair.Sooner ∧
    ∀ pair, pair ∈ absent ↔ ∀ e ∈ entries, ¬e.IsFor pair

/-- The names that are missing are those of the pairs without an entry. -/
theorem lacks_missing (entries : List TemplateEntry) : Lacks entries (missing entries) := by
  have hnodup : (pairs.map TemplatePair.key).Nodup := by decide
  have horder : pairs.Pairwise TemplatePair.Sooner := by decide
  refine ⟨hnodup.sublist (List.filter_sublist.map _), _, rfl, horder.filter _, fun pair => ?_⟩
  rw [List.mem_filter, Option.isNone_iff_eq_none, find?_eq_none_iff]
  exact and_iff_right (mem_pairs pair)

/-- No name is missing exactly if every pair has an entry. -/
theorem missing_eq_nil_iff : missing entries = [] ↔ ∀ pair, ∃ e ∈ entries, e.IsFor pair := by
  obtain ⟨-, absent, hkeys, -, habsent⟩ := lacks_missing entries
  rw [hkeys, List.map_eq_nil_iff, List.eq_nil_iff_forall_not_mem]
  refine forall_congr' fun pair => ?_
  rw [habsent]
  push Not
  rfl

/-- A table is accepted exactly if no name is missing from it. -/
theorem ofEntries_eq_ok_iff {r : Renderer} :
    ofEntries entries = .ok r ↔ missing entries = [] ∧ r = ⟨entries⟩ := by
  rw [ofEntries]
  split
  · next h => simp [h, eq_comm]
  · next h => simp [h]

/-! ### What is answered -/

/-- What a renderer of entries answers. -/
structure Serves (r : Renderer) (entries : List TemplateEntry) : Prop where
  /-- The last template for the message makes the body, or fails. -/
  last : ∀ t p, ∃ e : TemplateEntry, e.IsLastFor (t, p.kind) entries ∧
    r.render t p = (e.template p).map fun body => ⟨p.subject, body⟩
  /-- Only a template fails, never the look-up of one. -/
  failed : ∀ t p fault, r.render t p = .error fault →
    ∃ e : TemplateEntry, e.IsLastFor (t, p.kind) entries ∧ e.template p = .error fault
  found : (∀ e ∈ entries, ∀ p t k, e.template p ≠ .error (.templateNotFound t k)) →
    ∀ t p t' k, r.render t p ≠ .error (.templateNotFound t' k)
  subject : ∀ t t' p m m', r.render t p = .ok m → r.render t' p = .ok m' → m.subject = m'.subject

theorem map_eq_ok {α β ε : Type} {x : Except ε α} {f : α → β} {b : β} (h : x.map f = .ok b) :
    ∃ a, x = .ok a ∧ f a = b := by
  cases x with
  | error fault => cases h
  | ok a => exact ⟨a, rfl, Except.ok.inj h⟩

theorem map_eq_error {α β ε : Type} {x : Except ε α} {f : α → β} {fault : ε}
    (h : x.map f = .error fault) : x = .error fault := by
  cases x with
  | error other => exact congrArg _ (Except.error.inj h)
  | ok a => cases h

/-- A complete table answers with its last template for the pair, or that one's fault. -/
theorem render_of_complete (h : missing entries = []) (t : ChannelType) (p : Payload) :
    ∃ e : TemplateEntry, e.IsLastFor (t, p.kind) entries ∧
      (⟨entries⟩ : Renderer).render t p = (e.template p).map fun body => ⟨p.subject, body⟩ := by
  cases hfind : find? entries t p.kind with
  | none =>
      obtain ⟨e, he, hpair⟩ := missing_eq_nil_iff.mp h (t, p.kind)
      exact absurd hpair (find?_eq_none_iff.mp hfind e he)
  | some template =>
      obtain ⟨e, he, rfl⟩ := isLastFor_of_find? hfind
      refine ⟨e, he, ?_⟩
      rw [render, hfind]

/-- A renderer of a complete table serves its entries. -/
theorem serves_of_complete (h : missing entries = []) : Serves ⟨entries⟩ entries := by
  have hlast := render_of_complete h
  have hfailed : ∀ t p fault, (⟨entries⟩ : Renderer).render t p = .error fault →
      ∃ e : TemplateEntry, e.IsLastFor (t, p.kind) entries ∧ e.template p = .error fault := by
    intro t p fault hrender
    obtain ⟨e, he, hbody⟩ := hlast t p
    exact ⟨e, he, map_eq_error (hbody.symm.trans hrender)⟩
  have hsubject : ∀ t p m, (⟨entries⟩ : Renderer).render t p = .ok m → m.subject = p.subject := by
    intro t p m hm
    obtain ⟨e, -, hbody⟩ := hlast t p
    obtain ⟨body, -, rfl⟩ := map_eq_ok (hbody.symm.trans hm)
    rfl
  refine ⟨hlast, hfailed, fun hsilent t p t' k hrender => ?_, fun t t' p m m' hm hm' => ?_⟩
  · obtain ⟨e, he, htemplate⟩ := hfailed t p _ hrender
    exact hsilent e he.mem p t' k htemplate
  · rw [hsubject t p m hm, hsubject t' p m' hm']

/-- The built-in templates have a message for each kind of channel. -/
theorem render_standard (t : ChannelType) (p : Payload) :
    standard.render t p = .ok ⟨p.subject, body t p.kind p⟩ := by
  have hfind : find? standard.entries t p.kind = some fun p' => .ok (body t p.kind p') := by
    cases t <;> cases p.kind <;> rfl
  rw [render, hfind]
  rfl

end Renderer
open Renderer

/-- **A table of templates is accepted exactly if it is complete.**  Where it is not, the fault names
the pairs without an entry, each once and in order.  A renderer that comes of a table answers with
the last template for each message: with its body, under the same subject on every kind of channel,
or with its fault.  The built-in table is accepted, and has a message for every payload. -/
theorem accepted_exactly_if_complete (entries : List TemplateEntry) :
    ((∃ r, ofEntries entries = .ok r) ↔ ∀ pair, ∃ e ∈ entries, e.IsFor pair) ∧
      ((¬∀ pair, ∃ e ∈ entries, e.IsFor pair) → ∃ keys,
        ofEntries entries = .error (.missingTemplates keys) ∧ Lacks entries keys) ∧
      (∀ r, ofEntries entries = .ok r → r.Serves entries) ∧
      ofEntries builtIn = .ok standard ∧ ∀ t p, ∃ m, standard.render t p = .ok m := by
  refine ⟨?_, fun h => ?_, fun r h => ?_, ofEntries_builtIn, fun t p => ⟨_, render_standard t p⟩⟩
  · simp only [ofEntries_eq_ok_iff, missing_eq_nil_iff, exists_and_left, exists_eq, and_true]
  · rw [← missing_eq_nil_iff] at h
    exact ⟨_, if_neg h, lacks_missing entries⟩
  · obtain ⟨hcomplete, rfl⟩ := ofEntries_eq_ok_iff.mp h
    exact serves_of_complete hcomplete

namespace Sample

/-- The built-in templates but one. -/
def gappy : List TemplateEntry := builtIn.filter fun e => ¬e.IsFor (.email, .update)

/-- The gap is filled twice. -/
def filled : List TemplateEntry :=
  gappy ++ [⟨.email, .update, fun _ => .ok "first"⟩, ⟨.email, .update, fun _ => .ok "last"⟩]

end Sample

/-- The pair that is left out is named, and of two templates for it the last makes the body. -/
theorem gap_is_named_and_filled :
    (∃ keys, ofEntries Sample.gappy = .error (.missingTemplates keys) ∧
      keys = ["email_update"] ∧ Lacks Sample.gappy keys) ∧
    ∃ r, ofEntries Sample.filled = .ok r ∧ r.Serves Sample.filled ∧
      r.render .email { Sample.payload with kind := .update } =
        .ok ⟨"Update: Outage", "last"⟩ := by
  obtain ⟨-, hmissing, -⟩ := accepted_exactly_if_complete Sample.gappy
  obtain ⟨hcomplete, -, hserves, -⟩ := accepted_exactly_if_complete Sample.filled
  have hgap : ¬∀ pair, ∃ e ∈ Sample.gappy, e.IsFor pair := fun h => by
    obtain ⟨e, he, hpair⟩ := h (.email, .update)
    exact of_decide_eq_true (List.mem_filter.mp he).2 hpair
  have hfilled : missing Sample.filled = [] := by decide
  obtain ⟨r, hr⟩ := hcomplete.mpr (missing_eq_nil_iff.mp hfilled)
  refine ⟨?_, r, hr, hserves r hr, ?_⟩
  · obtain ⟨keys, hkeys, hlacks⟩ := hmissing hgap
    refine ⟨keys, hkeys, ?_, hlacks⟩
    have hnames : missing Sample.gappy = ["email_update"] := by decide
    rw [ofEntries, hnames, if_neg (by decide)] at hkeys
    cases hkeys
    rfl
  · obtain ⟨-, rfl⟩ := ofEntries_eq_ok_iff.mp hr
    rfl

namespace Sample

/-- A complete table, whose last template says that it is missing. -/
def denying : List TemplateEntry :=
  builtIn ++ [⟨.telegram, .initial, fun _ => .error (.templateNotFound .telegram .initial)⟩]

end Sample

/-- The renderer of a complete table passes on what a template says of itself: that there is none.
So this kind of channel has no subject, and others have one. -/
theorem denial_is_passed_on :
    (∀ pair, ∃ e ∈ Sample.denying, e.IsFor pair) ∧
      ∃ r, ofEntries Sample.denying = .ok r ∧
        r.render .telegram Sample.payload = .error (.templateNotFound .telegram .initial) ∧
        ∃ m, r.render .email Sample.payload = .ok m ∧ m.subject = "Incident: Outage" := by
  have hcomplete : missing Sample.denying = [] := by decide
  exact ⟨missing_eq_nil_iff.mp hcomplete, _, if_pos hcomplete, rfl, _, rfl, rfl⟩

end Courier
