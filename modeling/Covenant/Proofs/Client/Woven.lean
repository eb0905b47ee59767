import Covenant.Client.Method
import Covenant.Proofs.Result
/-!
# Texts of templates and texts in their slots

A filled template is a text in stretches: its own texts, and the texts that were put into its slots.

* `Template.row`: a template with its choices made is one row of texts and slots.
* `weave`: such a row with the stretches of what comes into each slot.
* `fill_eq_weave`: a template whose slots are bound is filled without an error, and its text is that
  of its stretches.
-/

namespace Covenant.Client

open Covenant.Json

/-! ## 1. Stretches -/

/-- A stretch of a text: of a template's own text, or of what was put into a slot. -/
inductive Stretch where
  | own (text : List Char)
  | taken (text : String)
deriving Repr, DecidableEq

/-- The text of a stretch. -/
def Stretch.text : Stretch → String
  | .own text => .ofList text
  | .taken text => text

/-- A text in stretches. -/
abbrev Woven := List Stretch

/-- The text of some stretches. -/
def Woven.text (woven : Woven) : String := .join (woven.map Stretch.text)

@[simp] theorem Woven.text_nil : Woven.text [] = "" := rfl

@[simp] theorem Woven.text_cons (stretch : Stretch) (rest : Woven) :
    Woven.text (stretch :: rest) = stretch.text ++ rest.text := by
  simp [Woven.text, String.join_cons]

@[simp] theorem Woven.text_append (first second : Woven) :
    Woven.text (first ++ second) = first.text ++ second.text := by
  simp [Woven.text, String.join_append]

/-! ## 2. Rows -/

/-- A piece of a template with its choice made. -/
def Piece.row (chosen : String → Bool) : Piece → List Fragment
  | .text s => [.text s]
  | .slot name => [.slot name]
  | .choice name yes no => if chosen name then yes else no

/-- A template with its choices made. -/
def Template.row (chosen : String → Bool) (template : Template) : List Fragment :=
  template.flatMap (Piece.row chosen)

/-- The choices that bindings make. -/
def chosenBy (bindings : Bindings) (name : String) : Bool := (bindings.lookup name).any isTruthy

/-- The slots of a template, of its choices both rows. -/
def Template.slots (template : Template) : List String :=
  template.flatMap fun
    | .text _ => []
    | .slot name => [name]
    | .choice _ yes no => (yes ++ no).filterMap fun
      | .text _ => none
      | .slot name => some name

theorem mem_slots_of_row {template : Template} {chosen : String → Bool} {name : String}
    (h : .slot name ∈ template.row chosen) : name ∈ template.slots := by
  obtain ⟨piece, hp, within⟩ := List.mem_flatMap.mp h
  refine List.mem_flatMap.mpr ⟨piece, hp, ?_⟩
  cases piece with
  | text s => simp [Piece.row] at within
  | slot other => simpa [Piece.row] using within
  | choice other yes no =>
    have either : .slot name ∈ yes ++ no := by
      rw [Piece.row] at within
      split at within
      · exact List.mem_append_left _ within
      · exact List.mem_append_right _ within
    exact List.mem_filterMap.mpr ⟨_, either, rfl⟩

theorem slot_mem_row {template : Template} {name : String} (h : .slot name ∈ template)
    (chosen : String → Bool) : .slot name ∈ template.row chosen :=
  List.mem_flatMap.mpr ⟨.slot name, h, List.mem_singleton.mpr rfl⟩

theorem fillRow_append (bindings : Bindings) (first second : List Fragment) :
    fillRow bindings (first ++ second) =
      (do return (← fillRow bindings first) ++ (← fillRow bindings second)) := by
  induction first with
  | nil =>
    cases h : fillRow bindings second <;>
      simp [fillRow, h, bind, Except.bind, pure, Except.pure]
  | cons fragment rest ih =>
    rw [List.cons_append, fillRow, ih, fillRow]
    cases fragment.fill bindings <;> cases fillRow bindings rest <;>
      cases fillRow bindings second <;>
      simp [bind, Except.bind, pure, Except.pure, String.append_assoc]

/-- A template is filled as its row is for the choices that the bindings make. -/
theorem fill_eq_fillRow (template : Template) (bindings : Bindings) :
    template.fill bindings = fillRow bindings (template.row (chosenBy bindings)) := by
  have single : ∀ fragment : Fragment, fillRow bindings [fragment] = fragment.fill bindings := by
    intro fragment
    cases h : fragment.fill bindings <;> simp [fillRow, h, bind, Except.bind, pure, Except.pure]
  induction template with
  | nil => rfl
  | cons piece rest ih =>
    have here : piece.fill bindings = fillRow bindings (piece.row (chosenBy bindings)) := by
      cases piece with
      | text s => rw [Piece.row, single]; rfl
      | slot name => rw [Piece.row, single]; rfl
      | choice name yes no => rfl
    have split : Template.row (chosenBy bindings) (piece :: rest) =
        piece.row (chosenBy bindings) ++ Template.row (chosenBy bindings) rest := rfl
    rw [Template.fill, ih, here, split, fillRow_append]

/-! ## 3. Weaving -/

/-- A row with the stretches that come into its slots. -/
def weave (into : String → Woven) (row : List Fragment) : Woven :=
  row.flatMap fun
    | .text text => [.own text.toList]
    | .slot name => into name

theorem fillRow_eq_weave {bindings : Bindings} {into : String → Woven} {row : List Fragment}
    (bound : ∀ name, .slot name ∈ row → fillSlot bindings name = .ok (into name).text) :
    fillRow bindings row = .ok (weave into row).text := by
  induction row with
  | nil => rfl
  | cons fragment rest ih =>
    have later := ih fun name hn => bound name (List.mem_cons_of_mem _ hn)
    cases fragment with
    | text text =>
      simp [fillRow, Fragment.fill, later, weave, Stretch.text, bind, Except.bind, pure,
        Except.pure]
    | slot name =>
      simp [fillRow, Fragment.fill, later, bound name List.mem_cons_self, weave, bind, Except.bind,
        pure, Except.pure]

/-- What comes into a slot: the stretches that are given for it, or else all of what it is bound to
as one. -/
def boundTo (bindings : Bindings) (given : List (String × Woven)) (name : String) : Woven :=
  match given.lookup name with
  | some woven => woven
  | none => [.taken (((bindings.lookup name).map slotText).getD "")]

/-- What comes into a slot was given for it, or it is one text. -/
theorem boundTo_cases (bindings : Bindings) (given : List (String × Woven)) (name : String) :
    (name, boundTo bindings given name) ∈ given ∨
      boundTo bindings given name = [.taken (((bindings.lookup name).map slotText).getD "")] := by
  unfold boundTo
  split
  · rename_i woven found
    obtain ⟨before, after, split, _⟩ := List.lookup_eq_some_iff.mp found
    exact .inl (by simp [split])
  · exact .inr rfl

/-- The stretches of a template with these bindings. -/
def Template.weave (template : Template) (bindings : Bindings) (given : List (String × Woven)) :
    Woven :=
  Client.weave (boundTo bindings given) (template.row (chosenBy bindings))

/-- **A template whose slots are bound is filled without an error**, and its text is that of its
stretches. -/
theorem fill_eq_weave {template : Template} {bindings : Bindings} {given : List (String × Woven)}
    (bound : ∀ name ∈ template.slots, name ∈ bindings.map Prod.fst)
    (agree : ∀ entry ∈ given, bindings.lookup entry.1 = some (.text entry.2.text)) :
    template.fill bindings = .ok (template.weave bindings given).text := by
  rw [fill_eq_fillRow]
  refine fillRow_eq_weave fun name hn => ?_
  obtain ⟨value, found⟩ : ∃ value, bindings.lookup name = some value := by
    obtain ⟨entry, he, rfl⟩ := List.mem_map.mp (bound name (mem_slots_of_row hn))
    exact Option.isSome_iff_exists.mp (List.lookup_isSome_iff.mpr ⟨entry, he, by simp⟩)
  simp only [fillSlot, found, boundTo]
  cases known : given.lookup name with
  | none => simp [Stretch.text]
  | some woven =>
    obtain ⟨before, after, split, _⟩ := List.lookup_eq_some_iff.mp known
    have same := agree (name, woven) (by simp [split])
    rw [found] at same
    rw [Option.some.inj same]
    rfl

/-- Stretches of templates filled one after another. -/
theorem fillEach_eq {id : String} {template : Template} {α : Type} {items : List α}
    {bindings : α → Bindings} {woven : α → Woven}
    (each : ∀ item ∈ items, template.fill (bindings item) = .ok (woven item).text) :
    fillEach id template (items.map bindings) = .ok (Woven.text (items.flatMap woven)) := by
  induction items with
  | nil => rfl
  | cons first rest ih =>
    have here : fillNamed id template (bindings first) = .ok (woven first).text := by
      rw [fillNamed, each first List.mem_cons_self]
      rfl
    have later := ih fun item hi => each item (List.mem_cons_of_mem _ hi)
    simp [fillEach, here, later, bind, Except.bind, pure, Except.pure]

end Covenant.Client
