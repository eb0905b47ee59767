import Covenant.Proofs.Client.Context
import Covenant.Proofs.Client.Listing
import Covenant.Proofs.Client.Size
import Covenant.Proofs.Text.Lines
/-!
# The lines of an entry point

An entry point begins with four lines of comment and ends in code; between both the operations are
listed. Only the names and texts of a context come into its other lines.

* `rowsOf` are the lines of a template before anything comes into its slots.
* `splitAtChar_text_weave`: each row is a line when it is filled, unless what comes into it has line
  feeds.
* `entry_rows`: the rows of the five entry points. The first four differ only in what begins a
  comment and in how the class is called.
* `lines_entry`: the lines of an entry point.
-/

namespace Covenant.Client

open Covenant.Contract Covenant.Naming Covenant.Text

/-! ## 1. Rows -/

/-- A character of a template, or a slot. -/
inductive Cell where
  | fixed (c : Char)
  | slot (name : String)
deriving Repr, DecidableEq

/-- The characters and slots of an outline. -/
def cells : Woven → List Cell
  | [] => []
  | .own text :: rest => text.map .fixed ++ cells rest
  | .taken name :: rest => .slot name :: cells rest

/-- The text at a cell, with this in the slots. -/
def Cell.fill (into : String → List Char) : Cell → List Char
  | .fixed c => [c]
  | .slot name => into name

/-- The text of some cells, with this in the slots. -/
def fillCells (into : String → List Char) (row : List Cell) : List Char :=
  row.flatMap (Cell.fill into)

section

variable {into : String → List Char}

@[simp] theorem fillCells_nil : fillCells into [] = [] := rfl

@[simp] theorem fillCells_append (first second : List Cell) :
    fillCells into (first ++ second) = fillCells into first ++ fillCells into second :=
  List.flatMap_append

@[simp] theorem fillCells_fixed (c : Char) (rest : List Cell) :
    fillCells into (.fixed c :: rest) = c :: fillCells into rest := rfl

@[simp] theorem fillCells_slot (name : String) (rest : List Cell) :
    fillCells into (.slot name :: rest) = into name ++ fillCells into rest := rfl

@[simp] theorem fillCells_map_fixed (text : List Char) :
    fillCells into (text.map .fixed) = text := by
  induction text with
  | nil => rfl
  | cons c rest ih => rw [List.map_cons, fillCells_fixed, ih]

theorem fillCells_intercalate (c : Char) (rows : List (List Cell)) :
    fillCells into ([.fixed c].intercalate rows) =
      [c].intercalate (rows.map (fillCells into)) := by
  induction rows with
  | nil => rfl
  | cons first rest ih =>
    cases rest with
    | nil => simp
    | cons second more =>
      rw [List.map_cons, List.map_cons, List.intercalate_cons_cons, List.intercalate_cons_cons,
        ← List.map_cons, ← ih]
      simp

end

/-- The rows of a template, with its choices made, between its line feeds. -/
def rowsOf (row : List Fragment) : List (List Cell) :=
  (cells (outline row)).splitOn (.fixed '\n')

theorem toList_text_weave (into : String → Woven) (row : List Fragment) :
    (weave into row).text.toList =
      fillCells (fun name => (into name).text.toList) (cells (outline row)) := by
  induction row with
  | nil => rfl
  | cons fragment rest ih =>
    cases fragment with
    | text text =>
      have split : cells (outline (.text text :: rest)) =
          text.toList.map .fixed ++ cells (outline rest) := rfl
      have own : (weave into (.text text :: rest)).text = text ++ (weave into rest).text := by
        simp [weave, Stretch.text]
      rw [own, String.toList_append, ih, split, fillCells_append, fillCells_map_fixed]
    | slot name =>
      have split : cells (outline (.slot name :: rest)) = .slot name :: cells (outline rest) := rfl
      have taken : (weave into (.slot name :: rest)).text =
          (into name).text ++ (weave into rest).text := Woven.text_append _ _
      rw [taken, String.toList_append, ih, split, fillCells_slot]

/-- A filled text is its rows with line feeds between them. -/
theorem text_weave_eq_intercalate (into : String → Woven) (row : List Fragment) :
    (weave into row).text.toList = ['\n'].intercalate
      ((rowsOf row).map (fillCells fun name => (into name).text.toList)) := by
  have joined : cells (outline row) = [.fixed '\n'].intercalate (rowsOf row) :=
    (List.intercalate_splitOn _).symm
  rw [toList_text_weave, joined, fillCells_intercalate]

/-- **A filled text is split row by row.** -/
theorem splitAtChar_text_weave (into : String → Woven) (row : List Fragment) :
    splitAtChar '\n' (weave into row).text.toList = (rowsOf row).flatMap fun cells =>
      splitAtChar '\n' (fillCells (fun name => (into name).text.toList) cells) := by
  have filled : rowsOf row ≠ [] := List.splitOn_ne_nil _ _
  rw [text_weave_eq_intercalate, splitAtChar,
    splitWhere_intercalate (by simp) (by simpa using filled), List.flatMap_map]
  rfl

/-! ## 2. The rows of an entry point -/

/-- The rows of an entry point. -/
def Target.entryRows (target : Target) : List (List Cell) :=
  rowsOf (target.dialect.templates.entry.row fun _ => false)

/-- A text without slots. -/
def spelled (text : String) : List Cell := text.toList.map .fixed

/-- How an entry point calls what holds the class. -/
def Target.holder : Target → String
  | .go => "client."
  | .rust => "client::"
  | .java | .python | .typescript => ""

/-- The rows before the listing. -/
def Target.headRows (target : Target) : List (List Cell) :=
  let comment := target.dialect.comment
  [spelled (comment ++ " Generated by apiforge from ") ++
      [.slot "title", .fixed ' ', .slot "version", .fixed '.'],
    spelled (comment ++ " Entry point for ") ++ [.slot "service_name", .fixed '.'],
    spelled comment,
    spelled (comment ++ " Operations available on " ++ target.holder) ++
      [.slot "class_name", .fixed ':']]

/-- The rows after the listing. -/
def Target.tailRows (target : Target) : List (List Cell) := (target.entryRows.drop 5).dropLast

/-- The slots of an entry point into which names and texts of a context come. -/
def contextSlots : List String := ["title", "version", "service_name", "class_name", "package"]

/-- A cell that stays on its line: no line feed and no carriage return, and no listing. -/
def Cell.IsSteady : Cell → Prop
  | .fixed c => c ≠ '\n' ∧ c ≠ '\r'
  | .slot name => name ∈ contextSlots

instance : DecidablePred Cell.IsSteady
  | .fixed c => inferInstanceAs (Decidable (c ≠ '\n' ∧ c ≠ '\r'))
  | .slot name => inferInstanceAs (Decidable (name ∈ contextSlots))

/-- The rows are those before the listing, the listing, steady ones after it, and an empty one. -/
def Target.AreEntry (target : Target) (rows : List (List Cell)) : Prop :=
  rows = target.headRows ++ [.slot "operations"] :: ((rows.drop 5).dropLast ++ [[]]) ∧
    ∀ row ∈ target.headRows ++ (rows.drop 5).dropLast, ∀ cell ∈ row, cell.IsSteady

instance (target : Target) (rows : List (List Cell)) : Decidable (target.AreEntry rows) :=
  inferInstanceAs (Decidable (_ ∧ _))

/-- **The rows of an entry point**: those before the listing, the listing, those after it, and what
is behind the last line feed. -/
theorem entry_rows (target : Target) :
    target.entryRows =
        target.headRows ++ [.slot "operations"] :: (target.tailRows ++ [[]]) ∧
      ∀ row ∈ target.headRows ++ target.tailRows, ∀ cell ∈ row, cell.IsSteady := by
  have of_spelled : ∀ woven, Spelled (fun _ => false) target.dialect.templates.entry woven →
      target.AreEntry ((cells woven).splitOn (.fixed '\n')) → target.AreEntry target.entryRows :=
    fun woven spelled h => by rwa [Target.entryRows, rowsOf, spelled.outline_eq]
  change target.AreEntry target.entryRows
  cases target
  all_goals
    apply of_spelled
    · repeat first
        | exact .nil | apply Spelled.slot | apply Spelled.text rfl | apply Spelled.no rfl
    · decide +kernel

theorem row_entry (target : Target) (chosen : String → Bool) :
    target.dialect.templates.entry.row chosen =
      target.dialect.templates.entry.row fun _ => false := by
  cases target <;> rfl

/-! ## 3. The lines of an entry point -/

/-- The text that comes into a slot of a file. -/
def slotChars (target : Target) (operations : List Operation) (context : EmitContext)
    (name : String) : List Char :=
  (intoFile target operations context name).text.toList

section

variable {target : Target} {operations : List Operation} {context : EmitContext}

theorem text_intoFile {name : String} (h : name ∉ ["methods", "aliases"]) :
    (intoFile target operations context name).text =
      (((fileBindings target.dialect operations context
        ((methodsOf target.dialect [] operations).map fun method =>
          (method.weave target.dialect context).text)).lookup name).map slotText).getD "" := by
  have none_given : (fileParts target operations context).lookup name = none := by
    simp only [List.mem_cons, List.not_mem_nil, or_false, not_or] at h
    simp [fileParts, TextMap.lookup_cons_eq_ite, h]
  simp [intoFile, boundTo, none_given, Stretch.text]

@[simp] theorem slotChars_title :
    slotChars target operations context "title" = context.title.toList :=
  congrArg String.toList (text_intoFile (by decide))

@[simp] theorem slotChars_version :
    slotChars target operations context "version" = context.version.toList :=
  congrArg String.toList (text_intoFile (by decide))

@[simp] theorem slotChars_service :
    slotChars target operations context "service_name" = context.serviceName.toList :=
  congrArg String.toList (text_intoFile (by decide))

@[simp] theorem slotChars_className :
    slotChars target operations context "class_name" = context.className.toList :=
  congrArg String.toList (text_intoFile (by decide))

@[simp] theorem slotChars_package :
    slotChars target operations context "package" = (target.dialect.package context).toList :=
  congrArg String.toList (text_intoFile (by decide))

@[simp] theorem slotChars_operations :
    slotChars target operations context "operations" =
      (operationComments target.dialect.comment operations).toList :=
  congrArg String.toList (text_intoFile (by decide))

/-- What comes into a slot for names and texts of a context stays on its line. -/
theorem slotChars_steady {document : Document} (made : context.Of document) :
    ∀ name ∈ contextSlots, ∀ c ∈ slotChars target operations context name, c ≠ '\n' ∧ c ≠ '\r' := by
  have inline : ∀ {text : List Char}, IsInline text → ∀ c ∈ text, c ≠ '\n' ∧ c ≠ '\r' := by
    intro text h c hc
    refine ⟨?_, ?_⟩ <;> rintro rfl <;> exact absurd (h.one_line _ hc rfl) (by decide)
  have small : ∀ {between : List Char} {name : String}, IsSmallName between name →
      '\n' ∉ between → '\r' ∉ between → ∀ c ∈ name.toList, c ≠ '\n' ∧ c ≠ '\r' := by
    intro between name h feed return_ c hc
    refine ⟨?_, ?_⟩ <;> rintro rfl <;> rcases h _ hc with letter | joins
    · cases letter
    · exact feed joins
    · cases letter
    · exact return_ joins
  have whole := made.wellFormed
  have named := made.named
  have service := small named.service (by decide) (by decide)
  simp only [contextSlots, List.forall_mem_cons, slotChars_title, slotChars_version,
    slotChars_service, slotChars_className, slotChars_package]
  refine ⟨inline whole.title, inline whole.version, service,
    inline whole.ofWordChars.isInline, ?_, List.forall_mem_nil _⟩
  cases target with
  | go | rust => exact service
  | java => exact small named.package (by decide) (by decide)
  | python | typescript => exact List.forall_mem_nil _

theorem splitAtChar_steady {document : Document} (made : context.Of document) {row : List Cell}
    (steady : ∀ cell ∈ row, cell.IsSteady) :
    splitAtChar '\n' (fillCells (slotChars target operations context) row) =
        [fillCells (slotChars target operations context) row] ∧
      dropReturn (fillCells (slotChars target operations context) row) =
        fillCells (slotChars target operations context) row := by
  have stays : ∀ c ∈ fillCells (slotChars target operations context) row,
      c ≠ '\n' ∧ c ≠ '\r' := by
    intro c hc
    obtain ⟨cell, hr, hc⟩ := List.mem_flatMap.mp hc
    cases cell with
    | fixed d =>
      obtain rfl := List.mem_singleton.mp hc
      exact steady _ hr
    | slot name => exact slotChars_steady made name (steady _ hr) c hc
  exact ⟨splitAtChar_eq_singleton fun feed => (stays _ feed).1 rfl,
    dropReturn_eq_self fun back => (stays _ back).2 rfl⟩

end

/-- The lines of comment with which an entry point begins. -/
def Target.heading (target : Target) (context : EmitContext) : List String :=
  let comment := target.dialect.comment
  [comment ++ " Generated by apiforge from " ++ context.title ++ " " ++ context.version ++ ".",
    comment ++ " Entry point for " ++ context.serviceName ++ ".",
    comment,
    comment ++ " Operations available on " ++ target.holder ++ context.className ++ ":"]

/-- The lines that list the operations. -/
def listingLines (comment : String) (operations : List Operation) : List (List Char) :=
  (splitAtChar '\n' (operationComments comment operations).toList).map dropReturn

/-- The lines with which an entry point ends. -/
def Target.closing (target : Target) (operations : List Operation) (context : EmitContext) :
    List (List Char) :=
  target.tailRows.map (fillCells (slotChars target operations context))

/-- **The lines of an entry point**: its heading, the listing, and its closing lines. -/
theorem lines_entry {document : Document} {context : EmitContext} (made : context.Of document)
    (target : Target) (operations : List Operation) :
    lines (weaveFile target operations context target.dialect.templates.entry).text.toList =
      (target.heading context).map String.toList ++
        listingLines target.dialect.comment operations ++ target.closing operations context := by
  obtain ⟨rows, steady⟩ := entry_rows target
  obtain ⟨before, after⟩ := List.forall_mem_append.mp steady
  let into := slotChars target operations context
  have alone : ∀ {rows : List (List Cell)}, (∀ row ∈ rows, ∀ cell ∈ row, cell.IsSteady) →
      rows.flatMap (fun row => splitAtChar '\n' (fillCells into row)) = rows.map (fillCells into) ∧
        (rows.map (fillCells into)).map dropReturn = rows.map (fillCells into) := by
    intro rows steady
    have split : ∀ row ∈ rows, splitAtChar '\n' (fillCells into row) = [fillCells into row] :=
      fun row hr => (splitAtChar_steady made (steady row hr)).1
    refine ⟨(List.flatMap_congr split).trans List.map_eq_flatMap.symm, ?_⟩
    rw [List.map_map]
    exact List.map_congr_left fun row hr => (splitAtChar_steady made (steady row hr)).2
  have heading : target.headRows.map (fillCells into) =
      (target.heading context).map String.toList := by
    simp [Target.headRows, Target.heading, spelled, into]
  have split : splitAtChar '\n'
      (weaveFile target operations context target.dialect.templates.entry).text.toList =
      (target.headRows.map (fillCells into) ++
        splitAtChar '\n' (operationComments target.dialect.comment operations).toList ++
        target.tailRows.map (fillCells into)) ++ [[]] := by
    have listing : fillCells into [.slot "operations"] =
        (operationComments target.dialect.comment operations).toList := by
      simp [into]
    refine (splitAtChar_text_weave (intoFile target operations context) _).trans ?_
    rw [row_entry, ← Target.entryRows, rows, List.flatMap_append, List.flatMap_cons,
      List.flatMap_append]
    change target.headRows.flatMap (fun row => splitAtChar '\n' (fillCells into row)) ++
      (splitAtChar '\n' (fillCells into [.slot "operations"]) ++
        (target.tailRows.flatMap (fun row => splitAtChar '\n' (fillCells into row)) ++ [[]])) = _
    rw [(alone before).1, (alone after).1, listing]
    simp
  rw [lines_of_split split, List.map_append, List.map_append, (alone before).2, (alone after).2,
    heading]
  simp [listingLines, Target.closing, into]

end Covenant.Client
