import Covenant.Proofs.Client.Contained
import Covenant.Proofs.Client.Entry
import Covenant.Proofs.Guard.Project
/-!
# Which files of a project are marked

A file is left alone by a scan if the marker of a generated client is in one of its first lines. Of
a project only the entry point and the client module are in a language that is scanned.

* `known_weaveProject_iff`: these two, and no others.
* `isMarked_client`: the client module is marked, whatever the contract says.
* `isMarked_entry_iff`: the entry point is marked just if a text of the contract brings the marker
  into its first five lines.
* `marked_iff`: both together, for every project that is generated from a contract.
-/

namespace Covenant.Guard

open Covenant.Client Covenant.Contract Covenant.Files Covenant.Files.Path Covenant.Naming
  Covenant.Text

/-! ## 1. Languages of files -/

/-- The language in which the code of a target is scanned. -/
def languageOf : Target → Language
  | .go => .go
  | .java => .java
  | .python => .python
  | .rust => .rust
  | .typescript => .typescript

/-- The language of a file by its name. -/
def ofFileName? (name : String) : Option Language :=
  (extensionOf? name).bind fun extension =>
    Language.all.find? (·.extensions.contains (lowerAscii extension))

theorem ofPath?_eq (path : String) : Language.ofPath? path = (fileName? path).bind ofFileName? := by
  simp only [Language.ofPath?, Path.extension?]
  exact Option.bind_assoc _ _ _

theorem extensionOf?_dot {name extension : String} (filled : name.toList ≠ [])
    (plain : '.' ∉ name.toList) (short : '.' ∉ extension.toList) :
    extensionOf? (name ++ "." ++ extension) = some extension := by
  have text : (name ++ "." ++ extension).toList = name.toList ++ '.' :: extension.toList := by simp
  rw [extensionOf?, text, splitAtChar_append, splitAtChar_eq_singleton plain,
    splitAtChar_eq_singleton short]
  simp [filled]

/-- **Entry point and client module are in the language of the target**, the manifest is in none. -/
theorem ofPath?_layout (target : Target) {context : EmitContext}
    (word : IsWord context.className.toList) :
    (target.dialect.layout context).keys.map Language.ofPath? =
      [some (languageOf target), some (languageOf target), none] := by
  have plain : '/' ∉ context.className.toList := fun slash =>
    absurd (word.chars _ slash) (by decide)
  have by_name : (target.dialect.layout context).keys.map Language.ofPath? =
      (target.fileNames context.className).map ofFileName? := by
    have named := congrArg (List.map (Option.bind · ofFileName?)) (fileName?_layout target plain)
    simpa [Function.comp_def, ← ofPath?_eq] using named
  rw [by_name]
  cases target with
  | go | python | rust | typescript =>
    change ([_, _, _] : List String).map ofFileName? = _
    decide
  | java =>
    have no_dot : '.' ∉ context.className.toList := fun dot =>
      absurd (word.chars _ dot) (by decide)
    have split : context.className ++ ".java" = context.className ++ "." ++ "java" := by
      rw [String.append_assoc]
      rfl
    have client : ofFileName? (context.className ++ ".java") = some .java := by
      rw [ofFileName?, split, extensionOf?_dot word.filled no_dot (by decide)]
      decide
    have others : ofFileName? "Main.java" = some .java ∧ ofFileName? "pom.xml" = none := by
      decide
    simp [Target.fileNames, client, others, languageOf]

/-! ## 2. The files of a project -/

section

variable {document : Document} {context : EmitContext} (made : context.Of document)
  (target : Target) (operations : List Operation)
include made

/-- **The files of a project in a known language**: its entry point and its client module. -/
theorem known_weaveProject_iff (file : String × String) :
    file ∈ (weaveProject target operations context).toList ∧ IsKnown file.1 ↔
      file = ((target.dialect.layout context).entry,
          (weaveFile target operations context target.dialect.templates.entry).text) ∨
        file = ((target.dialect.layout context).client,
          (weaveFile target operations context target.dialect.templates.client).text) := by
  have whole := made.wellFormed
  have languages := ofPath?_layout target whole.className
  simp only [Layout.keys, List.map_cons, List.map_nil, List.cons.injEq, and_true] at languages
  obtain ⟨entry, client, manifest⟩ := languages
  obtain ⟨at_entry, at_client, _⟩ := get?_weaveProject target operations whole
  have has_entry := TextMap.get?_eq_some_iff.mp at_entry
  have has_client := TextMap.get?_eq_some_iff.mp at_client
  obtain ⟨key, text⟩ := file
  constructor
  · rintro ⟨hm, known⟩
    have key_of := key_of_emit (emit_eq_weave target operations context) hm
    simp only [Layout.keys, List.mem_cons, List.not_mem_nil, or_false] at key_of
    rcases key_of with rfl | rfl | rfl
    · exact .inl (Prod.ext rfl (TextMap.value_unique hm has_entry))
    · exact .inr (Prod.ext rfl (TextMap.value_unique hm has_client))
    · simp [IsKnown, manifest] at known
  · rintro (e | e)
    · cases e
      exact ⟨has_entry, by simp [IsKnown, entry]⟩
    · cases e
      exact ⟨has_client, by simp [IsKnown, client]⟩

end

/-! ## 3. The client module -/

/-- The front of a client module. -/
def clientFront (target : Target) : List Fragment :=
  Template.row (fun _ => false) (target.dialect.templates.client.take 6)

theorem client_begins (target : Target) (chosen : String → Bool) :
    ∃ more, target.dialect.templates.client.row chosen = clientFront target ++ more := by
  refine ⟨Template.row chosen (target.dialect.templates.client.drop 6), ?_⟩
  have plain : Template.row chosen (target.dialect.templates.client.take 6) =
      clientFront target := by
    cases target <;> rfl
  rw [← plain, Template.row, Template.row, Template.row, ← List.flatMap_append,
    List.take_append_drop]

/-- The first row of a client module. -/
def clientTitle (target : Target) : List Cell :=
  spelled (target.dialect.comment ++ " Generated by apiforge from ") ++
    [.slot "title", .fixed ' ', .slot "version"] ++ spelled ". Do not edit."

/-- The second line of a client module. -/
def markerLine (target : Target) : String := target.dialect.comment ++ " " ++ clientMarker

theorem client_rows (target : Target) :
    rowsOf (clientFront target) = [clientTitle target, spelled (markerLine target), []] ∧
      ∀ cell ∈ clientTitle target, cell.IsSteady := by
  cases target <;> decide +kernel

theorem markerLine_marks (target : Target) :
    contains clientMarker.toList (dropReturn (markerLine target).toList) = true ∧
      splitAtChar '\n' (markerLine target).toList = [(markerLine target).toList] := by
  cases target <;> decide

/-- **A client module is marked**, whatever the contract says. -/
theorem isMarked_client {document : Document} {context : EmitContext}
    (made : context.Of document) (target : Target) (operations : List Operation) :
    isMarked (lines
        (weaveFile target operations context target.dialect.templates.client).text.toList) =
      true := by
  obtain ⟨rows, steady⟩ := client_rows target
  obtain ⟨marks, single⟩ := markerLine_marks target
  let title := fillCells (slotChars target operations context) (clientTitle target)
  obtain ⟨more, text⟩ : ∃ more,
      (weaveFile target operations context target.dialect.templates.client).text.toList =
        title ++ '\n' :: ((markerLine target).toList ++ '\n' :: more) := by
    obtain ⟨chosen, drawn⟩ : ∃ chosen,
        weaveFile target operations context target.dialect.templates.client =
          weave (intoFile target operations context)
            (target.dialect.templates.client.row chosen) := ⟨_, rfl⟩
    obtain ⟨row, begins⟩ := client_begins target chosen
    refine ⟨(weave (intoFile target operations context) row).text.toList, ?_⟩
    rw [drawn, begins, weave, List.flatMap_append, ← weave, ← weave, Woven.text_append,
      String.toList_append, text_weave_eq_intercalate, rows]
    simp [List.intercalate, spelled, title]
    rfl
  have pieces : splitAtChar '\n'
      (weaveFile target operations context target.dialect.templates.client).text.toList =
        [title, (markerLine target).toList] ++ splitAtChar '\n' more := by
    rw [text, splitAtChar_append, splitAtChar_append, single, (splitAtChar_steady made steady).1]
    rfl
  obtain ⟨later, begin⟩ := lines_of_split_append pieces (splitAtChar_ne_nil _ _)
  simp [isMarked, ← begin, markerLines, marks]

/-! ## 4. The entry point -/

/-- The texts that an operation brings onto the first line of its listing: its path, its id up to a
line feed, and its summary if the id has none. -/
def listedTexts (operation : Operation) : List String :=
  inlineText operation.path :: .ofList (operation.id.toList.takeWhile (· != '\n')) ::
    if '\n' ∈ operation.id.toList then [] else (summaryText? operation).toList

/-- The texts of a contract in the first five lines of an entry point. -/
def leadingTexts (document : Document) (operations : List Operation) : List String :=
  inlineText document.info.title :: inlineText document.info.version ::
    operations.head?.toList.flatMap listedTexts

/-- The text holds the marker. -/
def HoldsMarker (text : List Char) : Prop := clientMarker.toList <:+: text

/-- A space stands outside of the marker. -/
theorem holdsMarker_spaced {first second : List Char} :
    HoldsMarker (first ++ ' ' :: second) ↔ HoldsMarker first ∨ HoldsMarker second :=
  infix_append_cons_iff (by decide)

theorem holdsMarker_concat {text : List Char} {c : Char} (h : c ≠ 't') :
    HoldsMarker (text ++ [c]) ↔ HoldsMarker text :=
  infix_concat_iff (by simpa [clientMarker] using h.symm)

theorem holdsMarker_dropReturn {line : List Char} :
    HoldsMarker (dropReturn line) ↔ HoldsMarker line :=
  infix_dropReturn_iff (by decide)

instance : DecidablePred HoldsMarker := fun text =>
  inferInstanceAs (Decidable (clientMarker.toList <:+: text))

/-- A text on one line has no line feed. -/
theorem forall_ne_feed {text : List Char} (inline : IsInline text) :
    ∀ c ∈ text, (c != '\n') = true :=
  fun c hc => by simpa using inline.no_break lineBreaks_feed c hc

/-- What begins a listed operation holds no marker. -/
theorem not_holdsMarker_begin (target : Target) (verb : Verb) :
    ¬HoldsMarker (target.dialect.comment ++ "   " ++ verb.text).toList := by
  cases target <;> cases verb <;> decide

/-- The summary of an operation holds the marker just if what is listed of it does. -/
theorem holdsMarker_said_iff (operation : Operation) (text : List Char) :
    HoldsMarker (text ++ (((summaryText? operation).map (": " ++ ·)).getD "").toList) ↔
      HoldsMarker text ∨ ∃ summary ∈ summaryText? operation, HoldsMarker summary.toList := by
  cases summaryText? operation with
  | none => simp
  | some summary =>
    have spaced : text ++ (": " ++ summary).toList = (text ++ [':']) ++ ' ' :: summary.toList := by
      simp
    rw [Option.map_some, Option.getD_some, spaced, holdsMarker_spaced,
      holdsMarker_concat (by decide)]
    simp

/-- **When what is listed behind the path holds the marker**: the id up to a line feed, and the
summary if the id has none. -/
theorem holdsMarker_identified_iff (operation : Operation) :
    HoldsMarker ((operation.id.toList ++
        (((summaryText? operation).map (": " ++ ·)).getD "").toList).takeWhile (· != '\n')) ↔
      HoldsMarker (operation.id.toList.takeWhile (· != '\n')) ∨
        ∃ text ∈ if '\n' ∈ operation.id.toList then [] else (summaryText? operation).toList,
          HoldsMarker text.toList := by
  by_cases feed : '\n' ∈ operation.id.toList
  · obtain ⟨before, after, split⟩ := List.append_of_mem feed
    simp [split, List.takeWhile_append]
  · have id : ∀ c ∈ operation.id.toList, (c != '\n') = true := fun c hc => by
      simpa using fun e : c = '\n' => feed (e ▸ hc)
    have said : ∀ c ∈ (((summaryText? operation).map (": " ++ ·)).getD "").toList,
        (c != '\n') = true := by
      cases told : summaryText? operation with
      | none => simp
      | some summary => simpa using forall_ne_feed (isInline_summaryText told)
    rw [List.takeWhile_eq_self_iff.mpr (List.forall_mem_append.mpr ⟨id, said⟩),
      holdsMarker_said_iff, List.takeWhile_eq_self_iff.mpr id, if_neg feed]
    simp

/-- **When the first line of a listed operation holds the marker.** -/
theorem holdsMarker_listed_iff (target : Target) (operation : Operation) :
    HoldsMarker ((listedLine target.dialect.comment operation).takeWhile (· != '\n')) ↔
      ∃ text ∈ listedTexts operation, HoldsMarker text.toList := by
  let begin := (target.dialect.comment ++ "   " ++ operation.verb.text).toList
  let path := (inlineText operation.path).toList
  have line : listedLine target.dialect.comment operation =
      (begin ++ ' ' :: (path ++ [' '])) ++ (operation.id.toList ++
        (((summaryText? operation).map (": " ++ ·)).getD "").toList) := by
    simp [listedLine, operationComment, begin, path]
  have front : ∀ c ∈ begin ++ ' ' :: (path ++ [' ']), (c != '\n') = true := by
    have comment : ∀ c ∈ target.dialect.comment.toList, (c != '\n') = true := fun c hc => by
      simpa using no_break_comment lineBreaks_feed target c hc
    simp only [begin, String.toList_append, List.forall_mem_append, List.forall_mem_cons]
    exact ⟨⟨⟨comment, by simp⟩, forall_ne_feed (isInline_verb operation.verb)⟩, by simp,
      forall_ne_feed (inlineText_isInline operation.path), by simp⟩
  have spaced : ∀ rest, HoldsMarker ((begin ++ ' ' :: (path ++ [' '])) ++ rest) ↔
      HoldsMarker path ∨ HoldsMarker rest := by
    intro rest
    rw [List.append_assoc, List.cons_append, List.append_assoc, List.singleton_append,
      holdsMarker_spaced, holdsMarker_spaced,
      or_iff_right (not_holdsMarker_begin target operation.verb)]
  rw [line, List.takeWhile_append_of_pos front, spaced, holdsMarker_identified_iff, listedTexts,
    List.exists_mem_cons_iff, List.exists_mem_cons_iff, String.toList_ofList]

/-- **When the first line of the listing holds the marker.** -/
theorem exists_first_listed (target : Target) (operations : List Operation) :
    ∃ first more, listingLines target.dialect.comment operations = first :: more ∧
      (HoldsMarker first ↔
        ∃ text ∈ operations.head?.toList.flatMap listedTexts, HoldsMarker text.toList) := by
  obtain ⟨more, split⟩ := exists_splitAtChar_eq_cons '\n'
    (operationComments target.dialect.comment operations).toList
  refine ⟨_, more.map dropReturn, by rw [listingLines, split, List.map_cons], ?_⟩
  rw [holdsMarker_dropReturn]
  cases operations with
  | nil => simp [operationComments, joinStrings, show ¬HoldsMarker [] by decide]
  | cons operation rest =>
    obtain ⟨later, first⟩ := exists_splitAtChar_eq_cons '\n'
      (listedLine target.dialect.comment operation)
    have lines : splitAtChar '\n'
        (operationComments target.dialect.comment (operation :: rest)).toList = _ :=
      splitWhere_joinStrings lineBreaks_feed (by simp)
    rw [List.map_cons, List.flatMap_cons, ← splitAtChar, first, split] at lines
    rw [(List.cons.inj lines).1]
    simpa using holdsMarker_listed_iff target operation

/-- The first line of an entry point holds the marker just if title or version does. -/
theorem holdsMarker_generated_iff (target : Target) (title version : String) :
    HoldsMarker (target.dialect.comment ++ " Generated by apiforge from " ++ title ++ " " ++
        version ++ ".").toList ↔ HoldsMarker title.toList ∨ HoldsMarker version.toList := by
  have line : (target.dialect.comment ++ " Generated by apiforge from " ++ title ++ " " ++
      version ++ ".").toList =
        (target.dialect.comment ++ " Generated by apiforge from").toList ++ ' ' ::
          (title.toList ++ ' ' :: (version.toList ++ ['.'])) := by
    simp
  have begin : ¬HoldsMarker (target.dialect.comment ++ " Generated by apiforge from").toList := by
    cases target <;> decide
  rw [line, holdsMarker_spaced, or_iff_right begin, holdsMarker_spaced,
    holdsMarker_concat (by decide)]

/-- A line that names the service holds no marker, for a service name has no colon. -/
theorem not_holdsMarker_service {document : Document} {context : EmitContext}
    (named : context.Named document) (target : Target) :
    ¬HoldsMarker (target.dialect.comment ++ " Entry point for " ++ context.serviceName ++
      ".").toList := by
  have begin : ':' ∉ (target.dialect.comment ++ " Entry point for ").toList := by
    cases target <;> decide
  have service : ':' ∉ context.serviceName.toList := fun colon =>
    (named.service _ colon).elim (fun small => by cases small) (by decide)
  refine not_infix_of_mem (c := ':') (by decide) ?_
  rw [String.toList_append, String.toList_append, List.mem_append, List.mem_append]
  exact fun colon => colon.elim (fun colon => colon.elim begin service) (by decide)

/-- A line that names the class holds no marker, for a class name has no hyphen. -/
theorem not_holdsMarker_class {context : EmitContext} (word : IsWord context.className.toList)
    (target : Target) :
    ¬HoldsMarker (target.dialect.comment ++ " Operations available on " ++ target.holder ++
      context.className ++ ":").toList := by
  have begin : '-' ∉ (target.dialect.comment ++ " Operations available on " ++
      target.holder).toList := by
    cases target <;> decide
  have class_name : '-' ∉ context.className.toList := fun hyphen =>
    absurd (word.chars _ hyphen) (by decide)
  refine not_infix_of_mem (c := '-') (by decide) ?_
  rw [String.toList_append, String.toList_append, List.mem_append, List.mem_append]
  exact fun hyphen => hyphen.elim (fun hyphen => hyphen.elim begin class_name) (by decide)

/-- Of the lines before the listing only the first may hold the marker, in title or version. -/
theorem holdsMarker_heading_iff {document : Document} {context : EmitContext}
    (named : context.Named document) (word : IsWord context.className.toList) (target : Target) :
    (∃ line ∈ target.heading context, HoldsMarker line.toList) ↔
      HoldsMarker context.title.toList ∨ HoldsMarker context.version.toList := by
  have plain : ¬HoldsMarker target.dialect.comment.toList := by
    cases target <;> decide
  simp only [Target.heading, List.exists_mem_cons_iff, List.not_mem_nil, false_and, exists_false,
    or_false]
  rw [holdsMarker_generated_iff, or_iff_left_iff_imp]
  rintro (held | held | held)
  · exact absurd held (not_holdsMarker_service named target)
  · exact absurd held plain
  · exact absurd held (not_holdsMarker_class word target)

/-- **When an entry point is marked**: if one of the texts of the contract in its first five lines
holds the marker. -/
theorem isMarked_entry_iff {document : Document} {context : EmitContext}
    (made : context.Of document) (target : Target) (operations : List Operation) :
    isMarked (lines
        (weaveFile target operations context target.dialect.templates.entry).text.toList) = true ↔
      ∃ text ∈ leadingTexts document operations, containsString clientMarker text = true := by
  obtain ⟨first, more, listing, listed⟩ := exists_first_listed target operations
  have begins : (lines (weaveFile target operations context
      target.dialect.templates.entry).text.toList).take markerLines =
        (target.heading context).map String.toList ++ [first] := by
    rw [lines_entry made, listing]
    simp [Target.heading, markerLines]
  have marks : ∀ line : List Char, contains clientMarker.toList line = true ↔ HoldsMarker line :=
    fun _ => contains_iff
  have named := made.named
  have heading := holdsMarker_heading_iff named made.wellFormed.className target
  rw [named.title, named.version] at heading
  rw [isMarked, begins, List.any_append, Bool.or_eq_true, List.any_map, List.any_eq_true]
  simp only [Function.comp_apply, marks, heading, List.any_cons, List.any_nil, Bool.or_false,
    listed, containsString, leadingTexts, List.exists_mem_cons_iff, or_assoc]

/-- **Which files of a project are exempt from a scan.** Of the two files in a known language the
client module always is. The entry point is so only if a text of the contract brings the marker into
its first lines: its title, its version, or path, id or summary of the first operation. -/
theorem marked_iff {document : Document} {context : EmitContext} (made : context.Of document)
    {language : String} {target : Target} (meant : Target.resolve? language = some target)
    (operations : List Operation) :
    ∃ files entry client, emit operations language context = .ok files ∧
      (∀ file : String × String, file ∈ files.toList ∧ IsKnown file.1 ↔
        file = ((target.dialect.layout context).entry, entry) ∨
          file = ((target.dialect.layout context).client, client)) ∧
      isMarked (lines client.toList) = true ∧
      (isMarked (lines entry.toList) = true ↔
        ∃ text ∈ leadingTexts document operations, containsString clientMarker text = true) := by
  refine ⟨weaveProject target operations context, _, _, ?_,
    known_weaveProject_iff made target operations, isMarked_client made target operations,
    isMarked_entry_iff made target operations⟩
  simp only [emit, meant, emit_eq_weave]
  rfl

/-- Of a contract whose texts do not hold the marker only the client module is exempt. -/
theorem pets_entry_unmarked :
    Target.resolve? "typescript" = some .typescript ∧
      ∃ files entry client, emit ((titled "Pets").extract none) "typescript"
          (.ofDocument (titled "Pets")) = .ok files ∧
        (∀ file : String × String, file ∈ files.toList ∧ IsKnown file.1 ↔
          file = ("src/index.ts", entry) ∨ file = ("src/api.ts", client)) ∧
        isMarked (lines client.toList) = true ∧ isMarked (lines entry.toList) = false := by
  have meant : Target.resolve? "typescript" = some .typescript := resolve?_id .typescript
  have plain : ¬∃ text ∈ leadingTexts (titled "Pets") ((titled "Pets").extract none),
      containsString clientMarker text = true := by decide
  obtain ⟨files, entry, client, emitted, known, marked, entry_iff⟩ :=
    marked_iff .given meant ((titled "Pets").extract none)
  exact ⟨meant, files, entry, client, emitted, known, marked,
    Bool.eq_false_iff.mpr fun held => plain (entry_iff.mp held)⟩

/-- A contract whose title holds the marker. -/
def markerDocument : Document := titled "XMLHttpRequest apiforge:network-client"

/-- Its entry point is exempt as well. -/
theorem marker_title_exempt :
    ∃ files entry, emit (markerDocument.extract none) "typescript"
        (.ofDocument markerDocument) = .ok files ∧
      ("src/index.ts", entry) ∈ files.toList ∧ IsKnown "src/index.ts" ∧
      isMarked (lines entry.toList) = true := by
  have made : EmitContext.Of markerDocument (.ofDocument markerDocument) := .given
  have meant : Target.resolve? "typescript" = some .typescript := resolve?_id .typescript
  obtain ⟨there, known⟩ := (known_weaveProject_iff made .typescript
    (markerDocument.extract none) _).mpr (.inl rfl)
  refine ⟨_, _, ?_, there, known, (isMarked_entry_iff made .typescript _).mpr ?_⟩
  · simp only [emit, meant, emit_eq_weave]
    rfl
  · exact ⟨_, .head _, by decide⟩

end Covenant.Guard
