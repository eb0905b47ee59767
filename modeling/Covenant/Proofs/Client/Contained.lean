import Covenant.Proofs.Client.Layout
import Covenant.Proofs.Client.Placed
/-!
# Texts that cannot end where they stand

A text of a contract could end the string or the comment in which it stands, and what comes after it
in the text would become code.

* `get?_weaveProject`: the files of a project by their roles.
* `exists_client`: a client module is generated whatever the contract says.
* `client_contained_iff`: no text of the contract ends what it stands in, just if the names of path
  parameters hold no double quote, no backslash and no end of a line.
-/

namespace Covenant.Client

open Covenant.Contract Covenant.Naming Covenant.Text

/-! ## 1. Client modules -/

/-- The files of a project by their roles. -/
theorem get?_weaveProject (target : Target) (operations : List Operation) {context : EmitContext}
    (well : context.WellFormed) :
    let files := weaveProject target operations context
    let file (template : Template) := some (weaveFile target operations context template).text
    files.get? (target.dialect.layout context).entry = file target.dialect.templates.entry ∧
      files.get? (target.dialect.layout context).client = file target.dialect.templates.client ∧
      files.get? (target.dialect.layout context).manifest =
        file target.dialect.templates.manifest := by
  have distinct := keys_nodup target well
  simp only [Layout.keys, List.nodup_cons, List.mem_cons, List.not_mem_nil, or_false, not_or,
    not_false_eq_true, List.nodup_nil, and_true] at distinct
  obtain ⟨⟨client, manifest⟩, last⟩ := distinct
  simp [weaveProject, TextMap.get?_insert, client, manifest, last]

/-- **A client module is generated whatever the contract says**, and its text is that of its
stretches. -/
theorem exists_client {document : Document} {context : EmitContext} (made : context.Of document)
    (operations : List Operation) {language : String} {target : Target}
    (meant : Target.resolve? language = some target) :
    ∃ files, emit operations language context = .ok files ∧
      files.get? (target.dialect.layout context).client = some
        (weaveFile target operations context target.dialect.templates.client).text := by
  refine ⟨weaveProject target operations context, ?_,
    (get?_weaveProject target operations made.wellFormed).2.1⟩
  simp only [emit, meant, emit_eq_weave]
  rfl

/-! ## 2. Texts that cannot end where they stand -/

/-- A text without double quotes, backslashes and ends of lines. -/
def IsQuotable (isBreak : Char → Bool) (text : String) : Prop :=
  ∀ c ∈ text.toList, endsLiteral c = false ∧ isBreak c = false

instance (isBreak : Char → Bool) (text : String) : Decidable (IsQuotable isBreak text) :=
  List.decidableBAll _ text.toList

/-- A text that does not end what it stands in: between quotes it is quotable; in a comment it ends
neither the line nor the comment. -/
def Contained (isBreak : Char → Bool) : Setting × String → Prop
  | (.code, _) | (.slash, _) => True
  | (.quoted, text) | (.escaped, text) => IsQuotable isBreak text
  | (.line, text) | (.block, text) | (.star, text) =>
    (∀ c ∈ text.toList, isBreak c = false) ∧ ¬['*', '/'] <:+: text.toList

section

variable {isBreak : Char → Bool} (breaks : LineBreaks isBreak)
include breaks

theorem contained_of_isInline {text : String} (h : IsInline text.toList) (setting : Setting) :
    Contained isBreak (setting, text) := by
  have one_line := h.no_break breaks
  cases setting with
  | code | slash => trivial
  | quoted | escaped => exact fun c hc => ⟨h.no_quote c hc, one_line c hc⟩
  | line | block | star => exact ⟨one_line, h.no_end⟩

/-- A placeholder is as quotable as the name in it. -/
theorem isQuotable_placeholder (name : String) :
    IsQuotable isBreak ("\x7b" ++ name ++ "\x7d") ↔ IsQuotable isBreak name := by
  have brace : ∀ c ∈ ['\x7b', '\x7d'], endsLiteral c = false ∧ isBreak c = false := by
    intro c hc
    have solid : endsLiteral c = false ∧ isBlank c = false := by
      rcases List.mem_pair.mp hc with rfl | rfl <;> decide
    refine ⟨solid.1, Bool.eq_false_iff.mpr fun ends => ?_⟩
    exact Bool.false_ne_true (solid.2.symm.trans (breaks.blank c ends))
  simp only [List.forall_mem_cons] at brace
  simp [IsQuotable, brace.1, brace.2.1, or_imp, forall_and]

/-- **No text of a contract ends what it stands in, just if the names of path parameters are
quotable.** -/
theorem client_contained_iff {document : Document} {filter : Option TextSet}
    {operations : List Operation} (extracted : document.operations filter = .ok operations)
    {context : EmitContext} (made : context.Of document) {language : String} {target : Target}
    (meant : Target.resolve? language = some target) :
    ∃ files, emit operations language context = .ok files ∧
      files.get? (target.dialect.layout context).client = some
        (weaveFile target operations context target.dialect.templates.client).text ∧
      ((∀ site ∈ placed target.hash .code
          (weaveFile target operations context target.dialect.templates.client),
          Contained isBreak site) ↔
        ∀ operation ∈ operations, ∀ parameter ∈ operation.parametersIn .path,
          IsQuotable isBreak parameter.name) := by
  obtain ⟨files, emitted, client⟩ := exists_client made operations meant
  refine ⟨files, emitted, client, ?_⟩
  rw [client_placed (fun _ => trivial) (fun setting _ h => contained_of_isInline breaks h setting)
    target made.wellFormed (ofWordChars_referencedNames extracted)]
  simp only [Contained, isQuotable_placeholder breaks]

end

/-- A document with one operation at a path with this parameter. -/
def petDocument (name : String) : Document where
  openapi := none
  info := ⟨"Pets", "1", none⟩
  servers := []
  paths := [⟨"/pets/\x7bid\x7d", ⟨some ⟨some "getPet", none, [],
    [⟨some name, some .path, true, none, none⟩], none, .empty⟩, none, none, none, none, []⟩⟩]
  schemas := .empty

/-- The client module for this document in TypeScript. -/
def petModule (name : String) : Woven :=
  weaveFile .typescript ((petDocument name).extract none) (.ofDocument (petDocument name))
    Target.typescript.dialect.templates.client

/-- Texts around a plain placeholder end nowhere. -/
theorem client_contained_getPet :
    ∃ operations files, (petDocument "id").operations none = .ok operations ∧
      emit operations "typescript" (.ofDocument (petDocument "id")) = .ok files ∧
      files.get? "src/api.ts" = some (petModule "id").text ∧
      ∀ site ∈ placed false .code (petModule "id"), Contained (· == '\n') site := by
  have extracted : (petDocument "id").operations none = .ok ((petDocument "id").extract none) := rfl
  have meant : Target.resolve? "typescript" = some .typescript := resolve?_id .typescript
  have comments : Target.typescript.hash = false := by decide +kernel
  obtain ⟨files, emitted, client, contained⟩ :=
    client_contained_iff lineBreaks_feed extracted .given meant
  exact ⟨_, files, extracted, emitted, client, comments ▸ contained.mpr (by decide +kernel)⟩

/-- A name that ends a string and begins another. -/
def callName : String := "id\" + evil() + \""

/-- A parameter's name ends the string in which its placeholder stands. -/
theorem evil_placeholder_placed :
    ∃ operations files, (petDocument callName).operations none = .ok operations ∧
      emit operations "typescript" (.ofDocument (petDocument callName)) = .ok files ∧
      files.get? "src/api.ts" = some (petModule callName).text ∧
      (.quoted, "\x7b" ++ callName ++ "\x7d") ∈ placed false .code (petModule callName) ∧
      ¬Contained (· == '\n') (.quoted, "\x7b" ++ callName ++ "\x7d") := by
  have extracted : (petDocument callName).operations none =
    .ok ((petDocument callName).extract none) := rfl
  have meant : Target.resolve? "typescript" = some .typescript := resolve?_id .typescript
  have comments : Target.typescript.hash = false := by decide +kernel
  obtain ⟨files, emitted, client⟩ :=
    exists_client .given ((petDocument callName).extract none) meant
  have ended : ¬IsQuotable (· == '\n') ("\x7b" ++ callName ++ "\x7d") := by decide +kernel
  refine ⟨_, files, extracted, emitted, client, comments ▸ ?_, ended⟩
  refine placeholder_placed .typescript EmitContext.Of.given.wellFormed
    (ofWordChars_referencedNames extracted) (.head _) (.head _) fun inlined => ended ?_
  exact fun c hc => ⟨inlined.no_quote c hc, inlined.no_break lineBreaks_feed c hc⟩

end Covenant.Client
