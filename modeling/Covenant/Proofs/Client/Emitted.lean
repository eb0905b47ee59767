import Covenant.Client.Emit
import Covenant.Proofs.Client.Woven
import Mathlib.Data.List.DropRight
/-!
# Generated files in stretches

Every file of a project is a filled template. What comes into its slots are texts made from the
contract, but for two slots of the client module: the methods, which are filled templates again, and
the aliases.

* `render_eq_weave`: every method is rendered, and its text is that of its stretches.
* `emit_eq_weave`: a project is generated from any operations, and these are its files.
-/

namespace Covenant.Client

open Covenant.Contract Covenant.Json Covenant.Text

/-! ## 1. Methods -/

/-- The statements that send parameters, in stretches. -/
def sending (template : Template) (parameters : List NamedParameter) : Woven :=
  parameters.flatMap fun named => template.weave named.bindings []

/-- The bindings of the template of a method. -/
def Method.bindings (dialect : Dialect) (context : EmitContext) (method : Method)
    (path query header : String) : Bindings :=
  let reply := dialect.reply method.returns
  let body := dialect.body method.body
  [
    ("owner", .text (dialect.owner context)),
    ("name", .text method.name),
    ("doc", .text method.doc),
    ("path", .text method.path),
    ("verb", .text method.verb),
    ("params", .text (dialect.arguments method.arguments)),
    ("returns", .text reply.returns),
    ("dispatch", .text reply.dispatch),
    ("body", .text body.expression),
    ("body_prelude", .text body.prelude),
    ("type_arg", .text reply.typeArgument),
    ("zero", .text reply.zero),
    ("typed", .flag method.returns.isSome),
    ("has_query", .flag (!(atLocation .query method.parameters).isEmpty)),
    ("path_params", .text path),
    ("query_params", .text query),
    ("header_params", .text header)]

/-- The statements of a method that send its parameters, by the slots into which they come. -/
def Method.sendings (templates : TemplateSet) (method : Method) : List (String × Woven) := [
  ("path_params", sending templates.pathParam (atLocation .path method.parameters)),
  ("query_params", sending templates.queryParam (atLocation .query method.parameters)),
  ("header_params", sending templates.headerParam (atLocation .header method.parameters))]

/-- A method in stretches. -/
def Method.weave (dialect : Dialect) (context : EmitContext) (method : Method) : Woven :=
  let text (template : Template) (location : Location) :=
    (sending template (atLocation location method.parameters)).text
  dialect.templates.method.weave
    (method.bindings dialect context (text dialect.templates.pathParam .path)
      (text dialect.templates.queryParam .query) (text dialect.templates.headerParam .header))
    (method.sendings dialect.templates)

/-- The slots of a statement that sends a parameter are bound. -/
theorem bound_sending (target : Target) :
    ∀ template ∈ [target.dialect.templates.pathParam, target.dialect.templates.queryParam,
      target.dialect.templates.headerParam],
    ∀ name ∈ template.slots, name ∈ ["ident", "wire", "placeholder", "optional"] := by
  cases target <;> decide +kernel

theorem bound_method (target : Target) :
    ∀ name ∈ target.dialect.templates.method.slots,
      name ∈ ["owner", "name", "doc", "path", "verb", "params", "returns", "dispatch", "body",
        "body_prelude", "type_arg", "zero", "typed", "has_query", "path_params", "query_params",
        "header_params"] := by
  cases target <;> decide +kernel

theorem fillEach_eq_sending (target : Target) (id : String) {template : Template}
    (h : template ∈ [target.dialect.templates.pathParam, target.dialect.templates.queryParam,
      target.dialect.templates.headerParam]) (parameters : List NamedParameter) :
    fillEach id template (parameters.map (·.bindings)) = .ok (sending template parameters).text :=
  fillEach_eq fun _ _ => fill_eq_weave (bound_sending target template h) (by simp)

/-- **Every method is rendered.** -/
theorem render_eq_weave (target : Target) (context : EmitContext) (method : Method) :
    method.render target.dialect context = .ok (method.weave target.dialect context).text := by
  have path := fillEach_eq_sending target (templateId target.dialect.target "path_param")
    (.head _) (atLocation .path method.parameters)
  have query := fillEach_eq_sending target (templateId target.dialect.target "query_param")
    (.tail _ (.head _)) (atLocation .query method.parameters)
  have header := fillEach_eq_sending target (templateId target.dialect.target "header_param")
    (.tail _ (.tail _ (.head _))) (atLocation .header method.parameters)
  have filled : ∀ bindings given, fillNamed (templateId target.dialect.target "method")
      target.dialect.templates.method bindings = .ok (Woven.text given) ↔
      target.dialect.templates.method.fill bindings = .ok (Woven.text given) :=
    fun _ _ => mapError_eq_ok_iff
  simp only [Method.render, path, query, header, bind, Except.bind, List.isEmpty_map]
  refine (filled _ _).mpr (fill_eq_weave (bound_method target) ?_)
  simp [Method.sendings, TextMap.lookup_cons_eq_ite]

theorem mapM_render_eq (target : Target) (context : EmitContext) (methods : List Method) :
    methods.mapM (·.render target.dialect context) =
      .ok (methods.map fun method => (method.weave target.dialect context).text) := by
  have each := mapM_map_eq_ok (g := id) fun method (_ : method ∈ methods) =>
    render_eq_weave target context method
  rwa [List.map_id] at each

/-! ## 2. Methods one after another -/

/-- Stretches without the line feeds at their end, if they end in a text of their own. -/
def trimmed : Woven → Woven
  | [] => []
  | [.own text] => [.own (trimEndOf '\n' text)]
  | stretch :: rest => stretch :: trimmed rest

@[simp] theorem trimmed_append_own (first : Woven) (text : List Char) :
    trimmed (first ++ [.own text]) = first ++ [.own (trimEndOf '\n' text)] := by
  induction first with
  | nil => rfl
  | cons stretch rest ih =>
    cases rest with
    | nil => cases stretch <;> rfl
    | cons second more => cases stretch <;> simpa [trimmed] using ih

/-- Line feeds at the end of a text are at the end of what does not consist of them. -/
theorem trimEndOf_append {first second : List Char} (h : ∃ c ∈ second, c ≠ '\n') :
    trimEndOf '\n' (first ++ second) = first ++ trimEndOf '\n' second := by
  obtain ⟨c, hc, other⟩ := h
  have kept : (second.reverse.dropWhile (· == '\n')).isEmpty = false := by
    rw [List.isEmpty_eq_false_iff, Ne, List.dropWhile_eq_nil_iff]
    exact fun all => other (by simpa using all c (by simpa using hc))
  simp [trimEndOf, List.dropWhile_append, kept]

/-- A row ends in a text that does not consist of line feeds. -/
def EndsSolid (row : List Fragment) : Prop :=
  ∃ first text, row = first ++ [.text text] ∧ ∃ c ∈ text.toList, c ≠ '\n'

theorem EndsSolid.append {row : List Fragment} (h : EndsSolid row) (before : List Fragment) :
    EndsSolid (before ++ row) := by
  obtain ⟨first, text, rfl, solid⟩ := h
  exact ⟨before ++ first, text, (List.append_assoc _ _ _).symm, solid⟩

/-- Such a row without the line feeds at its end is a row with the same slots. -/
theorem EndsSolid.exists_trimmed {row : List Fragment} (h : EndsSolid row) :
    ∃ shorter, (∀ into, trimmed (weave into row) = weave into shorter) ∧
      ∀ name, .slot name ∈ row → .slot name ∈ shorter := by
  obtain ⟨first, text, rfl, _⟩ := h
  refine ⟨first ++ [.text (.ofList (trimEndOf '\n' text.toList))], fun into => ?_, fun name => ?_⟩
  · have split : ∀ last, weave into (first ++ [.text last]) =
        weave into first ++ [.own last.toList] := fun last => by simp [weave]
    rw [split, split, trimmed_append_own, String.toList_ofList]
  · simp

/-- The stretches of such a row are trimmed as its text is. -/
theorem EndsSolid.text_trimmed {row : List Fragment} (h : EndsSolid row)
    (into : String → Woven) :
    (trimmed (weave into row)).text =
      .ofList (trimEndOf '\n' (weave into row).text.toList) := by
  obtain ⟨first, text, rfl, solid⟩ := h
  have split : weave into (first ++ [.text text]) = weave into first ++ [.own text.toList] := by
    simp [weave]
  rw [split, trimmed_append_own]
  simp [Stretch.text, trimEndOf_append solid, String.ofList_append]

theorem endsSolid_method (target : Target) (chosen : String → Bool) :
    EndsSolid (target.dialect.templates.method.row chosen) := by
  have solid : ∀ (row : List Fragment) (text : String) (c : Char),
      row = row.dropLast ++ [.text text] → c ∈ text.toList ∧ c ≠ '\n' → EndsSolid row :=
    fun _ _ c split solid => ⟨_, _, split, c, solid⟩
  have ends : ∀ (template : Template) (piece : Piece), template = template.dropLast ++ [piece] →
      EndsSolid (piece.row chosen) → EndsSolid (template.row chosen) := by
    intro template piece split solid
    rw [split, Template.row, List.flatMap_append, List.flatMap_singleton]
    exact solid.append _
  cases target with
  | go =>
    refine ends _ (.choice "typed" _ _) rfl ?_
    rw [Piece.row]
    split
    · exact solid _ "\x7d\n" '\x7d' rfl (by decide)
    · exact solid _ "\x7d\n" '\x7d' rfl (by decide)
  | java => exact ends _ (.text "    \x7d\n") rfl (solid _ _ '\x7d' rfl (by decide))
  | python => exact ends _ (.text ", headers)\n") rfl (solid _ _ ')' rfl (by decide))
  | rust => exact ends _ (.text "    \x7d\n") rfl (solid _ _ '\x7d' rfl (by decide))
  | typescript => exact ends _ (.text "  \x7d\n") rfl (solid _ _ '\x7d' rfl (by decide))

/-- Methods one after another, in stretches. -/
def weaveMethods (dialect : Dialect) (context : EmitContext) (methods : List Method) : Woven :=
  [Stretch.own ['\n', '\n']].intercalate
    (methods.map fun method => trimmed (method.weave dialect context))

theorem text_intercalate (sep : List Char) (wovens : List Woven) :
    Woven.text ([Stretch.own sep].intercalate wovens) =
      joinStrings (.ofList sep) (wovens.map Woven.text) := by
  induction wovens with
  | nil => simp [joinStrings]
  | cons first rest ih =>
    cases rest with
    | nil => simp [joinStrings]
    | cons second more =>
      have text : joinStrings (.ofList sep) ((first :: second :: more).map Woven.text) =
          first.text ++ (String.ofList sep ++ joinStrings (.ofList sep)
            ((second :: more).map Woven.text)) := by
        simp [joinStrings, String.intercalate_cons_of_ne_nil, String.append_assoc]
      rw [List.intercalate_cons_cons, Woven.text_append, Woven.text_append, ih, text]
      simp [Stretch.text, String.append_assoc]

theorem joinMethods_eq (target : Target) (context : EmitContext) (methods : List Method) :
    joinMethods (methods.map fun method => (method.weave target.dialect context).text) =
      (weaveMethods target.dialect context methods).text := by
  rw [weaveMethods, text_intercalate, joinMethods, List.map_map, List.map_map]
  refine congrArg (joinStrings "\n\n") (List.map_congr_left fun method _ => ?_)
  exact ((endsSolid_method target _).text_trimmed _).symm

/-! ## 3. Aliases -/

/-- The declaration of an alias, as a row with one slot name. -/
def Target.aliasRow : Target → List Fragment
  | .go => [.text "type ", .slot "name", .text " = ", .text Target.go.typeNames.aliasTarget,
      .text "\n"]
  | .java => []
  | .python => [.slot "name", .text " = ", .text Target.python.typeNames.aliasTarget, .text "\n"]
  | .rust => [.text "/// `", .slot "name", .text "` schema.\npub type ", .slot "name", .text " = ",
      .text Target.rust.typeNames.aliasTarget, .text ";\n"]
  | .typescript => [.text "export type ", .slot "name", .text " = ",
      .text Target.typescript.typeNames.aliasTarget, .text ";\n"]

/-- What separates aliases from the rest. -/
def Target.aliasEnd : Target → List Char
  | .java => []
  | .python => ['\n', '\n']
  | _ => ['\n']

/-- The aliases for named types, in stretches. -/
def weaveAliases (target : Target) (names : List String) : Woven :=
  if names.isEmpty then []
  else (names.flatMap fun name => weave (fun _ => [.taken name]) target.aliasRow) ++
    [.own target.aliasEnd]

theorem text_flatMap (wovens : α → Woven) (items : List α) :
    Woven.text (items.flatMap wovens) = .join (items.map fun item => (wovens item).text) := by
  induction items with
  | nil => rfl
  | cons first rest ih => simp [String.join_cons, ih]

theorem aliases_eq (target : Target) (names : List String) :
    target.dialect.aliases names = (weaveAliases target names).text := by
  have block : ∀ (declare : String → String) (separator : List Char),
      (∀ name, declare name = (weave (fun _ => [.taken name]) target.aliasRow).text) →
      separator = target.aliasEnd →
      aliasBlock declare (.ofList separator) names = (weaveAliases target names).text := by
    rintro declare _ each rfl
    unfold aliasBlock weaveAliases
    split
    · rfl
    · rw [Woven.text_append, text_flatMap, List.map_congr_left fun name _ => each name]
      simp [Stretch.text]
  cases target with
  | java =>
    have none : ∀ names : List String, names.flatMap (fun _ => ([] : Woven)) = [] :=
      fun _ => List.flatMap_eq_nil_iff.mpr fun _ _ => rfl
    unfold weaveAliases
    split
    · rfl
    · simp [Target.aliasRow, Target.aliasEnd, weave, none, Target.dialect, javaDialect,
        Stretch.text]
  | go =>
    refine block _ ['\n'] (fun name => ?_) rfl
    simp [Target.aliasRow, weave, Stretch.text, String.append_assoc]
  | python =>
    refine block _ ['\n', '\n'] (fun name => ?_) rfl
    simp [Target.aliasRow, weave, Stretch.text, String.append_assoc]
  | rust =>
    refine block _ ['\n'] (fun name => ?_) rfl
    simp [Target.aliasRow, weave, Stretch.text, String.append_assoc, rustAlias]
  | typescript =>
    refine block _ ['\n'] (fun name => ?_) rfl
    simp [Target.aliasRow, weave, Stretch.text, String.append_assoc]

/-! ## 4. Projects -/

/-- What comes in stretches into the slots of a file. -/
def fileParts (target : Target) (operations : List Operation) (context : EmitContext) :
    List (String × Woven) := [
  ("methods", weaveMethods target.dialect context (methodsOf target.dialect [] operations)),
  ("aliases", weaveAliases target (referencedNames operations).toList)]

/-- A file of a project in stretches. -/
def weaveFile (target : Target) (operations : List Operation) (context : EmitContext)
    (template : Template) : Woven :=
  let methods := methodsOf target.dialect [] operations
  template.weave
    (fileBindings target.dialect operations context
      (methods.map fun method => (method.weave target.dialect context).text))
    (fileParts target operations context)

/-- The files of a project by their role, in stretches. -/
def weaveProject (target : Target) (operations : List Operation) (context : EmitContext) :
    FileSet :=
  let templates := target.dialect.templates
  let layout := target.dialect.layout context
  let file (template : Template) := (weaveFile target operations context template).text
  ((TextMap.empty.insert layout.entry (file templates.entry)).insert layout.client
    (file templates.client)).insert layout.manifest (file templates.manifest)

theorem bound_file (target : Target) :
    ∀ template ∈ [target.dialect.templates.entry, target.dialect.templates.client,
      target.dialect.templates.manifest],
    ∀ name ∈ template.slots, name ∈ ["title", "version", "service_name", "class_name", "base_url",
      "package", "operations", "methods", "aliases"] := by
  cases target <;> decide +kernel

/-- **A project is generated from any operations.** -/
theorem emit_eq_weave (target : Target) (operations : List Operation) (context : EmitContext) :
    target.dialect.emit operations context = .ok (weaveProject target operations context) := by
  have methods := mapM_render_eq target context (methodsOf target.dialect [] operations)
  have file : ∀ id, ∀ template ∈ [target.dialect.templates.entry, target.dialect.templates.client,
      target.dialect.templates.manifest],
      fillNamed id template (fileBindings target.dialect operations context
        ((methodsOf target.dialect [] operations).map fun method =>
          (method.weave target.dialect context).text)) =
      .ok (weaveFile target operations context template).text := by
    intro id template ht
    refine mapError_eq_ok_iff.mpr (fill_eq_weave (bound_file target template ht) ?_)
    simp [fileParts, fileBindings, TextMap.lookup_cons_eq_ite, aliases_eq, joinMethods_eq]
  simp only [Dialect.emit, methods, bind, Except.bind, file _ _ (.head _),
    file _ _ (.tail _ (.head _)), file _ _ (.tail _ (.tail _ (.head _)))]
  rfl

end Covenant.Client
