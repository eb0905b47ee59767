import Covenant.Proofs.Client.Apart
import Covenant.Proofs.Text.Occurrence
/-!
# Addresses

A method makes the path of its request by statements: the path is a literal at first, and then one
argument after another comes into it for the placeholder of its parameter.

* `render_pathStatements`: these statements stand in every method, one after another.
* `PathStatement.run` is what a language makes of a statement. In TypeScript only the first
  occurrence of the placeholder gives way, in the other languages every one.
* `replaced_alike_iff`: a statement has the same effect everywhere just if the path has its
  placeholder once at most.
* `addresses_agree`: all clients send the same path where no statement meets its placeholder twice
  and no argument is called like what makes a text of it; only then are they at the same path after
  each statement.
-/

namespace Covenant.Client

open Covenant.Contract Covenant.Json Covenant.Naming Covenant.Text

/-! ## 1. Statements -/

/-- A statement about the path of a request. -/
inductive PathStatement where
  | assign (literal : String)
  | replace (literal argument : String)
deriving Repr, DecidableEq

/-- What stands in the path for a parameter. -/
def placeholderOf (parameter : Parameter) : String := "\x7b" ++ parameter.name ++ "\x7d"

/-- The statements by which a method makes its path. -/
def Method.pathStatements (method : Method) : List PathStatement :=
  .assign method.path :: (atLocation .path method.parameters).map fun named =>
    .replace (placeholderOf named.parameter) named.name

/-- How a language writes the statements: what stands before, between and after their parts. -/
structure PathForm where
  assign : String × String
  replace : String × String × String

/-- How each target writes the statements. -/
def Target.pathForm : Target → PathForm
  | .go => ⟨("\tpath := \"", "\"\n"), "\tpath = strings.ReplaceAll(path, \"", "\", fmt.Sprint(",
      "))\n"⟩
  | .java => ⟨("        String path = \"", "\";\n"), "        path = path.replace(\"",
      "\", String.valueOf(", "));\n"⟩
  | .python => ⟨("        path = \"", "\"\n"), "        path = path.replace(\"", "\", str(",
      "))\n"⟩
  | .rust => ⟨("        let mut path = String::from(\"", "\");\n"),
      "        path = path.replace(\"", "\", &param_text(&", "));\n"⟩
  | .typescript => ⟨("    let path = \"", "\";\n"), "    path = path.replace(\"", "\", String(",
      "));\n"⟩

/-- A statement as a language writes it. -/
def PathStatement.write (form : PathForm) : PathStatement → String
  | .assign literal => form.assign.1 ++ literal ++ form.assign.2
  | .replace literal argument =>
    form.replace.1 ++ literal ++ form.replace.2.1 ++ argument ++ form.replace.2.2

/-- The path and the statements for its parameters stand together in the template of a method. -/
theorem path_infix_method (target : Target) :
    [.text target.pathForm.assign.1, .slot "path", .text target.pathForm.assign.2,
      .slot "path_params"] <:+: target.dialect.templates.method := by
  cases target <;> decide +kernel

theorem weave_pathParam (target : Target) (named : NamedParameter) :
    (target.dialect.templates.pathParam.weave named.bindings []).text =
      (PathStatement.replace (placeholderOf named.parameter) named.name).write target.pathForm := by
  have row : target.dialect.templates.pathParam = [.text target.pathForm.replace.1,
      .slot "placeholder", .text target.pathForm.replace.2.1, .slot "ident",
      .text target.pathForm.replace.2.2] := by
    cases target <;> rfl
  obtain ⟨ident, _, placeholder⟩ := boundTo_sending named
  rw [row]
  simp [Template.weave, Template.row, Piece.row, weave, ident, placeholder, Stretch.text,
    PathStatement.write, placeholderOf, String.append_assoc]

/-- **The statements that make its path stand in every method**, one after another. -/
theorem render_pathStatements (target : Target) (context : EmitContext) (method : Method) :
    ∃ before after, method.render target.dialect context = .ok
      (before ++ .join (method.pathStatements.map (·.write target.pathForm)) ++ after) := by
  obtain ⟨first, last, split⟩ := path_infix_method target
  have statements : (sending target.dialect.templates.pathParam
      (atLocation .path method.parameters)).text = .join ((atLocation .path method.parameters).map
        fun named => (PathStatement.replace (placeholderOf named.parameter) named.name).write
          target.pathForm) := by
    rw [sending, text_flatMap]
    exact congrArg String.join (List.map_congr_left fun named _ => weave_pathParam target named)
  rw [render_eq_weave, Method.weave, ← split, Template.weave_append, Template.weave_append,
    Woven.text_append, Woven.text_append]
  refine ⟨_, _, congrArg (fun text => Except.ok (_ ++ text ++ _)) ?_⟩
  simp [Template.weave, Template.row, Piece.row, weave, boundTo, Method.bindings, Method.sendings,
    TextMap.lookup_cons_eq_ite, slotText, Stretch.text, statements, Method.pathStatements,
    PathStatement.write, String.join_cons, String.append_assoc, Function.comp_def]

/-! ## 2. Replacements -/

/-- What TypeScript puts for an occurrence of `old`: a dollar sign means itself, the occurrence, or
what stands before or after it, as the next character says. -/
def expandDollars (before old after : List Char) : List Char → List Char
  | '$' :: '$' :: rest => '$' :: expandDollars before old after rest
  | '$' :: '&' :: rest => old ++ expandDollars before old after rest
  | '$' :: '\x60' :: rest => before ++ expandDollars before old after rest
  | '$' :: '\'' :: rest => after ++ expandDollars before old after rest
  | c :: rest => c :: expandDollars before old after rest
  | [] => []

/-- What a language makes of a text in which `new` comes for `old`. -/
def Target.replaceIn (target : Target) (old new s : List Char) : List Char :=
  match target with
  | .typescript =>
    match cutFirst? old s with
    | none => s
    | some (before, after) => before ++ (expandDollars before old after new ++ after)
  | .go | .java | .python | .rust => Text.replace old new s

theorem expandDollars_of_plain {before old after new : List Char} (plain : '$' ∉ new) :
    expandDollars before old after new = new := by
  induction new with
  | nil => rfl
  | cons c rest ih =>
    obtain ⟨other, later⟩ := not_or.mp (List.mem_cons.not.mp plain)
    rw [expandDollars, ih later]
    all_goals exact fun _ dollar _ => other dollar.symm

/-- A value that may be sent in a path: it has no braces and no dollar signs. -/
def IsPlainValue (value : List Char) : Prop := '\x7b' ∉ value ∧ '\x7d' ∉ value ∧ '$' ∉ value

instance (value : List Char) : Decidable (IsPlainValue value) :=
  inferInstanceAs (Decidable (_ ∧ _ ∧ _))

/-- After its first occurrence the text does not occur again. -/
def OccursOnce (old s : List Char) : Prop :=
  ∀ before after, cutFirst? old s = some (before, after) → cutFirst? old after = none

/-- **A replacement has the same effect everywhere just if there is one occurrence at most.** -/
theorem replaced_alike_iff {old new : List Char} (opened : '\x7b' ∈ old) (plain : IsPlainValue new)
    (s : List Char) :
    (∀ target : Target, target.replaceIn old new s = Text.replace old new s) ↔
      OccursOnce old s := by
  have only : (∀ target : Target, target.replaceIn old new s = Text.replace old new s) ↔
      Target.typescript.replaceIn old new s = Text.replace old new s :=
    ⟨fun all => all .typescript, fun same target => by cases target <;> first | rfl | exact same⟩
  rw [only, Target.replaceIn, replace_eq_cut new (List.ne_nil_of_mem opened), OccursOnce]
  cases cutFirst? old s with
  | none => simp
  | some parts =>
    obtain ⟨before, after⟩ := parts
    simp only [expandDollars_of_plain plain.2.2, List.append_cancel_left_eq, Option.some.injEq,
      Prod.mk.injEq, and_imp]
    rw [eq_comm, replace_eq_self_iff opened plain.1]
    exact ⟨fun none _ _ _ same => same ▸ none, fun all => all _ _ rfl rfl⟩

/-! ## 3. Replacements one after another -/

/-- The path after some replacements. -/
def Target.replaceAllIn (target : Target) (path : List Char)
    (pairs : List (List Char × List Char)) : List Char :=
  pairs.foldl (fun path pair => target.replaceIn pair.1 pair.2 path) path

/-- No replacement meets its text a second time, where each is made everywhere. -/
def EachOccursOnce (path : List Char) : List (List Char × List Char) → Prop
  | [] => True
  | (old, new) :: rest => OccursOnce old path ∧ EachOccursOnce (Text.replace old new path) rest

/-- **All languages come by the same texts just if no replacement meets its text a second time.** -/
theorem replaced_all_alike_iff {pairs : List (List Char × List Char)}
    (opened : ∀ pair ∈ pairs, '\x7b' ∈ pair.1) (plain : ∀ pair ∈ pairs, IsPlainValue pair.2)
    (path : List Char) :
    (∀ n, ∀ target other : Target, target.replaceAllIn path (pairs.take n) =
      other.replaceAllIn path (pairs.take n)) ↔ EachOccursOnce path pairs := by
  induction pairs generalizing path with
  | nil => simp [EachOccursOnce, Target.replaceAllIn]
  | cons pair rest ih =>
    obtain ⟨here, opened⟩ := List.forall_mem_cons.mp opened
    obtain ⟨value, plain⟩ := List.forall_mem_cons.mp plain
    rw [EachOccursOnce, ← ih opened plain, ← replaced_alike_iff here value path]
    constructor
    · intro all
      have first : ∀ target : Target, target.replaceIn pair.1 pair.2 path =
          Text.replace pair.1 pair.2 path := fun target => all 1 target .go
      refine ⟨first, fun n target other => ?_⟩
      have later := all (n + 1) target other
      simpa only [List.take_succ_cons, Target.replaceAllIn, List.foldl_cons, first] using later
    · rintro ⟨first, later⟩ n target other
      cases n with
      | zero => rfl
      | succ n =>
        have same := later n target other
        simpa only [List.take_succ_cons, Target.replaceAllIn, List.foldl_cons, first] using same

/-! ## 4. Running the statements -/

/-- The names that a statement for a path parameter mentions. -/
def Target.pathNames (target : Target) : List String :=
  target.namesOf target.dialect.templates.pathParam

/-- What a language makes of a statement: the path after it, if the method goes on. `reads` is how
the language reads what stands between double quotes. A method does not go on where one of its
arguments is called like something that the statement mentions. -/
def PathStatement.run (target : Target) (reads : String → Option String) (arguments : List String)
    (values : List (String × String)) (path : String) : PathStatement → Option String
  | .assign literal => reads literal
  | .replace literal argument =>
    if arguments.any target.pathNames.contains then none
    else do
      let old ← reads literal
      let new ← values.lookup argument
      return .ofList (target.replaceIn old.toList new.toList path.toList)

section

variable (reads : Target → String → Option String) (target : Target) (operation : Operation)
  (values : List String)

/-- The path after some statements of the method for an operation, with one value for each path
parameter. -/
def pathBy (statements : List PathStatement) : Option String :=
  let method := Method.alone target.dialect operation
  let names := (atLocation .path method.parameters).map (·.name)
  statements.foldlM (PathStatement.run target (reads target) (method.arguments.map (·.name))
    (names.zip values)) ""

/-- The path after the first `n` statements. -/
def pathAfter (n : Nat) : Option String :=
  pathBy reads target operation values
    ((Method.alone target.dialect operation).pathStatements.take n)

/-- The path after all statements. -/
def addressOf : Option String :=
  pathBy reads target operation values (Method.alone target.dialect operation).pathStatements

end

/-- An argument of the method is called like something that a statement for a path parameter
mentions. -/
def Captures (target : Target) (operation : Operation) : Prop :=
  ((Method.alone target.dialect operation).arguments.map (·.name)).any target.pathNames.contains =
    true

instance (target : Target) (operation : Operation) : Decidable (Captures target operation) :=
  inferInstanceAs (Decidable (_ = true))

/-- Values for the path parameters of an operation. -/
structure Fits (operation : Operation) (values : List String) : Prop where
  length : values.length = (operation.parametersIn .path).length
  plain : ∀ value ∈ values, IsPlainValue value.toList

/-- What the statements for the path parameters of an operation replace, and by what. -/
def replacements (operation : Operation) (values : List String) : List (List Char × List Char) :=
  ((operation.parametersIn .path).map fun parameter => (placeholderOf parameter).toList).zip
    (values.map String.toList)

/-- Statements that replace one after another, where nothing is captured. -/
theorem foldlM_replace {target : Target} {reads : String → Option String} {arguments : List String}
    {values : List (String × String)} {steps : List (NamedParameter × String)}
    (free : steps = [] ∨ ¬arguments.any target.pathNames.contains = true)
    (each : ∀ step ∈ steps, reads (placeholderOf step.1.parameter) =
        some (placeholderOf step.1.parameter) ∧ values.lookup step.1.name = some step.2)
    (path : String) :
    (steps.map fun step =>
      PathStatement.replace (placeholderOf step.1.parameter) step.1.name).foldlM
        (PathStatement.run target reads arguments values) path =
      some (.ofList (target.replaceAllIn path.toList (steps.map fun step =>
        ((placeholderOf step.1.parameter).toList, step.2.toList)))) := by
  induction steps generalizing path with
  | nil => simp [Target.replaceAllIn]
  | cons step rest ih =>
    obtain ⟨here, later⟩ := List.forall_mem_cons.mp each
    have free := free.resolve_left (List.cons_ne_nil _ _)
    have run : (PathStatement.replace (placeholderOf step.1.parameter) step.1.name).run target reads
        arguments values path = some (.ofList (target.replaceIn
          (placeholderOf step.1.parameter).toList step.2.toList path.toList)) := by
      rw [PathStatement.run, if_neg free, here.1, here.2]
      rfl
    rw [List.map_cons, List.foldlM_cons, run]
    refine (ih (.inr free) later _).trans ?_
    simp [Target.replaceAllIn]

/-! ## 5. Paths of one operation -/

section

variable (target : Target) (operation : Operation) (values : List String)

/-- The path parameters of a method with their values. -/
def pathSteps : List (NamedParameter × String) :=
  (atLocation .path (Method.alone target.dialect operation).parameters).zip values

theorem map_parameter_path :
    (atLocation .path (Method.alone target.dialect operation).parameters).map (·.parameter) =
      operation.parametersIn .path :=
  map_parameter_atLocation target.dialect operation [] (by decide)

theorem replacements_eq : replacements operation values =
    (pathSteps target operation values).map fun step =>
      ((placeholderOf step.1.parameter).toList, step.2.toList) := by
  rw [replacements, pathSteps, ← map_parameter_path target, List.map_map]
  exact List.zip_map

variable {values} (long : values.length = (operation.parametersIn .path).length)
include long

theorem map_fst_pathSteps : (pathSteps target operation values).map Prod.fst =
    atLocation .path (Method.alone target.dialect operation).parameters := by
  refine List.map_fst_zip ?_
  rw [long, ← map_parameter_path target, List.length_map]

theorem pathStatements_eq : (Method.alone target.dialect operation).pathStatements =
    .assign (inlineText operation.path) :: (pathSteps target operation values).map fun step =>
      .replace (placeholderOf step.1.parameter) step.1.name := by
  rw [Method.pathStatements, ← map_fst_pathSteps target operation long, List.map_map]
  rfl

/-- Each argument for a path parameter has its value: no two are called alike. -/
theorem lookup_pathSteps {step : NamedParameter × String}
    (hs : step ∈ pathSteps target operation values) :
    (((atLocation .path (Method.alone target.dialect operation).parameters).map (·.name)).zip
      values).lookup step.1.name = some step.2 := by
  have different := nameParameters_nodup target.dialect .nil (operation.parameters.filter takesName)
  rw [nameParameters_scope, List.append_nil, List.nodup_reverse] at different
  have names : ((atLocation .path (Method.alone target.dialect operation).parameters).map
      (·.name)).Nodup := different.sublist (List.filter_sublist.map _)
  rw [List.zip_map_left]
  refine lookup_of_mem ?_ (List.mem_map_of_mem (f := Prod.map (·.name) id) hs)
  rw [← map_fst_pathSteps target operation long, List.map_map] at names
  rw [List.map_map]
  exact names

end

section

variable {target : Target} {operation : Operation} {reads : Target → String → Option String}
  {values : List String} (long : values.length = (operation.parametersIn .path).length)
  (literal : reads target (inlineText operation.path) = some (inlineText operation.path))
  (readable : ∀ parameter ∈ operation.parametersIn .path,
    reads target (placeholderOf parameter) = some (placeholderOf parameter))
include long literal

section

include readable

/-- **The path after the literal and some replacements.** -/
theorem pathAfter_succ
    (free : operation.parametersIn .path = [] ∨ ¬Captures target operation) (n : Nat) :
    pathAfter reads target operation values (n + 1) = some (.ofList (target.replaceAllIn
      (inlineText operation.path).toList ((replacements operation values).take n))) := by
  rw [pathAfter, pathStatements_eq target operation long, List.take_succ_cons, ← List.map_take,
    pathBy, List.foldlM_cons, PathStatement.run, literal, replacements_eq target, ← List.map_take]
  refine foldlM_replace ?_ (fun step hs => ?_) _
  · refine free.imp_left fun none => ?_
    have no_steps : pathSteps target operation values = [] := by
      rw [← List.map_eq_nil_iff (f := Prod.fst), map_fst_pathSteps target operation long,
        ← List.map_eq_nil_iff (f := NamedParameter.parameter), map_parameter_path, none]
    rw [no_steps, List.take_nil]
  · have there := List.mem_of_mem_take hs
    refine ⟨readable _ ?_, lookup_pathSteps target operation long there⟩
    rw [← map_parameter_path target, ← map_fst_pathSteps target operation long]
    exact List.mem_map_of_mem (List.mem_map_of_mem there)

end

/-- **Where a name is captured, no argument comes into the path.** -/
theorem pathAfter_two_of_captures (some_path : operation.parametersIn .path ≠ [])
    (captured : Captures target operation) :
    pathAfter reads target operation values 2 = none := by
  obtain ⟨step, rest, steps⟩ : ∃ step rest, pathSteps target operation values = step :: rest := by
    refine List.exists_cons_of_ne_nil fun none => some_path ?_
    rw [← map_parameter_path target, ← map_fst_pathSteps target operation long, none]
    rfl
  have stops : ∀ path,
      (PathStatement.replace (placeholderOf step.1.parameter) step.1.name).run target (reads target)
        ((Method.alone target.dialect operation).arguments.map (·.name))
        (((atLocation .path (Method.alone target.dialect operation).parameters).map (·.name)).zip
          values) path = none := fun _ => if_pos captured
  rw [pathAfter, pathStatements_eq target operation long, steps, pathBy, List.take_succ_cons,
    List.foldlM_cons, PathStatement.run, literal, List.map_cons, List.take_succ_cons]
  exact (List.foldlM_cons ..).trans (congrArg (· >>= _) (stops _))

end

/-! ## 6. Addresses -/

/-- No name is captured, and no statement meets its placeholder a second time. -/
structure Unambiguous (operation : Operation) (values : List String) : Prop where
  free : operation.parametersIn .path = [] ∨ ∀ target, ¬Captures target operation
  once : EachOccursOnce (inlineText operation.path).toList (replacements operation values)

/-- **All clients are at the same path after each statement just if the statements are
unambiguous.** -/
theorem pathAfter_alike_iff {operation : Operation} {reads : Target → String → Option String}
    (literal : ∀ target,
      reads target (inlineText operation.path) = some (inlineText operation.path))
    (readable : ∀ target, ∀ parameter ∈ operation.parametersIn .path,
      reads target (placeholderOf parameter) = some (placeholderOf parameter))
    {values : List String} (fits : Fits operation values) :
    (∀ n, ∃ path, ∀ target, pathAfter reads target operation values n = some path) ↔
      Unambiguous operation values := by
  have opened : ∀ pair ∈ replacements operation values, '\x7b' ∈ pair.1 := by
    intro pair hp
    obtain ⟨parameter, _, named⟩ := List.mem_map.mp (List.of_mem_zip hp).1
    rw [← named, placeholderOf]
    simp
  have plain : ∀ pair ∈ replacements operation values, IsPlainValue pair.2 := by
    intro pair hp
    obtain ⟨value, hv, sent⟩ := List.mem_map.mp (List.of_mem_zip hp).2
    exact sent ▸ fits.plain value hv
  have after := fun target => pathAfter_succ fits.length (literal target) (readable target)
  constructor
  · intro all
    have free : operation.parametersIn .path = [] ∨ ∀ target, ¬Captures target operation := by
      refine or_iff_not_imp_left.mpr fun some_path target captured => ?_
      obtain ⟨path, same⟩ := all 2
      have none := pathAfter_two_of_captures fits.length (literal target) some_path captured
      exact nomatch none.symm.trans (same target)
    refine ⟨free, (replaced_all_alike_iff opened plain _).mp fun n target other => ?_⟩
    obtain ⟨path, same⟩ := all (n + 1)
    have here := fun target => (after target (free.imp_right fun none => none target) n).symm.trans
      (same target)
    exact String.ofList_injective (Option.some.inj ((here target).trans (here other).symm))
  · rintro ⟨free, once⟩ n
    cases n with
    | zero => exact ⟨"", fun _ => rfl⟩
    | succ n =>
      refine ⟨.ofList (Target.go.replaceAllIn (inlineText operation.path).toList
        ((replacements operation values).take n)), fun target => ?_⟩
      rw [after target (free.imp_right fun none => none target) n,
        (replaced_all_alike_iff opened plain _).mpr once n target .go]

/-- **The five clients address the same resource where their statements are unambiguous**, and only
then are they at the same path after each statement. The statements stand in every method as they
are run here; literals without double quotes, backslashes and ends of lines are read as they are. -/
theorem addresses_agree {isBreak : Char → Bool} (breaks : LineBreaks isBreak)
    {reads : Target → String → Option String}
    (plainly : ∀ target text, IsQuotable isBreak text → reads target text = some text)
    {operation : Operation}
    (quotable : ∀ parameter ∈ operation.parametersIn .path, IsQuotable isBreak parameter.name) :
    (∀ (target : Target) context scope, ∃ before after,
      (Method.ofOperation target.dialect operation scope).1.render target.dialect context = .ok
        (before ++ .join ((Method.alone target.dialect operation).pathStatements.map
          (·.write target.pathForm)) ++ after)) ∧
    ∀ values, Fits operation values →
      (Unambiguous operation values →
        ∃ address, ∀ target, addressOf reads target operation values = some address) ∧
      ((∀ n, ∃ path, ∀ target, pathAfter reads target operation values n = some path) ↔
        Unambiguous operation values) := by
  have literal : ∀ target, reads target (inlineText operation.path) =
      some (inlineText operation.path) := by
    have inlined := inlineText_isInline operation.path
    exact fun target => plainly target _ fun c hc =>
      ⟨inlined.no_quote c hc, inlined.no_break breaks c hc⟩
  have readable : ∀ target, ∀ parameter ∈ operation.parametersIn .path,
      reads target (placeholderOf parameter) = some (placeholderOf parameter) :=
    fun target parameter hp => plainly target _ ((isQuotable_placeholder breaks _).mpr
      (quotable parameter hp))
  refine ⟨fun target context scope => render_pathStatements target context
    (Method.ofOperation target.dialect operation scope).1, fun values fits => ?_⟩
  have alike := pathAfter_alike_iff literal readable fits
  refine ⟨fun clear => ?_, alike⟩
  obtain ⟨address, same⟩ := alike.mpr clear ((operation.parametersIn .path).length + 1)
  refine ⟨address, fun target => ?_⟩
  -- there is one statement for the literal, and one for each parameter
  have whole : (Method.alone target.dialect operation).pathStatements.take
      ((operation.parametersIn .path).length + 1) =
        (Method.alone target.dialect operation).pathStatements := by
    refine List.take_of_length_le ?_
    rw [Method.pathStatements, List.length_cons, List.length_map, ← List.length_map,
      map_parameter_path]
  rw [← same target, pathAfter, whole, addressOf]

/-- Literals of one line without double quotes and backslashes, read as they are. -/
def readPlainly (text : String) : Option String :=
  if IsQuotable (· == '\n') text then some text else none

/-- The path of a pet is the same in all languages, whatever its id. -/
theorem pet_addresses_agree :
    (∀ parameter ∈ (petOperation "id").parametersIn .path,
      IsQuotable (· == '\n') parameter.name) ∧
    ∀ value : String, IsPlainValue value.toList →
      Fits (petOperation "id") [value] ∧ Unambiguous (petOperation "id") [value] ∧
        ∃ address, ∀ target, addressOf (fun _ => readPlainly) target (petOperation "id") [value] =
          some address := by
  have quotable : ∀ parameter ∈ (petOperation "id").parametersIn .path,
      IsQuotable (· == '\n') parameter.name := by decide
  refine ⟨quotable, fun value plain => ?_⟩
  have fits : Fits (petOperation "id") [value] := ⟨rfl, by simpa using plain⟩
  have cut : cutFirst? "\x7bid\x7d".toList (inlineText "/pets/\x7bid\x7d").toList =
      some ("/pets/".toList, []) := by decide +kernel
  have clear : Unambiguous (petOperation "id") [value] := by
    refine ⟨.inr fun target => ?_, fun before after found => ?_, trivial⟩
    · cases target <;> decide +kernel
    · obtain ⟨_, rfl⟩ := Prod.mk.inj (Option.some.inj (cut.symm.trans found))
      rfl
  have plainly : ∀ (target : Target) text, IsQuotable (· == '\n') text →
      (fun _ => readPlainly) target text = some text := fun _ _ quotable => if_pos quotable
  exact ⟨fits, clear, ((addresses_agree lineBreaks_feed plainly quotable).2 _ fits).1 clear⟩

/-- An operation at a path that has its parameter twice. -/
def friendOperation : Operation :=
  { petOperation "id" with path := "/pets/\x7bid\x7d/friends/\x7bid\x7d" }

/-- A document with this operation. -/
def friendDocument : Document :=
  { petDocument "id" with
    paths := (petDocument "id").paths.map fun entry =>
      { entry with template := "/pets/\x7bid\x7d/friends/\x7bid\x7d" } }

/-- **In TypeScript the second occurrence of a parameter stays.** -/
theorem friend_addresses_differ :
    friendOperation ∈ friendDocument.extract none ∧ Fits friendOperation ["7"] ∧
      addressOf (fun _ => readPlainly) .go friendOperation ["7"] = some "/pets/7/friends/7" ∧
      addressOf (fun _ => readPlainly) .typescript friendOperation ["7"] =
        some "/pets/7/friends/\x7bid\x7d" ∧
      ¬∃ address, ∀ target,
        addressOf (fun _ => readPlainly) target friendOperation ["7"] = some address := by
  have every : addressOf (fun _ => readPlainly) .go friendOperation ["7"] =
      some "/pets/7/friends/7" := by decide +kernel
  have first : addressOf (fun _ => readPlainly) .typescript friendOperation ["7"] =
      some "/pets/7/friends/\x7bid\x7d" := by decide +kernel
  refine ⟨.head _, ⟨rfl, by decide⟩, every, first, ?_⟩
  rintro ⟨address, same⟩
  have alike := (every.symm.trans (same .go)).trans ((first.symm.trans (same .typescript)).symm)
  exact absurd (Option.some.inj alike) (by decide)

end Covenant.Client
