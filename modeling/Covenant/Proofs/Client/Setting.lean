import Covenant.Proofs.Client.Emitted
/-!
# Where slots stand

What stands in a slot is read by a compiler as code, as part of a string or as part of a comment,
whichever the text of the template before it has opened.

* `Setting.next` reads a text of a template character by character. It knows strings in double
  quotes, and the comments of all target languages; everything else is code to it.
* `placed` are the texts in the slots of a text in stretches, each with the setting that the texts
  of the templates lead to.
* `placed_weave`: if what comes into each slot leaves the setting as it is, the texts of a filled
  row stand where the slots of the row stand.
* `keeps_client` and its like: where the slots of the templates stand, in every language.
-/

namespace Covenant.Client

/-! ## 1. Settings -/

/-- What a compiler takes the next character for: code, also after a slash; part of a string, also
after a backslash; part of a comment that ends with its line; part of a block comment, also after a
star. -/
inductive Setting where
  | code | slash | quoted | escaped | line | block | star
deriving Repr, DecidableEq

/-- The setting that a character of code leads to. With `hash` comments begin with `#`. -/
def Setting.open (hash : Bool) (c : Char) : Setting :=
  if c = '"' then .quoted
  else if hash then if c = '#' then .line else .code
  else if c = '/' then .slash else .code

/-- The setting after one more character. -/
def Setting.next (hash : Bool) (setting : Setting) (c : Char) : Setting :=
  match setting with
  | .code => .open hash c
  | .slash => if c = '/' then .line else if c = '*' then .block else .open hash c
  | .quoted => if c = '"' then .code else if c = '\\' then .escaped else .quoted
  | .escaped => .quoted
  | .line => if c = '\n' then .code else .line
  | .block => if c = '*' then .star else .block
  | .star => if c = '/' then .code else if c = '*' then .star else .block

/-- Comments of the target begin with `#`. -/
def Target.hash (target : Target) : Bool := target.dialect.comment == "#"

/-- The texts in slots, each with its setting; what is in a slot does not change the setting. -/
def placed (hash : Bool) : Setting → Woven → List (Setting × String)
  | _, [] => []
  | setting, .own text :: rest => placed hash (text.foldl (Setting.next hash) setting) rest
  | setting, .taken text :: rest => (setting, text) :: placed hash setting rest

/-- The setting after a text in stretches. -/
def ending (hash : Bool) : Setting → Woven → Setting
  | setting, [] => setting
  | setting, .own text :: rest => ending hash (text.foldl (Setting.next hash) setting) rest
  | setting, .taken _ :: rest => ending hash setting rest

section

variable {hash : Bool} {setting : Setting}

@[simp] theorem ending_append (first second : Woven) :
    ending hash setting (first ++ second) = ending hash (ending hash setting first) second := by
  induction first generalizing setting with
  | nil => rfl
  | cons stretch rest ih => cases stretch <;> exact ih

@[simp] theorem placed_append (first second : Woven) :
    placed hash setting (first ++ second) =
      placed hash setting first ++ placed hash (ending hash setting first) second := by
  induction first generalizing setting with
  | nil => rfl
  | cons stretch rest ih =>
    cases stretch with
    | own text => exact ih
    | taken text => exact congrArg _ ih

/-- What ends where it begins does so again. -/
theorem ending_flatMap {wovens : α → Woven} {items : List α}
    (each : ∀ item ∈ items, ending hash setting (wovens item) = setting) :
    ending hash setting (items.flatMap wovens) = setting := by
  induction items with
  | nil => rfl
  | cons first rest ih =>
    rw [List.flatMap_cons, ending_append, each first List.mem_cons_self]
    exact ih fun item hi => each item (List.mem_cons_of_mem _ hi)

theorem placed_flatMap {wovens : α → Woven} {items : List α}
    (each : ∀ item ∈ items, ending hash setting (wovens item) = setting) :
    placed hash setting (items.flatMap wovens) =
      items.flatMap fun item => placed hash setting (wovens item) := by
  induction items with
  | nil => rfl
  | cons first rest ih =>
    rw [List.flatMap_cons, placed_append, each first List.mem_cons_self,
      ih fun item hi => each item (List.mem_cons_of_mem _ hi), List.flatMap_cons]

/-! ## 2. Outlines -/

/-- A row with the name of each slot in it. -/
def outline (row : List Fragment) : Woven := weave (fun name => [.taken name]) row

theorem exists_placed_of_slot {name : String} {row : List Fragment} (h : .slot name ∈ row) :
    ∃ found, (found, name) ∈ placed hash setting (outline row) := by
  obtain ⟨before, after, rfl⟩ := List.append_of_mem h
  have split : outline (before ++ .slot name :: after) =
      outline before ++ .taken name :: outline after := by simp [outline, weave]
  exact ⟨ending hash setting (outline before), by simp [split, placed]⟩

/-- **Where the texts of a filled row stand**, if what comes into each slot leaves the setting as it
is. -/
theorem placed_weave {into : String → Woven} {row : List Fragment}
    (steady : ∀ site ∈ placed hash setting (outline row),
      ending hash site.1 (into site.2) = site.1) :
    placed hash setting (weave into row) =
        (placed hash setting (outline row)).flatMap (fun site => placed hash site.1 (into site.2)) ∧
      ending hash setting (weave into row) = ending hash setting (outline row) := by
  induction row generalizing setting with
  | nil => exact ⟨rfl, rfl⟩
  | cons fragment rest ih =>
    cases fragment with
    | text text => exact ih steady
    | slot name =>
      have here : ending hash setting (into name) = setting := steady (setting, name) (.head _)
      obtain ⟨texts, last⟩ := ih fun site hs => steady site (.tail _ hs)
      have split : weave into (.slot name :: rest) = into name ++ weave into rest := rfl
      rw [split, placed_append, ending_append, here, texts, last]
      exact ⟨rfl, rfl⟩

end

/-- The slots of an outline stand where they may, and after it there is code again. -/
structure Keeps (hash : Bool) (slots : Setting → List String) (outline : Woven) : Prop where
  sites : ∀ site ∈ placed hash .code outline, site.2 ∈ slots site.1
  closed : ending hash .code outline = .code

instance (hash : Bool) (slots : Setting → List String) (outline : Woven) :
    Decidable (Keeps hash slots outline) :=
  decidable_of_iff (_ ∧ _) ⟨fun h => ⟨h.1, h.2⟩, fun h => ⟨h.sites, h.closed⟩⟩

/-- **Texts stand in a filled row as its slots do**, if what comes into each slot leaves the setting
of the slot as it is. -/
theorem Keeps.placed_weave {hash : Bool} {slots : Setting → List String} {row : List Fragment}
    (h : Keeps hash slots (outline row)) {into : String → Woven}
    (steady : ∀ setting, ∀ name ∈ slots setting, ending hash setting (into name) = setting) :
    placed hash .code (weave into row) =
        (placed hash .code (outline row)).flatMap (fun site => placed hash site.1 (into site.2)) ∧
      ending hash .code (weave into row) = .code := by
  have each : ∀ site ∈ placed hash .code (outline row),
      ending hash site.1 (into site.2) = site.1 := fun site hs => steady _ _ (h.sites site hs)
  obtain ⟨texts, last⟩ := Client.placed_weave each
  exact ⟨texts, last.trans h.closed⟩

/-! ## 3. The templates -/

/-- Where the slots of a client module may stand. -/
def clientSlots : Setting → List String
  | .code => ["class_name", "package", "aliases", "methods"]
  | .quoted => ["base_url"]
  | .line | .block => ["title", "version", "class_name", "base_url"]
  | _ => []

/-- Where the slots of a method may stand. -/
def methodSlots : Setting → List String
  | .code => ["owner", "name", "params", "returns", "dispatch", "verb", "body", "body_prelude",
      "type_arg", "zero", "path_params", "query_params", "header_params"]
  | .quoted => ["doc", "path", "verb"]
  | .line | .block => ["name", "doc"]
  | _ => []

/-- Where the slots of a statement may stand that sends a parameter by some name. -/
def sendingSlots (by_ : String) : Setting → List String
  | .code => ["ident"]
  | .quoted => [by_]
  | _ => []

/-- Where the name of an alias may stand. -/
def aliasSlots : Setting → List String
  | .code | .line => ["name"]
  | _ => []

/-- A text or a slot as a piece of a template. -/
def Fragment.piece : Fragment → Piece
  | .text s => .text s
  | .slot name => .slot name

/-- The outline of a template with these choices, its texts spelled out. -/
inductive Spelled (chosen : String → Bool) : Template → Woven → Prop
  | nil : Spelled chosen [] []
  | text {text : String} {chars : List Char} {rest : Template} {woven : Woven}
      (h : String.ofList chars = text) (later : Spelled chosen rest woven) :
      Spelled chosen (.text text :: rest) (.own chars :: woven)
  | slot {name : String} {rest : Template} {woven : Woven} (later : Spelled chosen rest woven) :
      Spelled chosen (.slot name :: rest) (.taken name :: woven)
  | yes {name : String} {yes no : List Fragment} {rest : Template} {woven : Woven}
      (h : chosen name = true) (later : Spelled chosen (yes.map Fragment.piece ++ rest) woven) :
      Spelled chosen (.choice name yes no :: rest) woven
  | no {name : String} {yes no : List Fragment} {rest : Template} {woven : Woven}
      (h : chosen name = false) (later : Spelled chosen (no.map Fragment.piece ++ rest) woven) :
      Spelled chosen (.choice name yes no :: rest) woven

theorem row_pieces (chosen : String → Bool) (row : List Fragment) (rest : Template) :
    Template.row chosen (row.map Fragment.piece ++ rest) = row ++ rest.row chosen := by
  induction row with
  | nil => rfl
  | cons fragment more ih => cases fragment <;> exact congrArg _ ih

theorem Spelled.outline_eq {chosen : String → Bool} {template : Template} {woven : Woven}
    (h : Spelled chosen template woven) : outline (template.row chosen) = woven := by
  induction h with
  | nil => rfl
  | text h _ ih =>
    rw [← ih, ← h]
    simp [outline, weave, Template.row, Piece.row]
  | slot _ ih =>
    rw [← ih]
    simp [outline, weave, Template.row, Piece.row]
  | yes h _ ih =>
    rw [← ih, row_pieces, Template.row, List.flatMap_cons, Piece.row, if_pos h]
    rfl
  | no h _ ih =>
    rw [← ih, row_pieces, Template.row, List.flatMap_cons, Piece.row, if_neg (by simp [h])]
    rfl

section

variable {hash : Bool} {slots : Setting → List String} {chosen : String → Bool}
  {template : Template} {woven : Woven}

theorem Keeps.of_spelled (spelled : Spelled chosen template woven)
    (keeps : Keeps hash slots woven) : Keeps hash slots (outline (template.row chosen)) :=
  spelled.outline_eq ▸ keeps

theorem Keeps.of_trimmed (spelled : Spelled chosen template woven)
    (keeps : Keeps hash slots (trimmed woven)) :
    Keeps hash slots (trimmed (outline (template.row chosen))) :=
  spelled.outline_eq ▸ keeps

end

theorem keeps_client (target : Target) (chosen : String → Bool) :
    Keeps target.hash clientSlots (outline (target.dialect.templates.client.row chosen)) := by
  -- spelling is left to `rfl`, so that the reader runs over characters and not over literals
  cases target
  all_goals
    dsimp only [Target.dialect, goDialect, goClient, javaDialect, javaClient, pythonDialect,
      pythonClient, rustDialect, rustClient, typeScriptDialect, typeScriptClient]
    apply Keeps.of_spelled
    · repeat first | exact .nil | apply Spelled.slot | apply Spelled.text rfl
    · decide +kernel

theorem keeps_method (target : Target) (chosen : String → Bool) :
    Keeps target.hash methodSlots
      (trimmed (outline (target.dialect.templates.method.row chosen))) := by
  cases query : chosen "has_query" <;> cases typed : chosen "typed" <;> cases target
  all_goals
    dsimp only [Target.dialect, goDialect, goMethod, javaDialect, javaMethod, pythonDialect,
      pythonMethod, rustDialect, rustMethod, typeScriptDialect, typeScriptMethod]
    apply Keeps.of_trimmed
    · repeat first
        | exact .nil | apply Spelled.slot | apply Spelled.text rfl
        | (apply Spelled.yes; · assumption) | (apply Spelled.no; · assumption)
    · decide +kernel

theorem keeps_pathParam (target : Target) (chosen : String → Bool) :
    Keeps target.hash (sendingSlots "placeholder")
      (outline (target.dialect.templates.pathParam.row chosen)) := by
  cases target
  all_goals
    dsimp only [Target.dialect, goDialect, goPathParam, javaDialect, javaPathParam, pythonDialect,
      pythonPathParam, rustDialect, rustPathParam, typeScriptDialect, typeScriptPathParam]
    apply Keeps.of_spelled
    · repeat first | exact .nil | apply Spelled.slot | apply Spelled.text rfl
    · decide

theorem keeps_queryParam (target : Target) (chosen : String → Bool) :
    Keeps target.hash (sendingSlots "wire")
      (outline (target.dialect.templates.queryParam.row chosen)) := by
  cases optional : chosen "optional" <;> cases target
  all_goals
    dsimp only [Target.dialect, goDialect, goQueryParam, javaDialect, javaQueryParam,
      pythonDialect, pythonQueryParam, rustDialect, rustQueryParam, typeScriptDialect,
      typeScriptQueryParam]
    apply Keeps.of_spelled
    · repeat first
        | exact .nil | apply Spelled.slot | apply Spelled.text rfl
        | (apply Spelled.yes; · assumption) | (apply Spelled.no; · assumption)
    · decide

theorem keeps_headerParam (target : Target) (chosen : String → Bool) :
    Keeps target.hash (sendingSlots "wire")
      (outline (target.dialect.templates.headerParam.row chosen)) := by
  cases optional : chosen "optional" <;> cases target
  all_goals
    dsimp only [Target.dialect, goDialect, goHeaderParam, javaDialect, javaHeaderParam,
      pythonDialect, pythonHeaderParam, rustDialect, rustHeaderParam, typeScriptDialect,
      typeScriptHeaderParam]
    apply Keeps.of_spelled
    · repeat first
        | exact .nil | apply Spelled.slot | apply Spelled.text rfl
        | (apply Spelled.yes; · assumption) | (apply Spelled.no; · assumption)
    · decide

theorem keeps_alias (target : Target) : Keeps target.hash aliasSlots (outline target.aliasRow) := by
  cases target <;> decide

end Covenant.Client
