import Covenant.Client.Emit
import Covenant.Proofs.Client.Context
import Covenant.Proofs.Files.Names
import Covenant.Proofs.Text.Blank
import Covenant.Proofs.Text.Ordered
import Mathlib.Data.List.Nodup
/-!
# Where the files of a project lie

* `names_language`: a language is named by one part of a path, so each has a folder of its own.
* `fileNames_nodup`: the files of a project differ in their file names, whatever the contract is
  called.
* `key_of_emit` and `eq_of_fileName?`: the keys of a project are those of its layout, so a file is
  known by its file name.
* `keys_eq_places`: the keys of a layout are rows of names, and the parts of a Java package are
  among them.
* `areKeyed_of_emit`: so the files of a project stand under rows of names, no two under one.
-/

namespace Covenant.Client

open Covenant.Files Covenant.Files.Path Covenant.Naming Covenant.Text

/-! ## 1. Class names -/

/-- **A class name is one part of a path, and it is not the name of the entry point.** -/
theorem apiClassName_plain (title : String) :
    '/' ∉ (apiClassName title).toList ∧ apiClassName title ≠ "Main" := by
  obtain ⟨word, other⟩ := apiClassName_isWord title
  exact ⟨fun slash => absurd (word.chars _ slash) (by decide), other⟩

theorem className_override (context : EmitContext) (service package url : Option String) :
    (context.override service package url).className = context.className := by
  have named : ∀ (context : EmitContext) name,
      (context.withServiceName name).className = context.className := fun context name => by
    unfold EmitContext.withServiceName
    dsimp only
    split <;> rfl
  have packaged : ∀ (context : EmitContext) name,
      (context.withPackageName name).className = context.className := fun context name => by
    unfold EmitContext.withPackageName
    split <;> rfl
  have based : ∀ (context : EmitContext) address,
      (context.withBaseUrl address).className = context.className := fun context address => by
    unfold EmitContext.withBaseUrl
    dsimp only
    split <;> rfl
  unfold EmitContext.override
  cases service <;> cases package <;> cases url <;> simp [named, packaged, based]

/-! ## 2. File names -/

/-- The paths of the files of a layout. -/
def Layout.keys (layout : Layout) : List String := [layout.entry, layout.client, layout.manifest]

/-- The file of a class is one part of a path. -/
theorem isPart_javaFile {className : String} (plain : '/' ∉ className.toList) :
    IsPart (className ++ ".java") := by
  have long : 2 < (className ++ ".java").toList.length := by simp
  refine isPart_of_ne ?_ ?_ ?_ (by simpa using plain) <;>
  · rintro e
    rw [e] at long
    exact absurd long (by decide)

/-- No class has its file where the manifest is. -/
theorem javaFile_ne_pom (before : String) : before ++ ".java" ≠ "pom.xml" := fun same => by
  have last := congrArg (fun key : String => key.toList.getLast?) same
  simp at last

/-- The names of the files of a project: entry point, client module and manifest. -/
def Target.fileNames (target : Target) (className : String) : List String :=
  match target with
  | .go => ["main.go", "client.go", "go.mod"]
  | .java => ["Main.java", className ++ ".java", "pom.xml"]
  | .python => ["main.py", "api_client.py", "requirements.txt"]
  | .rust => ["main.rs", "client.rs", "Cargo.toml"]
  | .typescript => ["index.ts", "api.ts", "package.json"]

theorem fileName?_layout (target : Target) {context : EmitContext}
    (plain : '/' ∉ context.className.toList) :
    (target.dialect.layout context).keys.map fileName? =
      (target.fileNames context.className).map some := by
  cases target with
  | go =>
    change ["main.go", "client/client.go", "go.mod"].map fileName? =
      (Target.fileNames .go "").map some
    decide
  | python =>
    change ["main.py", "api_client.py", "requirements.txt"].map fileName? =
      (Target.fileNames .python "").map some
    decide
  | rust =>
    change ["src/main.rs", "src/client.rs", "Cargo.toml"].map fileName? =
      (Target.fileNames .rust "").map some
    decide
  | typescript =>
    change ["src/index.ts", "src/api.ts", "package.json"].map fileName? =
      (Target.fileNames .typescript "").map some
    decide
  | java =>
    let folder := javaFolder context.packageName
    have entry : fileName? (folder ++ "/Main.java") = some "Main.java" := by
      rw [show "/Main.java" = "/" ++ "Main.java" from rfl, ← String.append_assoc]
      exact fileName?_slash folder (by decide) (by decide)
    have client : fileName? (folder ++ "/" ++ context.className ++ ".java") =
        some (context.className ++ ".java") := by
      have split : folder ++ "/" ++ context.className ++ ".java" =
          folder ++ "/" ++ (context.className ++ ".java") := String.append_assoc
      rw [split]
      have part := isPart_javaFile plain
      exact fileName?_slash folder part.plain part.counts
    have manifest : fileName? "pom.xml" = some "pom.xml" := by decide
    change [fileName? (folder ++ "/Main.java"),
      fileName? (folder ++ "/" ++ context.className ++ ".java"), fileName? "pom.xml"] = _
    rw [entry, client, manifest]
    rfl

/-- **The files of a project differ in their file names.** -/
theorem fileNames_nodup (target : Target) {context : EmitContext}
    (plain : '/' ∉ context.className.toList) (other : context.className ≠ "Main") :
    ((target.dialect.layout context).keys.map fileName?).Nodup := by
  rw [fileName?_layout target plain]
  refine List.Nodup.map (fun _ _ => Option.some.inj) ?_
  cases target with
  | go | python | rust | typescript =>
    change ([_, _, _] : List String).Nodup
    decide
  | java =>
    have main : context.className ++ ".java" ≠ "Main.java" := fun e =>
      other ((String.append_left_inj ".java").mp (e.trans (rfl : _ = "Main" ++ ".java")))
    simp [Target.fileNames, main.symm, javaFile_ne_pom]

theorem keys_nodup (target : Target) {context : EmitContext} (h : context.WellFormed) :
    (target.dialect.layout context).keys.Nodup := by
  have plain : '/' ∉ context.className.toList := fun slash =>
    absurd (h.className.chars _ slash) (by decide)
  exact (fileNames_nodup target plain h.not_entry).of_map

/-! ## 3. Keys of a project -/

/-- A project is three files at the keys of its layout. -/
theorem files_of_emit {dialect : Dialect} {operations : List Contract.Operation}
    {context : EmitContext} {files : FileSet} (h : dialect.emit operations context = .ok files) :
    ∃ entry client manifest : String, files =
      ((TextMap.empty.insert (dialect.layout context).entry entry).insert
        (dialect.layout context).client client).insert (dialect.layout context).manifest
          manifest := by
  obtain ⟨methods, _, h⟩ := bind_eq_ok_iff.mp h
  obtain ⟨entry, _, h⟩ := bind_eq_ok_iff.mp h
  obtain ⟨client, _, h⟩ := bind_eq_ok_iff.mp h
  obtain ⟨manifest, _, h⟩ := bind_eq_ok_iff.mp h
  exact ⟨entry, client, manifest, (Except.ok.inj h).symm⟩

/-- The keys of a project are those of its layout. -/
theorem key_of_emit {dialect : Dialect} {operations : List Contract.Operation}
    {context : EmitContext} {files : FileSet} (h : dialect.emit operations context = .ok files)
    {key text : String} (hk : (key, text) ∈ files.toList) :
    key ∈ (dialect.layout context).keys := by
  obtain ⟨entry, client, manifest, rfl⟩ := files_of_emit h
  rcases mem_insertPair hk with e | hk
  · simp [Layout.keys, (Prod.mk.inj e).1]
  · rcases mem_insertPair hk with e | hk
    · simp [Layout.keys, (Prod.mk.inj e).1]
    · rcases mem_insertPair hk with e | hk
      · simp [Layout.keys, (Prod.mk.inj e).1]
      · cases hk

/-- Each key of the layout is a key of the project. -/
theorem exists_of_emit {dialect : Dialect} {operations : List Contract.Operation}
    {context : EmitContext} {files : FileSet} (h : dialect.emit operations context = .ok files)
    {key : String} (hk : key ∈ (dialect.layout context).keys) :
    ∃ text, (key, text) ∈ files.toList := by
  obtain ⟨entry, client, manifest, rfl⟩ := files_of_emit h
  refine (Option.isSome_iff_exists.mp ?_).imp fun _ => TextMap.get?_eq_some_iff.mp
  simp only [TextMap.get?_insert]
  simp only [Layout.keys, List.mem_cons, List.not_mem_nil, or_false] at hk
  rcases hk with rfl | rfl | rfl <;> repeat' split
  all_goals simp_all

/-- A file of a project is known by its file name. -/
theorem eq_of_fileName? {language : String} {operations : List Contract.Operation}
    {context : EmitContext} {files : FileSet} (h : emit operations language context = .ok files)
    (plain : '/' ∉ context.className.toList) (apart : context.className ≠ "Main")
    {key text other otherText : String} (hk : (key, text) ∈ files.toList)
    (ho : (other, otherText) ∈ files.toList) (same : fileName? key = fileName? other) :
    key = other ∧ text = otherText := by
  unfold emit at h
  split at h
  · cases h
  · rename_i target _
    have emitted := mapError_eq_ok_iff.mp h
    obtain rfl : key = other := List.inj_on_of_nodup_map (fileNames_nodup target plain apart)
      (key_of_emit emitted hk) (key_of_emit emitted ho) same
    exact ⟨rfl, TextMap.value_unique hk ho⟩

/-! ## 4. Languages -/

/-- Each target is meant by its id. -/
theorem resolve?_id (target : Target) : Target.resolve? target.id = some target := by
  cases target <;> decide

/-- The ways to write the languages, without blanks and capitals. -/
def languageWords : List String := Target.all.flatMap fun target => target.id :: target.aliases

theorem mem_languageWords_of_resolve? {name : String} {target : Target}
    (h : Target.resolve? name = some target) : lowerAscii (trimString name) ∈ languageWords := by
  have found := List.find?_some h
  have there := List.mem_of_find?_eq_some h
  refine List.mem_flatMap.mpr ⟨target, there, ?_⟩
  rcases Bool.or_eq_true_iff.mp found with own | too
  · exact List.mem_cons.mpr (.inl (eq_of_beq own).symm)
  · exact List.mem_cons.mpr (.inr (List.contains_iff_mem.mp too))

/-- **A language is named by one part of a path.** -/
theorem names_language {name : String} {target : Target} (h : Target.resolve? name = some target) :
    isPlain name = true ∧ names name = [name] := by
  have word := mem_languageWords_of_resolve? h
  refine names_eq_singleton (fun slash => ?_) ?_
  · have stays : '/' ∈ (lowerAscii (trimString name)).toList := by
      have := List.mem_map_of_mem (f := Char.toLower) (mem_trim slash (by decide))
      simpa [lowerAscii, trimString] using this
    have none : ∀ word ∈ languageWords, '/' ∉ word.toList := by decide
    exact none _ word stays
  · have other : ∀ text, Target.resolve? text = none → name ≠ text := by
      rintro text hn rfl
      rw [hn] at h
      cases h
    rw [component?_of_ne, String.ofList_toList]
    · exact fun e => other "" (by decide) (String.toList_eq_nil_iff.mp e)
    · exact fun e => other "." (by decide) (String.toList_inj.mp e)
    · exact fun e => other ".." (by decide) (String.toList_inj.mp e)

/-! ## 5. Places of keys -/

/-- The places of the files of a layout in the folder of a project, where these are the parts of
the package name. -/
def Target.places (target : Target) (parts : List String) (className : String) : List Place :=
  match target with
  | .go => [["main.go"], ["client", "client.go"], ["go.mod"]]
  | .java => [["src", "main", "java"] ++ parts ++ ["Main.java"],
      ["src", "main", "java"] ++ parts ++ [className ++ ".java"], ["pom.xml"]]
  | .python => [["main.py"], ["api_client.py"], ["requirements.txt"]]
  | .rust => [["src", "main.rs"], ["src", "client.rs"], ["Cargo.toml"]]
  | .typescript => [["src", "index.ts"], ["src", "api.ts"], ["package.json"]]

theorem map_intercalate (f : Char → Char) (sep : List Char) (pieces : List (List Char)) :
    (sep.intercalate pieces).map f = (sep.map f).intercalate (pieces.map (List.map f)) := by
  induction pieces with
  | nil => rfl
  | cons first rest ih =>
    cases rest with
    | nil => simp
    | cons second more =>
      rw [List.intercalate_cons_cons, List.map_append, List.map_append, ih]
      simp only [List.map_cons, List.intercalate_cons_cons]

/-- The folder of a package: its parts are names of folders. -/
theorem javaFolder_joinStrings {parts : List String} (filled : parts ≠ [])
    (words : ∀ part ∈ parts, OfWordChars part) :
    javaFolder (joinStrings "." parts) = joinStrings "/" (["src", "main", "java"] ++ parts) := by
  let slash (c : Char) : Char := if c = '.' then '/' else c
  have kept : parts.map (fun part => part.toList.map slash) = parts.map String.toList := by
    refine List.map_congr_left fun part hp => ?_
    refine (List.map_congr_left fun c hc => ?_).trans (List.map_id _)
    have word := words part hp c hc
    exact if_neg fun e : c = '.' => absurd (e ▸ word) (by decide)
  have slashes : (joinStrings "." parts).toList.map slash = (joinStrings "/" parts).toList := by
    rw [joinStrings, String.toList_intercalate, map_intercalate, List.map_map]
    rw [joinStrings, String.toList_intercalate]
    exact congrArg _ kept
  have split := String.intercalate_append_of_ne_nil (l := ["src", "main", "java"]) (m := parts)
    (s := "/") (by simp) filled
  unfold javaFolder
  rw [slashes, String.ofList_toList, joinStrings, joinStrings, split]
  rfl

/-- **The keys of a layout are the names of its places.** -/
theorem keys_eq_places (target : Target) {context : EmitContext} {parts : List String}
    (filled : parts ≠ []) (words : ∀ part ∈ parts, OfWordChars part)
    (package : context.packageName = joinStrings "." parts) :
    (target.dialect.layout context).keys =
      (target.places parts context.className).map (joinStrings "/") := by
  cases target with
  | go | python | rust | typescript => rfl
  | java =>
    have inside : ∀ file, javaFolder context.packageName ++ "/" ++ file =
        joinStrings "/" (["src", "main", "java"] ++ parts ++ [file]) := by
      intro file
      rw [package, javaFolder_joinStrings filled words, joinStrings, joinStrings,
        String.intercalate_append_of_ne_nil (l := _ ++ parts) (by simp) (by simp)]
      simp
    change [javaFolder context.packageName ++ "/Main.java",
      javaFolder context.packageName ++ "/" ++ context.className ++ ".java", "pom.xml"] = _
    have entry := inside "Main.java"
    have client := inside (context.className ++ ".java")
    rw [← String.append_assoc] at client
    rw [client, ← show "/" ++ "Main.java" = "/Main.java" from rfl, ← String.append_assoc, entry]
    rfl

theorem isPart_of_word {name : String} (filled : name ≠ "") (word : OfWordChars name) :
    IsPart name := by
  refine isPart_of_ne filled ?_ ?_ fun slash => absurd (word _ slash) (by decide)
  · rintro rfl
    exact absurd word (by decide)
  · rintro rfl
    exact absurd word (by decide)

/-- Each place of a layout is a row of names. -/
theorem isPart_of_mem_places {target : Target} {parts : List String} {className : String}
    (words : ∀ part ∈ parts, part ≠ "" ∧ OfWordChars part) (named : OfWordChars className)
    {place : Place} (h : place ∈ target.places parts className) :
    place ≠ [] ∧ ∀ name ∈ place, IsPart name := by
  cases target with
  | go | python | rust | typescript =>
    revert place
    change ∀ place ∈ ([_, _, _] : List Place), place ≠ [] ∧ ∀ name ∈ place, IsPart name
    decide
  | java =>
    have folders : ∀ name ∈ ["src", "main", "java"], IsPart name := by decide
    have package : ∀ part ∈ parts, IsPart part := fun part hp =>
      isPart_of_word (words part hp).1 (words part hp).2
    have entry : IsPart "Main.java" := by decide
    have manifest : IsPart "pom.xml" := by decide
    have client : IsPart (className ++ ".java") :=
      isPart_javaFile fun slash => absurd (named _ slash) (by decide)
    have inside : ∀ file, IsPart file → ["src", "main", "java"] ++ parts ++ [file] ≠ [] ∧
        ∀ name ∈ ["src", "main", "java"] ++ parts ++ [file], IsPart name := by
      intro file hf
      refine ⟨by simp, ?_⟩
      simp only [List.forall_mem_append, List.forall_mem_singleton]
      exact ⟨⟨folders, package⟩, hf⟩
    simp only [Target.places, List.mem_cons, List.not_mem_nil, or_false] at h
    rcases h with rfl | rfl | rfl
    · exact inside _ entry
    · exact inside _ client
    · exact ⟨by simp, by simpa using manifest⟩

/-! ## 6. Files under keys -/

/-- Files under keys that are rows of names, no two under one key. -/
structure AreKeyed (pairs : List (String × String)) : Prop where
  distinct : (pairs.map Prod.fst).Nodup
  named : ∀ pair ∈ pairs, ∃ place, place ≠ [] ∧ (∀ name ∈ place, IsPart name) ∧
    pair.1 = joinStrings "/" place

namespace AreKeyed

variable {pairs : List (String × String)} {pair other : String × String} (h : AreKeyed pairs)
include h

/-- A key is the row of its names. -/
theorem joined (hp : pair ∈ pairs) : names pair.1 ≠ [] ∧ (∀ name ∈ names pair.1, IsPart name) ∧
    joinStrings "/" (names pair.1) = pair.1 := by
  obtain ⟨place, filled, parts, key⟩ := h.named pair hp
  have same : names pair.1 = place := by rw [key, names_joinStrings filled parts]
  exact same ▸ ⟨filled, parts, key.symm⟩

/-- The names of a key tell the file. -/
theorem eq_of_names (hp : pair ∈ pairs) (ho : other ∈ pairs)
    (same : names pair.1 = names other.1) : pair = other := by
  refine List.inj_on_of_nodup_map h.distinct hp ho ?_
  rw [← (h.joined hp).2.2, ← (h.joined ho).2.2, same]

end AreKeyed

/-- **The files of a project stand under keys that are rows of names.** -/
theorem areKeyed_of_emit {document : Contract.Document} {context : EmitContext}
    (made : context.Of document) {operations : List Contract.Operation} {target : Target}
    {files : FileSet} (h : target.dialect.emit operations context = .ok files) :
    AreKeyed files.toList := by
  obtain ⟨parts, filled, words, package⟩ := made.wellFormed.package
  refine ⟨(List.pairwise_map.mpr files.rising).imp ?_, fun pair hp => ?_⟩
  · rintro key _ lt rfl
    exact String.lt_irrefl key lt
  · have key := key_of_emit h hp
    rw [keys_eq_places target filled (fun part hp => (words part hp).2) package] at key
    obtain ⟨place, ho, named⟩ := List.mem_map.mp key
    obtain ⟨some_name, names⟩ := isPart_of_mem_places words made.wellFormed.ofWordChars ho
    exact ⟨place, some_name, names, named.symm⟩

end Covenant.Client
