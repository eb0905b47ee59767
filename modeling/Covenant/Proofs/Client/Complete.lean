import Covenant.Client.Stored
import Covenant.Proofs.Client.Contained
/-!
# Complete projects

A project is generated from any operations in any language, and it is complete: it has an entry
point, a client module and a manifest.

* `EndsInFile`: only the last name on the way to a file has an extension, so no way goes on through
  a file.
* `emit_complete`: the three files of a project stand under different paths, none of which leads out
  of the folder of the project or through another file.
-/

namespace Covenant.Client

open Covenant.Contract Covenant.Files Covenant.Files.Path Covenant.Naming Covenant.Text

/-! ## 1. Ways to files -/

/-- The last name of a place has an extension, and no name before it has one. -/
structure EndsInFile (place : Place) : Prop where
  file : ∃ name ∈ place.getLast?, '.' ∈ name.toList
  folders : ∀ name ∈ place.dropLast, '.' ∉ name.toList

instance (place : Place) : Decidable (EndsInFile place) :=
  have : Decidable (∃ name ∈ place.getLast?, '.' ∈ name.toList) :=
    decidable_of_iff (place.getLast?.any (·.toList.contains '.') = true)
      (by simp [Option.any_eq_true])
  decidable_of_iff (_ ∧ _) ⟨fun h => ⟨h.1, h.2⟩, fun h => ⟨h.file, h.folders⟩⟩

/-- **No way to a file goes on to another.** -/
theorem EndsInFile.eq_of_begins {place other : Place} (h : EndsInFile place)
    (g : EndsInFile other) (begins : place <+: other) : place = other := by
  obtain ⟨more, rfl⟩ := begins
  obtain ⟨name, last, dotted⟩ := h.file
  cases more with
  | nil => exact (List.append_nil place).symm
  | cons first rest =>
    have within : name ∈ (place ++ first :: rest).dropLast := by
      rw [List.dropLast_append_of_ne_nil (List.cons_ne_nil first rest)]
      exact List.mem_append_left _ (List.mem_of_getLast? last)
    exact absurd dotted (g.folders name within)

/-- The places of a layout end in files. -/
theorem endsInFile_of_mem_places {target : Target} {parts : List String} {className : String}
    (words : ∀ part ∈ parts, OfWordChars part) {place : Place}
    (h : place ∈ target.places parts className) : EndsInFile place := by
  cases target with
  | go | python | rust | typescript =>
    revert place
    change ∀ place ∈ ([_, _, _] : List Place), EndsInFile place
    decide
  | java =>
    have folders : ∀ name ∈ ["src", "main", "java"] ++ parts, '.' ∉ name.toList := by
      simp only [List.forall_mem_append]
      exact ⟨by decide, fun part hp dot => absurd (words part hp _ dot) (by decide)⟩
    have inside : ∀ file : String, '.' ∈ file.toList →
        EndsInFile (["src", "main", "java"] ++ parts ++ [file]) := fun file dotted =>
      ⟨⟨file, List.getLast?_concat, dotted⟩, by rwa [List.dropLast_concat]⟩
    simp only [Target.places, List.mem_cons, List.not_mem_nil, or_false] at h
    rcases h with rfl | rfl | rfl
    · exact inside _ (by decide)
    · exact inside _ (by simp)
    · decide

/-! ## 2. Languages -/

/-- A language is meant by its words, whatever the case of their letters and the blanks around. -/
theorem resolve?_of_word {name : String} {target : Target}
    (h : lowerAscii (trimString name) ∈ target.id :: target.aliases) :
    Target.resolve? name = some target := by
  unfold Target.resolve?
  generalize lowerAscii (trimString name) = word at h
  revert word
  cases target <;> decide

/-! ## 3. Projects -/

/-- The files of a project are the entry point, the client module and the manifest of its
language. -/
structure IsComplete (target : Target) (operations : List Operation) (context : EmitContext)
    (files : FileSet) : Prop where
  /-- The paths are those of the language, for the package and the class of the client. -/
  paths : files.keys.Perm ((target.places (packageParts context.packageName)
    context.className).map (joinStrings "/"))
  three : files.keys.length = 3
  distinct : files.keys.Nodup
  entry : files.get? (target.dialect.layout context).entry =
    some (weaveFile target operations context target.dialect.templates.entry).text
  client : files.get? (target.dialect.layout context).client =
    some (weaveFile target operations context target.dialect.templates.client).text
  manifest : files.get? (target.dialect.layout context).manifest =
    some (weaveFile target operations context target.dialect.templates.manifest).text
  /-- Each path can be written to in any folder. -/
  plain : ∀ key ∈ files.keys, ∀ folder, pathIn folder key = .ok (Path.join folder key)
  /-- No file stands where another needs a folder. -/
  apart : ∀ key ∈ files.keys, ∀ other ∈ files.keys, names key <+: names other → key = other
  /-- The class of the client is not that of the entry point. -/
  class_ne : context.className ≠ "Main"

/-- The paths of a project are those of the layout of its language. -/
theorem keys_perm_layout {document : Document} {context : EmitContext} (made : context.Of document)
    (target : Target) (operations : List Operation) :
    (weaveProject target operations context).keys.Perm (target.dialect.layout context).keys := by
  have emitted := emit_eq_weave target operations context
  have distinct := (areKeyed_of_emit made emitted).distinct
  refine (List.perm_ext_iff_of_nodup distinct (keys_nodup target made.wellFormed)).mpr fun key => ?_
  constructor
  · intro hk
    obtain ⟨⟨_, text⟩, hp, rfl⟩ := List.mem_map.mp hk
    exact key_of_emit emitted hp
  · intro hk
    obtain ⟨text, hp⟩ := exists_of_emit emitted hk
    exact List.mem_map_of_mem hp

/-- **A project is complete, whatever its operations are called.** -/
theorem isComplete_weaveProject {document : Document} {context : EmitContext}
    (made : context.Of document) (target : Target) (operations : List Operation) :
    IsComplete target operations context (weaveProject target operations context) := by
  have well := made.wellFormed
  obtain ⟨parts, filled, words, package⟩ := well.package
  have chars : ∀ part ∈ parts, OfWordChars part := fun part hp => (words part hp).2
  have split : packageParts context.packageName = parts :=
    package ▸ packageParts_joinStrings filled chars
  have distinct := (areKeyed_of_emit made (emit_eq_weave target operations context)).distinct
  have paths := keys_perm_layout made target operations
  obtain ⟨entry, client, manifest⟩ := get?_weaveProject target operations well
  generalize weaveProject target operations context = files
    at paths distinct entry client manifest ⊢
  have keys := keys_eq_places target filled chars package
  -- each key is the row of names of a place
  have place_of : ∀ key ∈ files.keys, ∃ place ∈ target.places parts context.className,
      place ≠ [] ∧ (∀ name ∈ place, IsPart name) ∧ joinStrings "/" place = key := by
    intro key hk
    have listed := paths.subset hk
    rw [keys] at listed
    obtain ⟨place, ho, named⟩ := List.mem_map.mp listed
    obtain ⟨some_name, parts⟩ := isPart_of_mem_places words well.ofWordChars ho
    exact ⟨place, ho, some_name, parts, named⟩
  refine ⟨by rw [split, ← keys]; exact paths, paths.length_eq, distinct, entry, client, manifest,
    fun key hk folder => ?_, fun key hk other ho begins => ?_, well.not_entry⟩
  · obtain ⟨place, _, some_name, parts, rfl⟩ := place_of key hk
    rw [pathIn, if_pos (isPlain_joinStrings some_name parts)]
  · obtain ⟨place, hp, some_name, parts, rfl⟩ := place_of key hk
    obtain ⟨further, hf, other_name, other_parts, rfl⟩ := place_of other ho
    rw [names_joinStrings some_name parts, names_joinStrings other_name other_parts] at begins
    rw [(endsInFile_of_mem_places chars hp).eq_of_begins (endsInFile_of_mem_places chars hf) begins]

/-- **A complete project is generated from any operations in any language.** -/
theorem emit_complete {document : Document} {context : EmitContext} (made : context.Of document)
    (operations : List Operation) {language : String} {target : Target}
    (known : lowerAscii (trimString language) ∈ target.id :: target.aliases) :
    ∃ files, emit operations language context = .ok files ∧
      IsComplete target operations context files := by
  refine ⟨weaveProject target operations context, ?_,
    isComplete_weaveProject made target operations⟩
  simp only [emit, resolve?_of_word known, emit_eq_weave]
  rfl

/-- A Java project with two operations of one name, for a package whose name has a dot and a blank
in it. -/
theorem emit_complete_java :
    let context := (EmitContext.ofDocument (petDocument "id")).withPackageName "org.pets v2"
    let operations := (petDocument "id").extract none ++ (petDocument "size").extract none
    operations.map (·.id) = ["getPet", "getPet"] ∧
      lowerAscii (trimString " JAVA ") ∈ Target.java.id :: Target.java.aliases ∧
      ∃ files, emit operations " JAVA " context = .ok files ∧
        IsComplete .java operations context files := by
  intro context operations
  have known : lowerAscii (trimString " JAVA ") ∈ Target.java.id :: Target.java.aliases := by
    decide
  exact ⟨rfl, known, emit_complete (EmitContext.Of.given.package "org.pets v2") operations known⟩

end Covenant.Client
