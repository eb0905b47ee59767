import Covenant.Client.Stored
import Covenant.Proofs.Client.Layout
import Covenant.Proofs.Files.Replace
/-!
# Writing the files of a project

* `Wrote files w v`: from `w` to `v` the files were written one after the other and nothing else
  that was there has changed; a file that no other one was written over reads as it was written.
* `Wrote.append`: what was written first and what was written after it, together.
* `Wrote.reads_after`: the files still read as written after a file at another place was written.
* `ensures_storeAll`: all files of a project are written, or some of them.
-/

namespace Covenant.Client

open Covenant.Files Covenant.Files.Path

variable {w v u : Workspace} {files more : List (String × String)} {folder : String}

/-! ## 1. Written files -/

/-- The places of files with these paths. -/
def placesOf (w : Workspace) (files : List (String × String)) (place : Place) : Prop :=
  ∃ file ∈ files, w.placeOf file.1 = place

/-- No other file lies at the place of a file, or it holds the same. -/
def IsLast (w : Workspace) (files : List (String × String)) (file : String × String) : Prop :=
  ∀ other ∈ files, w.placeOf other.1 = w.placeOf file.1 → other.2 = file.2

/-- **Files were written**, and nothing else that was there has changed. -/
structure Wrote (files : List (String × String)) (w v : Workspace) : Prop where
  later : w.Later (placesOf w files) v
  reads : ∀ file ∈ files, IsLast w files file → v.read file.1 = .ok file.2.toUTF8

theorem placesOf_later {written : Place → Prop} (h : w.Later written v) :
    placesOf v files = placesOf w files := by
  funext place
  simp only [placesOf, h.placeOf]

theorem placesOf_append {place : Place} :
    placesOf w (files ++ more) place ↔ placesOf w files place ∨ placesOf w more place := by
  simp only [placesOf, List.mem_append, or_and_right, exists_or]

theorem Wrote.nil (w : Workspace) : Wrote [] w w :=
  ⟨.refl _ w, fun _ h => by cases h⟩

theorem Wrote.single {path text : String} (later : w.Later (· = w.placeOf path) v)
    (reads : v.read path = .ok text.toUTF8) : Wrote [(path, text)] w v := by
  refine ⟨later.mono fun place e => ⟨_, List.mem_singleton_self _, e.symm⟩, fun file hf _ => ?_⟩
  obtain rfl := List.mem_singleton.mp hf
  exact reads

/-- **What was written first and what was written after it.** -/
theorem Wrote.append (h : Wrote files w v) (g : Wrote more v u) : Wrote (files ++ more) w u := by
  have first : w.Later (placesOf w (files ++ more)) v :=
    h.later.mono fun _ hp => placesOf_append.mpr (.inl hp)
  have second : v.Later (placesOf w (files ++ more)) u := by
    refine g.later.mono fun _ hp => placesOf_append.mpr (.inr ?_)
    rwa [placesOf_later h.later] at hp
  refine ⟨first.trans second, fun file hf last => ?_⟩
  -- whatever was written later to the place of a file holds the same
  have after : ∀ other ∈ more, v.placeOf other.1 = v.placeOf file.1 →
      u.read other.1 = .ok file.2.toUTF8 := by
    intro other ho same
    simp only [h.later.placeOf] at same
    have holds := last other (List.mem_append_right _ ho) same
    rw [← holds]
    refine g.reads other ho fun third ht again => ?_
    simp only [h.later.placeOf] at again
    exact (last third (List.mem_append_right _ ht) (again.trans same)).trans holds.symm
  rcases List.mem_append.mp hf with early | late
  · have reads := h.reads file early fun other ho => last other (List.mem_append_left _ ho)
    by_cases again : placesOf v more (v.placeOf file.1)
    · obtain ⟨other, ho, same⟩ := again
      have there := (read_eq_ok_iff.mp (after other ho same)).2.2.2
      rw [g.later.placeOf, same] at there
      exact read_of_kept g.later.tree g.later.here reads there
    · exact g.later.read again reads
  · exact after file late rfl

/-- What is shown changes no file. -/
theorem Wrote.shown (h : Wrote files w v) (output : String) :
    Wrote files w { v with output } :=
  ⟨⟨h.later.here, h.later.tree⟩, h.reads⟩

/-- Files stay written when only a file at another place is written after them. -/
theorem Wrote.reads_after {path : String} (h : Wrote files w v)
    (last : ∀ file ∈ files, IsLast w files file) (away : ¬placesOf w files (w.placeOf path))
    (later : v.Later (· = v.placeOf path) u) :
    ∀ file ∈ files, u.read file.1 = .ok file.2.toUTF8 := by
  intro file hf
  have apart : v.placeOf file.1 ≠ v.placeOf path := by
    rw [h.later.placeOf, h.later.placeOf]
    exact fun same => away ⟨file, hf, same⟩
  exact later.read apart (h.reads file hf (last file hf))

/-! ## 2. Storing a project -/

/-- An error in writing files, or in their paths. -/
inductive ClientError.IsOfFiles : ClientError → Prop
  | badPath (path : String) : IsOfFiles (.badPath path)
  | files (path detail : String) : IsOfFiles (.files path detail)

/-- The files of a project with their paths in a folder. -/
def filesIn (folder : String) (pairs : List (String × String)) : List (String × String) :=
  pairs.map fun pair => (join folder pair.1, pair.2)

/-- A file of a project has a path in a folder just if its key is a plain path. -/
theorem pathIn_eq_ok_iff {key path : String} :
    pathIn folder key = .ok path ↔ isPlain key = true ∧ join folder key = path := by
  unfold pathIn
  split <;> simp_all

/-- **What storing a project ensures**: every file is written, or there is an error with a file and
at most files of the project have changed. -/
theorem ensures_storeAll (folder : String) (pairs : List (String × String)) (w : Workspace) :
    Ensures (storeAll (m := InWorkspace) folder pairs) w
      (fun paths after => paths = (filesIn folder pairs).map Prod.fst ∧
        (∀ pair ∈ pairs, isPlain pair.1 = true) ∧ Wrote (filesIn folder pairs) w after)
      (fun e after => e.IsOfFiles ∧ w.Later (placesOf w (filesIn folder pairs)) after) := by
  induction pairs generalizing w with
  | nil => exact (ensures_pure _).mpr ⟨rfl, by simp, .nil w⟩
  | cons pair rest ih =>
    obtain ⟨key, text⟩ := pair
    simp only [storeAll, ensures_bind, ensures_result, ensures_adapt, ensures_pure]
    by_cases plain : isPlain key = true
    · have here : pathIn folder key = .ok (join folder key) := if_pos plain
      have split : filesIn folder ((key, text) :: rest) =
          [(join folder key, text)] ++ filesIn folder rest := rfl
      rw [split, here]
      refine ⟨fun path e => ?_, fun e bad => by cases bad⟩
      cases e
      refine (ensures_writeFile _ _ w).imp (fun _ v written => ?_) fun fault v later => ?_
      · have wrote := Wrote.single written.1 written.2
        refine (ih v).imp (fun paths u stored => ?_) fun e u failed => ?_
        · obtain ⟨rfl, all, others⟩ := stored
          refine ⟨rfl, fun pair hp => ?_, wrote.append others⟩
          rcases List.mem_cons.mp hp with rfl | hp
          · exact plain
          · exact all pair hp
        · refine ⟨failed.1, (wrote.later.mono ?_).trans (failed.2.mono ?_)⟩
          · exact fun _ hp => placesOf_append.mpr (.inl hp)
          · rw [placesOf_later wrote.later]
            exact fun _ hp => placesOf_append.mpr (.inr hp)
      · exact ⟨.files _ _, later.untouched _⟩
    · have here : pathIn folder key = .error (.badPath key) := if_neg plain
      rw [here]
      refine ⟨fun path good => (by cases good), fun e bad => ?_⟩
      cases bad
      exact ⟨.badPath key, .refl _ w⟩

end Covenant.Client
