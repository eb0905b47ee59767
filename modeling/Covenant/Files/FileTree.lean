import Covenant.Text.Ordered
/-!
# Trees of files

A tree is a file or a folder with named trees in it.

* A place is the list of names that lead to it from the top.
* `at?_put_self` and `at?_put_of_apart` say what putting a tree at a place does to the tree at this
  place and at the places beside it.
* `files` goes through a tree folder by folder, each folder in the order of its names if the tree
  is `sorted`.
-/

namespace Covenant.Files

open Covenant.Text

/-- A file with its content, or a folder. -/
inductive FileTree (α : Type) where
  | file (content : α)
  | folder (entries : List (String × FileTree α))
deriving Inhabited

/-- The names that lead from the top to a file or folder. -/
abbrev Place := List String

namespace FileTree

/-- The empty folder. -/
def empty : FileTree α := .folder []

/-- It is a folder. -/
def isFolder : FileTree α → Bool
  | .file _ => false
  | .folder _ => true

/-! ## 1. One place -/

/-- The tree with a name in a folder. -/
def child? (tree : FileTree α) (name : String) : Option (FileTree α) :=
  match tree with
  | .file _ => none
  | .folder entries => entries.lookup name

/-- The folder with a tree under a name; a file stays as it is. -/
def withChild (tree : FileTree α) (name : String) (child : FileTree α) : FileTree α :=
  match tree with
  | .file content => .file content
  | .folder entries => .folder (insertPair name child entries)

/-- The folder without what has a name. -/
def withoutChild (tree : FileTree α) (name : String) : FileTree α :=
  match tree with
  | .file content => .file content
  | .folder entries => .folder (entries.filter (·.1 != name))

/-- The tree at a place. -/
def at? (tree : FileTree α) : Place → Option (FileTree α)
  | [] => some tree
  | name :: rest => (tree.child? name).bind (at? · rest)

/-- The tree with another one put at a place; nothing changes if what the place lies in is no
folder. -/
def put (tree new : FileTree α) : Place → FileTree α
  | [] => new
  | [name] => tree.withChild name new
  | name :: next :: rest => match tree.child? name with
    | some child => tree.withChild name (child.put new (next :: rest))
    | none => tree

/-- The tree without what stands at a place below the top. -/
def erase (tree : FileTree α) : Place → FileTree α
  | [] => tree
  | [name] => tree.withoutChild name
  | name :: next :: rest => match tree.child? name with
    | some child => tree.withChild name (child.erase (next :: rest))
    | none => tree

theorem child?_withChild_self {tree : FileTree α} (h : tree.isFolder) (name : String)
    (child : FileTree α) : (tree.withChild name child).child? name = some child := by
  cases tree with
  | file => simp [isFolder] at h
  | folder entries => simp [withChild, child?, TextMap.lookup_insertPair]

theorem child?_withChild_of_ne (tree : FileTree α) {name other : String} (h : other ≠ name)
    (child : FileTree α) : (tree.withChild name child).child? other = tree.child? other := by
  cases tree with
  | file => rfl
  | folder entries => simp [withChild, child?, TextMap.lookup_insertPair, h]

theorem isFolder_of_child? {tree child : FileTree α} {name : String}
    (h : tree.child? name = some child) : tree.isFolder := by
  cases tree with
  | file => simp [child?] at h
  | folder => rfl

/-- What is put into a folder stands there. -/
theorem at?_put_self {tree new folder : FileTree α} {place : Place} {name : String}
    (h : tree.at? place = some folder) (hf : folder.isFolder) :
    (tree.put new (place ++ [name])).at? (place ++ [name]) = some new := by
  induction place generalizing tree with
  | nil =>
    obtain rfl : tree = folder := by simpa [at?] using h
    simp [put, at?, child?_withChild_self hf]
  | cons first rest ih =>
    obtain ⟨child, hc, hr⟩ := Option.bind_eq_some_iff.1 h
    obtain ⟨next, more, hm⟩ : ∃ next more, rest ++ [name] = next :: more := by
      cases rest <;> simp
    have step := ih hr
    rw [List.cons_append, hm] at *
    simp [put, hc, at?, child?_withChild_self (isFolder_of_child? hc), ← step]

/-- Two places, neither of which leads to the other. -/
def Apart (place other : Place) : Prop := ¬ place <+: other ∧ ¬ other <+: place

/-- What is put at a place changes nothing at the places beside it. -/
theorem at?_put_of_apart (tree new : FileTree α) {place other : Place} (h : Apart place other) :
    (tree.put new place).at? other = tree.at? other := by
  induction place generalizing tree other with
  | nil => exact absurd (List.nil_prefix) h.1
  | cons name rest ih =>
    cases other with
    | nil => exact absurd (List.nil_prefix) h.2
    | cons first more =>
      by_cases hn : first = name
      · subst hn
        have hr : Apart rest more := by
          simpa [Apart, List.cons_prefix_cons] using h
        cases rest with
        | nil => exact absurd (List.nil_prefix) hr.1
        | cons next rest =>
          cases hc : tree.child? first with
          | none => simp [put, hc]
          | some child =>
            simp [put, hc, at?, child?_withChild_self (isFolder_of_child? hc), ih child hr]
      · cases rest with
        | nil => simp [put, at?, child?_withChild_of_ne tree hn]
        | cons next rest =>
          cases hc : tree.child? name with
          | none => simp [put, hc]
          | some child => simp [put, hc, at?, child?_withChild_of_ne tree hn]

/-! ## 2. All places -/

mutual

/-- The tree with each folder in the order of its names. -/
def sorted : FileTree α → FileTree α
  | .file content => .file content
  | .folder entries => .folder (sortedEntries entries)

/-- The entries of a folder in the order of their names. -/
def sortedEntries : List (String × FileTree α) → List (String × FileTree α)
  | [] => []
  | (name, tree) :: rest => insertPair name tree.sorted (sortedEntries rest)

end

mutual

/-- The tree with the content of every file changed, without the folders below the top whose names
are not entered. -/
def outline (enter : String → Bool) (f : α → β) : FileTree α → FileTree β
  | .file content => .file (f content)
  | .folder entries => .folder (outlines enter f entries)

/-- The entries of a folder, outlined. -/
def outlines (enter : String → Bool) (f : α → β) :
    List (String × FileTree α) → List (String × FileTree β)
  | [] => []
  | (name, tree) :: rest =>
    if tree.isFolder && !enter name then outlines enter f rest
    else (name, tree.outline enter f) :: outlines enter f rest

end

mutual

/-- The places of the files below a place, with their contents. -/
def files (place : Place) : FileTree α → List (Place × α)
  | .file content => [(place, content)]
  | .folder entries => filesIn place entries

/-- The places of the files in the entries of a folder. -/
def filesIn (place : Place) : List (String × FileTree α) → List (Place × α)
  | [] => []
  | (name, tree) :: rest => tree.files (place ++ [name]) ++ filesIn place rest

end

end FileTree

end Covenant.Files
