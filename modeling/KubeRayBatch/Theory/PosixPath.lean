/-
# Theory.PosixPath -- where a path leads

A path is resolved component by component: an empty component and `.` stay where they are,
`..` goes back, any other name goes down.  Joining a name to a path is not the same as going
down: an absolute name replaces the path, and a name may itself hold slashes and dots.  A
plain name can do nothing of that.

There are no symbolic links here.

* `components_join`: joining a plain name adds one component;
* `place_join`: so it leads to the entry of that name.
-/
import Mathlib.Data.List.Basic

namespace KubeRayBatch.Theory.PosixPath

set_option autoImplicit false

/-- A path, and a name, as text. -/
abbrev Path := List Char

/-- A directory, by the names that lead to it from the root. -/
abbrev Place := List (List Char)

/-! ## Resolving a path -/

def isAbsolute (path : Path) : Bool := path.head? == some '/'

def components (path : Path) : List (List Char) :=
  (path.splitOn '/').filter fun name => name ≠ [] ∧ name ≠ ['.']

/-- The parent of the root is the root. -/
def enter (here : Place) (name : List Char) : Place :=
  if name = ['.', '.'] then here.dropLast else here ++ [name]

def walk (here : Place) (names : List (List Char)) : Place := names.foldl enter here

/-- Where a path leads, for a process whose working directory is `cwd`. -/
def place (cwd : Place) (path : Path) : Place :=
  walk (if isAbsolute path then [] else cwd) (components path)

/-- `path / name` -/
def join (path name : Path) : Path :=
  if isAbsolute name then name
  else if path = [] ∨ path.getLast? = some '/' then path ++ name
  else path ++ '/' :: name

/-! ## Plain names -/

/-- A name of one entry of a directory. -/
structure Plain (name : List Char) : Prop where
  nonempty : name ≠ []
  not_here : name ≠ ['.']
  not_parent : name ≠ ['.', '.']
  whole : '/' ∉ name

/-- A name that starts with a letter or a digit, or the like, is plain if it has no slash. -/
theorem Plain.of_head {c : Char} {name : List Char} (start : c ≠ '.') (whole : '/' ∉ c :: name) :
    Plain (c :: name) where
  nonempty := List.cons_ne_nil c name
  not_here := fun same => start (List.cons.inj same).1
  not_parent := fun same => start (List.cons.inj same).1
  whole := whole

variable {path name name' : Path} {cwd : Place}

theorem Plain.relative (plain : Plain name) : isAbsolute name = false := by
  refine Bool.eq_false_iff.2 fun absolute => plain.whole ?_
  exact List.mem_of_head? (beq_iff_eq.1 absolute)

theorem Plain.components (plain : Plain name) : components name = [name] := by
  unfold PosixPath.components
  rw [List.splitOn_eq_singleton plain.whole]
  exact List.filter_eq_self.2 fun only mem => by
    rw [List.mem_singleton.1 mem]
    exact decide_eq_true ⟨plain.nonempty, plain.not_here⟩

theorem components_slash (left right : Path) :
    components (left ++ '/' :: right) = components left ++ components right := by
  unfold components
  rw [List.splitOn_append_cons_self, List.filter_append]

theorem components_empty : components [] = [] := rfl

/-- **Joining** a plain name adds one component. -/
theorem components_join (plain : Plain name) : components (join path name) = components path ++ [name] := by
  unfold join
  rw [plain.relative, if_neg Bool.false_ne_true]
  split
  · rename_i bare
    rcases bare with rfl | ends
    · rw [components_empty, List.nil_append, List.nil_append, plain.components]
    · -- the slash that separates them is there already
      obtain ⟨front, rfl⟩ := List.getLast?_eq_some_iff.1 ends
      rw [List.append_assoc, List.singleton_append, components_slash, components_slash,
        components_empty, List.append_nil, plain.components]
  · rw [components_slash, plain.components]

theorem isAbsolute_join (plain : Plain name) : isAbsolute (join path name) = isAbsolute path := by
  unfold join
  rw [plain.relative, if_neg Bool.false_ne_true]
  cases path with
  | nil => exact plain.relative
  | cons c path => split <;> rfl

/-! ## Where a joined path leads -/

theorem walk_append (here : Place) (names names' : List (List Char)) :
    walk here (names ++ names') = walk (walk here names) names' := List.foldl_append

/-- **key theorem.** A plain name leads to the entry of that name. -/
theorem place_join (plain : Plain name) : place cwd (join path name) = place cwd path ++ [name] := by
  unfold place
  rw [isAbsolute_join plain, components_join plain, walk_append]
  exact if_neg plain.not_parent

-- names that are not plain lead anywhere
example : place [] (join "/data/results".toList "../..".toList) = [] := by decide
example : place [] (join "/data/results".toList "/etc".toList) = ["etc".toList] := by decide

end KubeRayBatch.Theory.PosixPath
