import Lamplight.Files.Tree
import Mathlib.Tactic.SplitIfs

/-!
# Texts in a file tree

A text is read where a path leads to its bytes.  What is written to a path of a file tree is what is
then read from the path.  Following the path again leads to the same location: every location on the
way is that of a directory, and no directory is written over.  Main statements:
`FileTree.readText_eq_ok_iff` and `FileTree.readText_of_writeText`.
-/

namespace Lamplight.FileTree

variable {tree after : FileTree} {location : Location} {node : Node} {path : Path} {text : String}

@[simp] theorem node?_update_self (tree : FileTree) (location : Location) (node : Node) :
    (tree.update location node).node? location = some node := if_pos rfl

theorem node?_update_of_ne {other : Location} (different : other ≠ location) :
    (tree.update location node).node? other = tree.node? other := if_neg different

/-- Names can be entered as before where no directory is written over. -/
theorem enter_update {here there : Location} {name : String}
    (noDirectory : tree.node? location ≠ some .directory)
    (entered : tree.enter here name = .ok there) :
    (tree.update location node).enter here name = .ok there := by
  have different : here ≠ location := by
    rintro rfl
    rw [enter] at entered
    split at entered
    · cases entered
    · cases entered
    · next isDirectory => exact noDirectory isDirectory
  rw [enter, node?_update_of_ne different]
  exact entered

theorem foldlM_enter_update (noDirectory : tree.node? location ≠ some .directory)
    {names : List String} {here there : Location}
    (entered : names.foldlM tree.enter here = .ok there) :
    names.foldlM (tree.update location node).enter here = .ok there := by
  induction names generalizing here with
  | nil => exact entered
  | cons name names ih =>
    rw [List.foldlM_cons] at entered ⊢
    cases first : tree.enter here name with
    | error error =>
      rw [first] at entered
      cases entered
    | ok next =>
      rw [first] at entered
      rw [enter_update noDirectory first]
      exact ih entered

/-- A path leads to where it led before where no directory is written over. -/
theorem follow_update (noDirectory : tree.node? location ≠ some .directory) {there : Location}
    (followed : tree.follow path = .ok there) :
    (tree.update location node).follow path = .ok there := by
  rw [follow] at followed ⊢
  split_ifs at followed with empty cut long
  rw [if_neg empty, if_neg cut, if_neg long]
  exact foldlM_enter_update noDirectory followed

/-- A text is written where the path leads to, provided that no directory is there. -/
theorem writeText_eq_ok_iff : tree.writeText path text = .ok after ↔
    ∃ location, tree.follow path = .ok location ∧ tree.node? location ≠ some .directory ∧
      path.endsInSlash = false ∧ after = tree.update location (.file text.toUTF8) := by
  rw [writeText]
  constructor
  · intro written
    cases followed : tree.follow path with
    | error error =>
      rw [followed] at written
      cases written
    | ok location =>
      simp only [followed, bind, Except.bind] at written
      split at written
      · cases written
      · next other =>
        split_ifs at written with slash
        cases written
        exact ⟨location, rfl, other, Bool.eq_false_iff.mpr slash, rfl⟩
  · rintro ⟨location, followed, noDirectory, noSlash, rfl⟩
    simp only [followed, noSlash, bind, Except.bind, Bool.false_eq_true, if_false]
    rfl

theorem fromUTF8?_toUTF8 (text : String) : String.fromUTF8? text.toUTF8 = some text :=
  dif_pos text.isValidUTF8

theorem eq_toUTF8_of_fromUTF8? {bytes : ByteArray} (decoded : String.fromUTF8? bytes = some text) :
    bytes = text.toUTF8 := by
  rw [String.fromUTF8?] at decoded
  split_ifs at decoded
  cases decoded
  rfl

/-! ## Which texts are read -/

section Reading

/-- A path on which a directory is missing, or that is no good path, cannot be read. -/
theorem readText_of_find_error {error : AccessError} (failed : tree.find path = .error error) :
    tree.readText path = .error error := by
  rw [readText, failed]
  rfl

theorem readText_of_directory (found : tree.find path = .ok .directory) :
    tree.readText path = .error .isDirectory := by
  rw [readText, found]
  rfl

theorem readText_of_text (found : tree.find path = .ok (.file text.toUTF8)) :
    tree.readText path = .ok text := by
  simp only [readText, found, bind, Except.bind, fromUTF8?_toUTF8]
  rfl

/-- Bytes that are those of no text cannot be read. -/
theorem readText_of_bytes {bytes : ByteArray} (found : tree.find path = .ok (.file bytes))
    (noText : ∀ text : String, bytes ≠ text.toUTF8) : tree.readText path = .error .notText := by
  cases decoded : String.fromUTF8? bytes with
  | some text => exact absurd (eq_toUTF8_of_fromUTF8? decoded) (noText text)
  | none =>
    simp only [readText, found, bind, Except.bind, decoded]
    rfl

/-- A text is read where the path leads to a file of its bytes. -/
theorem readText_eq_ok_iff :
    tree.readText path = .ok text ↔ tree.find path = .ok (.file text.toUTF8) := by
  constructor
  · intro read
    cases found : tree.find path with
    | error error => cases (readText_of_find_error found).symm.trans read
    | ok node =>
      cases node with
      | directory => cases (readText_of_directory found).symm.trans read
      | file bytes =>
        by_cases isText : ∃ other : String, bytes = other.toUTF8
        · obtain ⟨other, rfl⟩ := isText
          cases (readText_of_text found).symm.trans read
          rfl
        · cases (readText_of_bytes found (not_exists.mp isText)).symm.trans read
  · exact readText_of_text

end Reading

/-- What was written to a path is read from it. -/
theorem readText_of_writeText (written : tree.writeText path text = .ok after) :
    after.readText path = .ok text := by
  obtain ⟨location, followed, noDirectory, noSlash, rfl⟩ := writeText_eq_ok_iff.mp written
  have found : (tree.update location (.file text.toUTF8)).find path = .ok (.file text.toUTF8) := by
    simp only [find, follow_update noDirectory followed, bind, Except.bind, node?_update_self,
      noSlash]
    rfl
  exact readText_of_text found

/-- What becomes of a tree when a text is written to it: nothing if that fails. -/
theorem run_writeText (tree : FileTree) (path : Path) (text : String) :
    ((Files.ofTree (StateM FileTree)).writeText path text).run tree =
      match tree.writeText path text with
      | .error error => (.error error, tree)
      | .ok after => (.ok (), after) := by
  have asked : (getThe FileTree : StateM FileTree FileTree).run tree = pure (tree, tree) := rfl
  simp only [Files.ofTree, StateT.run_bind, asked, pure_bind]
  cases tree.writeText path text <;> rfl

end Lamplight.FileTree
