import LoopLang.Files.Tree
import Mathlib.Data.List.Basic

/-! Writing a file changes no directory, so that other files can be written as before. -/

namespace LoopLang.FileTree

variable {tree after : FileTree} {path directory start : Path} {name content : String}
  {way : List String}

/-- Whatever holds of a known path or of the new one holds of a path behind putting a text there. -/
theorem mem_put {files : List (Path × String)} {known : Path} {text : String}
    (member : (known, text) ∈ put path content files) : known = path ∨ (known, text) ∈ files := by
  -- The file is replaced where it stands, or put behind all others.
  induction files with
  | nil => simp_all [put]
  | cons file rest ih =>
    obtain ⟨other, old⟩ := file
    unfold put at member
    split at member
    · rcases List.mem_cons.mp member with same | inside
      · cases same
        exact .inl rfl
      · exact .inr (List.mem_cons_of_mem _ inside)
    · rcases List.mem_cons.mp member with same | inside
      · cases same
        exact .inr List.mem_cons_self
      · exact (ih inside).imp_right (List.mem_cons_of_mem _)

/-- Putting a text somewhere leaves all paths known. -/
theorem exists_mem_put {files : List (Path × String)} {known : Path} {text : String}
    (member : (known, text) ∈ files) :
    ∃ text, (known, text) ∈ put path content files := by
  -- No file is lost, though its content may be a new one.
  induction files with
  | nil => cases member
  | cons file rest ih =>
    obtain ⟨other, old⟩ := file
    unfold put
    split
    · rename_i same
      rcases List.mem_cons.mp member with equal | inside
      · cases equal
        exact ⟨content, same ▸ List.mem_cons_self⟩
      · exact ⟨text, List.mem_cons_of_mem _ inside⟩
    · rcases List.mem_cons.mp member with equal | inside
      · cases equal
        exact ⟨text, List.mem_cons_self⟩
      · obtain ⟨text, there⟩ := ih inside
        exact ⟨text, List.mem_cons_of_mem _ there⟩

/-- A directory is the root, or the beginning of a known one, or of a file further down. -/
theorem isDirectory_iff :
    tree.isDirectory path = true ↔ path = [] ∨ (∃ known ∈ tree.directories, path <+: known) ∨
    ∃ known text, (known, text) ∈ tree.files ∧ path <+: known ∧ path.length < known.length := by
  simp [isDirectory, or_assoc]

/-- What is above a directory is one. -/
theorem isDirectory_of_above (found : tree.isDirectory path = true) (above : directory <+: path) :
    tree.isDirectory directory = true := by
  rw [isDirectory_iff] at found ⊢
  -- A directory is the root, is known itself, or lies above a known file.
  rcases found with rfl | ⟨known, member, inside⟩ | ⟨known, text, member, inside, longer⟩
  · exact .inl (List.prefix_nil.mp above)
  · exact .inr (.inl ⟨known, member, above.trans inside⟩)
  · exact .inr
      (.inr ⟨known, text, member, above.trans inside, Nat.lt_of_le_of_lt above.length_le longer⟩)

/-- Whoever goes through directories ends in one. -/
theorem isDirectory_of_enter (started : tree.isDirectory start = true)
    (entered : tree.enter name start way = .ok directory) :
    tree.isDirectory directory = true := by
  -- Every step on the way is looked at before the next one is taken.
  induction way generalizing start with
  | nil =>
    cases entered
    exact started
  | cons next rest ih =>
    unfold enter at entered
    dsimp only at entered
    split at entered
    · cases entered
    · split at entered
      · rename_i found
        exact ih found entered
      · split at entered <;> cases entered

/-- The same directories can be gone through. -/
theorem enter_congr (same : ∀ path, after.isDirectory path = tree.isDirectory path)
    (entered : tree.enter name start way = .ok directory) :
    after.enter name start way = .ok directory := by
  -- Only where the way is blocked files matter too, for they decide about the error.
  induction way generalizing start with
  | nil => exact entered
  | cons next rest ih =>
    unfold enter at entered ⊢
    dsimp only at entered ⊢
    split at entered
    · cases entered
    · rename_i fits
      split at entered
      · rename_i found
        rw [if_neg fits, same, if_pos found]
        exact ih entered
      · split at entered <;> cases entered

/-- The names in a text that are not empty. -/
def parts (name : String) : List String := (Path.names name).filter (· ≠ "")

/-- The path of a file that can be written, by the directory that it lies in. -/
theorem target_iff : tree.target name = .ok path ↔
    ('\x00' ∉ name.toList ∧ name.utf8ByteSize ≤ maxPathBytes) ∧
      ∃ last directory, (parts name).getLast? = some last ∧
        tree.enter name (if Path.isAbsolute name then [] else tree.working)
          (parts name).dropLast = .ok directory ∧
        (tree.isDirectory (Path.step directory last) = false ∧ name.toList.getLast? ≠ some '/') ∧
        last.utf8ByteSize ≤ maxNameBytes ∧ path = Path.step directory last := by
  unfold target
  -- Names that the system refuses as a whole come first.
  by_cases null : '\x00' ∈ name.toList
  · simp [null, throw, throwThe, MonadExceptOf.throw, bind, Except.bind]
  by_cases long : maxPathBytes < name.utf8ByteSize
  · simp [null, long, throw, throwThe, MonadExceptOf.throw, bind, Except.bind, Nat.not_le.mpr long]
  simp only [null, long, List.contains_iff_mem, if_false, not_false_eq_true, true_and,
    Nat.not_lt.mp long]
  split
  -- A name without parts has no last one.
  · rename_i nothing
    have nothing : (parts name).getLast? = none := nothing
    simp [nothing]
  · rename_i last ended
    have ended : (parts name).getLast? = some last := ended
    show (tree.enter name (if Path.isAbsolute name then [] else tree.working)
        (parts name).dropLast >>= _) = _ ↔ _
    rw [ended]
    cases tree.enter name (if Path.isAbsolute name then [] else tree.working)
      (parts name).dropLast with
    | error error => simp [bind, Except.bind]
    | ok directory =>
      -- What is left are the checks of the last name in that directory.
      constructor
      · intro placed
        replace placed : (if _ then _ else if _ then _ else _) = Except.ok path := placed
        split at placed
        · cases placed
        · rename_i free
          split at placed
          · cases placed
          · rename_i fits
            cases placed
            exact ⟨last, directory, rfl, rfl, by simpa using free, Nat.not_lt.mp fits, rfl⟩
      · rintro ⟨_, _, ⟨⟩, ⟨⟩, ⟨free, plain⟩, fits, rfl⟩
        show (if _ then _ else if _ then _ else _) = _
        rw [if_neg (by simp [free, plain]), if_neg (Nat.not_lt.mpr fits)]

/-- From a directory, only a name that is one leads to a path that is none. -/
theorem step_of_free (there : tree.isDirectory directory = true) {last : String}
    (free : tree.isDirectory (Path.step directory last) = false) :
    Path.step directory last = directory ++ [last] := by
  unfold Path.step at free ⊢
  split at free
  -- An empty name, or a dot, would lead to the directory itself.
  · rw [there] at free
    cases free
  · rename_i further
    rw [if_neg further]
    split at free
    -- Two dots would lead to the one above, which exists too.
    · rw [isDirectory_of_above there (List.dropLast_prefix directory)] at free
      cases free
    · rename_i onward
      rw [if_neg onward]

/-- A file that can be written lies in a directory that there is. -/
theorem exists_of_target (placed : tree.isDirectory tree.working = true)
    (found : tree.target name = .ok path) :
    ∃ directory last, path = directory ++ [last] ∧ tree.isDirectory directory = true := by
  obtain ⟨-, last, directory, -, entered, ⟨free, -⟩, -, rfl⟩ := target_iff.mp found
  -- The directory has been entered from the root or from the working directory.
  have there : tree.isDirectory directory = true := by
    refine isDirectory_of_enter ?_ entered
    split
    · rfl
    · exact placed
  exact ⟨directory, last, step_of_free there free, there⟩

/-- Putting a file into a directory makes no other one. -/
theorem isDirectory_put {last : String} (there : tree.isDirectory directory = true) (path : Path) :
    { tree with files := put (directory ++ [last]) content tree.files }.isDirectory path =
      tree.isDirectory path := by
  rw [Bool.eq_iff_iff, isDirectory_iff]
  constructor
  · rintro (rfl | ⟨known, member, inside⟩ | ⟨known, text, member, inside, longer⟩)
    · rfl
    · exact isDirectory_iff.mpr (.inr (.inl ⟨known, member, inside⟩))
    · rcases mem_put member with rfl | member
      -- What is above the new file is its directory, or above that.
      · have above : path <+: directory := by
          rcases List.prefix_concat_iff.mp inside with same | above
          · rw [same] at longer
            exact absurd longer (Nat.lt_irrefl _)
          · exact above
        exact isDirectory_of_above there above
      · exact isDirectory_iff.mpr (.inr (.inr ⟨known, text, member, inside, longer⟩))
  -- Files only come in addition, so no directory is lost.
  · intro found
    rcases isDirectory_iff.mp found with rfl | known | ⟨known, text, member, inside, longer⟩
    · exact .inl rfl
    · exact .inr (.inl known)
    · obtain ⟨text, member⟩ := exists_mem_put member
      exact .inr (.inr ⟨known, text, member, inside, longer⟩)

/-- A file can be written exactly if there is a path for it. -/
theorem write_eq (found : tree.target name = .ok path) :
    tree.write name content = .ok { tree with files := put path content tree.files } := by
  unfold write
  rw [found]
  rfl

/-- Where the same directories are, the same files can be written, whatever is in them. -/
theorem target_congr (found : tree.target name = .ok path)
    (working : after.working = tree.working)
    (same : ∀ path, after.isDirectory path = tree.isDirectory path) :
    after.target name = .ok path := by
  obtain ⟨sizes, last, directory, ended, entered, ⟨free, slash⟩, fits⟩ := target_iff.mp found
  rw [← working] at entered
  exact target_iff.mpr ⟨sizes, last, directory, ended, enter_congr same entered,
    ⟨(same _).trans free, slash⟩, fits⟩

/-- Files of all the given names can be written, each of them before or after the others. -/
structure Offers (tree : FileTree) (names : List String) : Prop where
  working : tree.isDirectory tree.working = true
  targets : ∀ name ∈ names, ∃ path, tree.target name = .ok path

/-- What can be written is written, and the others can still be. -/
theorem Offers.write {names : List String} (offers : tree.Offers names) (member : name ∈ names)
    (content : String) :
    ∃ after, tree.write name content = .ok after ∧ after.Offers names := by
  obtain ⟨path, found⟩ := offers.targets name member
  obtain ⟨directory, last, rfl, there⟩ := exists_of_target offers.working found
  -- A written file adds no directories that would stand in the way of another name.
  refine ⟨_, write_eq found, (isDirectory_put there _).trans offers.working, fun other wanted => ?_⟩
  obtain ⟨path, found⟩ := offers.targets other wanted
  exact ⟨path, target_congr found rfl (isDirectory_put there)⟩

end LoopLang.FileTree
