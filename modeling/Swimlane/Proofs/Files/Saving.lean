import Swimlane.Files.Tree

/-!
# Saving files

A file is saved by way of a draft, after the directories above it were made. Nothing but the file
and its draft is touched by that: every directory stays where it is, and every other file keeps its
bytes.

- `Files.Tree.Keeps`: a change that touches given places only.
- `Files.Tree.Stands`: something stands in a directory under a name.
- `Files.Tree.Keeps.read_eq`: what stands at a place that is not touched reads as before.
- `Files.Tree.Free`, `Files.Tree.exists_free_of_save`, `Files.Tree.save_of_free`: when a file can be
  saved.
- `Files.Tree.exists_keeps_of_save`: what saving a file leaves behind.
- `Files.Tree.save_after_save`: files of one directory do not stand in each other's way.
-/

namespace Swimlane.Files

/-! ### Paths -/

namespace Path

theorem child_injective {p q : Path} {m n : String} (h : p.child m = q.child n) :
    p = q ∧ m = n := by
  cases p
  cases q
  obtain ⟨rfl, hnames⟩ := Path.mk.inj h
  obtain ⟨rfl, hlast⟩ := List.append_inj' hnames rfl
  exact ⟨rfl, List.singleton_inj.1 hlast⟩

@[simp] theorem name_child (p : Path) (n : String) : (p.child n).name = n := by
  simp [name, child]

@[simp] theorem parent_child (p : Path) (n : String) : (p.child n).parent = p := by
  simp [parent, child]

theorem follow_eq_child {n : String} (h : n ≠ up) (p : Path) : p.follow n = p.child n := if_pos h

theorem isBelow_child (p : Path) (n : String) : (p.child n).isBelow p = true := by
  simp [isBelow, child]

/-- No entry of a directory lies below another. -/
theorem isBelow_child_child (p : Path) (m n : String) :
    (p.child m).isBelow (p.child n) = false := by
  simp [isBelow, child]

/-- What lies above an entry of a directory lies above all of them. -/
theorem isBelow_sibling {p q : Path} {m : String} (h : (p.child m).isBelow q = true) (n : String) :
    (p.child n).isBelow q = true := by
  simp only [isBelow, child, Bool.and_eq_true, decide_eq_true_eq, List.isPrefixOf_iff_prefix,
    List.length_append, List.length_singleton] at h ⊢
  obtain ⟨⟨horigin, hprefix⟩, hlength⟩ := h
  have hparent : q.names <+: p.names :=
    List.prefix_of_prefix_length_le hprefix (List.prefix_append _ _) (by omega)
  exact ⟨⟨horigin, hparent.trans (List.prefix_append _ _)⟩, hlength⟩

/-- Where the names of a path are followed from. -/
def start (p : Path) : Path := ⟨if p.origin = .here then .here else .top, []⟩

@[simp] theorem start_child (p : Path) (n : String) : (p.child n).start = p.start := rfl

end Path

namespace Tree

variable {t t' : Tree} {touched : Path → Prop}

/-! ### Entering and removing -/

theorem file?_put_self (t : Tree) (place : Path) (bytes : List UInt8) :
    file? (Table.put place (.file bytes) t) place = some bytes := by
  rw [file?, Table.lookup_put, if_pos rfl]

theorem file?_put_of_ne {place q : Path} (h : q ≠ place) (t : Tree) (entry : Entry) :
    file? (Table.put place entry t) q = t.file? q := by
  rw [file?, file?, Table.lookup_put, if_neg h]

theorem file?_put_directory {place : Path} (h : t.file? place = none) (q : Path) :
    file? (Table.put place .directory t) q = t.file? q := by
  by_cases hq : q = place
  · rw [file?, Table.lookup_put, if_pos hq, hq, h]
  · exact file?_put_of_ne hq t .directory

theorem lookup_filter_of_ne {place q : Path} (h : q ≠ place) (t : Tree) :
    (t.filter (·.1 ≠ place)).lookup q = t.lookup q := by
  induction t with
  | nil => rfl
  | cons e rest ih =>
    by_cases he : e.1 = place
    · have hne : (q == e.1) = false := by simpa [he] using h
      rw [List.filter_cons_of_neg (by simpa using he), List.lookup_cons, hne, ih]
    · rw [List.filter_cons_of_pos (by simpa using he), List.lookup_cons, List.lookup_cons, ih]

/-- A directory stays one if what it holds does, and if it is not itself replaced. -/
theorem isDirectory_of_entries {q : Path} (h : t.isDirectory q = true)
    (hlookup : t.lookup q = some .directory → t'.lookup q = some .directory)
    (hbelow : ∀ e ∈ t, e.1.isBelow q = true → ∃ e' ∈ t', e'.1.isBelow q = true) :
    t'.isDirectory q = true := by
  simp only [isDirectory, Bool.or_eq_true, decide_eq_true_eq, List.any_eq_true] at h ⊢
  rcases h with (hascent | hentry) | ⟨e, he, heq⟩
  · exact .inl (.inl hascent)
  · exact .inl (.inr (hlookup hentry))
  · exact .inr (hbelow e he heq)

/-- What is entered does not drop a place. -/
theorem exists_mem_put (place : Path) (entry : Entry) {e : Path × Entry} (he : e ∈ t) :
    ∃ e' ∈ Table.put place entry t, e'.1 = e.1 := by
  have hmem : e.1 ∈ (Table.put place entry t).map (·.1) := by
    rw [Table.map_fst_put]
    have hkey : e.1 ∈ t.map (·.1) := List.mem_map_of_mem he
    split
    · exact hkey
    · exact List.mem_append_left _ hkey
  exact List.mem_map.1 hmem

theorem mem_put_self (place : Path) (entry : Entry) (t : Tree) :
    (place, entry) ∈ Table.put place entry t := by
  refine Table.mem_of_lookup_eq_some ?_
  rw [Table.lookup_put, if_pos rfl]

/-! ### Following a path -/

/-- Why a path leads nowhere whatever stands in a tree. -/
def obstacle? (p : Path) : Option Obstacle :=
  if p.names.any fun n => n.toList.contains '\x00' then some .zeroCharacter
  else if pathLimit ≤ p.text.utf8ByteSize then some .longName
  else none

theorem locate_eq (t : Tree) (p : Path) :
    t.locate p = match obstacle? p with
      | some o => .error o
      | none => t.walk p.start p.names := by
  rw [locate, obstacle?]
  split
  · rfl
  · split <;> rfl

theorem locate_eq_ok {p q : Path} :
    t.locate p = .ok q ↔ obstacle? p = none ∧ t.walk p.start p.names = .ok q := by
  rw [locate_eq]
  cases obstacle? p with
  | none => simp
  | some o => simp

theorem walk_nil_eq_ok {place q : Path} : t.walk place [] = .ok q ↔ place = q := by
  rw [walk, Except.ok.injEq]

/-- A name is followed from a directory where no file stands. -/
theorem walk_cons_eq_ok {place q : Path} {name : String} {rest : List String} :
    t.walk place (name :: rest) = .ok q ↔
      t.file? place = none ∧ t.isDirectory place = true ∧ name.utf8ByteSize ≤ nameLimit ∧
        t.walk (place.follow name) rest = .ok q := by
  rw [walk]
  cases hfile : t.file? place with
  | some bytes => simp
  | none =>
    cases hdir : t.isDirectory place with
    | false => simp
    | true =>
      by_cases hlong : nameLimit < name.utf8ByteSize
      · simp [hlong, Nat.not_le.2 hlong]
      · simp [hlong, Nat.not_lt.1 hlong]

/-- The names of a path are followed one after another. -/
theorem walk_append_eq_ok {place q : Path} {names more : List String} :
    t.walk place (names ++ more) = .ok q ↔
      ∃ r, t.walk place names = .ok r ∧ t.walk r more = .ok q := by
  induction names generalizing place with
  | nil => simp [walk_nil_eq_ok]
  | cons name rest ih =>
    rw [List.cons_append, walk_cons_eq_ok, ih]
    simp only [walk_cons_eq_ok]
    constructor
    · rintro ⟨hfile, hdir, hname, r, hr, hq⟩
      exact ⟨r, ⟨hfile, hdir, hname, hr⟩, hq⟩
    · rintro ⟨r, ⟨hfile, hdir, hname, hr⟩, hq⟩
      exact ⟨hfile, hdir, hname, r, hr, hq⟩

/-- The way to the entry of a directory leads through the directory. -/
theorem locate_child_eq_ok {directory q : Path} {name : String} (hname : name ≠ Path.up) :
    t.locate (directory.child name) = .ok q ↔
      obstacle? (directory.child name) = none ∧ name.utf8ByteSize ≤ nameLimit ∧
        ∃ place, t.walk directory.start directory.names = .ok place ∧ t.file? place = none ∧
          t.isDirectory place = true ∧ place.child name = q := by
  rw [locate_eq_ok, Path.start_child, Path.child, walk_append_eq_ok]
  simp only [walk_cons_eq_ok, walk_nil_eq_ok, Path.follow_eq_child hname]
  constructor
  · rintro ⟨hobstacle, place, hplace, hfile, hdir, hlong, hq⟩
    exact ⟨hobstacle, hlong, place, hplace, hfile, hdir, hq⟩
  · rintro ⟨hobstacle, hlong, place, hplace, hfile, hdir, hq⟩
    exact ⟨hobstacle, place, hplace, hfile, hdir, hlong, hq⟩

/-! ### What stands in a directory -/

/-- Something stands under a name in a directory, which itself is found at a place. -/
structure Stands (t : Tree) (directory : Path) (name : String) (place : Path) : Prop where
  walk : t.walk directory.start directory.names = .ok place
  isDirectory : t.isDirectory place = true
  has : t.has (place.child name) = true

/-- A name is followed from where the names before it lead. -/
theorem walk_append {place q : Path} {names : List String} (h : t.walk place names = .ok q)
    (more : List String) : t.walk place (names ++ more) = t.walk q more := by
  induction names generalizing place with
  | nil =>
    rw [walk_nil_eq_ok.1 h]
    rfl
  | cons name rest ih =>
    obtain ⟨hfile, hdir, hname, hrest⟩ := walk_cons_eq_ok.1 h
    rw [List.cons_append, Tree.walk, hfile, hdir, if_neg (by simp), if_neg (by simp),
      if_neg (Nat.not_lt.2 hname), ih hrest]

theorem has_of_mem {place : Path} {entry : Entry} (h : (place, entry) ∈ t) :
    t.has place = true := by
  rw [has, file?, isDirectory]
  cases hlookup : t.lookup place with
  | none =>
    have hne := List.lookup_eq_none_iff.1 hlookup _ h
    simp at hne
  | some found => cases found <;> simp

namespace Stands

variable {directory place : Path} {name : String}

/-- What stands at the end of a path is found there. -/
theorem of_locate {q : Path} (hname : name ≠ Path.up)
    (h : t.locate (directory.child name) = .ok q) (hhas : t.has q = true) :
    ∃ place, q = place.child name ∧ t.Stands directory name place := by
  obtain ⟨-, -, place, hwalk, -, hdir, rfl⟩ := (locate_child_eq_ok hname).1 h
  exact ⟨place, rfl, hwalk, hdir, hhas⟩

/-- The files of a directory stand in it. -/
theorem of_mem_fileNames (h : name ∈ t.fileNames directory) :
    ∃ place, t.Stands directory name place := by
  rw [fileNames] at h
  split at h
  · cases h
  · next place hlocate =>
    obtain ⟨⟨q, entry⟩, he, hentry⟩ := List.mem_filterMap.1 h
    cases entry with
    | directory => cases hentry
    | file bytes =>
      dsimp only at hentry
      split at hentry
      · next hq =>
        obtain rfl := Option.some.inj hentry
        rw [hq] at he
        have hbelow : (place.child q.name).isBelow place = true := Path.isBelow_child _ _
        have hdir : t.isDirectory place = true := by
          rw [Tree.isDirectory, Bool.or_eq_true]
          exact .inr (List.any_eq_true.2 ⟨_, he, hbelow⟩)
        exact ⟨place, (locate_eq_ok.1 hlocate).2, hdir, has_of_mem he⟩
      · cases hentry

theorem locate_eq (hs : t.Stands directory name place) :
    t.locate (directory.child name) = match obstacle? (directory.child name) with
      | some o => .error o
      | none => t.walk place [name] := by
  rw [Tree.locate_eq, Path.start_child, Path.child, walk_append hs.walk]

end Stands

/-! ### Changes that leave the rest alone -/

/-- A change keeps every directory, and every file but those at the places that it touches. -/
structure Keeps (touched : Path → Prop) (t t' : Tree) : Prop where
  directory : ∀ q, t.isDirectory q = true → t'.isDirectory q = true ∧ t'.file? q = t.file? q
  file : ∀ q, ¬ touched q → t'.file? q = t.file? q

namespace Keeps

theorem refl (touched : Path → Prop) (t : Tree) : Keeps touched t t :=
  ⟨fun _ h => ⟨h, rfl⟩, fun _ _ => rfl⟩

theorem trans {t'' : Tree} (h : Keeps touched t t') (h' : Keeps touched t' t'') :
    Keeps touched t t'' where
  directory q hq := by
    obtain ⟨hdir, hfile⟩ := h.directory q hq
    obtain ⟨hdir', hfile'⟩ := h'.directory q hdir
    exact ⟨hdir', hfile'.trans hfile⟩
  file q hq := (h'.file q hq).trans (h.file q hq)

theorem mono {touched' : Path → Prop} (h : Keeps touched t t') (hle : ∀ q, touched q → touched' q) :
    Keeps touched' t t' :=
  ⟨h.directory, fun q hq => h.file q fun htouched => hq (hle q htouched)⟩

/-- A way that is open stays open. -/
theorem walk_eq (h : Keeps touched t t') {place q : Path} {names : List String}
    (hwalk : t.walk place names = .ok q) : t'.walk place names = .ok q := by
  induction names generalizing place with
  | nil => exact hwalk
  | cons name rest ih =>
    obtain ⟨hfile, hdir, hname, hrest⟩ := walk_cons_eq_ok.1 hwalk
    obtain ⟨hdir', hfile'⟩ := h.directory place hdir
    exact walk_cons_eq_ok.2 ⟨hfile'.trans hfile, hdir', hname, ih hrest⟩

theorem locate_eq (h : Keeps touched t t') {p q : Path} (hlocate : t.locate p = .ok q) :
    t'.locate p = .ok q := by
  obtain ⟨hobstacle, hwalk⟩ := locate_eq_ok.1 hlocate
  exact locate_eq_ok.2 ⟨hobstacle, h.walk_eq hwalk⟩

/-- What stands at a place that is not touched stays there, -/
theorem stands (h : Keeps touched t t') {directory place : Path} {name : String}
    (hs : t.Stands directory name place) (hplace : ¬ touched (place.child name)) :
    t'.Stands directory name place where
  walk := h.walk_eq hs.walk
  isDirectory := (h.directory place hs.isDirectory).1
  has := by
    have hhas := hs.has
    simp only [has, Bool.or_eq_true] at hhas ⊢
    rcases hhas with hfile | hdir
    · exact .inl (by rwa [h.file _ hplace])
    · exact .inr (h.directory _ hdir).1

/-- and reads as before. -/
theorem read_eq (h : Keeps touched t t') {directory place : Path} {name : String}
    (hname : name ≠ Path.up) (hs : t.Stands directory name place)
    (hplace : ¬ touched (place.child name)) :
    t'.read (directory.child name) = t.read (directory.child name) := by
  have hs' := h.stands hs hplace
  have hlocate : t'.locate (directory.child name) = t.locate (directory.child name) := by
    rw [hs.locate_eq, hs'.locate_eq]
    simp only [walk, (h.directory place hs.isDirectory).2, hs.isDirectory, hs'.isDirectory]
  rw [read, read, hlocate]
  cases hq : t.locate (directory.child name) with
  | error o => rfl
  | ok q =>
    have hq : q = place.child name := by
      obtain ⟨-, -, place', hplace', -, -, rfl⟩ := (locate_child_eq_ok hname).1 hq
      rw [Except.ok.inj (hplace'.symm.trans hs.walk)]
    dsimp only
    rw [hq, h.file _ hplace]
    cases hfile : t.file? (place.child name) with
    | some bytes => rfl
    | none =>
      have hdir : t.isDirectory (place.child name) = true := by
        have hhas := hs.has
        rwa [has, hfile] at hhas
      dsimp only
      rw [hdir, (h.directory _ hdir).1]

/-- A directory is made where nothing stands. -/
theorem put_directory {place : Path} (h : t.has place = false) :
    Keeps touched t (Table.put place .directory t) := by
  simp only [has, Bool.or_eq_false_iff, Option.isSome_eq_false_iff, Option.isNone_iff_eq_none] at h
  have hfile := file?_put_directory h.1
  refine ⟨fun q hq => ⟨isDirectory_of_entries hq ?_ ?_, hfile q⟩, fun q _ => hfile q⟩
  · intro hlookup
    rw [Table.lookup_put]
    split
    · rfl
    · exact hlookup
  · intro e he hbelow
    obtain ⟨e', he', heq⟩ := exists_mem_put place .directory he
    exact ⟨e', he', heq ▸ hbelow⟩

/-- A file is put where no directory stands. -/
theorem put_file {place : Path} (h : t.isDirectory place = false) (bytes : List UInt8) :
    Keeps (· = place) t (Table.put place (.file bytes) t) := by
  refine ⟨fun q hq => ?_, fun q hq => file?_put_of_ne hq t _⟩
  have hne : q ≠ place := by
    rintro rfl
    rw [h] at hq
    cases hq
  refine ⟨isDirectory_of_entries hq ?_ ?_, file?_put_of_ne hne t _⟩
  · intro hlookup
    rwa [Table.lookup_put, if_neg hne]
  · intro e he hbelow
    obtain ⟨e', he', heq⟩ := exists_mem_put place (.file bytes) he
    exact ⟨e', he', heq ▸ hbelow⟩

/-- A file takes another place in its directory. -/
theorem move {place : Path} {m n : String} (hm : t.isDirectory (place.child m) = false)
    (hn : t.isDirectory (place.child n) = false) (bytes : List UInt8) :
    Keeps (fun q => q = place.child m ∨ q = place.child n) t
      (Table.put (place.child n) (.file bytes) (t.filter (·.1 ≠ place.child m))) := by
  have hkept : ∀ q, q ≠ place.child m → q ≠ place.child n →
      (Table.put (place.child n) (.file bytes) (t.filter (·.1 ≠ place.child m))).lookup q =
        t.lookup q := by
    intro q hqm hqn
    rw [Table.lookup_put, if_neg hqn, lookup_filter_of_ne hqm]
  have hfile : ∀ q, q ≠ place.child m → q ≠ place.child n →
      file? (Table.put (place.child n) (.file bytes) (t.filter (·.1 ≠ place.child m))) q =
        t.file? q := by
    intro q hqm hqn
    rw [file?, file?, hkept q hqm hqn]
  refine ⟨fun q hq => ?_, fun q hq => hfile q (fun h => hq (.inl h)) fun h => hq (.inr h)⟩
  have hqm : q ≠ place.child m := by
    rintro rfl
    rw [hm] at hq
    cases hq
  have hqn : q ≠ place.child n := by
    rintro rfl
    rw [hn] at hq
    cases hq
  refine ⟨isDirectory_of_entries hq (fun h => (hkept q hqm hqn).trans h) ?_, hfile q hqm hqn⟩
  intro e he hbelow
  by_cases hdraft : e.1 = place.child m
  · -- the directory holds the file at its new place instead
    rw [hdraft] at hbelow
    exact ⟨_, mem_put_self _ _ _, Path.isBelow_sibling hbelow n⟩
  · have hmem : e ∈ t.filter (·.1 ≠ place.child m) := List.mem_filter.2 ⟨he, by simpa using hdraft⟩
    obtain ⟨e', he', heq⟩ := exists_mem_put (place.child n) (.file bytes) hmem
    exact ⟨e', he', heq ▸ hbelow⟩

end Keeps

/-! ### Saving -/

theorem Keeps.of_makeDirectory {p : Path} (h : t.makeDirectory p = .ok t') :
    Keeps touched t t' := by
  rw [makeDirectory] at h
  split at h
  · cases h
  · split at h
    · cases h
    · next hhas =>
      cases h
      exact .put_directory (by simpa using hhas)

theorem Keeps.of_openDirectory {p : Path} (h : t.openDirectory p = .ok t') :
    Keeps touched t t' := by
  rw [openDirectory] at h
  split at h
  · next hmake =>
    cases h
    exact .of_makeDirectory hmake
  · cases hdir : t.isDirectoryAt p with
    | error fault =>
      rw [hdir] at h
      cases h
    | ok there =>
      rw [hdir] at h
      cases there with
      | false => cases h
      | true =>
        cases h
        exact .refl touched t

/-- Directories are made from the top downwards. -/
theorem Keeps.of_ensureFrom {origin : Origin} {names : List String}
    (h : t.ensureFrom origin names = .ok t') : Keeps touched t t' := by
  induction names generalizing t' with
  | nil => exact .of_openDirectory h
  | cons name rest ih =>
    rw [ensureFrom] at h
    split at h
    · cases habove : t.ensureFrom origin rest with
      | error fault =>
        rw [habove] at h
        cases h
      | ok above =>
        rw [habove] at h
        exact (ih habove).trans (.of_openDirectory h)
    · exact .of_openDirectory h

theorem exists_put_of_put {p : Path} {bytes : List UInt8} (h : t.put p bytes = .ok t') :
    ∃ place, t.locate p = .ok place ∧ t.isDirectory place = false ∧
      t' = Table.put place (.file bytes) t := by
  rw [put] at h
  split at h
  · cases h
  · next place hlocate =>
    split at h
    · cases h
    · next hdir =>
      cases h
      exact ⟨place, hlocate, by simpa using hdir, rfl⟩

theorem exists_put_of_move {draft p : Path} (h : t.move draft p = .ok t') :
    ∃ source place bytes, t.locate draft = .ok source ∧ t.locate p = .ok place ∧
      t.isDirectory place = false ∧ t.file? source = some bytes ∧
      t' = Table.put place (.file bytes) (t.filter (·.1 ≠ source)) := by
  rw [move] at h
  split at h
  · cases h
  · cases h
  · next source place hsource hplace =>
    split at h
    · cases h
    · split at h
      · cases h
      · next hdir =>
        split at h
        · cases h
        · next bytes hfile =>
          cases h
          exact ⟨source, place, bytes, hsource, hplace, by simpa using hdir, hfile, rfl⟩

theorem draftOf_child (directory : Path) (name : String) :
    draftOf (directory.child name) = directory.child (name ++ ".tmp") := by
  simp [draftOf]

theorem draft_ne_up (name : String) : name ++ ".tmp" ≠ Path.up := by
  intro h
  have hlength : name.length + 4 = 2 := by
    rw [← show (name ++ ".tmp").length = name.length + 4 from String.length_append ..]
    exact congrArg String.length h
  omega

/-- A file makes no directory of a place that does not lie above it. -/
theorem isDirectory_put_file {place q : Path} (h : t.isDirectory q = false)
    (hbelow : place.isBelow q = false) (bytes : List UInt8) :
    isDirectory (Table.put place (.file bytes) t) q = false := by
  simp only [isDirectory, Bool.or_eq_false_iff, decide_eq_false_iff_not, List.any_eq_false] at h ⊢
  obtain ⟨⟨hascent, hlookup⟩, hold⟩ := h
  refine ⟨⟨hascent, ?_⟩, fun e he => ?_⟩
  · rw [Table.lookup_put]
    split
    · exact nofun
    · exact hlookup
  · have hkey : e.1 ∈ (Table.put place (.file bytes) t).map (·.1) := List.mem_map_of_mem he
    rw [Table.map_fst_put] at hkey
    have hcases : e.1 ∈ t.map (·.1) ∨ e.1 = place := by
      split at hkey
      · exact .inl hkey
      · simpa using hkey
    rcases hcases with hmem | hnew
    · obtain ⟨e', he', heq⟩ := List.mem_map.1 hmem
      exact heq ▸ hold e' he'
    · rw [hnew, hbelow]
      exact nofun

/-- Nor does what is removed. -/
theorem isDirectory_filter {place q : Path} (h : t.isDirectory q = false) :
    isDirectory (t.filter (·.1 ≠ place)) q = false := by
  simp only [isDirectory, Bool.or_eq_false_iff, decide_eq_false_iff_not, List.any_eq_false] at h ⊢
  obtain ⟨⟨hascent, hlookup⟩, hold⟩ := h
  refine ⟨⟨hascent, ?_⟩, fun e he => hold e (List.mem_filter.1 he).1⟩
  by_cases hq : q = place
  · have hnone : (t.filter (·.1 ≠ place)).lookup q = none := by
      refine List.lookup_eq_none_iff.2 fun e he => ?_
      have hne : e.1 ≠ place := by simpa using (List.mem_filter.1 he).2
      simpa [hq] using Ne.symm hne
    rw [hnone]
    exact nofun
  · rwa [lookup_filter_of_ne hq]

/-- A file may be put into a directory under a name. -/
structure Free (t : Tree) (directory : Path) (name : String) (place : Path) : Prop where
  locate : t.locate (directory.child name) = .ok (place.child name)
  isDirectory : t.isDirectory (place.child name) = false

/-- The tree after a file and its draft were put into the directory at a place. -/
def saved (t : Tree) (place : Path) (name : String) (bytes : List UInt8) : Tree :=
  Table.put (place.child name) (.file bytes)
    (List.filter (·.1 ≠ place.child (name ++ ".tmp"))
      (Table.put (place.child (name ++ ".tmp")) (.file bytes) t))

section

variable {directory place : Path} {name : String}

/-- Saving a file touches it and its draft. -/
theorem Keeps.saved (hdraft : t.isDirectory (place.child (name ++ ".tmp")) = false)
    (hfile : t.isDirectory (place.child name) = false) (bytes : List UInt8) :
    Keeps (fun q => q = place.child (name ++ ".tmp") ∨ q = place.child name) t
      (t.saved place name bytes) := by
  have hput : Keeps (· = place.child (name ++ ".tmp")) t _ := .put_file hdraft bytes
  refine (hput.mono fun q hq => .inl hq).trans (.move ?_ ?_ bytes)
  · exact isDirectory_put_file hdraft (Path.isBelow_child_child ..) bytes
  · exact isDirectory_put_file hfile (Path.isBelow_child_child ..) bytes

/-- The place of a name is in the place of the directory. -/
theorem Free.walk_eq (h : t.Free directory name place) (hname : name ≠ Path.up) :
    t.walk directory.start directory.names = .ok place := by
  obtain ⟨-, -, place', hwalk, -, -, hplace⟩ := (locate_child_eq_ok hname).1 h.locate
  rwa [(Path.child_injective hplace).1] at hwalk

/-- What was free in the directory still is. -/
theorem Free.saved {kept : String} (h : t.Free directory kept place)
    (hdraft : t.Free directory (name ++ ".tmp") place) (hfile : t.Free directory name place)
    (bytes : List UInt8) : (t.saved place name bytes).Free directory kept place where
  locate := (Keeps.saved hdraft.isDirectory hfile.isDirectory bytes).locate_eq h.locate
  isDirectory := isDirectory_put_file
    (isDirectory_filter (isDirectory_put_file h.isDirectory (Path.isBelow_child_child ..) bytes))
    (Path.isBelow_child_child ..) bytes

end

/-- A file is saved only if its directory can be made, and has room for it and its draft; -/
theorem exists_free_of_save {directory : Path} {name : String} {bytes : List UInt8}
    (hname : name ≠ Path.up) (h : t.save (directory.child name) bytes = (t', none)) :
    ∃ opened place, t.ensureDirectory directory = .ok opened ∧
      opened.Free directory (name ++ ".tmp") place ∧ opened.Free directory name place ∧
        t' = opened.saved place name bytes := by
  have hnames : (directory.child name).names.isEmpty = false := by simp [Path.child]
  rw [save, Path.parent_child, hnames] at h
  split at h
  · cases h
  · next opened hopened =>
    simp only [Bool.false_eq_true, if_false] at h
    split at h
    · cases h
    · next drafted hdrafted =>
      split at h
      · cases h
      · next moved hmoved =>
        cases h
        rw [draftOf_child] at hdrafted hmoved
        obtain ⟨draft, hdraft, hdraftDir, rfl⟩ := exists_put_of_put hdrafted
        obtain ⟨source, target, bytes', hsource, htarget, htargetDir, hfile, rfl⟩ :=
          exists_put_of_move hmoved
        -- the draft is found where it was put
        have hput : Keeps (· = draft) opened _ := .put_file hdraftDir bytes
        obtain rfl := Except.ok.inj (hsource.symm.trans (hput.locate_eq hdraft))
        rw [file?_put_self] at hfile
        cases hfile
        -- and the file next to it
        obtain ⟨-, -, place, hplace, hplaceFile, hplaceDir, rfl⟩ :=
          (locate_child_eq_ok (draft_ne_up name)).1 hdraft
        obtain ⟨hobstacle, hlength, place', hplace', -, -, rfl⟩ :=
          (locate_child_eq_ok hname).1 htarget
        obtain rfl := Except.ok.inj (hplace'.symm.trans (hput.walk_eq hplace))
        refine ⟨opened, place', hopened, ⟨hdraft, hdraftDir⟩, ⟨?_, ?_⟩, rfl⟩
        · exact (locate_child_eq_ok hname).2
            ⟨hobstacle, hlength, place', hplace, hplaceFile, hplaceDir, rfl⟩
        · cases hdir : opened.isDirectory (place'.child name) with
          | false => rfl
          | true => rw [(hput.directory _ hdir).1] at htargetDir; cases htargetDir

/-- and then it is. -/
theorem save_of_free {directory place : Path} {opened : Tree} {name : String}
    (hname : name ≠ Path.up) (hopen : t.ensureDirectory directory = .ok opened)
    (hdraft : opened.Free directory (name ++ ".tmp") place)
    (hfile : opened.Free directory name place) (bytes : List UInt8) :
    t.save (directory.child name) bytes = (opened.saved place name bytes, none) := by
  have hnames : (directory.child name).names.isEmpty = false := by simp [Path.child]
  have hput : opened.put (directory.child (name ++ ".tmp")) bytes =
      .ok (Table.put (place.child (name ++ ".tmp")) (.file bytes) opened) := by
    rw [put, hdraft.locate]
    dsimp only
    rw [hdraft.isDirectory, if_neg nofun]
  have hkeeps : Keeps (· = place.child (name ++ ".tmp")) opened _ :=
    .put_file hdraft.isDirectory bytes
  have hmove : move (Table.put (place.child (name ++ ".tmp")) (.file bytes) opened)
      (directory.child (name ++ ".tmp")) (directory.child name) =
      .ok (opened.saved place name bytes) := by
    rw [move, hkeeps.locate_eq hdraft.locate, hkeeps.locate_eq hfile.locate]
    dsimp only
    rw [Path.name_child, if_neg hname,
      isDirectory_put_file hfile.isDirectory (Path.isBelow_child_child ..), if_neg nofun,
      file?_put_self]
    rfl
  rw [save, Path.parent_child, hopen]
  simp only [hnames, Bool.false_eq_true, if_false, draftOf_child, hput, hmove]

/-- A directory that was made is there. -/
theorem exists_isDirectory_of_openDirectory {p : Path} (h : t.openDirectory p = .ok t') :
    ∃ place, t'.locate p = .ok place ∧ t'.isDirectory place = true := by
  rw [openDirectory] at h
  split at h
  · next hmake =>
    cases h
    rw [makeDirectory] at hmake
    split at hmake
    · cases hmake
    · next place hlocate =>
      split at hmake
      · cases hmake
      · next hhas =>
        cases hmake
        have hkeeps : Keeps (fun _ => False) t (Table.put place .directory t) :=
          .put_directory (by simpa using hhas)
        refine ⟨place, hkeeps.locate_eq hlocate, ?_⟩
        simp [isDirectory, Table.lookup_put]
  · cases hdir : t.isDirectoryAt p with
    | error fault =>
      rw [hdir] at h
      cases h
    | ok there =>
      rw [hdir] at h
      cases there with
      | false => cases h
      | true =>
        cases h
        rw [isDirectoryAt, locate?] at hdir
        cases hlocate : t.locate p with
        | ok place =>
          rw [hlocate] at hdir
          exact ⟨place, rfl, Except.ok.inj hdir⟩
        | error o =>
          rw [hlocate] at hdir
          cases o <;> cases hdir

theorem exists_isDirectory_of_ensureDirectory {p : Path} (h : t.ensureDirectory p = .ok t') :
    ∃ place, t'.locate p = .ok place ∧ t'.isDirectory place = true := by
  rw [ensureDirectory] at h
  cases hnames : p.names.reverse with
  | nil =>
    rw [hnames] at h
    have hp : p = ⟨p.origin, []⟩ := by rw [← List.reverse_eq_nil_iff.1 hnames]
    rw [hp]
    exact exists_isDirectory_of_openDirectory h
  | cons name rest =>
    have hp : p = ⟨p.origin, (name :: rest).reverse⟩ := by rw [← hnames, List.reverse_reverse]
    rw [hnames, ensureFrom] at h
    rw [hp]
    split at h
    · cases habove : t.ensureFrom p.origin rest with
      | error fault =>
        rw [habove] at h
        cases h
      | ok above =>
        rw [habove] at h
        exact exists_isDirectory_of_openDirectory h
    · exact exists_isDirectory_of_openDirectory h

/-- Nothing is made where a directory is. -/
theorem ensureDirectory_of_isDirectory {p place : Path} (hlocate : t.locate p = .ok place)
    (hdir : t.isDirectory place = true) : t.ensureDirectory p = .ok t := by
  have hhas : t.has place = true := by rw [has, hdir, Bool.or_true]
  have hmake : t.makeDirectory p = .error (.alreadyThere p) := by
    rw [makeDirectory, hlocate]
    dsimp only
    rw [if_pos hhas]
  have hopen : t.openDirectory p = .ok t := by
    have hat : t.isDirectoryAt p = .ok true := by
      rw [isDirectoryAt, locate?, hlocate]
      exact congrArg Except.ok hdir
    rw [openDirectory, hmake]
    dsimp only
    rw [hat]
    rfl
  rw [ensureDirectory]
  cases hnames : p.names.reverse with
  | nil =>
    have hp : p = ⟨p.origin, []⟩ := by rw [← List.reverse_eq_nil_iff.1 hnames]
    rwa [hp] at hopen
  | cons name rest =>
    have hp : ⟨p.origin, (name :: rest).reverse⟩ = p := by rw [← hnames, List.reverse_reverse]
    rw [ensureFrom, hp, hmake]
    exact hopen

/-- **Saving**: the file holds the bytes, and of everything else only its draft was touched. -/
theorem exists_keeps_of_save {directory : Path} {name : String} {bytes : List UInt8}
    (hname : name ≠ Path.up) (h : t.save (directory.child name) bytes = (t', none)) :
    ∃ place : Path,
      Keeps (fun q => q = place.child (name ++ ".tmp") ∨ q = place.child name) t t' ∧
        t'.locate (directory.child name) = .ok (place.child name) ∧
        t'.file? (place.child name) = some bytes := by
  obtain ⟨opened, place, hopen, hdraft, hfile, rfl⟩ := exists_free_of_save hname h
  have hopened : Keeps (fun q => q = place.child (name ++ ".tmp") ∨ q = place.child name) t
      opened := .of_ensureFrom hopen
  exact ⟨place, hopened.trans (.saved hdraft.isDirectory hfile.isDirectory bytes),
    (hfile.saved hdraft hfile bytes).locate, file?_put_self _ _ _⟩

/-- There is room for a file whatever it holds, if there is for some bytes. -/
theorem save_of_save {directory : Path} {name : String} {bytes : List UInt8}
    (hname : name ≠ Path.up) (h : (t.save (directory.child name) bytes).2 = none)
    (bytes' : List UInt8) : (t.save (directory.child name) bytes').2 = none := by
  obtain ⟨opened, place, hopen, hdraft, hfile, -⟩ :=
    exists_free_of_save hname (Prod.ext rfl h : t.save (directory.child name) bytes = (_, none))
  rw [save_of_free hname hopen hdraft hfile bytes']

/-- Saving one file leaves room for the others of its directory. -/
theorem save_after_save {directory : Path} {name other : String} {bytes bytes' : List UInt8}
    (hname : name ≠ Path.up) (hother : other ≠ Path.up)
    (h : t.save (directory.child name) bytes = (t', none))
    (h' : (t.save (directory.child other) bytes').2 = none) :
    (t'.save (directory.child other) bytes').2 = none := by
  obtain ⟨opened, place, hopen, hdraft, hfile, rfl⟩ := exists_free_of_save hname h
  obtain ⟨opened', place', hopen', hdraft', hfile', -⟩ :=
    exists_free_of_save hother (Prod.ext rfl h' : t.save (directory.child other) bytes' = (_, none))
  obtain rfl := Except.ok.inj (hopen.symm.trans hopen')
  -- both files go to the same place, and both find room in the same tree
  obtain rfl : place = place' :=
    Except.ok.inj ((hfile.walk_eq hname).symm.trans (hfile'.walk_eq hother))
  obtain ⟨above, hlocate, hdir⟩ := exists_isDirectory_of_ensureDirectory hopen
  have hkeeps := Keeps.saved hdraft.isDirectory hfile.isDirectory bytes
  have hmade := ensureDirectory_of_isDirectory (hkeeps.locate_eq hlocate)
    (hkeeps.directory above hdir).1
  rw [save_of_free hother hmade (hdraft'.saved hdraft hfile bytes)
    (hfile'.saved hdraft hfile bytes)]

end Tree

end Swimlane.Files
