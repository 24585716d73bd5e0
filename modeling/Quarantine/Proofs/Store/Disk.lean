import Mathlib.Data.String.Basic
import Quarantine.Store.Disk

/-!
Calls on files that lie directly in a directory. A plain name leads from wherever the path of the
directory leads to one place below it, and a call on that path does something at this place and at
no other. What a path leads through stays as it is while files are written and removed, so the path
leads to the same place afterwards.
-/

namespace Quarantine

namespace Path

/-- A character that stands for itself in a name and takes up one byte. -/
structure Harmless (c : Char) : Prop where
  slash : c ≠ '/'
  dot : c ≠ '.'
  zero : c ≠ '\x00'
  byte : c.utf8Size = 1

instance (c : Char) : Decidable (Harmless c) :=
  decidable_of_iff (c ≠ '/' ∧ c ≠ '.' ∧ c ≠ '\x00' ∧ c.utf8Size = 1)
    ⟨fun ⟨slash, dot, zero, byte⟩ => ⟨slash, dot, zero, byte⟩,
      fun harmless => ⟨harmless.slash, harmless.dot, harmless.zero, harmless.byte⟩⟩

/-- A name of something directly in a directory. -/
structure Plain (name : String) : Prop where
  named : name ≠ ""
  here : name ≠ "."
  above : name ≠ ".."
  single : '/' ∉ name.toList
  whole : '\x00' ∉ name.toList
  short : name.utf8ByteSize ≤ Disk.maxName

theorem utf8ByteSize_of_bytes {s : String} (bytes : ∀ c ∈ s.toList, c.utf8Size = 1) :
    s.utf8ByteSize = s.toList.length := by
  obtain ⟨l, rfl⟩ : ∃ l, s = String.ofList l := ⟨s.toList, String.ofList_toList.symm⟩
  rw [String.toList_ofList] at bytes ⊢
  rw [String.utf8ByteSize_ofList]
  induction l with
  | nil => rfl
  | cons c l ih =>
      rw [String.utf8Len_cons, ih fun c later => bytes c (List.mem_cons_of_mem _ later),
        bytes c List.mem_cons_self, List.length_cons]

theorem plain_of_harmless {name : String} {c : Char} {rest : List Char}
    (chars : name.toList = c :: rest) (first : Harmless c)
    (later : ∀ x ∈ rest, x = '.' ∨ Harmless x) (short : rest.length < Disk.maxName) :
    Plain name := by
  have mild : ∀ x ∈ name.toList, x ≠ '/' ∧ x ≠ '\x00' ∧ x.utf8Size = 1 := by
    intro x member
    rw [chars] at member
    have kind : x = '.' ∨ Harmless x := by
      cases member with
      | head => exact .inr first
      | tail _ member => exact later x member
    obtain rfl | harmless := kind
    · decide
    · exact ⟨harmless.slash, harmless.zero, harmless.byte⟩
  have begins : ∀ {other : String}, name = other → other.toList = c :: rest :=
    fun same => same ▸ chars
  refine ⟨fun empty => ?_, fun dot => ?_, fun dots => ?_, fun slash => (mild _ slash).1 rfl,
    fun zero => (mild _ zero).2.1 rfl, ?_⟩
  · cases begins empty
  · exact first.dot (List.cons.inj (begins dot)).1.symm
  · exact first.dot (List.cons.inj (begins dots)).1.symm
  · rw [utf8ByteSize_of_bytes fun x member => (mild x member).2.2, chars]
    exact short

section Child

variable {name : String} (plain : Plain name) (p : Path)

include plain in
theorem parts_child : (p.child name).parts = (p, .name name) := by
  have last : (p.child name).reverse.dropWhile (· = "") = name :: p.reverse := by
    simp [child, plain.named]
  simp only [parts, last, List.reverse_reverse, plain.here, plain.above, if_false]

include plain in
theorem endsInSlash_child : (p.child name).endsInSlash = false := by
  simp [endsInSlash, child, plain.named]

theorem size_child_le (name : String) : (p.child name).size ≤ p.size + name.utf8ByteSize + 1 := by
  simp only [size, child, List.foldl_append, List.foldl_cons, List.foldl_nil]
  omega

theorem size_child_mono {name other : String} (le : name.utf8ByteSize ≤ other.utf8ByteSize) :
    (p.child name).size ≤ (p.child other).size := by
  simp only [size, child, List.foldl_append, List.foldl_cons, List.foldl_nil]
  omega

end Child

end Path

namespace Disk

section Nodes

variable (d : Disk) {place other : Place} (node : Node)

theorem node?_put_self (below : place ≠ []) : (d.put place node).node? place = some node := by
  cases place with
  | nil => exact absurd rfl below
  | cons name rest => exact Table.get?_insert_self _ _ _

theorem node?_put_ne (ne : other ≠ place) : (d.put place node).node? other = d.node? other := by
  cases other with
  | nil => rfl
  | cons name rest => exact Table.get?_insert_ne ne _ _

theorem node?_erase_self (below : place ≠ []) : (d.erase place).node? place = none := by
  cases place with
  | nil => exact absurd rfl below
  | cons name rest => exact Table.get?_erase_self _ _

theorem node?_erase_ne (ne : other ≠ place) : (d.erase place).node? other = d.node? other := by
  cases other with
  | nil => rfl
  | cons name rest => exact Table.get?_erase_ne ne _

theorem node?_of_node?_erase {found : Node} (left : (d.erase place).node? other = some found) :
    d.node? other = some found := by
  cases other with
  | nil => exact left
  | cons name rest =>
      by_cases there : name :: rest = place
      · rw [← there, node?_erase_self d (List.cons_ne_nil _ _)] at left
        cases left
      · rwa [node?_erase_ne d there] at left

theorem erase_put : (d.put place node).erase place = d.erase place := by
  simp only [put, erase, Table.insert, Table.erase, List.filter_cons, ne_eq, not_true_eq_false,
    decide_false, Bool.false_eq_true, if_false, List.filter_filter, Bool.and_self]

theorem erase_of_absent (absent : d.node? place = none) : d.erase place = d := by
  cases place with
  | nil => cases absent
  | cons name rest =>
      have missing : ∀ entry ∈ d.nodes.entries, ¬decide (entry.1 = name :: rest) = true :=
        List.find?_eq_none.mp (Option.map_eq_none_iff.mp absent)
      rw [erase, Table.erase, List.filter_eq_self.mpr]
      simpa using missing

theorem node?_put_congr {a b : Disk} (same : a.node? other = b.node? other) :
    (a.put place node).node? other = (b.put place node).node? other := by
  cases other with
  | nil => rfl
  | cons name rest =>
      by_cases there : name :: rest = place
      · rw [← there, node?_put_self a node (List.cons_ne_nil _ _),
          node?_put_self b node (List.cons_ne_nil _ _)]
      · rw [node?_put_ne a node there, node?_put_ne b node there, same]

theorem node?_erase_congr {a b : Disk} (same : a.node? other = b.node? other) :
    (a.erase place).node? other = (b.erase place).node? other := by
  cases other with
  | nil => rfl
  | cons name rest =>
      by_cases there : name :: rest = place
      · rw [← there, node?_erase_self a (List.cons_ne_nil _ _),
          node?_erase_self b (List.cons_ne_nil _ _)]
      · rw [node?_erase_ne a there, node?_erase_ne b there, same]

end Nodes

theorem bind_eq_ok_iff {α β : Type} {x : Except OsError α} {f : α → Except OsError β} {b : β} :
    (x >>= f) = .ok b ↔ ∃ a, x = .ok a ∧ f a = .ok b := by
  cases x with
  | error e => exact ⟨nofun, fun ⟨_, given, _⟩ => nomatch given⟩
  | ok a => exact ⟨fun given => ⟨a, rfl, given⟩, fun ⟨_, rfl, given⟩ => given⟩

theorem find_ok_iff {d : Disk} {p : Path} {place : Place} {node : Node} :
    d.find p = .ok (place, node) ↔
      check p = .ok () ∧ d.walk [] p = .ok place ∧ d.node? place = some node := by
  simp only [find, bind_eq_ok_iff]
  constructor
  · rintro ⟨⟨⟩, checked, reached, walked, found⟩
    split at found
    · cases found
    · next there held =>
        cases found
        exact ⟨checked, walked, held⟩
  · rintro ⟨checked, walked, held⟩
    refine ⟨(), checked, place, walked, ?_⟩
    rw [held]
    rfl

theorem enter_ok_iff (d : Disk) (place : Place) :
    d.enter place = .ok () ↔ d.node? place = some .directory := by
  unfold enter
  split <;> simp_all

/-- Nothing is in a directory that is listed as empty. -/
theorem node?_of_list_nil {d : Disk} {p : Path} (empty : d.list p = .ok []) :
    ∃ directory, d.find p = .ok (directory, .directory) ∧
      ∀ name, d.node? (directory ++ [name]) = none := by
  obtain ⟨⟨directory, node⟩, found, listed⟩ := bind_eq_ok_iff.mp empty
  cases node with
  | file bytes => cases listed
  | directory =>
      refine ⟨directory, found, fun name => ?_⟩
      have unlisted := List.filterMap_eq_nil_iff.mp (Except.ok.inj listed)
      have absent : d.nodes.get? (directory ++ [name]) = none := by
        rw [Table.get?, Option.map_eq_none_iff, List.find?_eq_none]
        intro entry member there
        have kept := unlisted entry member
        simp [of_decide_eq_true there] at kept
      cases directory <;> exact absent

/-- Where a name leads from a directory. -/
def turn (place : Place) (name : String) : Except OsError Place :=
  if Path.isIdle name then .ok place
  else if name = ".." then .ok place.dropLast
  else step place name

theorem walk_cons (d : Disk) (place : Place) (name : String) (rest : Path) :
    d.walk place (name :: rest) =
      d.enter place >>= fun _ => turn place name >>= fun next => d.walk next rest := by
  rw [walk, turn]
  split
  · rfl
  · split <;> rfl

theorem walk_append (d : Disk) (place : Place) (p q : Path) :
    d.walk place (p ++ q) = d.walk place p >>= fun next => d.walk next q := by
  induction p generalizing place with
  | nil => rfl
  | cons name p ih => simp only [List.cons_append, walk_cons, bind_assoc, ih]

/-- Every directory of one disk is a directory of another. -/
def Keeps (a b : Disk) : Prop :=
  ∀ place, a.node? place = some .directory → b.node? place = some .directory

theorem keeps_put {d : Disk} {place : Place} (free : d.node? place ≠ some .directory)
    (node : Node) : d.Keeps (d.put place node) := by
  intro other directory
  have ne : other ≠ place := fun same => free (by rw [← same, directory])
  rw [node?_put_ne d node ne, directory]

theorem keeps_erase {d : Disk} {place : Place} (free : d.node? place ≠ some .directory) :
    d.Keeps (d.erase place) := by
  intro other directory
  have ne : other ≠ place := fun same => free (by rw [← same, directory])
  rw [node?_erase_ne d ne, directory]

theorem Keeps.enter {a b : Disk} (keeps : a.Keeps b) {place : Place}
    (entered : a.enter place = .ok ()) : b.enter place = .ok () :=
  (enter_ok_iff b place).mpr (keeps place ((enter_ok_iff a place).mp entered))

theorem Keeps.walk {a b : Disk} (keeps : a.Keeps b) {place next : Place} {p : Path}
    (walked : a.walk place p = .ok next) : b.walk place p = .ok next := by
  induction p generalizing place with
  | nil => exact walked
  | cons name p ih =>
      rw [walk_cons] at walked ⊢
      obtain ⟨_, entered, walked⟩ := bind_eq_ok_iff.mp walked
      obtain ⟨turned, found, walked⟩ := bind_eq_ok_iff.mp walked
      exact bind_eq_ok_iff.mpr ⟨_, keeps.enter entered,
        bind_eq_ok_iff.mpr ⟨turned, found, ih walked⟩⟩

/-- The place of something directly in the directory that a path leads to. -/
def entry (d : Disk) (p : Path) (name : String) : Except OsError Place := do
  check (p.child name)
  let place ← d.walk [] p
  d.enter place
  return place ++ [name]

theorem entry_ok_iff {d : Disk} {p : Path} {name : String} {place : Place} :
    d.entry p name = .ok place ↔
      check (p.child name) = .ok () ∧
        ∃ directory, d.walk [] p = .ok directory ∧ d.node? directory = some .directory ∧
          place = directory ++ [name] := by
  simp only [entry, bind_eq_ok_iff, ← enter_ok_iff]
  constructor
  · rintro ⟨⟨⟩, checked, directory, walked, ⟨⟩, entered, ⟨⟩⟩
    exact ⟨checked, directory, walked, entered, rfl⟩
  · rintro ⟨checked, directory, walked, entered, rfl⟩
    exact ⟨(), checked, directory, walked, (), entered, rfl⟩

theorem ne_nil_of_entry {d : Disk} {p : Path} {name : String} {place : Place}
    (found : d.entry p name = .ok place) : place ≠ [] := by
  obtain ⟨-, directory, -, -, rfl⟩ := entry_ok_iff.mp found
  exact List.append_ne_nil_of_right_ne_nil directory (List.cons_ne_nil name [])

theorem Keeps.entry {a b : Disk} (keeps : a.Keeps b) {p : Path} {name : String} {place : Place}
    (found : a.entry p name = .ok place) : b.entry p name = .ok place := by
  obtain ⟨checked, directory, walked, entered, rfl⟩ := entry_ok_iff.mp found
  exact entry_ok_iff.mpr ⟨checked, directory, keeps.walk walked, keeps directory entered, rfl⟩

/-- A path leads to the same place of two disks, and they do not differ in whether it is a directory
nor in what is there under these names. -/
structure Alike (p : Path) (names : List String) (a b : Disk) : Prop where
  walked : a.walk [] p = b.walk [] p
  entered : ∀ directory, a.walk [] p = .ok directory → a.enter directory = b.enter directory
  held : ∀ directory, a.walk [] p = .ok directory → ∀ name ∈ names,
    a.node? (directory ++ [name]) = b.node? (directory ++ [name])

theorem Alike.entry {p : Path} {names : List String} {a b : Disk} (alike : Alike p names a b)
    (name : String) : a.entry p name = b.entry p name := by
  simp only [Disk.entry, ← alike.walked]
  refine bind_congr fun _ => ?_
  cases walked : a.walk [] p with
  | error e => rfl
  | ok directory =>
      change (a.enter directory >>= _) = (b.enter directory >>= _)
      rw [alike.entered directory walked]

/-- Disks stay alike as long as the directory that the path leads to is kept in both. -/
theorem Alike.of_keeps {p : Path} {names : List String} {a b a' b' : Disk}
    (alike : Alike p names a b) (keeps_a : a.Keeps a') (keeps_b : b.Keeps b') {directory : Place}
    (walked : a.walk [] p = .ok directory) (entered : a.enter directory = .ok ())
    (held : ∀ name ∈ names, a'.node? (directory ++ [name]) = b'.node? (directory ++ [name])) :
    Alike p names a' b' := by
  have walked_a := keeps_a.walk walked
  have walked_b := keeps_b.walk (alike.walked.symm.trans walked)
  have entered_b := (alike.entered directory walked).symm.trans entered
  refine ⟨walked_a.trans walked_b.symm, fun other reached => ?_, fun other reached => ?_⟩
  · cases walked_a.symm.trans reached
    rw [keeps_a.enter entered, keeps_b.enter entered_b]
  · cases walked_a.symm.trans reached
    exact held

theorem check_ok_iff (p : Path) :
    check p = .ok () ↔ (∀ name ∈ p, '\x00' ∉ name.toList) ∧ p.size ≤ maxPath := by
  unfold check
  split
  · next zero => simp_all
  · next whole => split <;> simp_all

theorem check_child {p : Path} {name : String} (checked : check p = .ok ())
    (plain : Path.Plain name) (room : p.size + name.utf8ByteSize + 1 ≤ maxPath) :
    check (p.child name) = .ok () := by
  refine (check_ok_iff _).mpr ⟨fun other member => ?_, ?_⟩
  · cases List.mem_append.mp member with
    | inl above => exact ((check_ok_iff p).mp checked).1 other above
    | inr last => exact List.mem_singleton.mp last ▸ plain.whole
  · exact Nat.le_trans (Path.size_child_le p name) room

/-- A name that is not longer than another leads to a file wherever the other does. -/
theorem entry_shorter {d : Disk} {p : Path} {name other : String} {directory : Place}
    (found : d.entry p name = .ok (directory ++ [name])) (plain : Path.Plain other)
    (le : other.utf8ByteSize ≤ name.utf8ByteSize) :
    d.entry p other = .ok (directory ++ [other]) := by
  obtain ⟨checked, reached, walked, entered, place⟩ := entry_ok_iff.mp found
  cases (List.append_inj' place rfl).1
  refine entry_ok_iff.mpr ⟨(check_ok_iff _).mpr ⟨fun part member => ?_, ?_⟩, directory, walked,
    entered, rfl⟩
  · cases List.mem_append.mp member with
    | inl above =>
        exact ((check_ok_iff _).mp checked).1 part (List.mem_append_left _ above)
    | inr last => exact List.mem_singleton.mp last ▸ plain.whole
  · exact Nat.le_trans (Path.size_child_mono p le) ((check_ok_iff _).mp checked).2

section Child

variable {name : String} (plain : Path.Plain name) (d : Disk) (p : Path)
include plain

theorem step_plain (place : Place) : step place name = .ok (place ++ [name]) :=
  if_neg (Nat.not_lt.mpr plain.short)

theorem turn_plain (place : Place) : turn place name = .ok (place ++ [name]) := by
  have leads : Path.isIdle name = false := by simp [Path.isIdle, plain.named, plain.here]
  rw [turn, leads, if_neg Bool.false_ne_true, if_neg plain.above, step_plain plain]

theorem find_child :
    d.find (p.child name) = d.entry p name >>= fun place =>
      match d.node? place with
      | none => .error .noEntry
      | some node => .ok (place, node) := by
  simp only [find, entry, Path.child, walk_append, walk_cons, turn_plain plain, bind_assoc]
  rfl

theorem holder_child :
    d.holder (p.child name) = (do
      check (p.child name)
      let place ← d.walk [] p
      d.enter place
      return (place, .name name)) := by
  simp only [holder, Path.parts_child plain]

theorem openSource_child :
    d.openSource (p.child name) = d.entry p name >>= fun place =>
      match d.node? place with
      | none => .error .noEntry
      | some .directory => .ok (.broken OsError.isDirectory.io)
      | some (.file bytes) => .ok (.ofBytes bytes) := by
  rw [openSource, stat, find_child plain]
  cases d.entry p name with
  | error e => rfl
  | ok place =>
      simp only [bind, Except.bind]
      cases d.node? place with
      | none => rfl
      | some node => cases node <;> rfl

theorem write_child (bytes : Bytes) :
    d.write (p.child name) bytes = d.entry p name >>= fun place =>
      if d.node? place = some .directory then .error .isDirectory
      else .ok (d.put place (.file bytes)) := by
  simp only [write, entry, holder_child plain, bind_assoc, pure_bind, step_plain plain,
    Path.endsInSlash_child plain]
  refine bind_congr fun _ => bind_congr fun directory => bind_congr fun _ => ?_
  simp only [bind, Except.bind, Bool.false_eq_true, if_false]
  cases d.node? (directory ++ [name]) with
  | none => rfl
  | some node => cases node <;> rfl

theorem remove_child :
    d.remove (p.child name) = d.entry p name >>= fun place =>
      match d.node? place with
      | none => .error .noEntry
      | some .directory => .error .isDirectory
      | some (.file _) => .ok (d.erase place) := by
  simp only [remove, entry, holder_child plain, bind_assoc, pure_bind, step_plain plain,
    Path.endsInSlash_child plain]
  rfl

theorem rename_child {other : String} (plain_other : Path.Plain other) :
    d.rename (p.child name) (p.child other) = d.entry p name >>= fun source =>
      match d.node? source with
      | none => .error .noEntry
      | some node => d.entry p other >>= fun target =>
        if d.node? target = some .directory then .error .isDirectory
        else .ok ((d.erase source).put target node) := by
  rw [rename, find_child plain, bind_assoc]
  refine bind_congr fun source => ?_
  cases d.node? source with
  | none => rfl
  | some node =>
      change (d.holder (p.child other) >>= _) = _
      simp only [holder_child plain_other, entry, bind_assoc, pure_bind, step_plain plain_other]
      refine bind_congr fun _ => bind_congr fun directory => bind_congr fun _ => ?_
      simp only [bind, Except.bind]
      cases d.node? (directory ++ [other]) with
      | none => rfl
      | some there => cases there <;> rfl

end Child

end Disk

end Quarantine
