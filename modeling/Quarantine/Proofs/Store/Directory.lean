import Quarantine.Proofs.Document.Identity
import Quarantine.Proofs.Store.Disk
import Quarantine.Store.Directory

/-!
What a store in a directory does to the file system. For a valid id every call works on two files
directly in the directory of the store, the one that keeps the bytes and the one that they are
written to first. It looks at no other file and changes no other, and no other id has a file of the
same name.
-/

namespace Quarantine

namespace Directory

def dataName (id : DocumentId) : String :=
  id.text ++ ".bin"

def partName (id : DocumentId) (n : Nat) : String :=
  id.text ++ "." ++ mark n ++ ".part"

theorem dataPath_eq (d : Directory) (id : DocumentId) :
    d.dataPath id = d.base.child (dataName id) :=
  rfl

theorem partPath_eq (d : Directory) (id : DocumentId) :
    d.partPath id = d.base.child (partName id d.drawn) :=
  rfl

/-- The names of the files that the next call works on. -/
def fileNames (d : Directory) (id : DocumentId) : List String :=
  [dataName id, partName id d.drawn]

theorem harmless_symbol : ∀ n < 64, Path.Harmless (Text.Base64Url.symbol n) := by
  decide

theorem harmless_hexDigit : ∀ n < 16, Path.Harmless (Text.hexDigit n) := by
  decide

theorem harmless_of_mem_mark {n : Nat} : ∀ c ∈ (mark n).toList, Path.Harmless c := by
  intro c written
  rw [mark, Text.hex, String.toList_ofList] at written
  obtain ⟨b, -, written⟩ := List.mem_flatMap.mp written
  have bound := b.toNat_lt
  cases List.mem_cons.mp written with
  | inl high =>
      rw [high]
      exact harmless_hexDigit _ (by omega)
  | inr low =>
      rw [List.mem_singleton.mp low]
      exact harmless_hexDigit _ (by omega)

theorem length_mark (n : Nat) : (mark n).toList.length = 32 := by
  rw [mark, Text.hex, String.toList_ofList, Text.length_hexChars, List.length_map,
    List.length_range]

theorem mild_of_all {s : String}
    (all : (s.toList.all fun c => c = '.' || decide (Path.Harmless c)) = true) :
    ∀ c ∈ s.toList, c = '.' ∨ Path.Harmless c := by
  simpa only [List.all_eq_true, Bool.or_eq_true, decide_eq_true_eq] using all

section Names

variable {id : DocumentId} (valid : id.isValid = true)
include valid

theorem harmless_text : ∀ c ∈ id.text.toList, Path.Harmless c := by
  intro c written
  obtain ⟨n, small, rfl⟩ := DocumentId.exists_symbol_of_isValid valid written
  exact harmless_symbol n small

theorem plain_append {suffix : String} (mild : ∀ c ∈ suffix.toList, c = '.' ∨ Path.Harmless c)
    (short : suffix.toList.length ≤ 200) : Path.Plain (id.text ++ suffix) := by
  have harmless := harmless_text valid
  have length := DocumentId.length_of_isValid valid
  cases text : id.text.toList with
  | nil => simp [text] at length
  | cons c rest =>
      rw [text] at harmless length
      rw [List.length_cons] at length
      have chars : (id.text ++ suffix).toList = c :: (rest ++ suffix.toList) := by
        rw [String.toList_append, text, List.cons_append]
      refine Path.plain_of_harmless chars (harmless c List.mem_cons_self) (fun x member => ?_) ?_
      · cases List.mem_append.mp member with
        | inl early => exact .inr (harmless x (List.mem_cons_of_mem _ early))
        | inr late => exact mild x late
      · rw [List.length_append, Disk.maxName]
        omega

theorem plain_dataName : Path.Plain (dataName id) :=
  plain_append valid (mild_of_all (by decide)) (by decide)

theorem plain_partName (n : Nat) : Path.Plain (partName id n) := by
  rw [partName, String.append_assoc, String.append_assoc]
  refine plain_append valid (fun c written => ?_) ?_
  · simp only [String.toList_append, List.mem_append] at written
    obtain dot | written | ending := written
    · exact .inl (List.mem_singleton.mp dot)
    · exact .inr (harmless_of_mem_mark c written)
    · exact mild_of_all (by decide) c ending
  · simp only [String.toList_append, List.length_append, length_mark]
    decide

theorem utf8ByteSize_text : id.text.utf8ByteSize = 22 := by
  rw [Path.utf8ByteSize_of_bytes fun c written => (harmless_text valid c written).byte,
    DocumentId.length_of_isValid valid]

theorem utf8ByteSize_dataName : (dataName id).utf8ByteSize = 26 := by
  rw [dataName, String.utf8ByteSize_append, utf8ByteSize_text valid]
  rfl

theorem utf8ByteSize_partName (n : Nat) : (partName id n).utf8ByteSize = 60 := by
  have mark : (mark n).utf8ByteSize = 32 := by
    rw [Path.utf8ByteSize_of_bytes fun c written => (harmless_of_mem_mark c written).byte,
      length_mark]
  simp only [partName, String.utf8ByteSize_append, utf8ByteSize_text valid, mark]
  rfl

theorem dataName_ne_partName {other : DocumentId} (valid_other : other.isValid = true) (n : Nat) :
    dataName id ≠ partName other n := by
  intro same
  have sizes := congrArg String.utf8ByteSize same
  rw [utf8ByteSize_dataName valid, utf8ByteSize_partName valid_other] at sizes
  cases sizes

theorem id_eq_of_append {other : DocumentId} (valid_other : other.isValid = true) {s t : String}
    (same : id.text ++ s = other.text ++ t) : id = other := by
  have chars := congrArg String.toList same
  rw [String.toList_append, String.toList_append] at chars
  have texts := (List.append_inj chars (by
    rw [DocumentId.length_of_isValid valid, DocumentId.length_of_isValid valid_other])).1
  exact congrArg DocumentId.mk (String.toList_injective texts)

omit valid in
theorem exists_suffix_of_mem {name : String} {d : Directory} (member : name ∈ d.fileNames id) :
    ∃ suffix, name = id.text ++ suffix := by
  cases member with
  | head => exact ⟨".bin", rfl⟩
  | tail _ member =>
      rw [List.mem_singleton.mp member, partName, String.append_assoc, String.append_assoc]
      exact ⟨_, rfl⟩

theorem plain_fileNames (d : Directory) : ∀ name ∈ d.fileNames id, Path.Plain name := by
  intro name member
  cases member with
  | head => exact plain_dataName valid
  | tail _ member => exact List.mem_singleton.mp member ▸ plain_partName valid _

end Names

/-- What a save does to the files at the two places that it works on. -/
def saveAt (id : DocumentId) (source : Source) (size : Nat) (part data : Place) (disk : Disk) :
    Except StorageError Unit × Disk :=
  if disk.node? part = some .directory then
    (.error (.saveFailed id.text OsError.isDirectory.message), disk)
  else
    match ((source.limit size).drain 8192).failure with
    | some e => (.error (.saveFailed id.text e.text), disk.erase part)
    | none =>
      if disk.node? data = some .directory then
        (.error (.saveFailed id.text OsError.isDirectory.message), disk.erase part)
      else
        (.ok (), (disk.erase part).put data (.file ((source.limit size).drain 8192).chunks.flatten))

def fetchAt (id : DocumentId) (data : Place) (disk : Disk) : Except StorageError Source :=
  match disk.node? data with
  | none => .error (.notFound id.text)
  | some .directory => .ok (.broken OsError.isDirectory.io)
  | some (.file bytes) => .ok (.ofBytes bytes)

def deleteAt (id : DocumentId) (data : Place) (disk : Disk) : Except StorageError Unit × Disk :=
  match disk.node? data with
  | none => (.error (.notFound id.text), disk)
  | some .directory => (.error (.io OsError.isDirectory.io), disk)
  | some (.file _) => (.ok (), disk.erase data)

section Calls

variable {d : Directory} {id : DocumentId} (valid : id.isValid = true)
include valid

/-- The file that is written first has the longer name, so the way to it leads to both. -/
theorem entry_dataName {directory : Place}
    (found : d.disk.entry d.base (partName id d.drawn) =
      .ok (directory ++ [partName id d.drawn])) :
    d.disk.entry d.base (dataName id) = .ok (directory ++ [dataName id]) := by
  refine Disk.entry_shorter found (plain_dataName valid) ?_
  rw [utf8ByteSize_dataName valid, utf8ByteSize_partName valid]
  decide

theorem save_lost (source : Source) (size : Nat) {e : OsError}
    (lost : d.disk.entry d.base (partName id d.drawn) = .error e) :
    d.save id source size =
      (.error (.saveFailed id.text e.message), { d with drawn := d.drawn + 1 }) := by
  have plain := plain_partName valid d.drawn
  have refused : ∀ bytes, d.disk.write (d.partPath id) bytes = .error e := fun bytes => by
    rw [partPath_eq, Disk.write_child plain, lost]
    rfl
  have kept : without (d.partPath id) d.disk = d.disk := by
    rw [without, partPath_eq, Disk.remove_child plain, lost]
    rfl
  simp only [save, valid, if_true, writePart, refused, kept]
  rfl

section Found

variable {part data : Place}
  (found_part : d.disk.entry d.base (partName id d.drawn) = .ok part)
  (found_data : d.disk.entry d.base (dataName id) = .ok data)

include found_part

theorem write_found (bytes : Bytes) :
    d.disk.write (d.partPath id) bytes =
      if d.disk.node? part = some .directory then .error .isDirectory
      else .ok (d.disk.put part (.file bytes)) := by
  rw [partPath_eq, Disk.write_child (plain_partName valid _), found_part]
  rfl

theorem without_directory (directory : d.disk.node? part = some .directory) :
    without (d.partPath id) d.disk = d.disk := by
  rw [without, partPath_eq, Disk.remove_child (plain_partName valid _), found_part]
  simp only [bind, Except.bind, directory]

theorem without_written (free : d.disk.node? part ≠ some .directory) (bytes : Bytes) :
    without (d.partPath id) (d.disk.put part (.file bytes)) = d.disk.erase part := by
  rw [without, partPath_eq, Disk.remove_child (plain_partName valid _),
    (Disk.keeps_put free (.file bytes)).entry found_part]
  simp only [bind, Except.bind, Disk.node?_put_self _ _ (Disk.ne_nil_of_entry found_part),
    Disk.erase_put]

include found_data

theorem found_ne : data ≠ part := by
  obtain ⟨-, _, -, -, rfl⟩ := Disk.entry_ok_iff.mp found_part
  obtain ⟨-, _, -, -, rfl⟩ := Disk.entry_ok_iff.mp found_data
  intro same
  exact dataName_ne_partName valid valid _ (List.cons.inj (List.append_inj' same rfl).2).1

theorem rename_written (free : d.disk.node? part ≠ some .directory) (bytes : Bytes) :
    (d.disk.put part (.file bytes)).rename (d.partPath id) (d.dataPath id) =
      if d.disk.node? data = some .directory then .error .isDirectory
      else .ok ((d.disk.erase part).put data (.file bytes)) := by
  have keeps := Disk.keeps_put free (.file bytes)
  have apart := found_ne valid found_part found_data
  rw [partPath_eq, dataPath_eq,
    Disk.rename_child (plain_partName valid _) _ _ (plain_dataName valid),
    keeps.entry found_part, keeps.entry found_data]
  simp only [bind, Except.bind, Disk.node?_put_self _ _ (Disk.ne_nil_of_entry found_part),
    Disk.node?_put_ne _ _ apart, Disk.erase_put]

theorem save_found (source : Source) (size : Nat) :
    d.save id source size =
      ((saveAt id source size part data d.disk).1,
        { d with disk := (saveAt id source size part data d.disk).2, drawn := d.drawn + 1 }) := by
  simp only [save, valid, if_true, writePart, saveAt, write_found valid found_part]
  by_cases taken : d.disk.node? part = some .directory
  · simp only [taken, if_true, without_directory valid found_part taken]
    rfl
  · have written := without_written valid found_part taken
    have renamed := rename_written valid found_part found_data taken
    cases ((source.limit size).drain 8192).failure with
    | some e => simp only [taken, if_false, written]
    | none =>
        simp only [taken, if_false, renamed]
        by_cases blocked : d.disk.node? data = some .directory
        · simp only [blocked, if_true, written]
          rfl
        · simp only [blocked, if_false]

end Found

theorem fetch_lost {e : OsError} (lost : d.disk.entry d.base (dataName id) = .error e) :
    d.fetch id = .error (failure id e) := by
  rw [fetch, if_pos valid, dataPath_eq, Disk.openSource_child (plain_dataName valid), lost]
  rfl

theorem fetch_found {data : Place} (found : d.disk.entry d.base (dataName id) = .ok data) :
    d.fetch id = fetchAt id data d.disk := by
  rw [fetch, if_pos valid, dataPath_eq, Disk.openSource_child (plain_dataName valid), found,
    fetchAt]
  simp only [bind, Except.bind]
  cases d.disk.node? data with
  | none => rfl
  | some node => cases node <;> rfl

theorem delete_lost {e : OsError} (lost : d.disk.entry d.base (dataName id) = .error e) :
    d.delete id = (.error (failure id e), d) := by
  rw [delete, if_pos valid, dataPath_eq, Disk.remove_child (plain_dataName valid), lost]
  rfl

theorem delete_found {data : Place} (found : d.disk.entry d.base (dataName id) = .ok data) :
    d.delete id =
      ((deleteAt id data d.disk).1, { d with disk := (deleteAt id data d.disk).2 }) := by
  rw [delete, if_pos valid, dataPath_eq, Disk.remove_child (plain_dataName valid), found,
    deleteAt]
  simp only [bind, Except.bind]
  cases d.disk.node? data with
  | none => rfl
  | some node => cases node <;> rfl

end Calls

section Places

variable (id : DocumentId) (source : Source) (size : Nat) (part data : Place) (disk : Disk)

theorem keeps_saveAt : disk.Keeps (saveAt id source size part data disk).2 := by
  unfold saveAt
  split
  · exact fun _ directory => directory
  · next free_part =>
      have first := Disk.keeps_erase free_part
      split
      · exact first
      · split
        · exact first
        · next free_data =>
            have still_free : (disk.erase part).node? data ≠ some .directory :=
              fun directory => free_data (Disk.node?_of_node?_erase disk directory)
            exact fun place directory => Disk.keeps_put still_free _ place (first place directory)

theorem node?_saveAt_ne {place : Place} (ne_part : place ≠ part) (ne_data : place ≠ data) :
    (saveAt id source size part data disk).2.node? place = disk.node? place := by
  unfold saveAt
  split
  · rfl
  · split
    · exact Disk.node?_erase_ne disk ne_part
    · split
      · exact Disk.node?_erase_ne disk ne_part
      · rw [Disk.node?_put_ne _ _ ne_data, Disk.node?_erase_ne disk ne_part]

theorem keeps_deleteAt : disk.Keeps (deleteAt id data disk).2 := by
  unfold deleteAt
  split
  · exact fun _ directory => directory
  · exact fun _ directory => directory
  · next held => exact Disk.keeps_erase (by simp [held])

theorem node?_deleteAt_ne {place : Place} (ne : place ≠ data) :
    (deleteAt id data disk).2.node? place = disk.node? place := by
  unfold deleteAt
  split
  · rfl
  · rfl
  · exact Disk.node?_erase_ne disk ne

variable {part data disk} {other : Disk}

theorem saveAt_congr (same_part : disk.node? part = other.node? part)
    (same_data : disk.node? data = other.node? data) :
    (saveAt id source size part data disk).1 = (saveAt id source size part data other).1 ∧
      ∀ place, disk.node? place = other.node? place →
        (saveAt id source size part data disk).2.node? place =
          (saveAt id source size part data other).2.node? place := by
  simp only [saveAt, ← same_part, ← same_data]
  split
  · exact ⟨rfl, fun _ same => same⟩
  · split
    · exact ⟨rfl, fun _ same => Disk.node?_erase_congr same⟩
    · split
      · exact ⟨rfl, fun _ same => Disk.node?_erase_congr same⟩
      · exact ⟨rfl, fun _ same => Disk.node?_put_congr _ (Disk.node?_erase_congr same)⟩

theorem deleteAt_congr (same_data : disk.node? data = other.node? data) :
    (deleteAt id data disk).1 = (deleteAt id data other).1 ∧
      ∀ place, disk.node? place = other.node? place →
        (deleteAt id data disk).2.node? place = (deleteAt id data other).2.node? place := by
  simp only [deleteAt, ← same_data]
  split
  · exact ⟨rfl, fun _ same => same⟩
  · exact ⟨rfl, fun _ same => same⟩
  · exact ⟨rfl, fun _ same => Disk.node?_erase_congr same⟩

end Places

end Directory

/-- A call to a store of payloads. -/
inductive StoreCall
  | save (id : DocumentId) (source : Source) (size : Nat)
  | fetch (id : DocumentId)
  | delete (id : DocumentId)

namespace StoreCall

def id : StoreCall → DocumentId
  | .save id _ _ | .fetch id | .delete id => id

/-- What a call answers, with a source if it fetches one, and the store after it. -/
def perform {σ : Type} [PayloadStore σ] :
    StoreCall → σ → Except StorageError (Option Source) × σ
  | .save id source size, store =>
    let (result, store) := PayloadStore.save id source size store
    (result.map fun _ => none, store)
  | .fetch id, store => ((PayloadStore.fetch id store).map some, store)
  | .delete id, store =>
    let (result, store) := PayloadStore.delete id store
    (result.map fun _ => none, store)

end StoreCall

namespace Directory

/-- A call changes nothing but things of these names in the directory of the store, and what it
answers and leaves there depends on nothing else in the file system than the way to the directory
and these things. -/
structure Confined (call : StoreCall) (d : Directory) (names : List String) : Prop where
  plain : ∀ name ∈ names, Path.Plain name
  changes : ∀ place, (call.perform d).2.disk.node? place ≠ d.disk.node? place →
    ∃ directory, d.disk.walk [] d.base = .ok directory ∧
      ∃ name ∈ names, place = directory ++ [name]
  reads : ∀ other, Disk.Alike d.base names d.disk other →
    (call.perform { d with disk := other }).1 = (call.perform d).1 ∧
      Disk.Alike d.base names (call.perform d).2.disk
        (call.perform { d with disk := other }).2.disk

theorem perform_invalid (d : Directory) {call : StoreCall} (invalid : call.id.isValid = false) :
    call.perform d = (.error (.invalidId call.id.text), d) := by
  cases call with
  | save id source size =>
      have refused : d.save id source size = (.error (.invalidId id.text), d) :=
        if_neg (Bool.eq_false_iff.mp invalid)
      simp only [StoreCall.perform, PayloadStore.save, refused]
      rfl
  | fetch id =>
      have refused : d.fetch id = .error (.invalidId id.text) :=
        if_neg (Bool.eq_false_iff.mp invalid)
      simp only [StoreCall.perform, PayloadStore.fetch, refused]
      rfl
  | delete id =>
      have refused : d.delete id = (.error (.invalidId id.text), d) :=
        if_neg (Bool.eq_false_iff.mp invalid)
      simp only [StoreCall.perform, PayloadStore.delete, refused]
      rfl

section Confined

variable {d : Directory} {call : StoreCall} {names : List String}
  (plain : ∀ name ∈ names, Path.Plain name) {name : String} (n : Nat)
include plain

theorem confined_of_lost {e : OsError} (lost : d.disk.entry d.base name = .error e)
    (answer : Except StorageError (Option Source))
    (performed : ∀ disk, disk.entry d.base name = .error e →
      call.perform { d with disk := disk } = (answer, ⟨disk, d.base, n⟩)) :
    Confined call d names := by
  refine ⟨plain, fun place changed => ?_, fun other alike => ?_⟩
  · exact absurd (by rw [performed d.disk lost]) changed
  · rw [performed other ((alike.entry _).symm.trans lost), performed d.disk lost]
    exact ⟨rfl, alike⟩

/-- A call that does something to the things of these names only, and the same to equal ones. -/
theorem confined_of_found {directory : Place}
    (found : d.disk.entry d.base name = .ok (directory ++ [name]))
    (effect : Disk → Except StorageError (Option Source) × Disk)
    (performed : ∀ disk, disk.entry d.base name = .ok (directory ++ [name]) →
      call.perform { d with disk := disk } = ((effect disk).1, ⟨(effect disk).2, d.base, n⟩))
    (keeps : ∀ disk : Disk, disk.Keeps (effect disk).2)
    (elsewhere : ∀ (disk : Disk) place, (∀ name ∈ names, place ≠ directory ++ [name]) →
      (effect disk).2.node? place = disk.node? place)
    (congr : ∀ a b : Disk,
      (∀ name ∈ names, a.node? (directory ++ [name]) = b.node? (directory ++ [name])) →
        (effect a).1 = (effect b).1 ∧
          ∀ place, a.node? place = b.node? place →
            (effect a).2.node? place = (effect b).2.node? place) :
    Confined call d names := by
  obtain ⟨-, reached, walked, entered, place⟩ := Disk.entry_ok_iff.mp found
  cases (List.append_inj' place rfl).1
  refine ⟨plain, fun place changed => ⟨directory, walked, ?_⟩, fun other alike => ?_⟩
  · refine Classical.byContradiction fun other => changed ?_
    rw [performed d.disk found]
    exact elsewhere _ _ fun name member there => other ⟨name, member, there⟩
  · rw [performed d.disk found, performed other ((alike.entry _).symm.trans found)]
    have held := alike.held directory walked
    obtain ⟨answers, files⟩ := congr d.disk other held
    exact ⟨answers.symm, alike.of_keeps (keeps _) (keeps _) walked
      ((Disk.enter_ok_iff _ _).mpr entered) fun name member => files _ (held name member)⟩

end Confined

section Calls

variable (d : Directory) {id : DocumentId} (valid : id.isValid = true)
include valid

theorem confined_save (source : Source) (size : Nat) :
    Confined (.save id source size) d (d.fileNames id) := by
  have plain := plain_fileNames valid d
  cases found : d.disk.entry d.base (partName id d.drawn) with
  | error e =>
      refine confined_of_lost plain (d.drawn + 1) found (.error (.saveFailed id.text e.message))
        fun disk lost => ?_
      have saved := save_lost valid source size (d := { d with disk := disk }) lost
      simp only [StoreCall.perform, PayloadStore.save, saved]
      rfl
  | ok part =>
      obtain ⟨-, directory, -, -, rfl⟩ := Disk.entry_ok_iff.mp found
      let effect := saveAt id source size (directory ++ [partName id d.drawn])
        (directory ++ [dataName id])
      refine confined_of_found plain (d.drawn + 1) found
        (fun disk => ((effect disk).1.map fun _ => none, (effect disk).2)) (fun disk found => ?_)
        (fun disk => keeps_saveAt _ _ _ _ _ _) (fun disk place elsewhere => ?_) fun a b held => ?_
      · have found_data := entry_dataName valid (d := { d with disk := disk }) found
        have saved := save_found valid (d := { d with disk := disk }) found found_data source size
        simp only [StoreCall.perform, PayloadStore.save, saved]
        rfl
      · exact node?_saveAt_ne _ _ _ _ _ _
          (elsewhere _ (List.mem_cons_of_mem _ List.mem_cons_self)) (elsewhere _ List.mem_cons_self)
      · obtain ⟨answers, files⟩ := saveAt_congr id source size
          (held _ (List.mem_cons_of_mem _ List.mem_cons_self)) (held _ List.mem_cons_self)
        exact ⟨congrArg (Except.map fun _ => none) answers, files⟩

theorem confined_fetch : Confined (.fetch id) d (d.fileNames id) := by
  have plain := plain_fileNames valid d
  cases found : d.disk.entry d.base (dataName id) with
  | error e =>
      refine confined_of_lost plain d.drawn found (.error (failure id e)) fun disk lost => ?_
      have fetched := fetch_lost valid (d := { d with disk := disk }) lost
      simp only [StoreCall.perform, PayloadStore.fetch, fetched]
      rfl
  | ok data =>
      obtain ⟨-, directory, -, -, rfl⟩ := Disk.entry_ok_iff.mp found
      refine confined_of_found plain d.drawn found
        (fun disk => ((fetchAt id (directory ++ [dataName id]) disk).map some, disk))
        (fun disk found => ?_) (fun disk place directory => directory)
        (fun disk place elsewhere => rfl) fun a b held => ?_
      · have fetched := fetch_found valid (d := { d with disk := disk }) found
        simp only [StoreCall.perform, PayloadStore.fetch, fetched]
      · refine ⟨congrArg (Except.map some) ?_, fun _ same => same⟩
        rw [fetchAt, fetchAt, held _ List.mem_cons_self]

theorem confined_delete : Confined (.delete id) d (d.fileNames id) := by
  have plain := plain_fileNames valid d
  cases found : d.disk.entry d.base (dataName id) with
  | error e =>
      refine confined_of_lost plain d.drawn found (.error (failure id e)) fun disk lost => ?_
      have deleted := delete_lost valid (d := { d with disk := disk }) lost
      simp only [StoreCall.perform, PayloadStore.delete, deleted]
      rfl
  | ok data =>
      obtain ⟨-, directory, -, -, rfl⟩ := Disk.entry_ok_iff.mp found
      let effect := deleteAt id (directory ++ [dataName id])
      refine confined_of_found plain d.drawn found
        (fun disk => ((effect disk).1.map fun _ => none, (effect disk).2)) (fun disk found => ?_)
        (fun disk => keeps_deleteAt _ _ _) (fun disk place elsewhere => ?_) fun a b held => ?_
      · have deleted := delete_found valid (d := { d with disk := disk }) found
        simp only [StoreCall.perform, PayloadStore.delete, deleted]
        rfl
      · exact node?_deleteAt_ne _ _ _ (elsewhere _ List.mem_cons_self)
      · obtain ⟨answers, files⟩ := deleteAt_congr id (held _ List.mem_cons_self)
        exact ⟨congrArg (Except.map fun _ => none) answers, files⟩

end Calls

/-- An id is valid exactly if it writes a digest, which is then its own. A call under any other does
nothing, and a call under a valid one works on files of its own in the directory of the store. -/
theorem ids_confine_calls :
    (∀ s, (DocumentId.isValidText s = true ↔ ∃ digest : Bytes,
        digest.length = 16 ∧ s = String.ofList (Text.Base64Url.encode digest)) ∧
      ∀ a b : Bytes, s = String.ofList (Text.Base64Url.encode a) →
        s = String.ofList (Text.Base64Url.encode b) → a = b) ∧
    (∀ content tag, (Identity.derive content tag).id.isValid = true) ∧
    (∀ (d : Directory) (call : StoreCall),
      (call.id.isValid = false → call.perform d = (.error (.invalidId call.id.text), d)) ∧
      (call.id.isValid = true → Confined call d (d.fileNames call.id))) ∧
    ∀ id other : DocumentId, id.isValid = true → other.isValid = true → id ≠ other →
      ∀ d e : Directory, ∀ name ∈ d.fileNames id, name ∉ e.fileNames other := by
  refine ⟨fun s => ⟨DocumentId.isValidText_iff s, fun a b => DocumentId.digest_unique⟩,
    Identity.isValid_contentId, fun d call => ⟨d.perform_invalid, fun valid => ?_⟩, ?_⟩
  · cases call with
    | save id source size => exact d.confined_save valid source size
    | fetch id => exact d.confined_fetch valid
    | delete id => exact d.confined_delete valid
  · intro id other valid valid_other ne d e name mine theirs
    obtain ⟨suffix, written⟩ := exists_suffix_of_mem mine
    obtain ⟨suffix', written'⟩ := exists_suffix_of_mem theirs
    exact ne (id_eq_of_append valid valid_other (written.symm.trans written'))

/-- A save under the id of an empty content, beside another id and a text that leads elsewhere. -/
theorem ids_confine_save_beside_others :
    let store : Directory := ⟨Disk.empty.put ["store"] .directory, ["store"], 0⟩
    let id : DocumentId := ⟨"1B2M2Y8AsgTpgAmY7PhCfg"⟩
    let other : DocumentId := ⟨"ITSzxj1mqz1gwFZ4iendeQ"⟩
    Confined (.save id (.ofBytes [97]) 1) store (store.fileNames id) ∧
      (∀ name ∈ store.fileNames id, name ∉ store.fileNames other) ∧
      StoreCall.perform (.fetch ⟨"../secret"⟩) store = (.error (.invalidId "../secret"), store) :=
  let ⟨_, _, calls, names⟩ := ids_confine_calls
  ⟨(calls _ (.save _ _ _)).2 (by decide), names _ _ (by decide) (by decide) (by decide) _ _,
    (calls _ (.fetch _)).1 (by decide)⟩

end Directory

end Quarantine
