import Quarantine.Proofs.Store.Calls
import Quarantine.Proofs.Store.Directory

/-!
A store in a directory and one in memory, under the same calls. The file of each id holds the bytes
that are kept under it, and no call changes that: the one that goes through a file of its own and
moves it into place comes to the same as the one that puts the bytes there at once. So the answers
are the same, up to what a failed save is called.
-/

namespace Quarantine

namespace StoreCall

/-- A store after some calls, one after another. -/
def after {σ : Type} [PayloadStore σ] (calls : List StoreCall) (store : σ) : σ :=
  calls.foldl (fun store call => (call.perform store).2) store

end StoreCall

namespace Directory

/-- The answers of a directory and of a memory to one call. -/
inductive Agree : StoreCall → Except StorageError (Option Source) →
    Except StorageError (Option Source) → Prop
  | saved (id : DocumentId) (source : Source) (size : Nat) :
    Agree (.save id source size) (.ok none) (.ok none)
  | broke (id : DocumentId) (source : Source) (size : Nat) (e : IoError) :
    Agree (.save id source size) (.error (.saveFailed id.text e.text)) (.error (.io e))
  | found (id : DocumentId) (bytes : Bytes) :
    Agree (.fetch id) (.ok (some (.ofBytes bytes))) (.ok (some (.ofBytes bytes)))
  | unknown (id : DocumentId) :
    Agree (.fetch id) (.error (.notFound id.text)) (.error (.notFound id.text))
  | dropped (id : DocumentId) : Agree (.delete id) (.ok none) (.ok none)
  | absent (id : DocumentId) :
    Agree (.delete id) (.error (.notFound id.text)) (.error (.notFound id.text))

/-- A path leads to a directory and leaves room for the names of the files. -/
structure Ready (base : Path) (directory : Place) (disk : Disk) : Prop where
  checked : Disk.check base = .ok ()
  walked : disk.walk [] base = .ok directory
  entered : disk.node? directory = some .directory
  room : base.size + 61 ≤ Disk.maxPath

/-- The directory that a path leads to holds what a memory keeps, and no directory has the name of
an unfinished file. -/
structure Mirrors (base : Path) (directory : Place) (disk : Disk) (p : Payloads) : Prop
    extends Ready base directory disk where
  online : p.online = true
  held : ∀ id : DocumentId, id.isValid = true →
    disk.node? (directory ++ [dataName id]) = (p.kept.get? id).map .file
  free : ∀ (id : DocumentId) n, id.isValid = true →
    disk.node? (directory ++ [partName id n]) ≠ some .directory

section Ready

variable {base : Path} {directory : Place} {disk : Disk} (ready : Ready base directory disk)
include ready

theorem Ready.of_keeps {other : Disk} (keeps : disk.Keeps other) : Ready base directory other :=
  ⟨ready.checked, keeps.walk ready.walked, keeps directory ready.entered, ready.room⟩

variable {id : DocumentId} (valid : id.isValid = true)
include valid

theorem Ready.entry_dataName :
    disk.entry base (dataName id) = .ok (directory ++ [dataName id]) := by
  have room := ready.room
  refine Disk.entry_ok_iff.mpr ⟨?_, directory, ready.walked, ready.entered, rfl⟩
  refine Disk.check_child ready.checked (plain_dataName valid) ?_
  rw [utf8ByteSize_dataName valid]
  omega

theorem Ready.entry_partName (n : Nat) :
    disk.entry base (partName id n) = .ok (directory ++ [partName id n]) := by
  refine Disk.entry_ok_iff.mpr ⟨?_, directory, ready.walked, ready.entered, rfl⟩
  refine Disk.check_child ready.checked (plain_partName valid n) ?_
  rw [utf8ByteSize_partName valid]
  exact ready.room

theorem Ready.stat_partName_iff (n : Nat) :
    disk.stat (base.child (partName id n)) = .ok .directory ↔
      disk.node? (directory ++ [partName id n]) = some .directory := by
  rw [Disk.stat, Disk.find_child (plain_partName valid n), ready.entry_partName valid n]
  simp only [bind, Except.bind]
  cases disk.node? (directory ++ [partName id n]) <;> simp [Except.map]

end Ready

section Places

variable {directory : Place} {id other : DocumentId} (valid : id.isValid = true)
  (valid_other : other.isValid = true)
include valid valid_other

theorem data_ne_data (ne : other ≠ id) :
    directory ++ [dataName other] ≠ directory ++ [dataName id] := fun same =>
  ne (id_eq_of_append valid_other valid (List.cons.inj (List.append_cancel_left same)).1)

theorem data_ne_part (n : Nat) :
    directory ++ [dataName other] ≠ directory ++ [partName id n] := fun same =>
  dataName_ne_partName valid_other valid n (List.cons.inj (List.append_cancel_left same)).1

end Places

section Mirrors

variable {base : Path} {directory : Place} {disk : Disk} {p : Payloads}
  (mirrors : Mirrors base directory disk p) {id : DocumentId} (valid : id.isValid = true)
include mirrors valid

theorem Mirrors.data_free : disk.node? (directory ++ [dataName id]) ≠ some .directory := by
  rw [mirrors.held id valid]
  cases p.kept.get? id <;> simp

theorem Mirrors.erase_part (n : Nat) :
    Mirrors base directory (disk.erase (directory ++ [partName id n])) p := by
  have keeps := Disk.keeps_erase (mirrors.free id n valid)
  refine ⟨mirrors.of_keeps keeps, mirrors.online, ?_, ?_⟩
  · intro other valid_other
    rw [Disk.node?_erase_ne disk (data_ne_part valid valid_other n), mirrors.held other valid_other]
  · intro other m valid_other taken
    exact mirrors.free other m valid_other (Disk.node?_of_node?_erase disk taken)

/-- One file changes with the bytes that are kept under its id. -/
theorem Mirrors.change {disk' : Disk} {p' : Payloads} (keeps : disk.Keeps disk')
    (online : p'.online = true)
    (there : disk'.node? (directory ++ [dataName id]) = (p'.kept.get? id).map .file)
    (elsewhere : ∀ place, place ≠ directory ++ [dataName id] →
      disk'.node? place = disk.node? place)
    (others : ∀ other, other ≠ id → p'.kept.get? other = p.kept.get? other) :
    Mirrors base directory disk' p' := by
  refine ⟨mirrors.of_keeps keeps, online, fun other valid_other => ?_, fun other n valid_other => ?_⟩
  · by_cases same : other = id
    · rw [same, there]
    · rw [elsewhere _ (data_ne_data valid valid_other same), others other same,
        mirrors.held other valid_other]
  · rw [elsewhere _ (data_ne_part valid_other valid n).symm]
    exact mirrors.free other n valid_other

theorem Mirrors.put_data (bytes : Bytes) :
    Mirrors base directory (disk.put (directory ++ [dataName id]) (.file bytes))
      (p.keep id bytes) := by
  refine mirrors.change valid (Disk.keeps_put (mirrors.data_free valid) _) mirrors.online ?_
    (fun place ne => Disk.node?_put_ne disk _ ne) fun other ne => ?_
  · rw [Payloads.get?_keep, if_pos rfl, Disk.node?_put_self _ _ (by simp)]
    rfl
  · rw [Payloads.get?_keep, if_neg ne]

theorem Mirrors.erase_data :
    Mirrors base directory (disk.erase (directory ++ [dataName id])) (p.drop id) := by
  refine mirrors.change valid (Disk.keeps_erase (mirrors.data_free valid)) mirrors.online ?_
    (fun place ne => Disk.node?_erase_ne disk ne) fun other ne => ?_
  · rw [Payloads.get?_drop, if_pos rfl, Disk.node?_erase_self _ (by simp)]
    rfl
  · rw [Payloads.get?_drop, if_neg ne]

end Mirrors

theorem base_perform (d : Directory) (call : StoreCall) : (call.perform d).2.base = d.base := by
  cases call with
  | save id source size =>
      simp only [StoreCall.perform, PayloadStore.save, save]
      split
      · split <;> rfl
      · rfl
  | fetch id => rfl
  | delete id =>
      simp only [StoreCall.perform, PayloadStore.delete, delete]
      split
      · split <;> rfl
      · rfl

section Calls

variable {d : Directory} {p : Payloads} {directory : Place}
  (mirrors : Mirrors d.base directory d.disk p)
include mirrors

theorem save_mirrors {id : DocumentId} (valid : id.isValid = true) (source : Source) (size : Nat) :
    let call := StoreCall.save id source size
    Agree call (call.perform d).1 (call.perform p).1 ∧
      Mirrors d.base directory (call.perform d).2.disk (call.perform p).2 := by
  have saved := save_found valid (mirrors.entry_partName valid d.drawn)
    (mirrors.entry_dataName valid) source size
  have rest := mirrors.erase_part valid d.drawn
  rw [saveAt, if_neg (mirrors.free id d.drawn valid)] at saved
  cases failure : ((source.limit size).drain 8192).failure with
  | some e =>
      have kept : p.save id source size = (.error (.io e), p) := by
        simp only [Payloads.save, mirrors.online, if_true, Limited.readAll, failure]
      simp only [StoreCall.perform, PayloadStore.save, saved, kept, failure]
      exact ⟨.broke id source size e, rest⟩
  | none =>
      have kept : p.save id source size =
          (.ok (), p.keep id ((source.limit size).drain 8192).chunks.flatten) := by
        simp only [Payloads.save, mirrors.online, if_true, Limited.readAll, failure, Payloads.keep]
      simp only [failure, mirrors.data_free valid, if_false] at saved
      simp only [StoreCall.perform, PayloadStore.save, saved, kept]
      exact ⟨.saved id source size, rest.put_data valid _⟩

theorem fetch_mirrors {id : DocumentId} (valid : id.isValid = true) :
    d.fetch id = p.fetch id := by
  rw [fetch_found valid (mirrors.entry_dataName valid), fetchAt, mirrors.held id valid,
    Payloads.fetch, if_pos mirrors.online]
  cases p.kept.get? id <;> rfl

theorem perform_fetch_mirrors {id : DocumentId} (valid : id.isValid = true) :
    let call := StoreCall.fetch id
    Agree call (call.perform d).1 (call.perform p).1 ∧
      Mirrors d.base directory (call.perform d).2.disk (call.perform p).2 := by
  refine ⟨?_, mirrors⟩
  simp only [StoreCall.perform, PayloadStore.fetch, fetch_mirrors mirrors valid, Payloads.fetch,
    mirrors.online, if_true]
  cases p.kept.get? id with
  | none => exact .unknown id
  | some bytes => exact .found id bytes

theorem delete_mirrors {id : DocumentId} (valid : id.isValid = true) :
    let call := StoreCall.delete id
    Agree call (call.perform d).1 (call.perform p).1 ∧
      Mirrors d.base directory (call.perform d).2.disk (call.perform p).2 := by
  have found_data := mirrors.entry_dataName valid
  have held := mirrors.held id valid
  cases kept : p.kept.get? id with
  | none =>
      have deleted : d.delete id = (.error (.notFound id.text), d) := by
        rw [delete_found valid found_data, deleteAt, held, kept]
        rfl
      have dropped : p.delete id = (.error (.notFound id.text), p) := by
        simp [Payloads.delete, mirrors.online, Table.contains, kept]
      simp only [StoreCall.perform, PayloadStore.delete, deleted, dropped]
      exact ⟨.absent id, mirrors⟩
  | some bytes =>
      have deleted : d.delete id =
          (.ok (), { d with disk := d.disk.erase (directory ++ [dataName id]) }) := by
        rw [delete_found valid found_data, deleteAt, held, kept]
        rfl
      have dropped : p.delete id = (.ok (), p.drop id) := by
        simp [Payloads.delete, mirrors.online, Table.contains, kept, Payloads.drop]
      simp only [StoreCall.perform, PayloadStore.delete, deleted, dropped]
      exact ⟨.dropped id, mirrors.erase_data valid⟩

theorem perform_mirrors {call : StoreCall} (valid : call.id.isValid = true) :
    Agree call (call.perform d).1 (call.perform p).1 ∧
      Mirrors d.base directory (call.perform d).2.disk (call.perform p).2 := by
  cases call with
  | save id source size => exact save_mirrors mirrors valid source size
  | fetch id => exact perform_fetch_mirrors mirrors valid
  | delete id => exact delete_mirrors mirrors valid

theorem mirrors_after {calls : List StoreCall}
    (valid : ∀ call ∈ calls, call.id.isValid = true) :
    Mirrors (StoreCall.after calls d).base directory (StoreCall.after calls d).disk
      (StoreCall.after calls p) := by
  induction calls generalizing d p with
  | nil => exact mirrors
  | cons call calls ih =>
      have next := (perform_mirrors mirrors (valid call List.mem_cons_self)).2
      rw [← base_perform d call] at next
      exact ih next fun later member => valid later (List.mem_cons_of_mem _ member)

end Calls

/-- A save of a source that breaks too early fails, and nothing that can be fetched changes. -/
theorem save_broken {d : Directory} {p : Payloads} {directory : Place}
    (mirrors : Mirrors d.base directory d.disk p) {id : DocumentId} (valid : id.isValid = true)
    {source : Source} {size : Nat} {e : IoError} (early : source.bytes.length < size)
    (breaks : source.failure = some e) (flowing : (source.limit size).Flowing) :
    let call := StoreCall.save id source size
    (call.perform d).1 = .error (.saveFailed id.text e.text) ∧
      (call.perform p).1 = .error (.io e) ∧
      ∀ other, (call.perform d).2.fetch other = d.fetch other ∧
        (call.perform p).2.fetch other = p.fetch other := by
  have failed : ((source.limit size).drain 8192).failure = some e := by
    rw [(Limited.drain_flowing (by decide) _ flowing).2]
    simp only [Limited.failure?, Source.limit, Nat.not_le.mpr early, if_false, breaks]
  have saved : d.save id source size = (.error (.saveFailed id.text e.text),
      ⟨d.disk.erase (directory ++ [partName id d.drawn]), d.base, d.drawn + 1⟩) := by
    rw [save_found valid (mirrors.entry_partName valid d.drawn) (mirrors.entry_dataName valid),
      saveAt, if_neg (mirrors.free id d.drawn valid), failed]
  have kept : p.save id source size = (.error (.io e), p) := by
    simp only [Payloads.save, mirrors.online, if_true, Limited.readAll, failed]
  simp only [StoreCall.perform, PayloadStore.save, saved, kept]
  refine ⟨rfl, rfl, fun other => ⟨?_, trivial⟩⟩
  cases valid_other : other.isValid with
  | false => simp only [fetch, valid_other, Bool.false_eq_true, if_false]
  | true =>
      rw [fetch_mirrors mirrors valid_other]
      exact fetch_mirrors (d := ⟨_, d.base, d.drawn + 1⟩) (mirrors.erase_part valid d.drawn)
        valid_other

theorem ready_of_ping {d : Directory} (present : d.ping = .ok ())
    (room : d.base.size + 61 ≤ Disk.maxPath) : ∃ directory, Ready d.base directory d.disk := by
  unfold ping Disk.stat at present
  cases found : d.disk.find d.base with
  | error e => simp [found, Except.map] at present
  | ok entry =>
      obtain ⟨directory, node⟩ := entry
      cases node with
      | file bytes => simp [found, Except.map] at present
      | directory =>
          obtain ⟨checked, walked, entered⟩ := Disk.find_ok_iff.mp found
          exact ⟨directory, checked, walked, entered, room⟩

/-- A directory that answers as a memory does mirrors it. -/
theorem mirrors_of_fetch {d : Directory} {p : Payloads} (present : d.ping = .ok ())
    (room : d.base.size + 61 ≤ Disk.maxPath) (online : p.online = true)
    (alike : ∀ id : DocumentId, id.isValid = true → d.fetch id = p.fetch id)
    (clear : ∀ (id : DocumentId) n, id.isValid = true →
      d.disk.stat (d.base.child (partName id n)) ≠ .ok .directory) :
    ∃ directory, Mirrors d.base directory d.disk p := by
  obtain ⟨directory, ready⟩ := ready_of_ping present room
  refine ⟨directory, ready, online, fun id valid => ?_, fun id n valid taken => ?_⟩
  · have same := alike id valid
    rw [fetch_found valid (ready.entry_dataName valid), fetchAt, Payloads.fetch, if_pos online]
      at same
    cases kept : p.kept.get? id with
    | none =>
        rw [kept] at same
        split at same
        · next absent => exact absent
        · cases same
        · cases same
    | some bytes =>
        rw [kept] at same
        split at same
        · cases same
        -- A directory can be opened too, but its first read fails.
        · have intact : some OsError.isDirectory.io = none :=
            congrArg Source.failure (Except.ok.inj same)
          cases intact
        · next there held =>
            have equal : there = bytes := congrArg Source.bytes (Except.ok.inj same)
            rw [held, equal]
            rfl
  · exact clear id n valid ((ready.stat_partName_iff valid n).mpr taken)

/-- An empty directory answers as an empty memory does. -/
theorem alike_of_list_nil {d : Directory} (empty : d.disk.list d.base = .ok [])
    (room : d.base.size + 61 ≤ Disk.maxPath) :
    d.ping = .ok () ∧
      (∀ id : DocumentId, id.isValid = true → d.fetch id = Payloads.empty.fetch id) ∧
      ∀ (id : DocumentId) n, id.isValid = true →
        d.disk.stat (d.base.child (partName id n)) ≠ .ok .directory := by
  obtain ⟨directory, found, nothing⟩ := Disk.node?_of_list_nil empty
  obtain ⟨checked, walked, entered⟩ := Disk.find_ok_iff.mp found
  have ready : Ready d.base directory d.disk := ⟨checked, walked, entered, room⟩
  refine ⟨?_, fun id valid => ?_, fun id n valid => ?_⟩
  · rw [ping, Disk.stat, found]
    rfl
  · rw [fetch_found valid (ready.entry_dataName valid), fetchAt, nothing]
    rfl
  · rw [ne_eq, ready.stat_partName_iff valid n, nothing]
    simp

/-- A directory and a memory that answer alike go on to do so, whatever is saved, fetched and
deleted under valid ids, as long as the path of the directory leaves room for the names of files. A
save of a source that breaks too early fails in both, and nothing that can be fetched changes. -/
theorem agrees_with_memory {d : Directory} {p : Payloads} (present : d.ping = .ok ())
    (room : d.base.size + 61 ≤ Disk.maxPath) (online : p.online = true)
    (alike : ∀ id : DocumentId, id.isValid = true → d.fetch id = p.fetch id)
    (clear : ∀ (id : DocumentId) n, id.isValid = true →
      d.disk.stat (d.base.child (partName id n)) ≠ .ok .directory)
    (calls : List StoreCall) (valid : ∀ call ∈ calls, call.id.isValid = true) :
    let d := StoreCall.after calls d
    let p := StoreCall.after calls p
    (∀ call : StoreCall, call.id.isValid = true →
      Agree call (call.perform d).1 (call.perform p).1) ∧
    ∀ (id : DocumentId) (source : Source) (size : Nat) (e : IoError), id.isValid = true →
      source.bytes.length < size → source.failure = some e → (source.limit size).Flowing →
        let call := StoreCall.save id source size
        (call.perform d).1 = .error (.saveFailed id.text e.text) ∧
          (call.perform p).1 = .error (.io e) ∧
          ∀ other, (call.perform d).2.fetch other = d.fetch other ∧
            (call.perform p).2.fetch other = p.fetch other := by
  obtain ⟨directory, mirrors⟩ := mirrors_of_fetch present room online alike clear
  have later := mirrors_after mirrors valid
  refine ⟨fun call valid => (perform_mirrors later valid).1, ?_⟩
  intro id source size e valid early breaks flowing
  exact save_broken later valid early breaks flowing

/-- From an empty directory and an empty memory: a payload is replaced and another is missing. -/
theorem empty_directory_agrees_with_memory :
    let id : DocumentId := ⟨"ITSzxj1mqz1gwFZ4iendeQ"⟩
    let calls : List StoreCall := [.save id (.ofBytes [97, 98]) 2, .save id (.ofBytes [99]) 9,
      .delete ⟨"1B2M2Y8AsgTpgAmY7PhCfg"⟩]
    let d := StoreCall.after calls
      (⟨Disk.empty.put ["store"] .directory, ["store"], 0⟩ : Directory)
    let p := StoreCall.after calls Payloads.empty
    let broken := StoreCall.save id ⟨[100], [1], some ⟨"reset"⟩⟩ 2
    (∀ call : StoreCall, call.id.isValid = true →
        Agree call (call.perform d).1 (call.perform p).1) ∧
      (broken.perform d).1 = .error (.saveFailed id.text "reset") ∧
      (broken.perform p).1 = .error (.io ⟨"reset"⟩) ∧
      (broken.perform d).2.fetch id = d.fetch id ∧ (broken.perform p).2.fetch id = p.fetch id := by
  have room : Path.size ["store"] + 61 ≤ Disk.maxPath := by decide
  obtain ⟨present, alike, clear⟩ := alike_of_list_nil
    (d := ⟨Disk.empty.put ["store"] .directory, ["store"], 0⟩) (by decide) room
  obtain ⟨answers, failures⟩ := agrees_with_memory present room rfl alike clear
    [.save ⟨"ITSzxj1mqz1gwFZ4iendeQ"⟩ (.ofBytes [97, 98]) 2,
      .save ⟨"ITSzxj1mqz1gwFZ4iendeQ"⟩ (.ofBytes [99]) 9, .delete ⟨"1B2M2Y8AsgTpgAmY7PhCfg"⟩]
    (by decide)
  obtain ⟨lost, dropped, still⟩ := failures ⟨"ITSzxj1mqz1gwFZ4iendeQ"⟩
    ⟨[100], [1], some ⟨"reset"⟩⟩ 2 ⟨"reset"⟩ (by decide) (by decide) rfl (by decide)
  exact ⟨answers, lost, dropped, still _⟩

/-- The path of an empty directory that is present may be too long to write in it. -/
theorem long_path_disagrees_with_memory :
    let d : Directory :=
      ⟨Disk.empty.put ["store"] .directory, List.replicate 2015 "." ++ ["store"], 0⟩
    let id : DocumentId := ⟨"ITSzxj1mqz1gwFZ4iendeQ"⟩
    let call := StoreCall.save id (.ofBytes [97]) 1
    d.disk.list d.base = .ok [] ∧ id.isValid = true ∧
      (call.perform d).1 = .error (.saveFailed id.text "File name too long (os error 36)") ∧
      (call.perform Payloads.empty).1 = .ok none := by
  decide +kernel

end Directory

end Quarantine
