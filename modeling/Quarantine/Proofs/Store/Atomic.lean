import Quarantine.Proofs.Source.Drain
import Quarantine.Proofs.Store.Directory

/-!
A save in a directory is all or nothing, whatever is in the file system and whatever goes wrong on
the way. As long as the save is not through, all that it has left is a file under the name that it
has drawn, and as there was nothing under that name, to remove the file is to undo the save.
-/

namespace Quarantine

namespace Directory

theorem saveUnder_none (id : DocumentId) (source : Source) (size : Nat) (d : Directory) :
    d.saveUnder none id source size = d.save id source size :=
  rfl

/-- What a save finds to write. -/
def payload (source : Source) (size : Nat) : Bytes :=
  ((source.limit size).drain 8192).chunks.flatten

/-- It is the front of all that the source would give. -/
theorem payload_eq (source : Source) (size : Nat) :
    payload source size = (source.drain 8192).chunks.flatten.take size :=
  source.drain_limit (by decide) size

theorem payload_flowing {source : Source} {size : Nat} (flowing : (source.limit size).Flowing) :
    payload source size = source.bytes.take size :=
  ((source.limit size).drain_flowing (by decide) flowing).1

/-- A disk on which a save has not got further than its own file. -/
inductive Unfinished (d : Directory) (id : DocumentId) : Disk → Prop
  | untouched : Unfinished d id d.disk
  | begun (part : Place) (bytes : Bytes)
      (found : d.disk.entry d.base (partName id d.drawn) = .ok part) :
      Unfinished d id (d.disk.put part (.file bytes))

/-- Nothing is in the way of a save: its directory is there, the source does not break before the
limit, and the bytes may take the place that they are meant for. -/
structure Passes (d : Directory) (id : DocumentId) (source : Source) (size : Nat)
    (directory : Place) : Prop where
  found : d.disk.entry d.base (partName id d.drawn) =
    .ok (directory ++ [partName id d.drawn])
  free : d.disk.node? (directory ++ [dataName id]) ≠ some .directory
  whole : ((source.limit size).drain 8192).failure = none

/-- What the writing of a payload can come to. -/
inductive Written (d : Directory) (id : DocumentId) (source : Source) (size : Nat) :
    Except IoError Unit × Disk → Prop
  | moved (directory : Place) (passes : Passes d id source size directory) :
      Written d id source size
        (.ok (), d.disk.put (directory ++ [dataName id]) (.file (payload source size)))
  | stuck (e : IoError) (disk : Disk) (unfinished : Unfinished d id disk) :
      Written d id source size (.error e, disk)

section Unused

variable {d : Directory} {id : DocumentId} (valid : id.isValid = true)
  (unused : ∀ node, d.disk.stat (d.partPath id) ≠ .ok node)
include valid unused

theorem node?_part {part : Place}
    (found : d.disk.entry d.base (partName id d.drawn) = .ok part) :
    d.disk.node? part = none := by
  cases held : d.disk.node? part with
  | none => rfl
  | some node =>
      refine absurd ?_ (unused node)
      rw [Disk.stat, partPath_eq, Disk.find_child (plain_partName valid _), found]
      simp only [bind, Except.bind, held]
      rfl

theorem without_unfinished {disk : Disk} (unfinished : Unfinished d id disk) :
    without (d.partPath id) disk = d.disk := by
  cases unfinished with
  | untouched =>
      rw [without, partPath_eq, Disk.remove_child (plain_partName valid _)]
      cases found : d.disk.entry d.base (partName id d.drawn) with
      | error e => rfl
      | ok part => simp only [bind, Except.bind, node?_part valid unused found]
  | begun part bytes found =>
      have free := node?_part valid unused found
      rw [without_written valid found (by simp [free]), Disk.erase_of_absent _ free]

theorem write_part (bytes : Bytes) :
    d.disk.write (d.partPath id) bytes =
      (d.disk.entry d.base (partName id d.drawn)).map fun part =>
        d.disk.put part (.file bytes) := by
  rw [partPath_eq, Disk.write_child (plain_partName valid _)]
  cases found : d.disk.entry d.base (partName id d.drawn) with
  | error e => rfl
  | ok part =>
      simp only [bind, Except.bind, node?_part valid unused found, reduceCtorEq, if_false]
      rfl

theorem rename_part {directory : Place}
    (found : d.disk.entry d.base (partName id d.drawn) =
      .ok (directory ++ [partName id d.drawn])) (bytes : Bytes) :
    (d.disk.put (directory ++ [partName id d.drawn]) (.file bytes)).rename (d.partPath id)
        (d.dataPath id) =
      if d.disk.node? (directory ++ [dataName id]) = some .directory then .error .isDirectory
      else .ok (d.disk.put (directory ++ [dataName id]) (.file bytes)) := by
  have absent := node?_part valid unused found
  rw [rename_written valid found (entry_dataName valid found) (by simp [absent]),
    Disk.erase_of_absent _ absent]

variable (source : Source) (size : Nat)

theorem written_breakOff (bytes : Bytes) (e : IoError) :
    Written d id source size (breakOff (d.partPath id) bytes e d.disk) := by
  rw [breakOff, write_part valid unused]
  cases found : d.disk.entry d.base (partName id d.drawn) with
  | error failure => exact .stuck _ _ .untouched
  | ok part => exact .stuck _ _ (.begun part bytes found)

theorem written_writePart :
    Written d id source size
      (writePart (d.partPath id) (d.dataPath id) source size d.disk) := by
  rw [writePart, write_part valid unused]
  cases found : d.disk.entry d.base (partName id d.drawn) with
  | error failure => exact .stuck _ _ .untouched
  | ok part =>
      have begun := Unfinished.begun part (payload source size) found
      cases whole : ((source.limit size).drain 8192).failure with
      | some e => exact .stuck _ _ begun
      | none =>
          obtain ⟨-, directory, -, -, rfl⟩ := Disk.entry_ok_iff.mp found
          have renamed := rename_part valid unused found (payload source size)
          by_cases taken : d.disk.node? (directory ++ [dataName id]) = some .directory
          · rw [if_pos taken] at renamed
            simp only [Except.map, payload] at renamed ⊢
            rw [renamed]
            exact .stuck _ _ begun
          · rw [if_neg taken] at renamed
            simp only [Except.map, payload] at renamed ⊢
            rw [renamed]
            exact .moved directory ⟨found, taken, whole⟩

theorem written_writePartUnder (hitch : Option Hitch) :
    Written d id source size
      (writePartUnder hitch (d.partPath id) (d.dataPath id) source size d.disk) := by
  have unhindered := written_writePart valid unused source size
  cases hitch with
  | none => exact unhindered
  | some hitch =>
      cases hitch with
      | creating e => exact .stuck _ _ .untouched
      | finishing e => exact written_breakOff valid unused source size _ _
      | writing room e =>
          simp only [writePartUnder]
          split
          · exact written_breakOff valid unused source size _ _
          · exact unhindered

variable {source size}

theorem save_passing {directory : Place} (passes : Passes d id source size directory) :
    (d.save id source size).1 = .ok () := by
  have renamed := rename_part valid unused passes.found (payload source size)
  rw [if_neg passes.free] at renamed
  simp only [save, valid, if_true, writePart, write_part valid unused, passes.found, Except.map,
    passes.whole, payload] at renamed ⊢
  rw [renamed]

end Unused

/-- A save changes the place of its bytes and nothing else, or nothing at all. -/
theorem saveUnder_cases {d : Directory} {id : DocumentId}
    (unused : id.isValid = true → ∀ node, d.disk.stat (d.partPath id) ≠ .ok node)
    (source : Source) (size : Nat) (hitch : Option Hitch) :
    (id.isValid = true ∧ ∃ directory, Passes d id source size directory ∧
      d.saveUnder hitch id source size = (.ok (),
        { d with
          disk := d.disk.put (directory ++ [dataName id]) (.file (payload source size))
          drawn := d.drawn + 1 })) ∨
    ∃ e drawn, d.saveUnder hitch id source size = (.error e, { d with drawn := drawn }) := by
  cases valid : id.isValid with
  | false =>
      have refused : d.saveUnder hitch id source size = (.error (.invalidId id.text), d) :=
        if_neg (Bool.eq_false_iff.mp valid)
      exact .inr ⟨_, _, refused⟩
  | true =>
      have unused := unused valid
      have written := written_writePartUnder valid unused source size hitch
      generalize wrote : writePartUnder hitch (d.partPath id) (d.dataPath id) source size d.disk =
        result at written
      cases written with
      | moved directory passes =>
          refine .inl ⟨rfl, directory, passes, ?_⟩
          simp only [saveUnder, valid, if_true, wrote]
      | stuck e disk unfinished =>
          refine .inr ⟨.saveFailed id.text e.text, d.drawn + 1, ?_⟩
          simp only [saveUnder, valid, if_true, wrote, without_unfinished valid unused unfinished]

/-- Whatever is in the file system and whatever is wrong with the device, a save that goes well
leaves the first bytes of its source in the file that keeps them and all else as it was, and one
that fails leaves everything as it was. If nothing is wrong with the device, no more can be in its
way than the id, the directory, the source and something else in the place of the file. -/
theorem save_all_or_nothing (d : Directory) (id : DocumentId) (source : Source) (size : Nat)
    (unused : id.isValid = true → ∀ node, d.disk.stat (d.partPath id) ≠ .ok node) :
    (∀ hitch after,
      (∀ e, d.saveUnder hitch id source size = (.error e, after) →
        after = { d with drawn := after.drawn }) ∧
      (d.saveUnder hitch id source size = (.ok (), after) →
        ∃ directory, d.disk.walk [] d.base = .ok directory ∧
          d.disk.node? directory = some .directory ∧
          after = { d with
            disk := d.disk.put (directory ++ [dataName id]) (.file (payload source size))
            drawn := after.drawn })) ∧
    d.save id source size = d.saveUnder none id source size ∧
    ((d.save id source size).1 = .ok () ↔
      id.isValid = true ∧ ∃ directory, Passes d id source size directory) ∧
    payload source size = (source.drain 8192).chunks.flatten.take size ∧
    ((source.limit size).Flowing → payload source size = source.bytes.take size) := by
  refine ⟨fun hitch after => ?_, rfl, ⟨fun went_well => ?_, fun ⟨valid, _, passes⟩ => ?_⟩,
    payload_eq source size, payload_flowing⟩
  · obtain ⟨-, directory, passes, saved⟩ | ⟨e, drawn, failed⟩ :=
      saveUnder_cases unused source size hitch
    · rw [saved]
      refine ⟨fun e failed => (nomatch failed), fun left => ?_⟩
      obtain ⟨-, _, walked, held, place⟩ := Disk.entry_ok_iff.mp passes.found
      cases (List.append_inj' place rfl).1
      cases left
      exact ⟨directory, walked, held, rfl⟩
    · rw [failed]
      refine ⟨fun e left => ?_, fun went_well => nomatch went_well⟩
      cases left
      rfl
  · obtain ⟨valid, directory, passes, -⟩ | ⟨e, drawn, failed⟩ :=
      saveUnder_cases unused source size none
    · exact ⟨valid, directory, passes⟩
    · rw [← saveUnder_none, failed] at went_well
      cases went_well
  · exact save_passing valid (unused valid) passes

/-- Two saves over a file that is there already. The device has room for one byte of the first; the
second goes well, and its limit keeps it from the third byte. -/
theorem save_all_or_nothing_over_earlier :
    let id : DocumentId := ⟨"1B2M2Y8AsgTpgAmY7PhCfg"⟩
    let disk := (Disk.empty.put ["store"] .directory).put ["store", dataName id] (.file [7])
    let store : Directory := ⟨disk, ["store"], 0⟩
    let source := Source.ofBytes [97, 98, 99]
    let full := some (Hitch.writing 1 ⟨"disk full"⟩)
    (store.saveUnder full id source 2).1 = .error (.saveFailed id.text "disk full") ∧
      (store.saveUnder full id source 2).2.disk = disk ∧
      (store.save id source 2).1 = .ok () ∧
      ∃ directory, store.disk.walk [] store.base = .ok directory ∧
        (store.save id source 2).2.disk =
          disk.put (directory ++ [dataName id]) (.file [97, 98]) := by
  intro id disk store source full
  have absent : store.disk.stat (store.partPath id) = .error .noEntry := by decide +kernel
  obtain ⟨either, plain, passing, -, whole⟩ := save_all_or_nothing store id source 2
    fun _ node there => nomatch absent.symm.trans there
  have flowing : (source.limit 2).Flowing := Limited.flowing_ofBytes _ _
  have failed : (store.saveUnder full id source 2).1 =
      .error (.saveFailed id.text "disk full") := by
    decide +kernel
  have saved : (store.save id source 2).1 = .ok () :=
    passing.mpr ⟨by decide, ["store"], by decide +kernel, by decide +kernel,
      ((source.limit 2).drain_flowing (by decide) flowing).2⟩
  obtain ⟨directory, walked, -, after⟩ :=
    (either none (store.save id source 2).2).2 (plain.symm.trans (Prod.ext saved rfl))
  rw [whole flowing] at after
  have same := (either full (store.saveUnder full id source 2).2).1 _ (Prod.ext failed rfl)
  exact ⟨failed, congrArg Directory.disk same, saved, directory, walked,
    congrArg Directory.disk after⟩

end Directory

end Quarantine
