import Quarantine.Document.View
import Quarantine.Proofs.Json.Reading
import Quarantine.Proofs.Time.Timestamp
import Quarantine.Service.Health

/-!
Records, views, reports and verdicts as JSON. Each is read back from its own text, whatever
characters its strings have, as long as its times are among those that a text can tell.
-/

namespace Quarantine

open Json

namespace Instant

variable {t : Instant}

theorem reads_toJson (text : t.HasText) : Reads reader t.toJson t := by
  intro rest
  refine (Reader.run_bind (reads_text _ rest)).trans ?_
  rw [Timestamp.read_write .fewest text]
  rfl

theorem head?_tokens_toJson : t.toJson.tokens.head? ≠ some .null :=
  nofun

end Instant

theorem Status.reads_toJson (s : Status) : Reads reader s.toJson s := by
  cases s with
  | pending | clean | infected => exact reads_oneOf rfl

namespace Document

/-- The times of the record are such that a text can tell them. -/
structure Datable (d : Document) : Prop where
  createdAt : ∃ s, Timestamp.read s = some d.createdAt
  analyzedAt : ∀ t ∈ d.analyzedAt, ∃ s, Timestamp.read s = some t

variable {d : Document}

theorem fits_toJson (d : Document) : d.toJson.Fits := by
  refine ⟨trivial, trivial, trivial, trivial, ?_, trivial, trivial⟩
  split <;> trivial

theorem reads_toJson (datable : d.Datable) : Reads reader d.toJson d := by
  have created := Timestamp.hasText_iff.mpr datable.createdAt
  obtain ⟨analyzed, written, judged⟩ : ∃ j,
      d.toJson = .object
        [("id", .text d.id.text), ("hash", .text d.hash), ("tag", .text d.tag),
          ("status", d.status.toJson), ("analyzed_at", j), ("created_at", d.createdAt.toJson)] ∧
      Reads (Reader.option Instant.reader) j d.analyzedAt := by
    refine ⟨_, rfl, ?_⟩
    split
    · next t judged =>
        rw [judged]
        have text := Timestamp.hasText_iff.mpr (datable.analyzedAt t judged)
        exact reads_option_some (Instant.reads_toJson text) Instant.head?_tokens_toJson
    · next unjudged =>
        rw [unjudged]
        exact reads_option_none
  have filled : Fills fields {}
      [("id", .text d.id.text), ("hash", .text d.hash), ("tag", .text d.tag),
        ("status", d.status.toJson), ("analyzed_at", analyzed),
        ("created_at", d.createdAt.toJson)]
      ⟨some d.id.text, some d.hash, some d.tag, some d.status, some d.analyzedAt,
        some d.createdAt⟩ :=
    .field rfl rfl ((reads_text d.id.text).map _) <|
    .field rfl rfl ((reads_text d.hash).map _) <|
    .field rfl rfl ((reads_text d.tag).map _) <|
    .field rfl rfl (d.status.reads_toJson.map _) <|
    .field rfl rfl (judged.map _) <|
    .field rfl rfl ((Instant.reads_toJson created).map _) .done
  rw [written]
  exact fun rest => Reader.run_bind (reads_record filled rest)

end Document

namespace View

theorem fits_toJson (v : View) : v.toJson.Fits := by
  obtain ⟨id, hash, algorithm, tag, status, analyzed, created⟩ := v
  cases analyzed with
  | none => exact ⟨trivial, trivial, trivial, trivial, trivial, trivial, trivial⟩
  | some t => exact ⟨trivial, trivial, trivial, trivial, trivial, trivial, trivial, trivial⟩

/-- Without a time of the verdict there is no field for it. -/
theorem reads_toJson (v : View) : Reads reader v.toJson v := by
  obtain ⟨id, hash, algorithm, tag, status, analyzed, created⟩ := v
  have front : Fills fields {}
      [("id", .text id), ("hash", .text hash), ("hash_algo", .text algorithm), ("tag", .text tag),
        ("analyse_status", .text status)]
      ⟨some id, some hash, some algorithm, some tag, some status, none, none⟩ :=
    .field rfl rfl ((reads_text id).map _) <|
    .field rfl rfl ((reads_text hash).map _) <|
    .field rfl rfl ((reads_text algorithm).map _) <|
    .field rfl rfl ((reads_text tag).map _) <|
    .field rfl rfl ((reads_text status).map _) .done
  have back (time : Option (Option String)) : Fills fields
      ⟨some id, some hash, some algorithm, some tag, some status, time, none⟩
      [("created_at", .text created)]
      ⟨some id, some hash, some algorithm, some tag, some status, time, some created⟩ :=
    .field rfl rfl ((reads_text created).map _) .done
  cases analyzed with
  | none => exact fun rest => Reader.run_bind (reads_record (front.append (back none)) rest)
  | some t =>
      have judged : Reads (Reader.option Reader.text) (.text t) (some t) :=
        reads_option_some (reads_text t) nofun
      have later : Fills fields
          ⟨some id, some hash, some algorithm, some tag, some status, none, none⟩
          [("analyzed_at", .text t), ("created_at", .text created)]
          ⟨some id, some hash, some algorithm, some tag, some status, some (some t),
            some created⟩ :=
        .field rfl rfl (judged.map _) (back (some (some t)))
      exact fun rest => Reader.run_bind (reads_record (front.append later) rest)

end View

namespace HealthReport

theorem fits_toJson (r : HealthReport) : r.toJson.Fits :=
  ⟨trivial, trivial, trivial, itemsFit_map fun _ _ => trivial, trivial⟩

theorem reads_toJson (r : HealthReport) : Reads reader r.toJson r := by
  have failures : Reads (Reader.list Reader.text) (.list (r.failures.map .text)) r.failures :=
    reads_list fun s _ => reads_text s
  have filled : Fills fields {}
      [("version", .text r.version), ("information", .text r.information),
        ("healthy", .bool r.healthy), ("failures", .list (r.failures.map .text))]
      ⟨some r.version, some r.information, some r.healthy, some r.failures⟩ :=
    .field rfl rfl ((reads_text r.version).map _) <|
    .field rfl rfl ((reads_text r.information).map _) <|
    .field rfl rfl ((reads_bool r.healthy).map _) <|
    .field rfl rfl (failures.map _) .done
  exact fun rest => Reader.run_bind (reads_record filled rest)

end HealthReport

namespace Verdict

theorem fits_toJson (v : Verdict) : v.toJson.Fits := by
  cases v with
  | clean => exact ⟨trivial, trivial⟩
  | infected threat => exact ⟨trivial, trivial, trivial⟩

/-- The kind stands first, and a threat is kept until it is known for which kind. -/
theorem reads_toJson (v : Verdict) : Reads reader v.toJson v := by
  intro rest
  cases v with
  | clean => rfl
  | infected threat => rfl

end Verdict

/-- Records, views, reports and verdicts survive being written as JSON and read back. -/
theorem records_survive_json :
    (∀ d : Document, d.Datable → Json.read Document.reader d.toJson.render = .ok d) ∧
      (∀ v : View, Json.read View.reader v.toJson.render = .ok v) ∧
      (∀ r : HealthReport, Json.read HealthReport.reader r.toJson.render = .ok r) ∧
      ∀ v : Verdict, Json.read Verdict.reader v.toJson.render = .ok v :=
  ⟨fun d datable => read_render d.fits_toJson (Document.reads_toJson datable),
    fun v => read_render v.fits_toJson v.reads_toJson,
    fun r => read_render r.fits_toJson r.reads_toJson,
    fun v => read_render v.fits_toJson v.reads_toJson⟩

/-- A record from before the year 0, with a verdict in a leap second of the year 10000. -/
def Document.remote : Document :=
  ⟨⟨"\"quoted\\"⟩, "\x00\n\t", "é\u2028", .infected, some ⟨253433923199, 1500000000, by decide⟩,
    ⟨-62167219201, 1, by decide⟩⟩

theorem remote_record_survives_json :
    Document.remote.Datable ∧
      Json.read Document.reader Document.remote.toJson.render = .ok Document.remote := by
  have datable : Document.remote.Datable := by
    refine ⟨⟨"-0001-12-31T23:59:59.000000001Z", by decide⟩, ?_⟩
    rintro t ⟨⟩
    exact ⟨"+10001-01-01T05:29:60.5+05:30", by decide⟩
  exact ⟨datable, records_survive_json.1 _ datable⟩

end Quarantine
