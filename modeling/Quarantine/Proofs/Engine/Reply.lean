import Quarantine.Proofs.Engine.Clamd
import Quarantine.Proofs.Text.Blank
import Quarantine.Proofs.Text.Lossy

/-!
What a scanning daemon's reply comes to. The verdict hangs on the text up to the first zero byte, or
on all of it if the connection closes without one; how the reply is cut into reads does not matter.
A daemon that goes away in the middle of a reply leaves a front part of it, which is taken for the
whole: that of an infected reply can be the clean one, but only under a name that begins as the
clean reply does. Connections that break before the end of a reply give no verdict and are not
covered.
-/

namespace Quarantine.Clamd

theorem takeWhile_append_of_no_zero {got : Bytes} (none : 0 ∉ got) (rest : Bytes) :
    (got ++ rest).takeWhile (· ≠ 0) = got ++ rest.takeWhile (· ≠ 0) :=
  List.takeWhile_append_of_pos fun _ member =>
    decide_eq_true fun zero => none (zero ▸ member)

theorem takeWhile_append_of_zero {got : Bytes} (zero : 0 ∈ got) (rest : Bytes) :
    (got ++ rest).takeWhile (· ≠ 0) = got.takeWhile (· ≠ 0) := by
  obtain ⟨front, back, rfl, none⟩ := List.eq_append_cons_of_mem zero
  rw [List.append_assoc, takeWhile_append_of_no_zero none, takeWhile_append_of_no_zero none]
  rfl

theorem gather_end {connection rest : Source} (given : connection.read 256 = .ok ([], rest))
    (back : Bytes) : gather connection back = .ok back := by
  rw [gather]
  split
  · next given' => rw [given'] at given; cases given
  · next given' =>
      rw [given'] at given
      cases given
      rw [dif_pos rfl]

theorem gather_more {connection rest : Source} {got : Bytes}
    (given : connection.read 256 = .ok (got, rest)) (more : got ≠ []) (back : Bytes) :
    gather connection back =
      if 0 ∈ got then .ok (back ++ got) else gather rest (back ++ got) := by
  rw [gather]
  split
  · next given' => rw [given'] at given; cases given
  · next given' =>
      rw [given'] at given
      cases given
      rw [dif_neg more]
      simp only [List.contains_iff_mem]

/-- What is gathered of a reply reaches its first zero byte, or all of it if it has none. -/
theorem gather_flowing (connection : Source) (flowing : Limited.Flowing ⟨connection, none⟩)
    (complete : 0 ∈ connection.bytes ∨ connection.failure = none) (back : Bytes) :
    ∃ got, gather connection back = .ok (back ++ got) ∧
      got.takeWhile (· ≠ 0) = connection.bytes.takeWhile (· ≠ 0) := by
  -- On the bytes that are left in the connection: a read without a zero byte takes some of them.
  induction size : connection.bytes.length using Nat.strongRecOn generalizing connection back with
  | ind n ih =>
      have outcome := connection.readsTo_read 256
      generalize given : connection.read 256 = read at outcome
      cases outcome with
      | broke e spent failed =>
          cases complete with
          | inl zero => rw [spent] at zero; cases zero
          | inr closes => rw [failed] at closes; cases closes
      | ended spent intact =>
          exact ⟨[], by rw [gather_end given, List.append_nil], by rw [spent]⟩
      | idle left allowed =>
          exact absurd allowed (Nat.ne_of_gt (Limited.allowance_pos flowing left (by decide)))
      | took a left pos fits =>
          have gives := Limited.gives_unlimited left pos fits
          have more : connection.bytes.take a ≠ [] := by simp [left, Nat.ne_of_gt pos]
          rw [gather_more given more]
          split
          · next zero =>
              refine ⟨_, rfl, ?_⟩
              rw [← takeWhile_append_of_zero zero (connection.bytes.drop a), List.take_append_drop]
          · next none_yet =>
              have shorter := size ▸ Source.read_ok_lt given more
              have complete : 0 ∈ connection.bytes.drop a ∨ connection.failure = none := by
                rw [← List.take_append_drop a connection.bytes, List.mem_append] at complete
                exact complete.imp_left (·.resolve_left none_yet)
              obtain ⟨got, gathered, same⟩ := ih _ shorter _ (gives.flowing flowing) complete
                (back ++ connection.bytes.take a) rfl
              refine ⟨connection.bytes.take a ++ got, by rw [gathered, List.append_assoc], ?_⟩
              rw [takeWhile_append_of_no_zero none_yet, same,
                ← takeWhile_append_of_no_zero none_yet, List.take_append_drop]

theorem readReply_flowing (connection : Source) (flowing : Limited.Flowing ⟨connection, none⟩)
    (complete : 0 ∈ connection.bytes ∨ connection.failure = none) :
    readReply connection = .ok (replyText connection.bytes) := by
  obtain ⟨got, gathered, same⟩ := gather_flowing connection flowing complete []
  simp only [readReply, gathered, List.nil_append, replyText, same]

/-- What a reply is about: the text after its first colon, without the white space around it, or all
of a reply that has no colon. -/
inductive IsAbout (reply : List Char) : List Char → Prop
  | after (front rest : List Char) (first : ':' ∉ front) (split : reply = front ++ ':' :: rest) :
      IsAbout reply (Text.trim rest)
  | whole (none : ':' ∉ reply) : IsAbout reply reply

theorem dropWhile_append_of_no_colon {front : List Char} (first : ':' ∉ front)
    (rest : List Char) : (front ++ rest).dropWhile (· ≠ ':') = rest.dropWhile (· ≠ ':') :=
  List.dropWhile_append_of_pos fun _ member =>
    decide_eq_true fun colon => first (colon ▸ member)

theorem body_of_no_colon {reply : List Char} (none : ':' ∉ reply) : body reply = reply := by
  have all := dropWhile_append_of_no_colon none []
  rw [List.append_nil] at all
  rw [body, all]
  rfl

theorem body_of_colon {front : List Char} (first : ':' ∉ front) (rest : List Char) :
    body (front ++ ':' :: rest) = Text.trim rest := by
  rw [body, dropWhile_append_of_no_colon first]
  rfl

theorem isAbout_body (reply : List Char) : IsAbout reply (body reply) := by
  by_cases colon : ':' ∈ reply
  · obtain ⟨front, rest, split, first⟩ := List.eq_append_cons_of_mem colon
    rw [split, body_of_colon first]
    exact .after front rest first rfl
  · rw [body_of_no_colon colon]
    exact .whole colon

theorem before?_eq_some_iff {ending cs front : List Char} :
    before? ending cs = some front ↔ cs = front ++ ending := by
  unfold before?
  constructor
  · intro found
    split at found
    · next ends =>
        obtain ⟨start, rfl⟩ := List.isSuffixOf_iff_suffix.mp ends
        cases found
        simp
    · cases found
  · rintro rfl
    rw [if_pos (List.isSuffixOf_iff_suffix.mpr (List.suffix_append front ending))]
    simp

/-- The name of a threat, or what stands for one that is not named. -/
def threat (name : List Char) : String :=
  if Text.trim name = [] then "Unknown" else String.ofList (Text.trim name)

section Interpret

variable (text : List Char)

/-- Which verdict a text holds, or that it holds none. -/
theorem interpret_cases :
    (body (Text.trim text) = ['O', 'K'] ∧ interpret text = .ok .clean) ∨
      (∃ name, body (Text.trim text) = name ++ ['F', 'O', 'U', 'N', 'D'] ∧
        interpret text = .ok (.infected (threat name))) ∨
      (body (Text.trim text) ≠ ['O', 'K'] ∧
        (∀ name, body (Text.trim text) ≠ name ++ ['F', 'O', 'U', 'N', 'D']) ∧
        interpret text = .error (.ambiguous engine (String.ofList (Text.trim text)))) := by
  by_cases clean : body (Text.trim text) = ['O', 'K']
  · exact .inl ⟨clean, by simp only [interpret, clean, if_true]⟩
  · cases found : before? ['F', 'O', 'U', 'N', 'D'] (body (Text.trim text)) with
    | some name =>
        refine .inr (.inl ⟨name, before?_eq_some_iff.mp found, ?_⟩)
        simp only [interpret, clean, found, if_false, threat]
        cases Text.trim name <;> rfl
    | none =>
        refine .inr (.inr ⟨clean, fun name ends => ?_, ?_⟩)
        · rw [before?_eq_some_iff.mpr ends] at found
          cases found
        · simp only [interpret, clean, found, if_false]

theorem clean_ne_found (name : List Char) : ['O', 'K'] ≠ name ++ ['F', 'O', 'U', 'N', 'D'] := by
  intro same
  have lengths := congrArg List.length same
  simp at lengths

theorem interpret_eq_clean_iff :
    interpret text = .ok .clean ↔ body (Text.trim text) = ['O', 'K'] := by
  obtain ⟨clean, result⟩ | ⟨name, found, result⟩ | ⟨unclear, -, result⟩ := interpret_cases text
  · simp [clean, result]
  · simp [found, result, (clean_ne_found name).symm]
  · simp [unclear, result]

theorem interpret_eq_infected_iff (t : String) : interpret text = .ok (.infected t) ↔
    ∃ name, body (Text.trim text) = name ++ ['F', 'O', 'U', 'N', 'D'] ∧ t = threat name := by
  obtain ⟨clean, result⟩ | ⟨name, found, result⟩ | ⟨-, unclear, result⟩ := interpret_cases text
  · simp [clean, result, clean_ne_found]
  · simp [found, result, eq_comm]
  · simp [unclear, result]

theorem interpret_eq_unclear_iff :
    interpret text = .error (.ambiguous engine (String.ofList (Text.trim text))) ↔
      body (Text.trim text) ≠ ['O', 'K'] ∧
        ∀ name, body (Text.trim text) ≠ name ++ ['F', 'O', 'U', 'N', 'D'] := by
  obtain ⟨clean, result⟩ | ⟨name, found, result⟩ | ⟨not_clean, unclear, result⟩ :=
    interpret_cases text
  · simp [clean, result]
  · simp [found, result]
  · exact ⟨fun _ => ⟨not_clean, unclear⟩, fun _ => result⟩

theorem interpret_trim : interpret (Text.trim text) = interpret text := by
  simp only [interpret, Text.trim_trim]

end Interpret

/-- What a client makes of a daemon's reply. -/
def verdict (connection : Source) : Except ScanError Verdict :=
  readReply connection >>= interpret

theorem verdict_flowing (connection : Source) (flowing : Limited.Flowing ⟨connection, none⟩)
    (complete : 0 ∈ connection.bytes ∨ connection.failure = none) :
    verdict connection = interpret (replyText connection.bytes) := by
  rw [verdict, readReply_flowing connection flowing complete]
  rfl

theorem trim_replyText (bytes : Bytes) : Text.trim (replyText bytes) = replyText bytes :=
  Text.trim_trim _

/-- A reply that begins as those of a daemon do is about what comes after. -/
theorem body_trim_stream (cs : List Char) :
    body (Text.trim (['s', 't', 'r', 'e', 'a', 'm'] ++ ':' :: cs)) = Text.trim cs := by
  have cut : Text.trim (['s', 't', 'r', 'e', 'a', 'm'] ++ ':' :: cs) =
      ['s', 't', 'r', 'e', 'a', 'm'] ++ ':' :: Text.trimEnd cs := by
    rw [Text.trim, List.cons_append, Text.trimStart_cons_ink (by decide), ← List.cons_append,
      Text.trimEnd_append_cons (by decide)]
  rw [cut, body_of_colon (by decide), Text.trim_trimEnd]

theorem toList_found (t : String) :
    ("stream: " ++ t ++ " FOUND").toList = ['s', 't', 'r', 'e', 'a', 'm'] ++ ':' :: ' ' ::
      (t.toList ++ [' ', 'F', 'O', 'U', 'N', 'D']) := by
  simp

theorem interpret_found {t : String} (named : t.toList ≠ [])
    (bare : Text.trim t.toList = t.toList) :
    interpret ("stream: " ++ t ++ " FOUND").toList = .ok (.infected t) := by
  have about : body (Text.trim ("stream: " ++ t ++ " FOUND").toList) =
      t.toList ++ [' '] ++ ['F', 'O', 'U', 'N', 'D'] := by
    have ends : t.toList ++ [' ', 'F', 'O', 'U', 'N', 'D'] =
        t.toList ++ [' ', 'F', 'O', 'U', 'N'] ++ ['D'] := by simp
    rw [toList_found, body_trim_stream, Text.trim_cons_blank (by decide), ends,
      Text.trim_concat (by decide), Text.trimStart_append_of_bare bare named]
    simp
  rw [interpret_eq_infected_iff]
  refine ⟨_, about, ?_⟩
  rw [threat, Text.trim_concat_blank (by decide), bare, if_neg named, String.ofList_toList]

/-- The zero byte that ends a reply, and what follows it, are not read. -/
theorem replyText_utf8 {reply : String} (zero_free : '\x00' ∉ reply.toList) (rest : Bytes) :
    replyText (Text.utf8 reply ++ 0 :: rest) = Text.trim reply.toList := by
  rw [replyText, takeWhile_append_of_no_zero (Text.zero_not_mem_utf8 zero_free)]
  simp [Text.ofUtf8Lossy_utf8]

/-- A reply is decided by its text up to the first zero byte, or by all of it if the connection
closes without one, however it arrives: it is clean if it is about nothing but `OK`, infected if it
ends in `FOUND`, with the name before that, and unclear in every other case. So a threat is
reported under the name that the daemon gives it. -/
theorem reply_decides (connection : Source) (flowing : Limited.Flowing ⟨connection, none⟩)
    (complete : 0 ∈ connection.bytes ∨ connection.failure = none) :
    (∀ other : Source, Limited.Flowing ⟨other, none⟩ →
      (0 ∈ other.bytes ∨ other.failure = none) →
      other.bytes.takeWhile (· ≠ 0) = connection.bytes.takeWhile (· ≠ 0) →
      verdict other = verdict connection) ∧
    (∃ reply about,
      reply = Text.trim (Text.ofUtf8Lossy (connection.bytes.takeWhile (· ≠ 0))) ∧
      IsAbout reply about ∧
      (verdict connection = .ok .clean ↔ about = ['O', 'K']) ∧
      (∀ t, verdict connection = .ok (.infected t) ↔
        ∃ name, about = name ++ ['F', 'O', 'U', 'N', 'D'] ∧ t = threat name) ∧
      (verdict connection = .error (.ambiguous "clamav" (String.ofList reply)) ↔
        about ≠ ['O', 'K'] ∧ ∀ name, about ≠ name ++ ['F', 'O', 'U', 'N', 'D'])) ∧
    ∀ (t : String) (rest : Bytes), t ≠ "" → '\x00' ∉ t.toList → Text.trim t.toList = t.toList →
      connection.bytes = Text.utf8 ("stream: " ++ t ++ " FOUND") ++ 0 :: rest →
      verdict connection = .ok (.infected t) := by
  have judged := verdict_flowing connection flowing complete
  refine ⟨?_, ⟨replyText connection.bytes, body (replyText connection.bytes), rfl,
    isAbout_body _, ?_, ?_, ?_⟩, ?_⟩
  · intro other flowing' complete' same
    rw [verdict_flowing other flowing' complete', judged, replyText, same, replyText]
  · rw [judged, interpret_eq_clean_iff, trim_replyText]
  · intro t
    rw [judged, interpret_eq_infected_iff, trim_replyText]
  · have unclear := interpret_eq_unclear_iff (replyText connection.bytes)
    rw [trim_replyText] at unclear
    rw [judged]
    exact unclear
  · intro t rest named zero_free bare sent
    have zero_free : '\x00' ∉ ("stream: " ++ t ++ " FOUND").toList := by
      simp [zero_free]
    rw [judged, sent, replyText_utf8 zero_free, interpret_trim,
      interpret_found (by simpa using named) bare]

/-- A name with a colon that ends in `FOUND`, in pieces, on a connection that breaks later. -/
theorem split_reply_decides :
    verdict ⟨Text.utf8 "stream: a:b FOUND FOUND" ++ 0 :: [7], [3, 1, 9], some ⟨"reset"⟩⟩ =
      .ok (.infected "a:b FOUND") := by
  obtain ⟨-, -, named⟩ := reply_decides
    ⟨Text.utf8 "stream: a:b FOUND FOUND" ++ 0 :: [7], [3, 1, 9], some ⟨"reset"⟩⟩
    (by decide +kernel) (.inl (by decide +kernel))
  exact named "a:b FOUND" [7] (by decide) (by decide) (by decide +kernel) rfl

/-- The front part of an infected reply that a client takes for a clean one is followed by no
more than white space and `OK`. -/
theorem body_of_cut {front rest : List Char}
    (cut : front <+: ['s', 't', 'r', 'e', 'a', 'm'] ++ ':' :: ' ' :: rest)
    (clean : body (Text.trim front) = ['O', 'K']) :
    ∃ back, back <+: rest ∧ front = ['s', 't', 'r', 'e', 'a', 'm'] ++ ':' :: ' ' :: back ∧
      Text.trim back = ['O', 'K'] := by
  have start : ['s', 't', 'r', 'e', 'a', 'm', ':', ' '] <+:
      ['s', 't', 'r', 'e', 'a', 'm'] ++ ':' :: ' ' :: rest := ⟨rest, rfl⟩
  cases List.prefix_or_prefix_of_prefix cut start with
  | inl short =>
      have none_clean : ∀ k < 9,
          body (Text.trim (['s', 't', 'r', 'e', 'a', 'm', ':', ' '].take k)) ≠ ['O', 'K'] := by
        decide
      rw [List.prefix_iff_eq_take.mp short] at clean
      exact absurd clean (none_clean _ (Nat.lt_succ_of_le short.length_le))
  | inr long =>
      obtain ⟨back, rfl⟩ := long
      refine ⟨back, (List.prefix_append_right_inj _).mp cut, rfl, ?_⟩
      rw [← clean]
      exact ((body_trim_stream (' ' :: back)).trans (Text.trim_cons_blank (by decide) back)).symm

/-- A text whose last character is neither white space nor a colon is about one that ends so. -/
theorem body_concat {c : Char} (ink : Text.isBlank c = false) (no_colon : c ≠ ':')
    (cs : List Char) : ∃ about, body (Text.trim (cs ++ [c])) = about ++ [c] := by
  rw [Text.trim_concat ink]
  by_cases colon : ':' ∈ Text.trimStart cs
  · obtain ⟨front, rest, split, first⟩ := List.eq_append_cons_of_mem colon
    refine ⟨Text.trimStart rest, ?_⟩
    rw [split, List.append_assoc, List.cons_append, body_of_colon first, Text.trim_concat ink]
  · refine ⟨Text.trimStart cs, body_of_no_colon ?_⟩
    simpa [colon] using no_colon.symm

/-- A name that is cut off in an infected reply begins with `OK` if what is left of the reply is
clean. -/
theorem ok_of_cut {name back : List Char}
    (cut : back <+: name ++ [' ', 'F', 'O', 'U', 'N', 'D'])
    (clean : Text.trim back = ['O', 'K']) : ['O', 'K'] <+: Text.trimStart name := by
  have within : ['O', 'K'] <+: Text.trimStart back := by
    rw [← clean, Text.trim]
    exact Text.trimEnd_prefix _
  have ink : Text.trimStart back ≠ [] := fun blank => by simp [blank] at within
  obtain ⟨rest, whole⟩ := cut
  have start : ['O', 'K'] <+: Text.trimStart (name ++ [' ', 'F', 'O', 'U', 'N', 'D']) := by
    rw [← whole, Text.trimStart_append_of_ink ink]
    exact within.trans (List.prefix_append _ _)
  cases text : Text.trimStart name with
  | nil =>
      rw [Text.trimStart_append_of_blank text] at start
      exact absurd start (by decide)
  | cons c later =>
      rw [Text.trimStart_append_of_ink (text ▸ List.cons_ne_nil c later), text] at start
      cases later with
      | nil => simp [List.cons_prefix_cons] at start
      | cons d later => simpa [List.cons_prefix_cons] using start

theorem utf8_stream (s : String) :
    Text.utf8 ("stream: " ++ s) =
      (['s', 't', 'r', 'e', 'a', 'm'] ++ ':' :: ' ' :: s.toList).flatMap
        String.utf8EncodeChar := by
  simp [Text.utf8]

/-- What a client makes of an infected reply that is cut off. -/
theorem verdict_of_cut (connection : Source) (flowing : Limited.Flowing ⟨connection, none⟩)
    (closes : connection.failure = none) {t : String} (zero_free : '\x00' ∉ t.toList)
    (cut : connection.bytes <+: Text.utf8 ("stream: " ++ t ++ " FOUND")) :
    verdict connection = .ok .clean ↔
      ∃ back : String, back.toList <+: t.toList ++ [' ', 'F', 'O', 'U', 'N', 'D'] ∧
        connection.bytes = Text.utf8 ("stream: " ++ back) ∧ Text.trim back.toList = ['O', 'K'] := by
  have whole : connection.bytes.takeWhile (· ≠ 0) = connection.bytes := by
    have none_zero : 0 ∉ connection.bytes := fun zero =>
      Text.zero_not_mem_utf8 (by simp [zero_free]) (cut.subset zero)
    simpa using takeWhile_append_of_no_zero none_zero []
  rw [verdict_flowing connection flowing (.inr closes), interpret_eq_clean_iff, trim_replyText,
    replyText, whole]
  constructor
  · intro clean
    rw [String.append_assoc, utf8_stream] at cut
    obtain ⟨front, shorter, written | broken⟩ := Text.ofUtf8Lossy_cut _ cut
    · rw [written, ← List.append_nil (front.flatMap _), Text.ofUtf8Lossy_written,
        Text.ofUtf8Lossy, List.append_nil] at clean
      obtain ⟨back, within, rfl, ok⟩ := body_of_cut shorter clean
      refine ⟨String.ofList back, by simpa using within, ?_, by rwa [String.toList_ofList]⟩
      rw [written, utf8_stream, String.toList_ofList]
    · obtain ⟨about, ends⟩ := body_concat (c := Text.replacement) (by decide) (by decide) front
      rw [broken, ends] at clean
      have last := congrArg List.getLast? clean
      simp [Text.replacement] at last
  · rintro ⟨back, -, written, clean⟩
    have text : ("stream: " ++ back).toList =
        ['s', 't', 'r', 'e', 'a', 'm'] ++ ':' :: ' ' :: back.toList := by simp
    rw [written, Text.ofUtf8Lossy_utf8, text, body_trim_stream, Text.trim_cons_blank (by decide),
      clean]

theorem analyze_result {c : Client} {peer : Peer} {connection : Source}
    (reached : connect c peer = .ok connection) {source : Source}
    (flowing : Limited.Flowing ⟨source, none⟩) (intact : source.failure = none) :
    (analyze c peer source).result = verdict connection := by
  obtain ⟨chunks, -, -, sent⟩ := send_flowing source flowing
  rw [intact] at sent
  simp [analyze, reached, sent, verdict]

/-- An infected reply that is cut off is read as clean exactly if what is left of it is the clean
reply, white space aside. That is never so unless the threat's name begins with `OK`. -/
theorem cut_reply_clean_iff (c : Client) (peer : Peer) (connection source : Source)
    (reached : connect c peer = .ok connection) (flowing : Limited.Flowing ⟨source, none⟩)
    (intact : source.failure = none) (arrives : Limited.Flowing ⟨connection, none⟩)
    (closes : connection.failure = none) (t : String) (zero_free : '\x00' ∉ t.toList)
    (cut : connection.bytes <+: Text.utf8 ("stream: " ++ t ++ " FOUND")) :
    ((analyze c peer source).result = .ok .clean ↔
      ∃ back : String, back.toList <+: t.toList ++ [' ', 'F', 'O', 'U', 'N', 'D'] ∧
        connection.bytes = Text.utf8 ("stream: " ++ back) ∧
        Text.trim back.toList = ['O', 'K']) ∧
    (¬ ['O', 'K'] <+: Text.trimStart t.toList →
      (analyze c peer source).result ≠ .ok .clean) := by
  have clean_iff := verdict_of_cut connection arrives closes zero_free cut
  rw [analyze_result reached flowing intact]
  refine ⟨clean_iff, fun other clean => ?_⟩
  obtain ⟨back, within, -, ok⟩ := clean_iff.mp clean
  exact other (ok_of_cut within ok)

/-- A reply that is cut off within a character of the name. -/
theorem torn_reply_clean_iff :
    (analyze .standard (.listening ⟨Text.utf8 "stream: Tr" ++ [0xC3], [4, 2], none⟩)
      (.ofBytes [1, 2, 3])).result ≠ .ok .clean := by
  obtain ⟨-, unclear⟩ := cut_reply_clean_iff .standard
    (.listening ⟨Text.utf8 "stream: Tr" ++ [0xC3], [4, 2], none⟩)
    ⟨Text.utf8 "stream: Tr" ++ [0xC3], [4, 2], none⟩ (.ofBytes [1, 2, 3]) rfl
    (by decide) rfl (by decide +kernel) rfl "Tröjan" (by decide) (by decide +kernel)
  exact unclear (by decide +kernel)

/-- What is left of a reply about a threat whose name begins with `OK` may be the clean reply. -/
theorem cut_reply_reads_clean :
    "OK.Trojan" ≠ "" ∧ '\x00' ∉ "OK.Trojan".toList ∧
      Text.utf8 "stream: OK" <+: Text.utf8 ("stream: " ++ "OK.Trojan" ++ " FOUND") ∧
      Text.utf8 "stream: OK" ≠ Text.utf8 ("stream: " ++ "OK.Trojan" ++ " FOUND") ∧
      (analyze .standard (.listening (.ofBytes (Text.utf8 "stream: OK")))
        (.ofBytes (Text.utf8 "data"))).result = .ok .clean := by
  have cut : Text.utf8 "stream: OK" <+: Text.utf8 ("stream: " ++ "OK.Trojan" ++ " FOUND") := by
    decide +kernel
  refine ⟨by decide, by decide, cut, by decide +kernel, ?_⟩
  have result : (analyze .standard (.listening (.ofBytes (Text.utf8 "stream: OK")))
      (.ofBytes (Text.utf8 "data"))).result = verdict (.ofBytes (Text.utf8 "stream: OK")) :=
    analyze_result rfl (Limited.flowing_ofBytes _ none) rfl
  rw [result]
  exact (verdict_of_cut _ (Limited.flowing_ofBytes _ none) rfl (by decide) cut).mpr
    ⟨"OK", by decide +kernel, rfl, by decide +kernel⟩

end Quarantine.Clamd
