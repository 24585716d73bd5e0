import Quarantine.Source.Basic

/-!
What reading to the end gives. Of any source it takes a front part, in chunks that are not empty and
not larger than the buffer. Where no read gives nothing while bytes may be taken, it takes all of
them, and it fails exactly if the source breaks before the limit. How the source splits its bytes
into reads does not matter then, nor what it would do past the limit. At any pace a limit cuts off
what comes after it and changes nothing of what comes before.
-/

namespace Quarantine

/-- What a read comes to. -/
inductive Source.ReadsTo (s : Source) (n : Nat) : Except IoError (Bytes × Source) → Prop
  | broke (e : IoError) (spent : s.bytes = []) (failed : s.failure = some e) :
      s.ReadsTo n (.error e)
  | ended (spent : s.bytes = []) (intact : s.failure = none) : s.ReadsTo n (.ok ([], s))
  | idle (left : s.bytes ≠ []) (allowed : s.allowance n = 0) : s.ReadsTo n (.ok ([], s))
  | took (a : Nat) (left : s.bytes ≠ []) (pos : 0 < a) (fits : a ≤ n) :
      s.ReadsTo n (.ok (s.bytes.take a, ⟨s.bytes.drop a, s.pacing.tail, s.failure⟩))

theorem Source.readsTo_read (s : Source) (n : Nat) : s.ReadsTo n (s.read n) := by
  unfold read
  split
  · next spent =>
      split
      · next e failed => exact .broke e (List.isEmpty_iff.mp spent) failed
      · next intact => exact .ended (List.isEmpty_iff.mp spent) intact
  · next left =>
      have left : s.bytes ≠ [] := fun spent => left (List.isEmpty_iff.mpr spent)
      split
      · next none_allowed => exact .idle left none_allowed
      · next allowed =>
          refine .took _ left (Nat.pos_of_ne_zero allowed) ?_
          unfold allowance
          split <;> omega

namespace Limited

/-- The bytes that may be taken. -/
def within (l : Limited) : Bytes :=
  match l.left with
  | some n => l.source.bytes.take n
  | none => l.source.bytes

def failure? (l : Limited) : Option IoError :=
  match l.left with
  | some n => if n ≤ l.source.bytes.length then none else l.source.failure
  | none => l.source.failure

/-- No read gives nothing while bytes may be taken. Each read takes a byte or more, so that no more
reads matter than there are bytes. -/
def Flowing (l : Limited) : Prop :=
  ∀ most ∈ l.source.pacing.take l.within.length, 0 < most

instance (l : Limited) : Decidable l.Flowing :=
  inferInstanceAs (Decidable (∀ most ∈ l.source.pacing.take l.within.length, 0 < most))

theorem flowing_ofBytes (bytes : Bytes) (left : Option Nat) : Flowing ⟨.ofBytes bytes, left⟩ := by
  simp [Flowing, Source.ofBytes]

theorem flowing_tail {l rest : Limited} (flowing : l.Flowing)
    (pacing : rest.source.pacing = l.source.pacing.tail)
    (shorter : rest.within.length < l.within.length) : rest.Flowing := by
  intro most member
  refine flowing most ?_
  rw [pacing] at member
  cases paced : l.source.pacing with
  | nil => simp [paced] at member
  | cons first later =>
      rw [paced, List.tail_cons] at member
      rw [← Nat.sub_add_cancel (Nat.zero_lt_of_lt shorter), List.take_succ_cons]
      exact List.mem_cons_of_mem _ (List.take_subset_take_left later (by omega) member)

theorem allowance_pos {l : Limited} (flowing : l.Flowing) (left : l.within ≠ []) {n : Nat}
    (pos : 0 < n) : 0 < l.source.allowance n := by
  unfold Source.allowance
  split
  · exact pos
  · next most later paced =>
      have given : 0 < most := flowing most (by
        rw [paced, ← Nat.sub_add_cancel (List.length_pos_iff.mpr left)]
        exact List.mem_cons_self)
      omega

/-- A read that went well: what it took stood at the front, and nothing else was touched. -/
structure Gives (l : Limited) (n : Nat) (got : Bytes) (rest : Limited) : Prop where
  fits : got.length ≤ n
  bytes : l.source.bytes = got ++ rest.source.bytes
  within : l.within = got ++ rest.within
  failure : rest.failure? = l.failure?
  flowing : l.Flowing → rest.Flowing

theorem Gives.nothing (l : Limited) (n : Nat) : l.Gives n [] l :=
  ⟨Nat.zero_le n, rfl, rfl, rfl, id⟩

section Took

variable {s : Source} {a n : Nat} (left : s.bytes ≠ []) (pos : 0 < a) (fits : a ≤ n)
include left pos fits

theorem gives_unlimited :
    Gives ⟨s, none⟩ n (s.bytes.take a) ⟨⟨s.bytes.drop a, s.pacing.tail, s.failure⟩, none⟩ where
  fits := Nat.le_trans (List.length_take_le a s.bytes) fits
  bytes := (List.take_append_drop a s.bytes).symm
  within := (List.take_append_drop a s.bytes).symm
  failure := rfl
  flowing flowing := by
    refine flowing_tail flowing rfl ?_
    have := List.length_pos_iff.mpr left
    simp only [within, List.length_drop]
    omega

theorem gives_limited {limit : Nat} (under : n ≤ limit) :
    Gives ⟨s, some limit⟩ n (s.bytes.take a)
      ⟨⟨s.bytes.drop a, s.pacing.tail, s.failure⟩, some (limit - (s.bytes.take a).length)⟩ where
  fits := Nat.le_trans (List.length_take_le a s.bytes) fits
  bytes := (List.take_append_drop a s.bytes).symm
  within := by
    simp only [within, List.length_take]
    by_cases enough : a ≤ s.bytes.length
    · rw [Nat.min_eq_left enough, ← List.take_add, Nat.add_sub_cancel' (by omega)]
    · rw [List.drop_eq_nil_of_le (by omega), List.take_nil, List.append_nil,
        List.take_of_length_le (by omega), List.take_of_length_le (by omega)]
  failure := by
    have := List.length_pos_iff.mpr left
    simp only [failure?, List.length_take, List.length_drop]
    by_cases enough : limit ≤ s.bytes.length
    · rw [if_pos (by omega), if_pos enough]
    · rw [if_neg (by omega), if_neg enough]
  flowing flowing := by
    refine flowing_tail flowing rfl ?_
    have := List.length_pos_iff.mpr left
    simp only [within, List.length_take, List.length_drop]
    omega

end Took

theorem Gives.of_le {l rest : Limited} {n k : Nat} {got : Bytes} (gives : l.Gives n got rest)
    (le : n ≤ k) : l.Gives k got rest :=
  { gives with fits := Nat.le_trans gives.fits le }

/-- What a read under a limit comes to. A read that gives nothing at a flowing source is its end. -/
theorem read_cases (l : Limited) {n : Nat} (pos : 0 < n) :
    (∃ e, l.read n = .error e ∧ l.within = [] ∧ l.failure? = some e) ∨
      (l.read n = .ok ([], l) ∧ (l.Flowing → l.within = [] ∧ l.failure? = none)) ∨
      ∃ got rest, l.read n = .ok (got, rest) ∧ got ≠ [] ∧ l.Gives n got rest := by
  obtain ⟨s, left⟩ := l
  cases left with
  | none =>
      have outcome := s.readsTo_read n
      generalize given : s.read n = read at outcome
      cases outcome with
      | broke e spent failed => exact .inl ⟨e, by simp [Limited.read, given], spent, failed⟩
      | ended spent intact =>
          exact .inr (.inl ⟨by simp [Limited.read, given], fun _ => ⟨spent, intact⟩⟩)
      | idle left allowed =>
          refine .inr (.inl ⟨by simp [Limited.read, given], fun flowing => ?_⟩)
          exact absurd allowed (Nat.ne_of_gt (allowance_pos flowing left pos))
      | took a left pos fits =>
          exact .inr (.inr ⟨_, _, by simp only [Limited.read, given],
            by simp [left, Nat.ne_of_gt pos], gives_unlimited left pos fits⟩)
  | some left =>
      cases left with
      | zero => exact .inr (.inl ⟨rfl, fun _ => by simp [within, failure?]⟩)
      | succ limit =>
          have outcome := s.readsTo_read (min n (limit + 1))
          generalize given : s.read (min n (limit + 1)) = read at outcome
          cases outcome with
          | broke e spent failed =>
              exact .inl ⟨e, by simp [Limited.read, given], by simp [within, spent],
                by simp [failure?, spent, failed]⟩
          | ended spent intact =>
              exact .inr (.inl ⟨by simp [Limited.read, given],
                fun _ => by simp [within, failure?, spent, intact]⟩)
          | idle left allowed =>
              refine .inr (.inl ⟨by simp [Limited.read, given], fun flowing => ?_⟩)
              exact absurd allowed
                (Nat.ne_of_gt (allowance_pos flowing (by simp [within, left]) (by omega)))
          | took a left pos fits =>
              exact .inr (.inr ⟨_, _, by simp only [Limited.read, given],
                by simp [left, Nat.ne_of_gt pos],
                (gives_limited left pos fits (Nat.min_le_right _ _)).of_le (Nat.min_le_left _ _)⟩)

theorem read_zero {l rest : Limited} {got : Bytes} (given : l.read 0 = .ok (got, rest)) :
    got = [] ∧ rest = l := by
  obtain ⟨s, left⟩ := l
  have still : ∀ {got rest}, s.read 0 = .ok (got, rest) → got = [] ∧ rest = s := by
    intro got rest given
    have outcome := s.readsTo_read 0
    rw [given] at outcome
    cases outcome with
    | ended _ _ | idle _ _ => exact ⟨rfl, rfl⟩
    | took a _ pos fits => exact absurd fits (Nat.not_le.mpr pos)
  cases left with
  | none =>
      simp only [Limited.read] at given
      split at given <;> cases given
      next given =>
        obtain ⟨rfl, rfl⟩ := still given
        exact ⟨rfl, rfl⟩
  | some left =>
      cases left with
      | zero =>
          cases given
          exact ⟨rfl, rfl⟩
      | succ left =>
          simp only [Limited.read, Nat.zero_min] at given
          split at given <;> cases given
          next given =>
            obtain ⟨rfl, rfl⟩ := still given
            exact ⟨rfl, rfl⟩

theorem gives_of_read {l rest : Limited} {n : Nat} {got : Bytes}
    (given : l.read n = .ok (got, rest)) : l.Gives n got rest := by
  cases n with
  | zero =>
      obtain ⟨rfl, rfl⟩ := read_zero given
      exact .nothing _ _
  | succ n =>
      obtain ⟨e, failed, -⟩ | ⟨ended, -⟩ | ⟨got', rest', took, -, gives⟩ :=
        l.read_cases (Nat.succ_pos n)
      · cases failed.symm.trans given
      · cases ended.symm.trans given
        exact .nothing _ _
      · cases took.symm.trans given
        exact gives

/-- A read for some bytes gives one, as long as there is one that may be taken. -/
theorem within_of_read_nothing {l : Limited} {n : Nat} (pos : 0 < n) (flowing : l.Flowing)
    (nothing : ∀ got rest, l.read n = .ok (got, rest) → got = []) : l.within = [] := by
  obtain ⟨e, -, spent, -⟩ | ⟨-, last⟩ | ⟨got, rest, took, more, -⟩ := l.read_cases pos
  · exact spent
  · exact (last flowing).1
  · exact absurd (nothing got rest took) more

theorem drainFrom_error {size : Nat} {l : Limited} {e : IoError} (given : l.read size = .error e)
    (chunks : List Bytes) : drainFrom size l chunks = ⟨chunks.reverse, l, some e⟩ := by
  rw [drainFrom]
  split
  · next given' =>
      rw [given'] at given
      cases given
      rfl
  · next given' => rw [given'] at given; cases given

theorem drainFrom_end {size : Nat} {l rest : Limited} (given : l.read size = .ok ([], rest))
    (chunks : List Bytes) : drainFrom size l chunks = ⟨chunks.reverse, rest, none⟩ := by
  rw [drainFrom]
  split
  · next given' => rw [given'] at given; cases given
  · next given' =>
      rw [given'] at given
      cases given
      rw [dif_pos rfl]

theorem chunks_of_end {size : Nat} {l rest : Limited} (given : l.read size = .ok ([], rest)) :
    (l.drain size).chunks = [] := by
  rw [drain, drainFrom_end given]
  rfl

theorem drainFrom_more {size : Nat} {l rest : Limited} {got : Bytes}
    (given : l.read size = .ok (got, rest)) (more : got ≠ []) (chunks : List Bytes) :
    drainFrom size l chunks = drainFrom size rest (got :: chunks) := by
  rw [drainFrom]
  split
  · next given' => rw [given'] at given; cases given
  · next given' =>
      rw [given'] at given
      cases given
      rw [dif_neg more]

theorem drainFrom_chunks (size : Nat) (l : Limited) (chunks : List Bytes) :
    drainFrom size l chunks = ⟨chunks.reverse ++ (l.drain size).chunks, (l.drain size).rest,
      (l.drain size).failure⟩ := by
  -- On the bytes left in the source: every read but the last takes some.
  induction size_eq : l.source.bytes.length using Nat.strongRecOn generalizing l chunks with
  | ind n ih =>
      unfold drain
      cases given : l.read size with
      | error e => simp [drainFrom_error given]
      | ok read =>
          obtain ⟨got, rest⟩ := read
          by_cases more : got = []
          · subst more
            simp [drainFrom_end given]
          · have shorter := size_eq ▸ read_ok_lt given more
            rw [drainFrom_more given more, drainFrom_more given more,
              ih _ shorter rest (got :: chunks) rfl, ih _ shorter rest [got] rfl]
            simp

theorem drain_more {size : Nat} {l rest : Limited} {got : Bytes}
    (given : l.read size = .ok (got, rest)) (more : got ≠ []) :
    l.drain size =
      ⟨got :: (rest.drain size).chunks, (rest.drain size).rest, (rest.drain size).failure⟩ := by
  rw [drain, drainFrom_more given more, drainFrom_chunks]
  rfl

/-- Reading to the end, one read after another: the last of them fails or gives nothing. -/
theorem drain_induction {size : Nat} (pos : 0 < size) {P : Limited → Drained → Prop}
    (failed : ∀ l e, l.within = [] → l.failure? = some e → P l ⟨[], l, some e⟩)
    (ended : ∀ l, (l.Flowing → l.within = [] ∧ l.failure? = none) → P l ⟨[], l, none⟩)
    (more : ∀ l got rest d, got ≠ [] → l.Gives size got rest → P rest d →
      P l ⟨got :: d.chunks, d.rest, d.failure⟩)
    (l : Limited) : P l (l.drain size) := by
  induction size_eq : l.source.bytes.length using Nat.strongRecOn generalizing l with
  | ind n ih =>
      obtain ⟨e, given, spent, broken⟩ | ⟨given, last⟩ | ⟨got, rest, given, some_taken, gives⟩ :=
        l.read_cases pos
      · have all : l.drain size = ⟨[], l, some e⟩ := drainFrom_error given []
        exact all ▸ failed l e spent broken
      · have all : l.drain size = ⟨[], l, none⟩ := drainFrom_end given []
        exact all ▸ ended l last
      · rw [drain_more given some_taken]
        have shorter := size_eq ▸ read_ok_lt given some_taken
        exact more l got rest _ some_taken gives (ih _ shorter rest rfl)

/-- The chunks and what is left make up the bytes, and no chunk is empty or larger than the
buffer. -/
theorem drain_parts {size : Nat} (pos : 0 < size) (l : Limited) :
    l.source.bytes = (l.drain size).chunks.flatten ++ (l.drain size).rest.source.bytes ∧
      l.within = (l.drain size).chunks.flatten ++ (l.drain size).rest.within ∧
      ∀ chunk ∈ (l.drain size).chunks, 0 < chunk.length ∧ chunk.length ≤ size := by
  refine drain_induction pos (P := fun l d => l.source.bytes = d.chunks.flatten ++
    d.rest.source.bytes ∧ l.within = d.chunks.flatten ++ d.rest.within ∧
      ∀ chunk ∈ d.chunks, 0 < chunk.length ∧ chunk.length ≤ size) ?_ ?_ ?_ l
  · exact fun l e _ _ => ⟨rfl, rfl, by simp⟩
  · exact fun l _ => ⟨rfl, rfl, by simp⟩
  · intro l got rest d some_taken gives ⟨bytes, within, sizes⟩
    refine ⟨?_, ?_, ?_⟩
    · rw [gives.bytes, bytes, List.flatten_cons, List.append_assoc]
    · rw [gives.within, within, List.flatten_cons, List.append_assoc]
    · intro chunk member
      cases member with
      | head => exact ⟨List.length_pos_iff.mpr some_taken, gives.fits⟩
      | tail _ member => exact sizes chunk member

theorem drain_flowing {size : Nat} (pos : 0 < size) (l : Limited) (flowing : l.Flowing) :
    (l.drain size).chunks.flatten = l.within ∧ (l.drain size).failure = l.failure? := by
  revert flowing
  refine drain_induction pos
    (P := fun l d => l.Flowing → d.chunks.flatten = l.within ∧ d.failure = l.failure?) ?_ ?_ ?_ l
  · exact fun l e spent broken _ => ⟨spent.symm, broken.symm⟩
  · exact fun l last flowing => ⟨(last flowing).1.symm, (last flowing).2.symm⟩
  · intro l got rest d _ gives later flowing
    obtain ⟨taken, failed⟩ := later (gives.flowing flowing)
    exact ⟨by rw [List.flatten_cons, taken, gives.within], failed.trans gives.failure⟩

theorem readAll_flowing (l : Limited) (flowing : l.Flowing) :
    l.readAll = match l.failure? with
      | some e => .error e
      | none => .ok l.within := by
  obtain ⟨taken, failed⟩ := drain_flowing (by decide : 0 < 8192) l flowing
  simp only [readAll, failed]
  split <;> simp_all

end Limited

namespace Source

/-- What the first `n` bytes of a source come to, or all of them if there are fewer, unless it
breaks before their end. -/
def first (n : Nat) (s : Source) : Except IoError Bytes :=
  if n ≤ s.bytes.length then .ok (s.bytes.take n)
  else
    match s.failure with
    | some e => .error e
    | none => .ok s.bytes

theorem length_first {s : Source} {n : Nat} {content : Bytes} (first : s.first n = .ok content) :
    content.length = min n s.bytes.length := by
  unfold Source.first at first
  split at first
  · cases first
    exact List.length_take
  · split at first <;> cases first
    omega

theorem readAll_limit (s : Source) {n : Nat} (flowing : (s.limit n).Flowing) :
    (s.limit n).readAll = s.first n := by
  rw [Limited.readAll_flowing _ flowing]
  by_cases enough : n ≤ s.bytes.length
  · simp [first, limit, Limited.failure?, Limited.within, enough]
  · have all : s.bytes.take n = s.bytes := List.take_of_length_le (by omega)
    simp [first, limit, Limited.failure?, Limited.within, enough, all]

/-- No byte past the limit is taken. -/
theorem rest_limit (s : Source) {n size : Nat} (pos : 0 < size) (flowing : (s.limit n).Flowing) :
    ((s.limit n).drain size).rest.source.bytes = s.bytes.drop n := by
  obtain ⟨parts, -, -⟩ := Limited.drain_parts pos (s.limit n)
  rw [(Limited.drain_flowing pos _ flowing).1] at parts
  exact List.append_cancel_left (parts.symm.trans (List.take_append_drop n s.bytes).symm)

/-- What is left of a source after a read that has taken some bytes. -/
def after (s : Source) (taken : Nat) : Source :=
  ⟨s.bytes.drop taken, s.pacing.tail, s.failure⟩

section Cut

variable {s : Source} {size n : Nat}

theorem allowance_min (s : Source) (n k : Nat) : s.allowance (min n k) = min (s.allowance n) k := by
  unfold allowance
  split <;> omega

theorem drain_of_spent (pos : 0 < size) (spent : s.bytes = []) :
    (s.drain size).chunks.flatten = [] := by
  obtain ⟨whole, -, -⟩ := Limited.drain_parts pos ⟨s, none⟩
  rw [spent] at whole
  exact (List.append_eq_nil_iff.mp whole.symm).1

/-- Nothing is left under a limit that a read has reached. -/
theorem take_drain_after (pos : 0 < size) (s : Source) {taken : Nat} (reached : n ≤ taken) :
    ((s.after taken).drain size).chunks.flatten.take (n - (s.bytes.take taken).length) = [] := by
  by_cases enough : n ≤ s.bytes.length
  · have none_left : n - (s.bytes.take taken).length = 0 := by
      rw [List.length_take]
      omega
    rw [none_left, List.take_zero]
  · have spent : (s.after taken).bytes = [] := List.drop_eq_nil_of_le (by omega)
    rw [drain_of_spent pos spent, List.take_nil]

variable (left : s.bytes ≠ [])
include left

theorem read_of_left (n : Nat) :
    s.read n = if s.allowance n = 0 then .ok ([], s) else
      .ok (s.bytes.take (s.allowance n), s.after (s.allowance n)) := by
  rw [read, if_neg (by simpa using left)]
  rfl

theorem drain_of_idle (idle : s.allowance size = 0) (limit : Option Nat) :
    (Limited.drain size ⟨s, limit⟩).chunks.flatten = [] := by
  have ended : ∃ rest, Limited.read ⟨s, limit⟩ size = .ok ([], rest) := by
    cases limit with
    | none => simp [Limited.read, read_of_left left, idle]
    | some n => cases n <;> simp [Limited.read, read_of_left left, allowance_min, idle]
  obtain ⟨rest, ended⟩ := ended
  rw [Limited.chunks_of_end ended]
  rfl

theorem drain_of_left (allowed : s.allowance size ≠ 0) :
    (s.drain size).chunks.flatten = s.bytes.take (s.allowance size) ++
      ((s.after (s.allowance size)).drain size).chunks.flatten := by
  have some_taken : s.bytes.take (s.allowance size) ≠ [] := by simp [left, allowed]
  have given : Limited.read ⟨s, none⟩ size =
      .ok (s.bytes.take (s.allowance size), ⟨s.after (s.allowance size), none⟩) := by
    simp only [Limited.read, read_of_left left, if_neg allowed]
  rw [drain, Limited.drain_more given some_taken]
  rfl

theorem drain_limit_of_left (allowed : s.allowance size ≠ 0) (room : n ≠ 0) :
    ((s.limit n).drain size).chunks.flatten = s.bytes.take (min (s.allowance size) n) ++
      (((s.after (min (s.allowance size) n)).limit
        (n - (s.bytes.take (min (s.allowance size) n)).length)).drain size).chunks.flatten := by
  have some_allowed : min (s.allowance size) n ≠ 0 := by omega
  have some_taken : s.bytes.take (min (s.allowance size) n) ≠ [] := by simp [left, some_allowed]
  have given : (s.limit n).read size = .ok (s.bytes.take (min (s.allowance size) n),
      (s.after (min (s.allowance size) n)).limit
        (n - (s.bytes.take (min (s.allowance size) n)).length)) := by
    obtain ⟨k, rfl⟩ := Nat.exists_eq_succ_of_ne_zero room
    simp only [limit, Limited.read, read_of_left left, allowance_min, if_neg some_allowed]
  rw [Limited.drain_more given some_taken]
  rfl

end Cut

/-- Under a limit a source gives the front of what it gives without one, whatever its pace. -/
theorem drain_limit {size : Nat} (pos : 0 < size) (s : Source) (n : Nat) :
    ((s.limit n).drain size).chunks.flatten = (s.drain size).chunks.flatten.take n := by
  -- On the bytes left in the source: every read but the last takes some.
  induction size_eq : s.bytes.length using Nat.strongRecOn generalizing s n with
  | ind length ih =>
      by_cases spent : s.bytes = []
      · obtain ⟨-, within, -⟩ := Limited.drain_parts pos (s.limit n)
        have nothing : (s.limit n).within = [] := by simp [limit, Limited.within, spent]
        rw [nothing] at within
        rw [(List.append_eq_nil_iff.mp within.symm).1, drain_of_spent pos spent, List.take_nil]
      · by_cases room : n = 0
        · subst room
          rw [Limited.chunks_of_end (rfl : (s.limit 0).read size = _)]
          rfl
        · by_cases idle : s.allowance size = 0
          · rw [drain, limit, drain_of_idle spent idle, drain_of_idle spent idle, List.take_nil]
          · have shorter : (s.after (min (s.allowance size) n)).bytes.length < length := by
              have := List.length_pos_iff.mpr spent
              simp only [after, List.length_drop]
              omega
            rw [drain_limit_of_left spent idle room, drain_of_left spent idle, ih _ shorter _ _ rfl,
              List.take_append, List.take_take, Nat.min_comm n]
            by_cases whole : s.allowance size ≤ n
            · rw [Nat.min_eq_left whole]
            · have cut : n ≤ s.allowance size := Nat.le_of_not_le whole
              rw [Nat.min_eq_right cut, take_drain_after pos s (Nat.le_refl n),
                take_drain_after pos s cut]

theorem readAll_limit_ofBytes (bytes : Bytes) (n : Nat) :
    ((ofBytes bytes).limit n).readAll = .ok (bytes.take n) := by
  rw [readAll_limit _ (Limited.flowing_ofBytes bytes (some n)), first]
  split
  · rfl
  · exact congrArg _ (List.take_of_length_le (by omega)).symm

theorem readAll_ofBytes (bytes : Bytes) : (ofBytes bytes).readAll = .ok bytes :=
  Limited.readAll_flowing ⟨.ofBytes bytes, none⟩ (Limited.flowing_ofBytes bytes none)

end Source

end Quarantine
