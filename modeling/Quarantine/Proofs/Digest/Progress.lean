import Quarantine.Digest.Iterated

/-!
A message that is taken in piece by piece has the digest of the whole message, however it is cut.
The argument is the same for every block hash; nothing about its compression is used.
-/

namespace Quarantine.Digest

namespace Iterated

variable {State : Type} (h : Iterated State)

theorem feed_whole (state : State) (data : Bytes) (whole : (data.take 64).length = 64) :
    h.feed state data = h.feed (h.compress state (data.take 64)) (data.drop 64) := by
  rw [feed, dif_pos whole]

theorem feed_part (state : State) (data : Bytes) (part : (data.take 64).length ≠ 64) :
    h.feed state data = (state, data) := by
  rw [feed, dif_neg part]

theorem feed_append (state : State) (data more : Bytes) :
    h.feed state (data ++ more) = h.feed (h.feed state data).1 ((h.feed state data).2 ++ more) := by
  induction state, data using feed.induct h with
  | case1 state data whole ih =>
      have long : 64 ≤ data.length := by
        simp only [List.length_take] at whole
        omega
      have first : (data ++ more).take 64 = data.take 64 := List.take_append_of_le_length long
      have rest : (data ++ more).drop 64 = data.drop 64 ++ more :=
        List.drop_append_of_le_length long
      rw [h.feed_whole state (data ++ more) (by rw [first]; exact whole), first, rest, ih,
        ← h.feed_whole state data whole]
  | case2 state data part => rw [h.feed_part state data part]

theorem feed_fst (state : State) (data : Bytes) :
    (h.feed state data).1 = (blocks data).foldl h.compress state := by
  induction state, data using feed.induct h with
  | case1 state data whole ih =>
      rw [h.feed_whole state data whole, ih, blocks.eq_1 data, dif_pos whole, List.foldl_cons]
  | case2 state data part =>
      rw [h.feed_part state data part, blocks.eq_1 data, dif_neg part, List.foldl_nil]

end Iterated

namespace Progress

variable {State : Type} {h : Iterated State}

/-- What has been taken in is exactly this message. -/
def Holds (h : Iterated State) (p : Progress State) (message : Bytes) : Prop :=
  (p.state, p.pending) = h.feed h.start message ∧ p.length = message.length

theorem holds_empty : (empty h).Holds h [] := by
  refine ⟨?_, rfl⟩
  rw [h.feed_part h.start [] (by simp)]
  rfl

theorem Holds.absorb {p : Progress State} {message : Bytes} (taken : p.Holds h message)
    (data : Bytes) : (p.absorb h data).Holds h (message ++ data) := by
  obtain ⟨fed, counted⟩ := taken
  refine ⟨?_, ?_⟩
  · rw [h.feed_append h.start message, ← fed]
    rfl
  · rw [List.length_append, ← counted]
    rfl

theorem Holds.finish {p : Progress State} {message : Bytes} (taken : p.Holds h message) :
    p.finish h = h.digest message := by
  obtain ⟨fed, counted⟩ := taken
  have all : h.feed p.state (p.pending ++ h.padding p.length) =
      h.feed h.start (message ++ h.padding message.length) := by
    rw [h.feed_append h.start message, ← fed, counted]
  rw [Progress.finish, all, h.feed_fst]
  rfl

end Progress

end Quarantine.Digest
