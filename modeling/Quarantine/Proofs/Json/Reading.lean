import Quarantine.Proofs.Json.Tokens

/-!
Reading back what was written. A reader reads a value from a written form if it takes the tokens of
that form and no others, whatever follows; readers of lists and of records do if the readers of
their parts do. Records are covered as they are written: as objects, with known fields only.
-/

namespace Quarantine.Json

/-- The reader reads the value from its written form, and leaves all that follows. -/
def Reads {α : Type} (reader : Reader α) (j : Json) (a : α) : Prop :=
  ∀ rest, reader.run (j.tokens ++ rest) = .ok (a, rest)

namespace Reader

variable {α β : Type}

theorem run_bind {reader : Reader α} {f : α → Reader β} {ts rest : List Token} {a : α}
    (first : reader.run ts = .ok (a, rest)) : (reader >>= f).run ts = (f a).run rest := by
  rw [StateT.run_bind, first]
  rfl

theorem run_get (ts : List Token) : (get : Reader (List Token)).run ts = .ok (ts, ts) :=
  rfl

theorem run_take (token : Token) (rest : List Token) :
    take.run (token :: rest) = .ok (token, rest) :=
  rfl

theorem run_takeIf_self (token : Token) (rest : List Token) :
    (takeIf token).run (token :: rest) = .ok (true, rest) :=
  (run_bind (run_get _)).trans (congrArg (StateT.run · (token :: rest)) (if_pos rfl))

theorem run_takeIf_ne {token first : Token} (other : first ≠ token) (rest : List Token) :
    (takeIf token).run (first :: rest) = .ok (false, first :: rest) :=
  (run_bind (run_get _)).trans (congrArg (StateT.run · (first :: rest)) (if_neg other))

theorem run_expect (token : Token) (rest : List Token) :
    (expect token).run (token :: rest) = .ok ((), rest) := by
  rw [expect, run_bind (run_takeIf_self token rest)]
  rfl

end Reader

/-- A written value begins with a token of its own, never with the one that ends a list. -/
theorem tokens_eq_cons (j : Json) :
    ∃ first rest, j.tokens = first :: rest ∧ first ≠ .endList := by
  match j with
  | .null | .bool _ | .int _ | .text _ => exact ⟨_, [], rfl, nofun⟩
  | .list [] | .list (_ :: _) | .object [] | .object ((_, _) :: _) => exact ⟨_, _, rfl, nofun⟩

theorem length_lt_itemTokens (items : List Json) : items.length < (itemTokens items).length := by
  induction items with
  | nil => exact Nat.zero_lt_one
  | cons item items ih =>
      simp only [itemTokens, List.cons_append, List.length_cons, List.length_append]
      omega

theorem length_lt_fieldTokens (fields : List (String × Json)) :
    fields.length < (fieldTokens fields).length := by
  induction fields with
  | nil => exact Nat.zero_lt_one
  | cons field fields ih =>
      simp only [fieldTokens, List.cons_append, List.length_cons, List.length_append]
      omega

section Parts

open Reader

variable {α β : Type} {reader : Reader α} {j : Json} {a : α}

theorem Reads.map (reads : Reads reader j a) (f : α → β) :
    Reads (do return f (← reader)) j (f a) :=
  fun rest => run_bind (reads rest)

theorem reads_text (s : String) : Reads Reader.text (.text s) s :=
  fun _ => rfl

theorem reads_bool (b : Bool) : Reads Reader.bool (.bool b) b :=
  fun _ => rfl

theorem reads_nat64 {n : Nat} (small : n < 18446744073709551616) : Reads nat64 (.nat n) n := by
  intro rest
  have range : 0 ≤ (n : Int) ∧ (n : Int) < 18446744073709551616 := by omega
  rw [nat64]
  refine (run_bind (run_take (.int n) rest)).trans ?_
  simp only [if_pos range, Int.toNat_natCast]
  rfl

theorem reads_int64 {n : Int}
    (range : -9223372036854775808 ≤ n ∧ n < 9223372036854775808) : Reads int64 (.int n) n := by
  intro rest
  rw [int64]
  refine (run_bind (run_take (.int n) rest)).trans ?_
  simp only [if_pos range]
  rfl

theorem reads_option_none : Reads (option reader) .null none :=
  fun rest => run_bind (run_takeIf_self .null rest)

theorem reads_option_some (reads : Reads reader j a) (given : j.tokens.head? ≠ some .null) :
    Reads (option reader) j (some a) := by
  intro rest
  obtain ⟨first, later, written, -⟩ := tokens_eq_cons j
  rw [written, List.head?_cons, ne_eq, Option.some.injEq] at given
  have unread := run_takeIf_ne given (later ++ rest)
  rw [← List.cons_append, ← written] at unread
  rw [option, run_bind unread]
  exact run_bind (reads rest)

theorem reads_oneOf {names : List (String × α)} {name : String}
    (known : names.lookup name = some a) : Reads (oneOf names) (.text name) a := by
  intro rest
  rw [oneOf]
  refine (run_bind (run_takeIf_ne (nofun : Token.text name true ≠ .beginObject) rest)).trans ?_
  refine (run_bind (reads_text name rest)).trans ?_
  rw [oneOf.named, known]
  rfl

end Parts

section Lists

open Reader

variable {α : Type} {item : Reader α} {write : α → Json}

theorem run_itemsFrom {xs : List α} (reads : ∀ x ∈ xs, Reads item (write x) x) {fuel : Nat}
    (enough : xs.length < fuel) (back : List α) (rest : List Token) :
    (itemsFrom item fuel back).run (itemTokens (xs.map write) ++ rest) =
      .ok (back.reverse ++ xs, rest) := by
  induction xs generalizing fuel back with
  | nil =>
      obtain ⟨fuel, rfl⟩ := Nat.exists_eq_succ_of_ne_zero (Nat.ne_zero_of_lt enough)
      rw [List.append_nil]
      exact run_bind (run_takeIf_self .endList rest)
  | cons x xs ih =>
      obtain ⟨fuel, rfl⟩ := Nat.exists_eq_succ_of_ne_zero (Nat.ne_zero_of_lt enough)
      simp only [List.map_cons, itemTokens, List.cons_append, List.append_assoc]
      rw [itemsFrom]
      refine (run_bind (run_takeIf_ne (nofun : Token.comma ≠ .endList) _)).trans ?_
      refine (run_bind (run_expect .comma _)).trans ?_
      refine (run_bind (reads x List.mem_cons_self _)).trans ?_
      rw [ih (fun y later => reads y (List.mem_cons_of_mem x later)) (by simpa using enough),
        List.reverse_cons, List.append_assoc, List.singleton_append]

theorem reads_list {xs : List α} (reads : ∀ x ∈ xs, Reads item (write x) x) :
    Reads (Reader.list item) (.list (xs.map write)) xs := by
  intro rest
  cases xs with
  | nil => exact (run_bind (run_expect .beginList _)).trans (run_bind (run_takeIf_self .endList rest))
  | cons x xs =>
      obtain ⟨first, later, written, other⟩ := tokens_eq_cons (write x)
      have unended := run_takeIf_ne other (later ++ (itemTokens (xs.map write) ++ rest))
      rw [← List.cons_append, ← written] at unended
      simp only [List.map_cons, tokens, List.cons_append, List.append_assoc]
      rw [Reader.list]
      refine (run_bind (run_expect .beginList _)).trans ?_
      refine (run_bind unended).trans ?_
      refine (run_bind (reads x List.mem_cons_self _)).trans ?_
      refine (run_bind (run_get _)).trans ?_
      have long := length_lt_itemTokens (xs.map write)
      rw [List.length_map] at long
      exact run_itemsFrom (fun y later => reads y (List.mem_cons_of_mem x later))
        (by rw [List.length_append]; omega) [x] rest

end Lists

section Records

open Reader

variable {σ : Type}

/-- Written fields are read one after another, each by the field of its name, which has not been
read before. -/
inductive Fills (fields : List (Reader.Field σ)) : σ → List (String × Json) → σ → Prop
  | done {s} : Fills fields s [] s
  | field {s s' s'' field key value rest} (known : fields.find? (·.name = key) = some field)
      (unset : field.isSet s = false) (reads : Reads (field.fill s) value s')
      (later : Fills fields s' rest s'') : Fills fields s ((key, value) :: rest) s''

variable {fields : List (Reader.Field σ)} {s s' s'' : σ}

theorem Fills.append {written later : List (String × Json)} (first : Fills fields s written s')
    (second : Fills fields s' later s'') : Fills fields s (written ++ later) s'' := by
  induction first with
  | done => exact second
  | field known unset reads _ ih => exact .field known unset reads (ih second)

theorem run_fieldsFrom {written : List (String × Json)} (fills : Fills fields s written s')
    {fuel : Nat} (enough : written.length < fuel) (rest : List Token) :
    (fieldsFrom fields fuel false s).run (fieldTokens written ++ rest) = .ok (s', rest) := by
  induction fills generalizing fuel with
  | done =>
      obtain ⟨fuel, rfl⟩ := Nat.exists_eq_succ_of_ne_zero (Nat.ne_zero_of_lt enough)
      exact run_bind (run_takeIf_self .endObject rest)
  | @field s s' s'' field key value written known unset reads later ih =>
      obtain ⟨fuel, rfl⟩ := Nat.exists_eq_succ_of_ne_zero (Nat.ne_zero_of_lt enough)
      simp only [fieldTokens, List.cons_append, List.append_assoc]
      rw [fieldsFrom]
      refine (run_bind (run_takeIf_ne (nofun : Token.comma ≠ .endObject) _)).trans ?_
      refine (run_bind (run_expect .comma _)).trans ?_
      refine (run_bind (reads_text key _)).trans ?_
      simp only [known, unset]
      refine (run_bind (run_expect .colon _)).trans ?_
      refine (run_bind (reads _)).trans ?_
      exact ih (by simpa using enough)

theorem reads_record {written : List (String × Json)} (fills : Fills fields s written s') :
    Reads (record fields s) (.object written) s' := by
  intro rest
  cases fills with
  | done =>
      refine (run_bind (run_take _ _)).trans ?_
      refine (run_bind (run_get _)).trans ?_
      exact run_bind (run_takeIf_self .endObject rest)
  | @field _ s' _ field key value written known unset reads later =>
      simp only [tokens, List.cons_append, List.append_assoc]
      refine (run_bind (run_take _ _)).trans ?_
      refine (run_bind (run_get _)).trans ?_
      rw [fieldsFrom]
      refine (run_bind (run_takeIf_ne (nofun : Token.text key true ≠ .endObject) _)).trans ?_
      refine (run_bind (reads_text key _)).trans ?_
      simp only [known, unset]
      refine (run_bind (run_expect .colon _)).trans ?_
      refine (run_bind (reads _)).trans ?_
      have long := length_lt_fieldTokens written
      exact run_fieldsFrom later (by simp only [List.length_cons, List.length_append]; omega) rest

end Records

theorem itemsFit_map {α : Type} {write : α → Json} {xs : List α}
    (fit : ∀ x ∈ xs, (write x).Fits) : ItemsFit (xs.map write) := by
  induction xs with
  | nil => exact trivial
  | cons x xs ih =>
      exact ⟨fit x List.mem_cons_self, ih fun y later => fit y (List.mem_cons_of_mem x later)⟩

theorem read_render {α : Type} {reader : Reader α} {j : Json} {a : α} (fits : j.Fits)
    (reads : Reads reader j a) : read reader j.render = .ok a := by
  have whole := reads []
  rw [List.append_nil] at whole
  rw [read, lex_render fits, whole]

end Quarantine.Json
