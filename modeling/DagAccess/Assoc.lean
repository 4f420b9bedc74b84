/-!
# Entries under keys

A list of entries assigns values to keys and remembers the order in which the keys were first given.
`put` assigns a value, in place if the key is there, else at the end. `lookup_put` says which values
are found afterwards, `keys_put` which keys there are and in which order.
-/

namespace DagAccess.Assoc

variable {κ α : Type}

/-- Assigns a value to the first key that passes the test, or else to a new key at the end. The key
that is there stays as it is. -/
def putBy (same : κ → Bool) (key : κ) (a : α) : List (κ × α) → List (κ × α)
  | [] => [(key, a)]
  | e :: rest => if same e.1 then (e.1, a) :: rest else e :: putBy same key a rest

/-- Assigns a value to a key. -/
def put [BEq κ] (key : κ) (a : α) (es : List (κ × α)) : List (κ × α) :=
  putBy (· == key) key a es

/-- Drops the entries of a key. -/
def erase [BEq κ] (key : κ) (es : List (κ × α)) : List (κ × α) :=
  es.filter (·.1 != key)

/-- What is found under a key is an entry of the list. -/
theorem mem_of_lookup [BEq κ] [LawfulBEq κ] {key : κ} {a : α} {es : List (κ × α)}
    (found : es.lookup key = some a) : (key, a) ∈ es := by
  obtain ⟨before, after, rfl, -⟩ := List.lookup_eq_some_iff.mp found
  exact List.mem_append_right before List.mem_cons_self

/-- Where no key is given twice, each value is found under its key. -/
theorem lookup_of_mem [BEq κ] [LawfulBEq κ] {key : κ} {a : α} {es : List (κ × α)}
    (distinct : (es.map Prod.fst).Nodup) (there : (key, a) ∈ es) : es.lookup key = some a := by
  induction es with
  | nil => cases there
  | cons e rest ih =>
    obtain ⟨fresh, distinct⟩ := List.nodup_cons.mp distinct
    rw [List.lookup_cons]
    rcases List.mem_cons.mp there with rfl | later
    · rw [BEq.rfl]
    · have other : key ≠ e.1 := fun same => fresh (List.mem_map.mpr ⟨(key, a), later, same⟩)
      rw [beq_false_of_ne other]
      exact ih distinct later

/-- Where no key is given twice, the order of the entries does not matter. -/
theorem lookup_perm [BEq κ] [LawfulBEq κ] {es fs : List (κ × α)}
    (distinct : (es.map Prod.fst).Nodup) (order : fs.Perm es) (key : κ) :
    fs.lookup key = es.lookup key := by
  have other : (fs.map Prod.fst).Nodup := (order.map Prod.fst).nodup_iff.mpr distinct
  refine Option.ext fun a => ⟨fun found => ?_, fun found => ?_⟩
  · exact lookup_of_mem distinct (order.mem_iff.mp (mem_of_lookup found))
  · exact lookup_of_mem other (order.mem_iff.mpr (mem_of_lookup found))

/-- Only the value of the key changes. -/
theorem lookup_put [BEq κ] [LawfulBEq κ] (key other : κ) (a : α) (es : List (κ × α)) :
    (put key a es).lookup other = if other == key then some a else es.lookup other := by
  induction es with
  | nil => by_cases h : other == key <;> simp [put, putBy, List.lookup_cons, h]
  | cons e rest ih =>
    obtain ⟨k, b⟩ := e
    simp only [put, putBy] at ih ⊢
    by_cases hk : k = key
    · subst hk
      cases h : other == k <;> simp [List.lookup_cons, h]
    · cases h : other == k
      · simp [List.lookup_cons, hk, h, ih]
      · obtain rfl := eq_of_beq h
        simp [hk]

/-- The keys stay in their order, and a new one comes last. -/
theorem keys_put [BEq κ] [LawfulBEq κ] (key : κ) (a : α) (es : List (κ × α)) :
    (put key a es).map Prod.fst =
      if key ∈ es.map Prod.fst then es.map Prod.fst else es.map Prod.fst ++ [key] := by
  induction es with
  | nil => simp [put, putBy]
  | cons e rest ih =>
    obtain ⟨k, b⟩ := e
    simp only [put, putBy] at ih ⊢
    by_cases hk : k = key
    · simp [hk]
    · have hk' : key ≠ k := fun h => hk h.symm
      by_cases h : key ∈ rest.map Prod.fst
      · simp only [if_pos h] at ih
        simp [hk, ih, List.mem_cons.mpr (Or.inr h)]
      · simp only [if_neg h] at ih
        simp [hk, ih, hk', h]

/-- Nothing is found under a key that was dropped, and all else is found as before. -/
theorem lookup_erase [BEq κ] [LawfulBEq κ] (key other : κ) (es : List (κ × α)) :
    (erase key es).lookup other = if other == key then none else es.lookup other := by
  induction es with
  | nil => simp [erase]
  | cons e rest ih =>
    obtain ⟨k, b⟩ := e
    simp only [erase] at ih ⊢
    by_cases hk : k = key
    · subst hk
      cases h : other == k <;> simpa [List.lookup_cons, h] using ih
    · cases h : other == k
      · simp [List.lookup_cons, hk, h, ih]
      · obtain rfl := eq_of_beq h
        simp [hk]

/-- Values that are changed in place are found changed. -/
theorem lookup_map {β : Type} [BEq κ] [LawfulBEq κ] (f : κ → α → β) (es : List (κ × α)) (key : κ) :
    (es.map fun e => (e.1, f e.1 e.2)).lookup key = (es.lookup key).map (f key) := by
  induction es with
  | nil => rfl
  | cons e rest ih =>
    rw [List.map_cons, List.lookup_cons, List.lookup_cons, ih]
    cases same : key == e.1 with
    | false => rfl
    | true =>
      rw [eq_of_beq same]
      rfl

/-- A key is there if and only if something is found under it. -/
theorem any_key [DecidableEq κ] (key : κ) (es : List (κ × α)) :
    es.any (·.1 = key) = (es.lookup key).isSome := by
  induction es with
  | nil => rfl
  | cons e rest ih =>
    rw [List.any_cons, List.lookup_cons, ih]
    by_cases same : key = e.1
    · simp [same]
    · have apart : (key == e.1) = false := beq_false_of_ne same
      simp [apart, Ne.symm same]

theorem mem_keys_iff [DecidableEq κ] {key : κ} {es : List (κ × α)} :
    key ∈ es.map Prod.fst ↔ ∃ a, es.lookup key = some a := by
  rw [← Option.isSome_iff_exists, ← any_key, List.any_eq_true, List.mem_map]
  simp only [decide_eq_true_eq]

end DagAccess.Assoc
