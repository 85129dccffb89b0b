import CommonPurse.Store.Table
import Mathlib.Tactic.Lemma
import Mathlib.Data.List.Induction
import Mathlib.Data.List.Nodup

/-!
# Rows of tables

What putting in and removing do to the rows and the keys of a table, and to a table whose values
are mapped. A table that is built up from nothing has every key once.

## Main definitions

* `CommonPurse.Store.Table.map` — the table with every value changed.
* `CommonPurse.Store.Table.putAll` — several values put in, each under its own key.
* `CommonPurse.Store.Table.Distinct` — every key comes once.

## Main results

* `CommonPurse.Store.Table.rows_put_of_absent` — a new key goes to the end.
* `CommonPurse.Store.Table.rows_put_of_distinct` — an old key keeps its place.
* `CommonPurse.Store.Table.map_put`, `CommonPurse.Store.Table.map_erase` — mapping commutes with
  both.
* `CommonPurse.Store.Table.putAll_map_eq_map` — putting changed values back in their places changes
  the table value by value.
-/

namespace CommonPurse.Store.Table

variable {κ α β : Type} [DecidableEq κ]

/-- The table with every value changed. -/
def map (f : α → β) (t : Table κ α) : Table κ β := ⟨t.rows.map fun r => (r.1, f r.2)⟩

/-- Every key comes once. -/
def Distinct (t : Table κ α) : Prop := t.keys.Nodup

@[simp] lemma get?_empty (k : κ) : (empty : Table κ α).get? k = none := rfl

/-! ## Looking up -/

lemma lookup_eq_none_iff (k : κ) (rows : List (κ × α)) :
    lookup k rows = none ↔ k ∉ rows.map (·.1) := by
  induction rows with
  | nil => simp [lookup]
  | cons r rest ih =>
    obtain ⟨j, a⟩ := r
    by_cases h : j = k
    · simp [lookup, h]
    · simp [lookup, h, ih, Ne.symm h]

/-- A key has no value exactly when it is not among the keys. -/
lemma get?_eq_none_iff (t : Table κ α) (k : κ) : t.get? k = none ↔ k ∉ t.keys :=
  lookup_eq_none_iff k t.rows

lemma mem_of_lookup {k : κ} {a : α} {rows : List (κ × α)} (h : lookup k rows = some a) :
    (k, a) ∈ rows := by
  induction rows with
  | nil => simp [lookup] at h
  | cons r rest ih =>
    obtain ⟨j, b⟩ := r
    by_cases hj : j = k
    · simp [lookup, hj] at h
      simp [hj, h]
    · simp only [lookup, if_neg hj] at h
      exact List.mem_cons_of_mem _ (ih h)

/-- A value that is found stands in a row under its key. -/
lemma mem_of_get? {t : Table κ α} {k : κ} {a : α} (h : t.get? k = some a) : (k, a) ∈ t.rows :=
  mem_of_lookup h

lemma mem_values_of_get? {t : Table κ α} {k : κ} {a : α} (h : t.get? k = some a) : a ∈ t.values :=
  List.mem_map_of_mem (mem_of_get? h)

lemma lookup_of_mem {k : κ} {a : α} {rows : List (κ × α)} (hd : (rows.map (·.1)).Nodup)
    (h : (k, a) ∈ rows) : lookup k rows = some a := by
  induction rows with
  | nil => simp at h
  | cons r rest ih =>
    obtain ⟨j, b⟩ := r
    simp only [List.map_cons, List.nodup_cons] at hd
    rcases List.mem_cons.mp h with h | h
    · obtain ⟨rfl, rfl⟩ := Prod.mk.inj h
      simp [lookup]
    · have hj : j ≠ k := by
        rintro rfl
        exact hd.1 (List.mem_map.mpr ⟨(j, a), h, rfl⟩)
      simp only [lookup, if_neg hj]
      exact ih hd.2 h

/-- In a table in which every key comes once, the value of a row is found under its key. -/
lemma get?_of_mem {t : Table κ α} (hd : t.Distinct) {k : κ} {a : α} (h : (k, a) ∈ t.rows) :
    t.get? k = some a :=
  lookup_of_mem hd h

/-! ## Putting in -/

lemma putRow_of_notMem {k : κ} (a : α) {rows : List (κ × α)} (h : k ∉ rows.map (·.1)) :
    putRow k a rows = rows ++ [(k, a)] := by
  induction rows with
  | nil => rfl
  | cons r rest ih =>
    obtain ⟨j, b⟩ := r
    simp only [List.map_cons, List.mem_cons, not_or] at h
    simp [putRow, Ne.symm h.1, ih h.2]

/-- A new key goes to the end. -/
lemma rows_put_of_absent {t : Table κ α} {k : κ} (a : α) (h : t.get? k = none) :
    (t.put k a).rows = t.rows ++ [(k, a)] :=
  putRow_of_notMem a ((get?_eq_none_iff t k).mp h)

/-- A new value goes to the end. -/
lemma values_put_of_absent {t : Table κ α} {k : κ} (a : α) (h : t.get? k = none) :
    (t.put k a).values = t.values ++ [a] := by
  rw [values, rows_put_of_absent a h, List.map_append]
  rfl

lemma keys_putRow (k : κ) (a : α) (rows : List (κ × α)) :
    (putRow k a rows).map (·.1) =
      if k ∈ rows.map (·.1) then rows.map (·.1) else rows.map (·.1) ++ [k] := by
  induction rows with
  | nil => simp [putRow]
  | cons r rest ih =>
    obtain ⟨j, b⟩ := r
    by_cases hj : j = k
    · simp [putRow, hj]
    · simp only [putRow, if_neg hj, List.map_cons, ih, List.mem_cons, Ne.symm hj, false_or]
      split <;> simp

/-- The keys after a key has been given a value. -/
lemma keys_put (t : Table κ α) (k : κ) (a : α) :
    (t.put k a).keys = if k ∈ t.keys then t.keys else t.keys ++ [k] :=
  keys_putRow k a t.rows

/-- Rows after a change come from before it or are the one that was put in. -/
lemma mem_rows_put {t : Table κ α} {k : κ} {a : α} {r : κ × α} (h : r ∈ (t.put k a).rows) :
    r = (k, a) ∨ r ∈ t.rows := by
  suffices ∀ rows, r ∈ putRow k a rows → r = (k, a) ∨ r ∈ rows from this t.rows h
  intro rows
  induction rows with
  | nil => simp [putRow]
  | cons s rest ih =>
    obtain ⟨j, b⟩ := s
    by_cases hj : j = k
    · subst hj
      simp only [putRow, ↓reduceIte, List.mem_cons]
      exact fun h => h.elim Or.inl fun h => Or.inr (Or.inr h)
    · simp only [putRow, if_neg hj, List.mem_cons]
      exact fun h => h.elim (fun h => Or.inr (Or.inl h)) fun h =>
        (ih h).elim Or.inl fun h => Or.inr (Or.inr h)

/-- A value that is there already changes nothing. -/
lemma put_of_get? {t : Table κ α} {k : κ} {a : α} (h : t.get? k = some a) : t.put k a = t := by
  obtain ⟨rows⟩ := t
  simp only [get?] at h
  simp only [put]
  congr 1
  induction rows with
  | nil => simp [lookup] at h
  | cons r rest ih =>
    obtain ⟨j, b⟩ := r
    by_cases hj : j = k
    · simp_all [putRow, lookup]
    · rw [lookup, if_neg hj] at h
      rw [putRow, if_neg hj, ih h]

/-- A key that is there may be given its value before or after another one. -/
lemma put_comm {t : Table κ α} {j k : κ} (hne : j ≠ k) (h : (t.get? k).isSome = true) (a b : α) :
    (t.put j b).put k a = (t.put k a).put j b := by
  obtain ⟨rows⟩ := t
  simp only [get?] at h
  simp only [put]
  congr 1
  induction rows with
  | nil => simp [lookup] at h
  | cons r rest ih =>
    obtain ⟨i, c⟩ := r
    by_cases hk : i = k
    · subst hk
      simp [putRow, hne.symm]
    · rw [lookup, if_neg hk] at h
      by_cases hj : i = j
      · subst hj
        simp [putRow, hk]
      · simp [putRow, hj, hk, ih h]

/-! ## Removing -/

/-- The keys after a key has been removed. -/
lemma keys_erase (t : Table κ α) (k : κ) : (t.erase k).keys = t.keys.filter (· ≠ k) := by
  simp only [keys, erase, List.filter_map]
  rfl

lemma mem_rows_erase {t : Table κ α} {k : κ} {r : κ × α} :
    r ∈ (t.erase k).rows ↔ r ∈ t.rows ∧ r.1 ≠ k := by
  simp [erase]

/-- What is found when the rows of some keys are kept. -/
lemma get?_filter (p : κ → Bool) (t : Table κ α) (k : κ) :
    (⟨t.rows.filter fun r => p r.1⟩ : Table κ α).get? k =
      if p k = true then t.get? k else none := by
  obtain ⟨rows⟩ := t
  simp only [get?]
  induction rows with
  | nil => simp [lookup]
  | cons r rest ih =>
    obtain ⟨j, a⟩ := r
    by_cases hj : j = k
    · subst hj
      by_cases hp : p j = true <;> simp_all [lookup]
    · by_cases hp : p j = true <;> simp [hp, lookup, hj, ih]

/-! ## Every key once -/

omit [DecidableEq κ] in
lemma distinct_empty : (empty : Table κ α).Distinct := List.nodup_nil

lemma Distinct.put {t : Table κ α} (h : t.Distinct) (k : κ) (a : α) : (t.put k a).Distinct := by
  unfold Distinct at *
  rw [keys_put]
  split
  · exact h
  · next hk => exact List.Nodup.append h (List.nodup_singleton k) (by simpa using hk)

omit [DecidableEq κ] in
lemma Distinct.filter {t : Table κ α} (h : t.Distinct) (p : κ × α → Bool) :
    (⟨t.rows.filter p⟩ : Table κ α).Distinct :=
  h.sublist (List.filter_sublist.map _)

lemma Distinct.erase {t : Table κ α} (h : t.Distinct) (k : κ) : (t.erase k).Distinct := by
  unfold Distinct at *
  rw [keys_erase]
  exact h.filter _

/-! ## Changing every value -/

omit [DecidableEq κ] in
lemma keys_map (f : α → β) (t : Table κ α) : (t.map f).keys = t.keys := by
  simp [map, keys, Function.comp_def]

/-- The value of a key in a mapped table. -/
@[simp] lemma get?_map (f : α → β) (t : Table κ α) (k : κ) :
    (t.map f).get? k = (t.get? k).map f := by
  obtain ⟨rows⟩ := t
  simp only [get?, map]
  induction rows with
  | nil => rfl
  | cons r rest ih =>
    by_cases h : r.1 = k
    · simp [lookup, h]
    · simp [lookup, h, ih]

/-- Mapping commutes with putting in. -/
lemma map_put (f : α → β) (t : Table κ α) (k : κ) (a : α) :
    (t.put k a).map f = (t.map f).put k (f a) := by
  obtain ⟨rows⟩ := t
  simp only [map, put]
  congr 1
  induction rows with
  | nil => rfl
  | cons r rest ih =>
    by_cases h : r.1 = k
    · simp [putRow, h]
    · simp [putRow, h, ih]

/-- Mapping commutes with removing. -/
lemma map_erase (f : α → β) (t : Table κ α) (k : κ) :
    (t.erase k).map f = (t.map f).erase k := by
  simp only [map, erase, List.filter_map]
  rfl

omit [DecidableEq κ] in
lemma map_map {γ : Type} (f : α → β) (g : β → γ) (t : Table κ α) :
    (t.map f).map g = t.map fun a => g (f a) := by
  simp [map]

/-! ## Putting changed values back -/

/-- Tables with the same keys in the same places and the same values are the same.

**Proof sketch.** Induction on the rows of one table. A key of the first row is not among the
others, so the remaining tables agree on it as well. -/
lemma ext_get? {s t : Table κ α} (hs : s.Distinct) (hk : s.keys = t.keys)
    (h : ∀ k, s.get? k = t.get? k) : s = t := by
  obtain ⟨rows⟩ := s
  obtain ⟨rows'⟩ := t
  congr 1
  simp only [Distinct, keys, get?] at hs hk h
  induction rows generalizing rows' with
  | nil => simpa using hk.symm
  | cons r rest ih =>
    obtain ⟨k, a⟩ := r
    cases rows' with
    | nil => simp at hk
    | cons r' rest' =>
      obtain ⟨k', b⟩ := r'
      simp only [List.map_cons, List.cons.injEq] at hk
      obtain ⟨rfl, hk⟩ := hk
      rw [List.map_cons, List.nodup_cons] at hs
      have hab : a = b := by simpa [lookup] using h k
      have hrest : ∀ j, lookup j rest = lookup j rest' := by
        intro j
        by_cases hj : k = j
        · subst hj
          rw [(lookup_eq_none_iff ..).mpr hs.1, (lookup_eq_none_iff ..).mpr (hk ▸ hs.1)]
        · simpa [lookup, hj] using h j
      rw [hab, ih hs.2 rest' hk hrest]

/-- Put values in one after the other, each under its own key. -/
def putAll (key : α → κ) (t : Table κ α) (as : List α) : Table κ α :=
  as.foldl (fun t a => t.put (key a) a) t

lemma putAll_append_singleton (key : α → κ) (t : Table κ α) (as : List α) (a : α) :
    t.putAll key (as ++ [a]) = (t.putAll key as).put (key a) a := by
  simp [putAll]

variable {key : α → κ} {t : Table κ α} {f : α → α} {as : List α}

lemma Distinct.putAll (h : t.Distinct) (as : List α) : (t.putAll key as).Distinct := by
  induction as using List.reverseRecOn with
  | nil => exact h
  | append_singleton as a ih =>
    rw [putAll_append_singleton]
    exact ih.put _ _

/-- Values put back under keys that are there keep the keys. -/
lemma keys_putAll (h : ∀ a ∈ as, key a ∈ t.keys) : (t.putAll key as).keys = t.keys := by
  induction as using List.reverseRecOn with
  | nil => rfl
  | append_singleton as a ih =>
    have has := ih fun b hb => h b (List.mem_append_left _ hb)
    rw [putAll_append_singleton, keys_put, has, if_pos (h a (by simp))]

/-- Under a key of one of the values that have been put in, one of them is found. -/
lemma get?_putAll_of_mem {k : κ} (h : k ∈ as.map key) :
    ∃ a ∈ as, key a = k ∧ (t.putAll key as).get? k = some a := by
  induction as using List.reverseRecOn with
  | nil => simp at h
  | append_singleton as b ih =>
    rw [putAll_append_singleton, get?_put]
    by_cases hb : key b = k
    · exact ⟨b, by simp, hb, if_pos hb⟩
    · have has : k ∈ as.map key := by simpa [Ne.symm hb] using h
      obtain ⟨a, ha, hk, hget⟩ := ih has
      exact ⟨a, List.mem_append_left _ ha, hk, by rw [if_neg hb, hget]⟩

/-- Under the other keys the old values are found. -/
lemma get?_putAll_of_notMem {k : κ} (h : k ∉ as.map key) :
    (t.putAll key as).get? k = t.get? k := by
  induction as using List.reverseRecOn with
  | nil => rfl
  | append_singleton as b ih =>
    rw [List.map_append, List.mem_append, not_or] at h
    have hb : key b ≠ k := by simpa [eq_comm] using h.2
    rw [putAll_append_singleton, get?_put, if_neg hb, ih h.1]

/-- What is found when changed values have been put back: the changed value under the key of one
of them, and the old value elsewhere. -/
lemma get?_putAll_map (hf : ∀ a, key (f a) = key a) (h : ∀ a ∈ as, t.get? (key a) = some a)
    (k : κ) :
    (t.putAll key (as.map f)).get? k =
      if k ∈ as.map key then (t.get? k).map f else t.get? k := by
  induction as using List.reverseRecOn with
  | nil => simp [putAll]
  | append_singleton as a ih =>
    rw [List.map_append, List.map_singleton, putAll_append_singleton, get?_put, hf,
      ih fun b hb => h b (List.mem_append_left _ hb)]
    by_cases hk : key a = k
    · subst hk
      simp [h a]
    · simp [hk, Ne.symm hk]

/-- **Putting changed values back in their places changes the table value by value.** Those that
are not put back must be ones that the change leaves alone. -/
lemma putAll_map_eq_map (hd : t.Distinct) (hkey : ∀ r ∈ t.rows, r.1 = key r.2)
    (hf : ∀ a, key (f a) = key a) (hin : ∀ a ∈ as, a ∈ t.values)
    (hout : ∀ a ∈ t.values, a ∉ as → f a = a) :
    t.putAll key (as.map f) = t.map f := by
  have hget : ∀ a ∈ t.values, t.get? (key a) = some a := by
    intro a ha
    obtain ⟨r, hr, rfl⟩ := List.mem_map.mp ha
    exact get?_of_mem hd (hkey r hr ▸ hr)
  have hkeys : ∀ b ∈ as.map f, key b ∈ t.keys := by
    intro b hb
    obtain ⟨a, ha, rfl⟩ := List.mem_map.mp hb
    rw [hf]
    exact List.mem_map_of_mem (mem_of_get? (hget a (hin a ha)))
  refine ext_get? (hd.putAll _) ?_ fun k => ?_
  · rw [keys_putAll hkeys, keys_map]
  · rw [get?_putAll_map hf fun a ha => hget a (hin a ha), get?_map]
    by_cases hk : k ∈ as.map key
    · rw [if_pos hk]
    · rw [if_neg hk]
      cases hv : t.get? k with
      | none => rfl
      | some a =>
        have hrow := mem_of_get? hv
        have hka : k = key a := hkey _ hrow
        have hne : a ∉ as := fun ha => hk (hka ▸ List.mem_map_of_mem ha)
        rw [Option.map_some, hout a (List.mem_map_of_mem hrow) hne]

end CommonPurse.Store.Table
