import CommonPurse.Proofs.Store.Table
import Mathlib.Data.List.Perm.Subperm

/-!
# Several entries for a table

What a table holds after several entries have been put in: each of their keys once, however often
it came, and with the value that came last. So the table grows by as many keys as there are entries
exactly when no key came twice.

## Main definitions

* `CommonPurse.Store.Table.enter` — entries put in one after the other.
* `CommonPurse.Store.Table.Admits` — the entries are all new.

## Main results

* `CommonPurse.Store.Table.keys_enter` — the keys of the table afterwards.
* `CommonPurse.Store.Table.get?_enter_of_mem` — new entries are found.
* `CommonPurse.Store.Table.length_keys_enter_iff` — when a table grows by all its entries.
-/

namespace CommonPurse.Store.Table

variable {κ α : Type} [DecidableEq κ]

/-- Put entries in one after the other. -/
def enter (t : Table κ α) (entries : List (κ × α)) : Table κ α :=
  entries.foldl (fun t x => t.put x.1 x.2) t

variable {t : Table κ α} {entries more : List (κ × α)}

@[simp] lemma enter_nil (t : Table κ α) : t.enter [] = t := rfl

@[simp] lemma enter_cons (t : Table κ α) (x : κ × α) (entries : List (κ × α)) :
    t.enter (x :: entries) = (t.put x.1 x.2).enter entries := rfl

lemma enter_append (t : Table κ α) (entries more : List (κ × α)) :
    t.enter (entries ++ more) = (t.enter entries).enter more :=
  List.foldl_append

/-! ## Keys -/

/-- **The keys of a table after entries have been put in**: those that it had, then each new one
once. -/
theorem keys_enter (t : Table κ α) (entries : List (κ × α)) :
    ∃ new, (t.enter entries).keys = t.keys ++ new ∧ new.Nodup ∧
      ∀ k, k ∈ new ↔ k ∈ entries.map (·.1) ∧ k ∉ t.keys := by
  induction entries using List.reverseRecOn with
  | nil => exact ⟨[], by simp, List.nodup_nil, by simp⟩
  | append_singleton entries x ih =>
    obtain ⟨new, keys, distinct, mem⟩ := ih
    rw [enter_append, enter_cons, enter_nil, keys_put, keys]
    split_ifs with old
    · refine ⟨new, rfl, distinct, fun k => ?_⟩
      rw [mem, List.map_append, List.mem_append, List.map_singleton, List.mem_singleton]
      refine ⟨fun ⟨h, h'⟩ => ⟨.inl h, h'⟩, ?_⟩
      rintro ⟨h | rfl, h'⟩
      · exact ⟨h, h'⟩
      · exact (mem _).mp ((List.mem_append.mp old).resolve_left h')
    · rw [List.mem_append, not_or] at old
      refine ⟨new ++ [x.1], List.append_assoc .., ?_, fun k => ?_⟩
      · exact List.nodup_append.mpr ⟨distinct, List.nodup_singleton _, by
          rintro a ha b hb rfl
          rw [List.mem_singleton.mp hb] at ha
          exact old.2 ha⟩
      · rw [List.mem_append, mem, List.map_append, List.mem_append, List.map_singleton,
          List.mem_singleton]
        constructor
        · rintro (⟨h, h'⟩ | rfl)
          · exact ⟨.inl h, h'⟩
          · exact ⟨.inr rfl, old.1⟩
        · rintro ⟨h | rfl, h'⟩
          · exact .inl ⟨h, h'⟩
          · exact .inr rfl

/-- A key has no value exactly when it had none and no entry is for it. -/
lemma get?_enter_eq_none_iff {k : κ} :
    (t.enter entries).get? k = none ↔ t.get? k = none ∧ k ∉ entries.map (·.1) := by
  obtain ⟨new, keys, -, mem⟩ := keys_enter t entries
  rw [get?_eq_none_iff, get?_eq_none_iff, keys, List.mem_append, not_or, mem]
  tauto

/-! ## New entries -/

/-- A table admits entries when it has none of their keys and no key comes twice. -/
structure Admits (t : Table κ α) (entries : List (κ × α)) : Prop where
  absent : ∀ k ∈ entries.map (·.1), t.get? k = none
  distinct : (entries.map (·.1)).Nodup

lemma admits_nil (t : Table κ α) : t.Admits [] := ⟨by simp, List.nodup_nil⟩

/-- Entries are admitted together when they are admitted one part after the other. -/
lemma Admits.append (h : t.Admits entries) (h' : (t.enter entries).Admits more) :
    t.Admits (entries ++ more) where
  absent k hk := by
    rw [List.map_append, List.mem_append] at hk
    rcases hk with hk | hk
    · exact h.absent k hk
    · exact (get?_enter_eq_none_iff.mp (h'.absent k hk)).1
  distinct := by
    rw [List.map_append]
    refine List.nodup_append.mpr ⟨h.distinct, h'.distinct, ?_⟩
    rintro k hk j hj rfl
    exact (get?_enter_eq_none_iff.mp (h'.absent k hj)).2 hk

/-- **New entries are found.** -/
lemma get?_enter_of_mem (distinct : (entries.map (·.1)).Nodup) {x : κ × α} (hx : x ∈ entries) :
    (t.enter entries).get? x.1 = some x.2 := by
  induction entries using List.reverseRecOn with
  | nil => cases hx
  | append_singleton entries y ih =>
    rw [List.map_append, List.map_singleton] at distinct
    obtain ⟨distinct, -, apart⟩ := List.nodup_append.mp distinct
    rw [enter_append, enter_cons, enter_nil, get?_put]
    rcases List.mem_append.mp hx with hx | hx
    · have other : y.1 ≠ x.1 := fun same =>
        apart _ (List.mem_map_of_mem hx) _ (List.mem_singleton_self _) same.symm
      rw [if_neg other, ih distinct hx]
    · obtain rfl := List.mem_singleton.mp hx
      exact if_pos rfl

/-- **A table grows by all its entries** exactly when no key comes twice, provided that it has none
of them yet. -/
theorem length_keys_enter_iff (absent : ∀ k ∈ entries.map (·.1), t.get? k = none) :
    (t.enter entries).keys.length = t.keys.length + entries.length ↔
      (entries.map (·.1)).Nodup := by
  obtain ⟨new, keys, distinct, mem⟩ := keys_enter t entries
  have same : ∀ k, k ∈ new ↔ k ∈ entries.map (·.1) := fun k =>
    (mem k).trans (and_iff_left_of_imp fun hk => (get?_eq_none_iff ..).mp (absent k hk))
  have count : entries.length = (entries.map (·.1)).length := (List.length_map _).symm
  rw [keys, List.length_append, Nat.add_left_cancel_iff, count]
  constructor
  · intro length
    have within : new.Subperm (entries.map (·.1)) :=
      List.subperm_of_subset distinct fun k hk => (same k).mp hk
    exact (within.perm_of_length_le (Nat.le_of_eq length.symm)).nodup_iff.mp distinct
  · intro once
    exact ((List.perm_ext_iff_of_nodup distinct once).mpr same).length_eq

end CommonPurse.Store.Table
