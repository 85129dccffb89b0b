import Mathlib.Data.List.Forall2

/-!
# Steps that may fail

What a value says about the steps that have led to it: each of them has had a value, too.

## Main results

* `CommonPurse.bind_eq_ok_iff`, `bind_eq_error_iff` — one step after the other.
* `CommonPurse.map_eq_ok_iff`, `map_eq_error_iff` — a step and what is made of its value.
* `CommonPurse.foldlM_cons_eq_ok_iff`, `forall₂_of_mapM` — a step for each item of a list.
-/

namespace CommonPurse

variable {ε α β : Type}

lemma bind_eq_ok_iff (x : Except ε α) (f : α → Except ε β) (b : β) :
    (x >>= f) = .ok b ↔ ∃ a, x = .ok a ∧ f a = .ok b := by
  cases x <;> simp [bind, Except.bind]

lemma bind_eq_error_iff (x : Except ε α) (f : α → Except ε β) (e : ε) :
    (x >>= f) = .error e ↔ x = .error e ∨ ∃ a, x = .ok a ∧ f a = .error e := by
  cases x <;> simp [bind, Except.bind]

lemma map_eq_ok_iff (x : Except ε α) (f : α → β) (b : β) :
    x.map f = .ok b ↔ ∃ a, x = .ok a ∧ f a = b := by
  cases x <;> simp [Except.map]

lemma map_eq_error_iff (x : Except ε α) (f : α → β) (e : ε) :
    x.map f = .error e ↔ x = .error e := by
  cases x <;> simp [Except.map]

lemma foldlM_cons_eq_ok_iff {f : β → α → Except ε β} {a : α} {l : List α} {b c : β} :
    (a :: l).foldlM f b = .ok c ↔ ∃ x, f b a = .ok x ∧ l.foldlM f x = .ok c := by
  rw [List.foldlM_cons, bind_eq_ok_iff]

/-- A function that has values for all items of a list has them one by one. -/
lemma forall₂_of_mapM {f : α → Except ε β} {l : List α} {bs : List β} (h : l.mapM f = .ok bs) :
    List.Forall₂ (fun a b => f a = .ok b) l bs := by
  induction l generalizing bs with
  | nil =>
    obtain rfl := Except.ok.inj h
    exact .nil
  | cons a rest ih =>
    simp only [List.mapM_cons, bind_eq_ok_iff] at h
    obtain ⟨b, first, bs, others, same⟩ := h
    obtain rfl := Except.ok.inj same
    exact .cons first (ih others)

end CommonPurse
