import Mathlib

/-!
# Lists

What stands at a place of a list after an update or at the end of a longer one, how a list is cut in
two, and what is added to a list at its end.
-/

namespace SessionKeeper

variable {α β : Type}

section Places

variable {l : List α} {f : α → α} {a b : α} {i j : Nat}

theorem getElem?_set_eq_some (h : (l.set i a)[j]? = some b) :
    i = j ∧ a = b ∨ i ≠ j ∧ l[j]? = some b := by
  rw [List.getElem?_set] at h
  split at h
  · rename_i hij
    split at h <;> cases h
    exact .inl ⟨hij, rfl⟩
  · rename_i hij
    exact .inr ⟨hij, h⟩

theorem getElem?_set_self_of_eq_some (h : l[i]? = some a) : (l.set i b)[i]? = some b :=
  List.getElem?_set_self (List.getElem?_eq_some_iff.1 h).1

theorem getElem?_concat_eq_some :
    (l ++ [a])[i]? = some b ↔ l[i]? = some b ∨ i = l.length ∧ a = b := by
  constructor
  · intro h
    rcases Nat.lt_trichotomy i l.length with hi | hi | hi
    · exact .inl (by rwa [List.getElem?_append_left hi] at h)
    · subst hi
      exact .inr ⟨rfl, by simpa using h⟩
    · have hnone : (l ++ [a])[i]? = none := List.getElem?_eq_none (by simp; omega)
      rw [hnone] at h
      cases h
  · rintro (h | ⟨rfl, rfl⟩)
    · rw [List.getElem?_append_left (List.getElem?_eq_some_iff.1 h).1, h]
    · exact List.getElem?_concat_length

theorem getElem?_modify_eq_some :
    (l.modify i f)[j]? = some b ↔ ∃ a, l[j]? = some a ∧ (if i = j then f a else a) = b := by
  rw [List.getElem?_modify, Option.map_eq_map, Option.map_eq_some_iff]

theorem set_eq_modify (f : α → α) (h : l[i]? = some a) : l.set i (f a) = l.modify i f := by
  refine List.ext_getElem? fun j => ?_
  rw [List.getElem?_set, List.getElem?_modify]
  by_cases hij : i = j
  · subst hij
    obtain ⟨hi, rfl⟩ := List.getElem?_eq_some_iff.1 h
    simp [hi]
  · simp [hij]

end Places

/-- Two ways to cut a list: the second one cuts either part of the first. -/
theorem append_eq_append_cons {as bs cs ds : List α} {x : α} (h : as ++ bs = cs ++ x :: ds) :
    (∃ cs', cs = as ++ cs' ∧ bs = cs' ++ x :: ds) ∨
      ∃ ds', as = cs ++ x :: ds' ∧ ds = ds' ++ bs := by
  rcases List.append_eq_append_iff.1 h with ⟨cs', rfl, hbs⟩ | ⟨ds', rfl, hds⟩
  · exact .inl ⟨cs', rfl, hbs⟩
  · rcases List.cons_eq_append_iff.1 hds with ⟨rfl, hbs⟩ | ⟨ds', rfl, rfl⟩
    · exact .inl ⟨[], by simp, hbs⟩
    · exact .inr ⟨ds', rfl, rfl⟩

/-- What a filter leaves unread makes no difference to what is added. -/
theorem append_filter {f : List α → β} {p : α → Bool} (hf : ∀ h, f (h.filter p) = f h)
    (es h : List α) : f (es ++ h.filter p) = f (es ++ h) := by
  rw [← hf, ← hf (es ++ h)]
  simp

theorem dropWhile_append_of_all {p : α → Bool} {a t : List α} (ha : ∀ x ∈ a, p x)
    (ht : ∀ x ∈ t.head?, ¬ p x) : (a ++ t).dropWhile p = t := by
  rw [List.dropWhile_append_of_pos ha]
  cases t with
  | nil => rfl
  | cons x t => rw [List.dropWhile_cons_of_neg (ht x rfl)]

/-- Where a relation is transitive, only the last element counts for one that is added. -/
theorem pairwise_concat_of_getLast {R : α → α → Prop} (htrans : ∀ {a b c}, R a b → R b c → R a c)
    {l : List α} {x : α} (h : l.Pairwise R) (hx : ∀ y, l.getLast? = some y → R y x) :
    (l ++ [x]).Pairwise R := by
  refine List.pairwise_append.2 ⟨h, List.pairwise_singleton _ _, fun a ha b hb => ?_⟩
  rw [List.mem_singleton.1 hb]
  rcases List.eq_nil_or_concat l with rfl | ⟨init, y, rfl⟩
  · cases ha
  simp only [List.concat_eq_append] at h hx ha
  have hlast := hx y List.getLast?_concat
  rcases List.mem_append.1 ha with ha | ha
  · exact htrans ((List.pairwise_append.1 h).2.2 a ha y (by simp)) hlast
  · rw [List.mem_singleton.1 ha]
    exact hlast

end SessionKeeper
