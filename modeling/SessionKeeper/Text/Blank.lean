/-!
# Blank characters

The characters with the Unicode property `White_Space`, and the trimming of texts by it.
-/

namespace SessionKeeper.Text

/-- The characters with the property `White_Space`. -/
def isBlank (c : Char) : Bool :=
  let n := c.toNat
  (9 ≤ n && n ≤ 13) || n == 0x20 || n == 0x85 || n == 0xA0 || n == 0x1680
    || (0x2000 ≤ n && n ≤ 0x200A) || n == 0x2028 || n == 0x2029 || n == 0x202F || n == 0x205F
    || n == 0x3000

/-- A list without the elements that satisfy `p` at its end. -/
def dropEndWhile {α : Type} (p : α → Bool) (s : List α) : List α :=
  (s.reverse.dropWhile p).reverse

/-- A text without the blanks at its two ends. -/
def trim (s : String) : String :=
  String.ofList (dropEndWhile isBlank (s.toList.dropWhile isBlank))

/-- Whether a text holds nothing but blanks. -/
def allBlank (s : String) : Bool :=
  s.toList.all isBlank

theorem dropEndWhile_append_of_all {α : Type} {p : α → Bool} {s t : List α}
    (h : ∀ x ∈ t, p x) : dropEndWhile p (s ++ t) = dropEndWhile p s := by
  simp only [dropEndWhile, List.reverse_append, List.reverse_inj]
  rw [List.dropWhile_append_of_pos (by simpa using h)]

theorem dropEndWhile_eq_self {α : Type} {p : α → Bool} {s : List α}
    (h : ∀ x ∈ s.getLast?, ¬ p x) : dropEndWhile p s = s := by
  rcases List.eq_nil_or_concat s with rfl | ⟨r, x, rfl⟩
  · rfl
  · have hx : ¬ p x := h x (by simp)
    simp [dropEndWhile, hx]

end SessionKeeper.Text
