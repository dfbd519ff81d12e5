import SessionKeeper.Text.Blank
import SessionKeeper.Text.Number
import SessionKeeper.Proofs.Lists

/-!
# Texts trimmed and read as numbers

A trimmed text stands between blanks in the text and has none at its own ends, and no other text
does (`trim_eq_iff`). A number is read from a text exactly if digits write it there, after at most
one plus sign, and it does not pass the limit (`readUpTo_eq_some_iff`). The limit is one on the
number, so there may be any number of leading zeros.
-/

namespace SessionKeeper.Text

variable {s t : String} {n limit : Nat}

section Trimming

/-- A trimmed text is what stands between blanks and neither begins nor ends with one. -/
theorem trim_eq_iff : trim s = t ↔
    (∃ a b, s.toList = a ++ t.toList ++ b ∧ (∀ c ∈ a, isBlank c) ∧ ∀ c ∈ b, isBlank c)
      ∧ (∀ c ∈ t.toList.head?, ¬ isBlank c) ∧ ∀ c ∈ t.toList.getLast?, ¬ isBlank c := by
  constructor
  · rintro rfl
    rw [trim, String.toList_ofList]
    set r := s.toList.dropWhile isBlank
    have hr : dropEndWhile isBlank r ++ r.rtakeWhile isBlank = r :=
      List.rdropWhile_append_rtakeWhile ..
    refine ⟨⟨s.toList.takeWhile isBlank, r.rtakeWhile isBlank, ?_, ?_, ?_⟩, ?_, ?_⟩
    · rw [List.append_assoc, hr, List.takeWhile_append_dropWhile]
    · exact fun c hc => List.mem_takeWhile_imp hc
    · exact fun c hc => List.mem_rtakeWhile_imp hc
    · intro c hc
      have hrc : r.head? = some c := by
        rw [← hr, List.head?_append, Option.mem_def.1 hc, Option.some_or]
      have hn := List.head?_dropWhile_not isBlank s.toList
      rw [show (s.toList.dropWhile isBlank).head? = some c from hrc] at hn
      simpa using hn
    · intro c hc
      obtain ⟨hne, rfl⟩ := List.mem_getLast?_eq_getLast hc
      exact List.rdropWhile_last_not isBlank r hne
  · rintro ⟨⟨a, b, hs, ha, hb⟩, hf, hl⟩
    rw [trim, hs, ← String.toList_inj, String.toList_ofList]
    by_cases ht : t.toList = []
    · have hab : ∀ c ∈ a ++ b, isBlank c := List.forall_mem_append.2 ⟨ha, hb⟩
      rw [ht, List.append_nil, List.dropWhile_eq_nil_iff.2 hab]
      rfl
    · have htb : ∀ c ∈ (t.toList ++ b).head?, ¬ isBlank c := by
        rwa [List.head?_append_of_ne_nil _ ht]
      rw [List.append_assoc, dropWhile_append_of_all ha htb, dropEndWhile_append_of_all hb,
        dropEndWhile_eq_self hl]

theorem allBlank_iff : allBlank s ↔ trim s = "" := by
  rw [trim_eq_iff]
  constructor
  · intro h
    exact ⟨⟨s.toList, [], by simp, by simpa [allBlank] using h, by simp⟩, by simp, by simp⟩
  · rintro ⟨⟨a, b, hs, ha, hb⟩, -, -⟩
    simp only [String.toList_empty, List.append_nil] at hs
    rw [allBlank, hs, List.all_append, Bool.and_eq_true, List.all_eq_true, List.all_eq_true]
    exact ⟨ha, hb⟩

end Trimming

section Numbers

/-- Digits write a number in a text, at least one, after at most one plus sign. -/
def Writes (n : Nat) (s : String) : Prop :=
  ∃ digits : List Char, digits ≠ [] ∧ (∀ c ∈ digits, c.isDigit)
    ∧ (s.toList = digits ∨ s.toList = '+' :: digits) ∧ Nat.ofDigitChars 10 digits 0 = n

theorem digitsFrom_eq_some_iff {m : Nat} : ∀ {n : Nat} {l : List Char},
    digitsFrom n l = some m ↔ (∀ c ∈ l, c.isDigit) ∧ Nat.ofDigitChars 10 l n = m
  | n, [] => by simp [digitsFrom]
  | n, c :: l => by
    rw [digitsFrom]
    split
    · rename_i hc
      rw [digitsFrom_eq_some_iff, Nat.ofDigitChars_cons, List.forall_mem_cons]
      simp [hc]
    · rename_i hc
      simp [hc]

theorem digits?_eq_some_iff {l : List Char} :
    digits? l = some n ↔ l ≠ [] ∧ (∀ c ∈ l, c.isDigit) ∧ Nat.ofDigitChars 10 l 0 = n := by
  cases l with
  | nil => simp [digits?]
  | cons c l => rw [digits?, digitsFrom_eq_some_iff]; simp

theorem readUpTo_eq_some_iff : readUpTo limit s = some n ↔ Writes n s ∧ n ≤ limit := by
  simp only [readUpTo, Option.filter_eq_some_iff, decide_eq_true_eq, and_congr_left_iff]
  intro _
  split
  · rename_i r hr
    rw [digits?_eq_some_iff, Writes, hr]
    constructor
    · rintro ⟨hne, hd, hn⟩
      exact ⟨r, hne, hd, .inr rfl, hn⟩
    · rintro ⟨digits, hne, hd, h | h, hn⟩
      · -- the sign is no digit
        have hp := hd '+' (h ▸ List.mem_cons_self)
        simp at hp
      · cases h
        exact ⟨hne, hd, hn⟩
  · rename_i hr
    rw [digits?_eq_some_iff, Writes]
    constructor
    · rintro ⟨hne, hd, hn⟩
      exact ⟨s.toList, hne, hd, .inl rfl, hn⟩
    · rintro ⟨digits, hne, hd, h | h, hn⟩
      · exact ⟨h ▸ hne, h ▸ hd, h ▸ hn⟩
      · exact absurd h (hr digits)

theorem readPort_eq_some_iff {p : UInt16} : readPort s = some p ↔ Writes p.toNat s := by
  rw [readPort, Option.map_eq_some_iff]
  constructor
  · rintro ⟨n, hn, rfl⟩
    obtain ⟨hw, hle⟩ := readUpTo_eq_some_iff.1 hn
    rwa [UInt16.toNat_ofNat_of_lt' (by simpa using Nat.lt_succ_of_le hle)]
  · intro h
    have hlt := p.toNat_lt
    exact ⟨p.toNat, readUpTo_eq_some_iff.2 ⟨h, by omega⟩, UInt16.ofNat_toNat⟩

theorem readPort_eq_none_iff : readPort s = none ↔ ¬ ∃ n ≤ 65535, Writes n s := by
  rw [readPort, Option.map_eq_none_iff, Option.eq_none_iff_forall_ne_some]
  simp only [ne_eq, readUpTo_eq_some_iff]
  constructor
  · rintro h ⟨n, hle, hw⟩
    exact h n ⟨hw, hle⟩
  · rintro h n ⟨hw, hle⟩
    exact h ⟨n, hle, hw⟩

end Numbers

end SessionKeeper.Text
