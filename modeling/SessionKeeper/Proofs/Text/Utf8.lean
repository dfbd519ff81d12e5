import SessionKeeper.Text.Utf8
import Mathlib

/-!
# Texts survive their bytes

The bytes of a text are those of its characters one after another (`encode_eq`). The bytes of a
character are read as that character whatever follows them (`next_encodeChar`), so a text is read
back from its bytes with no replacement (`decodeLossy_encode`). A byte below 128 is a character of
its own and stands in no other, and whatever bytes are read, the character of such a byte comes of
that byte only (`mem_of_mem_decodeLossy`).
-/

namespace SessionKeeper.Text.Utf8

section Bytes

theorem toList_loop (a : ByteArray) (i : Nat) (r : List UInt8) :
    ByteArray.toList.loop a i r = r.reverse ++ a.data.toList.drop i := by
  fun_induction ByteArray.toList.loop a i r with
  | case1 i r h ih =>
    have hd : a.data.toList.drop i = a.get! i :: a.data.toList.drop (i + 1) := by
      rw [List.drop_eq_getElem_cons (by simpa using h)]
      simp [ByteArray.get!, h]
    rw [ih, hd]
    simp
  | case2 i r h =>
    rw [List.drop_eq_nil_of_le (by simpa using h), List.append_nil]

theorem encode_eq (s : String) : encode s = s.toList.flatMap String.utf8EncodeChar := by
  rw [encode, ByteArray.toList, toList_loop, String.toUTF8_eq_toByteArray,
    ← String.utf8Encode_toList, List.utf8Encode]
  simp

end Bytes

section Characters

theorem width_one : ∀ m < 0x80, width (UInt8.ofNat m) = some 1 ∧ (UInt8.ofNat m).toNat = m := by
  decide

theorem width_two : ∀ m < 0x20, 2 ≤ m →
    width (UInt8.ofNat (m + 0xC0)) = some 2 ∧ (UInt8.ofNat (m + 0xC0)).toNat % 32 = m := by
  decide

theorem width_three : ∀ m < 0x10,
    width (UInt8.ofNat (m + 0xE0)) = some 3 ∧ (UInt8.ofNat (m + 0xE0)).toNat % 16 = m := by
  decide

theorem width_four : ∀ m < 5,
    width (UInt8.ofNat (m + 0xF0)) = some 4 ∧ (UInt8.ofNat (m + 0xF0)).toNat % 8 = m := by
  decide

theorem isNext_ofNat : ∀ m < 0x40,
    isNext (UInt8.ofNat (m + 0x80)) ∧ low (UInt8.ofNat (m + 0x80)) = m := by
  decide

/-- The second of three bytes tells what needs them from what is shorter and from surrogates. -/
theorem second_three : ∀ m < 0x10, ∀ n < 0x40, (m = 0 → 0x20 ≤ n) → (m = 13 → n < 0x20) →
    (second (UInt8.ofNat (m + 0xE0))).1 ≤ UInt8.ofNat (n + 0x80)
      ∧ UInt8.ofNat (n + 0x80) ≤ (second (UInt8.ofNat (m + 0xE0))).2 := by
  decide +kernel

/-- The second of four bytes tells what needs them from what is shorter and from what is beyond. -/
theorem second_four : ∀ m < 5, ∀ n < 0x40, (m = 0 → 0x10 ≤ n) → (m = 4 → n < 0x10) →
    (second (UInt8.ofNat (m + 0xF0))).1 ≤ UInt8.ofNat (n + 0x80)
      ∧ UInt8.ofNat (n + 0x80) ≤ (second (UInt8.ofNat (m + 0xF0))).2 := by
  decide +kernel

theorem toNat_cases (c : Char) : c.toNat < 0xD800 ∨ 0xDFFF < c.toNat ∧ c.toNat < 0x110000 := by
  have := c.valid
  simpa [UInt32.isValidChar, Nat.isValidChar] using this

/-- The bytes of a character are read as that character, whatever follows them. -/
theorem next_encodeChar (c : Char) (r : List UInt8) :
    ∃ b bs, String.utf8EncodeChar c = b :: bs ∧ next b (bs ++ r) = (.char c, r) := by
  have hc := toNat_cases c
  have hof : ∀ n, n = c.toNat → Char.ofNat n = c := fun n h => by rw [h, Char.ofNat_toNat]
  -- one case for each number of bytes; the bits that they carry make up the character again
  unfold String.utf8EncodeChar
  simp only [show c.val.toNat = c.toNat from rfl]
  generalize c.toNat = v at hc hof ⊢
  split_ifs with h1 h2 h3
  · obtain ⟨hw, hb⟩ := width_one v (by omega)
    refine ⟨_, _, rfl, ?_⟩
    simp [next, hw, hb, hof]
  · have hm : v / 64 % 32 = v / 64 := by omega
    obtain ⟨hw, hb⟩ := width_two (v / 64) (by omega) (by omega)
    obtain ⟨hn, hl⟩ := isNext_ofNat (v % 64) (by omega)
    refine ⟨_, _, rfl, ?_⟩
    rw [hm]
    simp only [next, hw, List.cons_append, List.nil_append, hn, if_true, hb, hl]
    rw [hof _ (by omega)]
  · have hm : v / 4096 % 16 = v / 4096 := by omega
    obtain ⟨hw, hb⟩ := width_three (v / 4096) (by omega)
    obtain ⟨hs, hs'⟩ :=
      second_three (v / 4096) (by omega) (v / 64 % 64) (by omega) (by omega) (by omega)
    obtain ⟨-, hl⟩ := isNext_ofNat (v / 64 % 64) (by omega)
    obtain ⟨hn, hl'⟩ := isNext_ofNat (v % 64) (by omega)
    refine ⟨_, _, rfl, ?_⟩
    rw [hm]
    simp only [next, hw, List.cons_append, List.nil_append, hs, hs', decide_true, Bool.and_self,
      hn, if_true, hb, hl, hl']
    rw [hof _ (by omega)]
  · have hm : v / 262144 % 8 = v / 262144 := by omega
    obtain ⟨hw, hb⟩ := width_four (v / 262144) (by omega)
    obtain ⟨hs, hs'⟩ :=
      second_four (v / 262144) (by omega) (v / 4096 % 64) (by omega) (by omega) (by omega)
    obtain ⟨-, hl⟩ := isNext_ofNat (v / 4096 % 64) (by omega)
    obtain ⟨hn, hl'⟩ := isNext_ofNat (v / 64 % 64) (by omega)
    obtain ⟨hn', hl''⟩ := isNext_ofNat (v % 64) (by omega)
    refine ⟨_, _, rfl, ?_⟩
    rw [hm]
    simp only [next, hw, List.cons_append, List.nil_append, hs, hs', decide_true, Bool.and_self,
      hn, hn', if_true, hb, hl, hl', hl'']
    rw [hof _ (by omega)]

/-- A byte below 128 stands for itself. -/
theorem of_mem_encodeChar {c : Char} {b : UInt8} (h : b ∈ String.utf8EncodeChar c) (hb : b < 0x80) :
    c = Char.ofNat b.toNat := by
  have hn : b.toNat < 128 := by simpa [UInt8.lt_iff_toNat_lt] using hb
  rw [← Char.ofNat_toNat c]
  congr 1
  unfold String.utf8EncodeChar at h
  simp only [show c.val.toNat = c.toNat from rfl] at h
  generalize c.toNat = v at h ⊢
  split_ifs at h <;>
    · simp only [List.mem_cons, List.not_mem_nil, or_false] at h
      rcases h with rfl | rfl | rfl | rfl <;> simp at hn ⊢ <;> omega

end Characters

section Texts

theorem piecesFrom_encode (seen : List Piece) : ∀ cs : List Char,
    piecesFrom seen (cs.flatMap String.utf8EncodeChar) = seen.reverse ++ cs.map .char
  | [] => by simp [piecesFrom]
  | c :: cs => by
    obtain ⟨b, bs, hb, hn⟩ := next_encodeChar c (cs.flatMap String.utf8EncodeChar)
    rw [List.flatMap_cons, hb, List.cons_append, piecesFrom, hn, piecesFrom_encode]
    simp

theorem pieces_encode (s : String) : pieces (encode s) = s.toList.map .char := by
  rw [pieces, encode_eq, piecesFrom_encode, List.reverse_nil, List.nil_append]

theorem decodeLossy_encode (s : String) : decodeLossy (encode s) = s := by
  rw [decodeLossy, pieces_encode, List.map_map]
  exact (congrArg String.ofList (List.map_id'' (fun _ => rfl) _)).trans String.ofList_toList

theorem firstFault_chars (place : Nat) : ∀ cs : List Char, firstFault place (cs.map .char) = none
  | [] => rfl
  | c :: cs => firstFault_chars (place + c.utf8Size) cs

theorem decode_encode (s : String) : decode (encode s) = .ok s := by
  rw [decode, pieces_encode, firstFault_chars]
  simp [List.filterMap_map, Function.comp_def, Piece.char?]

theorem decode?_encode (s : String) : decode? (encode s) = some s := by
  rw [decode?, decode_encode]
  rfl

/-- The bytes of a text have a byte below 128 only where the text has its character. -/
theorem mem_of_mem_encode {s : String} {b : UInt8} (h : b ∈ encode s) (hb : b < 0x80) :
    Char.ofNat b.toNat ∈ s.toList := by
  rw [encode_eq, List.mem_flatMap] at h
  obtain ⟨c, hc, h⟩ := h
  rwa [← of_mem_encodeChar h hb]

end Texts

section Reading

theorem toNat_ofNat {n : Nat} (h : 0 < (Char.ofNat n).toNat) : (Char.ofNat n).toNat = n := by
  unfold Char.ofNat at h ⊢
  split at h <;> rename_i hn
  · rw [dif_pos hn]
    rfl
  · cases h

/-- The number of bytes of a character is told by the range that its first byte is in. -/
theorem of_width {b : UInt8} {n : Nat} (h : width b = some n) :
    n = 1 ∧ b.toNat < 0x80 ∨ n = 2 ∧ 0xC2 ≤ b.toNat ∧ b.toNat ≤ 0xDF ∨
      n = 3 ∧ 0xE0 ≤ b.toNat ∧ b.toNat ≤ 0xEF ∨ n = 4 ∧ 0xF0 ≤ b.toNat ∧ b.toNat ≤ 0xF4 := by
  unfold width at h
  simp only [Bool.and_eq_true, decide_eq_true_eq, UInt8.lt_iff_toNat_lt, UInt8.le_iff_toNat_le] at h
  split_ifs at h with h1 h2 h3 h4 <;> cases h
  · exact .inl ⟨rfl, h1⟩
  · exact .inr (.inl ⟨rfl, h2⟩)
  · exact .inr (.inr (.inl ⟨rfl, h3⟩))
  · exact .inr (.inr (.inr ⟨rfl, h4⟩))

/-- A second byte that goes on with a first one, and tells what needs both from what is shorter. -/
theorem of_second {b c : UInt8} (h : ((second b).1 ≤ c && c ≤ (second b).2) = true) :
    0x80 ≤ c.toNat ∧ c.toNat ≤ 0xBF ∧ (b.toNat = 0xE0 → 0xA0 ≤ c.toNat) ∧
      (b.toNat = 0xF0 → 0x90 ≤ c.toNat) := by
  unfold second at h
  simp only [Bool.and_eq_true, decide_eq_true_eq, UInt8.le_iff_toNat_le, beq_iff_eq,
    ← UInt8.toNat_inj, UInt8.reduceToNat] at h
  split_ifs at h <;> simp only [UInt8.reduceToNat] at h <;> omega

/-- What is read of more than one byte is beyond the characters of one byte. -/
theorem next_char {b : UInt8} {r r' : List UInt8} {c : Char} (h : next b r = (.char c, r'))
    (h0 : 0 < c.toNat) (hc : c.toNat < 0x80) : c.toNat = b.toNat := by
  -- one case for each number of bytes; the first two of several carry a number of at least 128
  unfold next at h
  split at h
  · cases h
    exact toNat_ofNat h0
  · rename_i hw
    have hb := of_width hw
    repeat' split at h
    all_goals cases h
    rw [toNat_ofNat h0] at hc
    omega
  · rename_i hw
    have hb := of_width hw
    repeat' split at h
    all_goals cases h
    have hs := of_second ‹_›
    rw [toNat_ofNat h0] at hc
    unfold low at hc
    omega
  · rename_i n h1 h2 h3 hw
    have hb : 0xF0 ≤ b.toNat ∧ b.toNat ≤ 0xF4 := by
      rcases of_width hw with ⟨hn, -⟩ | ⟨hn, -⟩ | ⟨hn, -⟩ | ⟨-, hb⟩
      · exact absurd hn h1
      · exact absurd hn h2
      · exact absurd hn h3
      · exact hb
    repeat' split at h
    all_goals cases h
    have hs := of_second ‹_›
    rw [toNat_ofNat h0] at hc
    unfold low at hc
    omega
  · cases h

theorem next_suffix (b : UInt8) (r : List UInt8) : (next b r).2 <:+ r := by
  unfold next
  repeat' split
  all_goals simp [List.suffix_cons_iff]

theorem mem_piecesFrom {p : Piece} {s : List UInt8} {seen : List Piece}
    (h : p ∈ piecesFrom seen s) : p ∈ seen ∨ ∃ b r, b :: r <:+ s ∧ (next b r).1 = p := by
  fun_induction piecesFrom seen s with
  | case1 seen => exact .inl (List.mem_reverse.1 h)
  | case2 seen b r ih =>
    rcases ih h with h | ⟨b', r', hs, hp⟩
    · rcases List.mem_cons.1 h with rfl | h
      · exact .inr ⟨b, r, List.suffix_refl _, rfl⟩
      · exact .inl h
    · exact .inr ⟨b', r', hs.trans ((next_suffix b r).trans (List.suffix_cons b r)), hp⟩

theorem mem_of_char_mem_pieces {c : Char} {s : List UInt8} (h : .char c ∈ pieces s)
    (h0 : 0 < c.toNat) (hc : c.toNat < 0x80) : UInt8.ofNat c.toNat ∈ s := by
  obtain h | ⟨b, r, hs, hp⟩ := mem_piecesFrom h
  · cases h
  · rw [next_char (Prod.ext hp rfl) h0 hc, UInt8.ofNat_toNat]
    exact hs.subset List.mem_cons_self

/-- A character of one byte is read only where its byte is. -/
theorem mem_of_mem_decodeLossy {c : Char} {s : List UInt8} (h : c ∈ (decodeLossy s).toList)
    (h0 : 0 < c.toNat) (hc : c.toNat < 0x80) : UInt8.ofNat c.toNat ∈ s := by
  rw [decodeLossy, String.toList_ofList, List.mem_map] at h
  obtain ⟨p, hp, rfl⟩ := h
  cases p with
  | char c => exact mem_of_char_mem_pieces hp h0 hc
  | _ => simp [Piece.char?] at hc

end Reading

end SessionKeeper.Text.Utf8
