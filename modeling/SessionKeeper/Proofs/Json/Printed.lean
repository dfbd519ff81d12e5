import SessionKeeper.Json.Printer
import SessionKeeper.Json.Reader
import Mathlib

/-!
# What is printed is read

A printed text or table is read as a value wherever a value may stand (`Reads`); a number has no
end of its own and is read where a comma or the end of its table follows (`ReadsWithin`). A table is
read if its fields are (`reads_table`), and a text that is read as one value decodes to what a typed
reader makes of it (`decode_of_reads`). Nothing that is printed holds a control character.
-/

namespace SessionKeeper.Json

/-- A reader after some characters, if it can take them. -/
def Reader.feed (r : Reader) (cs : List Char) : Option Reader := (cs.map some).foldlM Reader.step r

/-- Characters that a reader takes as a value wherever it expects one. -/
def Reads (cs : List Char) (d : Datum) : Prop :=
  ∀ r : Reader, r.mode = .between → r.expectsValue → r.feed cs = some (r.place d)

/-- Characters that a reader takes as a value if the table around it goes on or ends. -/
def ReadsWithin (cs : List Char) (d : Datum) : Prop :=
  ∀ (r : Reader) (c : Char), r.mode = .between → r.expectsValue → c = ',' ∨ c = Char.ofNat 0x7D →
    r.feed (cs ++ [c]) = (r.place d).stepBetween c

/-- Characters none of which is a control. -/
def Plain (cs : List Char) : Prop := ∀ c ∈ cs, 0x20 ≤ c.toNat

section Feeding

variable {r : Reader} {c : Char} {cs ds : List Char} {d : Datum}

theorem Reader.feed_nil : r.feed [] = some r := rfl

theorem Reader.feed_cons : r.feed (c :: cs) = (r.step (some c)).bind (·.feed cs) := rfl

theorem Reader.feed_append : r.feed (cs ++ ds) = (r.feed cs).bind (·.feed ds) := by
  simp only [Reader.feed, List.map_append, List.foldlM_append]
  rfl

theorem Reader.step_between (h : r.mode = .between) : r.step (some c) = r.stepBetween c := by
  simp [Reader.step, h]

@[simp]
theorem Reader.place_mode : (r.place d).mode = .between := by
  unfold Reader.place
  split <;> rfl

/-- A value that is placed after a part of it has been read stands where the part began. -/
theorem Reader.place_of_stack {r' : Reader} (hs : r'.stack = r.stack) (he : r'.result = r.result) :
    r'.place d = r.place d := by
  rcases r with ⟨m, e, s, v⟩
  rcases r' with ⟨m', e', s', v'⟩
  subst hs he
  rcases s' with _ | ⟨_ | _, s'⟩ <;> rfl

theorem Reads.within (h : Reads cs d) : ReadsWithin cs d := by
  intro r c hb hv _
  rw [Reader.feed_append, h r hb hv]
  simp [Reader.feed_cons, Reader.step_between, Reader.feed_nil]

end Feeding

section Texts

variable {r : Reader} {s : String}

theorem hexValue_hexDigit : ∀ n < 16, Text.hexValue (Text.hexDigit n) = some n := by
  decide

theorem hexDigit_plain : ∀ n < 16, 0x20 ≤ (Text.hexDigit n).toNat := by
  decide

/-- A character stands for itself, or a letter or four digits stand for it. -/
theorem escape_cases (c : Char) :
    (escape c = [c] ∧ c ≠ '"' ∧ c ≠ '\\' ∧ 0x20 ≤ c.toNat)
      ∨ (∃ x, escape c = ['\\', x] ∧ x ≠ 'u' ∧ 0x20 ≤ x.toNat ∧ Reader.escaped x = some c)
      ∨ (escape c
          = ['\\', 'u', '0', '0', Text.hexDigit (c.toNat / 16), Text.hexDigit (c.toNat % 16)]
        ∧ c.toNat < 0x20) := by
  have hof : ∀ n, c.toNat = n → c = Char.ofNat n := fun n h => by rw [← h, Char.ofNat_toNat]
  unfold escape
  split_ifs with hq hb h8 h9 h10 h12 h13 hl
  · exact .inr (.inl ⟨'"', rfl, by decide, by decide, by simp [beq_iff_eq.1 hq, Reader.escaped]⟩)
  · exact .inr (.inl ⟨'\\', rfl, by decide, by decide, by simp [beq_iff_eq.1 hb, Reader.escaped]⟩)
  · exact .inr (.inl ⟨'b', rfl, by decide, by decide,
      by simp [hof 8 (beq_iff_eq.1 h8), Reader.escaped]⟩)
  · exact .inr (.inl ⟨'t', rfl, by decide, by decide,
      by simp [hof 9 (beq_iff_eq.1 h9), Reader.escaped]⟩)
  · exact .inr (.inl ⟨'n', rfl, by decide, by decide,
      by simp [hof 10 (beq_iff_eq.1 h10), Reader.escaped]⟩)
  · exact .inr (.inl ⟨'f', rfl, by decide, by decide,
      by simp [hof 12 (beq_iff_eq.1 h12), Reader.escaped]⟩)
  · exact .inr (.inl ⟨'r', rfl, by decide, by decide,
      by simp [hof 13 (beq_iff_eq.1 h13), Reader.escaped]⟩)
  · exact .inr (.inr ⟨rfl, hl⟩)
  · exact .inl ⟨rfl, by simpa using hq, by simpa using hb, by omega⟩

/-- An escaped character is read as one piece, and that piece stands for it. -/
theorem feed_escape (c : Char) : ∃ p : Piece,
    (∀ ps, assemble (p :: ps) = (assemble ps).map (c :: ·))
      ∧ ∀ (r : Reader) (ps : List Piece), Reader.feed { r with mode := .text ps } (escape c)
          = some { r with mode := .text (p :: ps) } := by
  rcases escape_cases c with ⟨he, hq, hb, hc⟩ | ⟨x, he, hu, -, hx⟩ | ⟨he, hc⟩
  · refine ⟨.char c, fun ps => rfl, fun r ps => ?_⟩
    simp [he, Reader.feed_cons, Reader.feed_nil, Reader.step, hq, hb,
      show ¬ c.toNat < 0x20 by omega]
  · refine ⟨.char c, fun ps => rfl, fun r ps => ?_⟩
    simp [he, Reader.feed_cons, Reader.feed_nil, Reader.step, hu, hx]
  · refine ⟨.unit c.toNat, fun ps => ?_, fun r ps => ?_⟩
    · have : ¬ 0xD800 ≤ c.toNat := by omega
      have : ¬ 0xDC00 ≤ c.toNat := by omega
      rw [assemble.eq_def]
      simp [*]
    · have h0 : Text.hexValue '0' = some 0 := by decide
      have h1 := hexValue_hexDigit (c.toNat / 16) (by omega)
      have h2 := hexValue_hexDigit (c.toNat % 16) (by omega)
      have : 16 * (c.toNat / 16) + c.toNat % 16 = c.toNat := by omega
      simp [he, Reader.feed_cons, Reader.feed_nil, Reader.step, h0, h1, h2, this]

/-- An escaped text is read as pieces that make it up again. -/
theorem feed_escaped : ∀ cs : List Char, ∃ qs : List Piece, assemble qs = some cs
    ∧ ∀ (r : Reader) (ps : List Piece), Reader.feed { r with mode := .text ps } (cs.flatMap escape)
        = some { r with mode := .text (qs.reverse ++ ps) }
  | [] => ⟨[], rfl, fun _ _ => rfl⟩
  | c :: cs => by
    obtain ⟨p, hp, hf⟩ := feed_escape c
    obtain ⟨qs, hq, hr⟩ := feed_escaped cs
    refine ⟨p :: qs, by rw [hp, hq]; rfl, fun r ps => ?_⟩
    rw [List.flatMap_cons, Reader.feed_append, hf, Option.bind_some, hr]
    simp

/-- After a printed text a reader has put that text where it belongs. -/
theorem feed_printText {r : Reader} (hb : r.mode = .between)
    (hv : r.expectsValue ∨ r.expectsKey) (s : String) :
    ∃ ps, assemble ps.reverse = some s.toList ∧ r.feed (printText s) = some (r.placeText ps) := by
  obtain ⟨qs, hq, hf⟩ := feed_escaped s.toList
  refine ⟨qs.reverse, by simpa using hq, ?_⟩
  have ho : r.step (some '"') = some { r with mode := .text [] } := by
    rcases hv with hv | hv <;> simp [Reader.step_between hb, Reader.stepBetween, hv]
  rw [printText, List.cons_append, Reader.feed_cons, ho, Option.bind_some, Reader.feed_append, hf]
  simp [Reader.feed_cons, Reader.feed_nil, Reader.step, Reader.placeText, Reader.place]

theorem reads_text (s : String) : Reads (printText s) (.text s) := by
  intro r hb hv
  obtain ⟨ps, hp, hf⟩ := feed_printText hb (.inl hv) s
  rw [hf, Reader.placeText, hp]
  rcases r with ⟨m, e, st, d⟩
  cases e <;> simp_all [Reader.expectsValue]

end Texts

section Numbers

theorem feed_digits (t : NumberText) (r : Reader) : ∀ cs : List Char, (∀ c ∈ cs, c.isDigit) →
    Reader.feed { r with mode := .number t .whole } cs
      = some { r with mode := .number { t with whole := cs.reverse ++ t.whole } .whole }
  | [], _ => rfl
  | c :: cs, h => by
    have hc : c.isDigit := h c (by simp)
    have hs : Reader.step { r with mode := .number t .whole } (some c)
        = some { r with mode := .number { t with whole := c :: t.whole } .whole } := by
      simp [Reader.step, Reader.numberStep, hc]
    rw [Reader.feed_cons, hs, Option.bind_some, feed_digits _ r cs fun x hx => h x (by simp [hx])]
    simp

theorem datum_of_digits {n : Nat} (h : n ≤ wordMax) :
    NumberText.datum { whole := (Nat.toDigits 10 n).reverse } = .int n := by
  have hn : (Nat.toDigits 10 n).foldl (fun n c => 10 * n + digitValue c) 0 = n := by
    rw [show (fun n c => 10 * n + digitValue c)
        = fun n c => 10 * n + (c.toNat - '0'.toNat) from rfl,
      ← Nat.ofDigitChars_eq_foldl, Nat.ofDigitChars_ten_toDigits]
  simp [NumberText.datum, hn, h]

/-- The digits of a number begin with a zero only if it is zero. -/
theorem head_toDigits {n : Nat} (h : 0 < n) : (Nat.toDigits 10 n).head? ≠ some '0' := by
  induction n using Nat.strong_induction_on with
  | _ n ih =>
    rcases Nat.lt_or_ge n 10 with hn | hn
    · rw [Nat.toDigits_of_lt_base hn]
      interval_cases n <;> decide
    · rw [Nat.toDigits_of_base_le (by decide) hn, List.head?_append_of_ne_nil _ Nat.toDigits_ne_nil]
      exact ih (n / 10) (by omega) (by omega)

theorem stepBetween_digit {r : Reader} {c : Char} (hv : r.expectsValue) (hd : c.isDigit) :
    r.stepBetween c
      = some { r with mode := .number { whole := [c] } (if c = '0' then .zero else .whole) } := by
  obtain ⟨hl, hu⟩ : 48 ≤ c.toNat ∧ c.toNat ≤ 57 := Char.isDigit_iff_toNat.1 hd
  obtain ⟨n, hn⟩ : ∃ n, c.toNat = n := ⟨_, rfl⟩
  obtain rfl : c = Char.ofNat n := by rw [← hn, Char.ofNat_toNat]
  rw [hn] at hl hu
  clear hn hd
  -- the reader looks for other characters first, so each digit has to pass those looks
  interval_cases n <;> simp [Reader.stepBetween, hv]

theorem step_number {r : Reader} {t : NumberText} {p : NumberPlace} {c : Char}
    (hp : p = .zero ∨ p = .whole) (hc : c = ',' ∨ c = Char.ofNat 0x7D) :
    Reader.step { r with mode := .number t p } (some c) = (r.place t.datum).stepBetween c := by
  have hr : Reader.place t.datum { r with mode := .number t p } = r.place t.datum :=
    Reader.place_of_stack rfl rfl
  rcases hp with rfl | rfl <;> rcases hc with rfl | rfl <;>
    simp [Reader.step, Reader.numberStep, Reader.numberStep.afterWhole, Reader.numberComplete, hr]

/-- A printed number ends where what follows it stands, which finds the number in its place. -/
theorem reads_nat {n : Nat} (h : n ≤ wordMax) : ReadsWithin (printNat n) (.int n) := by
  intro r c hb hv hc
  obtain ⟨p, hp, hf⟩ : ∃ p, (p = NumberPlace.zero ∨ p = .whole) ∧ r.feed (printNat n)
      = some { r with mode := .number { whole := (Nat.toDigits 10 n).reverse } p } := by
    have hd : ∀ c ∈ Nat.toDigits 10 n, c.isDigit := fun c hc =>
      Nat.isDigit_of_mem_toDigits (by decide) (by decide) hc
    -- a zero ends the digits of its number, so the two cases end in different modes
    rcases Nat.eq_zero_or_pos n with rfl | hn
    · refine ⟨.zero, .inl rfl, ?_⟩
      rw [printNat, Nat.toDigits_zero, Reader.feed_cons, Reader.step_between hb,
        stepBetween_digit hv (by decide)]
      rfl
    · refine ⟨.whole, .inr rfl, ?_⟩
      have h0 := head_toDigits hn
      rw [printNat]
      rcases hl : Nat.toDigits 10 n with _ | ⟨d, ds⟩
      · exact absurd hl Nat.toDigits_ne_nil
      · rw [hl] at hd h0
        have hd0 : d ≠ '0' := by simpa using h0
        rw [Reader.feed_cons, Reader.step_between hb, stepBetween_digit hv (hd d (by simp)),
          if_neg hd0, Option.bind_some, feed_digits _ r ds fun x hx => hd x (by simp [hx])]
        simp
  rw [Reader.feed_append, hf, Option.bind_some, Reader.feed_cons, step_number hp hc,
    datum_of_digits h]
  cases (r.place (.int n)).stepBetween c <;> rfl

end Numbers

section Tables

variable {r : Reader} {e : Expect} {k : Option String} {fields : List (String × List Char)}
  {entries old : List (String × Datum)} {n : String} {v : List Char} {d : Datum} {c : Char}

/-- A printed field and the entry that it is read as. -/
def Shows (f : String × List Char) (e : String × Datum) : Prop := f.1 = e.1 ∧ ReadsWithin f.2 e.2

/-- A reader inside a table of which it has read some entries. -/
def Reader.inTable (r : Reader) (e : Expect) (entries : List (String × Datum)) (k : Option String) :
    Reader :=
  { r with
    mode := .between
    expect := e
    stack := .table (entries.map fun x => (some x.1, x.2)).reverse k :: r.stack }

theorem tableOf_entries (entries : List (String × Datum)) :
    tableOf (entries.map fun x => (some x.1, x.2)).reverse = .table entries := by
  have : (entries.map fun x => (some x.1, x.2)).mapM
      (fun (x : Option String × Datum) => x.1.map (·, x.2)) = some entries := by
    induction entries with
    | nil => rfl
    | cons e entries ih => simp [ih]
  simp [tableOf, this]

theorem Reader.step_open (hb : r.mode = .between) (hv : r.expectsValue) :
    r.step (some (Char.ofNat 0x7B)) = some (r.inTable .keyOrEnd [] none) := by
  rw [Reader.step_between hb]
  simp [Reader.stepBetween, hv, Reader.inTable]

theorem Reader.stepBetween_close (he : e = .keyOrEnd ∨ e = .commaOrEnd) :
    (r.inTable e entries k).stepBetween (Char.ofNat 0x7D) = some (r.place (.table entries)) := by
  have hp : ∀ e : Expect, Reader.place (.table entries) { r with mode := .between, expect := e }
      = r.place (.table entries) := fun _ => place_of_stack rfl rfl
  rcases he with rfl | rfl <;>
    simp [Reader.stepBetween, Reader.inTable, tableOf_entries, hp]

theorem feed_key (he : e = .key ∨ e = .keyOrEnd) (n : String) :
    (r.inTable e entries k).feed (printText n) = some (r.inTable .colon entries (some n)) := by
  have hk : (r.inTable e entries k).expectsKey := by rcases he with rfl | rfl <;> rfl
  obtain ⟨ps, hp, hf⟩ := feed_printText rfl (.inr hk) n
  rw [hf, Reader.placeText, hp, Option.map_some, String.ofList_toList]
  rcases he with rfl | rfl <;> rfl

/-- A printed field is an entry more for what follows it. -/
theorem feed_field (hv : ReadsWithin v d) (he : e = .key ∨ e = .keyOrEnd)
    (hc : c = ',' ∨ c = Char.ofNat 0x7D) :
    (r.inTable e entries k).feed (printText n ++ ':' :: v ++ [c])
      = (r.inTable .commaOrEnd (entries ++ [(n, d)]) (some n)).stepBetween c := by
  have hp : (r.inTable .value entries (some n)).place d
      = r.inTable .commaOrEnd (entries ++ [(n, d)]) (some n) := by
    simp [Reader.place, Reader.inTable]
  rw [List.append_assoc, Reader.feed_append, feed_key he, Option.bind_some, List.cons_append,
    Reader.feed_cons, ← hp]
  exact hv (r.inTable .value entries (some n)) c rfl rfl hc

/-- Printed fields up to the end of their table add their entries to those read before. -/
theorem feed_fields (h : List.Forall₂ Shows fields entries) (hne : fields ≠ [])
    (he : e = .key ∨ e = .keyOrEnd) :
    (r.inTable e old k).feed (printFields fields ++ [Char.ofNat 0x7D])
      = some (r.place (.table (old ++ entries))) := by
  -- what follows a field is the comma before the next one or the end of the table
  induction h generalizing e old k with
  | nil => exact absurd rfl hne
  | @cons f x fields entries hf rest ih =>
    obtain ⟨n, v⟩ := f
    obtain ⟨n', d⟩ := x
    obtain ⟨rfl, hv⟩ := hf
    rcases fields with _ | ⟨g, fields⟩
    · obtain rfl := List.forall₂_nil_left_iff.1 rest
      rw [printFields, feed_field hv he (.inr rfl), Reader.stepBetween_close (.inr rfl)]
    · have hsplit : printFields ((n, v) :: g :: fields) ++ [Char.ofNat 0x7D]
          = printText n ++ ':' :: v ++ [',']
            ++ (printFields (g :: fields) ++ [Char.ofNat 0x7D]) := by
        simp [printFields]
      have hc : (r.inTable .commaOrEnd (old ++ [(n, d)]) (some n)).stepBetween ','
          = some (r.inTable .key (old ++ [(n, d)]) (some n)) := rfl
      rw [hsplit, Reader.feed_append, feed_field hv he (.inl rfl), hc, Option.bind_some,
        ih (by simp) (.inl rfl)]
      simp

theorem reads_table (h : List.Forall₂ Shows fields entries) :
    Reads (printTable fields) (.table entries) := by
  intro r hb hv
  rw [printTable, List.cons_append, Reader.feed_cons, Reader.step_open hb hv, Option.bind_some]
  rcases fields with _ | ⟨f, fields⟩
  · obtain rfl := List.forall₂_nil_left_iff.1 h
    rw [printFields, List.nil_append, Reader.feed_cons, Reader.step_between rfl,
      Reader.stepBetween_close (.inl rfl)]
    rfl
  · rw [feed_fields h (by simp) (.inr rfl), List.nil_append]

end Tables

section Values

@[simp]
theorem located_text {α : Type} (s : String) (read : Datum → Except Datum.Problem α) :
    (Datum.text s).located read = read (.text s) := rfl

@[simp]
theorem located_bool {α : Type} (b : Bool) (read : Datum → Except Datum.Problem α) :
    (Datum.bool b).located read = read (.bool b) := rfl

@[simp]
theorem located_int {α : Type} (n : Int) (read : Datum → Except Datum.Problem α) :
    (Datum.int n).located read = read (.int n) := rfl

@[simp]
theorem located_table {α : Type} (entries : List (String × Datum))
    (read : Datum → Except Datum.Problem α) :
    (Datum.table entries).located read = read (.table entries) := rfl

theorem reads_bool (b : Bool) : Reads (printBool b) (.bool b) := by
  intro r hb hv
  have hp : ∀ m : Mode, Reader.place (.bool b) { r with mode := m } = r.place (.bool b) :=
    fun _ => Reader.place_of_stack rfl rfl
  cases b <;>
    simp [printBool, Reader.feed_cons, Reader.feed_nil, Reader.step, hb, Reader.stepBetween, hv, hp]

theorem reads_uint16 (n : UInt16) : ReadsWithin (printNat n.toNat) (.int n.toNat) :=
  reads_nat (by have := n.toNat_lt; simp only [wordMax]; omega)

theorem reads_uint32 (n : UInt32) : ReadsWithin (printNat n.toNat) (.int n.toNat) :=
  reads_nat (by have := n.toNat_lt; simp only [wordMax]; omega)

theorem reads_uint64 (n : UInt64) : ReadsWithin (printNat n.toNat) (.int n.toNat) :=
  reads_nat (by have := n.toNat_lt; simp only [wordMax]; omega)

theorem asUInt16_int (n : UInt16) : Datum.asUInt16 (.int n.toNat) = .ok n := by
  have : n.toNat ≤ 65535 := by have := n.toNat_lt; omega
  simp [Datum.asUInt16, Datum.asNat, this, Except.map]

theorem asUInt32_int (n : UInt32) : Datum.asUInt32 (.int n.toNat) = .ok n := by
  have : n.toNat ≤ 4294967295 := by have := n.toNat_lt; omega
  simp [Datum.asUInt32, Datum.asNat, this, Except.map]

theorem asUInt64_int (n : UInt64) : Datum.asUInt64 (.int n.toNat) = .ok n := by
  have : n.toNat ≤ 18446744073709551615 := by have := n.toNat_lt; omega
  simp [Datum.asUInt64, Datum.asNat, this, Except.map]

end Values

section Decoding

variable {α : Type} {read : Datum → Except Datum.Problem α} {cs : List Char} {d : Datum} {a : α}

theorem decode_of_reads (h : Reads cs d) (hr : read d = .ok a) :
    decode read (String.ofList cs) = .ok a := by
  have hd : readChars (cs.map some) = some d := by
    rw [readChars, show (cs.map some).foldlM Reader.step {} = _ from h {} rfl rfl]
    rfl
  rw [decode, String.toList_ofList, decodeChars, hd]
  simp [hr]

end Decoding

section Plainness

variable {cs ds : List Char}

theorem plain_escape (c : Char) : Plain (escape c) := by
  rcases escape_cases c with ⟨he, -, -, hc⟩ | ⟨x, he, -, hx, -⟩ | ⟨he, hc⟩
  · simpa [Plain, he] using hc
  · simp [Plain, he, hx]
  · have h1 := hexDigit_plain (c.toNat / 16) (by omega)
    have h2 := hexDigit_plain (c.toNat % 16) (by omega)
    simp [Plain, he, h1, h2]

theorem plain_text (s : String) : Plain (printText s) := by
  intro c hc
  simp only [printText, List.cons_append, List.mem_cons, List.mem_append, List.mem_flatMap,
    List.not_mem_nil, or_false] at hc
  rcases hc with rfl | ⟨x, -, hx⟩ | rfl
  · decide
  · exact plain_escape x c hx
  · decide

theorem plain_nat (n : Nat) : Plain (printNat n) := by
  intro c hc
  have hd : c.isDigit := Nat.isDigit_of_mem_toDigits (by decide) (by decide) hc
  exact le_trans (by decide) (Char.isDigit_iff_toNat.1 hd).1

theorem plain_append : Plain (cs ++ ds) ↔ Plain cs ∧ Plain ds := List.forall_mem_append

theorem plain_cons {c : Char} : Plain (c :: cs) ↔ 0x20 ≤ c.toNat ∧ Plain cs := List.forall_mem_cons

theorem plain_fields (fields : List (String × List Char)) (h : ∀ f ∈ fields, Plain f.2) :
    Plain (printFields fields) := by
  fun_induction printFields fields with
  | case1 => exact fun c hc => absurd hc List.not_mem_nil
  | case2 n v => exact plain_append.2 ⟨plain_text n, plain_cons.2 ⟨by decide, h (n, v) (by simp)⟩⟩
  | case3 n v rest _ ih =>
    have hv : Plain v := h (n, v) (by simp)
    have hr : Plain (printFields rest) := ih fun f hf => h f (by simp [hf])
    simp only [List.append_assoc, List.cons_append, plain_append, plain_cons]
    exact ⟨plain_text n, by decide, hv, by decide, hr⟩

theorem plain_table {fields : List (String × List Char)} (h : ∀ f ∈ fields, Plain f.2) :
    Plain (printTable fields) := by
  refine plain_cons.2 ⟨by decide, plain_append.2 ⟨plain_fields fields h, ?_⟩⟩
  exact plain_cons.2 ⟨by decide, fun c hc => absurd hc List.not_mem_nil⟩

end Plainness

end SessionKeeper.Json
