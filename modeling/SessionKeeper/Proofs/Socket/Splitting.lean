import SessionKeeper.Proofs.Socket.Framing

/-!
# Lines taken out of bytes are the bytes split at newlines

To cut bytes byte by byte is to split them at their newlines (`segments_splitOn`). So the lines that
are taken out of a buffer are those that newlines end, each without the carriage returns at the end
of its text (`shows_messageOf`), and what stays pending is the last part. Taking lines twice, with
more bytes in between, is taking them once, unless what was pending was dropped
(`takeLines_splitOn`).
-/

namespace SessionKeeper.Socket

open Text.Utf8

variable {a b line : List UInt8}

theorem segments_splitOn (a : List UInt8) :
    a.splitOn newline = (segments a).1 ++ [(segments a).2] := by
  induction a using lines_induction with
  | line x hx => rw [segments_line hx, List.splitOn_eq_singleton hx, List.nil_append]
  | cons x a hx ih =>
    rw [segments_cons hx, List.splitOn_append_cons_self_of_not_mem hx, ih, List.cons_append]

/-- What is delivered of a line: its text without the carriage returns at its end, unless nothing is
left. -/
inductive Shows (line : List UInt8) : List String → Prop
  | text {m : String} {n : Nat}
    (h : (decodeLossy line).toList = m.toList ++ List.replicate n '\r') (hm : m ≠ "")
    (hr : m.toList.getLast? ≠ some '\r') : Shows line [m]
  | nothing {n : Nat} (h : (decodeLossy line).toList = List.replicate n '\r') : Shows line []

/-- A text is what it is without the carriage returns at its end, and those. -/
theorem dropReturns_append (s : List Char) :
    ∃ n, s = Text.dropEndWhile (· == '\r') s ++ List.replicate n '\r' := by
  have hall : ∀ x ∈ s.rtakeWhile (· == '\r'), x = '\r' := fun x hx => by
    simpa using List.mem_rtakeWhile_imp hx
  refine ⟨(s.rtakeWhile (· == '\r')).length, ?_⟩
  rw [← List.eq_replicate_of_mem hall]
  exact List.rdropWhile_append_rtakeWhile.symm

theorem shows_messageOf (line : List UInt8) : Shows line (messageOf line).toList := by
  obtain ⟨n, hn⟩ := dropReturns_append (decodeLossy line).toList
  unfold messageOf
  dsimp only
  set text := Text.dropEndWhile (· == '\r') (decodeLossy line).toList
  have hlast : ∀ h : text ≠ [], ¬ (text.getLast h == '\r') = true :=
    List.rdropWhile_last_not (· == '\r') (decodeLossy line).toList
  split
  · rename_i he
    rw [List.isEmpty_iff.1 he, List.nil_append] at hn
    exact .nothing hn
  · rename_i he
    have hne : text ≠ [] := fun h => he (List.isEmpty_iff.2 h)
    refine .text (by rw [String.toList_ofList]; exact hn) ?_ ?_
    · simpa [← String.toList_inj] using hne
    · rw [String.toList_ofList, List.getLast?_eq_some_getLast hne]
      simpa using hlast hne

theorem forall₂_shows : ∀ lines : List (List UInt8),
    ∃ parts, List.Forall₂ Shows lines parts ∧ lines.filterMap messageOf = parts.flatten
  | [] => ⟨[], .nil, rfl⟩
  | line :: lines => by
    obtain ⟨parts, hshows, hparts⟩ := forall₂_shows lines
    refine ⟨(messageOf line).toList :: parts, .cons (shows_messageOf line) hshows, ?_⟩
    rw [List.filterMap_cons, List.flatten_cons, ← hparts]
    cases messageOf line <;> rfl

/-- The lines taken out of bytes are what is delivered of those that a newline ends, in order, and
what comes after the last newline stays pending unless it fills the buffer. If it does not, lines
taken out of it and more bytes are those that would have been taken next out of all bytes at once,
and the same stays pending. -/
theorem takeLines_splitOn (a : List UInt8) : ∃ lines rest parts,
    a.splitOn newline = lines ++ [rest] ∧ List.Forall₂ Shows lines parts ∧
    (takeLines a).messages = parts.flatten ∧
    (takeLines a).pending = (if rest.length < bufferSize then rest else []) ∧
    (rest.length < bufferSize → ∀ b,
      (takeLines a).messages ++ (takeLines ((takeLines a).pending ++ b)).messages =
        (takeLines (a ++ b)).messages ∧
      (takeLines ((takeLines a).pending ++ b)).pending = (takeLines (a ++ b)).pending) := by
  obtain ⟨parts, hshows, hparts⟩ := forall₂_shows (segments a).1
  refine ⟨_, _, parts, segments_splitOn a, hshows, (takeLines_messages a).trans hparts,
    takeLines_pending a, fun hs b => ?_⟩
  have hpending : (takeLines a).pending = (segments a).2 := by rw [takeLines_pending, if_pos hs]
  have hrest : (segments ((segments a).2 ++ b)).2 = (segments (a ++ b)).2 := by
    rw [segments_append a]
  rw [hpending, takeLines_messages, takeLines_messages, takeLines_messages, messagesOf_append a,
    takeLines_pending, takeLines_pending, hrest]
  exact ⟨rfl, rfl⟩

/-- The first bytes end inside a character, after bytes that are none and a line of carriage returns
only. -/
theorem takeLines_splitOn_cut :
    (takeLines [0xFF, 13, 13, 10, 13, 10, 0xC3]).messages ++
        (takeLines ((takeLines [0xFF, 13, 13, 10, 13, 10, 0xC3]).pending ++ [0xA9, 10])).messages =
      (takeLines [0xFF, 13, 13, 10, 13, 10, 0xC3, 0xA9, 10]).messages ∧
    (takeLines ((takeLines [0xFF, 13, 13, 10, 13, 10, 0xC3]).pending ++ [0xA9, 10])).pending =
      (takeLines [0xFF, 13, 13, 10, 13, 10, 0xC3, 0xA9, 10]).pending := by
  obtain ⟨lines, rest, parts, hsplit, -, -, -, hcut⟩ :=
    takeLines_splitOn [0xFF, 13, 13, 10, 13, 10, 0xC3]
  have hrest : ([[0xFF, 13, 13], [13]] : List (List UInt8)) ++ [[0xC3]] = lines ++ [rest] :=
    (by decide : _ = List.splitOn newline [0xFF, 13, 13, 10, 13, 10, 0xC3]).trans hsplit
  obtain ⟨-, hlast⟩ := List.append_inj' hrest rfl
  obtain rfl := List.singleton_inj.1 hlast
  exact hcut (by decide) [0xA9, 10]

end SessionKeeper.Socket
