import SessionKeeper.Proofs.Keeper.Takings
import SessionKeeper.Proofs.Launcher.Runs
import SessionKeeper.Proofs.Socket.Framing

/-!
# What a run sends

A run takes its input line by line, whatever else happens in between, and sends what is left of each
line without the blanks around it, unless nothing is left (`Run.TakesLine`). So what has been sent
comes of as many first lines of all the input as were taken (`sent_of_run`): all of them when the
run has come to the end of the input, and those before the first that cannot be read when it has
come to that. Whatever a send is answered, the run goes on with its loop.
-/

namespace SessionKeeper

variable {State Op : Type}

/-- What is sent with a call. -/
@[simp]
def Event.sent : Event → List String
  | called _ (.send payload) => [payload]
  | _ => []

theorem gather_filter {f : Event → List String} {p : Event → Bool}
    (hp : ∀ e, p e = false → f e = []) (h : List Event) : gather f (h.filter p) = gather f h := by
  induction h with
  | nil => rfl
  | cons e h ih =>
    rw [List.filter_cons, gather_cons]
    split
    · rw [gather_cons, ih]
    · rename_i he
      rw [ih, hp e (Bool.eq_false_iff.2 he), List.append_nil]

namespace Launcher

open Socket (segments segments_append segments_cons segments_line)

section Lines

variable {a b x : List UInt8}

/-- A line without a carriage return at its end. -/
def withoutReturn (line : List UInt8) : List UInt8 :=
  match line.reverse with
  | 13 :: r => r.reverse
  | _ => line

/-- The lines of bytes: a newline ends a line, with a carriage return before it or without, and so
does the end of the bytes. -/
def linesIn (bytes : List UInt8) : List (List UInt8) :=
  (segments bytes).1.map withoutReturn ++
    if (segments bytes).2.isEmpty then [] else [(segments bytes).2]

/-- What is sent of a line. -/
def payload? (line : List UInt8) : Option String :=
  match Text.Utf8.decode line with
  | .ok s => if (Text.trim s).isEmpty then none else some (Text.trim s)
  | .error _ => none

theorem payload?_of_decode {line : List UInt8} {s : String} (h : Text.Utf8.decode line = .ok s) :
    payload? line = if (Text.trim s).isEmpty then none else some (Text.trim s) := by
  rw [payload?, h]

theorem decode_of_payload? {line : List UInt8} {payload : String}
    (h : payload? line = some payload) : ∃ s, Text.Utf8.decode line = .ok s := by
  unfold payload? at h
  split at h
  · exact ⟨_, ‹_›⟩
  · cases h

/-- A line as it is taken. -/
def Line.of (line : List UInt8) : Line :=
  match Text.Utf8.decode line with
  | .ok s => .text s
  | .error e => .unreadable e.message

/-- Bytes at whose end no line is under way. -/
def Ends (bytes : List UInt8) : Prop := (segments bytes).2 = []

theorem ends_nil : Ends [] := rfl

theorem linesIn_of_ends (h : Ends a) : linesIn a = (segments a).1.map withoutReturn := by
  simp [linesIn, show (segments a).2 = [] from h]

theorem linesIn_append (h : Ends a) (b : List UInt8) :
    linesIn (a ++ b) = linesIn a ++ linesIn b := by
  rw [linesIn_of_ends h, linesIn, segments_append, show (segments a).2 = [] from h]
  simp [linesIn]

/-- Nothing comes after bytes at whose end a line is under way. -/
theorem linesIn_split {done : Prop} (h : Ends a ∨ done ∧ b = []) :
    linesIn (a ++ b) = linesIn a ++ linesIn b := by
  rcases h with h | ⟨-, rfl⟩
  · exact linesIn_append h b
  · rw [List.append_nil, show linesIn [] = [] from rfl, List.append_nil]

theorem length_linesIn_le (h : Ends a) (b : List UInt8) :
    (linesIn a).length ≤ (segments (a ++ b)).1.length := by
  rw [linesIn_of_ends h, segments_append, List.length_map, List.length_append]
  exact Nat.le_add_right _ _

theorem Ends.append (h : Ends a) (hb : Ends b) : Ends (a ++ b) := by
  rw [Ends, segments_append, show (segments a).2 = [] from h]
  exact hb

/-- The end of a line is taken off it. -/
theorem withoutEnd_line (x : List UInt8) : withoutEnd (x ++ [newline]) = withoutReturn x := by
  rcases List.eq_nil_or_concat x with rfl | ⟨y, b, rfl⟩
  · rfl
  by_cases hb : b = 13
  · subst hb
    simp [withoutEnd, withoutReturn, newline]
  · simp [withoutEnd, withoutReturn, newline, hb]

theorem withoutEnd_rest (h : newline ∉ x) : withoutEnd x = x := by
  rcases List.eq_nil_or_concat x with rfl | ⟨y, b, rfl⟩
  · rfl
  have hb : b ≠ 10 := by
    rintro rfl
    exact h (by simp [newline])
  simp [withoutEnd, hb]

theorem Line.ofBytes_eq {bytes : List UInt8} (h : bytes ≠ []) :
    Line.ofBytes bytes = Line.of (withoutEnd bytes) :=
  if_neg (by simpa using h)

/-- What is taken next is the first line of what has arrived, or its end. -/
theorem Input.next?_cases {i i' : Input} {line : Line} (h : i.next? = some (line, i')) :
    line = .none ∧ i.arrived = [] ∧ i.closed = true ∧ i' = i ∨
      ∃ content done, i.arrived = done ++ i'.arrived ∧ linesIn done = [content] ∧
        (Ends done ∨ i.closed = true ∧ i'.arrived = []) ∧ i'.closed = i.closed ∧
        line = Line.of content := by
  obtain ⟨⟨bytes, rest⟩, hcut, he⟩ := Option.map_eq_some_iff.1 h
  obtain ⟨rfl, rfl⟩ := Prod.mk.inj he
  have hsplit := List.takeWhile_append_dropWhile (p := (· != newline)) (l := i.arrived)
  unfold Input.cut at hcut
  split at hcut
  · rename_i b r hd
    cases hcut
    have hx : newline ∉ i.arrived.takeWhile (· != newline) := fun hn => by
      simpa using List.mem_takeWhile_imp hn
    obtain rfl : b = newline := by
      have hb := List.head?_dropWhile_not (· != newline) i.arrived
      simpa [hd] using hb
    rw [hd] at hsplit
    generalize i.arrived.takeWhile (· != newline) = x at hx hsplit
    have hs : segments (x ++ [newline]) = ([x], []) := segments_cons hx []
    refine .inr ⟨withoutReturn x, x ++ [newline], by rw [← hsplit]; simp, ?_, .inl ?_, rfl, ?_⟩
    · rw [linesIn, hs]
      rfl
    · rw [Ends, hs]
    · rw [Line.ofBytes_eq (by simp), withoutEnd_line]
  · rename_i hd
    have hx : newline ∉ i.arrived := fun hn => by
      simpa using List.dropWhile_eq_nil_iff.1 hd _ hn
    split at hcut <;> cases hcut
    by_cases hne : i.arrived = []
    · refine .inl ⟨by rw [hne]; rfl, hne, ‹_›, ?_⟩
      rw [← hne]
    · refine .inr ⟨_, _, (List.append_nil _).symm, ?_, .inr ⟨‹_›, rfl⟩, rfl,
        by rw [Line.ofBytes_eq hne, withoutEnd_rest hx]⟩
      simp [linesIn, segments_line hx, hne]

theorem Input.cut_isSome {i : Input} (h : i.closed = true ∨ newline ∈ i.arrived) :
    i.cut.isSome = true := by
  unfold Input.cut
  split
  · rfl
  · rename_i hd
    rcases h with hc | hn
    · rw [if_pos hc]
      rfl
    · simpa using List.dropWhile_eq_nil_iff.1 hd _ hn

end Lines

section Runs

variable {T : Transport State Op} {r r' : Run State Op} {s : RunStep State}
  {k k' : Keeper State Op} {done rest bytes : List UInt8} {lines : List (List UInt8)}
  {last : Option Branch} {a : Actor} {n : Nat}

theorem sent_say (ls : List LogRecord) :
    gather Event.sent (k.say ls).history = gather Event.sent k.history := by
  have hnone : gather Event.sent (ls.map Event.logged) = [] := gather_eq_nil (by simp)
  rw [(Keeper.Fills.say ls k).history, gather_append, hnone, List.append_nil]

theorem sent_of_skims (hk : k.Skims k') :
    gather Event.sent k'.history = gather Event.sent k.history := by
  induction hk with
  | refl => rfl
  | say ls _ ih => rw [sent_say, ih]
  | take _ ih => simpa [Keeper.takeQueue, Keeper.record] using ih

theorem sent_call (q : CallRequest) : gather Event.sent (k.call q).history
    = gather Event.sent k.history ++ Event.sent (.called k.calls.length q) := by
  simp [Keeper.call, Keeper.record]

theorem sent_of_move (hm : Keeper.Move T a k k') :
    gather Event.sent k'.history = gather Event.sent k.history := by
  have houter : ∀ e, Event.outer e = false → Event.sent e = [] := by
    intro e he
    cases e <;> first | rfl | cases he
  rw [← gather_filter houter, ← gather_filter houter k.history]
  rcases Keeper.outer_of_move hm with ho | ⟨c, -, ho⟩ <;> rw [ho]
  simp

/-- Nobody else sends anything. -/
theorem sent_of_next {s : Step State} (hs : (RunStep.keeper s).Apart)
    (hn : k.next? T s = some k') :
    gather Event.sent k'.history = gather Event.sent k.history := by
  refine Keeper.next?_keeps (P := fun k' => gather Event.sent k'.history
    = gather Event.sent k.history) (fun hm h => (sent_of_move hm).trans h) (fun k₁ hb => ?_) hn rfl
  cases hb with
  | call q =>
    rw [sent_call]
    cases q with
    | send payload => exact hs.elim
    | _ => exact List.append_nil _
  | _ => rfl

/-- What has been sent of lines. -/
structure Sent (lines : List (List UInt8)) (k : Keeper State Op) : Prop where
  readable : ∀ line ∈ lines, ∃ s, Text.Utf8.decode line = .ok s
  sent : gather Event.sent k.history = lines.filterMap payload?

theorem Sent.of_sent (h : Sent lines k)
    (hs : gather Event.sent k'.history = gather Event.sent k.history) : Sent lines k' :=
  ⟨h.readable, hs.trans h.sent⟩

/-- One more line has been taken. -/
theorem Sent.concat {line : List UInt8} {s : String} (h : Sent lines k)
    (hd : Text.Utf8.decode line = .ok s) (hs : gather Event.sent k'.history
      = gather Event.sent k.history ++ (payload? line).toList) : Sent (lines ++ [line]) k' := by
  refine ⟨fun l hl => ?_, ?_⟩
  · rcases List.mem_append.1 hl with hl | hl
    · exact h.readable l hl
    · rw [List.mem_singleton.1 hl]
      exact ⟨s, hd⟩
  · rw [hs, h.sent, List.filterMap_append]
    cases hp : payload? line <;> simp [hp]

/-- What a run makes of the next line, or of the end of its input. -/
inductive Run.TakesLine (r : Run State Op) : Option (List UInt8) → Run State Op → Prop
  | sends {line input payload} (hp : payload? line = some payload) :
      r.TakesLine (some line) { r with
        input
        keeper := r.keeper.call (.send payload)
        phase := .forwarding r.keeper.calls.length }
  | skips {line input s} (hd : Text.Utf8.decode line = .ok s) (hb : payload? line = none) :
      r.TakesLine (some line) { r with input }
  | refuses {line input e} (hd : Text.Utf8.decode line = .error e) :
      r.TakesLine (some line) (Run.clean (.error e.message) { r with input })
  /-- The input is closed, and all of it has been taken. -/
  | closes (hc : r.input.closed = true) :
      r.TakesLine none (r.log .info "📭 Input closed").leave

theorem Run.takesLine_content {line : List UInt8} {input : Input}
    (h : r.input.next? = some (Line.of line, input)) :
    r.TakesLine (some line) r.takeLine ∧ r.takeLine.input = input := by
  unfold takeLine
  simp only [h, Line.of]
  rcases hd : Text.Utf8.decode line with e | s <;> simp only []
  · exact ⟨.refuses hd, rfl⟩
  · have hp := payload?_of_decode hd
    unfold forward
    extract_lets payload
    split <;> rename_i hblank
    · exact ⟨.skips hd (by rw [hp, if_pos hblank]), rfl⟩
    · exact ⟨.sends (by rw [hp, if_neg hblank]), rfl⟩

theorem Run.takesLine_closed (h : r.input.next? = some (.none, r.input))
    (hc : r.input.closed = true) : r.TakesLine none r.takeLine := by
  have hr : r.takeLine = (r.log .info "📭 Input closed").leave := by
    unfold takeLine
    simp only [h]
  exact hr ▸ .closes hc

/-- The bytes that a step brings. -/
def RunStep.typed : RunStep State → List UInt8
  | type bytes => bytes
  | _ => []

def RunStep.branch? : RunStep State → Option Branch
  | take b => some b
  | _ => none

/-- How often a run has gone for a line. -/
def linesTaken (ss : List (RunStep State)) : Nat := (ss.filterMap RunStep.branch?).count .line

theorem linesTaken_append (ss ss' : List (RunStep State)) :
    linesTaken (ss ++ ss') = linesTaken ss + linesTaken ss' := by
  rw [linesTaken, List.filterMap_append, List.count_append]
  rfl

/-- Whether a run has yet to connect, or could not. -/
def Phase.opening : Phase → Bool
  | connecting _ | dismissing _ _ => true
  | _ => false

/-- How far a run has come that has gone for a line `n` times, has taken some of its input and has
the rest before it. -/
inductive Feeds (n : Nat) (done rest : List UInt8) (last : Option Branch) (r : Run State Op) : Prop
  | goes (hv : r.phase.verdict = none) (hi : rest = r.input.arrived)
      (hn : n = (linesIn done).length) (hs : Sent (linesIn done) r.keeper)
  /-- It was not the input that ended the session. -/
  | ended {e : Ending} (hv : r.phase.verdict = some e) (hl : last ≠ some .line)
      (hn : n = (linesIn done).length) (hs : Sent (linesIn done) r.keeper)
  | closed {e : Ending} (hv : r.phase.verdict = some e) (hc : r.input.closed = true ∧ rest = [])
      (hn : n = (linesIn done).length + 1) (hs : Sent (linesIn done) r.keeper)
  | unreadable {before : List (List UInt8)} {bad : List UInt8} {e : Text.Utf8.Invalid}
      (hv : r.phase.verdict = some (.error e.message)) (hd : linesIn done = before ++ [bad])
      (hb : Text.Utf8.decode bad = .error e) (hn : n = before.length + 1)
      (hs : Sent before r.keeper)

theorem Feeds.of_same (h : Feeds n done rest last r) (hv : r'.phase.verdict = r.phase.verdict)
    (hi : r'.input = r.input)
    (hs : gather Event.sent r'.keeper.history = gather Event.sent r.keeper.history) :
    Feeds n done rest last r' := by
  cases h with
  | goes hv' hi' hn hs' => exact .goes (hv.trans hv') (by rw [hi, hi']) hn (hs'.of_sent hs)
  | ended hv' hl hn hs' => exact .ended (hv.trans hv') hl hn (hs'.of_sent hs)
  | closed hv' hc hn hs' => exact .closed (hv.trans hv') (by rwa [hi]) hn (hs'.of_sent hs)
  | unreadable hv' hd hb hn hs' => exact .unreadable (hv.trans hv') hd hb hn (hs'.of_sent hs)

/-- How far a run has come with its input, `bytes` in all. -/
structure Reads (bytes : List UInt8) (n : Nat) (last : Option Branch) (r : Run State Op) :
    Prop where
  opening : r.phase.opening = true → last = none
  feeds : ∃ done rest, bytes = done ++ rest ∧ (Ends done ∨ r.input.closed = true ∧ rest = []) ∧
    Feeds n done rest last r

namespace Reads

theorem of_same (h : Reads bytes n last r) (hp : r'.phase.opening = true → r.phase.opening = true)
    (hv : r'.phase.verdict = r.phase.verdict) (hi : r'.input = r.input)
    (hs : gather Event.sent r'.keeper.history = gather Event.sent r.keeper.history) :
    Reads bytes n last r' := by
  obtain ⟨done, rest, hb, he, hf⟩ := h.feeds
  exact ⟨fun ho => h.opening (hp ho), done, rest, hb, by rwa [hi], hf.of_same hv hi hs⟩

/-- What has been sent so far, while the session goes on. -/
theorem sent (h : Reads bytes n last r) (hv : r.phase.verdict = none) : ∃ done,
    bytes = done ++ r.input.arrived ∧ (Ends done ∨ r.input.closed = true ∧ r.input.arrived = []) ∧
    n = (linesIn done).length ∧ Sent (linesIn done) r.keeper := by
  obtain ⟨done, rest, hb, he, hf⟩ := h.feeds
  cases hf with
  | goes _ hi hn hs =>
    subst hi
    exact ⟨done, hb, he, hn, hs⟩
  | ended hv' => cases hv.symm.trans hv'
  | closed hv' => cases hv.symm.trans hv'
  | unreadable hv' => cases hv.symm.trans hv'

/-- A branch that takes no input. -/
theorem aside {b : Branch} (h : Reads bytes n last r) (hv : r.phase.verdict = none)
    (hb : b ≠ .line) (hp : r'.phase.opening = false) (hi : r'.input = r.input)
    (hs : gather Event.sent r'.keeper.history = gather Event.sent r.keeper.history) :
    Reads bytes n (some b) r' := by
  obtain ⟨done, he, hends, hn, hsent⟩ := h.sent hv
  refine ⟨fun ho => by simp [hp] at ho, done, r.input.arrived, he, by rwa [hi], ?_⟩
  rcases hv' : r'.phase.verdict with _ | e
  · exact .goes hv' (by rw [hi]) hn (hsent.of_sent hs)
  · exact .ended hv' (fun hl => hb (Option.some.inj hl)) hn (hsent.of_sent hs)

/-- A run that goes for a line takes the next of all lines, or there is no more. -/
theorem takeLine (h : Reads bytes n last r) (hp : r.phase = .looping)
    (ho : r.open? .line = true) :
    r.TakesLine (linesIn bytes)[n]? r.takeLine ∧ Reads bytes (n + 1) (some .line) r.takeLine := by
  obtain ⟨done, rfl, hends, rfl, hsent⟩ := h.sent (by rw [hp]; rfl)
  obtain ⟨⟨line, input⟩, hnext⟩ : ∃ x, r.input.next? = some x := by
    obtain ⟨x, hx⟩ := Option.isSome_iff_exists.1 (show r.input.cut.isSome = true from ho)
    exact ⟨_, by rw [Input.next?, hx]; rfl⟩
  rcases Input.next?_cases hnext with ⟨rfl, ha, hclosed, rfl⟩ |
    ⟨content, now, ha, hcontent, hends', hclosed, rfl⟩
  · have htake := Run.takesLine_closed hnext hclosed
    refine ⟨by rw [ha, List.append_nil, List.getElem?_eq_none le_rfl]; exact htake, ?_⟩
    generalize r.takeLine = r₁ at htake ⊢
    cases htake
    obtain ⟨k, console, ending, hk, hr⟩ := Run.leave_eq (r.log .info "📭 Input closed")
    rw [hr, ha]
    refine ⟨fun ho => by simp [Run.clean, Phase.opening] at ho, done, [], rfl,
      .inr ⟨hclosed, rfl⟩, .closed rfl ⟨hclosed, rfl⟩ rfl (hsent.of_sent ?_)⟩
    show gather Event.sent (k.call .cleanup).history = _
    rw [sent_call, sent_of_skims hk]
    exact (List.append_nil _).trans (sent_say [_])
  · -- a line under way at the end would have been the last
    have hdone : Ends done := by
      refine hends.resolve_right fun ⟨_, hnone⟩ => ?_
      rw [hnone] at ha
      obtain ⟨rfl, -⟩ := List.append_eq_nil_iff.1 ha.symm
      cases hcontent
    have hlines : linesIn (done ++ now) = linesIn done ++ [content] := by
      rw [linesIn_append hdone, hcontent]
    have hcount : (linesIn (done ++ now)).length = (linesIn done).length + 1 := by simp [hlines]
    have hline : (linesIn (done ++ r.input.arrived))[(linesIn done).length]? = some content := by
      rw [ha, linesIn_append hdone, linesIn_split hends', hcontent]
      simp
    have hends'' : Ends (done ++ now) ∨ input.closed = true ∧ input.arrived = [] :=
      hends'.imp hdone.append fun ⟨hc, hi⟩ => ⟨hclosed.trans hc, hi⟩
    obtain ⟨htake, hinput⟩ := Run.takesLine_content hnext
    refine ⟨by rw [hline]; exact htake, ?_⟩
    have hreads : ∀ {r₁ : Run State Op}, r₁.input = input → r₁.phase.opening = false →
        Feeds ((linesIn done).length + 1) (done ++ now) input.arrived (some .line) r₁ →
        Reads (done ++ r.input.arrived) ((linesIn done).length + 1) (some .line) r₁ :=
      fun hi hop hf => ⟨fun ho => by simp [hop] at ho, done ++ now, input.arrived,
        by rw [ha, List.append_assoc], by rwa [hi], hf⟩
    generalize r.takeLine = r₁ at htake hinput ⊢
    cases htake with
    | sends hpayload =>
      obtain ⟨s, hd⟩ := decode_of_payload? hpayload
      refine hreads hinput rfl (.goes rfl (by rw [hinput]) hcount.symm ?_)
      rw [hlines]
      exact hsent.concat hd ((sent_call _).trans (by rw [hpayload]; rfl))
    | skips hd hblank =>
      refine hreads hinput (by simp [hp, Phase.opening])
        (.goes (by rw [hp]; rfl) (by rw [hinput]) hcount.symm ?_)
      rw [hlines]
      exact hsent.concat hd (by simp [hblank])
    | refuses hd =>
      exact hreads hinput rfl (.unreadable rfl hlines hd rfl
        (hsent.of_sent ((sent_call _).trans (List.append_nil _))))

theorem take {b : Branch} (h : Reads bytes n last r) (hp : r.phase = .looping)
    (ho : r.open? b = true) : Reads bytes (n + [b].count .line) (some b) (r.take b) := by
  have hv : r.phase.verdict = none := by rw [hp]; rfl
  have hopening : r.phase.opening = false := by rw [hp]; rfl
  have hclean : ∀ {k : Keeper State Op} (console : Console) (tick : Nat) (ending : Ending),
      r.keeper.Skims k → b ≠ .line →
      Reads bytes n (some b) (Run.clean ending { r with keeper := k, console, tick }) := by
    intro k console tick ending hk hb
    exact h.aside hv hb rfl rfl ((sent_call _).trans ((List.append_nil _).trans (sent_of_skims hk)))
  cases b with
  | shutdown =>
    simp only [Run.take]
    rcases r.shutdown with _ | (e | _)
    · exact h.aside hv (by simp) hopening rfl rfl
    · exact hclean _ _ _ .refl (by simp)
    · obtain ⟨k, console, ending, hk, hr⟩ := Run.leave_eq r
      simp only [hr]
      exact hclean _ _ _ hk (by simp)
  | line => exact (h.takeLine hp ho).2
  | tick =>
    obtain ⟨k, console, tick, hk, hr | ⟨ending, hr⟩⟩ := Run.look_eq r <;>
      simp only [Run.take, hr]
    · exact h.aside hv (by simp) hopening rfl (sent_of_skims hk)
    · exact hclean _ _ _ hk (by simp)

/-- What a step of a run makes of its input. -/
theorem next (hs : s.Apart) (hn : r.next? T s = some r') (h : Reads bytes n last r) :
    Reads (bytes ++ s.typed) (n + linesTaken [s]) (s.branch?.or last) r' := by
  cases s with
  | keeper s =>
    obtain ⟨k, hk, rfl⟩ := Option.map_eq_some_iff.1 hn
    simp only [RunStep.typed, RunStep.branch?, List.append_nil, Option.none_or]
    exact h.of_same id rfl rfl (sent_of_next hs hk)
  | proceed =>
    simp only [RunStep.typed, RunStep.branch?, List.append_nil, Option.none_or]
    cases Advances.of_next hn with
    | outside => exact h.of_same id rfl (Run.input_of_proceed hn) rfl
    | connected hp => exact h.of_same (by simp [Phase.opening]) (by rw [hp]; rfl) rfl rfl
    | rejected reason hp =>
      exact h.of_same (by simp [hp, Phase.opening]) (by rw [hp]; rfl) rfl
        ((sent_call _).trans (List.append_nil _))
    | dismissed hp =>
      obtain ⟨done, hb, he, hcount, hsent⟩ := h.sent (by rw [hp]; rfl)
      have hlast := h.opening (by rw [hp]; rfl)
      exact ⟨fun _ => hlast, done, _, hb, he, .ended rfl (by simp [hlast]) hcount hsent⟩
    | forwarded ls hp =>
      exact h.of_same (by simp [Phase.opening]) (by rw [hp]; rfl) rfl (sent_say ls)
    | cleaned ls hp =>
      exact h.of_same (by simp [Phase.opening]) (by rw [hp]; rfl) rfl (sent_say ls)
  | take b =>
    simp only [RunStep.typed, RunStep.branch?, List.append_nil, Option.some_or]
    obtain ⟨hp, ho, rfl⟩ := Run.take_of_next hn
    exact h.take hp ho
  | type more =>
    simp only [Run.next?] at hn
    split at hn
    · cases hn
    rename_i hclosed
    cases hn
    obtain ⟨done, rest, rfl, he, hf⟩ := h.feeds
    simp only [RunStep.typed, RunStep.branch?, Option.none_or]
    refine ⟨h.opening, done, rest ++ more, List.append_assoc _ _ _,
      he.imp_right fun hc => absurd hc.1 hclosed, ?_⟩
    cases hf with
    | goes hv hi hcount hs => exact .goes hv (by rw [hi]) hcount hs
    | ended hv hl hcount hs => exact .ended hv hl hcount hs
    | closed _ hc => exact absurd hc.1 hclosed
    | unreadable hv hd hb hcount hs => exact .unreadable hv hd hb hcount hs
  | closeInput =>
    cases hn
    obtain ⟨done, rest, rfl, he, hf⟩ := h.feeds
    simp only [RunStep.typed, RunStep.branch?, List.append_nil, Option.none_or]
    refine ⟨h.opening, done, rest, rfl, he.imp_right fun hc => ⟨rfl, hc.2⟩, ?_⟩
    cases hf with
    | goes hv hi hcount hs => exact .goes hv hi hcount hs
    | ended hv hl hcount hs => exact .ended hv hl hcount hs
    | closed hv hc hcount hs => exact .closed hv ⟨rfl, hc.2⟩ hcount hs
    | unreadable hv hd hb hcount hs => exact .unreadable hv hd hb hcount hs
  | shutDown e =>
    simp only [Run.next?] at hn
    split at hn <;> cases hn
    simp only [RunStep.typed, RunStep.branch?, List.append_nil, Option.none_or]
    exact h.of_same id rfl rfl rfl

theorem run {ss : List (RunStep State)} (h : Leads T RunStep.Apart r ss r')
    (hr : Reads bytes n last r) : Reads (bytes ++ ss.flatMap RunStep.typed) (n + linesTaken ss)
      ((ss.filterMap RunStep.branch?).getLast?.or last) r' := by
  induction h generalizing bytes n last with
  | nil => simpa [linesTaken] using hr
  | @cons _ _ _ s ss hs hn _ ih =>
    have hnext := ih (hr.next hs hn)
    rw [List.flatMap_cons, ← List.append_assoc, ← List.singleton_append, linesTaken_append,
      ← Nat.add_assoc]
    convert hnext using 1
    cases hb : s.branch? with
    | none => simp [hb]
    | some b =>
      rw [List.singleton_append, List.filterMap_cons_some hb, List.getLast?_cons]
      cases (ss.filterMap RunStep.branch?).getLast? <;> rfl

theorem start {kind : TransportKind} {config : LinkConfig} {transport : State} {installed : Bool}
    {input : Input} {console : Console} : Reads input.arrived 0 none
      (.fresh kind config transport installed input console : Run State Op) :=
  ⟨fun _ => rfl, [], input.arrived, rfl, .inl ends_nil, .goes rfl rfl rfl
    ⟨by simp [linesIn, segments], by simp [linesIn, segments, Run.fresh, Run.start, Keeper.call,
      Keeper.log, Keeper.record, Keeper.fresh]⟩⟩

/-- What has been sent comes of the lines that have been taken. -/
theorem sent_eq (h : Reads bytes n last r) :
    gather Event.sent r.keeper.history = ((linesIn bytes).take n).filterMap payload? := by
  obtain ⟨done, rest, rfl, he, hf⟩ := h.feeds
  rw [linesIn_split he]
  cases hf with
  | goes _ _ hn hs => rw [hn, List.take_left, hs.sent]
  | ended _ _ hn hs => rw [hn, List.take_left, hs.sent]
  | closed _ hc hn hs =>
    rw [hn, hc.2, show linesIn [] = [] from rfl, List.append_nil,
      List.take_of_length_le (Nat.le_succ _), hs.sent]
  | @unreadable before bad e _ hd hb hn hs =>
    have hnone : payload? bad = none := by rw [payload?, hb]
    rw [hn, hd, List.take_left' (by simp), hs.sent, List.filterMap_append]
    simp [hnone]

/-- Each line that has been taken can be read, but for the last if the session ended with it. -/
theorem readable (h : Reads bytes n last r) {i : Nat} {line : List UInt8} (hi : i < n)
    (hline : (linesIn bytes)[i]? = some line) : (∃ s, Text.Utf8.decode line = .ok s) ∨
      i + 1 = n ∧ ∃ e, Text.Utf8.decode line = .error e ∧
        r.phase.verdict = some (.error e.message) := by
  obtain ⟨done, rest, rfl, he, hf⟩ := h.feeds
  rw [linesIn_split he] at hline
  have hread : ∀ {lines : List (List UInt8)} {l : List (List UInt8)}, i < lines.length →
      (lines ++ l)[i]? = some line → Sent lines r.keeper →
      ∃ s, Text.Utf8.decode line = .ok s := by
    intro lines l hlt hl hs
    rw [List.getElem?_append_left hlt] at hl
    exact hs.readable line (List.mem_of_getElem? hl)
  cases hf with
  | goes _ _ hn hs => exact .inl (hread (hn ▸ hi) hline hs)
  | ended _ _ hn hs => exact .inl (hread (hn ▸ hi) hline hs)
  | closed _ hc hn hs =>
    refine .inl (hread ?_ hline hs)
    have hlt := (List.getElem?_eq_some_iff.1 hline).1
    rwa [hc.2, show linesIn [] = [] from rfl, List.append_nil] at hlt
  | @unreadable before bad e hv hd hb hn hs =>
    rw [hd, List.append_assoc] at hline
    rcases Nat.lt_or_ge i before.length with hlt | hge
    · exact .inl (hread hlt hline hs)
    · obtain rfl : i = before.length := by omega
      obtain rfl : bad = line := by simpa using hline
      exact .inr ⟨hn.symm, e, hb, hv⟩

theorem count_le (h : Reads bytes n last r) (hopen : r.input.closed = false) :
    n ≤ (segments bytes).1.length := by
  obtain ⟨done, rest, rfl, he, hf⟩ := h.feeds
  have hends : Ends done := he.resolve_right fun hc => by simp [hopen] at hc
  have hle := length_linesIn_le hends rest
  cases hf with
  | goes _ _ hn => omega
  | ended _ _ hn => omega
  | closed _ hc => simp [hopen] at hc
  | unreadable _ hd _ hn =>
    rw [hd, List.length_append, List.length_singleton] at hle
    omega

/-- A run in its loop can go for a line that is complete, and for what is left of a closed input. -/
theorem open_line (h : Reads bytes n last r) (hp : r.phase = .looping)
    (hmore : r.input.closed = true ∨ n < (segments bytes).1.length) : r.open? .line = true := by
  obtain ⟨done, rfl, he, rfl, -⟩ := h.sent (by rw [hp]; rfl)
  refine Input.cut_isSome (or_iff_not_imp_left.2 fun hopen => ?_)
  have hends : Ends done := he.resolve_right fun hc => hopen hc.1
  have hlt := hmore.resolve_left hopen
  by_contra hn
  -- without a newline nothing more is complete
  rw [linesIn_of_ends hends, List.length_map, segments_append,
    show (segments done).2 = [] from hends, List.nil_append, segments_line hn] at hlt
  simp at hlt

/-- The input has ended the session. -/
theorem ended (h : Reads bytes n (some .line) r) {e : Ending} (hv : r.phase.verdict = some e) :
    r.input.closed = true ∧ n = (linesIn bytes).length + 1 ∨
      ∃ bad err, 0 < n ∧ (linesIn bytes)[n - 1]? = some bad ∧ Text.Utf8.decode bad = .error err ∧
        e = .error err.message := by
  obtain ⟨done, rest, rfl, he, hf⟩ := h.feeds
  rw [linesIn_split he]
  cases hf with
  | goes hv' => cases hv.symm.trans hv'
  | ended _ hl => exact absurd rfl hl
  | closed _ hc hn =>
    refine .inl ⟨hc.1, ?_⟩
    rw [hc.2, show linesIn [] = [] from rfl, List.append_nil, hn]
  | @unreadable before bad err hv' hd hb hn =>
    refine .inr ⟨bad, err, by omega, ?_, hb, Option.some.inj (hv.symm.trans hv')⟩
    rw [hn, hd, List.append_assoc]
    simp

end Reads

/-- All the bytes of the input of a run. -/
def typedIn (input : Input) (ss : List (RunStep State)) : List UInt8 :=
  input.arrived ++ ss.flatMap RunStep.typed

/-- However the input arrives, and whatever happens in between, what a run has sent are the texts of
its first lines, as many as it has gone for, each once and in order. It can go for the next line
whenever it is in its loop and that line is complete, and then it sends the text of that line,
unless it is blank or cannot be read or there is none; and it goes back to its loop whatever a send
is answered. If it is the input that ended the session, either it is closed and all lines have been
taken, or the last that was taken cannot be read and the run ends with that error. -/
theorem sent_of_run {kind : TransportKind} {config : LinkConfig} {transport : State}
    {installed : Bool} {input : Input} {console : Console} {ss : List (RunStep State)}
    (h : Leads T RunStep.Apart (.fresh kind config transport installed input console) ss r) :
    gather Event.sent r.keeper.history
      = ((linesIn (typedIn input ss)).take (linesTaken ss)).filterMap payload? ∧
    (∀ i line, i < linesTaken ss → (linesIn (typedIn input ss))[i]? = some line →
      (∃ s, Text.Utf8.decode line = .ok s) ∨ i + 1 = linesTaken ss ∧
        ∃ e, Text.Utf8.decode line = .error e ∧ r.phase.verdict = some (.error e.message)) ∧
    (r.input.closed = false → linesTaken ss ≤ (segments (typedIn input ss)).1.length) ∧
    (r.phase = .looping →
      r.input.closed = true ∨ linesTaken ss < (segments (typedIn input ss)).1.length →
      ∃ r', r.next? T (.take .line) = some r') ∧
    (∀ r', r.next? T (.take .line) = some r' →
      r.TakesLine (linesIn (typedIn input ss))[linesTaken ss]? r') ∧
    (∀ c, r.phase = .forwarding c → (r.answer? c).isSome = true →
      ∃ r', r.next? T .proceed = some r' ∧ r'.phase = .looping ∧ r'.input = r.input ∧
        r'.shutdown = r.shutdown) ∧
    (∀ e, r.phase = .finished e → (ss.filterMap RunStep.branch?).getLast? = some .line →
      r.input.closed = true ∧ linesTaken ss = (linesIn (typedIn input ss)).length + 1 ∨
      ∃ bad err, 0 < linesTaken ss ∧ (linesIn (typedIn input ss))[linesTaken ss - 1]? = some bad ∧
        Text.Utf8.decode bad = .error err ∧ e = .error err.message) := by
  have hr := Reads.start.run h
  rw [Option.or_none, Nat.zero_add] at hr
  refine ⟨hr.sent_eq, fun i line => hr.readable, hr.count_le, fun hp hmore => ?_,
    fun r' hn => ?_, fun c hp ha => ?_, fun e hp hlast => ?_⟩
  · exact ⟨r.take .line, by simp only [Run.next?, hp, hr.open_line hp hmore, if_true]⟩
  · obtain ⟨hp, ho, rfl⟩ := Run.take_of_next hn
    exact (hr.takeLine hp ho).1
  · obtain ⟨a, ha⟩ := Option.isSome_iff_exists.1 ha
    simp only [Run.next?, Run.awaited?, hp, ha, Option.isSome_some, if_true, Run.proceed,
      Option.map_some]
    split <;> exact ⟨_, rfl, rfl, rfl, rfl⟩
  · rw [hlast] at hr
    exact hr.ended (by rw [hp]; rfl)

/-- A run takes a line that is not blank. -/
theorem Run.next?_line {line : String} {input : Input} (hp : r.phase = .looping)
    (hi : r.input.next? = some (.text line, input)) (hl : (Text.trim line).isEmpty = false) :
    r.next? T (.take .line) = some { r with
      input
      keeper := r.keeper.call (.send (Text.trim line))
      phase := .forwarding r.keeper.calls.length } := by
  have hcut : r.input.cut.isSome = true := by
    rw [Input.next?] at hi
    cases hc : r.input.cut <;> simp [hc] at hi ⊢
  simp [Run.next?, hp, Run.open?, hcut, Run.take, Run.takeLine, hi, Run.forward, hl]

/-- A line comes in, and the input ends. -/
def typedSteps : List (RunStep Rehearsal.Stage) :=
  [.keeper (.resume (.call 0)), .keeper (.resume (.call 0)), .proceed,
    .type [32, 104, 105, 13, 10], .closeInput]

/-- The line is taken, and then the end of the input, and the session is cleaned up. -/
def sentSteps : List (RunStep Rehearsal.Stage) :=
  [.keeper (.resume (.call 1)), .proceed, .take .line,
    .keeper (.resume (.call 2)), .keeper (.resume (.call 2)), .keeper (.disturb {}),
    .keeper (.resume (.watch 0)), .keeper (.resume (.call 2)), .proceed]

/-- The one send fails. -/
theorem sent_of_run_failed : ∃ r, Leads Rehearsal.stage RunStep.Apart
      (.fresh .tcp {} { sendCode := StatusCode.notSent } true {} {})
      (typedSteps ++ .take .line :: sentSteps) r ∧
    r.phase = .finished (.ok ()) ∧ gather Event.sent r.keeper.history = ["hi"] := by
  have htrim : Text.trim " hi" = "hi" := by decide
  have hdecode : Text.Utf8.decode [32, 104, 105] = .ok " hi" := by
    have hbytes : Text.Utf8.encode " hi" = [32, 104, 105] := by
      rw [Text.Utf8.encode_eq]
      rfl
    rw [← hbytes]
    exact Text.Utf8.decode_encode " hi"
  obtain ⟨r, h, hp, hi, hrest⟩ : ∃ r : Run Rehearsal.Stage Rehearsal.Op,
      Leads Rehearsal.stage RunStep.Apart
        (.fresh .tcp {} { sendCode := StatusCode.notSent } true {} {}) typedSteps r ∧
      r.phase = .looping ∧ r.input = { arrived := [32, 104, 105, 13, 10], closed := true } ∧
      ∃ r', Leads Rehearsal.stage RunStep.Apart { r with
          input := { arrived := [], closed := true }
          keeper := r.keeper.call (.send "hi")
          phase := .forwarding r.keeper.calls.length } sentSteps r' ∧
        r'.phase = .finished (.ok ()) :=
    ⟨_, .cons trivial rfl <| .cons trivial rfl <| .cons trivial rfl <| .cons trivial rfl <|
      .cons trivial rfl <| .nil _, rfl, rfl, _, .cons trivial rfl <| .cons trivial rfl <|
      .cons trivial rfl <| .cons trivial rfl <| .cons trivial rfl <| .cons trivial rfl <|
      .cons trivial rfl <| .cons trivial rfl <| .cons trivial rfl <| .nil _, rfl⟩
  have hnext : r.input.next? = some (.text " hi", { arrived := [], closed := true }) := by
    have hcut : r.input.cut = some ([32, 104, 105, 13, 10], []) := by
      rw [hi]
      rfl
    rw [Input.next?, hcut, hi]
    simp [Line.ofBytes, show withoutEnd [32, 104, 105, 13, 10] = [32, 104, 105] from rfl, hdecode]
  have htake := Run.next?_line (T := Rehearsal.stage) hp hnext (by rw [htrim]; rfl)
  rw [htrim] at htake
  obtain ⟨r', hr', hp'⟩ := hrest
  have hall := h.append (.cons (s := .take .line) trivial htake hr')
  obtain ⟨hsent, -⟩ := sent_of_run hall
  refine ⟨r', hall, hp', hsent.trans ?_⟩
  simp [payload?_of_decode hdecode, htrim, show linesIn (typedIn {} (typedSteps ++
    .take .line :: sentSteps)) = [[32, 104, 105]] from rfl, show linesTaken (typedSteps ++
    .take .line :: sentSteps) = 2 from rfl]

end Runs

end Launcher

end SessionKeeper
