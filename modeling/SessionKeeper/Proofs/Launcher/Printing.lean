import SessionKeeper.Proofs.Keeper.Takings
import SessionKeeper.Proofs.Launcher.GivingUp
import SessionKeeper.Proofs.Text.Utf8

/-!
# What a run prints

Whenever a run takes the queue it prints all of it, each message on a line of its own, as far as the
output takes it. While nothing has gone wrong all that was taken so far has been written
(`Prints.next`); a run that leaves its loop well takes the queue once more and cleans up at once
(`Run.Leaves`), so that all that was pushed by then has been written (`written_of_run`).
-/

namespace SessionKeeper

variable {State Op : Type}

namespace Launcher

open Keeper

/-- What messages look like on the console. -/
def printed (ms : List String) : List UInt8 :=
  ms.flatMap fun m => Text.Utf8.encode m ++ [newline]

theorem printed_append (ms ms' : List String) : printed (ms ++ ms') = printed ms ++ printed ms' :=
  List.flatMap_append

section Output

variable {c c' c'' : Console} {bytes bytes' : List UInt8} {done done' : Prop}

/-- Bytes go to a console: a first part of them is written, and all are if that is `done`. -/
structure Console.Writes (c c' : Console) (bytes : List UInt8) (done : Prop) : Prop where
  part : ∃ x, x <+: bytes ∧ c'.written = c.written ++ x
  whole : done → c'.written = c.written ++ bytes

namespace Console.Writes

theorem of_part (h : c.Writes c' bytes done) (hno : ¬ done') (bytes' : List UInt8) :
    c.Writes c' (bytes ++ bytes') done' := by
  obtain ⟨x, hx, hc⟩ := h.part
  exact ⟨⟨x, hx.trans (List.prefix_append _ _), hc⟩, fun hd => absurd hd hno⟩

/-- What comes after something that has been written in full. -/
theorem append (h : c.Writes c' bytes done) (hd : done) (h' : c'.Writes c'' bytes' done') :
    c.Writes c'' (bytes ++ bytes') done' := by
  have hc := h.whole hd
  obtain ⟨x, hx, hc'⟩ := h'.part
  refine ⟨⟨bytes ++ x, (List.prefix_append_right_inj _).2 hx, ?_⟩, fun hd' => ?_⟩
  · rw [hc', hc, List.append_assoc]
  · rw [h'.whole hd', hc, List.append_assoc]

theorem write (c : Console) (bytes : List UInt8) :
    c.Writes (c.write bytes).1 bytes ((c.write bytes).2 = none) := by
  unfold Console.write
  split
  · rename_i hb
    obtain rfl := List.isEmpty_iff.1 hb
    exact ⟨⟨[], List.nil_prefix, by simp⟩, fun _ => by simp⟩
  · split
    · exact ⟨⟨bytes, List.prefix_refl _, rfl⟩, fun _ => rfl⟩
    · refine ⟨⟨_, List.take_prefix _ _, rfl⟩, fun h => ?_⟩
      cases h

theorem print (c : Console) (m : String) :
    c.Writes (c.print m).1 (printed [m]) ((c.print m).2 = none) := by
  have hend : Text.Utf8.encode "\n" = [newline] := by
    rw [Text.Utf8.encode_eq]
    rfl
  have hline : printed [m] = Text.Utf8.encode m ++ Text.Utf8.encode "\n" := by
    simp [printed, hend]
  have htext := write c (Text.Utf8.encode m)
  rw [hline]
  unfold Console.print
  rcases hc : c.write (Text.Utf8.encode m) with ⟨c', r⟩
  rw [hc] at htext
  cases r with
  | none => exact htext.append rfl (write c' _)
  | some reason => exact htext.of_part (by simp) _

end Console.Writes

end Output

section Runs

variable {T : Transport State Op} {r r' : Run State Op} {s : RunStep State} {w written : List UInt8}
  {k k' : Keeper State Op} {v : Option Ending}

theorem Run.print_writes (g : Bool) (r : Run State Op) (ms : List String) :
    r.console.Writes (r.print g ms).1.console (printed ms) (∃ b, (r.print g ms).2 = .ok b) := by
  induction ms generalizing g r with
  | nil =>
    unfold print
    split <;> exact ⟨⟨[], List.nil_prefix, by simp⟩, fun _ => by simp [printed]⟩
  | cons m ms ih =>
    obtain ⟨ls, hr⟩ := announce_eq m r
    have hone := Console.Writes.print r.console m
    rw [show printed (m :: ms) = printed [m] ++ printed ms from printed_append [m] ms]
    simp only [print, hr]
    rcases hp : r.console.print m with ⟨console, o⟩
    rw [hp] at hone
    cases o with
    | none =>
      exact hone.append rfl (ih (g || (r.announce m).2)
        { r with keeper := r.keeper.say ls, console })
    | some reason => exact hone.of_part (by simp) _

/-- A run takes the queue and prints it. -/
theorem Run.drain_writes (r : Run State Op) :
    r.console.Writes r.drain.1.console (printed r.keeper.queue) (∃ b, r.drain.2 = .ok b) :=
  print_writes false { r with keeper := r.keeper.takeQueue.2 } r.keeper.queue

/-- What has been written by a run, `w` of it before it began, and what its keeper has come to. -/
structure Shows (w : List UInt8) (v : Option Ending) (written : List UInt8)
    (k : Keeper State Op) : Prop where
  hoards : k.Hoards
  part : ∃ x, x <+: printed (gather Event.drawn k.history) ∧ written = w ++ x
  whole : (∀ reason, v ≠ some (.error reason)) →
    written = w ++ printed (gather Event.drawn k.history)

namespace Shows

theorem fill {es : List Event} (h : Shows w v written k) (hk : k'.Hoards) (hf : Fills k k' es) :
    Shows w v written k' :=
  ⟨hk, by rw [hf.drawn]; exact h.part, by rw [hf.drawn]; exact h.whole⟩

theorem say (ls : List LogRecord) (h : Shows w v written k) : Shows w v written (k.say ls) :=
  h.fill (h.hoards.say ls) (.say ls k)

theorem call {q : CallRequest} (hq : q ≠ .messages) (h : Shows w v written k) :
    Shows w v written (k.call q) := by
  have hb : Befalls k (.call q) (k.call q) := .call q
  obtain ⟨es, hf⟩ := Fills.befall hb
  exact h.fill (h.hoards.call hq) hf

theorem of_verdict (h : Shows w none written k) : Shows w v written k :=
  ⟨h.hoards, h.part, fun _ => h.whole (by simp)⟩

/-- The queue is taken and printed. -/
theorem drained {c c' : Console} {done : Prop} (h : Shows w none c.written k)
    (hw : c.Writes c' (printed k.queue) done) (ls : List LogRecord)
    (hv : (∀ reason, v ≠ some (.error reason)) → done) :
    Shows w v c'.written (k.takeQueue.2.say ls) := by
  have hdrawn : gather Event.drawn k.takeQueue.2.history
      = gather Event.drawn k.history ++ k.queue := by
    simp [takeQueue, record]
  have hc := h.whole (by simp)
  refine .say ls ⟨h.hoards.takeQueue, ?_, fun hno => ?_⟩
  · obtain ⟨x, hx, hc'⟩ := hw.part
    refine ⟨printed (gather Event.drawn k.history) ++ x, ?_, ?_⟩
    · rw [hdrawn, printed_append]
      exact (List.prefix_append_right_inj _).2 hx
    · rw [hc', hc, List.append_assoc]
  · rw [hw.whole (hv hno), hc, hdrawn, printed_append, List.append_assoc]

end Shows

/-- What has been written by a run. -/
def Prints (w : List UInt8) (r : Run State Op) : Prop :=
  Shows w r.phase.verdict r.console.written r.keeper

namespace Prints

theorem clean {e : Ending} (h : Shows w (some e) r.console.written r.keeper) :
    Prints w (Run.clean e r) :=
  h.call (by simp)

theorem leave (h : Shows w none r.console.written r.keeper) : Prints w r.leave := by
  have hw := Run.drain_writes r
  obtain ⟨ls, console, hr⟩ := Run.drain_says r
  unfold Run.leave
  split <;> rename_i hd <;> rw [hd] at hw hr <;> cases hr
  · exact clean (h.drained hw ls fun _ => ⟨_, rfl⟩)
  · exact clean (h.drained hw ls fun hv => absurd rfl (hv _))

theorem look (hp : r.phase = .looping) (h : Shows w none r.console.written r.keeper) :
    Prints w r.look := by
  unfold Run.look
  extract_lets now due
  have hw := Run.drain_writes { r with tick := due + drainInterval }
  obtain ⟨ls, console, hr⟩ := Run.drain_says { r with tick := due + drainInterval }
  split <;> rename_i hd <;> rw [hd] at hw hr <;> cases hr
  · rw [Prints, hp]
    exact h.drained hw ls fun _ => ⟨_, rfl⟩
  · -- what comes in between the two looks is printed at the second
    exact leave (h.drained hw ls fun _ => ⟨_, rfl⟩)
  · exact clean (h.drained hw ls fun hv => absurd rfl (hv _))

theorem takeLine (hp : r.phase = .looping) (h : Shows w none r.console.written r.keeper) :
    Prints w r.takeLine := by
  have hsame : Prints w r := by
    rw [Prints, hp]
    exact h
  unfold Run.takeLine
  rcases r.input.next? with _ | ⟨line, input⟩
  · exact hsame
  rcases line with line | reason | _
  · simp only [Run.forward]
    split
    · exact hsame
    · exact h.call (by simp)
  · exact clean h.of_verdict
  · exact leave (h.say [_])

theorem take (hp : r.phase = .looping) (b : Branch) (h : Prints w r) : Prints w (r.take b) := by
  have hsame := h
  rw [Prints, hp] at h
  cases b with
  | shutdown =>
    simp only [Run.take]
    rcases r.shutdown with _ | (e | _)
    · exact hsame
    · exact clean h.of_verdict
    · exact leave h
  | line => exact takeLine hp h
  | tick => exact look hp h

theorem next (hs : s.Apart) (hn : r.next? T s = some r') (h : Prints w r) : Prints w r' := by
  cases Advances.of_next hn with
  | @keeper s k hk =>
    have hcall : s ≠ .call .messages := by
      rintro rfl
      exact hs
    obtain ⟨hhoards, es, hf⟩ := h.hoards.next hcall hk
    exact Shows.fill h hhoards hf
  | outside => exact h
  | connected hp =>
    rw [Prints, hp] at h
    exact h
  | rejected reason hp =>
    rw [Prints, hp] at h
    exact h.call (by simp)
  | dismissed hp =>
    rw [Prints, hp] at h
    exact h.of_verdict
  | forwarded ls hp =>
    rw [Prints, hp] at h
    exact h.say ls
  | cleaned ls hp =>
    rw [Prints, hp] at h
    exact h.say ls
  | _ =>
    obtain ⟨hp, -, hr⟩ := Run.take_of_next hn
    exact hr ▸ take hp _ h

theorem start {kind : TransportKind} {config : LinkConfig} {transport : State} {installed : Bool}
    {input : Input} {console : Console} : Prints console.written
      (.fresh kind config transport installed input console : Run State Op) := by
  have hfresh : Shows console.written none console.written
      (Keeper.fresh config transport installed : Keeper State Op) :=
    ⟨.fresh, ⟨[], List.nil_prefix, by simp⟩, fun _ => by simp [Keeper.fresh, printed]⟩
  exact (hfresh.say [_]).call (by simp)

theorem run {ss : List (RunStep State)} (h : Leads T RunStep.Apart r ss r') (hr : Prints w r) :
    Prints w r' := by
  induction h with
  | nil => exact hr
  | cons hs hn _ ih => exact ih (hr.next hs hn)

end Prints

theorem pushed_of_skims (hk : k.Skims k') :
    gather Event.pushed k'.history = gather Event.pushed k.history := by
  induction hk with
  | refl => rfl
  | say ls _ ih =>
    have hnone : gather Event.pushed (ls.map Event.logged) = [] := gather_eq_nil (by simp)
    rw [(Fills.say ls _).history, gather_append, hnone, List.append_nil, ih]
  | take _ ih => simpa [takeQueue, record] using ih

/-- A run leaves its loop well. It cleans up as soon as it has taken the queue: nothing is pushed
in between, and nothing but lines of the log comes after the taking. -/
structure Run.Leaves (r r' : Run State Op) : Prop where
  looping : r.phase = .looping
  cleaning : r'.phase = .cleaning r.keeper.calls.length (.ok ())
  queue : r'.keeper.queue = []
  history : ∃ (ls : List LogRecord) (l : List String) (older : List Event),
    r'.keeper.history = .called r.keeper.calls.length .cleanup ::
      (ls.map Event.logged ++ .drained l :: older) ∧
    gather Event.pushed older = gather Event.pushed r.keeper.history

namespace Run.Leaves

/-- The end of a branch that leaves the loop well, whatever it has printed before. -/
theorem leave (hp : r.phase = .looping) (hk : r.keeper.Skims r'.keeper)
    (hv : r'.leave.phase.verdict = some (.ok ())) : r.Leaves r'.leave := by
  obtain ⟨ls, console, ending, hr⟩ := Run.leave_says r'
  have hcalls : r'.keeper.calls = r.keeper.calls := by
    obtain ⟨queue, history, hf⟩ := hk.frame
    rw [hf]
  rw [hr] at hv ⊢
  obtain rfl : ending = .ok () := Option.some.inj hv
  refine ⟨hp, congrArg (Phase.cleaning · _) (congrArg List.length hcalls), rfl, ls,
    r'.keeper.queue, r'.keeper.history, ?_, pushed_of_skims hk⟩
  rw [← hcalls]
  rfl

theorem look (hp : r.phase = .looping) :
    r.look.phase.verdict = some (.ok ()) → r.Leaves r.look := by
  unfold Run.look
  extract_lets now due
  obtain ⟨ls, console, hr⟩ := Run.drain_says { r with tick := due + drainInterval }
  split <;> rename_i hd <;> rw [hd] at hr <;> cases hr <;> intro hv
  · rw [hp] at hv
    cases hv
  · exact leave hp (.say ls (.take .refl)) hv
  · cases hv

theorem takeLine (hp : r.phase = .looping) :
    r.takeLine.phase.verdict = some (.ok ()) → r.Leaves r.takeLine := by
  have hloop : r.phase.verdict ≠ some (.ok ()) := by simp [hp, Phase.verdict]
  unfold Run.takeLine
  rcases r.input.next? with _ | ⟨line, input⟩
  · exact fun hv => absurd hv hloop
  rcases line with line | reason | _ <;> intro hv
  · simp only [Run.forward] at hv
    split at hv
    · exact absurd hv hloop
    · cases hv
  · cases hv
  · exact leave hp (Skims.refl.say [_]) hv

theorem take (hp : r.phase = .looping) (b : Branch) :
    (r.take b).phase.verdict = some (.ok ()) → r.Leaves (r.take b) := by
  cases b with
  | shutdown =>
    simp only [Run.take]
    rcases r.shutdown with _ | (e | _) <;> intro hv
    · rw [hp] at hv
      cases hv
    · cases hv
    · exact leave hp .refl hv
  | line => exact takeLine hp
  | tick => exact look hp

/-- A run whose session has not ended well leaves its loop when it does. -/
theorem of_next (hn : r.next? T s = some r') (hv : r.phase.verdict ≠ some (.ok ()))
    (hv' : r'.phase.verdict = some (.ok ())) : ∃ b, s = .take b ∧ r.Leaves r' := by
  cases Advances.of_next hn with
  | keeper => exact absurd hv' hv
  | outside => exact absurd hv' hv
  | connected => cases hv'
  | rejected => cases hv'
  | dismissed => cases hv'
  | forwarded => cases hv'
  | cleaned ls hp =>
    rw [hp] at hv
    exact absurd hv' hv
  | _ =>
    obtain ⟨hp, -, hr⟩ := Run.take_of_next hn
    rw [hr] at hv' ⊢
    exact ⟨_, rfl, take hp _ hv'⟩

end Run.Leaves

/-- Nothing is written once it is clear how the session ends. -/
theorem written_of_verdict {ss : List (RunStep State)} {e : Ending}
    (h : Leads T RunStep.Apart r ss r') (hv : r.phase.verdict = some e) :
    r'.console.written = r.console.written := by
  refine (h.invariant (P := fun r₁ => r₁.phase.verdict = some e ∧
    r₁.console.written = r.console.written) (fun _ ha ⟨hv₁, hw⟩ => ?_) ⟨hv, rfl⟩).2
  cases ha with
  | keeper => exact ⟨hv₁, hw⟩
  | outside => exact ⟨hv₁, hw⟩
  | cleaned ls hp =>
    rw [hp] at hv₁
    exact ⟨hv₁, hw⟩
  | _ =>
    -- the other steps are taken before that
    simp_all [Phase.verdict]

/-- Whatever happens to a run, what it has written are messages that were pushed, each once and in
order, but for an end. When it ends well it has left its loop at one of its steps, and all that was
pushed by then has been written, what came since it last looked and what stood behind a notice of
failure included. -/
theorem written_of_run {kind : TransportKind} {config : LinkConfig} {transport : State}
    {installed : Bool} {input : Input} {console : Console} {ss : List (RunStep State)}
    (h : Leads T RunStep.Apart (.fresh kind config transport installed input console) ss r) :
    (∃ x, x <+: printed (gather Event.pushed r.keeper.history) ∧
      r.console.written = console.written ++ x) ∧
    (r.phase = .finished (.ok ()) → ∃ before b after r₁ r₂, ss = before ++ .take b :: after ∧
      Leads T RunStep.Apart (.fresh kind config transport installed input console) before r₁ ∧
      r₁.next? T (.take b) = some r₂ ∧ r₁.Leaves r₂ ∧ Leads T RunStep.Apart r₂ after r ∧
      r.console.written = console.written ++ printed (gather Event.pushed r₁.keeper.history)) := by
  have hr := Prints.start.run h
  obtain ⟨x, hx, hw⟩ := hr.part
  refine ⟨⟨x, hx.trans ?_, hw⟩, fun hp => ?_⟩
  · rw [hr.hoards.queue, printed_append]
    exact List.prefix_append _ _
  obtain ⟨before, s, after, r₁, r₂, rfl, hbefore, hv₁, hn, hv₂, hafter⟩ :=
    h.split_at (P := fun r => r.phase.verdict = some (.ok ())) (by simp [Run.fresh, Run.start,
      Phase.verdict]) (by rw [hp]; rfl)
  obtain ⟨b, rfl, hl⟩ := Run.Leaves.of_next hn hv₁ hv₂
  have hr₂ := (Prints.start.run hbefore).next (s := .take b) trivial hn
  obtain ⟨ls, l, older, hh, hpushed⟩ := hl.history
  refine ⟨before, b, after, r₁, r₂, rfl, hbefore, hn, hl, hafter, ?_⟩
  have hall : gather Event.drawn r₂.keeper.history = gather Event.pushed r₁.keeper.history := by
    have hnone : gather Event.pushed (ls.map Event.logged) = [] := gather_eq_nil (by simp)
    have hq := hr₂.hoards.queue
    rw [hl.queue, List.append_nil] at hq
    rw [← hq, hh, ← hpushed]
    simp [hnone]
  rw [written_of_verdict hafter hv₂, hr₂.whole (by simp [hv₂]), hall]

/-- An output that refuses nothing lets a run leave its loop well. -/
theorem Run.leave_unrefused (hw : ∀ w b, r.console.refusal w b = none)
    (hf : ∀ w, r.console.flushRefusal w = none) : ∃ ls console, r.leave =
      clean (.ok ()) { r with keeper := r.keeper.takeQueue.2.say ls, console } := by
  obtain ⟨ls, console, hr⟩ := drain_says r
  have hd := drain_unrefused hw hf
  refine ⟨ls, console, ?_⟩
  unfold leave
  rcases hdrain : r.drain with ⟨r', o⟩
  rw [hdrain] at hr hd
  cases hr
  cases hd
  rfl

/-- Two messages come in, and then the shutdown. -/
def servedSteps : List (RunStep Rehearsal.Stage) :=
  connectedSteps ++ [.keeper (.disturb { up := true, hasSink := true, inbound := ["a", "b"] }),
    .keeper (.resume (.watch 0)), .shutDown (.ok ())]

/-- The session is cleaned up; the link is down by then. -/
def cleanupSteps : List (RunStep Rehearsal.Stage) :=
  [.keeper (.resume (.call 1)), .keeper (.resume (.call 1)), .keeper (.disturb {}),
    .keeper (.resume (.watch 0)), .keeper (.resume (.call 1)), .proceed]

theorem written_of_run_served : ∃ r r', Leads Rehearsal.stage RunStep.Apart
      (.fresh .tcp {} { hasSink := true } true {} {}) servedSteps r ∧
    r.keeper.queue = ["a", "b"] ∧
    Leads Rehearsal.stage RunStep.Apart (.fresh .tcp {} { hasSink := true } true {} {})
      (servedSteps ++ .take .shutdown :: cleanupSteps) r' ∧
    r'.phase = .finished (.ok ()) ∧ ∃ before b after r₁ r₂,
      servedSteps ++ .take .shutdown :: cleanupSteps = before ++ .take b :: after ∧
      Leads Rehearsal.stage RunStep.Apart (.fresh .tcp {} { hasSink := true } true {} {})
        before r₁ ∧
      r₁.Leaves r₂ ∧ r'.console.written = printed (gather Event.pushed r₁.keeper.history) := by
  obtain ⟨r, h, hq, hp, hs, hw, hf, hrest⟩ : ∃ r : Run Rehearsal.Stage Rehearsal.Op,
      Leads Rehearsal.stage RunStep.Apart (.fresh .tcp {} { hasSink := true } true {} {})
        servedSteps r ∧
      r.keeper.queue = ["a", "b"] ∧ r.phase = .looping ∧ r.shutdown = some (.ok ()) ∧
      (∀ w b, r.console.refusal w b = none) ∧ (∀ w, r.console.flushRefusal w = none) ∧
      ∀ ls console, ∃ r', Leads Rehearsal.stage RunStep.Apart (Run.clean (.ok ())
          { r with keeper := r.keeper.takeQueue.2.say ls, console }) cleanupSteps r' ∧
        r'.phase = .finished (.ok ()) :=
    ⟨_, .cons trivial rfl <| .cons trivial rfl <| .cons trivial rfl <| .cons trivial rfl <|
      .cons trivial rfl <| .cons trivial rfl <| .nil _, rfl, rfl, rfl, fun _ _ => rfl,
      fun _ => rfl, fun _ _ => ⟨_, .cons trivial rfl <| .cons trivial rfl <|
        .cons trivial rfl <| .cons trivial rfl <| .cons trivial rfl <| .cons trivial rfl <|
        .nil _, rfl⟩⟩
  obtain ⟨ls, console, hleave⟩ := Run.leave_unrefused hw hf
  obtain ⟨r', hr', hp'⟩ := hrest ls console
  have htake : r.next? Rehearsal.stage (.take .shutdown) = some r.leave := by
    simp [Run.next?, hp, Run.open?, hs, Run.take]
  have hall := h.append (.cons (s := .take .shutdown) trivial htake (hleave ▸ hr'))
  obtain ⟨-, hlast⟩ := written_of_run hall
  obtain ⟨before, b, after, r₁, r₂, hss, hbefore, -, hl, -, hwritten⟩ := hlast hp'
  exact ⟨r, r', h, hq, hall, hp', before, b, after, r₁, r₂, hss, hbefore, hl, hwritten⟩

end Runs

end Launcher

end SessionKeeper
