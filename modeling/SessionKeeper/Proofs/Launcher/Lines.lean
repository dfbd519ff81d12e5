import SessionKeeper.Proofs.Launcher.Printing
import SessionKeeper.Proofs.Socket.Afresh
import SessionKeeper.Proofs.Socket.Splitting

/-!
# One line for each message

What a socket hands over are texts of segments, so they are not empty and have no newline in them,
whatever the bytes were and wherever they were cut (`oneLine_of_delivered`). A notice is printed as
JSON, which has no control characters. Nothing else is put into the queue (`Stocks.move`), so what a
run has printed comes apart into its messages again at the newlines (`splitOn_of_run`).
-/

namespace SessionKeeper

variable {State Op : Type}

/-- A text that makes one line when it is printed. -/
def Text.OneLine (m : String) : Prop := m ≠ "" ∧ '\n' ∉ m.toList

open Text (OneLine)

theorem Notice.oneLine_message (n : Notice) : OneLine n.message := by
  constructor
  · intro h
    have hj : n.message.toList ≠ [] := by simp [Notice.message, Json.printTable]
    exact hj (by rw [h]; rfl)
  · intro h
    exact absurd (n.plain_message _ h) (by decide)

namespace Socket

theorem notMem_segments {b l : List UInt8} (h : l ∈ (segments b).1) : newline ∉ l := by
  induction b using lines_induction with
  | line x hx =>
    rw [segments_line hx] at h
    cases h
  | cons x b hx ih =>
    rw [segments_cons hx] at h
    rcases List.mem_cons.1 h with rfl | h
    · exact hx
    · exact ih h

theorem oneLine_of_mem_messages {b : List UInt8} {m : String} (h : m ∈ (takeLines b).messages) :
    OneLine m := by
  rw [takeLines_messages, messagesOf, List.mem_filterMap] at h
  obtain ⟨line, hline, hm⟩ := h
  have hs := shows_messageOf line
  rw [hm] at hs
  cases hs with
  | text ht hne =>
    refine ⟨hne, fun hn => notMem_segments hline ?_⟩
    have hd : '\n' ∈ (Text.Utf8.decodeLossy line).toList := by
      rw [ht]
      exact List.mem_append_left _ hn
    exact Text.Utf8.mem_of_mem_decodeLossy hd (by decide) (by decide)

/-- What a socket hands over in a turn makes one line each. -/
theorem oneLine_of_delivered (op : Socket.Op) (now : Nat) (s : Socket) {m : String}
    (h : m ∈ (transport.run op now s).delivered) : OneLine m := by
  have hd := Deals.run s op now
  replace h : m ∈ (s.run op now).delivered := h
  cases hg : op.gets s with
  | some w =>
    rw [(hd.dials w hg).1] at h
    cases h
  | none =>
    rcases hd.bides hg with ⟨hnone, -⟩ | ⟨l, -, hl, -⟩
    · rw [hnone] at h
      cases h
    · rw [hl] at h
      split at h
      · exact oneLine_of_mem_messages h
      · cases h

end Socket

namespace Keeper

variable {T : Transport State Op} {k k' : Keeper State Op} {a : Actor} {P : String → Prop}

/-- What waits in the sink and what has been put into the queue are such messages. -/
structure Stocks (P : String → Prop) (k : Keeper State Op) : Prop where
  inbound : ∀ m ∈ k.inbound, P m
  pushed : ∀ m ∈ gather Event.pushed k.history, P m

namespace Stocks

theorem fresh {config : LinkConfig} {transport : State} {installed : Bool} :
    Stocks P (Keeper.fresh config transport installed : Keeper State Op) := by
  constructor <;> simp [Keeper.fresh]

theorem pass {es : List Event} (h : Stocks P k) (hp : Passes k k' es)
    (hes : ∀ m ∈ gather Event.handed es, P m) (hn : ∀ n : Notice, P n.message) : Stocks P k' := by
  have hsink : ∀ m ∈ gather Event.moved es ++ k'.inbound, P m := by
    rw [← hp.inbound]
    exact List.forall_mem_append.2 ⟨h.inbound, hes⟩
  obtain ⟨hmoved, hinbound⟩ := List.forall_mem_append.1 hsink
  refine ⟨hinbound, ?_⟩
  rw [hp.history, gather_append]
  refine List.forall_mem_append.2 ⟨h.pushed, fun m hm => ?_⟩
  rcases mem_gather_pushed hm with hm | ⟨who, n, -, rfl⟩
  · exact hmoved m hm
  · exact hn n

theorem move (hT : ∀ op now s, ∀ m ∈ (T.run op now s).delivered, P m)
    (hn : ∀ n : Notice, P n.message) (hm : Move T a k k') (h : Stocks P k) : Stocks P k' := by
  obtain ⟨es, hp⟩ := Passes.move hm
  refine h.pass hp ?_ hn
  have hh := handed_of_move hm
  rw [hp.history, gather_append] at hh
  rcases hh with hh | ⟨op, hh⟩
  · rw [List.append_right_eq_self.1 hh]
    simp
  · rw [List.append_cancel_left hh]
    exact hT op k.now k.transport

theorem befall {s : Step State} (hn : ∀ n : Notice, P n.message) (hb : Befalls k s k')
    (h : Stocks P k) : Stocks P k' := by
  cases hb with
  | call r => exact h.pass (.of_quiet [.called _ r] rfl rfl rfl (by simp)) (by simp) hn
  | _ => exact ⟨h.inbound, h.pushed⟩

theorem takeQueue (h : Stocks P k) : Stocks P k.takeQueue.2 := by
  refine ⟨h.inbound, ?_⟩
  simpa [Keeper.takeQueue, record] using h.pushed

end Stocks

end Keeper

namespace Launcher

open Keeper

/-- What is printed comes apart into its messages at the newlines; nothing follows the last one. -/
theorem splitOn_printed {ms : List String} (h : ∀ m ∈ ms, OneLine m) :
    (printed ms).splitOn newline = (ms ++ [""]).map Text.Utf8.encode := by
  induction ms with
  | nil => simp [printed, Text.Utf8.encode_eq]
  | cons m ms ih =>
    have hm : newline ∉ Text.Utf8.encode m := fun hn =>
      (h m (by simp)).2 (Text.Utf8.mem_of_mem_encode hn (by decide))
    have hcons : printed (m :: ms) = Text.Utf8.encode m ++ newline :: printed ms := by
      simp [printed]
    rw [hcons, List.splitOn_append_cons_self_of_not_mem hm, ih fun m' hm' => h m' (by simp [hm'])]
    rfl

/-- Whatever bytes come in, wherever they are cut and whatever becomes of the link, every message
that is put into the queue makes one line, and has been taken out of it in order or waits there. So
if a run ends well, its output comes apart at the newlines into the texts of what it has taken, and
nothing else. -/
theorem splitOn_of_run {kind : TransportKind} {config : LinkConfig} {socket : Socket}
    {installed : Bool} {input : Input} {console : Console} {ss : List (RunStep Socket)}
    {r : Run Socket Socket.Op}
    (h : Leads Socket.transport RunStep.Apart
      (.fresh kind config socket installed input console) ss r) :
    (∀ m ∈ gather Event.pushed r.keeper.history, m ≠ "" ∧ '\n' ∉ m.toList) ∧
    gather Event.pushed r.keeper.history
      = gather Event.drawn r.keeper.history ++ r.keeper.queue ∧
    (r.phase = .finished (.ok ()) → ∃ out, r.console.written = console.written ++ out ∧
      (out.splitOn newline).map Text.Utf8.decode?
        = (gather Event.drawn r.keeper.history ++ [""]).map some) := by
  have hstocks : r.keeper.Stocks OneLine := by
    have hmove : ∀ {a : Actor} {k k' : Keeper Socket Socket.Op}, Move Socket.transport a k k' →
        Stocks OneLine k → Stocks OneLine k' :=
      Stocks.move Socket.oneLine_of_delivered Notice.oneLine_message
    refine h.keeps (P := Stocks OneLine) hmove (Stocks.befall Notice.oneLine_message)
      Stocks.takeQueue ?_
    exact (hmove (.say (a := .call 0) [_]) .fresh).befall Notice.oneLine_message (.call _)
  have hprints := Prints.start.run h
  have hqueue := hprints.hoards.queue
  have hdrawn : ∀ m ∈ gather Event.drawn r.keeper.history, OneLine m := fun m hm =>
    hstocks.pushed m (hqueue ▸ List.mem_append_left _ hm)
  refine ⟨hstocks.pushed, hqueue, fun hp => ⟨_, hprints.whole ?_, ?_⟩⟩
  · rw [hp]
    simp [Phase.verdict]
  · rw [splitOn_printed hdrawn, List.map_map]
    exact List.map_congr_left fun m _ => Text.Utf8.decode?_encode m

/-- A socket whose server takes every dial. -/
def openSocket : Socket where
  network := { lookup := fun _ => .found, dial := fun _ => .accepted {} }
  hasSink := true

/-- A run over it that waits shortly when it cleans up. -/
def openRun : Run Socket Socket.Op := .fresh .tcp { joinTimeoutMs := 10 } openSocket true {} {}

/-- The socket once its server has sent a line and the beginning of another: the line has a byte in
it that is no UTF-8, and a carriage return at its end. -/
def talkingSocket : Socket :=
  { openSocket with
    connected := true
    link := some {
      peer := { host := "127.0.0.1", port := 8080 }
      wire := { arrived := [0xFF, 104, 105, 13, 10, 33] } } }

/-- A session over a socket is lost after a line has come in, and then the shutdown comes. -/
def droppedSteps : List (RunStep Socket) :=
  [.keeper (.resume (.call 0)), .keeper (.resume (.call 0)), .proceed,
    .keeper (.disturb talkingSocket), .keeper (.resume (.watch 0)),
    .keeper (.disturb openSocket), .keeper (.pass 10), .keeper (.resume (.watch 0)),
    .shutDown (.ok ())]

/-- The session is cleaned up. -/
def dismissSteps : List (RunStep Socket) :=
  [.keeper (.resume (.call 1)), .keeper (.resume (.call 1)), .keeper (.pass 10),
    .keeper (.resume (.call 1)), .proceed]

theorem splitOn_of_run_dropped : ∃ r r' : Run Socket Socket.Op,
    Leads Socket.transport RunStep.Apart openRun droppedSteps r ∧
    r.keeper.queue = ["\uFFFDhi", (Notice.lost 300).message] ∧
    Leads Socket.transport RunStep.Apart openRun
      (droppedSteps ++ .take .shutdown :: dismissSteps) r' ∧
    r'.phase = .finished (.ok ()) ∧
    (r'.console.written.splitOn newline).map Text.Utf8.decode?
      = (gather Event.drawn r'.keeper.history ++ [""]).map some := by
  obtain ⟨r, h, hq, hp, hs, hw, hf, hrest⟩ : ∃ r : Run Socket Socket.Op,
      Leads Socket.transport RunStep.Apart openRun droppedSteps r ∧
      r.keeper.queue = ["\uFFFDhi", (Notice.lost 300).message] ∧ r.phase = .looping ∧
      r.shutdown = some (.ok ()) ∧
      (∀ w b, r.console.refusal w b = none) ∧ (∀ w, r.console.flushRefusal w = none) ∧
      ∀ ls console, ∃ r', Leads Socket.transport RunStep.Apart (Run.clean (.ok ())
          { r with keeper := r.keeper.takeQueue.2.say ls, console }) dismissSteps r' ∧
        r'.phase = .finished (.ok ()) := by
    -- what is read of the bytes decides on how the watch goes on, so it has to be evaluated
    with_unfolding_all exact ⟨_, .cons trivial rfl <| .cons trivial rfl <| .cons trivial rfl <|
      .cons trivial rfl <| .cons trivial rfl <| .cons trivial rfl <| .cons trivial rfl <|
      .cons trivial rfl <| .cons trivial rfl <| .nil _,
      rfl, rfl, rfl, fun _ _ => rfl, fun _ => rfl, fun _ _ => ⟨_, .cons trivial rfl <|
        .cons trivial rfl <| .cons trivial rfl <| .cons trivial rfl <| .cons trivial rfl <|
        .nil _, rfl⟩⟩
  obtain ⟨ls, console, hleave⟩ := Run.leave_unrefused hw hf
  obtain ⟨r', hr', hp'⟩ := hrest ls console
  have htake : r.next? Socket.transport (.take .shutdown) = some r.leave := by
    simp [Run.next?, hp, Run.open?, hs, Run.take]
  have hall := h.append (.cons (s := .take .shutdown) trivial htake (hleave ▸ hr'))
  obtain ⟨-, -, hlast⟩ := splitOn_of_run hall
  obtain ⟨out, hout, hsplit⟩ := hlast hp'
  exact ⟨r, r', h, hq, hall, hp', by rw [hout]; exact hsplit⟩

end Launcher

end SessionKeeper
