import SessionKeeper.Proofs.Keeper.Moves

/-!
# Going on is moving

What an actor does when it goes on is a row of moves (`resume_moves`). An operation that is started
is run at once; it is put in place first, which makes no difference (`pump_setWatch`,
`dial_setEpisode`, `dialCall_setCall`), and its first turn is then a move like the later ones.
-/

namespace SessionKeeper.Keeper

open Relation (ReflTransGen)

variable {State Op : Type} {T : Transport State Op}

section Watch

variable {i : Nat} {w : Watch Op} {k : Keeper State Op}

theorem pump_setWatch (w' : Watch Op) (p : WatchPhase Op) (op : Op) :
    (k.setWatch i w').pump T i { w with phase := p } op = k.pump T i w op := by
  unfold pump
  rw [operate_eq, operate_eq, show (k.setWatch i w').turn T op = k.turn T op from rfl]
  rcases (k.turn T op).progress with op' | f | code <;>
    simp [forward_eq, rest_eq, setWatch, absorb, log, record, Watch.nextPhase, Watch.lastPhase]

theorem pump_moves {op : Op} (hw : k.watches[i]? = some w) (hp : w.phase = .pumping op) :
    ReflTransGen (Move T (.watch i)) k (k.pump T i w op) := by
  unfold pump
  rw [operate_eq]
  rcases ht : (k.turn T op).progress with op' | f | code
  · exact .single (.pumping hw hp ht)
  · exact .single (.pumped [_] hw hp ht)
  · exact .single (.pumped [] hw hp ht)

theorem getElem?_setWatch (hw : k.watches[i]? = some w) (w' : Watch Op) :
    (k.setWatch i w').watches[i]? = some w' := by
  obtain ⟨hi, -⟩ := List.getElem?_eq_some_iff.1 hw
  simp [setWatch, hi]

theorem look_moves (hw : k.watches[i]? = some w) (hl : w.Looks k.now) :
    ReflTransGen (Move T (.watch i)) k (k.look T i w) := by
  have hidle : w.Idle := hl.imp id fun ⟨t, _, h⟩ => ⟨t, h⟩
  unfold look
  split
  · rename_i hs
    exact .single (.leave hw hidle hs)
  rename_i hs
  simp only [Bool.not_eq_true] at hs
  simp only []
  split
  · rename_i hu
    rw [hu, ← pump_setWatch { w with seenUp := true, phase := .pumping (T.start .pump) }
      (.pumping (T.start .pump))]
    exact .trans (.single (.sight hw hl hs hu)) (pump_moves (getElem?_setWatch hw _) rfl)
  rename_i hu
  simp only [Bool.not_eq_true] at hu
  rw [hu]
  split
  · rename_i hn
    refine .single (.ignore hw hl hs hu ?_)
    simpa [record] using hn
  rename_i hn
  simp only [record, Bool.or_eq_true, Bool.not_eq_true', beq_iff_eq, not_or,
    Bool.not_eq_false] at hn
  have hlose := Move.lose hw hl hs hu hn.1 hn.2
  split
  · exact .single hlose
  · rename_i he
    simp only [Option.isSome_iff_ne_none, ne_eq, not_not] at he
    have hb := Move.beginEpisode (T := T) (getElem?_setWatch
      (k := (k.record (.looked i false)).lose i)
      hw { w with seenUp := false, phase := .replacing (k.endpoint.getD k.config.endpoint) }) rfl
      (by simp [he])
    convert (ReflTransGen.single hlose).tail hb using 1
    simp [beginEpisode, rest_eq, setWatch, lose, log, record, setState, notify, Watch.nextPhase,
      Watch.lastPhase]

theorem reportAborted_eq (label : String) (w : Watch Op) (k : Keeper State Op) :
    ∃ ls, k.reportAborted label w = k.say ls := by
  unfold reportAborted
  split
  · exact ⟨[_], rfl⟩
  · exact ⟨[], rfl⟩

theorem resumeWatch_moves (h : k.ready T (.watch i) = true) :
    ReflTransGen (Move T (.watch i)) k (k.resumeWatch T i) := by
  simp only [ready, Option.any_eq_true] at h
  obtain ⟨w, hw, hr⟩ := h
  unfold resumeWatch
  rw [hw]
  simp only [watchReady] at hr
  rcases hp : w.phase with _ | op | target | t | _ | _ | _ <;> rw [hp] at hr <;> simp only [hp]
  · exact look_moves hw (.inl hp)
  · exact pump_moves hw hp
  · obtain ⟨ls, hls⟩ := reportAborted_eq "Previous reconnect loop" w k
    rw [hls]
    exact .head (.say ls) (.single (.beginEpisode hw hp hr))
  · split
    · rename_i hs
      exact .single (.leave hw (.inr ⟨t, hp⟩) hs)
    · rename_i hs
      simp only [hs, Bool.false_or, decide_eq_true_eq] at hr
      exact look_moves hw (.inr ⟨t, hr, hp⟩)
  · obtain ⟨ls, hls⟩ := reportAborted_eq "Reconnect loop" w k
    rw [hls]
    exact .head (.say ls) (.single (.finish hw hp hr))
  all_goals exact .refl

end Watch

section Episode

variable {i : Nat} {e : Episode Op} {k : Keeper State Op}

theorem getElem?_setEpisode (he : k.episodes[i]? = some e) (e' : Episode Op) :
    (k.setEpisode i e').episodes[i]? = some e' := by
  obtain ⟨hi, -⟩ := List.getElem?_eq_some_iff.1 he
  simp [setEpisode, hi]

theorem setEpisode_setEpisode (e e' : Episode Op) (k : Keeper State Op) :
    (k.setEpisode i e).setEpisode i e' = k.setEpisode i e' := by
  simp [setEpisode]

theorem stopEpisode_setEpisode (e' : Episode Op) (p : EpisodePhase Op) (k : Keeper State Op) :
    (k.setEpisode i e').stopEpisode i { e with phase := p } = k.stopEpisode i e := by
  simp only [stopEpisode, setEpisode_setEpisode]

theorem closeLate_setEpisode (e' : Episode Op) (p : EpisodePhase Op) (op : Op) :
    (k.setEpisode i e').closeLate T i { e with phase := p } op = k.closeLate T i e op := by
  unfold closeLate
  rw [operate_eq, operate_eq, show (k.setEpisode i e').turn T op = k.turn T op from rfl]
  rcases (k.turn T op).progress with op' | f | code
  · exact setEpisode_setEpisode _ _ (k.absorb _ _)
  · exact stopEpisode_setEpisode e' p ((k.absorb _ _).log _ _ _)
  · exact stopEpisode_setEpisode e' p (k.absorb _ _)

theorem closeLate_moves {op : Op} (he : k.episodes[i]? = some e) (hp : e.phase = .closing op) :
    ReflTransGen (Move T (.episode i)) k (k.closeLate T i e op) := by
  unfold closeLate
  rw [operate_eq]
  rcases ht : (k.turn T op).progress with op' | f | code
  · exact .single (.closing he hp ht)
  · exact .single (.undone [_] he hp ht)
  · exact .single (.undone [] he hp ht)

theorem dial_setEpisode (e' : Episode Op) (p : EpisodePhase Op) (op : Op) :
    (k.setEpisode i e').dial T i { e with phase := p } op = k.dial T i e op := by
  unfold dial
  rw [operate_eq, operate_eq, show (k.setEpisode i e').turn T op = k.turn T op from rfl]
  rcases (k.turn T op).progress with op' | r
  · exact setEpisode_setEpisode _ _ (k.absorb _ _)
  have hs : ((k.setEpisode i e').absorb (.episode i) (k.turn T op)).isStopped e.watch
    = (k.absorb (.episode i) (k.turn T op)).isStopped e.watch := rfl
  have ho : ((k.setEpisode i e').absorb (.episode i) (k.turn T op)).attemptOutcome T r
    = (k.absorb (.episode i) (k.turn T op)).attemptOutcome T r := rfl
  simp only [judge, hs, ho]
  rcases (k.absorb (.episode i) (k.turn T op)).isStopped e.watch <;>
    rcases (k.absorb (.episode i) (k.turn T op)).attemptOutcome T r with f | (_ | _)
  · simp [restEpisode, setEpisode, absorb, log, record]
  · simp [restEpisode, setEpisode, absorb]
  · simp [succeed, setEpisode, absorb, log, record, setState, notify]
  · exact stopEpisode_setEpisode e' p (k.absorb _ _)
  · exact stopEpisode_setEpisode e' p (k.absorb _ _)
  · exact closeLate_setEpisode (k := (k.absorb (.episode i) (k.turn T op)).record
      (.invoked (.episode i) .disconnect)) e' p _

theorem dial_moves {op : Op} (he : k.episodes[i]? = some e) (hp : e.phase = .dialing op) :
    ReflTransGen (Move T (.episode i)) k (k.dial T i e op) := by
  unfold dial
  rw [operate_eq]
  rcases ht : (k.turn T op).progress with op' | r
  · exact .single (.dialing he hp ht)
  simp only [judge]
  rcases hs : (k.absorb (.episode i) (k.turn T op)).isStopped e.watch <;>
    rcases ho : (k.absorb (.episode i) (k.turn T op)).attemptOutcome T r with f | (_ | _)
  · exact .single (.fail [_] he hp ht hs (by simp [ho]))
  · exact .single (.fail [] he hp ht hs (by simp [ho]))
  · exact .single (.succeed he hp ht hs ho)
  · exact .single (.drain he hp ht hs (by simp [ho]))
  · exact .single (.drain he hp ht hs (by simp [ho]))
  · refine .trans (.single (.undo he hp ht hs ho)) ?_
    rw [← closeLate_setEpisode { e with phase := .closing (T.start .disconnect) }
      (.closing (T.start .disconnect))]
    exact closeLate_moves (getElem?_setEpisode (k := (k.absorb (.episode i) (k.turn T op)).record
      (.invoked (.episode i) .disconnect)) he _) rfl

theorem attempt_moves (he : k.episodes[i]? = some e) (ht : e.Tries k.now) :
    ReflTransGen (Move T (.episode i)) k (k.attempt T i e) := by
  unfold attempt
  simp only []
  split
  · rename_i hs
    exact .single (.stop he (ht.imp id fun ⟨t, _, h⟩ => ⟨t, h⟩) hs)
  rename_i hs
  simp only [Bool.not_eq_true] at hs
  split
  · rename_i hlate
    exact .single (.timeOut he ht hs hlate)
  rename_i hlate
  rw [log_eq]
  generalize [LogRecord.mk _ _ _] = ls
  have hann : Move T (.episode i) (k.say ls) ((k.say ls).announce T i e) :=
    .announce he ht hs (Nat.lt_of_not_le hlate)
  refine .head (.say ls) (.head hann ?_)
  have hdial := dial_moves (T := T) (k := (k.say ls).announce T i e)
    (getElem?_setEpisode (k := (k.say ls).notify _ _ |>.record _) he _) rfl
  exact (dial_setEpisode _ _ _).symm ▸ hdial

theorem resumeEpisode_moves (h : k.ready T (.episode i) = true) :
    ReflTransGen (Move T (.episode i)) k (k.resumeEpisode T i) := by
  simp only [ready, Option.any_eq_true] at h
  obtain ⟨e, he, hr⟩ := h
  unfold resumeEpisode
  rw [he]
  simp only [episodeReady] at hr
  rcases hp : e.phase with _ | op | op | t | _ | _ | _ | _ <;> rw [hp] at hr <;> simp only [hp]
  · exact .head (.say [_]) (attempt_moves (k := k.say _) he (.inl hp))
  · exact dial_moves he hp
  · exact closeLate_moves he hp
  · split
    · rename_i hs
      exact .single (.stop he (.inr ⟨t, hp⟩) hs)
    · rename_i hs
      simp only [hs, Bool.false_or, decide_eq_true_eq] at hr
      exact attempt_moves he (.inr ⟨t, hr, hp⟩)
  all_goals exact .refl

end Episode

section Call

variable {c : Nat} {k : Keeper State Op}

theorem reply_eq (c : Nat) (a : Answer) (k : Keeper State Op) :
    k.reply T c a = (k.conclude c a).release T := rfl

theorem release_moves (a : Actor) (k : Keeper State Op) :
    ReflTransGen (Move T a) k (k.release T) := by
  unfold release
  split
  · exact .refl
  rename_i hh
  simp only [Bool.or_eq_true, not_or, Bool.not_eq_true] at hh
  split
  · exact .refl
  · rename_i i hi
    exact .single (.release hh.1 hh.2 hi)

/-- A move to an answer goes on to a reply. -/
theorem reply_moves {k' : Keeper State Op} {a : Answer}
    (h : Move T (.call c) k (k'.conclude c a)) :
    ReflTransGen (Move T (.call c)) k (k'.reply T c a) :=
  (ReflTransGen.single h).trans (release_moves _ _)

theorem getElem?_setCall {p : CallPhase Op} (hc : k.calls[c]? = some p) (p' : CallPhase Op) :
    (k.setCall c p').calls[c]? = some p' := by
  obtain ⟨hi, -⟩ := List.getElem?_eq_some_iff.1 hc
  simp [setCall, hi]

theorem conclude_setCall (p : CallPhase Op) (a : Answer) (k : Keeper State Op) :
    (k.setCall c p).conclude c a = k.conclude c a := by
  simp [conclude, setCall]

theorem setCall_setCall (p p' : CallPhase Op) (k : Keeper State Op) :
    (k.setCall c p).setCall c p' = k.setCall c p' := by
  simp [setCall]

theorem reply_setCall (p : CallPhase Op) (a : Answer) (k : Keeper State Op) :
    (k.setCall c p).reply T c a = k.reply T c a := by
  rw [reply_eq, reply_eq, conclude_setCall]

theorem sendCall_setCall (p : CallPhase Op) (op : Op) :
    (k.setCall c p).sendCall T c op = k.sendCall T c op := by
  unfold sendCall
  rw [operate_eq, operate_eq, show (k.setCall c p).turn T op = k.turn T op from rfl]
  rcases (k.turn T op).progress with op' | f | code
  · exact setCall_setCall _ _ (k.absorb _ _)
  · exact reply_setCall _ _ (k.absorb _ _)
  · exact reply_setCall _ _ (k.absorb _ _)

theorem sendCall_moves {op : Op} (hc : k.calls[c]? = some (.sending op)) :
    ReflTransGen (Move T (.call c)) k (k.sendCall T c op) := by
  unfold sendCall
  rw [operate_eq]
  rcases ht : (k.turn T op).progress with op' | f | code
  · exact .single (.sending hc ht)
  · exact reply_moves (.sent hc ht)
  · exact reply_moves (.sent hc ht)

theorem dialCall_setCall (p : CallPhase Op) (target : Endpoint) (op : Op) :
    (k.setCall c p).dialCall T c target op = k.dialCall T c target op := by
  unfold dialCall
  rw [operate_eq, operate_eq, show (k.setCall c p).turn T op = k.turn T op from rfl]
  have hrefuse (f : Failure) : ((k.setCall c p).absorb (.call c) (k.turn T op)).refuse T c f
      = (k.absorb (.call c) (k.turn T op)).refuse T c f :=
    reply_setCall p _ ((k.absorb _ _).log _ _ _)
  have haccept : ((k.setCall c p).absorb (.call c) (k.turn T op)).accept T c target
      = (k.absorb (.call c) (k.turn T op)).accept T c target := by
    refine if_congr Iff.rfl (hrefuse _) ?_
    exact setCall_setCall p _ ({ k.absorb _ _ with endpoint := some target }.setState _ _)
  rcases (k.turn T op).progress with op' | f | code
  · exact setCall_setCall _ _ (k.absorb _ _)
  · exact hrefuse _
  · simp only [hrefuse, haccept]
    rfl

theorem refuse_moves {f : Failure} {k' : Keeper State Op}
    (h : ∀ ls, Move T (.call c) k ((k'.say ls).conclude c (.outcome f.outcome))) :
    ReflTransGen (Move T (.call c)) k (k'.refuse T c f) :=
  reply_moves (h [_])

theorem dialCall_moves {target : Endpoint} {op : Op}
    (hc : k.calls[c]? = some (.dialing target op)) :
    ReflTransGen (Move T (.call c)) k (k.dialCall T c target op) := by
  unfold dialCall
  rw [operate_eq]
  rcases ht : (k.turn T op).progress with op' | f | code
  · exact .single (.dialingCall hc ht)
  · exact refuse_moves fun ls => .dialFailed ls hc ht (by simp [attemptOutcome])
  simp only []
  split
  · rename_i hne
    exact refuse_moves fun ls => .dialFailed ls hc ht (by simp [attemptOutcome, hne])
  rename_i hok
  simp only [ne_eq, not_not] at hok
  split
  · rename_i f hf
    exact refuse_moves fun ls => .dialFailed ls hc ht (by simp [attemptOutcome, hok, hf])
  · rename_i hf
    exact refuse_moves fun ls => .dialFailed ls hc ht (by simp [attemptOutcome, hok, hf])
  · rename_i hup
    have hout : (k.absorb (.call c) (k.turn T op)).attemptOutcome T (.ok code) = .ok true := by
      simp [attemptOutcome, hok, hup]
    unfold accept
    split
    · rename_i hs
      exact refuse_moves fun ls => .dialFailed ls hc ht fun _ => ⟨hs, rfl⟩
    · rename_i hs
      exact .single (.accept hc ht hout hs)

theorem closeCall_setCall (p : CallPhase Op) (ending : Ending) (op : Op) :
    (k.setCall c p).closeCall T c ending op = k.closeCall T c ending op := by
  have hclosed (k : Keeper State Op) : (k.setCall c p).closed T c ending = k.closed T c ending := by
    unfold closed
    simp only [show (k.setCall c p).state = k.state from rfl]
    by_cases hs : k.state = .disconnected
    · simp only [hs, if_true]
      cases ending
      · exact reply_setCall p _ (k.log _ _ _)
      · exact reply_setCall p _ k
    · simp only [hs, if_false]
      cases ending
      · exact reply_setCall p _ ((k.setState _ _).log _ _ _)
      · exact reply_setCall p _ (k.setState _ _)
  unfold closeCall
  rw [operate_eq, operate_eq, show (k.setCall c p).turn T op = k.turn T op from rfl]
  rcases (k.turn T op).progress with op' | f | code <;> cases ending
  · exact setCall_setCall _ _ (k.absorb _ _)
  · exact setCall_setCall _ _ (k.absorb _ _)
  · exact hclosed ((k.absorb _ _).log _ _ _)
  · exact hclosed (((k.absorb _ _).log _ _ _).log _ _ _)
  · simp only []
    split
    · exact hclosed ((k.absorb _ _).log _ _ _)
    · exact hclosed (k.absorb _ _)
  · exact hclosed ((k.absorb _ _).log _ _ _)

theorem closed_moves {ending : Ending} {op : Op} {r : Result} (ls : List LogRecord)
    (hc : k.calls[c]? = some (.closing ending op)) (ht : (k.turn T op).progress = .done r) :
    ReflTransGen (Move T (.call c)) k
      (((k.absorb (.call c) (k.turn T op)).say ls).closed T c ending) := by
  cases ending
  · exact reply_moves (.closed ls [_] hc ht)
  · exact reply_moves (.closed ls [] hc ht)

theorem closeCall_moves {ending : Ending} {op : Op}
    (hc : k.calls[c]? = some (.closing ending op)) :
    ReflTransGen (Move T (.call c)) k (k.closeCall T c ending op) := by
  unfold closeCall
  rw [operate_eq]
  rcases ht : (k.turn T op).progress with op' | f | code
  · exact .single (.closingCall hc ht)
  · cases ending
    · exact closed_moves [_] hc ht
    · exact closed_moves [_, _] hc ht
  · cases ending
    · simp only []
      split
      · exact closed_moves [_] hc ht
      · exact closed_moves [] hc ht
    · exact closed_moves [_] hc ht

theorem closeTransport_moves {ending : Ending} {p : CallPhase Op} (hc : k.calls[c]? = some p)
    (hcl : k.Closes c ending) :
    ReflTransGen (Move T (.call c)) k (k.closeTransport T c ending) := by
  unfold closeTransport
  split
  · rename_i h
    simp only [Bool.and_eq_true, decide_eq_true_eq, Bool.not_eq_true'] at h
    obtain ⟨rfl, hdown⟩ := h
    exact reply_moves (.skip hcl hdown)
  · rename_i h
    refine .head (.close hcl fun he => ?_) ?_
    · simpa [he] using h
    · rw [← closeCall_setCall (.closing ending (T.start .disconnect))]
      exact closeCall_moves (getElem?_setCall (k := k.record _) hc _)

/-- Once its episode is aborted, a session that is over leaves only the transport to close. -/
theorem closes_of_abortLastEpisode {ending : Ending} {i d : Nat}
    (hc : k.calls[c]? = some (.joining ending i d)) (ho : k.watchOver i = true) :
    (k.abortLastEpisode T i).calls[c]? = some (.joining ending i d) ∧
      (k.abortLastEpisode T i).Closes c ending := by
  obtain ⟨s, hs⟩ := abortLastEpisode_eq T i k
  rw [hs]
  refine ⟨hc, .inr ⟨i, d, hc, ?_, ?_⟩⟩
  · simpa [watchOver, Function.comp_def] using ho
  · simp only [List.getElem?_modify_eq, Option.map_eq_map, Option.map_eq_some_iff]
    rintro w ⟨w', -, rfl⟩
    rfl

theorem joined_moves {ending : Ending} {i d : Nat} (hc : k.calls[c]? = some (.joining ending i d))
    (hr : k.watchOver i = true ∨ d ≤ k.now) :
    ReflTransGen (Move T (.call c)) k (k.joined T c ending i) := by
  unfold joined
  simp only []
  split
  · rename_i ho
    obtain ⟨hc', hcl⟩ := closes_of_abortLastEpisode (T := T) hc ho
    exact .head (.joined hc ho) (closeTransport_moves hc' hcl)
  · rename_i ho
    have hd : d ≤ k.now := hr.resolve_left ho
    rw [log_eq]
    generalize [LogRecord.mk _ _ _] = ls
    have habort : Move T (.call c) (k.say ls) (((k.say ls).abortWatch T i).abortLastEpisode T i) :=
      .abort hc (Bool.eq_false_iff.2 ho) hd
    obtain ⟨s, hs⟩ := abortWatch_eq T i (k.say ls)
    obtain ⟨hc', hcl⟩ := closes_of_abortLastEpisode (T := T) (k := (k.say ls).abortWatch T i)
      (by rw [hs]; exact hc) (watchOver_abortWatch i _)
    exact .head (.say ls) (.head habort (closeTransport_moves hc' hcl))

theorem claim_moves {ending : Ending} (hc : k.calls[c]? = some (.claiming ending)) :
    ReflTransGen (Move T (.call c)) k (k.claim T c ending) := by
  unfold claim
  split
  · rename_i hs
    exact closeTransport_moves hc (.inl ⟨hc, hs⟩)
  · rename_i i hs
    exact .single (.join hc hs)

theorem beginCall_moves {r : CallRequest} (hc : k.calls[c]? = some (.opened r)) :
    ReflTransGen (Move T (.call c)) k (k.beginCall T c r) := by
  cases r with
  | connect host port =>
    simp only [beginCall]
    split_ifs with hi hs
    · exact refuse_moves fun ls => .refuse ls hc (.inl ⟨by simpa using hi, rfl⟩)
    · exact refuse_moves fun ls => .refuse ls hc (.inr ⟨hs, rfl⟩)
    · refine .head (.dial hc (by simpa using hi) hs) ?_
      rw [← dialCall_setCall (.dialing _ _)]
      exact dialCall_moves (getElem?_setCall (k := k.record _) hc _)
  | disconnect =>
    simp only [beginCall]
    split_ifs with hi
    · refine reply_moves (.refuse [] hc ⟨?_, rfl⟩)
      simpa using hi
    · simp only [Bool.or_eq_true, Bool.not_eq_true', not_or, Bool.not_eq_false] at hi
      exact .single (.claim hc (.inl ⟨rfl, rfl, hi⟩))
  | cleanup => exact .single (.claim hc (.inr ⟨rfl, rfl⟩))
  | send payload =>
    simp only [beginCall]
    split_ifs with hi hs
    · exact reply_moves (.refuse [] hc (.inl ⟨by simpa using hi, rfl⟩))
    · exact reply_moves (.refuse [] hc (.inr ⟨hs, rfl⟩))
    · refine .head (.send hc (by simpa using hi) (by simpa using hs)) ?_
      rw [← sendCall_setCall (.sending _)]
      exact sendCall_moves (getElem?_setCall (k := k.record _) hc _)
  | messages => exact reply_moves (.messages hc)

theorem resumeCall_moves (h : k.ready T (.call c) = true) :
    ReflTransGen (Move T (.call c)) k (k.resumeCall T c) := by
  simp only [ready, Option.any_eq_true] at h
  obtain ⟨p, hc, hr⟩ := h
  unfold resumeCall
  rw [hc]
  simp only [callReady] at hr
  cases p with
  | opened r => exact beginCall_moves hc
  | dialing target op => exact dialCall_moves hc
  | recorded target => exact reply_moves (.ensure [_] hc)
  | claiming ending => exact claim_moves hc
  | joining ending i d => exact joined_moves hc (by simpa using hr)
  | closing ending op => exact closeCall_moves hc
  | sending op => exact sendCall_moves hc
  | answered a => exact .refl

end Call

/-- An actor that goes on makes moves of its own. -/
theorem resume_moves {k : Keeper State Op} {a : Actor} (h : k.ready T a = true) :
    ReflTransGen (Move T a) k (k.resume T a) := by
  cases a with
  | watch i => exact resumeWatch_moves h
  | episode i => exact resumeEpisode_moves h
  | call c => exact resumeCall_moves h

end SessionKeeper.Keeper
