import SessionKeeper.Proofs.Keeper.Endpoints
import SessionKeeper.Proofs.Socket.Links

/-!
# Who the link is to

A keeper remembers the endpoint of the last connect call that succeeded. Over a socket that need
not be the endpoint that the link is to: a socket that is asked to connect while a link is up
answers that it is connected, whoever that link is to (`peer_elsewhere`). If nobody asks for a
connection while a link to another endpoint is up (`Steers`), the endpoint of a keeper that is
connected is the one its link was dialed to (`peer_of_run`).
-/

namespace SessionKeeper

/-- A call that waits for the socket to dial waits for a dial of its own. -/
def CallPhase.Bound : CallPhase Socket.Op → Prop
  | dialing target op => op.dials = some target ∧ op.begun = true
  | closing _ op | sending op => op.dials = none
  | _ => True

def Episode.Bound (e : Episode Socket.Op) : Prop :=
  match e.phase with
  | .dialing op => op.dials = some e.target ∧ op.begun = true
  | .closing op => op.dials = none
  | _ => True

def Watch.Bound (w : Watch Socket.Op) : Prop :=
  match w.phase with
  | .pumping op => op.dials = none
  | _ => True

theorem Episode.bound_of_over {e : Episode Socket.Op} (h : e.phase.over = true) : e.Bound := by
  unfold Bound
  split <;> simp_all [EpisodePhase.over]

theorem Watch.bound_of_over {w : Watch Socket.Op} (h : w.phase.over = true) : w.Bound := by
  unfold Bound
  split <;> simp_all [WatchPhase.over]

theorem Watch.bound_lastPhase {w v : Watch Socket.Op} (h : w.phase = v.lastPhase) : w.Bound := by
  unfold lastPhase at h
  unfold Bound
  split at h <;> simp [h]

theorem Watch.bound_nextPhase {w v : Watch Socket.Op} {time : Nat}
    (h : w.phase = v.nextPhase time) : w.Bound := by
  unfold nextPhase at h
  split at h
  · exact bound_lastPhase h
  · unfold Bound
    rw [h]
    trivial

/-- Whether an attempt to connect is for the endpoint of the link. -/
def Event.meets (link : Option Socket.Link) : Event → Bool
  | invoked _ (.connect target) => link.all fun l => l.peer == target
  | _ => true

namespace Keeper

variable {k k' : Keeper Socket Socket.Op} {a : Actor} {i j c : Nat}

/-- Whoever is connected is so to the endpoint, and operations in flight are for what they were
begun for. -/
structure Faces (k : Keeper Socket Socket.Op) : Prop where
  peer : k.state = .connected → ∀ l, k.transport.link = some l → k.endpoint = some l.peer
  calls : ∀ {c : Nat} {p : CallPhase Socket.Op}, k.calls[c]? = some p → p.Bound
  episodes : ∀ {j : Nat} {e : Episode Socket.Op}, k.episodes[j]? = some e → e.Bound
  watches : ∀ {i : Nat} {w : Watch Socket.Op}, k.watches[i]? = some w → w.Bound

/-- Whoever asks for a connection between `k` and `k'` finds a link to that endpoint in `k`, or
none. -/
def Asks (k k' : Keeper Socket Socket.Op) : Prop :=
  ∀ es b target, k'.history = es ++ k.history → .invoked b (.connect target) ∈ es →
    ∀ l, k.transport.link = some l → l.peer = target

theorem Asks.of_suffix {k₁ : Keeper Socket Socket.Op} {older : List Event} {b : Actor}
    {target : Endpoint} (h : Asks k k') (hsuffix : k₁.history <:+ k'.history)
    (hask : k₁.history = .invoked b (.connect target) :: older) (hold : k.history <:+ older)
    (l : Socket.Link) (hl : k.transport.link = some l) : l.peer = target := by
  obtain ⟨es, hes⟩ := hsuffix
  obtain ⟨es', rfl⟩ := hold
  refine h (es ++ .invoked b (.connect target) :: es') b target ?_ (by simp) l hl
  rw [← hes, hask, List.append_assoc]
  rfl

theorem Asks.record (h : Asks k k') (e : Event) : Asks (k.record e) k' := by
  intro es b target hes hin
  refine h (es ++ [e]) b target ?_ (by simp [hin])
  rw [hes, List.append_assoc]
  rfl

/-- Nobody becomes connected, and no link comes up. -/
structure Retains (k k' : Keeper Socket Socket.Op) : Prop where
  state : k'.state = .connected → k.state = .connected ∧ k'.endpoint = k.endpoint
  link : Socket.Holds k.transport k'.transport
  calls : ∀ {c : Nat} {p : CallPhase Socket.Op}, k'.calls[c]? = some p →
    p.Bound ∨ k.calls[c]? = some p
  episodes : ∀ {j : Nat} {e : Episode Socket.Op}, k'.episodes[j]? = some e →
    e.Bound ∨ k.episodes[j]? = some e
  watches : ∀ {i : Nat} {w : Watch Socket.Op}, k'.watches[i]? = some w →
    w.Bound ∨ k.watches[i]? = some w

theorem Faces.of_retains (h : Faces k) (hf : Retains k k') : Faces k' := by
  refine ⟨fun hs l' hl' => ?_, fun hc => (hf.calls hc).elim id h.calls,
    fun he => (hf.episodes he).elim id h.episodes, fun hw => (hf.watches hw).elim id h.watches⟩
  obtain ⟨hs, hend⟩ := hf.state hs
  obtain ⟨l, hl, hp⟩ := hf.link l' hl'
  rw [hend, h.peer hs l hl, hp]

namespace Retains

theorem trans {k'' : Keeper Socket Socket.Op} (h : Retains k k') (h' : Retains k' k'') :
    Retains k k'' := by
  refine ⟨fun hs => ?_, fun l hl => ?_, fun hc => (h'.calls hc).elim .inl h.calls,
    fun he => (h'.episodes he).elim .inl h.episodes,
    fun hw => (h'.watches hw).elim .inl h.watches⟩
  · obtain ⟨hs', hend'⟩ := h'.state hs
    obtain ⟨hs, hend⟩ := h.state hs'
    exact ⟨hs, hend'.trans hend⟩
  · obtain ⟨l', hl', hp'⟩ := h'.link l hl
    obtain ⟨l'', hl'', hp''⟩ := h.link l' hl'
    exact ⟨l'', hl'', hp''.trans hp'⟩

section

variable (hs : k'.state = .connected → k.state = .connected ∧ k'.endpoint = k.endpoint)
  (hl : Socket.Holds k.transport k'.transport)
include hs hl

theorem of_same (hc : k'.calls = k.calls) (he : k'.episodes = k.episodes)
    (hw : k'.watches = k.watches) : Retains k k' :=
  ⟨hs, hl, fun h => .inr (hc ▸ h), fun h => .inr (he ▸ h), fun h => .inr (hw ▸ h)⟩

theorem of_setWatch {w : Watch Socket.Op} (hc : k'.calls = k.calls)
    (he : k'.episodes = k.episodes) (hw : k'.watches = k.watches.set i w) (hb : w.Bound) :
    Retains k k' := by
  refine ⟨hs, hl, fun h => .inr (hc ▸ h), fun h => .inr (he ▸ h), fun h => ?_⟩
  rw [hw] at h
  rcases getElem?_set_eq_some h with ⟨-, rfl⟩ | ⟨-, h⟩
  · exact .inl hb
  · exact .inr h

theorem of_setEpisode {e : Episode Socket.Op} (hc : k'.calls = k.calls)
    (he : k'.episodes = k.episodes.set j e) (hw : k'.watches = k.watches) (hb : e.Bound) :
    Retains k k' := by
  refine ⟨hs, hl, fun h => .inr (hc ▸ h), fun h => ?_, fun h => .inr (hw ▸ h)⟩
  rw [he] at h
  rcases getElem?_set_eq_some h with ⟨-, rfl⟩ | ⟨-, h⟩
  · exact .inl hb
  · exact .inr h

theorem of_setCall {p : CallPhase Socket.Op} (hc : k'.calls = k.calls.set c p)
    (he : k'.episodes = k.episodes) (hw : k'.watches = k.watches) (hb : p.Bound) :
    Retains k k' := by
  refine ⟨hs, hl, fun h => ?_, fun h => .inr (he ▸ h), fun h => .inr (hw ▸ h)⟩
  rw [hc] at h
  rcases getElem?_set_eq_some h with ⟨-, rfl⟩ | ⟨-, h⟩
  · exact .inl hb
  · exact .inr h

end

theorem refl (k : Keeper Socket Socket.Op) : Retains k k :=
  .of_same (fun h => ⟨h, rfl⟩) (.refl _) rfl rfl rfl

theorem setWatch {w : Watch Socket.Op} (hb : w.Bound) : Retains k (k.setWatch i w) :=
  .of_setWatch (fun h => ⟨h, rfl⟩) (.refl _) rfl rfl rfl hb

theorem setEpisode {e : Episode Socket.Op} (hb : e.Bound) : Retains k (k.setEpisode j e) :=
  .of_setEpisode (fun h => ⟨h, rfl⟩) (.refl _) rfl rfl rfl hb

theorem setCall {p : CallPhase Socket.Op} (hb : p.Bound) : Retains k (k.setCall c p) :=
  .of_setCall (fun h => ⟨h, rfl⟩) (.refl _) rfl rfl rfl hb

theorem abortWatch (i : Nat) (k : Keeper Socket Socket.Op) :
    Retains k (k.abortWatch Socket.transport i) := by
  unfold Keeper.abortWatch
  split
  · exact .refl k
  split
  · exact .refl k
  have haborted : ∀ w : Watch Socket.Op, { w with phase := .aborted }.Bound :=
    fun w => Watch.bound_of_over rfl
  simp only []
  split
  · exact .of_setWatch (fun h => ⟨h, rfl⟩) (.of_link (Socket.link_abandon _ _)) rfl rfl rfl
      (haborted _)
  · exact setWatch (haborted _)

theorem abortEpisode (j : Nat) (k : Keeper Socket Socket.Op) :
    Retains k (k.abortEpisode Socket.transport j) := by
  have hdown : ∀ op, Socket.Holds k.transport (Socket.transport.abandon op k.transport) :=
    fun op => .of_link (Socket.link_abandon op k.transport)
  have haborted : ∀ e : Episode Socket.Op, { e with phase := .aborted }.Bound :=
    fun e => Episode.bound_of_over rfl
  unfold Keeper.abortEpisode
  split
  · exact .refl k
  split
  · exact .of_setEpisode (fun h => ⟨h, rfl⟩) (hdown _) rfl rfl rfl (haborted _)
  · exact .of_setEpisode (fun h => ⟨h, rfl⟩) (hdown _) rfl rfl rfl (haborted _)
  · exact setEpisode (haborted _)
  · exact setEpisode (haborted _)
  all_goals exact .refl k

theorem abortLastEpisode (h : Faces k) (i : Nat) :
    Retains k (k.abortLastEpisode Socket.transport i) := by
  unfold Keeper.abortLastEpisode
  split
  · exact .refl k
  rename_i w hw
  split
  · exact .refl k
  · have hbound : w.Bound := h.watches hw
    have hclear : Retains k (k.setWatch i { w with abortable := none }) := setWatch hbound
    exact hclear.trans (abortEpisode _ _)

theorem raiseStop (h : Faces k) (i : Nat) : Retains k ({ k with slot := none }.raiseStop i) := by
  rw [raiseStop_eq]
  refine ⟨fun h => ⟨h, rfl⟩, .refl _, .inr, .inr, fun {n v} hv => .inl ?_⟩
  obtain ⟨w, hw, rfl⟩ := getElem?_modify_eq_some.1 hv
  have hbound : w.Bound := h.watches hw
  split <;> exact hbound

theorem ensureWatch (k : Keeper Socket Socket.Op) : Retains k k.ensureWatch := by
  unfold Keeper.ensureWatch
  split
  · exact .refl k
  · refine ⟨fun h => ⟨h, rfl⟩, .refl _, .inr, .inr, fun {n v} hv => ?_⟩
    rcases getElem?_concat_eq_some.1 hv with hv | ⟨-, rfl⟩
    · exact .inr hv
    · exact .inl trivial

theorem beginEpisode (w : Watch Socket.Op) (target : Endpoint) :
    Retains k (k.beginEpisode i w target) := by
  simp only [Keeper.beginEpisode, rest_eq, Keeper.setWatch, Keeper.record]
  refine ⟨fun h => ⟨h, rfl⟩, .refl _, .inr, fun {n e} he => ?_, fun {n v} hv => ?_⟩
  · rcases getElem?_concat_eq_some.1 he with he | ⟨-, rfl⟩
    · exact .inr he
    · exact .inl trivial
  · rcases getElem?_set_eq_some hv with ⟨-, rfl⟩ | ⟨-, hv⟩
    · exact .inl (Watch.bound_nextPhase rfl)
    · exact .inr hv

section Moves

variable {w : Watch Socket.Op} {op : Socket.Op}

theorem turn_of_bides (hd : op.dials = none) :
    Socket.Bides k.transport (k.turn Socket.transport op) :=
  .run hd

/-- A call, or a watch, that has no part in an attempt to connect. -/
theorem move (h : Faces k) (hheld : k.held = true) (hm : Move Socket.transport a k k')
    (hj : ∀ j, a ≠ .episode j)
    (hc : ∀ c p, a = .call c → k.calls[c]? = some p → p.courts = false) : Retains k k' := by
  have hpumps : ∀ {i : Nat} {w : Watch Socket.Op} {op : Socket.Op}, k.watches[i]? = some w →
      w.phase = .pumping op → op.dials = none := by
    intro i w op hw hp
    simpa [Watch.Bound, hp] using h.watches hw
  have hcourts : ∀ {c : Nat} {p : CallPhase Socket.Op}, a = .call c → k.calls[c]? = some p →
      p.courts = true → Retains k k' := by
    intro c p ha hp hcourt
    simp [hc c p ha hp] at hcourt
  cases hm with
  | say ls => exact .of_same (fun h => ⟨h, rfl⟩) (.refl _) rfl rfl rfl
  | leave hw hi hst =>
    exact .of_setWatch (fun h => ⟨h, rfl⟩) (.refl _) rfl rfl rfl (Watch.bound_lastPhase rfl)
  | sight hw hl hst hu => exact .of_setWatch (fun h => ⟨h, rfl⟩) (.refl _) rfl rfl rfl rfl
  | pumping hw hp ht =>
    have hturn := turn_of_bides (k := k) (hpumps hw hp)
    exact .of_setWatch (fun h => ⟨h, rfl⟩) hturn.holds rfl rfl rfl (hturn.pending ht)
  | pumped ls hw hp ht =>
    have hturn := turn_of_bides (k := k) (hpumps hw hp)
    rw [rest_eq, forward_eq]
    exact .of_setWatch (fun h => ⟨h, rfl⟩) hturn.holds rfl rfl rfl (Watch.bound_nextPhase rfl)
  | ignore hw hl hst hu hn =>
    rw [rest_eq]
    exact .of_setWatch (fun h => ⟨h, rfl⟩) (.refl _) rfl rfl rfl (Watch.bound_nextPhase rfl)
  | lose hw hl hst hu hseen hs =>
    refine .of_setWatch (fun h => ?_) (.refl _) rfl rfl rfl trivial
    cases h
  | beginEpisode hw hp ho => exact beginEpisode _ _
  | finish hw hp ho => exact .of_setWatch (fun h => ⟨h, rfl⟩) (.refl _) rfl rfl rfl trivial
  | dial hc hi hs => exact hcourts rfl hc rfl
  | dialingCall hc ht => exact hcourts rfl hc rfl
  | dialFailed ls hc ht ho => exact hcourts rfl hc rfl
  | accept hc ht ho hs => exact hcourts rfl hc rfl
  | send hc hi hs => exact .of_setCall (fun h => ⟨h, rfl⟩) (.refl _) rfl rfl rfl rfl
  | claim hc hr => exact .of_setCall (fun h => ⟨h, rfl⟩) (.refl _) rfl rfl rfl trivial
  | refuse ls hc hf => exact .of_setCall (fun h => ⟨h, rfl⟩) (.refl _) rfl rfl rfl trivial
  | messages hc => exact .of_setCall (fun h => ⟨h, rfl⟩) (.refl _) rfl rfl rfl trivial
  | ensure ls hc =>
    exact (ensureWatch k).trans (.of_setCall (fun h => ⟨h, rfl⟩) (.refl _) rfl rfl rfl trivial)
  | sending hc ht =>
    have hturn := turn_of_bides (k := k) (h.calls hc)
    exact .of_setCall (fun h => ⟨h, rfl⟩) hturn.holds rfl rfl rfl (hturn.pending ht)
  | sent hc ht =>
    have hturn := turn_of_bides (k := k) (h.calls hc)
    exact .of_setCall (fun h => ⟨h, rfl⟩) hturn.holds rfl rfl rfl trivial
  | join hc hs =>
    exact (raiseStop h _).trans (setCall trivial)
  | joined hc ho => exact abortLastEpisode h _
  | @abort _ _ _ i =>
    have habort := abortWatch i k
    exact habort.trans (abortLastEpisode (h.of_retains habort) i)
  | close hcl hu => exact .of_setCall (fun h => ⟨h, rfl⟩) (.refl _) rfl rfl rfl rfl
  | skip hcl hu =>
    rw [lower_eq]
    refine .of_setCall (fun h => ?_) (.refl _) rfl rfl rfl trivial
    cases h
  | closingCall hc ht =>
    have hturn := turn_of_bides (k := k) (h.calls hc)
    exact .of_setCall (fun h => ⟨h, rfl⟩) hturn.holds rfl rfl rfl (hturn.pending ht)
  | closed ls ls' hc ht =>
    have hturn := turn_of_bides (k := k) (h.calls hc)
    rw [lower_eq]
    refine .of_setCall (fun h => ?_) hturn.holds rfl rfl rfl trivial
    cases h
  | release hh hn hs => simp [hheld] at hh
  | _ => exact absurd rfl (hj _)

end Moves

end Retains

open Relation (ReflTransGen)

theorem release_of_held (h : k.held = true) : k.release Socket.transport = k := by
  simp [release, h]

namespace Faces

theorem moves (h : Faces k) (hheld : k.held = true)
    (hm : ReflTransGen (Move Socket.transport a) k k') (hj : ∀ j, a ≠ .episode j)
    (hc : ∀ c p, a = .call c → k.calls[c]? = some p → p.courts = false) : Faces k' := by
  suffices hboth : k'.held = true ∧ Faces k' from hboth.2
  induction hm with
  | refl => exact ⟨hheld, h⟩
  | tail hmoves hm ih =>
    obtain ⟨hheld, h⟩ := ih
    refine ⟨(Answers.move hm).held.trans hheld, h.of_retains ?_⟩
    refine Retains.move h hheld hm hj fun c p ha hp => ?_
    rw [← Bool.not_eq_true]
    intro hcourt
    obtain ⟨q, hq, hqc⟩ := courts_of_moves hmoves hp hcourt
    simp [hc c q ha hq] at hqc

theorem record (h : Faces k) (e : Event) : Faces (k.record e) :=
  ⟨h.peer, h.calls, h.episodes, h.watches⟩

section Attempts

variable {op : Socket.Op} {target : Endpoint} {e : Episode Socket.Op}

theorem refuse (h : Faces k) (hheld : k.held = true) (f : Failure) :
    Faces (k.refuse Socket.transport c f) := by
  unfold Keeper.refuse
  rw [reply_eq, release_of_held]
  · exact h.of_retains (.of_setCall (fun h => ⟨h, rfl⟩) (.refl _) rfl rfl rfl trivial)
  · exact hheld

theorem dialCall (h : Faces k) (hheld : k.held = true) (hd : op.dials = some target)
    (hl : op.begun = false → ∀ l, k.transport.link = some l → l.peer = target) :
    Faces (k.dialCall Socket.transport c target op) := by
  have hturn : Socket.Dials target k.transport (k.turn Socket.transport op) := .run hd hl
  have hmissed : (k.turn Socket.transport op).progress ≠ .done (.ok StatusCode.ok) →
      Faces (k.absorb (.call c) (k.turn Socket.transport op)) := fun hne =>
    h.of_retains (.of_same (fun h => ⟨h, rfl⟩) (.of_link (hturn.kept hne)) rfl rfl rfl)
  unfold Keeper.dialCall
  rw [operate_eq]
  rcases ht : (k.turn Socket.transport op).progress with op' | f | code
  · exact (hmissed (by simp [ht])).of_retains (.setCall (hturn.pending ht))
  · exact (hmissed (by simp [ht])).refuse hheld _
  simp only []
  split
  · rename_i hne
    exact (hmissed (by simp [ht, hne])).refuse hheld _
  rename_i hok
  simp only [ne_eq, not_not] at hok
  subst hok
  obtain ⟨hup, hpeer⟩ := hturn.dialed ht
  have hisup : Socket.transport.isUp
      (k.absorb (.call c) (k.turn Socket.transport op)).transport = .ok true :=
    congrArg Except.ok hup
  rw [hisup]
  simp only [Keeper.accept]
  split
  · rename_i hs
    have habsorbed : Faces (k.absorb (.call c) (k.turn Socket.transport op)) := by
      refine ⟨fun hs' => ?_, h.calls, h.episodes, h.watches⟩
      cases hs.symm.trans hs'
    exact habsorbed.refuse hheld _
  · have haccepted : Faces ({ k.absorb (.call c) (k.turn Socket.transport op) with
        endpoint := some target }.setState (.call c) .connected) :=
      ⟨fun _ l hl => congrArg some (hpeer l hl).symm, h.calls, h.episodes, h.watches⟩
    exact haccepted.of_retains (.setCall trivial)

theorem stopEpisode (h : Faces k) (j : Nat) (e : Episode Socket.Op) :
    Faces (k.stopEpisode j e) := by
  rw [stopEpisode_eq]
  refine h.of_retains (.of_setEpisode (fun hs => ?_) (.refl _) rfl rfl rfl
    (Episode.bound_of_over rfl))
  split at hs
  · cases hs
  · exact ⟨hs, rfl⟩

theorem closeLate (h : Faces k) (hd : op.dials = none) (j : Nat) (e : Episode Socket.Op) :
    Faces (k.closeLate Socket.transport j e op) := by
  have hturn : Socket.Bides k.transport (k.turn Socket.transport op) := .run hd
  have habsorbed : Faces (k.absorb (.episode j) (k.turn Socket.transport op)) :=
    h.of_retains (.of_same (fun h => ⟨h, rfl⟩) hturn.holds rfl rfl rfl)
  unfold Keeper.closeLate
  rw [operate_eq]
  rcases ht : (k.turn Socket.transport op).progress with op' | f | code
  · exact habsorbed.of_retains (.setEpisode (hturn.pending ht))
  · exact (habsorbed.record _).stopEpisode j e
  · exact habsorbed.stopEpisode j e

theorem dial (h : Faces k) (hs : k.state = .reconnecting) (hend : k.endpoint = some e.target)
    (hd : op.dials = some e.target)
    (hl : op.begun = false → ∀ l, k.transport.link = some l → l.peer = e.target) :
    Faces (k.dial Socket.transport j e op) := by
  have hturn : Socket.Dials e.target k.transport (k.turn Socket.transport op) := .run hd hl
  -- the link may be another one by now, but the state does not say so before the episode succeeds
  have habsorbed : Faces (k.absorb (.episode j) (k.turn Socket.transport op)) := by
    refine ⟨fun hs' => ?_, h.calls, h.episodes, h.watches⟩
    cases hs.symm.trans hs'
  have hset : ∀ {k₁ : Keeper Socket Socket.Op} {e' : Episode Socket.Op}, Faces k₁ → e'.Bound →
      Faces (k₁.setEpisode j e') := fun h₁ hb => h₁.of_retains (.setEpisode hb)
  unfold Keeper.dial
  rw [operate_eq]
  rcases ht : (k.turn Socket.transport op).progress with op' | r
  · exact hset habsorbed (hturn.pending ht)
  simp only [judge]
  rcases (k.absorb (.episode j) (k.turn Socket.transport op)).isStopped e.watch <;>
    rcases hout : (k.absorb (.episode j) (k.turn Socket.transport op)).attemptOutcome
      Socket.transport r with f | (_ | _)
  · exact hset (habsorbed.record _) trivial
  · exact hset habsorbed trivial
  · have hok : r = .ok StatusCode.ok := by
      unfold attemptOutcome at hout
      split at hout
      · cases hout
      · split at hout
        · rename_i hcode
          rw [hcode]
        · cases hout
    subst hok
    obtain ⟨-, hpeer⟩ := hturn.dialed ht
    have hdone : Faces ((k.absorb (.episode j) (k.turn Socket.transport op)).setEpisode j
        { e with phase := .succeeded }) := hset habsorbed (Episode.bound_of_over rfl)
    refine ⟨fun _ l hl => ?_, hdone.calls, hdone.episodes, hdone.watches⟩
    exact hend.trans (congrArg some (hpeer l hl).symm)
  · exact habsorbed.stopEpisode j e
  · exact habsorbed.stopEpisode j e
  · exact (habsorbed.record _).closeLate rfl j e

theorem timeOut (h : Faces k) (j : Nat) (e : Episode Socket.Op) : Faces (k.timeOut j e) := by
  have hdone : Faces (k.setEpisode j { e with phase := .timedOut }) :=
    h.of_retains (.setEpisode (Episode.bound_of_over rfl))
  refine ⟨fun hs => ?_, hdone.calls, hdone.episodes, hdone.watches⟩
  cases hs

theorem attempt {e₀ : Episode Socket.Op} (h : Faces k) (he : k.episodes[j]? = some e₀)
    (hs : k.state = .reconnecting) (hend : k.endpoint = some e.target)
    (hask : Asks k (k.attempt Socket.transport j e)) :
    Faces (k.attempt Socket.transport j e) := by
  unfold Keeper.attempt at hask ⊢
  simp only [] at hask ⊢
  split_ifs at hask ⊢
  · exact h.stopEpisode j e
  · exact h.timeOut j e
  rw [log_eq] at hask ⊢
  generalize [LogRecord.mk _ _ _] = ls at hask ⊢
  generalize Notice.attempt _ _ = n at hask ⊢
  -- the operation is a new one, so a link that is up has to be to its endpoint
  refine dial ⟨h.peer, h.calls, h.episodes, h.watches⟩ hs hend rfl fun _ => ?_
  have hsuffix := history_suffix_of_dial (T := Socket.transport) (k := ((k.say ls).notify
    (.episode j) n).record (.invoked (.episode j) (.connect e.target))) he
    { e with attempts := e.attempts + 1 } (Socket.transport.start (.connect e.target))
  exact hask.of_suffix hsuffix rfl
    ((List.suffix_append (ls.map .logged) k.history).trans (List.suffix_cons _ _))

end Attempts

section Steps

theorem resumeEpisode (h : Faces k) (hbear : Bearings k)
    (hask : Asks k (k.resumeEpisode Socket.transport j)) :
    Faces (k.resumeEpisode Socket.transport j) := by
  unfold Keeper.resumeEpisode at hask ⊢
  split
  · exact h
  rename_i e he
  rw [he] at hask
  simp only [] at hask
  have hbound := h.episodes he
  have hpursued := hbear.pursues.pursued he
  unfold Episode.Bound at hbound
  rcases hp : e.phase with _ | op | op | wake | _ | _ | _ | _ <;>
    simp only [hp] at hask hbound ⊢
  · obtain ⟨hs, hend⟩ := hpursued (by rw [hp]; rfl)
    exact attempt (h.record _) he hs hend (hask.record _)
  · obtain ⟨hs, hend⟩ := hpursued (by rw [hp]; rfl)
    exact h.dial hs hend hbound.1 (by simp [hbound.2])
  · exact h.closeLate hbound j e
  · split_ifs at hask ⊢
    · exact h.stopEpisode j e
    · obtain ⟨hs, hend⟩ := hpursued (by rw [hp]; rfl)
      exact h.attempt he hs hend hask
  all_goals exact h

theorem resume (h : Faces k) (hbear : Bearings k) (hr : k.ready Socket.transport a = true)
    (hask : Asks k (k.resume Socket.transport a)) : Faces (k.resume Socket.transport a) := by
  have hheld := hbear.order.held
  rcases a with i | j | c
  · exact h.moves hheld (resume_moves hr) (by simp) (by simp)
  · exact h.resumeEpisode hbear hask
  by_cases hcourt : ∃ p, k.calls[c]? = some p ∧ p.courts = true
  case neg =>
    refine h.moves hheld (resume_moves hr) (by simp) fun n p ha hc => ?_
    cases ha
    rw [← Bool.not_eq_true]
    exact fun hp => hcourt ⟨p, hc, hp⟩
  obtain ⟨p, hc, hp⟩ := hcourt
  simp only [Keeper.resume, Keeper.resumeCall, hc] at hask ⊢
  cases p with
  | opened r =>
    cases r with
    | connect host port =>
      simp only [Keeper.beginCall] at hask ⊢
      split_ifs at hask ⊢
      · exact h.refuse hheld _
      · exact h.refuse hheld _
      · refine dialCall (h.record _) hheld rfl fun _ => ?_
        have hsuffix := history_suffix_of_dialCall (T := Socket.transport) (k := k.record
          (.invoked (.call c) (.connect (k.config.requested host port)))) hc
          (k.config.requested host port)
          (Socket.transport.start (.connect (k.config.requested host port)))
        exact hask.of_suffix hsuffix rfl List.suffix_rfl
    | _ => cases hp
  | dialing target op =>
    obtain ⟨hd, hb⟩ := h.calls hc
    exact h.dialCall hheld hd (by simp [hb])
  | _ => cases hp

end Steps

end Faces

section Run

/-- Calls are made one after another, and nothing befalls the socket but what the network and the
other end do to it. -/
structure Linked (k : Keeper Socket Socket.Op) (s : Step Socket) : Prop where
  turn : InTurn k s
  stirs : ∀ s', s = .disturb s' → Socket.Stirs k.transport s'

/-- Besides, nobody asks for a connection while a link to another endpoint is up. -/
structure Steers (k : Keeper Socket Socket.Op) (s : Step Socket) : Prop extends Linked k s where
  asks : ∀ k', k.next? Socket.transport s = some k' → Asks k k'

theorem Faces.next {s : Step Socket} (h : Faces k) (hbear : Bearings k) (hok : Steers k s)
    (hn : k.next? Socket.transport s = some k') : Faces k' := by
  cases s with
  | resume a =>
    obtain ⟨hr, rfl⟩ := ready_of_resume hn
    exact h.resume hbear hr (hok.asks _ hn)
  | call r =>
    obtain ⟨-, rfl⟩ := held_of_call hn
    refine ⟨h.peer, fun hc => ?_, h.episodes, h.watches⟩
    rcases getElem?_concat_eq_some.1 hc with hc | ⟨-, rfl⟩
    · exact h.calls hc
    · trivial
  | pass ms =>
    cases hn
    exact ⟨h.peer, h.calls, h.episodes, h.watches⟩
  | disturb s =>
    cases hn
    exact h.of_retains (.of_same (fun h => ⟨h, rfl⟩) (.of_stirs (hok.stirs s rfl)) rfl rfl rfl)
  | drop => exact hok.turn.elim

theorem Faces.fresh {config : LinkConfig} {network : Socket.Network} {dialTimeout : Nat}
    {hasSink installed : Bool} :
    Faces (Keeper.fresh config { network, dialTimeout, hasSink } installed) := by
  refine ⟨?_, ?_, ?_, ?_⟩ <;> simp [Keeper.fresh]

end Run

/-- If nobody asks for a connection while a link to another endpoint is up, the endpoint of a keeper
that is connected is the one its link was dialed to. -/
theorem peer_of_run {config : LinkConfig} {network : Socket.Network} {dialTimeout : Nat}
    {hasSink installed : Bool} {ss : List (Step Socket)} {l : Socket.Link}
    (h : RunsUnder Socket.transport Steers
      (fresh config { network, dialTimeout, hasSink } installed) ss k)
    (hs : k.state = .connected) (hl : k.transport.link = some l) : k.endpoint = some l.peer := by
  have hall : Bearings k ∧ Faces k :=
    h.keeps (P := fun k => Bearings k ∧ Faces k)
      (fun hok hn h => ⟨h.1.next hok.turn hn, h.2.next h.1 hok hn⟩) ⟨.fresh, .fresh⟩
  exact hall.2.peer hs l hl

section Scenes

/-- A network on which every dial is accepted. -/
def openNetwork : Socket.Network where
  lookup _ := .found
  dial _ := .accepted {}

theorem Linked.call {r : CallRequest} (h : k.idle = true) : Linked k (.call r) := ⟨h, by simp⟩

theorem Linked.resume (k : Keeper Socket Socket.Op) (a : Actor) : Linked k (.resume a) :=
  ⟨trivial, by simp⟩

theorem Linked.pass (k : Keeper Socket Socket.Op) (ms : Nat) : Linked k (.pass ms) :=
  ⟨trivial, by simp⟩

theorem Linked.disturb {s : Socket} (h : Socket.Stirs k.transport s) : Linked k (.disturb s) := by
  refine ⟨trivial, fun s' hs => ?_⟩
  cases hs
  exact h

def elsewhereLinks : List (Step Socket) :=
  [.call (.connect (some "10.0.0.1") (some 1)), .resume (.call 0), .resume (.call 0),
    .resume (.watch 0), .call (.connect (some "10.0.0.2") (some 2)), .resume (.call 1)]

/-- A call to connect to another address finds the link up, and the keeper takes that address for
the one it is connected to. -/
theorem peer_elsewhere : ∃ k l,
    RunsUnder Socket.transport Linked (fresh {} { network := openNetwork } true) elsewhereLinks k ∧
      k.state = .connected ∧ k.transport.link = some l ∧ l.peer = ⟨"10.0.0.1", 1⟩ ∧
      k.endpoint = some ⟨"10.0.0.2", 2⟩ :=
  ⟨_, _, .cons (.call rfl) rfl <| .cons (.resume _ _) rfl <| .cons (.resume _ _) rfl <|
    .cons (.resume _ _) rfl <| .cons (.call rfl) rfl <| .cons (.resume _ _) rfl <| .nil _,
    rfl, rfl, rfl, rfl⟩

/-- What is asked for in a step can be looked up in the history. -/
theorem Steers.of_meets {s : Step Socket} (h : Linked k s)
    (hn : k.next? Socket.transport s = some k')
    (hmeets : (k'.history.take (k'.history.length - k.history.length)).all
      (Event.meets k.transport.link) = true) : Steers k s := by
  refine ⟨h, fun k₁ hn₁ es b target hes hin l hl => ?_⟩
  cases hn.symm.trans hn₁
  have htake : k'.history.take (k'.history.length - k.history.length) = es := by
    rw [hes]
    simp
  rw [htake] at hmeets
  simpa [Event.meets, hl] using List.all_eq_true.1 hmeets _ hin

/-- The other end has closed the link. -/
def hungUp : Socket where
  network := openNetwork
  link := some { peer := ⟨"10.0.0.1", 1⟩, wire := { ended := true } }
  connected := true
  tickets := 2

/-- The other end closes the link, and the keeper connects again. -/
def resumedLinks : List (Step Socket) :=
  [.call (.connect (some "10.0.0.1") (some 1)), .resume (.call 0), .resume (.call 0),
    .resume (.watch 0), .disturb hungUp, .pass 10, .resume (.watch 0), .pass 10,
    .resume (.watch 0), .resume (.episode 0)]

theorem peer_of_run_resumed : ∃ k l,
    RunsUnder Socket.transport Steers (fresh {} { network := openNetwork } true) resumedLinks k ∧
      k.state = .connected ∧ k.transport.link = some l ∧ k.endpoint = some l.peer := by
  obtain ⟨k, l, hr, hs, hl⟩ : ∃ k l,
      RunsUnder Socket.transport Steers (fresh {} { network := openNetwork } true) resumedLinks k ∧
        k.state = .connected ∧ k.transport.link = some l :=
    ⟨_, _, .cons (.of_meets (.call rfl) rfl rfl) rfl <|
      .cons (.of_meets (.resume _ _) rfl rfl) rfl <| .cons (.of_meets (.resume _ _) rfl rfl) rfl <|
      .cons (.of_meets (.resume _ _) rfl rfl) rfl <|
      .cons (.of_meets (.disturb ⟨_, fun w => { w with ended := true }, fun _ => rfl, rfl⟩) rfl rfl)
        rfl <|
      .cons (.of_meets (.pass _ _) rfl rfl) rfl <|
      .cons (.of_meets (.resume _ _) rfl rfl) rfl <|
      .cons (.of_meets (.pass _ _) rfl rfl) rfl <|
      .cons (.of_meets (.resume _ _) rfl rfl) rfl <|
      .cons (.of_meets (.resume _ _) rfl rfl) rfl <| .nil _, rfl, rfl⟩
  exact ⟨k, l, hr, hs, hl, peer_of_run hr hs hl⟩

end Scenes

end Keeper

end SessionKeeper
