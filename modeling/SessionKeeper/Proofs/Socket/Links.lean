import SessionKeeper.Socket.Link
import Mathlib

/-!
# What operations do to the link

An operation that dials leaves the link as it is until it answers zero, and then the link is to the
endpoint that it was for, unless it found another one up when it began (`Dials.run`). No other
operation gives a socket a link (`Bides.run`), nor does what happens at the other end (`Stirs`).
-/

namespace SessionKeeper.Socket

/-- What the other end and the network do to a socket: they answer differently, bytes arrive, the
connection ends or takes more or fewer bytes. What was written stays so. -/
def Stirs (s s' : Socket) : Prop :=
  ∃ (network : Network) (f : Wire → Wire), (∀ w, (f w).written = w.written)
    ∧ s' = { s with network, link := s.link.map fun l => { l with wire := f l.wire } }

/-- The endpoint that an operation is to dial. -/
def Op.dials : Op → Option Endpoint
  | fresh (.connect target) | waiting _ (.connect target) => some target
  | resolving _ target | dialing _ target _ => some target
  | _ => none

/-- Whether an operation has had a turn. -/
def Op.begun : Op → Bool
  | fresh _ => false
  | _ => true

/-- A link is to the same endpoint as before. -/
def Holds (s s' : Socket) : Prop :=
  ∀ l', s'.link = some l' → ∃ l, s.link = some l ∧ l.peer = l'.peer

variable {s s' : Socket} {op : Op} {now ticket : Nat} {target : Endpoint}

namespace Holds

theorem of_link (h : s'.link = s.link) : Holds s s' := fun l' hl => ⟨l', h ▸ hl, rfl⟩

theorem refl (s : Socket) : Holds s s := .of_link rfl

theorem of_none (h : s'.link = none) : Holds s s' := by
  intro l' hl
  cases h.symm.trans hl

theorem of_set {l l' : Link} (hl : s.link = some l) (hl' : s'.link = some l')
    (hp : l.peer = l'.peer) : Holds s s' := by
  intro l'' h
  cases hl'.symm.trans h
  exact ⟨l, hl, hp⟩

theorem of_stirs (h : Stirs s s') : Holds s s' := by
  obtain ⟨network, f, -, rfl⟩ := h
  intro l' hl'
  obtain ⟨l, hl, rfl⟩ := Option.map_eq_some_iff.1 hl'
  exact ⟨l, hl, rfl⟩

end Holds

theorem link_abandon (op : Op) (s : Socket) : (s.abandon op).link = s.link := by
  unfold abandon
  split <;> rfl

/-- A turn of an operation that dials an endpoint. -/
structure Dials (target : Endpoint) (s : Socket) (t : Turn Socket Op) : Prop where
  pending : ∀ {op : Op}, t.progress = .pending op → op.dials = some target ∧ op.begun = true
  kept : t.progress ≠ .done (.ok StatusCode.ok) → t.state.link = s.link
  dialed : t.progress = .done (.ok StatusCode.ok) →
    t.state.connected = true ∧ ∀ l, t.state.link = some l → l.peer = target

namespace Dials

theorem of_pend {s : Socket} (hl : s'.link = s.link) (hd : op.dials = some target)
    (hb : op.begun = true) : Dials target s (s'.pend op) := by
  refine ⟨fun h => ?_, fun _ => hl, fun h => ?_⟩
  · cases h
    exact ⟨hd, hb⟩
  · cases h

theorem of_failed {code : StatusCode} (hcode : code ≠ StatusCode.ok) :
    Dials target s (s.finish ticket code) := by
  refine ⟨fun h => ?_, fun _ => rfl, fun h => ?_⟩
  · cases h
  · cases h
    exact absurd rfl hcode

theorem dial (deadline : Nat) : Dials target s (s.dial ticket target deadline now) := by
  unfold Socket.dial
  split
  · refine ⟨fun h => ?_, fun h => absurd rfl h, fun _ => ⟨rfl, fun l hl => ?_⟩⟩
    · cases h
    · cases hl
      rfl
  · exact .of_failed (by decide)
  · split
    · exact .of_failed (by decide)
    · exact .of_pend rfl rfl rfl

theorem resolve : Dials target s (s.resolve ticket target now) := by
  unfold Socket.resolve
  split
  · exact .of_pend rfl rfl rfl
  · exact .of_failed (by decide)
  · exact .dial _

theorem of_link {t : Turn Socket Op} (h : Dials target s' t) (hl : s'.link = s.link) :
    Dials target s t :=
  ⟨h.pending, fun hn => (h.kept hn).trans hl, h.dialed⟩

/-- An operation that finds a link up when it begins takes it for its own. -/
theorem run (hd : op.dials = some target)
    (hl : op.begun = false → ∀ l, s.link = some l → l.peer = target) :
    Dials target s (s.run op now) := by
  cases op with
  | fresh r =>
    cases r with
    | connect t =>
      cases hd
      simp only [Socket.run]
      split
      · rename_i hup
        refine ⟨fun h => ?_, fun h => absurd rfl h, fun _ => ⟨hup, hl rfl⟩⟩
        cases h
      · simp only [enter]
        split
        · exact resolve.of_link rfl
        · exact .of_pend rfl rfl rfl
    | _ => cases hd
  | waiting n r =>
    cases r with
    | connect t =>
      cases hd
      simp only [Socket.run]
      split
      · exact resolve
      · exact .of_pend rfl rfl rfl
    | _ => cases hd
  | resolving n t =>
    cases hd
    exact resolve
  | dialing n t deadline =>
    cases hd
    exact dial _
  | writing n rest => cases hd

end Dials

/-- A turn of an operation that does not dial. -/
structure Bides (s : Socket) (t : Turn Socket Op) : Prop where
  pending : ∀ {op : Op}, t.progress = .pending op → op.dials = none
  holds : Holds s t.state

namespace Bides

theorem of_pend (hl : s'.link = s.link) (hd : op.dials = none) : Bides s (s'.pend op) := by
  refine ⟨fun h => ?_, .of_link hl⟩
  cases h
  exact hd

theorem of_finish {code : StatusCode} {ms : List String} {ls : List LogRecord}
    (h : Holds s s') : Bides s (s'.finish ticket code ms ls) := by
  refine ⟨fun h => ?_, h⟩
  cases h

theorem write (bytes : List UInt8) : Bides s (s.write ticket bytes) := by
  unfold Socket.write
  split
  · exact .of_finish (.refl s)
  rename_i link hlink
  split
  · exact .of_finish (.of_none rfl)
  · simp only []
    split
    · exact .of_finish (.of_set hlink rfl rfl)
    · exact ⟨fun h => by cases h; rfl, .of_set hlink rfl rfl⟩

theorem pump : Bides s (s.pump ticket) := by
  unfold Socket.pump
  split
  · exact .of_finish (.refl s)
  rename_i link hlink
  refine .of_finish ?_
  rcases link.wire.ended with _ | _
  · exact .of_set hlink rfl rfl
  · exact .of_none rfl

theorem begin {r : Request} (hr : ∀ target, r ≠ .connect target) :
    Bides s (s.begin ticket r now) := by
  cases r with
  | connect target => exact absurd rfl (hr target)
  | disconnect => exact .of_finish (.of_none rfl)
  | send payload =>
    simp only [Socket.begin]
    split
    · exact .of_finish (.refl s)
    · exact .write _
  | pump => exact .pump

theorem of_link {t : Turn Socket Op} (h : Bides s' t) (hl : s'.link = s.link) : Bides s t :=
  ⟨h.pending, fun l' h' => hl ▸ h.holds l' h'⟩

theorem run (hd : op.dials = none) : Bides s (s.run op now) := by
  cases op with
  | fresh r =>
    have hr : ∀ target, r ≠ .connect target := by
      rintro target rfl
      cases hd
    have henter : Bides s (s.enter r now) := by
      simp only [enter]
      split
      · exact (begin hr).of_link rfl
      · refine .of_pend rfl ?_
        cases r with
        | connect target => exact absurd rfl (hr target)
        | _ => rfl
    cases r with
    | connect target => exact absurd rfl (hr target)
    | _ => exact henter
  | waiting n r =>
    have hr : ∀ target, r ≠ .connect target := by
      rintro target rfl
      cases hd
    simp only [Socket.run]
    split
    · exact begin hr
    · exact .of_pend rfl hd
  | writing n rest => exact write rest
  | _ => cases hd

end Bides

end SessionKeeper.Socket
