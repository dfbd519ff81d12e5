import SessionKeeper.Proofs.Text.Numerals
import SessionKeeper.Proofs.Text.Utf8
import SessionKeeper.Settings.Basic

/-!
# What settings come to

The environment replaces host and port of the settings that were loaded, and the command line
replaces what it names of all of them (`override_layers`). The environment comes first: a port in it
that is no number up to 65535 is refused even if the command line names one, and then nothing of the
command line counts, while a host of the environment has already been taken.
-/

namespace SessionKeeper

open Text Text.Utf8

namespace LinkConfig

variable {c : LinkConfig} {port : Option String}

/-- The host that a variable names: what is left of its text between blanks, if anything is. -/
def hostOf (host : Option String) : Option String :=
  (host.map trim).filter (· ≠ "")

/-- The port that a variable names. One that is unset names none, and the text of one that is set
has to write a port between blanks. -/
inductive PortOf : Option String → Option UInt16 → Prop
  | unset : PortOf none none
  | text {text : String} {p : UInt16} (h : Writes p.toNat (trim text)) : PortOf (some text) (some p)

/-- A variable whose text writes no port. -/
def RefusesPort (port : Option String) : Prop :=
  ∃ text, port = some text ∧ ¬ ∃ n ≤ 65535, Writes n (trim text)

theorem withHost_eq (c : LinkConfig) (host : Option String) :
    c.withHost host = { c with host := (hostOf host).getD c.host } := by
  have hb : ∀ h, allBlank h = decide (trim h = "") := fun h => by
    rw [Bool.eq_iff_iff, allBlank_iff, decide_eq_true_eq]
  cases host with
  | none => rfl
  | some h => by_cases ht : trim h = "" <;> simp [withHost, hostOf, Option.filter_some, hb, ht]

theorem withPort_cases (c : LinkConfig) (port : Option String) :
    RefusesPort port ∧ (∃ f, c.withPort port = .error f)
      ∨ ¬ RefusesPort port
        ∧ ∃ p, PortOf port p ∧ c.withPort port = .ok { c with port := p.getD c.port } := by
  cases port with
  | none => exact .inr ⟨by simp [RefusesPort], none, .unset, rfl⟩
  | some text =>
    cases hp : readPort (trim text) with
    | none => exact .inl ⟨⟨text, rfl, readPort_eq_none_iff.1 hp⟩, by simp [withPort, hp]⟩
    | some p =>
      have hw := readPort_eq_some_iff.1 hp
      refine .inr ⟨?_, some p, .text hw, by simp [withPort, hp]⟩
      rintro ⟨_, ⟨⟩, hno⟩
      exact hno ⟨p.toNat, Nat.le_of_lt_succ p.toNat_lt, hw⟩

theorem override_cases (c : LinkConfig) (host port : Option String) :
    RefusesPort port
        ∧ (∃ f, c.override host port = (some f, { c with host := (hostOf host).getD c.host }))
      ∨ ¬ RefusesPort port ∧ ∃ p, PortOf port p
        ∧ c.override host port
          = (none, { c with host := (hostOf host).getD c.host, port := p.getD c.port }) := by
  simp only [override, withHost_eq]
  rcases withPort_cases { c with host := (hostOf host).getD c.host } port with
    ⟨hr, f, hf⟩ | ⟨hr, p, hp, hok⟩
  · exact .inl ⟨hr, f, by rw [hf]⟩
  · exact .inr ⟨hr, p, hp, by rw [hok]⟩

end LinkConfig

namespace Settings

open LinkConfig

/-- Settings that come of those in `s`, of a host and a port that replace them, and of a command
line that replaces both. -/
structure Layered (s : Settings) (host : Option String) (port : Option UInt16)
    (a : CommandLine.Arguments) (r : Settings) : Prop where
  host : r.connection.host = a.host.getD (host.getD s.connection.host)
  port : r.connection.port = a.port.getD (port.getD s.connection.port)
  transport : r.transport = a.transport.getD s.transport
  libraryPath : r.libraryPath = a.libraryPath.getD s.libraryPath
  logLevel : r.logLevel = a.logLevel.getD s.logLevel
  jsonLogs : r.jsonLogs = (s.jsonLogs || a.jsonLogs)
  reconnectTimeout : r.connection.reconnectTimeoutSecs = s.connection.reconnectTimeoutSecs
  reconnectInterval : r.connection.reconnectIntervalSecs = s.connection.reconnectIntervalSecs
  pollInterval : r.connection.pollIntervalMs = s.connection.pollIntervalMs
  joinTimeout : r.connection.joinTimeoutMs = s.connection.joinTimeoutMs

/-- The port of the environment alone decides whether settings are refused, and then all but the
host is what it was. Otherwise each setting is what the last layer says that names it. A variable
that is not UTF-8 counts as one that is unset. -/
theorem override_layers (s : Settings) (hostBytes portBytes : Option (List UInt8))
    (a : CommandLine.Arguments) :
    let host := hostBytes.bind decode?
    let port := portBytes.bind decode?
    let r := s.override host port a
    (r.1 ≠ none ↔ ∃ text, port = some text ∧ ¬ ∃ n ≤ 65535, Writes n (trim text))
      ∧ (r.1 ≠ none →
        r.2 = { s with connection.host := (hostOf host).getD s.connection.host })
      ∧ (r.1 = none → ∃ p, PortOf port p ∧ Layered s (hostOf host) p a r.2) := by
  intro host port r
  rcases override_cases s.connection host port with ⟨hr, f, hf⟩ | ⟨hr, p, hp, hok⟩
  · have hrf :
        r = (some f, { s with connection.host := (hostOf host).getD s.connection.host }) := by
      simp only [r, Settings.override, hf]
    rw [hrf]
    exact ⟨iff_of_true (by simp) hr, fun _ => rfl, by simp⟩
  · have hok' : r = (none, Settings.apply { s with
        connection.host := (hostOf host).getD s.connection.host
        connection.port := p.getD s.connection.port } a) := by
      simp only [r, Settings.override, hok]
    rw [hok']
    refine ⟨iff_of_false (by simp) hr, by simp, fun _ => ⟨p, hp, ?_⟩⟩
    constructor <;> rfl

/-- A port of the environment that is too large is refused although the command line names one, and
the host is taken all the same; a port with a sign and leading zeros between blanks is taken. -/
theorem override_layers_ports :
    (∃ f, ({} : Settings).override (some " 10.0.0.7") (some "70000") { port := some 9000 }
        = (some f, { connection := { host := "10.0.0.7" } }))
      ∧ ∃ r, ({} : Settings).override (some " ") (some " +0080 ") { jsonLogs := true } = (none, r)
        ∧ r.connection.port = 80 ∧ r.connection.host = "127.0.0.1" ∧ r.jsonLogs := by
  have hb : ∀ text, (some (encode text)).bind decode? = some text := decode?_encode
  constructor
  · have h := override_layers {} (some (encode " 10.0.0.7")) (some (encode "70000"))
      { port := some 9000 }
    simp only [hb] at h
    obtain ⟨hrefused, hkept, -⟩ := h
    have hr := hrefused.2 ⟨"70000", rfl, readPort_eq_none_iff.1 (by decide)⟩
    obtain ⟨f, hf⟩ := Option.ne_none_iff_exists'.1 hr
    have hhost : (hostOf (some " 10.0.0.7")).getD "127.0.0.1" = "10.0.0.7" := by decide
    exact ⟨f, Prod.ext hf ((hkept hr).trans (by rw [← hhost]))⟩
  · have h := override_layers {} (some (encode " ")) (some (encode " +0080 ")) { jsonLogs := true }
    simp only [hb] at h
    obtain ⟨hrefused, -, htaken⟩ := h
    have hport : readPort (trim " +0080 ") = some 80 := by decide
    have hr := not_not.1 (mt hrefused.1 (by
      rintro ⟨_, ⟨⟩, hno⟩
      exact hno ⟨80, by decide, readPort_eq_some_iff.1 hport⟩))
    obtain ⟨p, hp, hl⟩ := htaken hr
    generalize ({} : Settings).override (some " ") (some " +0080 ")
      { jsonLogs := true } = q at hr hl
    cases hp with
    | text hw =>
      cases (readPort_eq_some_iff.2 hw).symm.trans hport
      exact ⟨q.2, Prod.ext hr rfl, hl.port, hl.host.trans (by decide), hl.jsonLogs⟩

end Settings

end SessionKeeper
