/-
The status numbers of the vendor's library, and what they make of an enable.

The library answers every entry with a signed number of 32 bits, and a read also writes a topology. On the way to the result
of an enable such a number becomes a code, an error, a class of errors and a branch of the enable. `Decided` says what comes
of it, told from the numbers alone:
- the enable is given up for the host side exactly when the first number is not zero;
- then the number of the read decides where the number of ports comes from. Zero with at most 128 ports is what was reported,
  -18 is a terminal that is not connected, and after everything else (`Unusable`) the settings decide;
- a port has failed exactly when the number of its activation is not zero, and the log says twice, in a line and in a record,
  whether trying again may help: after the numbers of `retryNumbers`, and no others.

`status_numbers_decide`: so it is for every library, whatever it answers, and what a failing read has written makes no
difference (`linked_scribbling`).
-/
import LineTerminal.Driver.Library
import LineTerminal.Proofs.Driver.Range
import LineTerminal.Proofs.Enable.Trail

namespace LineTerminal

open Vendor (Library RawTopology resultOfRaw infoOf linked forwarding maxOlts maxPonInterfaces)

variable {σ : Type}

/-! ## Numbers as results -/

namespace Vendor

/-- the numbers after which trying again may help -/
def retryNumbers : List Int32 := [-1, -3, -4, -20, -21]

theorem resultOfRaw_eq_ok_iff (n : Int32) : resultOfRaw n = .ok () ↔ n = 0 :=
  (Errno.result_eq_ok_iff _).trans (Errno.ofRaw_isOk n)

theorem resultOfRaw_eq_error (n : Int32) (failed : n ≠ 0) :
    resultOfRaw n = .error (DriverError.ofErrno (Errno.ofRaw n)) := by
  refine (Errno.result_eq_error_iff _ _).2 ⟨Bool.eq_false_iff.2 fun ok => ?_, rfl⟩
  exact failed ((Errno.ofRaw_isOk n).1 ok)

/-- no other code than its own is taken for "not connected" -/
theorem ofErrno_eq_notConnected_iff (n : Int32) :
    DriverError.ofErrno (Errno.ofRaw n) = .notConnected ↔ n = -18 := by
  refine Iff.trans ?_ (Errno.ofRaw_eq_iff (e := .notConnected) (by decide) n)
  cases Errno.ofRaw n <;> simp [DriverError.ofErrno]

theorem isRetryable_ofRaw (n : Int32) :
    (DriverError.ofErrno (Errno.ofRaw n)).isRetryable = decide (n ∈ retryNumbers) := by
  rw [DriverError.isRetryable_ofErrno]
  refine decide_eq_decide.2 ?_
  have own (e : Errno) (h : e ≠ .internal) : Errno.ofRaw n = e ↔ n = e.raw := Errno.ofRaw_eq_iff h n
  simp only [List.mem_cons, List.not_mem_nil, or_false, retryNumbers, own .inProgress (by decide),
    own .noMem (by decide), own .noRes (by decide), own .commFail (by decide), own .timeout (by decide), Errno.raw]

def readResult (olt : OltId) (r : Int32 × RawTopology × σ) : Except DriverError OltInfo :=
  (resultOfRaw r.1).bind (fun _ => infoOf olt r.2.1)

/-- a read whose answer is neither a topology that can be used nor "not connected" -/
def Unusable (r : Int32 × RawTopology × σ) : Prop := r.1 ≠ -18 ∧ ¬ (r.1 = 0 ∧ r.2.1.ponPorts ≤ maxPonInterfaces)

/-- what the ports of an enable are after a read, or that it is given up -/
inductive Discovered (settings : EnableSettings) (r : Int32 × RawTopology × σ) :
    Except EnableError Enable.Found → Prop where
  | configured (number : r.1 = 0) (size : r.2.1.ponPorts ≤ maxPonInterfaces) :
    Discovered settings r (.ok ⟨r.2.1.ponPorts, .configured⟩)
  | notConnected (number : r.1 = -18) : Discovered settings r (.ok ⟨settings.fallbackPonPorts, .notConnectedFallback⟩)
  | tolerated (unusable : Unusable r) (policy : settings.policy = .fallback) :
    Discovered settings r (.ok ⟨settings.fallbackPonPorts, .errorFallback⟩)
  | fatal (unusable : Unusable r) (policy : settings.policy = .fatal) (e : DriverError) :
    Discovered settings r (.error (.configRead e))

/-- an error other than "not connected" leaves the choice to the settings -/
theorem discovered_of_unusable (settings : EnableSettings) {r : Int32 × RawTopology × σ} (unusable : Unusable r)
    {e : DriverError} (other : e ≠ .notConnected) : Discovered settings r (Enable.discover settings (.error e)) := by
  have connected : e.isNotConnected = false := Bool.eq_false_iff.2 fun h => other ((e.isNotConnected_iff).1 h)
  simp only [Enable.discover, connected, Bool.false_eq_true, ↓reduceIte]
  split
  · rename_i policy
    exact .tolerated unusable policy
  · rename_i policy
    exact .fatal unusable policy e

theorem discovered (settings : EnableSettings) (olt : OltId) (r : Int32 × RawTopology × σ) :
    Discovered settings r (Enable.discover settings (readResult olt r)) := by
  by_cases number : r.1 = 0
  · rw [readResult, (resultOfRaw_eq_ok_iff _).2 number, Except.bind, infoOf]
    split
    · rename_i size
      have unusable : Unusable r := ⟨by rw [number]; decide, fun h => UInt32.not_le.2 size h.2⟩
      exact discovered_of_unusable settings unusable nofun
    · rename_i size
      exact .configured number (UInt32.not_lt.1 size)
  · rw [readResult, resultOfRaw_eq_error _ number, Except.bind]
    by_cases connected : r.1 = -18
    · rw [(ofErrno_eq_notConnected_iff _).2 connected]
      exact .notConnected connected
    · exact discovered_of_unusable settings ⟨connected, fun h => number h.1⟩
        (fun h => connected ((ofErrno_eq_notConnected_iff _).1 h))

/-- the branch of an enable that finds ports, told from the number of its read -/
structure Branch (settings : EnableSettings) (r : Int32 × RawTopology × σ) (found : Enable.Found) : Prop where
  configured : found.discovery = .configured ↔ r.1 = 0 ∧ r.2.1.ponPorts ≤ maxPonInterfaces
  notConnected : found.discovery = .notConnectedFallback ↔ r.1 = -18
  tolerated : found.discovery = .errorFallback ↔ Unusable r ∧ settings.policy = .fallback
  notFatal : ¬ (Unusable r ∧ settings.policy = .fatal)
  reported : found.discovery = .configured → found.count = r.2.1.ponPorts
  assumed : found.discovery ≠ .configured → found.count = settings.fallbackPonPorts

theorem Discovered.branch {settings : EnableSettings} {r : Int32 × RawTopology × σ} {found : Enable.Found}
    (h : Discovered settings r (.ok found)) : Branch settings r found := by
  cases h with
  | configured number size => constructor <;> simp [Unusable, number, size]
  | notConnected number => constructor <;> simp [Unusable, number]
  | tolerated unusable policy =>
    have other : r.1 ≠ -18 := unusable.1
    have unread : ¬ (r.1 = 0 ∧ r.2.1.ponPorts ≤ maxPonInterfaces) := unusable.2
    constructor <;> simp [unusable, policy, other, unread]

/-! ## The numbers of a run -/

/-- the numbers of a library that is asked to activate interfaces one after another -/
def Library.activations (lib : Library σ) (olt : UInt32) : List UInt32 → σ → List Int32
  | [], _ => []
  | pon :: pons, s =>
    let r := lib.activatePon olt pon s
    r.1 :: lib.activations olt pons r.2

theorem length_activations (lib : Library σ) (olt : UInt32) (pons : List UInt32) (s : σ) :
    (lib.activations olt pons s).length = pons.length := by
  induction pons generalizing s with
  | nil => rfl
  | cons pon pons ih => simp only [Library.activations, List.length_cons, ih]

theorem forwarding_activations (lib : Library σ) (olt : OltId) (pons : List PonId) (s : σ) :
    (forwarding lib).activations olt pons s = (lib.activations olt.raw (pons.map (·.raw)) s).map resultOfRaw := by
  induction pons generalizing s with
  | nil => rfl
  | cons pon pons ih =>
    simp only [Driver.activations, forwarding, List.map_cons, Library.activations, Operation.target, ← ih]

/-- the same library, but a read that fails writes another topology -/
def Library.scribbling (lib : Library σ) (other : UInt32 → σ → RawTopology) : Library σ where
  hostInit := lib.hostInit
  readConfig olt s :=
    let r := lib.readConfig olt s
    if r.1 = 0 then r else (r.1, other olt s, r.2.2)
  activatePon := lib.activatePon

/-- what a failing read writes is not looked at -/
theorem linked_scribbling (lib : Library σ) (other : UInt32 → σ → RawTopology) :
    linked (lib.scribbling other) = linked lib := by
  have read : (linked (lib.scribbling other)).readConfig = (linked lib).readConfig := by
    funext olt s
    simp only [linked, Library.scribbling]
    split
    · rfl
    · split
      · rfl
      · rename_i failed
        rw [resultOfRaw_eq_error _ failed]
        rfl
  show Driver.mk (linked lib).hostInit (linked (lib.scribbling other)).readConfig (linked lib).submit = linked lib
  rw [read]

end Vendor

/-! ## What the log says about another try -/

namespace Enable

open Log (Entry)
open Vendor (retryNumbers)

/-- what an entry says about trying again: the interface that failed, and whether it may help -/
def retryNote? : Entry → Option (String × Bool)
  | .line l =>
    match l.field? "pon_ni", l.field? "retryable" with
    | some (.number n), some (.flag may) => some (toString n, may)
    | _, _ => none
  | .audit r =>
    match r.objectId, r.details.bind (·.member? "retryable") with
    | some id, some (.bool may) => some (id, may)
    | _, _ => none

/-- what a log says about trying again, oldest first -/
def retryNotes (log : List Entry) : List (String × Bool) := log.filterMap retryNote?

/-- what the log says about an interface, given the number of its activation -/
def notesOf (pon : PonId) (n : Int32) : List (String × Bool) :=
  if n = 0 then [] else List.replicate 2 (pon.text, decide (n ∈ retryNumbers))

theorem retryNotes_append (log more : List Entry) : retryNotes (log ++ more) = retryNotes log ++ retryNotes more :=
  List.filterMap_append

theorem retryNotes_discoverEntries (settings : EnableSettings) (olt : OltId) (answer : Except DriverError OltInfo) :
    retryNotes (discoverEntries settings olt answer) = [] := by
  unfold discoverEntries
  split
  · rfl
  · split
    · rfl
    · split <;> rfl

theorem retryNote?_verdictEntry (request : Request) (found : Found) (a : Activation) :
    retryNote? (verdictEntry request found a) = none := by
  unfold verdictEntry
  split <;> rfl

theorem retryNote?_verdictRecord (now : Time.Timestamp) (request : Request) (found : Found) (a : Activation)
    (l : Lifecycle) : retryNote? (.audit (verdictRecord now request found a l)) = none := by
  obtain ⟨outcome, error, -, record⟩ := verdictRecord_eq now request found a l
  simp [record, retryNote?, Json.member?_ofMembers]

/-- a port is noted twice when its number is not zero, and otherwise not at all -/
theorem retryNotes_portEntries (now : Time.Timestamp) (request : Request) (olt : OltId) (pon : PonId) (n : Int32) :
    retryNotes (portEntries now request olt pon (Vendor.resultOfRaw n)) = notesOf pon n := by
  by_cases number : n = 0
  · rw [(Vendor.resultOfRaw_eq_ok_iff n).2 number, notesOf, if_pos number]
    rfl
  · rw [Vendor.resultOfRaw_eq_error n number, notesOf, if_neg number, ← Vendor.isRetryable_ofRaw]
    generalize DriverError.ofErrno (Errno.ofRaw n) = e
    have line : retryNote? (line .warn "PON port activation failed"
        [("pon_ni", word pon.raw), ("error", .shown e.message), ("retryable", .flag e.isRetryable)])
          = some (pon.text, e.isRetryable) := rfl
    have record : retryNote? (.audit (portRecord now request olt pon e)) = some (pon.text, e.isRetryable) := by
      simp [retryNote?, portRecord, Audit.Record.changes, Audit.Record.change, Json.member?_ofMembers]
    simp only [portEntries, retryNotes, List.filterMap_cons, line, record, List.filterMap_nil, List.replicate]

theorem retryNotes_foldl_activatePort (lib : Vendor.Library σ) (now : Time.Timestamp) (request : Request) (olt : OltId)
    (pons : List PonId) (w : Work σ (List PortReport)) :
    retryNotes (pons.foldl (activatePort (forwarding lib) now request olt) w).log
      = retryNotes w.log
        ++ (List.zipWith notesOf pons (lib.activations olt.raw (pons.map (·.raw)) w.managed.driver)).flatten := by
  induction pons generalizing w with
  | nil => simp
  | cons pon pons ih =>
    let r := lib.activatePon olt.raw pon.raw w.managed.driver
    have submitted : retryNotes ([Vendor.submitLine olt (.activatePon pon)].map .line) = [] := rfl
    have first : retryNotes (activatePort (forwarding lib) now request olt w pon).log
        = retryNotes w.log ++ notesOf pon r.1 := by
      simp only [activatePort, forwarding, retryNotes_append, submitted, List.append_nil]
      rw [retryNotes_portEntries]
      rfl
    rw [List.foldl_cons, ih, first, List.map_cons, Vendor.Library.activations, List.zipWith_cons_cons,
      List.flatten_cons, List.append_assoc]
    rfl

/-- attempted ports are noted by their numbers, and the verdict not at all -/
theorem retryNotes_attempt (lib : Vendor.Library σ) (now : Time.Timestamp) (request : Request) (found : Found)
    (m : Managed σ) :
    retryNotes (attempt (forwarding lib) now request found m).log
      = (List.zipWith notesOf (interfaces found.count)
          (lib.activations m.device.id ((interfaces found.count).map (·.raw)) m.driver)).flatten := by
  simp only [attempt, activatePorts, retryNotes_append, retryNotes_foldl_activatePort]
  simp only [retryNotes, List.filterMap_nil, List.filterMap_cons, retryNote?_verdictEntry, retryNote?_verdictRecord,
    List.append_nil, List.nil_append]
  rfl

/-! ## Main result -/

/-- the number that the library answers when the host side is brought up -/
def hostNumber (lib : Library σ) (m : Managed σ) : Int32 := (lib.hostInit m.driver).1

/-- what it then answers to a read of the configuration: a number, a topology and its next state -/
def readAnswer (lib : Library σ) (m : Managed σ) : Int32 × RawTopology × σ :=
  lib.readConfig m.device.id (lib.hostInit m.driver).2

/-- the numbers that it then answers when the interfaces `0, 1, …, count - 1` are activated -/
def portNumbers (lib : Library σ) (m : Managed σ) (count : Nat) : List Int32 :=
  lib.activations m.device.id ((List.range count).map (·.toUInt32)) (readAnswer lib m).2.2

/-- what the numbers of a library make of an enable -/
structure Decided (lib : Library σ) (settings : EnableSettings) (m : Managed σ) (w : Work σ Activation) : Prop where
  hostInit : (∃ e, w.value = .rejected (.hostInit e)) ↔ hostNumber lib m ≠ 0
  configured : hostNumber lib m = 0 → (w.value.discovery = some .configured ↔
    (readAnswer lib m).1 = 0 ∧ (readAnswer lib m).2.1.ponPorts ≤ maxPonInterfaces)
  reported : w.value.discovery = some .configured → w.value.ports.length = (readAnswer lib m).2.1.ponPorts.toNat
  /-- whatever was written, and whatever the policy -/
  notConnected : hostNumber lib m = 0 → (w.value.discovery = some .notConnectedFallback ↔ (readAnswer lib m).1 = -18)
  tolerated : hostNumber lib m = 0 → (w.value.discovery = some .errorFallback ↔
    Vendor.Unusable (readAnswer lib m) ∧ settings.policy = .fallback)
  fatal : hostNumber lib m = 0 → ((∃ e, w.value = .rejected (.configRead e)) ↔
    Vendor.Unusable (readAnswer lib m) ∧ settings.policy = .fatal)
  assumed : w.value.discovery = some .notConnectedFallback ∨ w.value.discovery = some .errorFallback →
    w.value.ports.length = settings.fallbackPonPorts.toNat
  /-- the `i`-th report is on the `i`-th interface, and tells whether its number is zero -/
  ports : ∀ (i : Nat) (p : PortReport), w.value.ports[i]? = some p → p.pon.raw.toNat = i ∧
    ∃ n, (portNumbers lib m w.value.ports.length)[i]? = some n ∧ (p.status = .failed ↔ n ≠ 0)
  /-- as retryable exactly after the numbers of `retryNumbers` -/
  logged : retryNotes w.log
    = (List.zipWith notesOf (w.value.ports.map (·.pon)) (portNumbers lib m w.value.ports.length)).flatten

theorem hostAnswer_forwarding (lib : Library σ) (request : Request) (m : Managed σ) :
    (hostAnswer (forwarding lib) request m).outcome = resultOfRaw (hostNumber lib m) := rfl

theorem configAnswer_forwarding (lib : Library σ) (request : Request) (m : Managed σ) :
    (configAnswer (forwarding lib) request m).outcome = Vendor.readResult m.device.olt (readAnswer lib m) := rfl

/-- an enable that is given up for the host side -/
theorem decided_hostFailed {lib : Library σ} {settings : EnableSettings} {m : Managed σ} {w : Work σ Activation}
    {e : DriverError} (number : hostNumber lib m ≠ 0) (value : w.value = .rejected (.hostInit e))
    (log : retryNotes w.log = []) : Decided lib settings m w := by
  obtain ⟨_, managed, entries⟩ := w
  subst value
  exact {
    hostInit := ⟨fun _ => number, fun _ => ⟨e, rfl⟩⟩
    configured := fun h => absurd h number
    reported := nofun
    notConnected := fun h => absurd h number
    tolerated := fun h => absurd h number
    fatal := fun h => absurd h number
    assumed := nofun
    ports := fun i p hp => nomatch hp
    logged := log }

/-- the numbers of the interfaces that are attempted -/
theorem raws_interfaces (count : UInt32) : (interfaces count).map (·.raw) = (List.range count.toNat).map (·.toUInt32) := by
  rw [interfaces, List.map_map]
  rfl

/-- the reports of an attempt beside the numbers -/
theorem reports_of_numbers (lib : Library σ) (m n : Managed σ) (now : Time.Timestamp) (request : Request) (found : Found)
    (device : n.device = m.device) (driver : n.driver = (readAnswer lib m).2.2) :
    (attempt (forwarding lib) now request found n).value.ports
      = List.zipWith portReport (interfaces found.count)
          ((portNumbers lib m found.count.toNat).map resultOfRaw) := by
  rw [attempt_value, Vendor.forwarding_activations, raws_interfaces, device, driver]
  rfl

theorem length_portNumbers (lib : Library σ) (m : Managed σ) (count : Nat) : (portNumbers lib m count).length = count := by
  rw [portNumbers, Vendor.length_activations, List.length_map, List.length_range]

/-- a report on an interface tells whether its number is zero -/
theorem failed_iff_of_reports {lib : Library σ} {m : Managed σ} {count : UInt32} {ports : List PortReport}
    (reports : ports = List.zipWith portReport (interfaces count) ((portNumbers lib m count.toNat).map resultOfRaw))
    {i : Nat} {p : PortReport} (hp : ports[i]? = some p) :
    p.pon.raw.toNat = i ∧ ∃ n, (portNumbers lib m count.toNat)[i]? = some n ∧ (p.status = .failed ↔ n ≠ 0) := by
  have hi := hp
  rw [reports, List.getElem?_zipWith_eq_some] at hi
  obtain ⟨pon, answer, -, hanswer, -⟩ := hi
  have reported : Reported i answer p :=
    reports_of_zipWith _ _ (interfaces_numbers count) i answer p hanswer (reports ▸ hp)
  rw [List.getElem?_map, Option.map_eq_some_iff] at hanswer
  obtain ⟨n, hn, rfl⟩ := hanswer
  refine ⟨reported.index, n, hn, ?_⟩
  rw [← p.isSuccess_eq_false_iff, ← Bool.not_eq_true, reported.success, Vendor.resultOfRaw_eq_ok_iff]

theorem retryNotes_attempted (lib : Library σ) (settings : EnableSettings) (request : Request) (m : Managed σ)
    (log : List Entry) :
    retryNotes (beginEntry request :: ((hostAnswer (forwarding lib) request m).lines.map .line
        ++ ((configAnswer (forwarding lib) request m).lines.map .line
          ++ discoverEntries settings m.device.olt (configAnswer (forwarding lib) request m).outcome ++ log)))
      = retryNotes log := by
  have begun (rest : List Entry) : retryNotes (beginEntry request :: rest) = retryNotes rest := rfl
  have host : retryNotes ((hostAnswer (forwarding lib) request m).lines.map .line) = [] := rfl
  have config : retryNotes ((configAnswer (forwarding lib) request m).lines.map .line) = [] := rfl
  simp only [begun, retryNotes_append, host, config, retryNotes_discoverEntries, List.nil_append]

/-- an enable of a device that the library knows, without the checks of its id -/
theorem forwarding_decided (lib : Library σ) (settings : EnableSettings) (now : Time.Timestamp) (request : Request)
    (m : Managed σ) (managed : request.deviceId = m.device.id) :
    Decided lib settings m (enable (forwarding lib) settings now request m) := by
  have course := enable_course (forwarding lib) settings now request m
  generalize enable (forwarding lib) settings now request m = v at course ⊢
  cases course with
  | unknown other => exact absurd managed other
  | hostFailed known e host =>
    refine decided_hostFailed (fun number => ?_) rfl rfl
    rw [hostAnswer_forwarding, number] at host
    cases host
  | readFailed known host e read =>
    have number : hostNumber lib m = 0 := (Vendor.resultOfRaw_eq_ok_iff _).1 host
    have found := Vendor.discovered settings m.device.olt (readAnswer lib m)
    rw [configAnswer_forwarding] at read
    rw [read] at found
    cases found with
    | fatal unusable policy cause =>
      exact {
        hostInit := ⟨nofun, fun h => absurd number h⟩
        configured := fun _ => ⟨nofun, fun h => absurd h unusable.2⟩
        reported := nofun
        notConnected := fun _ => ⟨nofun, fun h => absurd h unusable.1⟩
        tolerated := fun _ => ⟨nofun, fun h => nomatch policy.symm.trans h.2⟩
        fatal := fun _ => ⟨fun _ => ⟨unusable, policy⟩, fun _ => ⟨cause, rfl⟩⟩
        assumed := nofun
        ports := fun i p hp => nomatch hp
        logged := retryNotes_attempted lib settings request m _ }
  | attempted known host found read w ports =>
    have number : hostNumber lib m = 0 := (Vendor.resultOfRaw_eq_ok_iff _).1 host
    have discovered := Vendor.discovered settings m.device.olt (readAnswer lib m)
    rw [configAnswer_forwarding] at read
    rw [read] at discovered
    have length : w.value.ports.length = found.count.toNat := by rw [ports, length_attempt_ports]
    have reports : w.value.ports = List.zipWith portReport (interfaces found.count)
        ((portNumbers lib m found.count.toNat).map resultOfRaw) := by
      rw [ports]
      exact reports_of_numbers lib m _ now request found rfl rfl
    have pons : w.value.ports.map (·.pon) = interfaces found.count := by
      rw [reports, map_pon_zipWith]
      rw [List.length_map, length_portNumbers, length_interfaces]
    have discovery : w.value.discovery = some found.discovery := by rw [ports, attempt_value]; rfl
    have given : w.value.isRejected = false := by rw [ports, attempt_value, Activation.isRejected_ofPorts]
    have logged : retryNotes w.log
        = (List.zipWith notesOf (interfaces found.count) (portNumbers lib m found.count.toNat)).flatten := by
      rw [ports, retryNotes_attempt, raws_interfaces]
      rfl
    have attempted {e : EnableError} (reason : (Activation.rejected e).isRejected = true) : w.value ≠ .rejected e := by
      intro h
      rw [h, reason] at given
      cases given
    have branch := discovered.branch
    have same (source : Discovery) : w.value.discovery = some source ↔ found.discovery = source := by
      rw [discovery, Option.some.injEq]
    exact {
      hostInit := ⟨fun ⟨_, h⟩ => absurd h (attempted rfl), fun h => absurd number h⟩
      configured := fun _ => (same _).trans branch.configured
      reported := fun h => by rw [length, branch.reported ((same _).1 h)]
      notConnected := fun _ => (same _).trans branch.notConnected
      tolerated := fun _ => (same _).trans branch.tolerated
      fatal := fun _ => ⟨fun ⟨_, h⟩ => absurd h (attempted rfl), fun h => absurd h branch.notFatal⟩
      assumed := fun h => by
        have other : found.discovery ≠ .configured := by
          rw [same, same] at h
          rcases h with h | h <;> rw [h] <;> decide
        rw [length, branch.assumed other]
      ports := fun i p hp => by
        rw [length]
        exact failed_iff_of_reports reports hp
      logged := by
        rw [retryNotes_attempted, logged, pons, length] }

end Enable

/-- **The numbers of the library decide an enable**, of every device and with every number of fallback ports that it knows,
and whatever the library answers. What a failing read writes makes no difference. -/
theorem status_numbers_decide (lib : Library σ) (settings : EnableSettings) (now : Time.Timestamp)
    (request : Enable.Request) (m : Managed σ) (known : m.device.id < 16) (fallback : settings.fallbackPonPorts ≤ 128)
    (managed : request.deviceId = m.device.id) :
    Enable.Decided lib settings m (enable (linked lib) settings now request m)
      ∧ ∀ other, enable (linked (lib.scribbling other)) settings now request m
          = enable (linked lib) settings now request m := by
  refine ⟨?_, fun other => by rw [Vendor.linked_scribbling]⟩
  rw [enable_agree (Vendor.linked_agree lib) (Vendor.modest_linked lib fallback) now request known]
  exact Enable.forwarding_decided lib settings now request m managed

/-- the last device, over a library whose read fails with an unknown number and a topology: the two fallback ports are
activated, one of them times out and the other fails with another unknown number -/
theorem status_numbers_decide_unknown :
    let settings : EnableSettings := ⟨2, .fallback⟩
    let request : Enable.Request := ⟨15, none⟩
    let lib : Vendor.ScriptedLibrary :=
      { Vendor.ScriptedLibrary.fresh with readConfig := 2147483647, topology := ⟨9, 0, 0⟩, once := [-21, -22] }
    let m : Managed Vendor.ScriptedLibrary := .fresh lib 15
    let w := enable (linked Vendor.ScriptedLibrary.library) settings .epoch request m
    m.device.id < 16 ∧ settings.fallbackPonPorts ≤ 128 ∧ request.deviceId = m.device.id
      ∧ Enable.Decided Vendor.ScriptedLibrary.library settings m w
      ∧ w.value.discovery = some .errorFallback
      ∧ Enable.retryNotes w.log = [("0", true), ("0", true), ("1", false), ("1", false)] := by
  intro settings request lib m w
  have decided := (status_numbers_decide Vendor.ScriptedLibrary.library settings .epoch request m (by decide) (by decide)
    rfl).1
  exact ⟨by decide, by decide, rfl, decided, rfl, decided.logged.trans (by decide)⟩

end LineTerminal
