/-
Where the values of a configuration come from, and which of its faults is told.

The configuration of a run is that of the named file, or the standard one, with the value of each given flag in its field.
`violated` lists the fields of a configuration that are out of their ranges, in the order in which they are checked.
`Base` is the configuration before the flags, which has to be valid by itself, and `Merged` the overlay of the flags: a flag
touches its own field and no other.

`configure_precedence`: a run has a configuration exactly when the base and the overlay are valid, and it is that overlay;
every other way ends with the error of its first fault. A flag does not rescue a value of the file that is out of range.
-/
import LineTerminal.Config.Load
import LineTerminal.File

namespace LineTerminal.Config

/-! ## Ranges -/

/-- the fields with a range, in the order in which they are checked -/
def ranges : List (String × (Agent → Bool)) :=
  [("device_id", fun c => c.deviceId < 16),
   ("enable.fallback_pon_ports", fun c => 1 ≤ c.enable.fallbackPonPorts && c.enable.fallbackPonPorts ≤ 128),
   ("command_queue_depth", fun c => 1 ≤ c.queueDepth),
   ("logging.level", fun c => c.logging.level.toList.any (fun x => !Text.isBlank x))]

namespace Agent

def violated (c : Agent) : List String := (ranges.filter (fun r => !r.2 c)).map (·.1)

/-- a configuration in which no field is out of its range -/
structure InRange (c : Agent) : Prop where
  deviceId : c.deviceId < 16
  fallback : 1 ≤ c.enable.fallbackPonPorts ∧ c.enable.fallbackPonPorts ≤ 128
  depth : 1 ≤ c.queueDepth
  level : ∃ x ∈ c.logging.level.toList, Text.isBlank x = false

theorem violated_eq_nil_iff (c : Agent) : c.violated = [] ↔ c.InRange := by
  have tests : c.violated = [] ↔ ∀ r ∈ ranges, r.2 c = true := by
    simp only [violated, List.map_eq_nil_iff, List.filter_eq_nil_iff, Bool.not_eq_true', Bool.not_eq_false]
  rw [tests]
  constructor
  · intro h
    simp only [ranges, List.forall_mem_cons, decide_eq_true_eq, Bool.and_eq_true, List.any_eq_true, Bool.not_eq_true'] at h
    exact ⟨h.1, h.2.1, h.2.2.1, h.2.2.2.1⟩
  · rintro ⟨id, ports, depth, level⟩
    simp only [ranges, List.forall_mem_cons, decide_eq_true_eq, Bool.and_eq_true, List.any_eq_true, Bool.not_eq_true']
    exact ⟨id, ports, depth, level, nofun⟩

/-- a configuration is valid, or the first field that is out of its range is named -/
theorem validate_cases (c : Agent) : (c.InRange ∧ c.validate = .ok ())
    ∨ ∃ i, c.violated.head? = some i.field ∧ c.validate = .error i := by
  have first : c.violated.head? = (ranges.find? (fun r => !r.2 c)).map (·.1) := by
    rw [violated, List.head?_map, List.head?_filter]
  rw [first]
  simp only [ranges, List.find?_cons]
  unfold validate
  split
  · rename_i id
    have test : decide (c.deviceId < 16) = false := decide_eq_false (UInt32.not_lt.2 id)
    exact .inr ⟨_, by rw [test]; rfl, rfl⟩
  · rename_i id
    have test : decide (c.deviceId < 16) = true := decide_eq_true (UInt32.not_le.1 id)
    rw [test]
    split
    · rename_i ports
      have test : (decide (1 ≤ c.enable.fallbackPonPorts) && decide (c.enable.fallbackPonPorts ≤ 128)) = false := by
        rw [Bool.and_eq_false_iff, decide_eq_false_iff_not, decide_eq_false_iff_not, UInt32.not_le, UInt32.not_le]
        exact ports
      exact .inr ⟨_, by rw [test]; rfl, rfl⟩
    · rename_i ports
      rw [not_or, UInt32.not_lt, UInt32.not_lt] at ports
      have test : (decide (1 ≤ c.enable.fallbackPonPorts) && decide (c.enable.fallbackPonPorts ≤ 128)) = true := by
        rw [Bool.and_eq_true, decide_eq_true_iff, decide_eq_true_iff]
        exact ports
      rw [test]
      split
      · rename_i depth
        exact .inr ⟨_, by rw [depth]; rfl, rfl⟩
      · rename_i depth
        have positive : 1 ≤ c.queueDepth := by
          rw [UInt64.le_iff_toNat_le]
          exact Nat.one_le_iff_ne_zero.2 fun zero => depth (UInt64.toNat.inj zero)
        rw [decide_eq_true positive]
        have level : (c.logging.level.toList.any fun x => !Text.isBlank x) = !Text.isBlankText c.logging.level := by
          rw [Text.isBlankText, List.not_all_eq_any_not]
        split
        · rename_i blank
          exact .inr ⟨_, by rw [level, blank]; rfl, rfl⟩
        · rename_i blank
          rw [Bool.not_eq_true] at blank
          rw [blank, Bool.not_false, List.any_eq_true] at level
          obtain ⟨x, mem, shown⟩ := level
          exact .inl ⟨⟨UInt32.not_le.1 id, ports, positive, x, mem, (Bool.not_eq_true' _).mp shown⟩, rfl⟩

theorem checked_cases (c : Agent) : (c.InRange ∧ c.checked = .ok c)
    ∨ ∃ i, c.violated.head? = some i.field ∧ c.checked = .error (.invalid i) := by
  unfold checked
  rcases validate_cases c with ⟨valid, h⟩ | ⟨i, first, h⟩
  · rw [h]
    exact .inl ⟨valid, rfl⟩
  · rw [h]
    exact .inr ⟨i, first, rfl⟩

theorem checked_eq_ok_iff (c c' : Agent) : c.checked = .ok c' ↔ c' = c ∧ c.InRange := by
  rcases checked_cases c with ⟨valid, h⟩ | ⟨i, first, h⟩
  · rw [h]
    exact ⟨fun same => ⟨(Except.ok.inj same).symm, valid⟩, fun same => by rw [same.1]⟩
  · rw [h]
    refine ⟨nofun, fun same => ?_⟩
    rw [(violated_eq_nil_iff c).2 same.2] at first
    cases first

theorem checked_of_violated {c : Agent} (h : c.violated ≠ []) :
    ∃ i, c.violated.head? = some i.field ∧ c.checked = .error (.invalid i) := by
  rcases checked_cases c with ⟨valid, -⟩ | named
  · exact absurd ((violated_eq_nil_iff c).2 valid) h
  · exact named

/-! ## Files -/

/-- what a text says before it is checked -/
def parsed (text : String) : Except Yaml.Fault Agent :=
  if Text.isBlankText text then .ok .standard else (Yaml.Document.ofText text).decode (decode Yaml.source)

theorem ofText_of_ok {text : String} {c : Agent} (h : parsed text = .ok c) : ofText text = c.checked := by
  unfold parsed at h
  unfold ofText ofDocument
  split
  · rename_i blank
    rw [if_pos blank] at h
    cases h
    rfl
  · rename_i blank
    rw [if_neg blank] at h
    rw [h]

theorem ofText_of_error {text : String} {fault : Yaml.Fault} (h : parsed text = .error fault) :
    ofText text = .error (.unfit fault) := by
  unfold parsed at h
  unfold ofText ofDocument
  split
  · rename_i blank
    rw [if_pos blank] at h
    cases h
  · rename_i blank
    rw [if_neg blank] at h
    rw [h]

end Agent

end LineTerminal.Config

namespace LineTerminal.Cli

open Config (Agent LoadError)

/-! ## The overlay of the flags -/

/-- a flag that is given puts its value in the place of the one that is there -/
def Overlaid {α : Type} (flag : Option α) (old new : α) : Prop :=
  match flag with
  | some value => new = value
  | none => new = old

/-- a configuration with the given flags, each in its own field, and every other field as it was -/
structure Merged (f : Flags) (base c : Agent) : Prop where
  deviceId : Overlaid f.deviceId base.deviceId c.deviceId
  queueDepth : c.queueDepth = base.queueDepth
  enableOnStartup : c.enableOnStartup = true ↔ base.enableOnStartup = true ∧ f.noEnable = false
  fallbackPonPorts : Overlaid f.fallbackPonPorts base.enable.fallbackPonPorts c.enable.fallbackPonPorts
  policy : Overlaid f.errorPolicy base.enable.policy c.enable.policy
  level : Overlaid f.logLevel base.logging.level c.logging.level
  format : Overlaid f.logFormat base.logging.format c.logging.format

theorem overlaid_iff {α : Type} (flag : Option α) (old new : α) : Overlaid flag old new ↔ new = flag.getD old := by
  cases flag <;> rfl

theorem merged_iff (f : Flags) (base c : Agent) : Merged f base c ↔ c = f.apply base := by
  constructor
  · intro h
    obtain ⟨id, depth, startup, ⟨ports, policy⟩, ⟨level, format⟩⟩ := c
    obtain ⟨hid, hdepth, hstartup, hports, hpolicy, hlevel, hformat⟩ := h
    simp only [overlaid_iff] at hid hdepth hports hpolicy hlevel hformat
    have startup_eq : startup = (base.enableOnStartup && !f.noEnable) := by
      rw [Bool.eq_iff_iff, hstartup, Bool.and_eq_true, Bool.not_eq_true']
    rw [Flags.apply, ← hid, ← hdepth, ← hports, ← hpolicy, ← hlevel, ← hformat, ← startup_eq]
  · rintro rfl
    constructor <;> simp [overlaid_iff, Flags.apply]

/-! ## Main result -/

/-- the configuration before the flags: the standard one, or that of the named file, which is valid by itself -/
inductive Base (f : Flags) (file : String → Except File.Fault ByteArray) : Agent → Prop where
  | standard (unnamed : f.configFile = none) : Base f file .standard
  | file (path : String) (named : f.configFile = some path) (text : String) (found : file path = .ok text.toUTF8)
      (base : Agent) (parsed : Agent.parsed text = .ok base) (valid : base.violated = []) : Base f file base

/-- what comes of flags and files -/
structure Precedence (f : Flags) (file : String → Except File.Fault ByteArray) (result : Except LoadError Agent) :
    Prop where
  accepted : ∀ c, result = .ok c ↔ ∃ base, Base f file base ∧ Merged f base c ∧ c.violated = []
  inRange : ∀ c, result = .ok c → c.InRange
  unreadable : ∀ path fault, f.configFile = some path → file path = .error fault →
    result = .error (.unreadable path fault)
  notText : ∀ path bytes, f.configFile = some path → file path = .ok bytes → (∀ text : String, bytes ≠ text.toUTF8) →
    result = .error (.unreadable path .notText)
  unfit : ∀ path text fault, f.configFile = some path → file path = .ok text.toUTF8 →
    Agent.parsed text = .error fault → result = .error (.unfit fault)
  /-- the flags do not come into it -/
  invalidFile : ∀ path text base, f.configFile = some path → file path = .ok text.toUTF8 →
    Agent.parsed text = .ok base → base.violated ≠ [] →
    ∃ i, result = .error (.invalid i) ∧ base.violated.head? = some i.field
  invalidMerged : ∀ base c, Base f file base → Merged f base c → c.violated ≠ [] →
    ∃ i, result = .error (.invalid i) ∧ c.violated.head? = some i.field

/-- files are read as the texts that their bytes encode -/
def reading (file : String → Except File.Fault ByteArray) (path : String) : Except File.Fault String :=
  (file path).bind File.textOfBytes

variable {f : Flags} {file : String → Except File.Fault ByteArray}

theorem reading_of_text {path text : String} (found : file path = .ok text.toUTF8) : reading file path = .ok text := by
  rw [reading, found]
  exact (File.textOfBytes_eq_ok_iff _ _).2 rfl

theorem configure_unnamed (unnamed : f.configFile = none) :
    f.configure (reading file) = (f.apply .standard).checked := by
  rw [Flags.configure, unnamed]
  rfl

theorem configure_named {path : String} (named : f.configFile = some path) :
    f.configure (reading file) = (Agent.ofFile path (reading file path)).bind (fun c => (f.apply c).checked) := by
  rw [Flags.configure, named]
  rfl

/-- a named file that is read comes to be a configuration by itself first -/
theorem configure_of_parsed {path text : String} {base : Agent} (named : f.configFile = some path)
    (found : file path = .ok text.toUTF8) (parsed : Agent.parsed text = .ok base) :
    f.configure (reading file) = base.checked.bind (fun c => (f.apply c).checked) := by
  rw [configure_named named, reading_of_text found, Agent.ofFile, Agent.ofText_of_ok parsed]

theorem configure_of_base {base : Agent} (h : Base f file base) :
    f.configure (reading file) = (f.apply base).checked := by
  cases h with
  | standard unnamed => exact configure_unnamed unnamed
  | file path named text found base parsed valid =>
    rw [configure_of_parsed named found parsed, (Agent.checked_eq_ok_iff base base).2 ⟨rfl, base.violated_eq_nil_iff.1 valid⟩]
    rfl

/-- a configuration has a base -/
theorem base_of_configure {c : Agent} (h : f.configure (reading file) = .ok c) : ∃ base, Base f file base := by
  cases named : f.configFile with
  | none => exact ⟨_, .standard named⟩
  | some path =>
    rw [configure_named named] at h
    cases found : file path with
    | error fault =>
      rw [reading, found] at h
      cases h
    | ok bytes =>
      cases encoded : File.textOfBytes bytes with
      | error fault =>
        rw [reading, found, Except.bind, encoded] at h
        cases h
      | ok text =>
        rw [File.textOfBytes_eq_ok_iff] at encoded
        subst encoded
        rw [reading_of_text found, Agent.ofFile] at h
        cases parsed : Agent.parsed text with
        | error fault =>
          rw [Agent.ofText_of_error parsed] at h
          cases h
        | ok base =>
          rw [Agent.ofText_of_ok parsed] at h
          rcases base.checked_cases with ⟨valid, -⟩ | ⟨i, -, refused⟩
          · exact ⟨base, .file path named text found base parsed (base.violated_eq_nil_iff.2 valid)⟩
          · rw [refused] at h
            cases h

/-- **Where the values of a configuration come from.** For all flags and whatever the files hold. -/
theorem configure_precedence (f : Flags) (file : String → Except File.Fault ByteArray) :
    Precedence f file (f.configure (reading file)) where
  accepted c := by
    constructor
    · intro h
      obtain ⟨base, loaded⟩ := base_of_configure h
      rw [configure_of_base loaded, Agent.checked_eq_ok_iff] at h
      obtain ⟨rfl, valid⟩ := h
      exact ⟨base, loaded, (merged_iff f base _).2 rfl, (Agent.violated_eq_nil_iff _).2 valid⟩
    · rintro ⟨base, loaded, merged, valid⟩
      rw [configure_of_base loaded, Agent.checked_eq_ok_iff]
      exact ⟨(merged_iff f base c).1 merged, by rw [← (merged_iff f base c).1 merged]; exact c.violated_eq_nil_iff.1 valid⟩
  inRange c h := by
    obtain ⟨base, loaded⟩ := base_of_configure h
    rw [configure_of_base loaded, Agent.checked_eq_ok_iff] at h
    exact h.1 ▸ h.2
  unreadable path fault named found := by
    rw [configure_named named, reading, found]
    rfl
  notText path bytes named found other := by
    rw [configure_named named, reading, found, Except.bind, File.textOfBytes_eq_error other]
    rfl
  unfit path text fault named found parsed := by
    rw [configure_named named, reading_of_text found, Agent.ofFile, Agent.ofText_of_error parsed]
    rfl
  invalidFile path text base named found parsed violated := by
    obtain ⟨i, first, refused⟩ := Agent.checked_of_violated violated
    refine ⟨i, ?_, first⟩
    rw [configure_of_parsed named found parsed, refused]
    rfl
  invalidMerged base c loaded merged violated := by
    obtain ⟨i, first, refused⟩ := Agent.checked_of_violated violated
    refine ⟨i, ?_, first⟩
    rw [configure_of_base loaded, ← (merged_iff f base c).1 merged, refused]

end LineTerminal.Cli
