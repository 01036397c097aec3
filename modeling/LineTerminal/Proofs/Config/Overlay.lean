/-
A written configuration is laid over the standard one.

`Thinned` says what may be left of the members of a record: they may stand in any order, and those that are as in the
standard record may be missing. `Variant c` is what stands for the configuration `c`: its encoding, thinned at the top and
in both sections. Over any data format a variant of `c` is decoded to `c` (`decode_variant`), valid or not, and a mapping
with a key that is no field or no text, or with a key twice, at the top or in a section (`Spoilt`), is not decoded at all
(`decode_spoilt`).

`decoding_overlays`: so it is for JSON values, where the encoding itself is a variant, and for the texts of configuration
files, which are checked after they are decoded.
-/
import Mathlib.Data.List.Perm.Subperm
import LineTerminal.Proofs.Config.Precedence
import LineTerminal.Proofs.Schema.Records
import LineTerminal.Proofs.Yaml.Blank

namespace LineTerminal

/-! ## The members of objects -/

namespace Json

/-- the members of an object; other values have none -/
def members : Json → List (String × Json)
  | .object ms => ms
  | _ => []

theorem member?_object_of_mem {ms : List (String × Json)} (nodup : (ms.map Prod.fst).Nodup) {name : String} {j : Json}
    (among : (name, j) ∈ ms) : (Json.object ms).member? name = some j := by
  induction ms with
  | nil => cases among
  | cons m ms ih =>
    rw [List.map_cons, List.nodup_cons] at nodup
    rcases List.mem_cons.1 among with rfl | among
    · simp [member?]
    · have other : m.1 ≠ name := fun same => nodup.1 (same ▸ List.mem_map_of_mem among)
      have rest := ih nodup.2 among
      simp only [member?, List.find?_cons, beq_eq_false_iff_ne.2 other] at rest ⊢
      exact rest

theorem member?_object_eq_none {ms : List (String × Json)} {name : String} (missing : name ∉ ms.map Prod.fst) :
    (Json.object ms).member? name = none := by
  have none : ms.find? (·.1 == name) = none :=
    List.find?_eq_none.2 (fun m among same => missing (beq_iff_eq.1 same ▸ List.mem_map_of_mem among))
  rw [member?, none, Option.map_none]

theorem word_injective {n m : UInt32} (same : word n = word m) : n = m := by
  have wide : n.toUInt64 = m.toUInt64 := by simpa [word, natural] using same
  exact UInt32.toNat_inj.1 (by simpa using congrArg UInt64.toNat wide)

end Json

namespace Config

open Schema (Field Source Members Sets Ill)
open Agent (standard)

/-! ## Thinned members -/

/-- what is left of the members `full` in another order and without some that are standard -/
inductive Thinned (standard full : List (String × Json)) : List (String × Json) → Prop
  | all : Thinned standard full full
  | reordered {ms ns : List (String × Json)} (thinned : Thinned standard full ms) (order : ms.Perm ns) :
      Thinned standard full ns
  | without {m : String × Json} {ms : List (String × Json)} (thinned : Thinned standard full (m :: ms))
      (usual : m ∈ standard) : Thinned standard full ms

namespace Thinned

variable {standard full ms : List (String × Json)}

/-- nothing is added -/
theorem subperm (thinned : Thinned standard full ms) : ms.Subperm full := by
  induction thinned with
  | all => exact .refl _
  | reordered _ order ih => exact order.symm.subperm.trans ih
  | without _ _ ih => exact (List.sublist_cons_self _ _).subperm.trans ih

/-- what is missing is standard -/
theorem usual (thinned : Thinned standard full ms) {m : String × Json} (among : m ∈ full) (missing : m ∉ ms) :
    m ∈ standard := by
  induction thinned with
  | all => exact absurd among missing
  | reordered _ order ih => exact ih (fun mem => missing (order.mem_iff.1 mem))
  | @without first ms _ usual ih =>
    by_cases same : m = first
    · exact same ▸ usual
    · exact ih (fun mem => (List.mem_cons.1 mem).elim same missing)

theorem nodup (thinned : Thinned standard full ms) (nodup : (full.map Prod.fst).Nodup) : (ms.map Prod.fst).Nodup := by
  obtain ⟨ns, order, sublist⟩ := thinned.subperm
  exact (order.map Prod.fst).nodup_iff.1 ((sublist.map Prod.fst).nodup nodup)

/-- a part under a name that is missing is standard, when the names of the two records are the same -/
theorem member?_eq (thinned : Thinned standard full ms) (names : standard.map Prod.fst = full.map Prod.fst)
    (nodup : (full.map Prod.fst).Nodup) {name : String} (missing : name ∉ ms.map Prod.fst) :
    (Json.object full).member? name = (Json.object standard).member? name := by
  by_cases known : name ∈ full.map Prod.fst
  · obtain ⟨⟨_, j⟩, among, rfl⟩ := List.mem_map.1 known
    rw [Json.member?_object_of_mem nodup among, Json.member?_object_of_mem (names ▸ nodup)
      (thinned.usual among (fun mem => missing (List.mem_map_of_mem mem)))]
  · rw [Json.member?_object_eq_none known, Json.member?_object_eq_none (names ▸ known)]

end Thinned

/-- the members of an encoded configuration with other members in the two sections -/
def withSections (enable logging : List (String × Json)) (m : String × Json) : String × Json :=
  if m.1 = "enable" then (m.1, .object enable) else if m.1 = "logging" then (m.1, .object logging) else m

/-- a mapping that stands for a configuration -/
inductive Variant (c : Agent) : Json → Prop
  | overlay {ms es ls : List (String × Json)} (top : Thinned (encode standard).members (encode c).members ms)
      (enable : Thinned (encodeEnable .standard).members (encodeEnable c.enable).members es)
      (logging : Thinned (encodeLogging .standard).members (encodeLogging c.logging).members ls) :
      Variant c (.object (ms.map (withSections es ls)))

/-! ## The encoded records, member by member -/

theorem encodeEnable_eq (e : EnableSettings) : encodeEnable e =
    .object [("config_error_policy", .text e.policy.name), ("fallback_pon_ports", .word e.fallbackPonPorts)] := by
  simp only [encodeEnable, Json.ofMembers, Json.insert, List.foldl_cons, List.foldl_nil, String.reduceLT, String.reduceEq,
    reduceIte]

theorem encodeLogging_eq (l : Logging) : encodeLogging l =
    .object [("format", .text l.format.name), ("level", .text l.level)] := by
  simp only [encodeLogging, Json.ofMembers, Json.insert, List.foldl_cons, List.foldl_nil, String.reduceLT, String.reduceEq,
    reduceIte]

theorem encode_eq (c : Agent) : encode c =
    .object [("command_queue_depth", .natural c.queueDepth), ("device_id", .word c.deviceId),
      ("enable", encodeEnable c.enable), ("enable_on_startup", .bool c.enableOnStartup),
      ("logging", encodeLogging c.logging)] := by
  simp only [encode, Json.ofMembers, Json.insert, List.foldl_cons, List.foldl_nil, String.reduceLT, String.reduceEq,
    reduceIte]

/-- a record with the same members in its encoding is the same record -/
structure Extensional {α : Type} (encode : α → Json) : Prop where
  ext {a b : α} (same : ∀ name, (encode a).member? name = (encode b).member? name) : a = b
  object (a : α) : encode a = .object (encode a).members
  names (a b : α) : (encode a).members.map Prod.fst = (encode b).members.map Prod.fst
  nodup (a : α) : ((encode a).members.map Prod.fst).Nodup

theorem policy_of_name {p q : ErrorPolicy} (same : p.name = q.name) : p = q := by
  cases p <;> cases q <;> simp [ErrorPolicy.name] at same ⊢

theorem format_of_name {f g : Log.Format} (same : f.name = g.name) : f = g := by
  cases f <;> cases g <;> simp [Log.Format.name] at same ⊢

theorem encodeEnable_extensional : Extensional encodeEnable where
  ext {a b} same := by
    have ports : Json.word a.fallbackPonPorts = Json.word b.fallbackPonPorts := by
      simpa [encodeEnable_eq, Json.member?] using same "fallback_pon_ports"
    have policy : a.policy.name = b.policy.name := by
      simpa [encodeEnable_eq, Json.member?] using same "config_error_policy"
    calc a = ⟨a.fallbackPonPorts, a.policy⟩ := rfl
      _ = b := by rw [Json.word_injective ports, policy_of_name policy]
  object a := by rw [encodeEnable_eq, Json.members]
  names a b := by simp [encodeEnable_eq, Json.members]
  nodup a := by simp [encodeEnable_eq, Json.members]

theorem encodeLogging_extensional : Extensional encodeLogging where
  ext {a b} same := by
    have level : a.level = b.level := by simpa [encodeLogging_eq, Json.member?] using same "level"
    have format : a.format.name = b.format.name := by simpa [encodeLogging_eq, Json.member?] using same "format"
    calc a = ⟨a.level, a.format⟩ := rfl
      _ = b := by rw [level, format_of_name format]
  object a := by rw [encodeLogging_eq, Json.members]
  names a b := by simp [encodeLogging_eq, Json.members]
  nodup a := by simp [encodeLogging_eq, Json.members]

theorem encode_extensional : Extensional encode where
  ext {a b} same := by
    have id : Json.word a.deviceId = Json.word b.deviceId := by simpa [encode_eq, Json.member?] using same "device_id"
    have depth : a.queueDepth = b.queueDepth := by
      simpa [encode_eq, Json.member?, Json.natural] using same "command_queue_depth"
    have startup : a.enableOnStartup = b.enableOnStartup := by
      simpa [encode_eq, Json.member?] using same "enable_on_startup"
    have enable : encodeEnable a.enable = encodeEnable b.enable := by
      simpa [encode_eq, Json.member?] using same "enable"
    have logging : encodeLogging a.logging = encodeLogging b.logging := by
      simpa [encode_eq, Json.member?] using same "logging"
    have sameEnable := encodeEnable_extensional.ext (fun name => congrArg (Json.member? name) enable)
    have sameLogging := encodeLogging_extensional.ext (fun name => congrArg (Json.member? name) logging)
    calc a = ⟨a.deviceId, a.queueDepth, a.enableOnStartup, a.enable, a.logging⟩ := rfl
      _ = b := by rw [Json.word_injective id, depth, startup, sameEnable, sameLogging]
  object a := by rw [encode_eq, Json.members]
  names a b := by simp [encode_eq, Json.members]
  nodup a := by simp [encode_eq, Json.members]

/-! ## Reading variants -/

section Reading

variable {ν ε : Type} {s : Source ν ε} {members? : ν → Option (Members ν)} {Tells : ν → Json → Prop}

/-- **A record is laid over the standard one.** A value whose members are under the names of what is left of an encoded
record, and set the parts with these names, is read as that record -/
theorem record_overlay (reads : s.Reads members? Tells) {α : Type} {encode : α → Json}
    (extensional : Extensional encode) {fields : List (Field ν ε α)} {standard c : α} {v : ν}
    {ms js : List (String × Json)} (thinned : Thinned (encode standard).members (encode c).members ms)
    (names : js.map Prod.fst = ms.map Prod.fst) (told : Tells v (.object js))
    (sets : ∀ j ∈ js, ∀ w, Tells w j.2 → Sets (fun name a => (encode a).member? name) fields c j.1 w)
    (type : String) : s.record type fields standard v = .ok c := by
  obtain ⟨vs, found, keys, values⟩ := reads.mapping told
  have keysOf : vs.map Prod.fst = (ms.map Prod.fst).map some := by rw [keys, ← names, List.map_map]; rfl
  have nodup : (vs.map Prod.fst).Nodup :=
    keysOf ▸ (thinned.nodup (extensional.nodup c)).map (fun _ _ => Option.some.inj)
  have sets : ∀ m ∈ vs, ∃ name,
      m.1 = some name ∧ Sets (fun name a => (encode a).member? name) fields c name m.2 := by
    intro m among
    obtain ⟨j, mem, key, tells⟩ := Schema.told_member keys values among
    exact ⟨j.1, key, sets j mem m.2 tells⟩
  obtain ⟨a, filled, parts⟩ :=
    Schema.Filled.overlay sets nodup [] (fun _ old => absurd old List.not_mem_nil) standard
  have same : a = c := extensional.ext (fun name => by
    have part := parts name
    by_cases given : some name ∈ vs.map Prod.fst
    · rwa [if_pos given] at part
    · rw [if_neg given] at part
      rw [keysOf, List.mem_map_of_injective (fun _ _ => Option.some.inj)] at given
      rw [part, extensional.object c, extensional.object standard]
      exact (thinned.member?_eq (extensional.names standard c) (extensional.nodup c) given).symm)
  exact same ▸ (reads.lays found type fields standard a).2 filled

theorem enableFields_set (reads : s.Reads members? Tells) {e : EnableSettings} {j : String × Json}
    (among : j ∈ (encodeEnable e).members) {w : ν} (told : Tells w j.2) :
    Sets (fun name a => (encodeEnable a).member? name) (enableFields s) e j.1 w := by
  rw [encodeEnable_eq, Json.members, List.mem_cons, List.mem_singleton] at among
  rcases among with rfl | rfl
  · have known : policies.lookup e.policy.name = some e.policy := by cases e.policy <;> rfl
    refine ⟨_, rfl, fun before => ⟨{ before with policy := e.policy }, ?_, ?_, fun other ne => ?_⟩⟩
    · simp [reads.choice told known, Except.map]
    · simp [encodeEnable_eq, Json.member?]
    · simp [encodeEnable_eq, Json.member?, Ne.symm ne]
  · refine ⟨_, rfl, fun before =>
      ⟨{ before with fallbackPonPorts := e.fallbackPonPorts }, ?_, ?_, fun other ne => ?_⟩⟩
    · simp [reads.word told, Except.map]
    · simp [encodeEnable_eq, Json.member?]
    · simp [encodeEnable_eq, Json.member?, Ne.symm ne, List.find?_cons]

theorem loggingFields_set (reads : s.Reads members? Tells) {l : Logging} {j : String × Json}
    (among : j ∈ (encodeLogging l).members) {w : ν} (told : Tells w j.2) :
    Sets (fun name a => (encodeLogging a).member? name) (loggingFields s) l j.1 w := by
  rw [encodeLogging_eq, Json.members, List.mem_cons, List.mem_singleton] at among
  rcases among with rfl | rfl
  · have known : formats.lookup l.format.name = some l.format := by cases l.format <;> rfl
    refine ⟨_, rfl, fun before => ⟨{ before with format := l.format }, ?_, ?_, fun other ne => ?_⟩⟩
    · simp [reads.choice told known, Except.map]
    · simp [encodeLogging_eq, Json.member?]
    · simp [encodeLogging_eq, Json.member?, Ne.symm ne]
  · refine ⟨_, rfl, fun before => ⟨{ before with level := l.level }, ?_, ?_, fun other ne => ?_⟩⟩
    · simp [reads.text told, Except.map]
    · simp [encodeLogging_eq, Json.member?]
    · simp [encodeLogging_eq, Json.member?, Ne.symm ne, List.find?_cons]

theorem decodeEnable_thinned (reads : s.Reads members? Tells) {e : EnableSettings} {es : List (String × Json)} {w : ν}
    (thinned : Thinned (encodeEnable .standard).members (encodeEnable e).members es) (told : Tells w (.object es)) :
    decodeEnable s w = .ok e :=
  record_overlay reads encodeEnable_extensional thinned rfl told
    (fun _ mem _ told => enableFields_set reads (thinned.subperm.subset mem) told) _

theorem decodeLogging_thinned (reads : s.Reads members? Tells) {l : Logging} {ls : List (String × Json)} {w : ν}
    (thinned : Thinned (encodeLogging .standard).members (encodeLogging l).members ls) (told : Tells w (.object ls)) :
    decodeLogging s w = .ok l :=
  record_overlay reads encodeLogging_extensional thinned rfl told
    (fun _ mem _ told => loggingFields_set reads (thinned.subperm.subset mem) told) _

/-- each member of an encoded configuration sets its part, also when a section is thinned -/
theorem agentFields_set (reads : s.Reads members? Tells) {c : Agent} {es ls : List (String × Json)}
    (enable : Thinned (encodeEnable .standard).members (encodeEnable c.enable).members es)
    (logging : Thinned (encodeLogging .standard).members (encodeLogging c.logging).members ls) {m : String × Json}
    (among : m ∈ (encode c).members) {w : ν} (told : Tells w (withSections es ls m).2) :
    Sets (fun name a => (encode a).member? name) (agentFields s) c m.1 w := by
  simp only [encode_eq, Json.members, List.mem_cons, List.not_mem_nil, or_false] at among
  rcases among with rfl | rfl | rfl | rfl | rfl
  · refine ⟨_, rfl, fun before => ⟨{ before with queueDepth := c.queueDepth }, ?_, ?_, fun other ne => ?_⟩⟩
    · simp [reads.size (by simpa [withSections] using told), Except.map]
    · simp [encode_eq, Json.member?]
    · simp [encode_eq, Json.member?, Ne.symm ne]
  · refine ⟨_, rfl, fun before => ⟨{ before with deviceId := c.deviceId }, ?_, ?_, fun other ne => ?_⟩⟩
    · simp [reads.word (by simpa [withSections] using told), Except.map]
    · simp [encode_eq, Json.member?]
    · simp [encode_eq, Json.member?, Ne.symm ne, List.find?_cons]
  · refine ⟨_, rfl, fun before => ⟨{ before with enable := c.enable }, ?_, ?_, fun other ne => ?_⟩⟩
    · simp [decodeEnable_thinned reads enable (by simpa [withSections] using told), Except.map]
    · simp [encode_eq, Json.member?]
    · simp [encode_eq, Json.member?, Ne.symm ne, List.find?_cons]
  · refine ⟨_, rfl, fun before =>
      ⟨{ before with enableOnStartup := c.enableOnStartup }, ?_, ?_, fun other ne => ?_⟩⟩
    · simp [reads.flag (by simpa [withSections] using told), Except.map]
    · simp [encode_eq, Json.member?]
    · simp [encode_eq, Json.member?, Ne.symm ne, List.find?_cons]
  · refine ⟨_, rfl, fun before => ⟨{ before with logging := c.logging }, ?_, ?_, fun other ne => ?_⟩⟩
    · simp [decodeLogging_thinned reads logging (by simpa [withSections] using told), Except.map]
    · simp [encode_eq, Json.member?]
    · simp [encode_eq, Json.member?, Ne.symm ne, List.find?_cons]

theorem withSections_name (es ls : List (String × Json)) (m : String × Json) : (withSections es ls m).1 = m.1 := by
  unfold withSections
  split
  · rfl
  · split <;> rfl

/-- **Variants.** Over any data format, what stands for a configuration is decoded to it -/
theorem decode_variant (reads : s.Reads members? Tells) {c : Agent} {j : Json} (variant : Variant c j) {v : ν}
    (told : Tells v j) : decode s v = .ok c := by
  obtain ⟨top, enable, logging⟩ := variant
  rename_i ms es ls
  refine record_overlay reads encode_extensional top ?_ told (fun j mem w told => ?_) _
  · rw [List.map_map]
    exact List.map_congr_left (fun m _ => withSections_name es ls m)
  · obtain ⟨m, among, rfl⟩ := List.mem_map.1 mem
    rw [withSections_name]
    exact agentFields_set reads enable logging (top.subperm.subset among) told

/-! ## Mappings that are no configuration -/

def agentNames : List String := ["device_id", "command_queue_depth", "enable_on_startup", "enable", "logging"]
def enableNames : List String := ["fallback_pon_ports", "config_error_policy"]
def loggingNames : List String := ["level", "format"]

/-- a mapping in which, at the top or in a section, a key is no field or no text, or comes twice -/
inductive Spoilt (members? : ν → Option (Members ν)) (v : ν) : Prop
  | top {ms : Members ν} (found : members? v = some ms) (ill : Ill agentNames (ms.map Prod.fst))
  | enable {ms es : Members ν} {w : ν} (found : members? v = some ms) (among : (some "enable", w) ∈ ms)
      (inside : members? w = some es) (ill : Ill enableNames (es.map Prod.fst))
  | logging {ms ls : Members ν} {w : ν} (found : members? v = some ms) (among : (some "logging", w) ∈ ms)
      (inside : members? w = some ls) (ill : Ill loggingNames (ls.map Prod.fst))

/-- a section whose value was accepted has fields for keys, and none of them twice -/
theorem section_not_ill (reads : s.Reads members? Tells) {α β : Type} {type : String} {fields : List (Field ν ε α)}
    {start : α} {update : α → β} {w : ν} {next : β} (accepted : (s.record type fields start w).map update = .ok next)
    {ms : Members ν} (inside : members? w = some ms) : ¬ Ill (fields.map Field.name) (ms.map Prod.fst) := by
  cases read : s.record type fields start w with
  | error e => simp [read, Except.map] at accepted
  | ok a => exact ((reads.lays inside type fields start a).1 read).not_ill

/-- **Spoilt mappings.** Over any data format they are not decoded, whatever else they hold -/
theorem decode_spoilt (reads : s.Reads members? Tells) {v : ν} (spoilt : Spoilt members? v) :
    ∃ e, decode s v = .error e := by
  cases decoded : decode s v with
  | error e => exact ⟨e, rfl⟩
  | ok c =>
    exfalso
    cases spoilt with
    | top found ill => exact ((reads.lays found _ _ _ _).1 decoded).not_ill ill
    | enable found among inside ill =>
      obtain ⟨field, before, next, known, accepted⟩ := ((reads.lays found _ _ _ _).1 decoded).accepted among
      cases known
      exact section_not_ill reads accepted inside ill
    | logging found among inside ill =>
      obtain ⟨field, before, next, known, accepted⟩ := ((reads.lays found _ _ _ _).1 decoded).accepted among
      cases known
      exact section_not_ill reads accepted inside ill

end Reading

/-! ## Written configurations -/

theorem encode_variant (c : Agent) : Variant c (encode c) := by
  have same : (encode c).members.map (withSections (encodeEnable c.enable).members (encodeLogging c.logging).members)
      = (encode c).members := by
    simp [encode_eq, Json.members, withSections, encodeEnable_eq, encodeLogging_eq]
  have variant := Variant.overlay (c := c) .all .all .all
  rwa [same, ← encode_extensional.object c] at variant

namespace Agent

/-- a text that is a mapping is read as its document: it is not blank -/
theorem parsed_of_members {text : String} {ms : Members Yaml.Located}
    (found : (Yaml.Located.mk (.ofText text) [] (Yaml.Document.ofText text).root).members? = some ms) :
    parsed text = (Yaml.Document.ofText text).decode (decode Yaml.source) := by
  cases blank : Text.isBlankText text with
  | false => simp [parsed, blank]
  | true => exact nomatch (Yaml.members?_of_blank blank).symm.trans found

/-- a text that says a variant of a configuration is read as that configuration -/
theorem parsed_of_told {c : Agent} {j : Json} (variant : Variant c j) {text : String}
    (told : (Yaml.Document.ofText text).Says j) : parsed text = .ok c := by
  have decoded := decode_variant Yaml.reads variant told.meaning
  cases variant
  obtain ⟨ms, found, -⟩ := Yaml.reads.mapping told.meaning
  rw [parsed_of_members found]
  simp [Yaml.Document.decode, decoded, told.whole, bind, Except.bind, pure, Except.pure]

theorem parsed_of_spoilt {text : String}
    (spoilt : Spoilt Yaml.Located.members? ⟨.ofText text, [], (Yaml.Document.ofText text).root⟩) :
    ∃ fault, parsed text = .error fault := by
  obtain ⟨fault, refused⟩ := decode_spoilt Yaml.reads spoilt
  obtain ⟨ms, found⟩ : ∃ ms,
      (Yaml.Located.mk (.ofText text) [] (Yaml.Document.ofText text).root).members? = some ms := by
    cases spoilt with
    | top found => exact ⟨_, found⟩
    | enable found => exact ⟨_, found⟩
    | logging found => exact ⟨_, found⟩
  refine ⟨fault, ?_⟩
  rw [parsed_of_members found]
  simp [Yaml.Document.decode, refused, bind, Except.bind]

end Agent

/-- **Decoding undoes encoding, as an overlay of the standard configuration.** For every configuration, valid or not:
its encoding is decoded to it, and so is every mapping that is left when members are put in another order, at the top or
in a section, or are left out where they are standard. A mapping with a key that is no field or no text, or twice, at the
top or in a section, is not decoded. A text that says a variant of the configuration gives it when it is valid, and else
what is wrong with it; a text with a spoilt mapping does not fit. -/
theorem decoding_overlays (c : Agent) :
    decode Json.source (encode c) = .ok c
      ∧ (∀ j, Variant c j → decode Json.source j = .ok c)
      ∧ (∀ j, Spoilt Json.members? j → ∃ m, decode Json.source j = .error m)
      ∧ (∀ text j, Variant c j → (Yaml.Document.ofText text).Says j →
          (Agent.ofText text = .ok c ↔ c.validate = .ok ())
            ∧ ∀ i, c.validate = .error i → Agent.ofText text = .error (.invalid i))
      ∧ ∀ text, Spoilt Yaml.Located.members? ⟨.ofText text, [], (Yaml.Document.ofText text).root⟩ →
          ∃ fault, Agent.ofText text = .error (.unfit fault) := by
  refine ⟨decode_variant Json.reads (encode_variant c) rfl, fun j variant => decode_variant Json.reads variant rfl,
    fun j spoilt => decode_spoilt Json.reads spoilt, fun text j variant told => ?_, fun text spoilt => ?_⟩
  · rw [Agent.ofText_of_ok (Agent.parsed_of_told variant told), Agent.checked]
    cases valid : c.validate with
    | ok u => exact ⟨⟨fun _ => rfl, fun _ => rfl⟩, nofun⟩
    | error i => exact ⟨⟨nofun, nofun⟩, fun j same => by cases same; rfl⟩
  · obtain ⟨fault, unread⟩ := Agent.parsed_of_spoilt spoilt
    exact ⟨fault, Agent.ofText_of_error unread⟩

/-- a section in front of the id of the line terminal, and nothing else -/
theorem short_variant : Variant ⟨3, 16, true, .standard, ⟨"info", .pretty⟩⟩
    (.object [("logging", .object [("format", .text "pretty")]), ("device_id", .word 3)]) := by
  have order : List.Perm (encode ⟨3, 16, true, .standard, ⟨"info", .pretty⟩⟩).members
      [("command_queue_depth", .natural 16), ("enable", encodeEnable .standard), ("enable_on_startup", .bool true),
        ("logging", encodeLogging ⟨"info", .pretty⟩), ("device_id", .word 3)] := by
    rw [encode_eq, Json.members]
    exact .cons _ (@List.perm_append_comm _ [_] [_, _, _])
  have swapped : List.Perm (encodeLogging ⟨"info", .pretty⟩).members
      [("level", .text "info"), ("format", .text "pretty")] := by
    rw [encodeLogging_eq, Json.members]
    exact .swap _ _ _
  have top : Thinned (encode standard).members (encode ⟨3, 16, true, .standard, ⟨"info", .pretty⟩⟩).members
      [("logging", encodeLogging ⟨"info", .pretty⟩), ("device_id", .word 3)] := by
    refine (((Thinned.all.reordered order).without ?_).without ?_).without ?_ <;>
      simp [encode_eq, Json.members, standard]
  have logging : Thinned (encodeLogging .standard).members (encodeLogging ⟨"info", .pretty⟩).members
      [("format", .text "pretty")] :=
    (Thinned.all.reordered swapped).without (by simp [encodeLogging_eq, Json.members, Logging.standard])
  exact .overlay top .all logging

/-- **A short text.** It is read as the configuration that it says; a second `device_id` and an unknown key are refused -/
theorem decoding_overlays_short :
    Agent.ofText "logging: {format: pretty}\ndevice_id: 3" = .ok ⟨3, 16, true, .standard, ⟨"info", .pretty⟩⟩
      ∧ (∃ fault, Agent.ofText "device_id: 3\ndevice_id: 4" = .error (.unfit fault))
      ∧ ∃ m, decode Json.source (.object [("enable", .object [("ports", .word 1)])]) = .error m := by
  obtain ⟨-, -, spoiltValue, told, spoiltText⟩ := decoding_overlays ⟨3, 16, true, .standard, ⟨"info", .pretty⟩⟩
  refine ⟨(told _ _ short_variant ?_).1.2 (by decide), spoiltText _ ?_,
    spoiltValue _ (.enable rfl List.mem_cons_self rfl (.unknown "ports" List.mem_cons_self (by decide)))⟩
  · have tokens : Yaml.tokens "logging: {format: pretty}\ndevice_id: 3" =
        [.blockMapping, .key, .scalar .plain "logging", .value, .flowMapping, .key, .scalar .plain "format", .value,
          .scalar .plain "pretty", .flowMappingEnd, .key, .scalar .plain "device_id", .value, .scalar .plain "3",
          .blockEnd, .streamEnd] := by decide +kernel
    have read : Yaml.Document.ofText "logging: {format: pretty}\ndevice_id: 3" =
        ⟨some (.mapping none [(.scalar none .plain "logging",
          .mapping none [(.scalar none .plain "format", .scalar none .plain "pretty")]),
          (.scalar none .plain "device_id", .scalar none .plain "3")]), none⟩ := by
      rw [Yaml.Document.ofText, tokens]
      rfl
    rw [read]
    refine ⟨rfl, .mapping rfl rfl (.cons ?logging (.cons ?id .nil))⟩
    case logging => exact .mapping rfl rfl (.cons (.text rfl (.inl rfl)) .nil)
    case id => exact .natural rfl (.inl rfl) (by decide)
  · have tokens : Yaml.tokens "device_id: 3\ndevice_id: 4" =
        [.blockMapping, .key, .scalar .plain "device_id", .value, .scalar .plain "3", .key, .scalar .plain "device_id",
          .value, .scalar .plain "4", .blockEnd, .streamEnd] := by decide +kernel
    have read : Yaml.Document.ofText "device_id: 3\ndevice_id: 4" =
        ⟨some (.mapping none [(.scalar none .plain "device_id", .scalar none .plain "3"),
          (.scalar none .plain "device_id", .scalar none .plain "4")]), none⟩ := by
      rw [Yaml.Document.ofText, tokens]
      rfl
    rw [read]
    exact .top rfl (.twice "device_id" (by decide))

end Config

end LineTerminal
