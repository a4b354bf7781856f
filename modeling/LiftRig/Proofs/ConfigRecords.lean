import LiftRig.Config.Codec
import Mathlib.Data.List.Basic

/-!
# Configurations read from records

A configuration is written as a record of sections, and read from records that may lack sections
and fields. Main statement: what is written reads back, whatever is left out of it has its built-in
value and nothing else changes, and no record is read that has an unknown field, a port without one
of its fields or a number beyond the range of its field. A path that is no text is not written, and
the files in which the records stand are left out here.
-/

namespace LiftRig

namespace Data

variable {form : Form} {fields : List (String × Data)} {names : List String} {α : Type}
  {read : Data → Option α} {d : Data} {v : α}

/-! ## Fields of a record -/

/-- The record with only the fields that are kept. A value of another kind stays as it is. -/
def keeping (kept : String → Bool) : Data → Data
  | .record fields => .record (fields.filter fun field => kept field.1)
  | d => d

theorem lookup_filter_kept (kept : String → Bool) (name : String)
    (fields : List (String × Data)) :
    (fields.filter fun field => kept field.1).lookup name =
      if kept name then fields.lookup name else none := by
  induction fields with
  | nil => simp
  | cons field rest ih =>
    obtain ⟨key, d⟩ := field
    by_cases hname : name = key
    · subst hname
      cases hkept : kept name <;> simp [hkept, ih]
    · have hbeq : (name == key) = false := beq_eq_false_iff_ne.2 hname
      cases hkept : kept key <;> simp [hkept, List.lookup_cons, hbeq, ih]

/-- Among distinct names each entry is found under its own. -/
theorem lookup_of_mem {β : Type} {entries : List (String × β)}
    (hnodup : (entries.map Prod.fst).Nodup) {entry : String × β} (hentry : entry ∈ entries) :
    entries.lookup entry.1 = some entry.2 := by
  induction entries with
  | nil => cases hentry
  | cons head rest ih =>
    obtain ⟨hnew, hrest⟩ := List.nodup_cons.1 hnodup
    rcases List.mem_cons.1 hentry with rfl | hmem
    · exact List.lookup_cons_self
    · have hne : entry.1 ≠ head.1 := fun h => hnew (h ▸ List.mem_map_of_mem hmem)
      obtain ⟨key, b⟩ := head
      rw [List.lookup_cons, beq_eq_false_iff_ne.2 hne]
      exact ih hrest hmem

theorem mem_of_lookup {β : Type} {entries : List (String × β)} {key : String} {b : β}
    (h : entries.lookup key = some b) : (key, b) ∈ entries := by
  obtain ⟨_, _, rfl, -⟩ := List.lookup_eq_some_iff.1 h
  exact List.mem_append_right _ List.mem_cons_self

/-- A closed record is read if its fields are known and distinct. -/
theorem members?_record_eq_some_iff {values : List (Option Data)} :
    (Data.record fields).members? form true names = some values ↔
      (∀ field ∈ fields, field.1 ∈ names) ∧ (fields.map Prod.fst).Nodup ∧
        values = names.map fun name => fields.lookup name := by
  simp only [members?, Bool.true_and]
  split
  · next hstrange =>
    obtain ⟨field, hfield, hnew⟩ := List.any_eq_true.1 hstrange
    simp only [reduceCtorEq, false_iff, not_and]
    intro hknown
    simp [hknown field hfield] at hnew
  · next hknown =>
    have hknown' : ∀ field ∈ fields, field.1 ∈ names := by simpa using hknown
    by_cases hnodup : (fields.map Prod.fst).Nodup
    · rw [if_pos hnodup, Option.some.injEq, eq_comm]
      exact ⟨fun h => ⟨hknown', hnodup, h⟩, fun h => h.2.2⟩
    · rw [if_neg hnodup]
      exact iff_of_false nofun fun h => hnodup h.2.1

/-- The kept fields of a record are read in their order, the others are absent. -/
theorem members?_keeping (hnames : names = fields.map Prod.fst) (hnodup : names.Nodup)
    (kept : String → Bool) :
    (keeping kept (.record fields)).members? form true names =
      some (fields.map fun field => if kept field.1 then some field.2 else none) := by
  subst hnames
  refine members?_record_eq_some_iff.2 ⟨?_, ?_, ?_⟩
  · intro field hfield
    exact List.mem_map_of_mem (List.mem_filter.1 hfield).1
  · exact hnodup.sublist (List.Sublist.map Prod.fst List.filter_sublist)
  · rw [List.map_map]
    refine List.map_congr_left fun field hfield => ?_
    rw [Function.comp_apply, lookup_filter_kept, lookup_of_mem hnodup hfield]

/-! ## Single fields -/

theorem text?_text (s : String) : (Data.text s).text? = some s := rfl

theorem bool?_bool (b : Bool) : (Data.bool b).bool? = some b := rfl

theorem required_of_read (h : read d = some v) : required read (some d) = some v := h

/-- A field that is kept is read, and one that is not has its default. -/
theorem defaulted_ite (h : read d = some v) (default : α) (kept : Bool) :
    defaulted default read (if kept then some d else none) =
      some (if kept then v else default) := by
  cases kept with
  | true => exact h
  | false => rfl

/-- A field that was read, if it is there, holds what can be read. -/
theorem isSome_of_defaulted {default : α} {field : Option Data}
    (h : defaulted default read field = some v) : ∀ d, field = some d → (read d).isSome := by
  rintro d rfl
  exact Option.isSome_iff_exists.2 ⟨v, h⟩

theorem isSome_of_required {field : Option Data} (h : required read field = some v) :
    ∀ d, field = some d → (read d).isSome := by
  rintro d rfl
  exact Option.isSome_iff_exists.2 ⟨v, h⟩

/-- A list is read item by item. -/
theorem isSome_of_mem_listOf? {items : List Data} (h : (listOf? read (.list items)).isSome)
    (hmem : d ∈ items) : (read d).isSome := by
  rw [listOf?] at h
  induction items with
  | nil => cases hmem
  | cons item rest ih =>
    obtain ⟨_, hall⟩ := Option.isSome_iff_exists.1 h
    rw [List.mapM_cons] at hall
    obtain ⟨v, hfirst, hall⟩ := Option.bind_eq_some_iff.1 hall
    obtain ⟨vs, hrest, -⟩ := Option.bind_eq_some_iff.1 hall
    rcases List.mem_cons.1 hmem with rfl | hmem
    · exact Option.isSome_iff_exists.2 ⟨v, hfirst⟩
    · exact ih (Option.isSome_iff_exists.2 ⟨vs, hrest⟩) hmem

/-- A number beyond the integers from zero to below the bound. -/
def Beyond (bound : Nat) : Data → Prop
  | .int n => n < 0 ∨ bound ≤ n
  | .real _ => True
  | _ => False

theorem below?_of_beyond {bound : Nat} (h : d.Beyond bound) : d.below? bound = none := by
  cases d with
  | int n =>
    refine if_neg fun hbounds => ?_
    rcases h with h | h <;> omega
  | real written => rfl
  | null | bool _ | moment _ | text _ | list _ | record _ => exact h.elim

theorem byte?_of_beyond (h : d.Beyond UInt8.size) : d.byte? = none := by
  rw [byte?, below?_of_beyond h, Option.map_none]

theorem word16?_of_beyond (h : d.Beyond UInt16.size) : d.word16? = none := by
  rw [word16?, below?_of_beyond h, Option.map_none]

theorem word32?_of_beyond (h : d.Beyond UInt32.size) : d.word32? = none := by
  rw [word32?, below?_of_beyond h, Option.map_none]

theorem word64?_of_beyond (h : d.Beyond UInt64.size) : d.word64? = none := by
  rw [word64?, below?_of_beyond h, Option.map_none]

/-! ## Records with known fields -/

/-- The fields that a record may have, each with a test of what may stand in it. -/
abbrev Schema := List (String × (Data → Bool))

/-- The fields are known, and what stands in them passes. -/
def Schema.Admits (schema : Schema) (fields : List (String × Data)) : Prop :=
  ∀ field ∈ fields, ∃ passes, schema.lookup field.1 = some passes ∧ passes field.2 = true

theorem Schema.Admits.known {schema : Schema} (h : schema.Admits fields) {key : String}
    (hmem : (key, d) ∈ fields) : key ∈ schema.map Prod.fst := by
  obtain ⟨passes, hlookup, -⟩ := h _ hmem
  exact List.mem_map_of_mem (mem_of_lookup hlookup)

theorem Schema.Admits.passes {schema : Schema} (h : schema.Admits fields) {key : String}
    (hmem : (key, d) ∈ fields) {passes : Data → Bool} (hlookup : schema.lookup key = some passes) :
    passes d = true := by
  obtain ⟨passes', hlookup', hpasses⟩ := h _ hmem
  cases hlookup.symm.trans hlookup'
  exact hpasses

/-- The fields of a record that was read are admitted, if each of those known passes where it is
there. -/
theorem Schema.admits_of_bind {schema : Schema} {next : List (Option Data) → Option α}
    (h : ((Data.record fields).members? form true (schema.map Prod.fst) >>= next) = some v)
    (hnodup : (schema.map Prod.fst).Nodup)
    (hpasses : next ((schema.map Prod.fst).map fun name => fields.lookup name) = some v →
      ∀ entry ∈ schema, ∀ d, fields.lookup entry.1 = some d → entry.2 d = true) :
    schema.Admits fields := by
  obtain ⟨values, hmembers, hnext⟩ := Option.bind_eq_some_iff.1 h
  obtain ⟨hknown, hdistinct, rfl⟩ := members?_record_eq_some_iff.1 hmembers
  intro field hfield
  obtain ⟨entry, hentry, hname⟩ := List.mem_map.1 (hknown field hfield)
  refine ⟨entry.2, ?_, hpasses hnext entry hentry field.2 ?_⟩
  · rw [← hname]
    exact lookup_of_mem hnodup hentry
  · rw [hname]
    exact lookup_of_mem hdistinct hfield

end Data

open Data

variable {form : Form} {fields : List (String × Data)}

/-! ## Ports -/

namespace Port

/-- The names of the fields of a port. -/
def fieldNames : List String := ["name", "subdevice", "offset", "width", "kind", "direction"]

/-- The number fields of a port with their bounds. -/
def ranges : List (String × Nat) :=
  [("subdevice", UInt8.size), ("offset", UInt8.size), ("width", UInt16.size)]

/-- Records that are no ports: an unknown field, a field too few, or a number beyond its range. -/
inductive Faulty : Data → Prop
  | strange {fields key d} (mem : (key, d) ∈ fields) (unknown : key ∉ fieldNames) :
      Faulty (.record fields)
  | lacking {fields key} (known : key ∈ fieldNames) (absent : ∀ d, (key, d) ∉ fields) :
      Faulty (.record fields)
  | beyond {fields key bound d} (ranged : (key, bound) ∈ ranges) (mem : (key, d) ∈ fields)
      (number : d.Beyond bound) : Faulty (.record fields)

/-- What may stand in the fields of a port. -/
def schema (form : Form) : Schema :=
  [("name", fun d => d.text?.isSome), ("subdevice", fun d => d.byte?.isSome),
    ("offset", fun d => d.byte?.isSome), ("width", fun d => d.word16?.isSome),
    ("kind", fun d => (Signal.decode? form d).isSome),
    ("direction", fun d => (Direction.decode? form d).isSome)]

theorem decode?_encode (form : Form) (p : Port) : Port.decode? form p.encode = some p := by
  have hmembers : p.encode.members? form true fieldNames = some [some (.text p.name),
      some (.int p.subdevice.toNat), some (.int p.offset.toNat), some (.int p.width.toNat),
      some (.text p.signal.text), some (.text p.direction.text)] :=
    members?_record_eq_some_iff.2 ⟨by simp [fieldNames], by simp, rfl⟩
  rw [fieldNames] at hmembers
  rw [Port.decode?, hmembers]
  simp only [Option.bind_eq_bind, Option.bind_some, required_of_read (text?_text p.name),
    required_of_read (byte?_toNat _), required_of_read (word16?_toNat p.width),
    required_of_read (Signal.decode?_text form p.signal),
    required_of_read (Direction.decode?_text form p.direction)]
  rfl

/-- What is read as a port has all six fields. -/
theorem exists_of_decode? {p : Port} (h : Port.decode? form (.record fields) = some p) {key : String}
    (hkey : key ∈ fieldNames) : ∃ d, fields.lookup key = some d := by
  obtain ⟨values, hmembers, hread⟩ := Option.bind_eq_some_iff.1 h
  obtain ⟨-, -, rfl⟩ := members?_record_eq_some_iff.1 hmembers
  simp only [List.map_cons, List.map_nil, required, Option.bind_eq_bind,
    Option.bind_eq_some_iff] at hread
  obtain ⟨_, ⟨_, h₁, -⟩, _, ⟨_, h₂, -⟩, _, ⟨_, h₃, -⟩, _, ⟨_, h₄, -⟩, _, ⟨_, h₅, -⟩,
    _, ⟨_, h₆, -⟩, -⟩ := hread
  revert key
  simp only [fieldNames, List.forall_mem_cons, List.not_mem_nil, false_implies, implies_true,
    and_true]
  exact ⟨⟨_, h₁⟩, ⟨_, h₂⟩, ⟨_, h₃⟩, ⟨_, h₄⟩, ⟨_, h₅⟩, ⟨_, h₆⟩⟩

/-- The fields of what is read as a port hold what may stand there. -/
theorem admits_of_decode? {p : Port} (h : Port.decode? form (.record fields) = some p) :
    (schema form).Admits fields := by
  refine Schema.admits_of_bind h (by simp [schema]) fun hread => ?_
  simp only [schema, List.map_cons, List.map_nil, Option.bind_eq_bind,
    Option.bind_eq_some_iff] at hread
  obtain ⟨_, r₁, _, r₂, _, r₃, _, r₄, _, r₅, _, r₆, -⟩ := hread
  simp only [schema, List.forall_mem_cons, List.not_mem_nil, false_implies, implies_true, and_true]
  exact ⟨isSome_of_required r₁, isSome_of_required r₂, isSome_of_required r₃,
    isSome_of_required r₄, isSome_of_required r₅, isSome_of_required r₆⟩

/-- No number beyond its range may stand in a port. -/
theorem not_passes_of_beyond {key : String} {bound : Nat} {d : Data}
    (hranged : (key, bound) ∈ ranges) (hd : d.Beyond bound) :
    ∃ passes, (schema form).lookup key = some passes ∧ passes d = false := by
  simp only [ranges, List.mem_cons, List.not_mem_nil, or_false, Prod.mk.injEq] at hranged
  rcases hranged with ⟨rfl, rfl⟩ | ⟨rfl, rfl⟩ | ⟨rfl, rfl⟩
  · exact ⟨_, rfl, by rw [byte?_of_beyond hd, Option.isSome_none]⟩
  · exact ⟨_, rfl, by rw [byte?_of_beyond hd, Option.isSome_none]⟩
  · exact ⟨_, rfl, by rw [word16?_of_beyond hd, Option.isSome_none]⟩

/-- No port is read from a faulty record. -/
theorem decode?_of_faulty {d : Data} (h : Faulty d) : Port.decode? form d = none := by
  refine Option.eq_none_iff_forall_ne_some.2 fun p hread => ?_
  cases h with
  | strange mem unknown => exact unknown ((admits_of_decode? hread).known mem)
  | lacking known absent =>
    obtain ⟨d, hd⟩ := exists_of_decode? hread known
    exact absent d (mem_of_lookup hd)
  | beyond ranged mem number =>
    obtain ⟨passes, hlookup, hfails⟩ := not_passes_of_beyond ranged number
    cases hfails.symm.trans ((admits_of_decode? hread).passes mem hlookup)

end Port

/-! ## Sections -/

namespace Config

/-- The section with its built-in values for the fields that are not kept. -/
def Shared.refilled (kept : String → Bool) (s : Shared) : Shared where
  logLevel := if kept "log_level" then s.logLevel else ({} : Shared).logLevel
  serviceName := if kept "service_name" then s.serviceName else ({} : Shared).serviceName

theorem Shared.decode?_keeping (form : Form) (kept : String → Bool) (s : Shared) :
    Shared.decode? form (s.encode.keeping kept) = some (s.refilled kept) := by
  rw [Shared.decode?, Shared.encode, members?_keeping (by rfl) (by decide)]
  simp only [List.map_cons, List.map_nil, Option.bind_eq_bind, Option.bind_some,
    defaulted_ite (LogLevel.decode?_code form s.logLevel),
    defaulted_ite (text?_text s.serviceName)]
  rfl

/-- What may stand in the fields of the section. -/
def Shared.schema (form : Form) : Schema :=
  [("log_level", fun d => (LogLevel.decode? form d).isSome),
    ("service_name", fun d => d.text?.isSome)]

theorem Shared.admits_of_decode? {s : Shared}
    (h : Shared.decode? form (.record fields) = some s) : (schema form).Admits fields := by
  refine Schema.admits_of_bind h (by simp [schema]) fun hread => ?_
  simp only [schema, List.map_cons, List.map_nil, Option.bind_eq_bind,
    Option.bind_eq_some_iff] at hread
  obtain ⟨_, r₁, _, r₂, -⟩ := hread
  simp only [schema, List.forall_mem_cons, List.not_mem_nil, false_implies, implies_true, and_true]
  exact ⟨isSome_of_defaulted r₁, isSome_of_defaulted r₂⟩

/-- The section with its built-in values for the fields that are not kept. -/
def Drive.refilled (kept : String → Bool) (s : Drive) : Drive where
  name := if kept "name" then s.name else ({} : Drive).name
  device := if kept "device" then s.device else ({} : Drive).device
  analogMax := if kept "analog_max" then s.analogMax else ({} : Drive).analogMax
  analogPolicy := if kept "analog_policy" then s.analogPolicy else ({} : Drive).analogPolicy

theorem Drive.decode?_keeping (form : Form) (kept : String → Bool) (s : Drive) :
    Drive.decode? form (s.encode.keeping kept) = some (s.refilled kept) := by
  rw [Drive.decode?, Drive.encode, members?_keeping (by rfl) (by decide)]
  simp only [List.map_cons, List.map_nil, Option.bind_eq_bind, Option.bind_some,
    defaulted_ite (text?_text _), defaulted_ite (word32?_toNat s.analogMax),
    defaulted_ite (AnalogPolicy.decode?_code form s.analogPolicy)]
  rfl

/-- What may stand in the fields of the section. -/
def Drive.schema (form : Form) : Schema :=
  [("name", fun d => d.text?.isSome), ("device", fun d => d.text?.isSome),
    ("analog_max", fun d => d.word32?.isSome),
    ("analog_policy", fun d => (AnalogPolicy.decode? form d).isSome)]

theorem Drive.admits_of_decode? {s : Drive}
    (h : Drive.decode? form (.record fields) = some s) : (schema form).Admits fields := by
  refine Schema.admits_of_bind h (by simp [schema]) fun hread => ?_
  simp only [schema, List.map_cons, List.map_nil, Option.bind_eq_bind,
    Option.bind_eq_some_iff] at hread
  obtain ⟨_, r₁, _, r₂, _, r₃, _, r₄, -⟩ := hread
  simp only [schema, List.forall_mem_cons, List.not_mem_nil, false_implies, implies_true, and_true]
  exact ⟨isSome_of_defaulted r₁, isSome_of_defaulted r₂, isSome_of_defaulted r₃,
    isSome_of_defaulted r₄⟩

/-- The section with its built-in values for the fields that are not kept. -/
def Simulation.refilled (kept : String → Bool) (s : Simulation) : Simulation where
  floors := if kept "floors" then s.floors else ({} : Simulation).floors
  startFloor := if kept "start_floor" then s.startFloor else ({} : Simulation).startFloor
  travelMillis := if kept "travel_between_floors_ms" then s.travelMillis
    else ({} : Simulation).travelMillis
  passingMillis := if kept "passing_floor_ms" then s.passingMillis
    else ({} : Simulation).passingMillis
  pressMillis := if kept "button_press_ms" then s.pressMillis else ({} : Simulation).pressMillis

theorem Simulation.decode?_keeping (form : Form) (kept : String → Bool) (s : Simulation) :
    Simulation.decode? form (s.encode.keeping kept) = some (s.refilled kept) := by
  rw [Simulation.decode?, Simulation.encode, members?_keeping (by rfl) (by decide)]
  simp only [List.map_cons, List.map_nil, Option.bind_eq_bind, Option.bind_some,
    defaulted_ite (byte?_toNat _), defaulted_ite (word64?_toNat _)]
  rfl

/-- What may stand in the fields of the section. -/
def Simulation.schema : Schema :=
  [("floors", fun d => d.byte?.isSome), ("start_floor", fun d => d.byte?.isSome),
    ("travel_between_floors_ms", fun d => d.word64?.isSome),
    ("passing_floor_ms", fun d => d.word64?.isSome),
    ("button_press_ms", fun d => d.word64?.isSome)]

theorem Simulation.admits_of_decode? {s : Simulation}
    (h : Simulation.decode? form (.record fields) = some s) : schema.Admits fields := by
  refine Schema.admits_of_bind h (by simp [schema]) fun hread => ?_
  simp only [schema, List.map_cons, List.map_nil, Option.bind_eq_bind,
    Option.bind_eq_some_iff] at hread
  obtain ⟨_, r₁, _, r₂, _, r₃, _, r₄, _, r₅, -⟩ := hread
  simp only [schema, List.forall_mem_cons, List.not_mem_nil, false_implies, implies_true, and_true]
  exact ⟨isSome_of_defaulted r₁, isSome_of_defaulted r₂, isSome_of_defaulted r₃,
    isSome_of_defaulted r₄, isSome_of_defaulted r₅⟩

/-- The section with its built-in values for the fields that are not kept. -/
def Panel.refilled (kept : String → Bool) (s : Panel) : Panel where
  enabled := if kept "enabled" then s.enabled else ({} : Panel).enabled
  pollMillis := if kept "poll_interval_ms" then s.pollMillis else ({} : Panel).pollMillis
  stopDelayMillis := if kept "stop_delay_ms" then s.stopDelayMillis
    else ({} : Panel).stopDelayMillis
  homingMillis := if kept "homing_timeout_ms" then s.homingMillis else ({} : Panel).homingMillis

theorem Panel.decode?_keeping (form : Form) (kept : String → Bool) (s : Panel) :
    Panel.decode? form (s.encode.keeping kept) = some (s.refilled kept) := by
  rw [Panel.decode?, Panel.encode, members?_keeping (by rfl) (by decide)]
  simp only [List.map_cons, List.map_nil, Option.bind_eq_bind, Option.bind_some,
    defaulted_ite (bool?_bool s.enabled), defaulted_ite (word64?_toNat _)]
  rfl

/-- What may stand in the fields of the section. -/
def Panel.schema : Schema :=
  [("enabled", fun d => d.bool?.isSome), ("poll_interval_ms", fun d => d.word64?.isSome),
    ("stop_delay_ms", fun d => d.word64?.isSome), ("homing_timeout_ms", fun d => d.word64?.isSome)]

theorem Panel.admits_of_decode? {s : Panel}
    (h : Panel.decode? form (.record fields) = some s) : schema.Admits fields := by
  refine Schema.admits_of_bind h (by simp [schema]) fun hread => ?_
  simp only [schema, List.map_cons, List.map_nil, Option.bind_eq_bind,
    Option.bind_eq_some_iff] at hread
  obtain ⟨_, r₁, _, r₂, _, r₃, _, r₄, -⟩ := hread
  simp only [schema, List.forall_mem_cons, List.not_mem_nil, false_implies, implies_true, and_true]
  exact ⟨isSome_of_defaulted r₁, isSome_of_defaulted r₂, isSome_of_defaulted r₃,
    isSome_of_defaulted r₄⟩

/-! ## Whole configurations -/

/-- What is kept of a configuration: some of its sections, and some of the fields of each. -/
structure Kept where
  parts : String → Bool
  fields : String → String → Bool

/-- The record of a configuration with only what is kept of it. The list of the ports has no fields
of its own and is kept whole or not at all. -/
def Kept.abridge (k : Kept) : Data → Data
  | .record parts =>
    Data.keeping k.parts
      (.record (parts.map fun part => (part.1, part.2.keeping (k.fields part.1))))
  | d => d

/-- The configuration with its built-in values for what is not kept. -/
def refilled (k : Kept) (c : Config) : Config where
  shared := if k.parts "shared" then c.shared.refilled (k.fields "shared") else {}
  drive := if k.parts "driver" then c.drive.refilled (k.fields "driver") else {}
  ports := if k.parts "ports" then c.ports else ({} : Config).ports
  simulation := if k.parts "simulation" then c.simulation.refilled (k.fields "simulation") else {}
  panel := if k.parts "elevator" then c.panel.refilled (k.fields "elevator") else {}

theorem listOf?_ports (form : Form) (ports : List Port) :
    listOf? (Port.decode? form) (.list (ports.map Port.encode)) = some ports := by
  rw [listOf?]
  induction ports with
  | nil => rfl
  | cons p rest ih =>
    rw [List.map_cons, List.mapM_cons, Port.decode?_encode, ih]
    rfl

/-- What is kept is read as it is, and the rest has its built-in values. -/
theorem decode?_kept (form : Form) (k : Kept) (c : Config) :
    Config.decode? form (k.abridge c.encode) = some (c.refilled k) := by
  have hports : (Data.list (c.ports.map Port.encode)).keeping (k.fields "ports") =
      .list (c.ports.map Port.encode) := rfl
  rw [Config.decode?, Config.encode, Kept.abridge, members?_keeping (by rfl) (by decide)]
  simp only [List.map_cons, List.map_nil, Option.bind_eq_bind, Option.bind_some, hports,
    defaulted_ite (Shared.decode?_keeping form _ _), defaulted_ite (Drive.decode?_keeping form _ _),
    defaulted_ite (Simulation.decode?_keeping form _ _),
    defaulted_ite (Panel.decode?_keeping form _ _), defaulted_ite (listOf?_ports form c.ports)]
  rfl

theorem decode?_encode (form : Form) (c : Config) : Config.decode? form c.encode = some c :=
  decode?_kept form ⟨fun _ => true, fun _ _ => true⟩ c

/-! ## Records that are no configurations -/

/-- The names of the sections. -/
def partNames : List String := ["shared", "driver", "ports", "simulation", "elevator"]

/-- The sections that are records, with the names of their fields. -/
def fieldNames : List (String × List String) :=
  [("shared", ["log_level", "service_name"]),
    ("driver", ["name", "device", "analog_max", "analog_policy"]),
    ("simulation", ["floors", "start_floor", "travel_between_floors_ms", "passing_floor_ms",
      "button_press_ms"]),
    ("elevator", ["enabled", "poll_interval_ms", "stop_delay_ms", "homing_timeout_ms"])]

/-- The number fields of the sections with their bounds. -/
def ranges : List (String × String × Nat) :=
  [("driver", "analog_max", UInt32.size), ("simulation", "floors", UInt8.size),
    ("simulation", "start_floor", UInt8.size),
    ("simulation", "travel_between_floors_ms", UInt64.size),
    ("simulation", "passing_floor_ms", UInt64.size),
    ("simulation", "button_press_ms", UInt64.size), ("elevator", "poll_interval_ms", UInt64.size),
    ("elevator", "stop_delay_ms", UInt64.size), ("elevator", "homing_timeout_ms", UInt64.size)]

/-- Records that are no configurations: an unknown section, an unknown field in a section, a faulty
port, or a number beyond the range of its field. -/
inductive Faulty : Data → Prop
  | strange {parts part d} (mem : (part, d) ∈ parts) (unknown : part ∉ partNames) :
      Faulty (.record parts)
  | strangeField {parts part names fields key d} (known : (part, names) ∈ fieldNames)
      (whole : (part, .record fields) ∈ parts) (mem : (key, d) ∈ fields) (unknown : key ∉ names) :
      Faulty (.record parts)
  | port {parts items item} (ports : ("ports", .list items) ∈ parts) (mem : item ∈ items)
      (faulty : Port.Faulty item) : Faulty (.record parts)
  | beyond {parts part fields key bound d} (ranged : (part, key, bound) ∈ ranges)
      (whole : (part, .record fields) ∈ parts) (mem : (key, d) ∈ fields)
      (number : d.Beyond bound) : Faulty (.record parts)

/-- What may stand in the sections. -/
def schema (form : Form) : Schema :=
  [("shared", fun d => (Shared.decode? form d).isSome),
    ("driver", fun d => (Drive.decode? form d).isSome),
    ("ports", fun d => (listOf? (Port.decode? form) d).isSome),
    ("simulation", fun d => (Simulation.decode? form d).isSome),
    ("elevator", fun d => (Panel.decode? form d).isSome)]

theorem admits_of_decode? {c : Config} (h : Config.decode? form (.record fields) = some c) :
    (schema form).Admits fields := by
  refine Schema.admits_of_bind h (by simp [schema]) fun hread => ?_
  simp only [schema, List.map_cons, List.map_nil, Option.bind_eq_bind,
    Option.bind_eq_some_iff] at hread
  obtain ⟨_, r₁, _, r₂, _, r₃, _, r₄, _, r₅, -⟩ := hread
  simp only [schema, List.forall_mem_cons, List.not_mem_nil, false_implies, implies_true, and_true]
  exact ⟨isSome_of_defaulted r₁, isSome_of_defaulted r₂, isSome_of_defaulted r₃,
    isSome_of_defaulted r₄, isSome_of_defaulted r₅⟩

/-- The sections that are records, with what may stand in their fields. -/
def parts (form : Form) : List (String × Schema) :=
  [("shared", Shared.schema form), ("driver", Drive.schema form),
    ("simulation", Simulation.schema), ("elevator", Panel.schema)]

/-- The sections of a configuration that was read have known fields, and in them what may stand
there. -/
theorem admits_part {c : Config} (h : Config.decode? form (.record fields) = some c)
    {part : String} {schema : Schema} (hpart : (part, schema) ∈ parts form)
    {inner : List (String × Data)} (hmem : (part, .record inner) ∈ fields) :
    schema.Admits inner := by
  have hadmits := admits_of_decode? h
  simp only [parts, List.mem_cons, List.not_mem_nil, or_false, Prod.mk.injEq] at hpart
  rcases hpart with ⟨rfl, rfl⟩ | ⟨rfl, rfl⟩ | ⟨rfl, rfl⟩ | ⟨rfl, rfl⟩
  · obtain ⟨_, hread⟩ := Option.isSome_iff_exists.1 (hadmits.passes hmem rfl)
    exact Shared.admits_of_decode? hread
  · obtain ⟨_, hread⟩ := Option.isSome_iff_exists.1 (hadmits.passes hmem rfl)
    exact Drive.admits_of_decode? hread
  · obtain ⟨_, hread⟩ := Option.isSome_iff_exists.1 (hadmits.passes hmem rfl)
    exact Simulation.admits_of_decode? hread
  · obtain ⟨_, hread⟩ := Option.isSome_iff_exists.1 (hadmits.passes hmem rfl)
    exact Panel.admits_of_decode? hread

/-- No number beyond its range may stand in a section. -/
theorem not_passes_of_beyond {part key : String} {bound : Nat} {d : Data}
    (hranged : (part, key, bound) ∈ ranges) (hd : d.Beyond bound) :
    ∃ schema passes, (part, schema) ∈ parts form ∧ schema.lookup key = some passes ∧
      passes d = false := by
  simp only [ranges, List.mem_cons, List.not_mem_nil, or_false, Prod.mk.injEq] at hranged
  have hdriver : ("driver", Drive.schema form) ∈ parts form := by simp [parts]
  have hsimulation : ("simulation", Simulation.schema) ∈ parts form := by simp [parts]
  have helevator : ("elevator", Panel.schema) ∈ parts form := by simp [parts]
  rcases hranged with ⟨rfl, rfl, rfl⟩ | ⟨rfl, rfl, rfl⟩ | ⟨rfl, rfl, rfl⟩ | ⟨rfl, rfl, rfl⟩ |
    ⟨rfl, rfl, rfl⟩ | ⟨rfl, rfl, rfl⟩ | ⟨rfl, rfl, rfl⟩ | ⟨rfl, rfl, rfl⟩ | ⟨rfl, rfl, rfl⟩
  · exact ⟨_, _, hdriver, rfl, by rw [word32?_of_beyond hd, Option.isSome_none]⟩
  · exact ⟨_, _, hsimulation, rfl, by rw [byte?_of_beyond hd, Option.isSome_none]⟩
  · exact ⟨_, _, hsimulation, rfl, by rw [byte?_of_beyond hd, Option.isSome_none]⟩
  · exact ⟨_, _, hsimulation, rfl, by rw [word64?_of_beyond hd, Option.isSome_none]⟩
  · exact ⟨_, _, hsimulation, rfl, by rw [word64?_of_beyond hd, Option.isSome_none]⟩
  · exact ⟨_, _, hsimulation, rfl, by rw [word64?_of_beyond hd, Option.isSome_none]⟩
  · exact ⟨_, _, helevator, rfl, by rw [word64?_of_beyond hd, Option.isSome_none]⟩
  · exact ⟨_, _, helevator, rfl, by rw [word64?_of_beyond hd, Option.isSome_none]⟩
  · exact ⟨_, _, helevator, rfl, by rw [word64?_of_beyond hd, Option.isSome_none]⟩

/-- No configuration is read from a faulty record. -/
theorem decode?_of_faulty {d : Data} (h : Faulty d) : Config.decode? form d = none := by
  refine Option.eq_none_iff_forall_ne_some.2 fun c hread => ?_
  cases h with
  | strange mem unknown => exact unknown ((admits_of_decode? hread).known mem)
  | strangeField known whole mem unknown =>
    have hnames : fieldNames = (parts form).map fun part => (part.1, part.2.map Prod.fst) := rfl
    rw [hnames] at known
    obtain ⟨⟨_, schema⟩, hpart, he⟩ := List.mem_map.1 known
    cases he
    exact unknown ((admits_part hread hpart whole).known mem)
  | port ports mem faulty =>
    have hread := isSome_of_mem_listOf? ((admits_of_decode? hread).passes ports rfl) mem
    rw [Port.decode?_of_faulty faulty] at hread
    cases hread
  | beyond ranged whole mem number =>
    obtain ⟨schema, passes, hpart, hlookup, hfails⟩ := not_passes_of_beyond ranged number
    cases hfails.symm.trans ((admits_part hread hpart whole).passes mem hlookup)

/-- A byte cannot hold the number of floors. -/
example :
    Config.decode? filed (.record [("simulation", .record [("floors", .int 256)])]) = none := by
  decide

end Config

open Config

/-- Whatever the form of the records: every configuration reads back from its record; with any
sections left out of the record, and any fields of the sections that are records, it reads with the
built-in values for just what was left out; an empty list of ports stays empty; and no record is
read that has an unknown section, an unknown field in a section or in a port, a port without one of
its six fields, or a number beyond the range of its field. -/
theorem config_is_defaults_and_overrides (form : Form) :
    (∀ c, Config.decode? form c.encode = some c) ∧
      (∀ (k : Kept) (c : Config), Config.decode? form (k.abridge c.encode) = some (c.refilled k)) ∧
      Config.decode? form (.record [("ports", .list [])]) = some { ports := [] } ∧
      ∀ d, Config.Faulty d → Config.decode? form d = none :=
  ⟨Config.decode?_encode form, decode?_kept form,
    decode?_kept form ⟨(· == "ports"), fun _ _ => true⟩ { ports := [] },
    fun _ => decode?_of_faulty⟩

end LiftRig
