import PeerCluster.Config.Schema

/-! All that is wrong with documents and with settings, in order; what comes first counts. -/

namespace PeerCluster

/-! ### First faults -/

section FirstFaults

variable {α β ε σ : Type}

/-- An answer is the first of some faults, and a value if there are none. -/
def ReportsFirst (answer : Except ε α) (faults : List ε) : Prop :=
  match answer with
  | .error fault => faults.head? = some fault
  | .ok _ => faults = []

namespace ReportsFirst

/-- A value reports no fault. -/
theorem pure (value : α) : ReportsFirst (Pure.pure value : Except ε α) [] := rfl

/-- Of two steps the second one only reports a fault when nothing is wrong with the first. -/
theorem bind {first : Except ε α} {next : α → Except ε β} {faults others : List ε}
    (reports : ReportsFirst first faults) (goesOn : ∀ value, ReportsFirst (next value) others) :
    ReportsFirst (first >>= next) (faults ++ others) := by
  -- By the first step, whose failure leaves the second one out.
  cases first with
  | error fault =>
    show (faults ++ others).head? = some fault
    rw [List.head?_append, show faults.head? = some fault from reports]
    rfl
  -- Nothing is wrong with the first step, so the faults are those of the second one.
  | ok value =>
    obtain rfl : faults = [] := reports
    exact goesOn value

/-- What is made of a value reports the faults of the value. -/
theorem map {answer : Except ε α} {faults : List ε} (reports : ReportsFirst answer faults)
    (make : α → β) :
    ReportsFirst (answer >>= fun value => Pure.pure (make value)) faults := by
  -- What is made of the value can go wrong no more, so it adds no faults.
  rw [← List.append_nil faults]
  exact reports.bind fun value => .pure (make value)

/-- A walk over a list ends at the first fault of the first item that has one. -/
theorem foldlM {step : σ → α → Except ε σ} {faults : α → List ε}
    (reports : ∀ state item, ReportsFirst (step state item) (faults item)) (items : List α)
    (state : σ) :
    ReportsFirst (items.foldlM step state) (items.flatMap faults) := by
  -- What was taken in before makes no difference to what is wrong with an item.
  induction items generalizing state with
  | nil => exact .pure state
  | cons item rest ih =>
    rw [List.foldlM_cons, List.flatMap_cons]
    exact (reports state item).bind ih

end ReportsFirst

end FirstFaults

/-! ### Documents -/

namespace Toml.Value

/-- What is wrong with a value where a text should be. -/
def textFaults : Value → List SchemaFault
  | .text _ => []
  | other => [.wrongKind other.description .text]

/-- What is wrong with a value where a port should be. -/
def portFaults : Value → List SchemaFault
  | .integer number => if 0 ≤ number ∧ number ≤ 65535 then [] else [.outOfRange number .port]
  | other => [.wrongKind other.description .port]

/-- What is wrong with a value where a number of milliseconds should be. -/
def millisFaults : Value → List SchemaFault
  | .integer number => if 0 ≤ number then [] else [.outOfRange number .millis]
  | other => [.wrongKind other.description .millis]

/-- What is wrong with an entry of a table where a layout should be. -/
def layoutEntryFaults : String × Value → List SchemaFault
  | (key, value) =>
    if key = "base_port" ∨ key = "stride" then value.portFaults else [.unknownLayoutKey key]

/-- What is wrong with a value where a layout should be, which may be a table or a sequence. -/
def layoutFaults : Value → List SchemaFault
  | .table _ entries => entries.flatMap layoutEntryFaults
  | .array _ items => (items.take 2).flatMap portFaults
  | .moment => [.unknownLayoutKey momentKey]
  | other => [.wrongKind other.description .layout]

/-- A text is taken unless something is wrong with it. -/
theorem reportsFirst_asText (value : Value) : ReportsFirst value.asText value.textFaults := by
  -- Each kind of value is either a text or a fault by itself.
  cases value <;> rfl

/-- A port is taken unless something is wrong with it. -/
theorem reportsFirst_asPort (value : Value) : ReportsFirst value.asPort value.portFaults := by
  cases value with
  | integer number =>
    -- The bounds are written in two ways, once by the size of a port and once by its largest.
    have same : (decide (0 ≤ number) && decide (number < UInt16.size)) = true ↔
        0 ≤ number ∧ number ≤ 65535 := by
      simp only [UInt16.size, Bool.and_eq_true, decide_eq_true_eq]
      omega
    simp only [asPort, portFaults, same]
    split <;> rfl
  | text | float | boolean | moment | array | table => rfl

/-- A number of milliseconds is taken unless something is wrong with it. -/
theorem reportsFirst_asMillis (value : Value) : ReportsFirst value.asMillis value.millisFaults := by
  cases value with
  | integer number =>
    -- Both ask whether the number is negative.
    simp only [asMillis, millisFaults]
    split <;> rfl
  | text | float | boolean | moment | array | table => rfl

end Toml.Value

open Toml.Value

namespace PortLayout

/-- An entry of a layout is taken unless something is wrong with it. -/
theorem reportsFirst_assign (layout : PortLayout) (entry : String × Toml.Value) :
    ReportsFirst (layout.assign entry) (layoutEntryFaults entry) := by
  -- By the key, as the entry is looked at; an unknown key is a fault by itself.
  fun_cases layout.assign entry with
  | case1 value => exact (reportsFirst_asPort value).map _
  | case2 value => exact (reportsFirst_asPort value).map _
  | case3 key value notBase notStride =>
    rw [layoutEntryFaults, if_neg (not_or.mpr ⟨notBase, notStride⟩)]
    rfl

/-- The first two items of a sequence are taken unless something is wrong with them. -/
theorem reportsFirst_fill (layout : PortLayout) (items : List Toml.Value) :
    ReportsFirst (layout.fill items) ((items.take 2).flatMap portFaults) := by
  -- By the length of the sequence, of which no more than two items are read.
  fun_cases layout.fill items with
  | case1 => exact .pure layout
  | case2 base => exact (reportsFirst_asPort base).bind fun _ => .pure _
  | case3 base stride more =>
    exact (reportsFirst_asPort base).bind fun _ =>
      (reportsFirst_asPort stride).bind fun _ => .pure _

/-- A layout is taken unless something is wrong with it. -/
theorem reportsFirst_ofValue (value : Toml.Value) :
    ReportsFirst (ofValue value) value.layoutFaults := by
  -- A table is walked through from the standard layout, and a sequence is filled into it.
  cases value with
  | table origin entries => exact .foldlM reportsFirst_assign entries standard
  | array byHeaders items => exact standard.reportsFirst_fill items
  | text | integer | float | boolean | moment => rfl

end PortLayout

/-! ### The schema -/

namespace Toml.Value

/-- A value is an integer that fits a port. -/
inductive IsPort : Value → Prop where
  | integer {number : Int} (least : 0 ≤ number) (most : number ≤ 65535) : IsPort (.integer number)

/-- An entry of a table says something about a layout. -/
inductive IsLayoutEntry : String × Value → Prop where
  | basePort {value : Value} (port : value.IsPort) : IsLayoutEntry ("base_port", value)
  | stride {value : Value} (port : value.IsPort) : IsLayoutEntry ("stride", value)

/-- A value is a layout: a table of nothing else, or a sequence whose first two items are ports. -/
inductive IsLayout : Value → Prop where
  | table {origin : Origin} {entries : Entries} (each : ∀ entry ∈ entries, IsLayoutEntry entry) :
      IsLayout (.table origin entries)
  | array {byHeaders : Bool} {items : List Value} (each : ∀ item ∈ items.take 2, item.IsPort) :
      IsLayout (.array byHeaders items)

/-- An entry of a document is a setting. -/
inductive IsSetting : String × Value → Prop where
  | appName {name : String} : IsSetting ("app_name", .text name)
  | hostName {name : String} : IsSetting ("host_name", .text name)
  | ports {value : Value} (layout : value.IsLayout) : IsSetting ("ports", value)
  | retry {number : Int} (least : 0 ≤ number) :
      IsSetting ("replication_retry_ms", .integer number)

/-- Nothing is wrong with a value where a port should be exactly if it is one. -/
theorem portFaults_eq_nil_iff {value : Value} : value.portFaults = [] ↔ value.IsPort := by
  constructor
  · intro fine
    cases value with
    | integer number =>
      -- An integer is a port or out of range, and nothing else is one.
      by_cases small : 0 ≤ number ∧ number ≤ 65535
      · exact .integer small.1 small.2
      · rw [portFaults, if_neg small] at fine
        cases fine
    | text | float | boolean | moment | array | table => cases fine
  · rintro ⟨least, most⟩
    exact if_pos ⟨least, most⟩

/-- Nothing is wrong with an entry of a layout exactly if it is one. -/
theorem layoutEntryFaults_eq_nil_iff {entry : String × Value} :
    layoutEntryFaults entry = [] ↔ IsLayoutEntry entry := by
  constructor
  · obtain ⟨key, value⟩ := entry
    intro fine
    -- A known key leaves it to the value, and an unknown one is a fault by itself.
    by_cases known : key = "base_port" ∨ key = "stride"
    · rw [layoutEntryFaults, if_pos known, portFaults_eq_nil_iff] at fine
      rcases known with rfl | rfl
      · exact .basePort fine
      · exact .stride fine
    · rw [layoutEntryFaults, if_neg known] at fine
      cases fine
  · -- Under either key the value should be a port.
    rintro (port | port)
    · exact portFaults_eq_nil_iff.mpr port
    · exact portFaults_eq_nil_iff.mpr port

/-- Nothing is wrong with a value where a layout should be exactly if it is one. -/
theorem layoutFaults_eq_nil_iff {value : Value} : value.layoutFaults = [] ↔ value.IsLayout := by
  constructor
  · intro fine
    -- A table and a sequence are fine part by part, and nothing else is a layout.
    cases value with
    | table origin entries =>
      exact .table fun entry member =>
        layoutEntryFaults_eq_nil_iff.mp (List.flatMap_eq_nil_iff.mp fine entry member)
    | array byHeaders items =>
      exact .array fun item member =>
        portFaults_eq_nil_iff.mp (List.flatMap_eq_nil_iff.mp fine item member)
    | text | integer | float | boolean | moment => cases fine
  · -- The other way round as well, each part by itself.
    rintro (each | each)
    · exact List.flatMap_eq_nil_iff.mpr fun entry member =>
        layoutEntryFaults_eq_nil_iff.mpr (each entry member)
    · exact List.flatMap_eq_nil_iff.mpr fun item member =>
        portFaults_eq_nil_iff.mpr (each item member)

end Toml.Value

/-! ### Settings -/

namespace ClusterConfig

/-- What is wrong with an entry of a document. -/
def entryFaults : String × Toml.Value → List SchemaFault
  | (key, value) =>
    if key = "app_name" ∨ key = "host_name" then value.textFaults
    else if key = "ports" then value.layoutFaults
    else if key = "replication_retry_ms" then value.millisFaults
    else [.unknownKey key]

/-- What is wrong with a document, in the order of its entries. -/
def documentFaults (entries : Toml.Entries) : List SchemaFault :=
  entries.flatMap entryFaults

/-- An entry of a document is taken unless something is wrong with it. -/
theorem reportsFirst_assign (config : ClusterConfig) (entry : String × Toml.Value) :
    ReportsFirst (config.assign entry) (entryFaults entry) := by
  -- By the key, as the entry is looked at.
  fun_cases config.assign entry with
  | case1 value => exact (reportsFirst_asText value).map _
  | case2 value => exact (reportsFirst_asText value).map _
  | case3 value => exact (PortLayout.reportsFirst_ofValue value).map _
  | case4 value => exact (reportsFirst_asMillis value).map _
  | case5 key value notApp notHost notPorts notRetry =>
    rw [entryFaults, if_neg (not_or.mpr ⟨notApp, notHost⟩), if_neg notPorts, if_neg notRetry]
    rfl

/-- A document is taken unless something is wrong with it, and the first fault is reported. -/
theorem reportsFirst_ofEntries (entries : Toml.Entries) :
    ReportsFirst (ofEntries entries) (documentFaults entries) :=
  .foldlM reportsFirst_assign entries standard

/-- A number of milliseconds with which nothing is wrong is a setting. -/
theorem retry_of_millisFaults {value : Toml.Value} (fine : value.millisFaults = []) :
    IsSetting ("replication_retry_ms", value) := by
  cases value with
  | integer number =>
    -- A time is fine unless it is negative.
    by_cases least : 0 ≤ number
    · exact .retry least
    · rw [millisFaults, if_neg least] at fine
      cases fine
  | text | float | boolean | moment | array | table => cases fine

/-- Nothing is wrong with an entry of a document exactly if it is a setting. -/
theorem entryFaults_eq_nil_iff {entry : String × Toml.Value} :
    entryFaults entry = [] ↔ IsSetting entry := by
  -- The key decides what the value should be, and an unknown key is a fault by itself.
  constructor
  · obtain ⟨key, value⟩ := entry
    intro fine
    by_cases named : key = "app_name" ∨ key = "host_name"
    · rw [entryFaults, if_pos named] at fine
      cases value with
      | text name =>
        rcases named with rfl | rfl
        · exact .appName
        · exact .hostName
      | integer | float | boolean | moment | array | table => cases fine
    · rw [entryFaults, if_neg named] at fine
      by_cases placed : key = "ports"
      · subst placed
        exact .ports (layoutFaults_eq_nil_iff.mp fine)
      · rw [if_neg placed] at fine
        by_cases timed : key = "replication_retry_ms"
        · subst timed
          exact retry_of_millisFaults fine
        · rw [if_neg timed] at fine
          cases fine
  · -- Each kind of setting is one of the values that the key asks for.
    rintro (_ | _ | layout | least)
    · rfl
    · rfl
    · exact layoutFaults_eq_nil_iff.mpr layout
    · exact if_pos least

/-- Nothing is wrong with a document exactly if every entry is a setting. -/
theorem documentFaults_eq_nil_iff {entries : Toml.Entries} :
    documentFaults entries = [] ↔ ∀ entry ∈ entries, IsSetting entry := by
  -- A document has no faults if none of its entries has any.
  simp only [documentFaults, List.flatMap_eq_nil_iff, entryFaults_eq_nil_iff]

/-- What is wrong with settings, in the order in which it is looked for. -/
def flaws (config : ClusterConfig) : List SettingFault :=
  (if Text.allBlank config.appName then [.blankAppName] else [])
    ++ (if Text.allBlank config.hostName then [.blankHostName] else [])
    ++ (if config.ports.basePort = 0 then [.noBasePort] else [])
    ++ if config.ports.stride.toNat < portsPerNode then [.narrowStride config.ports.stride] else []

/-- Settings make sense. -/
structure IsValid (config : ClusterConfig) : Prop where
  appName : ∃ c ∈ config.appName.toList, Text.isBlank c = false
  hostName : ∃ c ∈ config.hostName.toList, Text.isBlank c = false
  basePort : 0 < config.ports.basePort.toNat
  stride : 5 ≤ config.ports.stride.toNat

/-- The first thing that is wrong with settings is looked for first. -/
theorem fault?_eq (config : ClusterConfig) : config.fault? = config.flaws.head? := by
  -- Where a test finds nothing its part of the list is empty, and the next test comes first.
  unfold fault? flaws
  split
  · rfl
  · split
    · rfl
    · split
      · rfl
      · split <;> rfl

/-- A text is not blank exactly if one of its characters is not. -/
theorem allBlank_eq_false_iff {text : String} :
    Text.allBlank text = false ↔ ∃ c ∈ text.toList, Text.isBlank c = false := by
  simp [Text.allBlank]

/-- Nothing is wrong with settings exactly if they make sense. -/
theorem flaws_eq_nil_iff {config : ClusterConfig} : config.flaws = [] ↔ config.IsValid := by
  -- A port is tested against zero; of a number that cannot be negative this leaves the positive.
  have positive : config.ports.basePort ≠ 0 ↔ 0 < config.ports.basePort.toNat := by
    rw [Nat.pos_iff_ne_zero, ne_eq, ne_eq, ← UInt16.toNat_inj]
    rfl
  have wide : ¬ config.ports.stride.toNat < portsPerNode ↔ 5 ≤ config.ports.stride.toNat :=
    Nat.not_lt
  -- The list of flaws is empty if each of its four parts is.
  simp only [flaws, List.append_eq_nil_iff, ite_eq_right_iff, List.cons_ne_nil, imp_false,
    Bool.not_eq_true, allBlank_eq_false_iff, positive, wide]
  constructor
  · rintro ⟨⟨⟨appName, hostName⟩, basePort⟩, stride⟩
    exact ⟨appName, hostName, basePort, stride⟩
  · rintro ⟨appName, hostName, basePort, stride⟩
    exact ⟨⟨⟨appName, hostName⟩, basePort⟩, stride⟩

end ClusterConfig

end PeerCluster
