import PeerCluster.Config.Schema
import PeerCluster.Proofs.Toml.WellFormed

/-! What the entries of a document set, whatever their order. -/

namespace PeerCluster

open Toml

/-- Two steps come to a value if the first one does and the second one goes on from it. -/
theorem exists_of_bind {α β ε : Type} {first : Except ε α} {next : α → Except ε β} {last : β}
    (done : first >>= next = .ok last) : ∃ value, first = .ok value ∧ next value = .ok last := by
  -- The first step decides, since a failure of it would be what both come to.
  cases first with
  | error fault => cases done
  | ok value => exact ⟨value, rfl, done⟩

/-! ### What entries set -/

/-- An entry of a table stands under a key. -/
def Toml.Entries.Holds (entries : Entries) (key : String) (value : Value) : Prop :=
  (key, value) ∈ entries

/-- A field is what every value tells that is given for it, and as it was if none is given. -/
structure IsSet {α : Type} (given : Value → Prop) (tells : Value → α → Prop) (before field : α) :
    Prop where
  told : ∀ value, given value → tells value field
  kept : (∀ value, ¬ given value) → field = before

namespace IsSet

section Fields

variable {α : Type} {given : Value → Prop} {tells : Value → α → Prop} {before field : α}
  {key : String}

/-- Without entries a field is as it was. -/
theorem nil : IsSet (Entries.Holds [] key) tells field field :=
  ⟨nofun, fun _ => rfl⟩

/-- A field is told by an entry of its own. -/
theorem own {value : Value} (told : tells value field) :
    IsSet (Entries.Holds [(key, value)] key) tells before field := by
  -- The only entry is the one given, and it is given under the key.
  refine ⟨fun other held => ?_, fun none => absurd List.mem_cons_self (none value)⟩
  obtain ⟨_, rfl⟩ := Prod.mk.inj (List.mem_singleton.mp held)
  exact told

/-- An entry under another key makes no difference. -/
theorem other {other : String} {value : Value} (differs : key ≠ other) :
    IsSet (Entries.Holds [(other, value)] key) tells field field := by
  -- The only entry stands under the other key.
  refine ⟨fun found held => ?_, fun _ => rfl⟩
  exact absurd (Prod.mk.inj (List.mem_singleton.mp held)).1 differs

/-- A field is set by an entry and then by others, none of which stands under the same key. -/
theorem cons {entry : String × Value} {entries : Entries} {between : α}
    (new : entry.1 ∉ entries.map Prod.fst)
    (first : IsSet (Entries.Holds [entry] key) tells before between)
    (later : IsSet (entries.Holds key) tells between field) :
    IsSet (Entries.Holds (entry :: entries) key) tells before field := by
  refine ⟨fun value held => ?_, fun none => ?_⟩
  · rcases List.mem_cons.mp held with rfl | among
    · -- Nothing that follows speaks about the field again.
      have absent (value : Value) : ¬ entries.Holds key value :=
        fun held => new (List.mem_map.mpr ⟨(key, value), held, rfl⟩)
      rw [later.kept absent]
      exact first.told value List.mem_cons_self
    · exact later.told value among
  · -- If the first entry is not about the field either, nothing is.
    rw [later.kept fun value held => none value (List.mem_cons_of_mem entry held)]
    exact first.kept fun value held => none value (List.mem_singleton.mp held ▸ List.mem_cons_self)

/-- A field is told by an item that is there. -/
theorem present {given? : Option Value} {value : Value} (found : given? = some value)
    (told : tells value field) : IsSet (given? = some ·) tells before field := by
  -- The item that is there is the only one that can be given.
  refine ⟨fun other held => ?_, fun none => absurd found (none value)⟩
  obtain rfl := Option.some.inj (found.symm.trans held)
  exact told

/-- An item that is not there makes no difference. -/
theorem absent : IsSet (none = some ·) tells field field :=
  ⟨nofun, fun _ => rfl⟩

/-- Entries taken in one by one set a field if each of them does. -/
theorem of_foldlM {σ ε : Type} {step : σ → String × Value → Except ε σ} {part : σ → α}
    {entries : Entries} (distinct : (entries.map Prod.fst).Nodup)
    (each : ∀ entry ∈ entries, ∀ state next, step state entry = .ok next →
      IsSet (Entries.Holds [entry] key) tells (part state) (part next))
    {start last : σ} (taken : entries.foldlM step start = .ok last) :
    IsSet (entries.Holds key) tells (part start) (part last) := by
  -- The first entry is taken as if it were the only one, for its key does not come up again.
  induction entries generalizing start with
  | nil =>
    -- No entry was taken in, so the state is what it was.
    obtain rfl := Except.ok.inj taken
    exact nil
  | cons entry rest ih =>
    obtain ⟨new, distinct⟩ := List.nodup_cons.mp distinct
    -- The first entry is taken in before all others, and they go on from what it left.
    rw [List.foldlM_cons] at taken
    obtain ⟨next, first, taken⟩ := exists_of_bind taken
    exact (each entry List.mem_cons_self start next first).cons new
      (ih distinct (fun entry member => each entry (List.mem_cons_of_mem _ member)) taken)

/-- What is given for a field may be said in other words. -/
theorem congr {given' : Value → Prop} (isSet : IsSet given tells before field)
    (same : ∀ value, given' value ↔ given value) : IsSet given' tells before field :=
  ⟨fun value held => isSet.told value ((same value).mp held),
    fun none => isSet.kept fun value held => none value ((same value).mpr held)⟩

/-- A field can only be one thing if no value tells two. -/
theorem unique {field' : α} (isSet : IsSet given tells before field)
    (isSet' : IsSet given tells before field')
    (clear : ∀ value, tells value field → tells value field' → field = field') :
    field = field' := by
  -- Either a value tells what both are, or both are as before.
  by_cases some : ∃ value, given value
  · obtain ⟨value, held⟩ := some
    exact clear value (isSet.told value held) (isSet'.told value held)
  · have none : ∀ value, ¬ given value := fun value held => some ⟨value, held⟩
    exact (isSet.kept none).trans (isSet'.kept none).symm

end Fields

end IsSet

/-! ### What values tell -/

namespace Toml.Value

/-- A value is a given text. -/
def TextIs (value : Value) (text : String) : Prop :=
  value = .text text

/-- A value is the number of a port. -/
def PortIs (value : Value) (port : UInt16) : Prop :=
  value = .integer port.toNat

/-- A value is a given number of milliseconds. -/
def MillisIs (value : Value) (millis : Nat) : Prop :=
  value = .integer millis

/-- What is taken as a text is that text. -/
theorem textIs_of_asText {value : Value} {text : String} (taken : value.asText = .ok text) :
    value.TextIs text := by
  -- Only a text is taken as a text.
  cases value with
  | text own => exact congrArg Value.text (Except.ok.inj taken)
  | integer | float | boolean | moment | array | table => cases taken

/-- What is taken as a port is the number of that port. -/
theorem portIs_of_asPort {value : Value} {port : UInt16} (taken : value.asPort = .ok port) :
    value.PortIs port := by
  cases value with
  -- Only an integer is taken as a port, and only within the bounds of one.
  | integer number =>
    simp only [asPort] at taken
    split at taken
    · rename_i small
      obtain rfl := Except.ok.inj taken
      simp only [UInt16.size, Bool.and_eq_true, decide_eq_true_eq] at small
      -- The bounds are those of 16 bits, so no digit is lost in the port.
      have fits : number.toNat < UInt16.size := by
        simp only [UInt16.size]
        omega
      rw [PortIs, UInt16.toNat_ofNat_of_lt' fits, Int.toNat_of_nonneg small.1]
    · cases taken
  | text | float | boolean | moment | array | table => cases taken

/-- What is taken as a number of milliseconds is that number. -/
theorem millisIs_of_asMillis {value : Value} {millis : Nat} (taken : value.asMillis = .ok millis) :
    value.MillisIs millis := by
  cases value with
  -- Only an integer is taken as a time, and only if it is not negative.
  | integer number =>
    simp only [asMillis] at taken
    split at taken
    · rename_i least
      obtain rfl := Except.ok.inj taken
      -- An integer that is not negative is the natural number it is taken as.
      exact congrArg Value.integer (Int.toNat_of_nonneg least).symm
    · cases taken
  | text | float | boolean | moment | array | table => cases taken

/-- A value is one text only. -/
theorem TextIs.unique {value : Value} {text text' : String} (is : value.TextIs text)
    (is' : value.TextIs text') : text = text' :=
  Value.text.inj (is.symm.trans is')

/-- A value is the number of one port only. -/
theorem PortIs.unique {value : Value} {port port' : UInt16} (is : value.PortIs port)
    (is' : value.PortIs port') : port = port' :=
  UInt16.toNat_inj.mp (Int.ofNat.inj (Value.integer.inj (is.symm.trans is')))

/-- A value is one number of milliseconds only. -/
theorem MillisIs.unique {value : Value} {millis millis' : Nat} (is : value.MillisIs millis)
    (is' : value.MillisIs millis') : millis = millis' :=
  Int.ofNat.inj (Value.integer.inj (is.symm.trans is'))

end Toml.Value

open Toml.Value

/-! ### Layouts -/

namespace PortLayout

/-- The ports of a layout are set by what is given for each of them. -/
structure IsSetFrom (layout start : PortLayout) (givenBase givenStride : Value → Prop) : Prop where
  basePort : IsSet givenBase PortIs start.basePort layout.basePort
  stride : IsSet givenStride PortIs start.stride layout.stride

/-- A layout is another one with what a value tells in its place. -/
inductive IsSetBy (layout start : PortLayout) : Value → Prop where
  | table {origin : Toml.Origin} {entries : Entries}
      (ports : layout.IsSetFrom start (entries.Holds "base_port") (entries.Holds "stride")) :
      IsSetBy layout start (.table origin entries)
  | array {byHeaders : Bool} {items : List Value}
      (ports : layout.IsSetFrom start (items[0]? = some ·) (items[1]? = some ·)) :
      IsSetBy layout start (.array byHeaders items)

variable {layout layout' start next : PortLayout}

/-- An entry that is taken sets the port that it names. -/
theorem isSetFrom_assign (entry : String × Value) : start.assign entry = .ok next →
    next.IsSetFrom start (Entries.Holds [entry] "base_port") (Entries.Holds [entry] "stride") := by
  -- By the key: it names the first port, the stride, or nothing that is known.
  fun_cases start.assign entry with
  | case1 value =>
    intro taken
    obtain ⟨port, is, ⟨⟩⟩ := exists_of_bind taken
    exact ⟨.own (portIs_of_asPort is), .other (by decide)⟩
  | case2 value =>
    intro taken
    obtain ⟨port, is, ⟨⟩⟩ := exists_of_bind taken
    exact ⟨.other (by decide), .own (portIs_of_asPort is)⟩
  | case3 => nofun

/-- A table that is taken sets the ports that it names. -/
theorem isSetFrom_entries {entries : Entries} (distinct : (entries.map Prod.fst).Nodup)
    (taken : entries.foldlM assign start = .ok layout) :
    layout.IsSetFrom start (entries.Holds "base_port") (entries.Holds "stride") where
  -- Each of the two fields is followed through the entries on its own.
  basePort := .of_foldlM distinct (fun entry _ _ _ step => (isSetFrom_assign entry step).basePort)
    taken
  stride := .of_foldlM distinct (fun entry _ _ _ step => (isSetFrom_assign entry step).stride) taken

/-- A sequence that is taken sets the ports in order. -/
theorem isSetFrom_fill (items : List Value) : start.fill items = .ok layout →
    layout.IsSetFrom start (items[0]? = some ·) (items[1]? = some ·) := by
  -- By the length of the sequence: none, one, or more items, of which two are looked at.
  fun_cases start.fill items with
  | case1 =>
    rintro ⟨⟩
    exact ⟨.absent, .absent⟩
  | case2 base =>
    intro taken
    obtain ⟨port, is, ⟨⟩⟩ := exists_of_bind taken
    exact ⟨.present rfl (portIs_of_asPort is), .absent⟩
  | case3 base stride more =>
    intro taken
    obtain ⟨port, is, taken⟩ := exists_of_bind taken
    obtain ⟨width, fits, ⟨⟩⟩ := exists_of_bind taken
    exact ⟨.present rfl (portIs_of_asPort is), .present rfl (portIs_of_asPort fits)⟩

/-- A value that is taken sets what it tells. -/
theorem isSetBy_ofValue {value : Value} (wellFormed : value.WellFormed)
    (taken : ofValue value = .ok layout) :
    layout.IsSetBy .standard value := by
  -- Only tables and sequences are taken as a layout.
  cases value with
  | table origin entries =>
    exact .table (isSetFrom_entries (Entries.WellFormed.of_table wellFormed).distinct taken)
  | array byHeaders items => exact .array (isSetFrom_fill items taken)
  | text | integer | float | boolean | moment => cases taken

/-- What is given sets one layout only. -/
theorem IsSetFrom.unique {givenBase givenStride : Value → Prop}
    (isSet : layout.IsSetFrom start givenBase givenStride)
    (isSet' : layout'.IsSetFrom start givenBase givenStride) : layout = layout' := by
  -- Both fields are told by the same things.
  have basePort := isSet.basePort.unique isSet'.basePort fun _ => PortIs.unique
  have stride := isSet.stride.unique isSet'.stride fun _ => PortIs.unique
  cases layout
  cases layout'
  exact congr (congrArg PortLayout.mk basePort) stride

/-- A value sets one layout only. -/
theorem IsSetBy.unique {value : Value} (isSet : layout.IsSetBy start value)
    (isSet' : layout'.IsSetBy start value) : layout = layout' := by
  -- A table and a sequence are different values, so both were set in the same way.
  cases isSet with
  | table ports =>
    cases isSet' with
    | table ports' => exact ports.unique ports'
  | array ports =>
    cases isSet' with
    | array ports' => exact ports.unique ports'

end PortLayout

/-! ### Settings -/

namespace ClusterConfig

/-- Settings are others with what entries tell in their place; a layout starts from the standard. -/
structure IsSetBy (config start : ClusterConfig) (entries : Entries) : Prop where
  appName : IsSet (entries.Holds "app_name") TextIs start.appName config.appName
  hostName : IsSet (entries.Holds "host_name") TextIs start.hostName config.hostName
  ports : IsSet (entries.Holds "ports") (fun value layout => layout.IsSetBy .standard value)
    start.ports config.ports
  retryMillis : IsSet (entries.Holds "replication_retry_ms") MillisIs start.retryMillis
    config.retryMillis

variable {config config' start next : ClusterConfig} {entries : Entries}

/-- An entry that is taken sets what it names. -/
theorem isSetBy_assign (entry : String × Value) (wellFormed : entry.2.WellFormed) :
    start.assign entry = .ok next → next.IsSetBy start [entry] := by
  -- By the key; an entry says nothing about the fields that other keys name.
  fun_cases start.assign entry with
  | case1 value =>
    intro taken
    obtain ⟨name, is, ⟨⟩⟩ := exists_of_bind taken
    exact ⟨.own (textIs_of_asText is), .other (by decide), .other (by decide), .other (by decide)⟩
  | case2 value =>
    intro taken
    obtain ⟨name, is, ⟨⟩⟩ := exists_of_bind taken
    exact ⟨.other (by decide), .own (textIs_of_asText is), .other (by decide), .other (by decide)⟩
  | case3 value =>
    intro taken
    obtain ⟨layout, is, ⟨⟩⟩ := exists_of_bind taken
    exact ⟨.other (by decide), .other (by decide), .own (PortLayout.isSetBy_ofValue wellFormed is),
      .other (by decide)⟩
  | case4 value =>
    intro taken
    obtain ⟨millis, is, ⟨⟩⟩ := exists_of_bind taken
    exact ⟨.other (by decide), .other (by decide), .other (by decide),
      .own (millisIs_of_asMillis is)⟩
  -- An unknown key is not taken at all.
  | case5 => nofun

/-- Entries that are taken set what they name. -/
theorem isSetBy_ofEntries (wellFormed : entries.WellFormed)
    (taken : ofEntries entries = .ok config) :
    config.IsSetBy standard entries := by
  -- Each field is followed through the walk on its own.
  have each (entry : String × Value) (member : entry ∈ entries) (state next : ClusterConfig)
      (step : state.assign entry = .ok next) : next.IsSetBy state [entry] :=
    isSetBy_assign entry (wellFormed.each entry member) step
  constructor
  · exact .of_foldlM wellFormed.distinct (fun e m s n step => (each e m s n step).appName) taken
  · exact .of_foldlM wellFormed.distinct (fun e m s n step => (each e m s n step).hostName) taken
  · exact .of_foldlM wellFormed.distinct (fun e m s n step => (each e m s n step).ports) taken
  · exact .of_foldlM wellFormed.distinct (fun e m s n step => (each e m s n step).retryMillis) taken

/-- Entries set one thing only. -/
theorem IsSetBy.unique (isSet : config.IsSetBy start entries)
    (isSet' : config'.IsSetBy start entries) : config = config' := by
  -- Field by field, since each is told by entries of its own.
  have appName := isSet.appName.unique isSet'.appName fun _ => TextIs.unique
  have hostName := isSet.hostName.unique isSet'.hostName fun _ => TextIs.unique
  have ports := isSet.ports.unique isSet'.ports fun _ => PortLayout.IsSetBy.unique
  have retryMillis := isSet.retryMillis.unique isSet'.retryMillis fun _ => MillisIs.unique
  cases config
  cases config'
  congr

/-- What well-formed entries set as the time to wait fits 64 bits. -/
theorem IsSetBy.retryMillis_lt (isSet : config.IsSetBy standard entries)
    (wellFormed : entries.WellFormed) :
    config.retryMillis < 0x8000000000000000 := by
  -- The time is told by an integer of the document, or it is the standard one.
  by_cases some : ∃ value, entries.Holds "replication_retry_ms" value
  · obtain ⟨value, held⟩ := some
    have is := isSet.retryMillis.told value held
    -- The integer stands in a well-formed document, so it fits 64 bits.
    have fits := wellFormed.each _ held
    cases is
    cases fits with
    | integer least most => exact Int.ofNat_lt.mp most
  · rw [isSet.retryMillis.kept fun value held => some ⟨value, held⟩]
    decide

end ClusterConfig

end PeerCluster
