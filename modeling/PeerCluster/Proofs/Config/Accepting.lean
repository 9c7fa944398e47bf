import PeerCluster.Proofs.Config.Faults
import PeerCluster.Proofs.Config.Setting

/-! Which texts are settings, what they set, and why all others are refused. -/

namespace PeerCluster

open Toml Toml.Value

/-- Reads texts as documents, with a reason if it refuses; the documents are well-formed. -/
structure Toml.Parser where
  parse : String → Except String Entries
  wellFormed : ∀ {text entries}, parse text = .ok entries → entries.WellFormed

/-- The parser that settings are read with, whose only reason is the syntax. -/
def Toml.Parser.own : Parser where
  parse text := (parse? text).elim (.error "<syntax>") .ok
  wellFormed {text entries} parsed := by
    cases found : parse? text with
    | none =>
      rw [found] at parsed
      cases parsed
    | some tree =>
      rw [found] at parsed
      obtain rfl := Except.ok.inj parsed
      exact wellFormed_of_parse? found

namespace ClusterConfig

/-- The settings that a text writes down for a parser, if they make sense. -/
def ofTextBy (parser : Parser) (text : String) : Except ClusterError ClusterConfig :=
  match parser.parse text with
  | .error detail => .error (unreadable detail)
  | .ok entries =>
    match ofEntries entries with
    | .error fault => .error (unreadable fault.detail)
    | .ok config => config.validate

/-- Settings are read with the parser of their own. -/
theorem ofTextBy_own (text : String) : ofTextBy .own text = ofText text := by
  have parsed : Parser.own.parse text = (parse? text).elim (.error "<syntax>") .ok := rfl
  unfold ofTextBy ofText
  rw [parsed]
  -- A text that is no document is refused for its syntax by both, and others are read alike.
  cases parse? text with
  | none => rfl
  | some entries => rfl

/-- What becomes of a text, given what the parser makes of it; earlier reasons come before later. -/
inductive Outcome : Except String Entries → Except ClusterError ClusterConfig → Prop where
  /-- The text is no document. -/
  | ungrammatical {reason : String} : Outcome (.error reason) (.error (unreadable reason))
  /-- Some entry is no setting, and the first such thing in the document is named. -/
  | unfit {entries : Entries} {fault : SchemaFault}
      (first : (documentFaults entries).head? = some fault) :
      Outcome (.ok entries) (.error (unreadable fault.detail))
  /-- The entries are settings, and with them the settings do not make sense. -/
  | senseless {entries : Entries} {config : ClusterConfig} {flaw : SettingFault}
      (each : ∀ entry ∈ entries, IsSetting entry) (isSet : config.IsSetBy standard entries)
      (first : config.flaws.head? = some flaw) :
      Outcome (.ok entries) (.error (.invalidConfig flaw.detail))
  /-- The entries are settings, and with them the settings make sense. -/
  | accepted {entries : Entries} {config : ClusterConfig}
      (each : ∀ entry ∈ entries, IsSetting entry) (isSet : config.IsSetBy standard entries)
      (valid : config.IsValid) : Outcome (.ok entries) (.ok config)

/-- What a parser makes of a text decides what becomes of it. -/
theorem outcome_ofTextBy (parser : Parser) (text : String) :
    Outcome (parser.parse text) (ofTextBy parser text) := by
  unfold ofTextBy
  cases parsed : parser.parse text with
  | error reason => exact .ungrammatical
  | ok entries =>
    have reports := reportsFirst_ofEntries entries
    dsimp only
    cases taken : ofEntries entries with
    -- The first fault of the document was answered.
    | error fault =>
      rw [taken] at reports
      exact .unfit reports
    | ok config =>
      rw [taken] at reports
      -- Every entry is a setting, so only what they come to can still be wrong.
      have each := documentFaults_eq_nil_iff.mp reports
      have isSet := isSetBy_ofEntries (parser.wellFormed parsed) taken
      simp only [validate, fault?_eq]
      cases found : config.flaws.head? with
      | none => exact .accepted each isSet (flaws_eq_nil_iff.mp (List.head?_eq_none_iff.mp found))
      | some flaw => exact .senseless each isSet found

/-- Something is wrong with a document of which not every entry is a setting. -/
theorem not_settings_of_fault {entries : Entries} {fault : SchemaFault}
    (first : (documentFaults entries).head? = some fault) :
    ¬ ∀ entry ∈ entries, IsSetting entry := by
  -- With nothing but settings there is no fault, so there is no first one.
  intro each
  rw [documentFaults_eq_nil_iff.mpr each] at first
  cases first

/-- Something is wrong with settings that make no sense. -/
theorem not_isValid_of_flaw {config : ClusterConfig} {flaw : SettingFault}
    (first : config.flaws.head? = some flaw) : ¬ config.IsValid := by
  -- With settings that make sense there is no flaw, so there is no first one.
  intro valid
  rw [flaws_eq_nil_iff.mpr valid] at first
  cases first

/-- Only one thing becomes of a text. -/
theorem Outcome.unique {parsed : Except String Entries}
    {answer answer' : Except ClusterError ClusterConfig} (outcome : Outcome parsed answer)
    (outcome' : Outcome parsed answer') : answer = answer' := by
  -- The reasons exclude each other, and what the entries set is the same both times.
  cases outcome with
  | ungrammatical =>
    cases outcome' with
    -- A text that is no document has no entries that anything else could become of.
    | ungrammatical => rfl
  | unfit first =>
    cases outcome' with
    | unfit first' => rw [Option.some.inj (first.symm.trans first')]
    | senseless each | accepted each => exact absurd each (not_settings_of_fault first)
  | senseless each isSet first =>
    -- The entries are settings, so no fault of the schema comes first.
    cases outcome' with
    | unfit fault => exact absurd each (not_settings_of_fault fault)
    | senseless _ isSet' first' =>
      obtain rfl := isSet.unique isSet'
      rw [Option.some.inj (first.symm.trans first')]
    | accepted _ isSet' valid =>
      obtain rfl := isSet.unique isSet'
      exact absurd valid (not_isValid_of_flaw first)
  -- The settings make sense, so what the entries set has no flaw.
  | accepted each isSet valid =>
    cases outcome' with
    | unfit fault => exact absurd each (not_settings_of_fault fault)
    | senseless _ isSet' first =>
      obtain rfl := isSet.unique isSet'
      exact absurd valid (not_isValid_of_flaw first)
    | accepted _ isSet' => rw [isSet.unique isSet']

/-- The order of entries makes no difference to whether they are accepted and as what. -/
theorem Outcome.perm {entries entries' : Entries} {config : ClusterConfig}
    (same : entries.Perm entries') (outcome : Outcome (.ok entries) (.ok config)) :
    Outcome (.ok entries') (.ok config) := by
  -- Each field is told by the entries under its key, wherever they stand.
  have held (key : String) (value : Value) :
      entries'.Holds key value ↔ entries.Holds key value := same.symm.mem_iff
  cases outcome with
  | accepted each isSet valid =>
    refine .accepted (fun entry member => each entry (same.mem_iff.mpr member)) ?_ valid
    exact ⟨isSet.appName.congr (held _), isSet.hostName.congr (held _),
      isSet.ports.congr (held _), isSet.retryMillis.congr (held _)⟩

/--
Texts are accepted exactly by schema and validation: whatever the parser does, a text comes to the
one outcome that the parsed entries have. What is accepted fits the types of the settings and does
not depend on the order of the entries, and the settings of a cluster are read in this way.
-/
theorem texts_accepted_as_settings (parser : Parser) (text : String) :
    (∀ answer, ofTextBy parser text = answer ↔ Outcome (parser.parse text) answer) ∧
    (∀ config, ofTextBy parser text = .ok config → config.retryMillis < 0x8000000000000000) ∧
    (∀ text' entries entries' config, parser.parse text = .ok entries →
      parser.parse text' = .ok entries' → entries.Perm entries' →
        ofTextBy parser text = .ok config → ofTextBy parser text' = .ok config) ∧
    ofTextBy .own text = ofText text := by
  have decided (text : String) (answer : Except ClusterError ClusterConfig) :
      ofTextBy parser text = answer ↔ Outcome (parser.parse text) answer :=
    ⟨fun same => same ▸ outcome_ofTextBy parser text, (outcome_ofTextBy parser text).unique⟩
  refine ⟨decided text, ?_, ?_, ofTextBy_own text⟩
  · intro config taken
    -- Only texts that are documents come to settings.
    have outcome := (decided text _).mp taken
    cases parsed : parser.parse text with
    -- This text is no document, so it was refused.
    | error reason =>
      rw [parsed] at outcome
      cases outcome
    | ok entries =>
      rw [parsed] at outcome
      cases outcome with
      -- What is accepted was set by well-formed entries, whose integers fit 64 bits.
      | accepted each isSet valid => exact isSet.retryMillis_lt (parser.wellFormed parsed)
  · intro text' entries entries' config parsed parsed' same taken
    -- The other text has the same outcome, and that decides what it comes to.
    have outcome := (decided text _).mp taken
    rw [parsed] at outcome
    rw [decided text', parsed']
    exact outcome.perm same

/-- A sequence of one item sets where the first block starts, and all else is standard. -/
theorem texts_accepted_as_settings_of_short_sequence :
    Outcome (Parser.own.parse "ports = [9000]") (.ok { standard with ports := ⟨9000, 10⟩ }) := by
  obtain ⟨decided, _, _, own⟩ := texts_accepted_as_settings .own "ports = [9000]"
  -- That this one text is accepted is computed, and the theorem turns it into its outcome.
  have taken : (ofText "ports = [9000]").toOption = some { standard with ports := ⟨9000, 10⟩ } := by
    decide +kernel
  rw [← decided, own]
  generalize ofText "ports = [9000]" = answer at taken
  cases answer with
  | error error => cases taken
  | ok config => exact congrArg Except.ok (Option.some.inj taken)

end ClusterConfig

end PeerCluster
