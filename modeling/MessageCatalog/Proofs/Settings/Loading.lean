import Mathlib.Data.List.Basic
import MessageCatalog.Proofs.Settings.Overriding
import MessageCatalog.Proofs.Settings.Rules

/-!
Loading the settings, as a relation between the file that was asked for, the environment, the files
and what comes of it. One source is selected and what it holds is overridden and judged; no case
goes on to a second source. The rules judge the overridden settings only, so a field of the source
whose variable is set has no part in the outcome.
-/

namespace MessageCatalog.Settings

variable {tree : FileTree} {environment : Environment} {asked source : Option String}

/-- The source that counts: a file, or without one the defaults. -/
inductive Selects (tree : FileTree) (environment : Environment) :
    Option String → Option String → Prop where
  | asked {path : String} : Selects tree environment (some path) (some path)
  | named {path : String} (set : environment pathVariable = some path) :
      Selects tree environment none (some path)
  | yaml (unset : environment pathVariable = none) (present : tree.exists? "msgcat.yaml" = true) :
      Selects tree environment none (some "msgcat.yaml")
  | yml (unset : environment pathVariable = none) (absent : tree.exists? "msgcat.yaml" = false)
      (present : tree.exists? "msgcat.yml" = true) :
        Selects tree environment none (some "msgcat.yml")
  | defaults (unset : environment pathVariable = none) (absent : tree.exists? "msgcat.yaml" = false)
      (absent' : tree.exists? "msgcat.yml" = false) : Selects tree environment none none

theorem selects_iff :
    Selects tree environment asked source ↔ chooseFile? tree environment asked = source := by
  unfold chooseFile?
  constructor
  · intro selects
    cases selects with
    | asked => rfl
    | named set => simp [set]
    | yaml unset present => simp [unset, standardFiles, present]
    | yml unset absent present => simp [unset, standardFiles, absent, present]
    | defaults unset absent absent' => simp [unset, standardFiles, absent, absent']
  · intro chosen
    subst chosen
    cases asked with
    | some path => exact .asked
    | none =>
        cases set : environment pathVariable with
        | some path => exact .named set
        | none =>
            cases present : tree.exists? "msgcat.yaml" with
            | true => simpa [standardFiles, present] using Selects.yaml set present
            | false =>
                cases present' : tree.exists? "msgcat.yml" with
                | true =>
                    simpa [standardFiles, present, present'] using Selects.yml set present present'
                | false =>
                    simpa [standardFiles, present, present']
                      using Selects.defaults set present present'

/-- The settings that a source holds. -/
inductive Decodes (tree : FileTree) : Option String → Settings → Prop where
  | file {path text : String} {settings : Settings} (readable : tree.readText path = .ok text)
      (decoded : ofText? .yaml text = some settings) : Decodes tree (some path) settings
  | defaults : Decodes tree none standard

/-- How loading ends. -/
inductive Loads (tree : FileTree) (environment : Environment) (asked : Option String) :
    Except SettingsError Settings → Prop where
  | unreadable {path : String} {cause : ReadError}
      (selects : Selects tree environment asked (some path))
      (unreadable : tree.readText path = .error cause) :
        Loads tree environment asked (.error (.unreadable cause))
  | malformed {path text : String} (selects : Selects tree environment asked (some path))
      (readable : tree.readText path = .ok text) (malformed : ofText? .yaml text = none) :
      Loads tree environment asked (.error .malformed)
  | badOverride {source : Option String} {settings : Settings} {fault : OverrideFault}
      (selects : Selects tree environment asked source) (decodes : Decodes tree source settings)
      (bad : firstFault? environment = some fault) :
        Loads tree environment asked (.error (.badOverride fault))
  | invalid {source : Option String} {before after : Settings}
      (selects : Selects tree environment asked source) (decodes : Decodes tree source before)
      (overridden : Overridden environment before after)
      (invalid : ¬ after.Valid) : Loads tree environment asked (.error (.invalid after.violations))
  | loaded {source : Option String} {before after : Settings}
      (selects : Selects tree environment asked source) (decodes : Decodes tree source before)
      (overridden : Overridden environment before after)
      (valid : after.Valid) : Loads tree environment asked (.ok after)

section Source

theorem readSource_of_path {path : String} (selects : Selects tree environment asked (some path)) :
    readSource tree environment asked = readFile tree path := by
  rw [readSource, selects_iff.mp selects]

theorem readSource_of_decodes {settings : Settings}
    (selects : Selects tree environment asked source) (decodes : Decodes tree source settings) :
    readSource tree environment asked = .ok settings := by
  cases decodes with
  | file readable decoded =>
      rw [readSource_of_path selects, readFile]
      simp only [readable, decoded]
  | defaults => rw [readSource, selects_iff.mp selects]

end Source

section Override

theorem override_of_overridden {before after : Settings}
    (overridden : Overridden environment before after) :
    override environment before = .ok after := by
  rw [override, applyOverrides_eq_iff.mpr overridden]

theorem override_of_fault {fault : OverrideFault} (bad : firstFault? environment = some fault)
    (settings : Settings) :
    override environment settings = .error (.badOverride fault) := by
  rw [← applyOverrides_fault environment settings] at bad
  unfold override
  split
  · next success => simp [success] at bad
  · next failure =>
      rw [failure] at bad
      cases bad
      rfl

theorem fault_or_overridden (environment : Environment) (before : Settings) :
    (∃ fault, firstFault? environment = some fault) ∨
      ∃ after, Overridden environment before after := by
  rcases outcome : applyOverrides environment before with ⟨after, fault⟩
  cases fault with
  | none => exact .inr ⟨after, applyOverrides_eq_iff.mp outcome⟩
  | some fault =>
      left
      rw [← applyOverrides_fault environment before, outcome]
      exact ⟨fault, rfl⟩

end Override

theorem load_of_decodes {settings : Settings} (selects : Selects tree environment asked source)
    (decodes : Decodes tree source settings) :
    load tree environment asked = (override environment settings).bind check := by
  rw [load, readSource_of_decodes selects decodes]
  rfl

theorem load_of_loads {outcome : Except SettingsError Settings}
    (loads : Loads tree environment asked outcome) :
    load tree environment asked = outcome := by
  cases loads with
  | unreadable selects unreadable =>
      rw [load, readSource_of_path selects, readFile, unreadable]
      rfl
  | malformed selects readable malformed =>
      rw [load, readSource_of_path selects, readFile, readable]
      simp only [malformed]
      rfl
  | badOverride selects decodes bad =>
      rw [load_of_decodes selects decodes, override_of_fault bad]
      rfl
  | invalid selects decodes overridden invalid =>
      rw [load_of_decodes selects decodes, override_of_overridden overridden, Except.bind,
        check_eq, if_neg]
      exact fun none => invalid ((violations_eq_nil_iff _).mp none)
  | loaded selects decodes overridden valid =>
      rw [load_of_decodes selects decodes, override_of_overridden overridden, Except.bind,
        check_eq, if_pos]
      exact (violations_eq_nil_iff _).mpr valid

/-- Whatever the source holds, overriding and judging it comes to one of the outcomes. -/
theorem loads_of_decodes {settings : Settings} (selects : Selects tree environment asked source)
    (decodes : Decodes tree source settings) : ∃ outcome, Loads tree environment asked outcome := by
  obtain ⟨fault, bad⟩ | ⟨after, overridden⟩ := fault_or_overridden environment settings
  · exact ⟨_, .badOverride selects decodes bad⟩
  · by_cases valid : after.Valid
    · exact ⟨_, .loaded selects decodes overridden valid⟩
    · exact ⟨_, .invalid selects decodes overridden valid⟩

theorem loads_some (tree : FileTree) (environment : Environment) (asked : Option String) :
    ∃ outcome, Loads tree environment asked outcome := by
  have selects : Selects tree environment asked (chooseFile? tree environment asked) :=
    selects_iff.mpr rfl
  cases chosen : chooseFile? tree environment asked with
  | none => exact loads_of_decodes (chosen ▸ selects) .defaults
  | some path =>
      rw [chosen] at selects
      cases reading : tree.readText path with
      | error cause => exact ⟨_, .unreadable selects reading⟩
      | ok text =>
          cases decoding : ofText? .yaml text with
          | none => exact ⟨_, .malformed selects reading decoding⟩
          | some settings => exact loads_of_decodes selects (.file reading decoding)

theorem load_eq_iff {outcome : Except SettingsError Settings} :
    load tree environment asked = outcome ↔ Loads tree environment asked outcome := by
  constructor
  · intro loaded
    obtain ⟨other, loads⟩ := loads_some tree environment asked
    exact (load_of_loads loads).symm.trans loaded ▸ loads
  · exact load_of_loads

theorem override_congr {other : Environment}
    (same : ∀ name ∈ overrideVariables, environment name = other name) (settings : Settings) :
    override environment settings = override other settings := by
  rw [override, override, applyOverrides_congr same]

/-- Settings that differ only where variables are set are overridden alike. -/
theorem override_of_agree {left right : Settings} (agree : AgreeUnlessSet environment left right) :
    override environment left = override environment right := by
  obtain ⟨fault, bad⟩ | ⟨after, overridden⟩ := fault_or_overridden environment left
  · rw [override_of_fault bad, override_of_fault bad]
  · rw [override_of_overridden overridden, override_of_overridden (overridden.of_agree agree)]

/-- Loading takes the first source there is and nothing else, and of that source only what is not
overridden. -/
theorem load_from_first_source {tree : FileTree} {environment : Environment}
    {asked : Option String} :
    (∀ outcome, load tree environment asked = outcome ↔ Loads tree environment asked outcome) ∧
    ∀ {otherTree : FileTree} {otherEnvironment : Environment}
      {otherAsked source otherSource : Option String} {settings otherSettings : Settings},
      (∀ name ∈ overrideVariables, environment name = otherEnvironment name) →
      Selects tree environment asked source → Decodes tree source settings →
      Selects otherTree otherEnvironment otherAsked otherSource →
      Decodes otherTree otherSource otherSettings →
      AgreeUnlessSet environment settings otherSettings →
      load tree environment asked = load otherTree otherEnvironment otherAsked := by
  refine ⟨fun outcome => load_eq_iff, ?_⟩
  intro otherTree otherEnvironment otherAsked source otherSource settings otherSettings same
    selects decodes otherSelects otherDecodes agree
  rw [load_of_decodes selects decodes, load_of_decodes otherSelects otherDecodes,
    override_of_agree agree, override_congr same]

def tinyLimitText : String := "body_limit_bytes: 10\n"

def tinyLimitTree : FileTree := ⟨[(["msgcat.yaml"], tinyLimitText.toUTF8)], [], []⟩

def bareTree : FileTree := ⟨[], [], []⟩

def limitEnvironment : Environment :=
  fun name => if name = bodyLimitVariable then some "2048" else none

theorem tinyLimitText_decoded :
    ofText? .yaml tinyLimitText = some { standard with bodyLimit := 10 } := by
  decide +kernel

theorem tinyLimitTree_decodes :
    Decodes tinyLimitTree (some "msgcat.yaml") { standard with bodyLimit := 10 } := by
  have found : tinyLimitTree.find "msgcat.yaml" = .ok (.file tinyLimitText.toUTF8) := rfl
  exact .file (FileTree.readText_of_file found) tinyLimitText_decoded

theorem tinyLimit_agrees :
    AgreeUnlessSet limitEnvironment { standard with bodyLimit := 10 } standard where
  catalogIndex _ := rfl
  bindAddress _ := rfl
  bodyLimit unset := nomatch (show some "2048" = none from unset)
  level _ := rfl
  jsonFormat _ := rfl
  prettyFormat := rfl
  includeSpans := rfl
  includeTargets := rfl

theorem limitEnvironment_overridden :
    Overridden limitEnvironment standard { standard with bodyLimit := 2048 } where
  catalogIndex := .kept rfl
  bindAddress := .kept rfl
  bodyLimit := .given rfl rfl
  level := .kept rfl
  jsonFormat := .kept rfl
  prettyFormat := rfl
  includeSpans := rfl
  includeTargets := rfl

/-- A limit that breaks the rules, in a file, does not matter once it is overridden. -/
theorem load_from_first_source_tiny_limit :
    load tinyLimitTree limitEnvironment none = load bareTree limitEnvironment none ∧
      load bareTree limitEnvironment none = .ok { standard with bodyLimit := 2048 } := by
  have defaults : Selects bareTree limitEnvironment none none := .defaults rfl rfl rfl
  have valid : Valid { standard with bodyLimit := 2048 } := by
    rw [← violations_eq_nil_iff]
    decide +kernel
  exact ⟨load_from_first_source.2 (fun _ _ => rfl) (.yaml rfl rfl) tinyLimitTree_decodes
      defaults .defaults tinyLimit_agrees,
    (load_from_first_source.1 _).mpr (.loaded defaults .defaults limitEnvironment_overridden valid)⟩

end MessageCatalog.Settings
