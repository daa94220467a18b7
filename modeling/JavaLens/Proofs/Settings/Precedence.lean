import JavaLens.Proofs.Settings.Key
import JavaLens.Startup
import Mathlib.Data.List.Basic
import Mathlib.Data.List.Induction
import Mathlib.Data.List.TakeWhile

/-!
# Rules of precedence

Settings come from layers by two rules of precedence. Files count in their order, each of them over
the defaults and the files before it, and change only what they set. Single values win over all
files wherever they stand, the last one for a setting over the earlier ones.

How untyped values are merged is the business of what assembles them. This module says what is asked
of it, one layer at a time, and proves from that alone that loading comes to the rules, setting by
setting: no layer hides more than it sets.

## Main definitions

* `Settings.Layer.fits` — a layer that sets single settings to values of their kinds.
* `Settings.chosen` — the value of a setting by the rules of precedence.
* `Settings.settled` — what loading comes to when all settings are chosen.
* `Settings.Assembles` — what is asked of a way to assemble untyped values from layers.
* `Startup.ranked` — the rules of precedence for the layers of the command line.

## Main statements

* `Settings.Assembles.yields_files`, `Settings.Assembles.yields_values` — what files and single
  values come to.
* `Settings.Assembles.precedence` — loading follows the rules of precedence, however untyped values
  are assembled.
-/

namespace JavaLens

namespace Text

/-- A text is blank if nothing is left of it once it is trimmed. -/
theorem isBlank_eq_isEmpty_trim (s : String) : isBlank s = (trim s.toList).isEmpty := by
  have left : trim s.toList = [] ↔ ∀ c ∈ s.toList.dropWhile isBlankChar, isBlankChar c := by
    simp [trim, List.dropWhile_eq_nil_iff]
  rw [Bool.eq_iff_iff, List.isEmpty_iff, left, isBlank, List.all_eq_true]
  constructor
  · exact fun blank c mem => blank c ((List.dropWhile_sublist _).subset mem)
  · intro blank c mem
    -- What is not left is blank because it was dropped.
    rw [← List.takeWhile_append_dropWhile (p := isBlankChar) (l := s.toList)] at mem
    rcases List.mem_append.1 mem with dropped | kept
    · exact List.mem_takeWhile_imp dropped
    · exact blank c kept

end Text

namespace Settings

variable {files : String → Option String} {layers : List Layer} {choice : Choice}

/-! ## Rules of precedence -/

/-- The value that the file for a path sets a setting to, if there is such a file. -/
def Key.inFile? (files : String → Option String) (path : String) (k : Key) : Option k.Kind :=
  (locate? files path).bind fun (_, contents) => (entries? contents).bind k.inTable?

/-- The value that a layer sets a setting to if it is a file. -/
def Key.filed? (files : String → Option String) (k : Key) : Layer → Option k.Kind
  | .file path _ => k.inFile? files path
  | .value _ _ => none

/-- The value that a layer sets a setting to if it is a single value. -/
def Key.given? (k : Key) : Layer → Option k.Kind
  | .file _ _ => none
  | .value key v => if key = k.text then k.ofValue? v.value else none

/-- The path of a file that must exist and does not. -/
def Layer.absent? (files : String → Option String) : Layer → Option String
  | .file path true => if (locate? files path).isNone then some path else none
  | _ => none

/-- Whether a layer is a file and not a single value. -/
def Layer.isFile : Layer → Bool
  | .file _ _ => true
  | .value _ _ => false

/-- Whether a layer sets settings only, to values of their kinds: any number of them in a file,
which need not exist, and just one with a single value. -/
def Layer.fits (files : String → Option String) : Layer → Bool
  | .file path _ => (locate? files path).all fun (_, contents) => (entries? contents).any setsOnly
  | .value key v => Key.all.any fun k => key = k.text ∧ (k.ofValue? v.value).isSome

/-- The value of a setting: that of the last single value for it, or else that of the last file that
sets it, or else the default. -/
def chosen (files : String → Option String) (layers : List Layer) : Choice := fun k =>
  ((layers.filterMap k.given?).getLast?.or (layers.filterMap (k.filed? files)).getLast?).getD
    (k.get defaults)

/-- What loading comes to when every setting has its value: an error if a file is missing that must
exist, or if the source or else the filter is blank once it is trimmed, and otherwise the settings
with these values. -/
def settled (files : String → Option String) (layers : List Layer) (choice : Choice) :
    Except LoadError Settings :=
  match layers.findSome? (Layer.absent? files) with
  | some path => .error (.fileNotFound path)
  | none =>
    if (Text.trim (choice .source).toList).isEmpty then .error .emptyDiagnosticsSource
    else if (Text.trim (choice .filter).toList).isEmpty then .error .emptyLogFilter
    else .ok ⟨⟨choice .name⟩, ⟨choice .source, choice .publishWarnings⟩, ⟨choice .filter⟩⟩

/-! ## Assembling -/

/-- Whether untyped values could be assembled, and hold a choice. -/
def Yields (assembled : Except LoadError Setting) (choice : Choice) : Prop :=
  ∃ s, assembled = .ok s ∧ Holds s choice

/-- What is asked of a way to assemble untyped values from layers that set settings only. -/
structure Assembles (files : String → Option String)
    (assemble : List Layer → Except LoadError Setting) : Prop where
  /-- Without any layer there are the defaults. -/
  starts_with_defaults : Yields (assemble []) fun k => k.get defaults
  /-- Files are merged in the order in which they were added: each over the ones before it. -/
  merges_in_order {sources : List Layer} {source : Layer} {choice : Choice}
    (only : ∀ layer ∈ sources ++ [source], layer.isFile)
    (fits : ∀ layer ∈ sources ++ [source], layer.fits files)
    (present : source.absent? files = none) (before : Yields (assemble sources) choice) :
    Yields (assemble (sources ++ [source])) fun k => (k.filed? files source).getD (choice k)
  /-- A file that must exist and does not is an error, whatever comes behind it. -/
  stops_at_missing {sources more : List Layer} {source : Layer} {path : String} {choice : Choice}
    (only : ∀ layer ∈ sources, layer.isFile)
    (fits : ∀ layer ∈ sources ++ source :: more, layer.fits files)
    (absent : source.absent? files = some path) (before : Yields (assemble sources) choice) :
    assemble (sources ++ source :: more) = .error (.fileNotFound path)
  /-- Single values are applied last: they may stand behind all files as well. -/
  overrides_last (layers : List Layer) :
    assemble layers = assemble (layers.filter (·.isFile) ++ layers.filter (!·.isFile))
  /-- A single value that is applied last sets its own setting. -/
  overrides {layers : List Layer} {value : Layer} {choice : Choice} (single : !value.isFile)
    (fits : ∀ layer ∈ layers ++ [value], layer.fits files)
    (before : Yields (assemble layers) choice) :
    Yields (assemble (layers ++ [value])) fun k => (k.given? value).getD (choice k)

theorem Yields.of_eq {assembled : Except LoadError Setting} {other : Choice}
    (h : Yields assembled choice) (same : ∀ k, other k = choice k) : Yields assembled other := by
  obtain ⟨s, assembled, holds⟩ := h
  exact ⟨s, assembled, holds.of_eq same⟩

/-- One more layer counts over those in front of it. -/
theorem getLast?_filterMap_concat {α : Type} (f : Layer → Option α) (layers : List Layer)
    (layer : Layer) (missing : α) :
    ((layers ++ [layer]).filterMap f).getLast?.getD missing =
      (f layer).getD ((layers.filterMap f).getLast?.getD missing) := by
  rw [List.filterMap_append, List.getLast?_append]
  cases h : f layer <;> simp [h]

/-- What is left out may be left out before. -/
theorem filterMap_filter_of_silent {α β : Type} {f : α → Option β} {p : α → Bool}
    (silent : ∀ a, p a = false → f a = none) (l : List α) :
    (l.filter p).filterMap f = l.filterMap f := by
  rw [List.filterMap_filter]
  refine List.filterMap_congr fun a _ => ?_
  cases h : p a <;> simp [silent, h]

/-- Only files may be missing. -/
theorem findSome?_absent?_filter (files : String → Option String) (layers : List Layer) :
    (layers.filter (·.isFile)).findSome? (Layer.absent? files) =
      layers.findSome? (Layer.absent? files) := by
  rw [← List.head?_filterMap, ← List.head?_filterMap, filterMap_filter_of_silent]
  rintro (_ | _) h
  · cases h
  · rfl

theorem Key.filterMap_filed?_filter (k : Key) (layers : List Layer) :
    (layers.filter (·.isFile)).filterMap (k.filed? files) = layers.filterMap (k.filed? files) := by
  refine filterMap_filter_of_silent ?_ layers
  rintro (_ | _) h
  · cases h
  · rfl

theorem Key.filterMap_given?_filter (k : Key) (layers : List Layer) :
    (layers.filter (!·.isFile)).filterMap k.given? = layers.filterMap k.given? := by
  refine filterMap_filter_of_silent ?_ layers
  rintro (_ | _) h
  · rfl
  · cases h

namespace Assembles

variable {assemble : List Layer → Except LoadError Setting} {sources values : List Layer}

/-- The last file that sets a setting counts, and else the default. -/
theorem yields_files (h : Assembles files assemble) (only : ∀ layer ∈ sources, layer.isFile)
    (fits : ∀ layer ∈ sources, layer.fits files)
    (present : ∀ layer ∈ sources, layer.absent? files = none) :
    Yields (assemble sources) fun k =>
      (sources.filterMap (k.filed? files)).getLast?.getD (k.get defaults) := by
  induction sources using List.reverseRecOn with
  | nil => exact h.starts_with_defaults
  | append_singleton sources source ih =>
    obtain ⟨presentBefore, presentLast⟩ := List.forall_mem_append.1 present
    have before :=
      ih (List.forall_mem_append.1 only).1 (List.forall_mem_append.1 fits).1 presentBefore
    have merged := h.merges_in_order only fits (presentLast _ List.mem_cons_self) before
    exact merged.of_eq fun k => getLast?_filterMap_concat ..

/-- The last single value for a setting counts, and else what there was before. -/
theorem yields_values (h : Assembles files assemble) (before : Yields (assemble sources) choice)
    (single : ∀ layer ∈ values, !layer.isFile)
    (fits : ∀ layer ∈ sources ++ values, layer.fits files) :
    Yields (assemble (sources ++ values)) fun k =>
      (values.filterMap k.given?).getLast?.getD (choice k) := by
  induction values using List.reverseRecOn with
  | nil => rwa [List.append_nil]
  | append_singleton values value ih =>
    rw [← List.append_assoc] at fits ⊢
    obtain ⟨singleBefore, singleLast⟩ := List.forall_mem_append.1 single
    have before := ih singleBefore (List.forall_mem_append.1 fits).1
    have overridden := h.overrides (singleLast _ List.mem_cons_self) fits before
    exact overridden.of_eq fun k => getLast?_filterMap_concat ..

end Assembles

/-! ## Loading -/

theorem validate_eq (s : Settings) :
    validate s =
      if (Text.trim s.diagnostics.source.toList).isEmpty then .error .emptyDiagnosticsSource
      else if (Text.trim s.logging.filter.toList).isEmpty then .error .emptyLogFilter
      else .ok s := by
  simp only [validate, Text.isBlank_eq_isEmpty_trim]

theorem Holds.ofValues {s : Setting} (h : Holds s choice) :
    Settings.ofValues s =
      if (Text.trim (choice .source).toList).isEmpty then .error .emptyDiagnosticsSource
      else if (Text.trim (choice .filter).toList).isEmpty then .error .emptyLogFilter
      else .ok ⟨⟨choice .name⟩, ⟨choice .source, choice .publishWarnings⟩, ⟨choice .filter⟩⟩ := by
  simp only [Settings.ofValues, h.decode, validate_eq]

/-- Layers that set settings only are loaded by the rules of precedence, however their untyped
values are assembled. -/
theorem Assembles.ofValues_eq {assemble : List Layer → Except LoadError Setting}
    (h : Assembles files assemble) (fits : ∀ layer ∈ layers, layer.fits files) :
    (assemble layers >>= ofValues) = settled files layers (chosen files layers) := by
  have only : ∀ layer ∈ layers.filter (·.isFile), layer.isFile :=
    fun layer mem => (List.mem_filter.1 mem).2
  have single : ∀ layer ∈ layers.filter (!·.isFile), !layer.isFile :=
    fun layer mem => (List.mem_filter.1 mem).2
  have fits : ∀ layer ∈ layers.filter (·.isFile) ++ layers.filter (!·.isFile),
      layer.fits files :=
    List.forall_mem_append.2 ⟨fun layer mem => fits layer (List.mem_filter.1 mem).1,
      fun layer mem => fits layer (List.mem_filter.1 mem).1⟩
  rw [h.overrides_last, settled, ← findSome?_absent?_filter]
  cases missing : (layers.filter (·.isFile)).findSome? (Layer.absent? files) with
  | some path =>
    -- All files in front of the first one that is missing are merged.
    obtain ⟨front, source, more, split, absent, present⟩ := List.findSome?_eq_some_iff.1 missing
    rw [split] at only
    rw [split, List.append_assoc, List.cons_append] at fits ⊢
    have onlyFront := (List.forall_mem_append.1 only).1
    have before := h.yields_files onlyFront (List.forall_mem_append.1 fits).1 present
    rw [h.stops_at_missing onlyFront fits absent before]
    rfl
  | none =>
    have before := h.yields_files only (List.forall_mem_append.1 fits).1
      (List.findSome?_eq_none_iff.1 missing)
    obtain ⟨s, assembled, holds⟩ := h.yields_values before single fits
    have holds : Holds s (chosen files layers) := holds.of_eq fun k => by
      rw [chosen, k.filterMap_given?_filter, k.filterMap_filed?_filter, Option.getD_or]
    rw [assembled]
    exact holds.ofValues

end Settings

/-! ## The command line -/

namespace Startup

open Settings

/-- The value that the log level on the command line gives for a setting. -/
def ofLogLevel? (options : CommandLine.Options) : (k : Key) → Option k.Kind
  | .filter => options.logLevel
  | .name | .source | .publishWarnings => none

/-- The value of a setting on the command line: that of the log level, or else that of the file on
the command line, or else that of the file in the working directory, or else the default. -/
def ranked (files : String → Option String) (options : CommandLine.Options) : Choice := fun k =>
  (ofLogLevel? options k).getD
    ((options.config.bind fun path => k.inFile? files path).getD
      ((k.inFile? files workspaceFile).getD (k.get defaults)))

theorem given?_logLevel (k : Key) (config : Option String) (filter : String) :
    k.given? (.value "logging.filter" (.given (.text filter))) =
      ofLogLevel? ⟨config, some filter⟩ k := by
  cases k <;> simp [Key.given?, Key.text, Key.group, Section.key, Key.field, Setting.given,
    Setting.value, Key.ofValue?, ofLogLevel?]

/-- The last of what is made from the layers of the command line. -/
theorem getLast?_filterMap_layers {α : Type} (f : Layer → Option α)
    (options : CommandLine.Options) :
    ((layers options).filterMap f).getLast? =
      (options.logLevel.bind fun filter =>
          f (.value "logging.filter" (.given (.text filter)))).or
        ((options.config.bind fun path => f (.file path true)).or
          (f (.file workspaceFile false))) := by
  have single (layer : Layer) : ([layer].filterMap f).getLast? = f layer := by
    cases h : f layer <;> simp [h]
  obtain ⟨config, logLevel⟩ := options
  rw [layers, List.filterMap_append, List.getLast?_append, List.filterMap_append,
    List.getLast?_append, single]
  cases config <;> cases logLevel <;> simp only [Option.map_none, Option.map_some,
    Option.toList_none, Option.toList_some, single, Option.bind_none, Option.bind_some,
    List.filterMap_nil, List.getLast?_nil, Option.none_or]

/-- The layers of the command line are in the order of their rank. -/
theorem chosen_layers (files : String → Option String) (options : CommandLine.Options) :
    chosen files (layers options) = ranked files options := by
  funext k
  obtain ⟨config, logLevel⟩ := options
  have given : (logLevel.bind fun filter =>
      k.given? (.value "logging.filter" (.given (.text filter)))) =
        ofLogLevel? ⟨config, logLevel⟩ k := by
    cases logLevel with
    | none => cases k <;> rfl
    | some filter => exact given?_logLevel k config filter
  rw [chosen, ranked, getLast?_filterMap_layers, getLast?_filterMap_layers, given]
  simp [Key.given?, Key.filed?, Option.getD_or]

end Startup

/-- Loading follows the rules of precedence, however untyped values are assembled: layers that set
settings only come to the values chosen by these rules, single values may be moved past files, and
the layers of the command line count by their rank. -/
theorem Settings.Assembles.precedence {files : String → Option String}
    {assemble : List Layer → Except LoadError Setting} (h : Assembles files assemble) :
    (∀ layers : List Layer, (∀ layer ∈ layers, layer.fits files) →
      (assemble layers >>= ofValues) = settled files layers (chosen files layers)) ∧
    (∀ layers moved : List Layer, moved.filter (·.isFile) = layers.filter (·.isFile) →
      moved.filter (!·.isFile) = layers.filter (!·.isFile) →
      (assemble moved >>= ofValues) = assemble layers >>= ofValues) ∧
    (∀ options, (∀ layer ∈ Startup.layers options, layer.fits files) →
      (assemble (Startup.layers options) >>= ofValues) =
        settled files (Startup.layers options) (Startup.ranked files options)) := by
  refine ⟨fun layers fits => h.ofValues_eq fits, ?_, fun options fits => ?_⟩
  · intro layers moved sameFiles sameValues
    rw [h.overrides_last moved, h.overrides_last layers, sameFiles, sameValues]
  · rw [h.ofValues_eq fits, Startup.chosen_layers]

end JavaLens
