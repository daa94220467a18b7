import JavaLens.Proofs.Settings.Precedence

/-!
# Which layer decides a setting

The untyped values of layers are assembled in two passes, one over the files and one over the single
values, in which a value makes earlier ones for the same key void. This module proves that the two
passes come to what the rules of precedence ask for, layer by layer, so that settings are loaded by
these rules.

## Main definitions

* `Settings.Key.lastIn` — the last value for a setting among single values.
* `Settings.AllFit` — single values that are for settings, and of their kinds.

## Main statements

* `Settings.assembles` — untyped values are assembled as the rules of precedence ask.
* `Settings.layers_precedence` — loading follows the rules of precedence.
-/

namespace JavaLens

namespace Settings

variable {files : String → Option String} {layers : List Layer} {s : Setting} {choice : Choice}

/-! ## Single values -/

/-- The value that a single value gives for a setting. -/
def Key.ofPair? (k : Key) (p : KeyPath × Setting) : Option k.Kind :=
  if p.1 = k.path then k.ofValue? p.2.value else none

/-- The last value for a setting among single values. -/
def Key.lastIn (k : Key) (values : List (KeyPath × Setting)) : Option k.Kind :=
  (values.filterMap k.ofPair?).getLast?

/-- Whether each of some single values is for a setting, and of its kind. -/
def AllFit (values : List (KeyPath × Setting)) : Prop :=
  ∀ p ∈ values, ∃ k : Key, ∃ origin x, p = (k.path, .mk origin (k.value x))

variable {values : List (KeyPath × Setting)} {k : Key}

theorem Key.ofPair?_self (k : Key) (origin : Option String) (x : k.Kind) :
    k.ofPair? (k.path, .mk origin (k.value x)) = some x := by
  simp [ofPair?, Setting.value]

theorem Key.ofPair?_of_ne {j : Key} (h : j ≠ k) (v : Setting) : j.ofPair? (k.path, v) = none := by
  simp [ofPair?, path_inj, h.symm]

/-- Leaving out the values for one setting leaves the others as they were. -/
theorem Key.filterMap_ofPair?_filter {j : Key} (h : j ≠ k) (values : List (KeyPath × Setting)) :
    (values.filter (·.1 ≠ k.path)).filterMap j.ofPair? = values.filterMap j.ofPair? := by
  refine filterMap_filter_of_silent (fun p void => ?_) values
  have same : p.1 = k.path := by simpa using void
  simp [ofPair?, same, path_inj, h.symm]

/-- A value makes earlier ones for the same setting void, and no other. -/
theorem Key.lastIn_concat (j : Key) (origin : Option String) (x : k.Kind)
    (values : List (KeyPath × Setting)) :
    j.lastIn (values.filter (·.1 ≠ k.path) ++ [(k.path, .mk origin (k.value x))]) =
      Function.update (fun j => j.lastIn values) k (some x) j := by
  by_cases same : j = k
  · subst same
    simp [lastIn, ofPair?_self]
  · rw [lastIn, List.filterMap_append, filterMap_ofPair?_filter same, Function.update_of_ne same]
    simp [lastIn, ofPair?_of_ne same]

theorem Holds.overlayValues (fit : AllFit values) (h : Holds s choice) :
    Holds (Settings.overlayValues values s) fun k => (k.lastIn values).getD (choice k) := by
  induction values generalizing s choice with
  | nil => exact h
  | cons p rest ih =>
    obtain ⟨k, origin, x, rfl⟩ := fit _ (.head _)
    have later := ih (fun p mem => fit p (.tail _ mem)) (h.set k origin x)
    refine later.of_eq fun j => ?_
    by_cases same : j = k
    · subst same
      simp [Key.lastIn, Key.ofPair?_self, List.getLast?_cons]
    · simp [Key.lastIn, Key.ofPair?_of_ne same, Function.update_of_ne same]

theorem Layer.exists_key_of_fits {key : String} {v : Setting} (h : (Layer.value key v).fits files) :
    ∃ k : Key, ∃ origin x, key = k.text ∧ v = .mk origin (k.value x) := by
  simp only [fits, List.any_eq_true, Bool.decide_and, Bool.and_eq_true, decide_eq_true_eq,
    Option.isSome_iff_exists] at h
  obtain ⟨k, -, same, x, fits⟩ := h
  obtain ⟨origin, value⟩ := v
  exact ⟨k, origin, x, same, congrArg _ (Key.ofValue?_eq_some fits)⟩

/-- A value of a layer makes the earlier ones for its key void. -/
theorem givenValues_value (k : Key) (done : List (KeyPath × Setting)) (v : Setting) :
    givenValues done [.value k.text v] = .ok (done.filter (·.1 ≠ k.path) ++ [(k.path, v)]) := by
  rw [givenValues, Key.parse?_text]
  rfl

theorem AllFit.concat (h : AllFit values) (origin : Option String) (x : k.Kind) :
    AllFit (values.filter (·.1 ≠ k.path) ++ [(k.path, .mk origin (k.value x))]) := by
  intro p mem
  rcases List.mem_append.1 mem with kept | new
  · exact h p (List.mem_filter.1 kept).1
  · exact ⟨k, origin, x, List.mem_singleton.1 new⟩

theorem givenValues_append (done : List (KeyPath × Setting)) (layers more : List Layer) :
    givenValues done (layers ++ more) =
      givenValues done layers >>= fun values => givenValues values more := by
  induction layers generalizing done with
  | nil => rfl
  | cons layer rest ih =>
    cases layer with
    | file path required => exact ih done
    | value key v =>
      simp only [List.cons_append, givenValues]
      cases KeyPath.parse? key with
      | none => rfl
      | some path => exact ih _

/-- The single values among layers that fit are taken, and fit. -/
theorem exists_givenValues (fits : ∀ layer ∈ layers, layer.fits files) :
    ∃ values, givenValues [] layers = .ok values ∧ AllFit values := by
  induction layers using List.reverseRecOn with
  | nil => exact ⟨[], rfl, fun _ mem => nomatch mem⟩
  | append_singleton layers layer ih =>
    obtain ⟨values, given, fit⟩ := ih (List.forall_mem_append.1 fits).1
    rw [givenValues_append, given]
    cases layer with
    | file path required => exact ⟨values, rfl, fit⟩
    | value key v =>
      obtain ⟨k, origin, x, rfl, rfl⟩ := Layer.exists_key_of_fits (fits (.value key v) (by simp))
      exact ⟨_, givenValues_value k values _, fit.concat origin x⟩

/-- What the value of a layer sets. -/
theorem Key.given?_value (j k : Key) (origin : Option String) (x : k.Kind) (choice : Choice) :
    (j.given? (.value k.text (.mk origin (k.value x)))).getD (choice j) =
      Function.update choice k x j := by
  by_cases same : j = k
  · subst same
    simp [given?, Setting.value]
  · have apart : k.text ≠ j.text := fun text => by
      have := k.parse?_text.symm.trans (text ▸ j.parse?_text)
      exact same (path_inj.1 (Option.some.inj this)).symm
    simp [given?, apart, Function.update_of_ne same]

/-! ## Files -/

/-- A file that fits and exists changes the settings that it sets. -/
theorem Holds.overlayFile {path : String} {required : Bool} {file : String × String}
    (fits : (Layer.file path required).fits files) (found : locate? files path = some file)
    (h : Holds s choice) :
    ∃ s', Settings.overlayFile files path required s = .ok s' ∧
      Holds s' fun k => (k.inFile? files path).getD (choice k) := by
  obtain ⟨name, contents⟩ := file
  simp only [Layer.fits, found, Option.all_some] at fits
  cases read : entries? contents with
  | none => simp [read] at fits
  | some entries =>
    rw [read, Option.any_some] at fits
    refine ⟨Settings.overlay name entries s, ?_, ?_⟩
    · simp only [Settings.overlayFile, found, read]
    · refine (h.overlay name fits).of_eq fun k => ?_
      simp [Key.inFile?, found, read]

/-- A layer that is not missing is put over untyped values, and changes the settings that it sets as
a file. -/
theorem Holds.overlayLayer {layer : Layer} (fits : layer.fits files)
    (present : layer.absent? files = none) (h : Holds s choice) :
    ∃ s', overlayFiles files [layer] s = .ok s' ∧
      Holds s' fun k => (k.filed? files layer).getD (choice k) := by
  cases layer with
  | value key v => exact ⟨s, rfl, h⟩
  | file path required =>
    cases found : locate? files path with
    | some file =>
      obtain ⟨s', overlaid, holds⟩ := h.overlayFile fits found
      refine ⟨s', ?_, holds⟩
      rw [overlayFiles, overlaid]
      rfl
    | none =>
      cases required with
      | true => simp [Layer.absent?, found] at present
      | false =>
        refine ⟨s, ?_, h.of_eq fun k => by simp [Key.filed?, Key.inFile?, found]⟩
        simp [overlayFiles, Settings.overlayFile, found, bind, Except.bind]

theorem overlayFiles_of_absent {layer : Layer} {path : String}
    (absent : layer.absent? files = some path) (more : List Layer) (s : Setting) :
    overlayFiles files (layer :: more) s = .error (.fileNotFound path) := by
  obtain ⟨file, _ | _⟩ | _ := layer
  · cases absent
  · cases found : locate? files file with
    | some _ => simp [Layer.absent?, found] at absent
    | none =>
      obtain rfl : file = path := by simpa [Layer.absent?, found] using absent
      simp [overlayFiles, overlayFile, found, bind, Except.bind]
  · cases absent

theorem overlayFiles_append (files : String → Option String) (layers more : List Layer)
    (s : Setting) :
    overlayFiles files (layers ++ more) s =
      overlayFiles files layers s >>= overlayFiles files more := by
  induction layers generalizing s with
  | nil => rfl
  | cons layer rest ih =>
    cases layer with
    | value key v => exact ih s
    | file path required =>
      simp only [List.cons_append, overlayFiles]
      cases overlayFile files path required s with
      | error cause => rfl
      | ok t => exact ih t

/-- Untyped values that hold a choice still hold one under the files of layers that fit. -/
theorem Holds.overlayFiles {s' : Setting} (fits : ∀ layer ∈ layers, layer.fits files)
    (h : Holds s choice) (loaded : Settings.overlayFiles files layers s = .ok s') :
    ∃ later, Holds s' later := by
  induction layers generalizing s choice with
  | nil =>
    obtain rfl := Except.ok.inj loaded
    exact ⟨choice, h⟩
  | cons layer rest ih =>
    cases absent : layer.absent? files with
    | some path =>
      rw [overlayFiles_of_absent absent] at loaded
      cases loaded
    | none =>
      obtain ⟨t, overlaid, holds⟩ := h.overlayLayer (fits _ (.head _)) absent
      rw [← List.singleton_append, overlayFiles_append, overlaid] at loaded
      exact ih (fun layer mem => fits layer (.tail _ mem)) holds loaded

/-! ## Assembling -/

/-- Single values are taken from the layers as if there were no files. -/
theorem givenValues_filter (done : List (KeyPath × Setting)) (layers : List Layer) :
    givenValues done layers = givenValues done (layers.filter (!·.isFile)) := by
  induction layers generalizing done with
  | nil => rfl
  | cons layer rest ih =>
    cases layer with
    | file path required => exact ih done
    | value key v =>
      simp only [Layer.isFile, List.filter_cons, givenValues, Bool.not_false, if_true]
      split
      · exact ih _
      · rfl

/-- Files are taken from the layers as if there were no single values. -/
theorem overlayFiles_filter (files : String → Option String) (layers : List Layer) (s : Setting) :
    overlayFiles files layers s = overlayFiles files (layers.filter (·.isFile)) s := by
  induction layers generalizing s with
  | nil => rfl
  | cons layer rest ih =>
    cases layer with
    | value key v => exact ih s
    | file path required =>
      simp only [Layer.isFile, List.filter_cons, overlayFiles, if_true]
      cases overlayFile files path required s with
      | error cause => rfl
      | ok t => exact ih t

/-- Only the order among files and the order among single values count. -/
theorem assemble_of_same_order {moved : List Layer}
    (sameFiles : moved.filter (·.isFile) = layers.filter (·.isFile))
    (sameValues : moved.filter (!·.isFile) = layers.filter (!·.isFile)) :
    assemble files moved = assemble files layers := by
  rw [assemble, assemble, givenValues_filter, sameValues, ← givenValues_filter]
  simp only [overlayFiles_filter files moved, sameFiles, ← overlayFiles_filter]

/-- Once the single values are taken, they are put over what comes of the files. -/
theorem assemble_eq_ok_iff {s : Setting} (given : givenValues [] layers = .ok values) :
    assemble files layers = .ok s ↔
      ∃ t, overlayFiles files layers defaultValues = .ok t ∧ overlayValues values t = s := by
  rw [assemble, given]
  cases overlayFiles files layers defaultValues <;>
    simp [bind, Except.bind, pure, Except.pure]

/-- A single value behind layers that fit sets its own setting. -/
theorem Yields.value (h : Yields (assemble files layers) choice)
    (fits : ∀ layer ∈ layers, layer.fits files) (k : Key) (origin : Option String) (x : k.Kind) :
    Yields (assemble files (layers ++ [.value k.text (.mk origin (k.value x))]))
      (Function.update choice k x) := by
  obtain ⟨s, assembled, holds⟩ := h
  obtain ⟨values, given, fit⟩ := exists_givenValues fits
  obtain ⟨t, loaded, rfl⟩ := (assemble_eq_ok_iff given).1 assembled
  obtain ⟨filed, kept⟩ := holds_defaultValues.overlayFiles fits loaded
  -- With and without the new value, the last values for each setting are put over the files.
  obtain rfl := holds.unique (kept.overlayValues fit)
  refine ⟨_, (assemble_eq_ok_iff ?given).2 ⟨t, ?loaded, rfl⟩,
    (kept.overlayValues (fit.concat origin x)).of_eq fun j => ?same⟩
  case given =>
    rw [givenValues_append, given]
    exact givenValues_value k values _
  case loaded =>
    rw [overlayFiles_append, loaded]
    rfl
  case same =>
    rw [Key.lastIn_concat]
    by_cases own : j = k
    · subst own
      simp
    · simp [Function.update_of_ne own]

/-- Untyped values are assembled as the rules of precedence ask. -/
theorem assembles (files : String → Option String) : Assembles files (assemble files) := by
  have ofFiles {sources : List Layer} (only : ∀ layer ∈ sources, layer.isFile) :
      givenValues [] sources = .ok [] := by
    rw [givenValues_filter, List.filter_eq_nil_iff.2 fun layer mem => by simp [only layer mem]]
    rfl
  constructor
  case starts_with_defaults => exact ⟨defaultValues, rfl, holds_defaultValues⟩
  case merges_in_order =>
    rintro sources source choice only fits present ⟨s, assembled, holds⟩
    have before := ofFiles (List.forall_mem_append.1 only).1
    obtain ⟨t, loaded, rfl⟩ := (assemble_eq_ok_iff before).1 assembled
    obtain ⟨s', overlaid, holds⟩ := holds.overlayLayer (fits source (by simp)) present
    refine ⟨s', (assemble_eq_ok_iff (ofFiles only)).2 ⟨s', ?_, rfl⟩, holds⟩
    rw [overlayFiles_append, loaded]
    exact overlaid
  case stops_at_missing =>
    rintro sources more source path choice only fits absent ⟨s, assembled, -⟩
    obtain ⟨values, given, -⟩ := exists_givenValues fits
    obtain ⟨t, loaded, -⟩ := (assemble_eq_ok_iff (ofFiles only)).1 assembled
    have stopped : (Except.ok t >>= overlayFiles files (source :: more)) = .error _ :=
      overlayFiles_of_absent absent more t
    rw [assemble, given, overlayFiles_append, loaded, stopped]
    rfl
  case overrides_last =>
    intro layers
    refine assemble_of_same_order ?_ ?_ <;> simp [List.filter_append, List.filter_filter]
  case overrides =>
    intro layers value choice single fits before
    cases value with
    | file path required => cases single
    | value key v =>
      obtain ⟨k, origin, x, rfl, rfl⟩ := Layer.exists_key_of_fits (fits (.value key v) (by simp))
      have set := before.value (List.forall_mem_append.1 fits).1 k origin x
      exact set.of_eq fun j => j.given?_value k origin x choice

/-- Loading follows the rules of precedence. Let every layer set settings only, to values of their
kinds. Then a file that must exist and does not is an error. Otherwise each setting has the value of
the last single value for it, or else of the last file that sets it, or else the default, and these
are the settings, unless the source or else the filter is blank. So single values may be moved past
files, and on the command line the log level ranks over the given file, this one over the file in
the working directory, and that one over the defaults. -/
theorem layers_precedence (files : String → Option String) :
    (∀ layers : List Layer, (∀ layer ∈ layers, layer.fits files) →
      load files layers = settled files layers (chosen files layers)) ∧
    (∀ layers moved : List Layer, moved.filter (·.isFile) = layers.filter (·.isFile) →
      moved.filter (!·.isFile) = layers.filter (!·.isFile) →
      load files moved = load files layers) ∧
    (∀ options, (∀ layer ∈ Startup.layers options, layer.fits files) →
      load files (Startup.layers options) =
        settled files (Startup.layers options) (Startup.ranked files options)) :=
  (assembles files).precedence

/-- A file in the working directory and one for the command line. -/
def twoFiles (path : String) : Option String :=
  if path = "java-lsp.toml" then
    some "[diagnostics]\nsource = \"javac\"\npublish_warnings = false\n"
  else if path = "user.toml" then some "[diagnostics]\nsource = \"ecj\"\n"
  else none

theorem layers_precedence_of_two_files :
    let values := [.value "logging.filter" (.given (.text "debug"))]
    let files := [.file "java-lsp.toml" false, .file "user.toml" true]
    let options := ⟨some "user.toml", some "debug"⟩
    (∀ layer ∈ files ++ values, layer.fits twoFiles) ∧
    load twoFiles (files ++ values) = .ok ⟨⟨"java-lsp"⟩, ⟨"ecj", false⟩, ⟨"debug"⟩⟩ ∧
    load twoFiles (values ++ files) = load twoFiles (files ++ values) ∧
    load twoFiles (Startup.layers options) =
      settled twoFiles (files ++ values) (Startup.ranked twoFiles options) := by
  intro values files options
  have facts : (∀ layer ∈ files ++ values, layer.fits twoFiles) ∧
      (files ++ values).findSome? (Layer.absent? twoFiles) = none ∧
      chosen twoFiles (files ++ values) .name = "java-lsp" ∧
      chosen twoFiles (files ++ values) .source = "ecj" ∧
      chosen twoFiles (files ++ values) .publishWarnings = false ∧
      chosen twoFiles (files ++ values) .filter = "debug" := by decide +kernel
  obtain ⟨fits, present, name, source, warnings, filter⟩ := facts
  obtain ⟨loads, moves, ranks⟩ := layers_precedence twoFiles
  refine ⟨fits, ?_, moves (files ++ values) (values ++ files) rfl rfl, ranks options fits⟩
  rw [loads _ fits, settled, present]
  simp only [name, source, warnings, filter]
  rfl

end Settings

end JavaLens
