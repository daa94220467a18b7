import JavaLens.Settings.Layer
import Mathlib.Logic.Function.Basic

/-!
# Single settings

The settings of a server are four values, each in a group and of a kind of its own. Untyped values
hold a choice of the four if each of them stands in the table of its group. This module shows how
the operations on untyped values change such a choice: what is assigned is chosen, and all else
stays as it was.

## Main definitions

* `Settings.Key` — the single settings, with the kinds of their values.
* `Settings.Holds` — untyped values that hold a choice of all settings.
* `Settings.Key.inTable?`, `Settings.setsOnly` — what a table of a file sets, and whether it sets
  nothing but settings.

## Main statements

* `Settings.Holds.decode` — what untyped values hold is what they are read as.
* `Settings.Holds.overlay` — a file changes the settings that it sets.
* `Settings.Holds.set` — a single value changes its own setting.
-/

namespace JavaLens.Settings

/-! ## Keys -/

/-- The single settings. -/
inductive Key where
  | name
  | source
  | publishWarnings
  | filter
deriving DecidableEq, Repr

namespace Key

/-- The keys in order. -/
def all : List Key := [name, source, publishWarnings, filter]

/-- The group of a setting. -/
def group : Key → Section
  | name => .server
  | source | publishWarnings => .diagnostics
  | filter => .logging

/-- The name of a setting in its group. -/
def field : Key → String
  | name => "name"
  | source => "source"
  | publishWarnings => "publish_warnings"
  | filter => "filter"

/-- The key in full. -/
def text (k : Key) : String := k.group.key ++ "." ++ k.field

/-- The way to a setting. -/
def path (k : Key) : KeyPath := ⟨k.group.key, [.child k.field]⟩

/-- What a setting is: a truth value or a text. -/
@[reducible] def Kind : Key → Type
  | publishWarnings => Bool
  | name | source | filter => String

/-- The value of a setting in complete settings. -/
def get (s : Settings) : (k : Key) → k.Kind
  | name => s.server.name
  | source => s.diagnostics.source
  | publishWarnings => s.diagnostics.publishWarnings
  | filter => s.logging.filter

/-- The untyped value of a setting. -/
def value : (k : Key) → k.Kind → Setting.Value
  | publishWarnings, b => .bool b
  | name, s | source, s | filter, s => .text s

/-- The value of a setting that an untyped value of the right kind stands for. -/
def ofValue? : (k : Key) → Setting.Value → Option k.Kind
  | publishWarnings, .bool b => some b
  | name, .text s | source, .text s | filter, .text s => some s
  | _, _ => none

/-- The value of a setting that a value of a file of the right kind stands for. -/
def ofToml? : (k : Key) → Toml → Option k.Kind
  | publishWarnings, .bool b => some b
  | name, .string s | source, .string s | filter, .string s => some s
  | _, _ => none

variable {j k : Key}

theorem ofValue?_eq_some {v : Setting.Value} {x : k.Kind} (h : k.ofValue? v = some x) :
    v = k.value x := by
  cases k <;> cases v <;> cases h <;> rfl

@[simp] theorem ofValue?_value (k : Key) (x : k.Kind) : k.ofValue? (k.value x) = some x := by
  cases k <;> rfl

theorem ofToml_of_ofToml? {t : Toml} {x : k.Kind} (h : k.ofToml? t = some x)
    (origin : Option String) : Setting.ofToml origin t = .mk origin (k.value x) := by
  cases k <;> cases t <;> cases h <;> rfl

/-- A setting is told by its group and its name there. -/
theorem eq_of_field (hgroup : j.group = k.group) (hfield : j.field = k.field) : j = k := by
  cases j <;> cases k <;> simp_all [group, field]

theorem path_inj : j.path = k.path ↔ j = k := by cases j <;> cases k <;> decide

theorem lowerCase_field (k : Key) : Text.lowerCase k.field = k.field := by
  cases k <;> decide +kernel

/-- A value of the right kind is no table, so it takes the place of the old one. -/
theorem assign_field (k : Key) (origin : Option String) (x : k.Kind) (group : Setting) :
    Setting.assign k.field (.mk origin (k.value x)) group =
      Setting.setEntry k.field (.mk origin (k.value x)) group := by
  cases k <;> simp only [value, Setting.assign, lowerCase_field]

theorem parse?_text (k : Key) : KeyPath.parse? k.text = some k.path := by cases k <;> decide +kernel

end Key

namespace Section

variable {g g' : Section}

/-- The groups in order. -/
def all : List Section := [server, diagnostics, logging]

theorem key_inj : g.key = g'.key ↔ g = g' := by cases g <;> cases g' <;> decide

theorem lowerCase_key (g : Section) : Text.lowerCase g.key = g.key := by cases g <;> decide +kernel

theorem ofKey_key (g : Section) : KeyPath.ofKey g.key = ⟨g.key, []⟩ := by cases g <;> decide +kernel

/-- Every group has a setting. -/
theorem exists_key (g : Section) : ∃ k : Key, k.group = g := by
  cases g with
  | server => exact ⟨.name, rfl⟩
  | diagnostics => exact ⟨.source, rfl⟩
  | logging => exact ⟨.filter, rfl⟩

end Section

/-! ## Choices -/

/-- A value for each setting. -/
abbrev Choice := (k : Key) → k.Kind

/-- Whether untyped values hold a choice: each setting stands in the table of its group. -/
def Holds (s : Setting) (choice : Choice) : Prop :=
  ∀ k : Key, ∃ origin entries place,
    s.get? k.group.key = some (.mk origin (.table entries)) ∧
      (Setting.mk origin (.table entries)).get? k.field = some (.mk place (k.value (choice k)))

theorem holds_defaultValues : Holds defaultValues fun k => k.get defaults := by
  intro k
  cases k <;> exact ⟨_, _, _, rfl, rfl⟩

theorem sectionOf_eq_ok {s group : Setting} {g : Section} (h : s.get? g.key = some group) :
    sectionOf g s = .ok group := by
  rw [sectionOf, h, present]

theorem field_eq_ok {α : Type} {decode : String → Setting → Except Misfit α} {name : String}
    {origin : Option String} {entries : List (String × Setting)} {v : Setting} {x : α} {g : Section}
    {place : Nat} (found : (Setting.mk origin (.table entries)).get? name = some v)
    (fits : ∀ key, decode key v = .ok x) :
    field g name place decode (.mk origin (.table entries)) = .ok (some x) := by
  show ((Setting.mk origin (.table entries)).get? name).mapM (decode (g.key ++ "." ++ name)) = _
  rw [found]
  show some <$> decode (g.key ++ "." ++ name) v = _
  rw [fits]
  rfl

namespace Holds

variable {s t : Setting} {choice : Choice} {g : Section}

/-- Values that agree under each key hold the same. -/
theorem congr (h : Holds s choice) (same : ∀ key, t.get? key = s.get? key) : Holds t choice := by
  intro k
  rw [same]
  exact h k

theorem of_eq {other : Choice} (h : Holds s choice) (same : ∀ k, other k = choice k) :
    Holds s other := by
  rwa [funext same]

/-- Values hold one choice at most. -/
theorem unique {other : Choice} (h : Holds s choice) (h' : Holds s other) : choice = other := by
  funext k
  obtain ⟨_, _, _, group, field⟩ := h k
  obtain ⟨_, _, _, group', field'⟩ := h' k
  obtain ⟨rfl, rfl⟩ : _ ∧ _ := by simpa using group.symm.trans group'
  obtain ⟨-, value⟩ : _ ∧ _ := by simpa using field.symm.trans field'
  exact Option.some.inj (by rw [← k.ofValue?_value, value, k.ofValue?_value])

/-- The table of a group. -/
theorem exists_group (h : Holds s choice) (g : Section) : ∃ group, s.get? g.key = some group := by
  obtain ⟨k, rfl⟩ := g.exists_key
  obtain ⟨_, _, _, found, _⟩ := h k
  exact ⟨_, found⟩

/-- What is read from untyped values is what they hold. -/
theorem decode (h : Holds s choice) :
    Settings.decode s = .ok ⟨⟨choice .name⟩, ⟨choice .source, choice .publishWarnings⟩,
      ⟨choice .filter⟩⟩ := by
  obtain ⟨_, _, _, server, name⟩ := h .name
  obtain ⟨_, _, _, diagnostics, source⟩ := h .source
  obtain ⟨_, _, _, diagnostics', publishWarnings⟩ := h .publishWarnings
  obtain ⟨_, _, _, logging, filter⟩ := h .filter
  obtain ⟨rfl, rfl⟩ : _ ∧ _ := by simpa using diagnostics.symm.trans diagnostics'
  have server : sectionOf .server s = .ok _ := sectionOf_eq_ok server
  have diagnostics : sectionOf .diagnostics s = .ok _ := sectionOf_eq_ok diagnostics
  have logging : sectionOf .logging s = .ok _ := sectionOf_eq_ok logging
  have name : field .server "name" 0 decodeText _ = .ok (some (choice .name)) :=
    field_eq_ok name fun _ => rfl
  have source : field .diagnostics "source" 0 decodeText _ = .ok (some (choice .source)) :=
    field_eq_ok source fun _ => rfl
  have publishWarnings : field .diagnostics "publish_warnings" 1 decodeTruth _ =
      .ok (some (choice .publishWarnings)) := field_eq_ok publishWarnings fun _ => rfl
  have filter : field .logging "filter" 0 decodeText _ = .ok (some (choice .filter)) :=
    field_eq_ok filter fun _ => rfl
  simp [Settings.decode, server, diagnostics, logging, decodeServer, decodeDiagnostics,
    decodeLogging, name, source, publishWarnings, filter, present, bind, Except.bind, pure,
    Except.pure]

/-- Putting back the table of a group changes nothing. -/
theorem setEntry_self (h : Holds s choice) (g : Section) (missing : Setting) :
    Holds (Setting.setEntry g.key ((s.get? g.key).getD missing) s) choice := by
  obtain ⟨group, found⟩ := h.exists_group g
  refine h.congr fun key => ?_
  by_cases same : key = g.key
  · rw [same, Setting.get?_setEntry_self, found, Option.getD_some]
  · exact Setting.get?_setEntry_of_ne same _ _

/-- A value put into the table of a group is the only setting that changes. -/
theorem setEntry_field {group : Setting} {k : Key}
    (h : Holds (Setting.setEntry k.group.key group s) choice) (origin : Option String)
    (x : k.Kind) :
    Holds (Setting.setEntry k.group.key
        (Setting.setEntry k.field (.mk origin (k.value x)) group) s)
      (Function.update choice k x) := by
  intro j
  by_cases hgroup : j.group = k.group
  · rw [hgroup, Setting.get?_setEntry_self]
    by_cases hfield : j.field = k.field
    · obtain rfl := Key.eq_of_field hgroup hfield
      refine ⟨_, _, origin, rfl, ?_⟩
      rw [Function.update_self]
      exact Setting.get?_setEntry_self _ _ _
    · -- Another setting of the same group is found where it was.
      obtain ⟨_, _, place, found, value⟩ := h j
      rw [hgroup, Setting.get?_setEntry_self, Option.some.injEq] at found
      subst found
      refine ⟨_, _, place, rfl, ?_⟩
      have other : j ≠ k := fun same => hfield (congrArg Key.field same)
      rw [Function.update_of_ne other, ← value]
      exact Setting.get?_setEntry_of_ne hfield _ _
  · have other : j ≠ k := fun same => hgroup (congrArg Key.group same)
    have apart : j.group.key ≠ k.group.key := fun same => hgroup (Section.key_inj.1 same)
    have before := h j
    rw [Setting.get?_setEntry_of_ne apart] at before ⊢
    rwa [Function.update_of_ne other]

/-- A single value changes its own setting. -/
theorem set (h : Holds s choice) (k : Key) (origin : Option String) (x : k.Kind) :
    Holds (k.path.set (.mk origin (k.value x)) s) (Function.update choice k x) := by
  have put := (h.setEntry_self k.group (.given .nothing)).setEntry_field origin x
  simpa only [KeyPath.set, Key.path, KeyPath.setFrom, Section.lowerCase_key, Key.assign_field]
    using put

end Holds

/-! ## Tables of files -/

/-- Whether a value of a file is a table that sets settings of a group, each of them at most once
and to a value of its kind, and nothing else. -/
def Section.isSetBy (g : Section) : Toml → Bool
  | .table fields =>
    (fields.map (·.1)).Nodup ∧ fields.all fun (name, v) =>
      Key.all.any fun k => k.group = g ∧ k.field = name ∧ (k.ofToml? v).isSome
  | _ => false

/-- Whether the table of a file sets settings, each of them at most once and to a value of its kind,
and nothing else. -/
def setsOnly (entries : List (String × Toml)) : Bool :=
  (entries.map (·.1)).Nodup ∧ entries.all fun (key, v) =>
    Section.all.any fun g => g.key = key ∧ g.isSetBy v

/-- The value that the table of a file sets a setting to. -/
def Key.inTable? (k : Key) (entries : List (String × Toml)) : Option k.Kind :=
  match entries.lookup k.group.key with
  | some (.table fields) => (fields.lookup k.field).bind k.ofToml?
  | _ => none

variable {s group : Setting} {choice : Choice} {g : Section} {key : String} {v : Toml}
  {fields entries : List (String × Toml)}

/-- Whether the fields of a table are settings of a group, of the right kinds. -/
def Section.AllOf (g : Section) (fields : List (String × Toml)) : Prop :=
  ∀ name v, (name, v) ∈ fields → ∃ k : Key, ∃ x, k.group = g ∧ k.field = name ∧ k.ofToml? v = some x

theorem Section.exists_fields (h : g.isSetBy v) :
    ∃ fields, v = .table fields ∧ (fields.map (·.1)).Nodup ∧ g.AllOf fields := by
  cases v with
  | table fields =>
    simp only [isSetBy, List.all_eq_true, List.any_eq_true, Bool.decide_and, Bool.and_eq_true,
      decide_eq_true_eq, Option.isSome_iff_exists] at h
    refine ⟨fields, rfl, h.1, fun name v mem => ?_⟩
    obtain ⟨k, -, hgroup, hfield, x, fits⟩ := h.2 _ mem
    exact ⟨k, x, hgroup, hfield, fits⟩
  | _ => cases h

theorem lookup_eq_none {key : String} (h : key ∉ entries.map (·.1)) :
    entries.lookup key = none := by
  refine List.lookup_eq_none_iff.2 fun entry mem => bne_iff_ne.2 ?_
  rintro rfl
  exact h (List.mem_map_of_mem mem)

/-- Fields merged into the table of a group change the settings that they set. -/
theorem Holds.assignAll (origin : Option String) (distinct : (fields.map (·.1)).Nodup)
    (fits : g.AllOf fields) (h : Holds (Setting.setEntry g.key group s) choice) :
    Holds (Setting.setEntry g.key (Setting.assignAll (Setting.ofTomlEntries origin fields) group) s)
      fun k => if k.group = g then ((fields.lookup k.field).bind k.ofToml?).getD (choice k)
        else choice k := by
  induction fields generalizing group choice with
  | nil => simpa [Setting.ofTomlEntries, Setting.assignAll] using h
  | cons f rest ih =>
    obtain ⟨name, v⟩ := f
    obtain ⟨k, x, rfl, rfl, value⟩ := fits _ _ (.head _)
    obtain ⟨new, distinct⟩ := List.nodup_cons.1 distinct
    have assigned : Setting.assign k.field (Setting.ofToml origin v) group =
        Setting.setEntry k.field (.mk origin (k.value x)) group := by
      rw [Key.ofToml_of_ofToml? value, Key.assign_field]
    have merged := ih distinct (fun name v mem => fits name v (.tail _ mem))
      (h.setEntry_field origin x)
    rw [Setting.ofTomlEntries, Setting.assignAll, assigned]
    refine merged.of_eq fun j => ?_
    by_cases same : j = k
    · -- No later field sets the same setting once more.
      subst same
      simp [value, lookup_eq_none new]
    · have apart (hgroup : j.group = k.group) : (j.field == k.field) = false := by
        simpa using fun hfield => same (Key.eq_of_field hgroup hfield)
      grind [Function.update_of_ne]

/-- A file changes the settings that it sets. -/
theorem Holds.overlay (origin : String) (fits : setsOnly entries) (h : Holds s choice) :
    Holds (Settings.overlay origin entries s) fun k => (k.inTable? entries).getD (choice k) := by
  simp only [setsOnly, List.all_eq_true, List.any_eq_true, Bool.decide_and, Bool.and_eq_true,
    decide_eq_true_eq] at fits
  obtain ⟨distinct, fits⟩ := fits
  induction entries generalizing s choice with
  | nil => exact h
  | cons e rest ih =>
    obtain ⟨key, v⟩ := e
    obtain ⟨g, -, rfl, set⟩ := fits _ (.head _)
    obtain ⟨fields, rfl, distinctFields, allOf⟩ := Section.exists_fields set
    obtain ⟨new, distinct⟩ := List.nodup_cons.1 distinct
    have merged :=
      (h.setEntry_self g Setting.emptyTable).assignAll (some origin) distinctFields allOf
    have step : (KeyPath.ofKey g.key).set (.ofToml (some origin) (.table fields)) s =
        Setting.setEntry g.key (Setting.assignAll (Setting.ofTomlEntries (some origin) fields)
          ((s.get? g.key).getD Setting.emptyTable)) s := by
      simp only [Section.ofKey_key, KeyPath.set, KeyPath.setFrom, Setting.ofToml, Setting.assign,
        Section.lowerCase_key]
    simp only [Settings.overlay, List.foldl_cons, step]
    refine (ih merged distinct fun e mem => fits e (.tail _ mem)).of_eq fun j => ?_
    by_cases same : j.group = g
    · -- No later table is that of the same group.
      subst same
      simp [Key.inTable?, lookup_eq_none new]
    · have apart : (j.group.key == g.key) = false := by
        simpa using fun hkey => same (Section.key_inj.1 hkey)
      simp [Key.inTable?, List.lookup_cons, apart, same]

end JavaLens.Settings
