import Mathlib.Data.List.Induction
import JavaLens.Session

/-!
# What an editor has been told

The diagnostics that an editor shows for a document are those that were last published for it. A
session keeps two things about a document apart: its text, and the trail of publications that it
left. This module shows that the two stay in step over every run, however often a document is
opened, changed, saved and closed, and whatever is asked in between.

## Main definitions

* `Session.after` and `Session.transcript` — the session that a run of messages leads to, and the
  messages of the run with the sessions that they found.
* `Session.accepted?` — the text that a message writes to a document.
* `Session.writes` and `Session.publications` — what a run wrote to a document and published for it.
* `Session.UpToDate` — whether the last publication for a document is that of its current text.

## Main statements

* `Session.effect` — what a single message can do to a document.
* `Session.publications_current` — after every run, what was last published is up to date.
-/

namespace JavaLens

namespace Session

/-! ## Runs -/

/-- The session that a run of messages leads to. -/
def after (s : Session) (messages : List Message) : Session :=
  messages.foldl (fun s message => (s.step message).session) s

/-- The messages of a run, each with the session that it found. -/
def transcript (s : Session) : List Message → List (Session × Message)
  | [] => []
  | message :: later => (s, message) :: transcript (s.step message).session later

/-- The text that a message writes to a document: that of an opened document, the last one of a
change, and the one that comes with saving a document which is open. -/
def accepted? (s : Session) (uri : String) : Message → Option String
  | .didOpen opened text _ => if opened = uri then some text else none
  | .didChange changed _ texts => if changed = uri then texts.getLast? else none
  | .didSave saved text => if saved = uri ∧ (s.documents.get? uri).isSome then text else none
  | _ => none

/-- The publications of a message that are addressed to a document. -/
def publishedTo (s : Session) (uri : String) (message : Message) : List Publication :=
  (s.step message).published.filter (·.uri = uri)

/-- The texts that a run wrote to a document. -/
def writes (s : Session) (uri : String) (messages : List Message) : List String :=
  (s.transcript messages).filterMap fun entry => entry.1.accepted? uri entry.2

/-- What a run published for a document. -/
def publications (s : Session) (uri : String) (messages : List Message) : List Publication :=
  (s.transcript messages).flatMap fun entry => entry.1.publishedTo uri entry.2

theorem after_append (s : Session) (earlier later : List Message) :
    s.after (earlier ++ later) = (s.after earlier).after later :=
  List.foldl_append

theorem transcript_append (s : Session) (earlier later : List Message) :
    s.transcript (earlier ++ later) =
      s.transcript earlier ++ (s.after earlier).transcript later := by
  induction earlier generalizing s with
  | nil => rfl
  | cons message earlier ih => simp [transcript, after, ih]

theorem writes_append (s : Session) (uri : String) (earlier later : List Message) :
    s.writes uri (earlier ++ later) =
      s.writes uri earlier ++ (s.after earlier).writes uri later := by
  simp [writes, transcript_append]

theorem publications_append (s : Session) (uri : String) (earlier later : List Message) :
    s.publications uri (earlier ++ later) =
      s.publications uri earlier ++ (s.after earlier).publications uri later := by
  simp [publications, transcript_append]

theorem writes_singleton (s : Session) (uri : String) (message : Message) :
    s.writes uri [message] = (s.accepted? uri message).toList := by
  cases h : s.accepted? uri message <;> simp [writes, transcript, h]

theorem publications_singleton (s : Session) (uri : String) (message : Message) :
    s.publications uri [message] = s.publishedTo uri message := by
  simp [publications, transcript]

theorem settings_step (s : Session) (message : Message) :
    (s.step message).session.settings = s.settings := by
  cases message <;> simp only [step, quiet, store, query] <;> split <;> rfl

theorem settings_after (s : Session) (messages : List Message) :
    (s.after messages).settings = s.settings := by
  induction messages generalizing s with
  | nil => rfl
  | cons message later ih => exact (ih _).trans (settings_step s message)

/-! ## A single message -/

/-- What a message can do to a document. -/
inductive Effect (s : Session) (uri : String) (message : Message) : Prop
  /-- A text is written and its diagnostics are published. -/
  | written (text : String) (version : Option Int)
      (accepted : s.accepted? uri message = some text)
      (stored : (s.step message).session.documents.get? uri = some text)
      (told : s.publishedTo uri message = [⟨uri, s.diagnose text, version⟩])
  /-- The diagnostics of the text that is there already are published once more. -/
  | repeated (text : String) (accepted : s.accepted? uri message = none)
      (before : s.documents.get? uri = some text)
      (stored : (s.step message).session.documents.get? uri = some text)
      (told : s.publishedTo uri message = [⟨uri, s.diagnose text, none⟩])
  /-- The document is closed and its diagnostics are withdrawn. -/
  | withdrawn (accepted : s.accepted? uri message = none)
      (stored : (s.step message).session.documents.get? uri = none)
      (told : s.publishedTo uri message = [⟨uri, [], none⟩])
  /-- The session ends and nothing is published. -/
  | ended (isShutdown : message = .shutdown)
      (stored : (s.step message).session.documents.get? uri = none)
      (told : s.publishedTo uri message = [])
  /-- The document is left alone. -/
  | spared (accepted : s.accepted? uri message = none)
      (stored : (s.step message).session.documents.get? uri = s.documents.get? uri)
      (told : s.publishedTo uri message = [])

/-- A query changes nothing and publishes nothing. -/
theorem session_query (s : Session) (uri : String) (absent : Reply)
    (answer : String → SyntaxTree → Reply) :
    (s.query uri absent answer).session = s ∧ (s.query uri absent answer).published = [] := by
  unfold query
  split <;> exact ⟨rfl, rfl⟩

theorem effect (s : Session) (uri : String) (message : Message) : Effect s uri message := by
  cases message with
  | connect | connected | didChangeConfiguration | didChangeWatchedFiles | resolve | execute =>
    exact .spared rfl rfl rfl
  | shutdown => exact .ended rfl rfl rfl
  | completion other | hover other | definition other | symbols other =>
    have quiet := s.session_query other
    exact .spared rfl (by simp [step, quiet]) (by simp [publishedTo, step, quiet])
  | didOpen opened text version =>
    by_cases h : opened = uri
    · subst h
      exact .written text (some version) (by simp [accepted?])
        (Documents.get?_put_self _ _ _) (by simp [publishedTo, step, store])
    · exact .spared (by simp [accepted?, h]) (Documents.get?_put_of_ne _ _ (Ne.symm h))
        (by simp [publishedTo, step, store, h])
  | didChange changed version texts =>
    cases last : texts.getLast? with
    | none =>
      exact .spared (by simp [accepted?, last]) (by simp [step, last, quiet])
        (by simp [publishedTo, step, last, quiet])
    | some text =>
      by_cases h : changed = uri
      · subst h
        exact .written text (some version) (by simp [accepted?, last])
          (by simp [step, last, store, Documents.get?_put_self])
          (by simp [publishedTo, step, last, store])
      · exact .spared (by simp [accepted?, h])
          (by simp [step, last, store, Documents.get?_put_of_ne _ _ (Ne.symm h)])
          (by simp [publishedTo, step, last, store, h])
  | didSave saved text =>
    cases before : s.documents.get? saved with
    | none =>
      exact .spared (by simp +contextual [accepted?]; grind) (by simp [step, before, quiet])
        (by simp [publishedTo, step, before, quiet])
    | some stored =>
      by_cases h : saved = uri
      · subst h
        cases text with
        | none =>
          exact .repeated stored (by simp [accepted?]) before
            (by simp [step, before, store, Documents.get?_put_self])
            (by simp [publishedTo, step, before, store])
        | some text =>
          exact .written text none (by simp [accepted?, before])
            (by simp [step, before, store, Documents.get?_put_self])
            (by simp [publishedTo, step, before, store])
      · exact .spared (by simp [accepted?, h])
          (by simp [step, before, store, Documents.get?_put_of_ne _ _ (Ne.symm h)])
          (by simp [publishedTo, step, before, store, h])
  | didClose closed =>
    by_cases h : closed = uri
    · subst h
      exact .withdrawn rfl (Documents.get?_remove_self _ _) (by simp [publishedTo, step])
    · exact .spared rfl (Documents.get?_remove_of_ne _ (Ne.symm h)) (by simp [publishedTo, step, h])

/-! ## Whole runs -/

/-- Whether a session ended in the course of a run, with nothing published for a document since. -/
def EndedSince (s : Session) (uri : String) (messages : List Message) : Prop :=
  ∃ earlier later, messages = earlier ++ .shutdown :: later ∧
    (s.after earlier).publications uri (.shutdown :: later) = []

/-- What was last published for a document is up to date. For an open document these are the
diagnostics of its text, which is the text that was last written to it. For any other, nothing was
ever published, or its diagnostics were withdrawn, or the session has ended since. -/
def UpToDate (s : Session) (uri : String) (messages : List Message) : Prop :=
  match (s.after messages).documents.get? uri with
  | some text =>
    (s.writes uri messages).getLast? = some text ∧
      ∃ version, (s.publications uri messages).getLast? =
        some ⟨uri, (SyntaxTree.ofSource text).diagnostics text s.settings.diagnostics, version⟩
  | none =>
    s.publications uri messages = [] ∨
      (∃ version, (s.publications uri messages).getLast? = some ⟨uri, [], version⟩) ∨
      s.EndedSince uri messages

/-- A message after which nothing new is published keeps an earlier end in place. -/
theorem EndedSince.concat {s : Session} {uri : String} {messages : List Message} {message : Message}
    (h : s.EndedSince uri messages) (told : (s.after messages).publishedTo uri message = []) :
    s.EndedSince uri (messages ++ [message]) := by
  obtain ⟨earlier, later, rfl, silent⟩ := h
  refine ⟨earlier, later ++ [message], by simp, ?_⟩
  rw [← List.cons_append, publications_append, silent, ← after_append, publications_singleton, told]
  rfl

theorem UpToDate.concat {s : Session} {uri : String} {messages : List Message}
    (h : s.UpToDate uri messages) (message : Message) : s.UpToDate uri (messages ++ [message]) := by
  have after_concat : s.after (messages ++ [message]) =
      ((s.after messages).step message).session := s.after_append messages [message]
  have writes_concat : s.writes uri (messages ++ [message]) =
      s.writes uri messages ++ ((s.after messages).accepted? uri message).toList := by
    rw [writes_append, writes_singleton]
  have told_concat : s.publications uri (messages ++ [message]) =
      s.publications uri messages ++ (s.after messages).publishedTo uri message := by
    rw [publications_append, publications_singleton]
  unfold UpToDate at h ⊢
  rw [after_concat, writes_concat, told_concat]
  cases effect (s.after messages) uri message with
  | written text version accepted stored told =>
    simp [stored, accepted, told, diagnose, settings_after]
  | repeated text accepted before stored told =>
    rw [before] at h
    simpa [stored, accepted, told, diagnose, settings_after] using h.1
  | withdrawn accepted stored told => simp [stored, told]
  | ended isShutdown stored told =>
    rw [stored]
    exact .inr (.inr ⟨messages, [], by rw [isShutdown], by
      rw [publications_singleton, ← isShutdown, told]⟩)
  | spared accepted stored told =>
    rw [stored, accepted, told]
    simp only [Option.toList_none, List.append_nil]
    split at h
    · exact h
    · exact h.imp_right (Or.imp_right fun ended => ended.concat told)

/-- After every run of messages to a new session, what the editor was last told about a document is
up to date. Every beginning of a run is itself a run, so this holds at all times. -/
theorem publications_current (settings : Settings) (messages : List Message) (uri : String) :
    (start settings).UpToDate uri messages := by
  induction messages using List.reverseRecOn with
  | nil => exact .inl rfl
  | append_singleton messages message upToDate => exact upToDate.concat message

end Session

end JavaLens
