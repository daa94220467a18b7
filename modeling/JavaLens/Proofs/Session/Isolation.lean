import JavaLens.Proofs.Session.Publications

/-!
# Documents do not interfere

A session keeps all open documents in one place, and the messages of an editor arrive in any order.
Still, what becomes of a document depends only on the messages that concern it: those that open,
change, save or close this very document, and the end of the session. All other messages, queries
included, can be taken out of a run without a trace.

The proof compares two sessions that look alike from one document. A message that does not concern
the document leads from a session to one that looks alike, a message that does concern it keeps two
sessions alike and makes them publish the same, and sessions that look alike give the same answers.

## Main definitions

* `Session.Message.concerns`, `Session.concerning` — the messages that concern a document.
* `Session.Query`, `Session.answer` — the queries about a document and what is replied to them.
* `Session.Alike` — two sessions that look alike from a document.

## Main statements

* `Session.Alike.run` — runs from sessions that look alike differ only by what is taken out.
* `Session.unaffected_by_other_messages` — a document is unaffected by what does not concern it.
-/

namespace JavaLens

namespace Session

/-! ## What concerns a document -/

/-- Whether a message concerns a document: it opens, changes, saves or closes it, or it ends the
session and so closes all documents. -/
def Message.concerns (uri : String) : Message → Bool
  | .didOpen other _ _ | .didChange other _ _ | .didSave other _ | .didClose other => other = uri
  | .shutdown => true
  | _ => false

/-- The messages of a run that concern a document. -/
def concerning (uri : String) (messages : List Message) : List Message :=
  messages.filter (·.concerns uri)

/-- What an editor may ask about a document. -/
inductive Query where
  | completion
  | hover (position : Editor.Position)
  | definition (position : Editor.Position)
  | symbols
deriving Repr

/-- The message that asks something about a document. -/
def Query.message (uri : String) : Query → Message
  | .completion => .completion uri
  | .hover position => .hover uri position
  | .definition position => .definition uri position
  | .symbols => .symbols uri

/-- The reply to a query about a document. -/
def answer (s : Session) (uri : String) (query : Query) : Reply :=
  (s.step (query.message uri)).reply

/-! ## Sessions that look alike -/

/-- Two sessions look alike from a document if they have the same settings and the same text for
it. Nothing is said about any other document. -/
structure Alike (uri : String) (s t : Session) : Prop where
  settings : s.settings = t.settings
  stored : s.documents.get? uri = t.documents.get? uri

variable {uri : String} {s t : Session} {message : Message}

theorem Alike.refl (uri : String) (s : Session) : Alike uri s s := ⟨rfl, rfl⟩

theorem Alike.trans {u : Session} (h : Alike uri s t) (k : Alike uri t u) : Alike uri s u :=
  ⟨h.settings.trans k.settings, h.stored.trans k.stored⟩

theorem Alike.symm (h : Alike uri s t) : Alike uri t s := ⟨h.settings.symm, h.stored.symm⟩

theorem Alike.diagnose (h : Alike uri s t) (text : String) : s.diagnose text = t.diagnose text := by
  simp only [Session.diagnose, h.settings]

/-- Storing a text under the same address keeps sessions alike and publishes the same. -/
theorem Alike.store (h : Alike uri s t) (text : String) (version : Option Int) :
    Alike uri (s.store uri text version).session (t.store uri text version).session ∧
      (s.store uri text version).published = (t.store uri text version).published := by
  refine ⟨⟨h.settings, ?_⟩, ?_⟩
  · simp only [Session.store, Documents.get?_put_self]
  · simp only [Session.store, h.diagnose]

/-- A message that does not concern a document leaves it alone. -/
theorem Alike.step_of_not_concerns (s : Session) (h : ¬ message.concerns uri) :
    Alike uri s (s.step message).session ∧ s.publishedTo uri message = [] := by
  have settings := (settings_step s message).symm
  cases effect s uri message with
  | spared _ stored told => exact ⟨⟨settings, stored.symm⟩, told⟩
  | ended isShutdown =>
    subst isShutdown
    exact absurd rfl h
  | written text version accepted =>
    -- Only messages about this document write to it.
    cases message <;> grind [accepted?, Message.concerns]
  | repeated text accepted before stored told | withdrawn accepted stored told =>
    -- Something is published for this document, so the message is about it.
    cases message <;> grind [publishedTo, step, quiet, Session.store, query, Message.concerns]

/-- A message that concerns a document does the same to it in sessions that look alike. -/
theorem Alike.step (h : Alike uri s t) (concerned : message.concerns uri) :
    Alike uri (s.step message).session (t.step message).session ∧
      s.publishedTo uri message = t.publishedTo uri message := by
  cases message with
  | shutdown => exact ⟨⟨h.settings, rfl⟩, rfl⟩
  | didOpen other text version =>
    obtain rfl : other = uri := by simpa [Message.concerns] using concerned
    obtain ⟨alike, same⟩ := h.store text (some version)
    exact ⟨alike, congrArg (List.filter _) same⟩
  | didChange other version texts =>
    obtain rfl : other = uri := by simpa [Message.concerns] using concerned
    simp only [publishedTo, Session.step]
    split
    · rename_i text _
      obtain ⟨alike, same⟩ := h.store text (some version)
      exact ⟨alike, congrArg (List.filter _) same⟩
    · exact ⟨h, rfl⟩
  | didSave other text =>
    obtain rfl : other = uri := by simpa [Message.concerns] using concerned
    simp only [publishedTo, Session.step, h.stored]
    split
    · rename_i stored _
      obtain ⟨alike, same⟩ := h.store (text.getD stored) none
      exact ⟨alike, congrArg (List.filter _) same⟩
    · exact ⟨h, rfl⟩
  | didClose other =>
    obtain rfl : other = uri := by simpa [Message.concerns] using concerned
    refine ⟨⟨h.settings, ?_⟩, rfl⟩
    simp only [Session.step, Documents.get?_remove_self]
  | _ => exact absurd concerned (by simp [Message.concerns])

/-- Sessions that look alike give the same answers. -/
theorem Alike.answer (h : Alike uri s t) (query : Query) :
    s.answer uri query = t.answer uri query := by
  have same (absent : Reply) (reply : String → SyntaxTree → Reply) :
      (s.query uri absent reply).reply = (t.query uri absent reply).reply := by
    simp only [Session.query, h.stored]
    split <;> rfl
  cases query <;> exact same _ _

/-! ## Whole runs -/

/-- Taking out of a run what does not concern a document leads to a session that looks alike, and
takes nothing out of what is published for the document. -/
theorem Alike.run (h : Alike uri s t) (messages : List Message) :
    Alike uri (s.after messages) (t.after (concerning uri messages)) ∧
      s.publications uri messages = t.publications uri (concerning uri messages) := by
  induction messages generalizing s t with
  | nil => exact ⟨h, rfl⟩
  | cons message later ih =>
    by_cases concerned : message.concerns uri
    · obtain ⟨alike, told⟩ := h.step concerned
      obtain ⟨after, published⟩ := ih alike
      simp only [concerning, List.filter_cons_of_pos concerned]
      refine ⟨after, ?_⟩
      simp only [publications, transcript, List.flatMap_cons, told]
      exact congrArg _ published
    · obtain ⟨alike, silent⟩ := Alike.step_of_not_concerns s concerned
      obtain ⟨after, published⟩ := ih (alike.symm.trans h)
      simp only [concerning, List.filter_cons_of_neg concerned]
      refine ⟨after, ?_⟩
      simp only [publications, transcript, List.flatMap_cons, silent, List.nil_append]
      exact published

/-- Documents do not interfere, and queries leave no trace. If all messages that do not concern a
document are taken out of a run, the run still ends with the same text for the document and has
published the same for it, diagnostics and versions. And at every point of the run, any query about
the document is answered as at the corresponding point of the shorter run. -/
theorem unaffected_by_other_messages (s : Session) (uri : String) (messages : List Message) :
    (s.after messages).documents.get? uri =
        (s.after (concerning uri messages)).documents.get? uri ∧
      s.publications uri messages = s.publications uri (concerning uri messages) ∧
      ∀ n, concerning uri (messages.take n) <+: concerning uri messages ∧
        ∀ query, (s.after (messages.take n)).answer uri query =
          (s.after (concerning uri (messages.take n))).answer uri query := by
  obtain ⟨alike, published⟩ := (Alike.refl uri s).run messages
  refine ⟨alike.stored, published, fun n => ⟨(List.take_prefix n messages).filter _, ?_⟩⟩
  intro query
  exact ((Alike.refl uri s).run (messages.take n)).1.answer query

end Session

end JavaLens
