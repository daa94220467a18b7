import JavaLens.Proofs.Grammar.Mirrors.CompilationUnit
import JavaLens.Proofs.Grammar.Recording

/-!
# The header of a source

A source may start with a package declaration and imports. When these are complete, the grammar
reads each of them to its semicolon, reports nothing, and takes down the imports one by one. From
there on no import is added unless another `import` follows.

## Main definitions

* `State.upcoming` — the tokens from the cursor on.
* `DottedName`, `PackageClause`, `ImportClause` — the parts of a header, by their tokens.
* `headerTokens` — the tokens of a header.

## Main statements

* `qualifiedName_of_upcoming`, `importDeclaration_of_upcoming` — complete names and imports.
* `read_imports` — the imports of a source are those of its header.
* `HeaderSegment.of_append` — names in the header are told apart from those behind it.
-/

namespace JavaLens.Grammar

variable {s t : State} {token : Token} {ts others : List Token}

/-! ## The tokens ahead -/

/-- The tokens from the cursor on. -/
def State.upcoming (s : State) : List Token := s.tokens.toList.drop s.cursor

theorem tokenAt?_eq (s : State) (n : Nat) : s.tokenAt? n = s.upcoming[n]? := by
  simp [State.tokenAt?, State.upcoming]

theorem peekAt_eq_upcoming (s : State) (n : Nat) :
    s.peekAt n = s.upcoming[n]?.map Token.kind := by
  rw [State.peekAt, tokenAt?_eq]

theorem ahead_of_upcoming (h : s.upcoming = token :: others) :
    s.ahead = token.word :: others.map Token.word := congrArg (List.map Token.word) h

theorem peek_of_upcoming (h : s.upcoming = token :: others) : s.peek = some token.kind :=
  peek_of_ahead (ahead_of_upcoming h)

theorem sees_of_upcoming (h : s.upcoming = token :: others) (kind : Token.Kind) :
    s.sees kind = (token.kind == kind) := sees_of_ahead (ahead_of_upcoming h) kind

theorem currentText_of_upcoming (h : s.upcoming = token :: others) :
    s.currentText = token.text := by
  simp [State.currentText, tokenAt?_eq, h]

theorem currentStart_of_upcoming (h : s.upcoming = token :: others) :
    s.currentStart = token.span.start := by
  simp [State.currentStart, tokenAt?_eq, h]

theorem bump_of_upcoming (h : s.upcoming = token :: others) : s.bump = s.advance 1 :=
  bump_eq (peek_of_upcoming h)

theorem upcoming_advance (ts : List Token) (h : s.upcoming = ts ++ others) :
    (s.advance ts.length).upcoming = others := by
  have : (s.advance ts.length).upcoming = s.upcoming.drop ts.length := by
    simp [State.upcoming, State.advance]
  rw [this, h, List.drop_left]

theorem upcoming_advance_one (h : s.upcoming = token :: others) :
    (s.advance 1).upcoming = others := upcoming_advance [token] h

theorem advance_advance (s : State) (m n : Nat) : (s.advance m).advance n = s.advance (m + n) := by
  simp [State.advance, Nat.add_assoc]

/-- What has been moved over ends with its last token. -/
theorem lastEnd_advance (h : s.upcoming = ts ++ token :: others) :
    (s.advance (ts.length + 1)).lastEnd = token.span.stop := by
  have last : s.tokens[s.cursor + ts.length]? = some token := by
    have := tokenAt?_eq s ts.length
    rwa [h, List.getElem?_append_right (Nat.le_refl _), Nat.sub_self] at this
  simp [State.lastEnd, State.previous?, State.advance, ← Nat.add_assoc, last]

/-! ## Names -/

/-- A dotted name: identifiers with dots between them. -/
structure DottedName where
  first : Token
  /-- Each dot with the identifier behind it. -/
  further : List (Token × Token)
  first_kind : first.kind = .ident
  further_kind : ∀ pair ∈ further, pair.1.kind = .dot ∧ pair.2.kind = .ident

namespace DottedName

/-- The identifiers of a name. -/
def identifiers (n : DottedName) : List Token := n.first :: n.further.map Prod.snd

/-- The tokens of a name. -/
def tokens (n : DottedName) : List Token :=
  n.first :: n.further.flatMap fun pair => [pair.1, pair.2]

/-- The texts of the identifiers. -/
def segments (n : DottedName) : List String := n.identifiers.map Token.text

theorem identifiers_ne_nil (n : DottedName) : n.identifiers ≠ [] := List.cons_ne_nil _ _

/-- The last identifier. -/
def last (n : DottedName) : Token := n.identifiers.getLast n.identifiers_ne_nil

/-- From the first identifier to the last one. -/
def span (n : DottedName) : Span := ⟨n.first.span.start, n.last.span.stop⟩

/-- The tokens of a name end with its last identifier. -/
theorem exists_tokens_eq (n : DottedName) : ∃ front, n.tokens = front ++ [n.last] := by
  obtain ⟨first, further, -, -⟩ := n
  rcases List.eq_nil_or_concat further with rfl | ⟨front, pair, rfl⟩
  · exact ⟨[], rfl⟩
  · exact ⟨first :: (front.flatMap fun pair => [pair.1, pair.2]) ++ [pair.1],
      by simp [tokens, last, identifiers]⟩

end DottedName

/-- Whether a name would go on: a dot and another identifier follow. -/
def GoesOn (others : List Token) : Prop :=
  others[0]?.map Token.kind = some .dot ∧ others[1]?.map Token.kind = some .ident

theorem sees_dot_iff (s : State) :
    (s.sees .dot && s.seesAt 1 .ident) = true ↔ GoesOn s.upcoming := by
  rw [Bool.and_eq_true, sees_iff, seesAt_iff, State.peek, peekAt_eq_upcoming, peekAt_eq_upcoming]
  rfl

/-- A segment is moved over, with the dot behind it if the name goes on. -/
theorem segmentTurn_of_upcoming (segments : Array String) (h : s.upcoming = token :: others) :
    (GoesOn others → segmentTurn segments s = .again (segments.push token.text) (s.advance 2)) ∧
      (¬GoesOn others →
        segmentTurn segments s = .stop (segments.push token.text) (s.advance 1)) := by
  have behind := upcoming_advance_one h
  rw [segmentTurn, currentText_of_upcoming h, bump_of_upcoming h]
  constructor
  · intro goesOn
    rw [← behind] at goesOn
    have seen := (sees_dot_iff _).2 goesOn
    have dot := sees_iff.1 (Bool.and_eq_true_iff.1 seen).1
    rw [if_pos seen, bump_eq dot, advance_advance]
  · intro ends
    rw [← behind] at ends
    exact if_neg (mt (sees_dot_iff _).1 ends)

/-- The segments of a name are read one by one. -/
theorem repeatWhile_segmentTurn {further : List (Token × Token)} (segments : Array String)
    (kinds : ∀ pair ∈ further, pair.1.kind = .dot ∧ pair.2.kind = .ident)
    (h : s.upcoming = token :: ((further.flatMap fun pair => [pair.1, pair.2]) ++ others))
    (ends : ¬GoesOn others) :
    repeatWhile segmentTurn segments s =
      (segments ++ ((token :: further.map Prod.snd).map Token.text).toArray,
        s.advance (1 + 2 * further.length)) := by
  induction further generalizing s segments token with
  | nil =>
    rw [segmentTurn_advances.repeatWhile_eq, (segmentTurn_of_upcoming segments h).2 ends]
    simp
  | cons pair further ih =>
    obtain ⟨⟨hdot, hname⟩, kinds⟩ := List.forall_mem_cons.1 kinds
    have goesOn : GoesOn ([pair.1, pair.2] ++ ((further.flatMap fun pair => [pair.1, pair.2]) ++
      others)) := ⟨by simp [hdot], by simp [hname]⟩
    have next : (s.advance 2).upcoming = pair.2 :: ((further.flatMap fun pair =>
        [pair.1, pair.2]) ++ others) :=
      upcoming_advance [token, pair.1] (by simpa using h)
    rw [List.flatMap_cons, List.append_assoc] at h
    rw [segmentTurn_advances.repeatWhile_eq, (segmentTurn_of_upcoming segments h).1 goesOn]
    dsimp only
    rw [ih (segments.push token.text) kinds next, advance_advance]
    refine Prod.ext (by simp) (congrArg s.advance ?_)
    rw [List.length_cons]
    omega

theorem qualifiedName_of_upcoming (n : DottedName) (h : s.upcoming = n.tokens ++ others)
    (ends : ¬GoesOn others) : qualifiedName s = (n.segments, s.advance n.tokens.length) := by
  have length : n.tokens.length = 1 + 2 * n.further.length := by
    simp [DottedName.tokens, List.length_flatMap, Nat.add_comm, Nat.mul_comm]
  have named : s.sees .ident := by
    rw [sees_of_upcoming h, n.first_kind]
    rfl
  rw [qualifiedName, if_pos named, repeatWhile_segmentTurn #[] n.further_kind h ends, length]
  simp [DottedName.segments, DottedName.identifiers]

/-! ## Clauses -/

/-- A complete package declaration. -/
structure PackageClause where
  word : Token
  name : DottedName
  semicolon : Token
  word_kind : word.kind = .keyword .package
  semicolon_kind : semicolon.kind = .semi

/-- The tokens of a package declaration. -/
def PackageClause.tokens (p : PackageClause) : List Token :=
  p.word :: (p.name.tokens ++ [p.semicolon])

/-- A complete import: of one name, or of all that a name contains where a dot and a star follow. -/
structure ImportClause where
  word : Token
  static? : Option Token
  name : DottedName
  star? : Option (Token × Token)
  semicolon : Token
  word_kind : word.kind = .keyword .import
  static_kind : ∀ static ∈ static?, static.kind = .keyword .static
  star_kind : ∀ star ∈ star?, star.1.kind = .dot ∧ star.2.kind = .operator ∧ star.2.text = "*"
  semicolon_kind : semicolon.kind = .semi

namespace ImportClause

/-- The dot and the star of an import on demand. -/
def demand (i : ImportClause) : List Token := i.star?.toList.flatMap fun star => [star.1, star.2]

/-- The tokens of an import. -/
def tokens (i : ImportClause) : List Token :=
  i.word :: (i.static?.toList ++ (i.name.tokens ++ (i.demand ++ [i.semicolon])))

/-- What is taken down for an import. -/
def declared (i : ImportClause) : Import := ⟨i.name.segments, i.name.span, i.star?.isSome⟩

end ImportClause

theorem not_goesOn_of_semi (h : token.kind = .semi) (others : List Token) :
    ¬GoesOn (token :: others) := by
  simp [GoesOn, h]

theorem expectSemicolon_of_upcoming (construct : Construct) (h : s.upcoming = token :: others)
    (semi : token.kind = .semi) : s.expectSemicolon construct = s.advance 1 := by
  have seen : s.sees .semi := by
    rw [sees_of_upcoming h, semi]
    rfl
  rw [State.expectSemicolon, State.expect, if_pos seen, bump_of_upcoming h]

theorem packageDeclaration_of_upcoming (p : PackageClause) (h : s.upcoming = p.tokens ++ others) :
    packageDeclaration s = s.advance p.tokens.length := by
  have name : (s.advance 1).upcoming = p.name.tokens ++ (p.semicolon :: others) :=
    upcoming_advance_one (by simpa [PackageClause.tokens] using h)
  have semi := upcoming_advance _ name
  rw [packageDeclaration, bump_of_upcoming h]
  dsimp only
  rw [qualifiedName_of_upcoming p.name name (not_goesOn_of_semi p.semicolon_kind _)]
  dsimp only
  rw [if_neg (by simp [DottedName.segments, DottedName.identifiers]),
    expectSemicolon_of_upcoming _ semi p.semicolon_kind, advance_advance, advance_advance]
  simp [PackageClause.tokens, Nat.add_comm]

/-- No name goes on behind that of an import. -/
theorem ImportClause.not_goesOn (i : ImportClause) (others : List Token) :
    ¬GoesOn (i.demand ++ (i.semicolon :: others)) := by
  unfold demand
  cases hstar : i.star? with
  | none => exact not_goesOn_of_semi i.semicolon_kind others
  | some star =>
    obtain ⟨-, operator, -⟩ := i.star_kind star hstar
    simp [GoesOn, operator]

/-- Whether an import is on demand is seen behind its name. -/
theorem ImportClause.sees_star (i : ImportClause)
    (h : s.upcoming = i.demand ++ (i.semicolon :: others)) :
    (s.sees .dot && s.seesOperator 1 "*") = i.star?.isSome := by
  unfold demand at h
  cases hstar : i.star? with
  | none =>
    rw [hstar] at h
    rw [sees_of_upcoming h, i.semicolon_kind]
    rfl
  | some star =>
    obtain ⟨dot, operator, text⟩ := i.star_kind star hstar
    rw [hstar] at h
    rw [sees_of_upcoming h, dot, State.seesOperator, State.spells, tokenAt?_eq, h]
    simp [operator, text]

theorem ImportClause.advance_demand (i : ImportClause) (s : State) :
    (if i.star?.isSome then s.advance 2 else s) = s.advance i.demand.length := by
  unfold demand
  cases i.star? <;> rfl

/-- The word `static` is passed over if it is there. -/
theorem ImportClause.eat_static (i : ImportClause)
    (h : s.upcoming = i.static?.toList ++ (i.name.tokens ++ others)) :
    s.eat (.keyword .static) = s.advance i.static?.toList.length := by
  cases hstatic : i.static? with
  | none =>
    rw [hstatic] at h
    rw [State.eat, sees_of_upcoming h, i.name.first_kind]
    rfl
  | some static =>
    rw [hstatic] at h
    have seen : s.sees (.keyword .static) := by
      rw [sees_of_upcoming h, i.static_kind static hstatic]
      rfl
    rw [State.eat, if_pos seen, bump_of_upcoming h]
    rfl

/-- A name ends where its last identifier ends. -/
theorem DottedName.lastEnd_advance (n : DottedName) (h : s.upcoming = n.tokens ++ others) :
    (s.advance n.tokens.length).lastEnd = n.last.span.stop := by
  obtain ⟨front, hfront⟩ := n.exists_tokens_eq
  rw [hfront, List.append_assoc] at h
  rw [hfront, List.length_append]
  exact Grammar.lastEnd_advance h

/-- The state behind `n` tokens, with more imports taken down. -/
def State.past (s : State) (n : Nat) (imports : List Import) : State :=
  { s with cursor := s.cursor + n, imports := s.imports ++ imports.toArray }

theorem past_past (s : State) (m n : Nat) (front back : List Import) :
    (s.past m front).past n back = s.past (m + n) (front ++ back) := by
  simp [State.past, Nat.add_assoc]

theorem upcoming_past (ts : List Token) (imports : List Import) (h : s.upcoming = ts ++ others) :
    (s.past ts.length imports).upcoming = others := upcoming_advance ts h

/-- What follows the name of an import is passed over when it is taken down. -/
theorem ImportClause.importDemand_eq (i : ImportClause) (segments : List String) (start : Nat)
    (h : s.upcoming = i.demand ++ (i.semicolon :: others)) :
    importDemand segments start i.star?.isSome s =
      s.past (i.demand.length + 1) [⟨segments, ⟨start, s.lastEnd⟩, i.star?.isSome⟩] := by
  have declared : importDemand segments start i.star?.isSome s =
      (s.past i.demand.length [⟨segments, ⟨start, s.lastEnd⟩, i.star?.isSome⟩]).expectSemicolon
        .importDeclaration := by
    rw [importDemand, i.advance_demand]
    simp [State.past, State.advance]
  rw [declared, expectSemicolon_of_upcoming _ (upcoming_past _ _ h) i.semicolon_kind]
  rfl

/-- A complete import is taken down. -/
theorem importDeclaration_of_upcoming (i : ImportClause) (h : s.upcoming = i.tokens ++ others) :
    importDeclaration s = s.past i.tokens.length [i.declared] := by
  have static : (s.advance 1).upcoming =
      i.static?.toList ++ (i.name.tokens ++ (i.demand ++ (i.semicolon :: others))) :=
    upcoming_advance_one (by simpa [ImportClause.tokens] using h)
  have name := upcoming_advance _ static
  have demand := upcoming_advance _ name
  rw [importDeclaration_eq, bump_of_upcoming h, i.eat_static static, importName,
    qualifiedName_of_upcoming i.name name (i.not_goesOn others)]
  dsimp only
  rw [if_neg (by simp [DottedName.segments, DottedName.identifiers]), i.sees_star demand,
    currentStart_of_upcoming name, i.importDemand_eq _ _ demand, i.name.lastEnd_advance name]
  have length : i.tokens.length =
      1 + i.static?.toList.length + i.name.tokens.length + (i.demand.length + 1) := by
    simp only [ImportClause.tokens, List.length_cons, List.length_append, List.length_nil]
    omega
  rw [length]
  simp only [State.past, State.advance, Nat.add_assoc]
  rfl

/-! ## The whole header -/

/-- The tokens of a header: a package declaration, if there is one, and imports. -/
def headerTokens (package? : Option PackageClause) (imports : List ImportClause) : List Token :=
  package?.toList.flatMap PackageClause.tokens ++ imports.flatMap ImportClause.tokens

section Units

variable {inner : Inner}

/-- Complete imports are taken down one by one. -/
theorem compilationUnit_imports (steady : inner.Steady) (imports : List ImportClause)
    (h : s.upcoming = imports.flatMap ImportClause.tokens ++ others) :
    compilationUnit inner s = compilationUnit inner
      (s.past (imports.flatMap ImportClause.tokens).length
        (imports.map ImportClause.declared)) := by
  induction imports generalizing s with
  | nil => simp [State.past]
  | cons i imports ih =>
    rw [List.flatMap_cons, List.append_assoc] at h
    have read : unitTurn inner () s = .again () (importDeclaration s) := by
      rw [unitTurn, peek_of_upcoming h, i.word_kind]
    have next := upcoming_past _ [i.declared] h
    rw [compilationUnit_again steady read, importDeclaration_of_upcoming i h, ih next, past_past,
      List.flatMap_cons, List.length_append, List.map_cons, List.singleton_append]

/-- A complete header is read to its end. -/
theorem compilationUnit_header (steady : inner.Steady) (package? : Option PackageClause)
    (imports : List ImportClause) (h : s.upcoming = headerTokens package? imports ++ others) :
    compilationUnit inner s = compilationUnit inner
      (s.past (headerTokens package? imports).length (imports.map ImportClause.declared)) := by
  unfold headerTokens at h ⊢
  cases package? with
  | none => exact compilationUnit_imports steady imports h
  | some package =>
    simp only [Option.toList_some, List.flatMap_singleton, List.append_assoc] at h ⊢
    have read : unitTurn inner () s = .again () (packageDeclaration s) := by
      rw [unitTurn, peek_of_upcoming h, package.word_kind]
    have next := upcoming_advance _ h
    rw [compilationUnit_again steady read, packageDeclaration_of_upcoming package h,
      compilationUnit_imports steady imports next, List.length_append]
    simp only [State.past, State.advance, Nat.add_assoc]

/-- What is no import adds none. -/
theorem unitTurn_reads {n : Nat} (hi : inner.Sound n) (other : s.peek ≠ some (.keyword .import))
    (h : unitTurn inner () s = .again () t) : Reads n s t := by
  unfold unitTurn at h
  split at h
  · cases h
  all_goals
    rename_i hpeek
    cases h
  · exact (Reads.bump hpeek rfl).trans (Reads.packageDeclaration hpeek)
  · exact absurd hpeek other
  · exact .bump hpeek rfl
  · exact .junk (by simp [hpeek])
  · exact .guarded (Reads.member hi s)

/-- Whether no `import` follows. -/
def State.Imported (s : State) : Prop := ∀ token ∈ s.upcoming, token.kind ≠ .keyword .import

/-- Where no `import` follows, none is added. -/
theorem imports_compilationUnit {n : Nat} (hi : inner.Sound n) (steady : inner.Steady)
    (h : s.Imported) : (compilationUnit inner s).imports = s.imports := by
  have advances := unitTurn_advances steady
  refine repeatWhile_exit (fun s t => s.Imported → t.imports = s.imports ∧ t.Imported)
    (motive := fun r => r.2.imports = s.imports) (fun s h => ⟨rfl, h⟩) ?trans ?again ?stop
  case trans =>
    intro s t u first second h
    obtain ⟨same, h⟩ := first h
    obtain ⟨same', h⟩ := second h
    exact ⟨same'.trans same, h⟩
  case again =>
    intro _ s _ t hturn
    obtain ⟨onward, moved, -⟩ := advances.again hturn
    refine ⟨fun h => ?_, advances.remaining_lt hturn⟩
    have other : s.peek ≠ some (.keyword .import) := by
      intro hpeek
      rw [State.peek, peekAt_eq_upcoming, Option.map_eq_some_iff] at hpeek
      obtain ⟨token, htoken, hkind⟩ := hpeek
      exact h token (List.mem_of_getElem? htoken) hkind
    refine ⟨(unitTurn_reads hi other hturn).imports, fun token htoken => h token ?_⟩
    rw [State.upcoming, onward.tokens] at htoken
    exact (List.drop_subset_drop_left _ (Nat.le_of_lt moved)) htoken
  case stop =>
    intro _ t _ u reads hturn
    unfold unitTurn at hturn
    split at hturn
    · cases hturn
      exact (reads h).1
    all_goals cases hturn

end Units

/-- The imports of a source are those of its header, if no `import` follows. -/
theorem read_imports {package? : Option PackageClause} {imports : List ImportClause}
    {rest : List Token} (h : ts = headerTokens package? imports ++ rest)
    (none : ∀ token ∈ rest, token.kind ≠ .keyword .import) (sourceEnd : Nat) :
    (read ts sourceEnd).imports.toList = imports.map ImportClause.declared := by
  have start : (State.start ts.toArray sourceEnd).upcoming =
      headerTokens package? imports ++ rest := by
    simpa [State.upcoming, State.start] using h
  have header := compilationUnit_header (nested_steady maxNesting) package? imports start
  have behind := upcoming_past _ (imports.map ImportClause.declared) start
  have ended := imports_compilationUnit (nested_sound maxNesting) (nested_steady maxNesting)
    (show State.Imported _ from behind ▸ none)
  rw [read, header, ended]
  simp [State.past, State.start]

/-! ## Names behind the header -/

theorem kindAt_append_right (front rest : List Token) (j : Nat) :
    kindAt (front ++ rest).toArray (front.length + j) = kindAt rest.toArray j := by
  simp [kindAt, List.getElem?_append_right]

theorem kindAt_last {front : List Token} (ends : ∀ token ∈ front.getLast?, token.kind = .semi)
    (rest : List Token) {i : Nat} (hi : i + 1 = front.length) :
    kindAt (front ++ rest).toArray i = some .semi := by
  rcases List.eq_nil_or_concat front with rfl | ⟨init, token, rfl⟩
  · cases hi
  · obtain rfl : i = init.length := by simpa using hi
    have := ends token (by simp)
    simp [kindAt, this]

/-- A name that starts behind a semicolon does not reach in front of it. -/
theorem HeaderSegment.of_append {front rest : List Token} {k : Nat}
    (ends : ∀ token ∈ front.getLast?, token.kind = .semi)
    (h : HeaderSegment (front ++ rest).toArray (front.length + k)) :
    HeaderSegment rest.toArray k := by
  -- No part of the name stands at the semicolon, so the one before it is behind it as well.
  have behind {i k : Nat} {kind : Token.Kind} (next : front.length + k = i + 1)
      (here : kindAt (front ++ rest).toArray i = some kind) (other : kind ≠ .semi) :
      ∃ m, k = m + 1 ∧ i = front.length + m ∧ kindAt rest.toArray m = some kind := by
    cases k with
    | zero =>
      have semi := here.symm.trans (kindAt_last ends rest next.symm)
      exact absurd (Option.some.inj semi) other
    | succ m =>
      obtain rfl : i = front.length + m := by omega
      exact ⟨m, rfl, rfl, kindAt_append_right front rest m ▸ here⟩
  generalize hj : front.length + k = j at h
  induction h generalizing k with
  | behindPackage word name =>
    rw [← hj, kindAt_append_right] at name
    obtain ⟨m, rfl, -, word⟩ := behind hj word (by decide)
    exact .behindPackage word name
  | behindImport word name =>
    rw [← hj, kindAt_append_right] at name
    obtain ⟨m, rfl, -, word⟩ := behind hj word (by decide)
    exact .behindImport word name
  | behindStatic word static name =>
    rw [← hj, kindAt_append_right] at name
    obtain ⟨m, rfl, place, static⟩ := behind hj static (by decide)
    obtain ⟨m, rfl, -, word⟩ := behind place.symm word (by decide)
    exact .behindStatic word static name
  | segment before dot name ih =>
    rw [← hj, kindAt_append_right] at name
    obtain ⟨m, rfl, place, dot⟩ := behind hj dot (by decide)
    obtain ⟨m, rfl, place, -⟩ := behind place.symm before.named (by decide)
    exact .segment (ih place.symm) dot name

/-- Clauses that end with semicolons do so one behind the other. -/
theorem getLast?_flatMap_clauses {α : Type} {tokens : α → List Token}
    (ends : ∀ a, ∃ front semicolon, tokens a = front ++ [semicolon] ∧ semicolon.kind = .semi)
    (clauses : List α) : ∀ token ∈ (clauses.flatMap tokens).getLast?, token.kind = .semi := by
  intro token htoken
  rcases List.eq_nil_or_concat clauses with rfl | ⟨init, clause, rfl⟩
  · cases htoken
  · obtain ⟨front, semicolon, htokens, hkind⟩ := ends clause
    obtain rfl : semicolon = token := by simpa [htokens] using htoken
    exact hkind

/-- A header ends with a semicolon. -/
theorem getLast?_headerTokens (package? : Option PackageClause) (imports : List ImportClause) :
    ∀ token ∈ (headerTokens package? imports).getLast?, token.kind = .semi := by
  intro token htoken
  rw [headerTokens, List.getLast?_append, Option.mem_def, Option.or_eq_some_iff] at htoken
  rcases htoken with htoken | ⟨-, htoken⟩
  · exact getLast?_flatMap_clauses (fun i => ⟨i.word :: (i.static?.toList ++ (i.name.tokens ++
      i.demand)), i.semicolon, by simp [ImportClause.tokens], i.semicolon_kind⟩) _ _ htoken
  · exact getLast?_flatMap_clauses (fun p => ⟨p.word :: p.name.tokens, p.semicolon,
      by simp [PackageClause.tokens], p.semicolon_kind⟩) _ _ htoken

end JavaLens.Grammar
