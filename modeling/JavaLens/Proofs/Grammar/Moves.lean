import JavaLens.Grammar.Recovery

/-!
# Moves of the grammar

What the functions of the grammar do to the tokens, told without their states. The grammar passes
over tokens, mentions identifiers, reports faults, and reads or skips regions in braces. Whatever it
reads is a chain of such moves from one token to another, and every property of all readings is
proved by induction on the chain.

## Main definitions

* `Mention` — a node by the indices of its tokens.
* `FlatRegion` — where brackets that are counted alike are all closed again.
* `Unrecorded` — the identifiers that may be passed over without being mentioned.
* `Moves` — a chain of moves with what it mentions and reports.
-/

namespace JavaLens.Grammar

/-! ## Tokens by index -/

/-- The kind of the token at an index. -/
def kindAt (tokens : Array Token) (i : Nat) : Option Token.Kind := tokens[i]?.map (·.kind)

/-- The token at an index below the number of tokens. -/
def tokenAt (tokens : Array Token) (i : Nat) : Token := tokens[i]?.getD default

/-- The identifier that the token at an index is. -/
def identifierAt (tokens : Array Token) (i : Nat) : Identifier :=
  ⟨(tokenAt tokens i).text, (tokenAt tokens i).span⟩

theorem kindAt_eq_some_iff {tokens : Array Token} {i : Nat} {kind : Token.Kind} :
    kindAt tokens i = some kind ↔ tokens[i]? = some (tokenAt tokens i) ∧
      (tokenAt tokens i).kind = kind := by
  cases h : tokens[i]? <;> simp [kindAt, tokenAt, h]

theorem lt_size_of_kindAt {tokens : Array Token} {i : Nat} {kind : Token.Kind}
    (h : kindAt tokens i = some kind) : i < tokens.size := by
  rw [kindAt_eq_some_iff] at h
  exact (Array.getElem?_eq_some_iff.1 h.1).1

/-! ## Regions by their brackets -/

/-- What a token adds to the number of open brackets, whatever their kinds. -/
def weight (kind : Token.Kind) : Int :=
  if kind.isOpener then 1 else if kind.isCloser then -1 else 0

/-- How many more brackets are opened than closed from one token up to another. -/
def flatCount (tokens : Array Token) (i j : Nat) : Int :=
  (tokens.extract i j).foldl (fun count token => count + weight token.kind) 0

@[simp]
theorem flatCount_self (tokens : Array Token) (i : Nat) : flatCount tokens i i = 0 := by
  rw [flatCount, Array.extract_eq_empty_iff.2 (Nat.min_le_left ..)]
  rfl

theorem flatCount_succ {tokens : Array Token} {i j : Nat} {kind : Token.Kind} (hij : i ≤ j)
    (h : kindAt tokens j = some kind) :
    flatCount tokens i (j + 1) = flatCount tokens i j + weight kind := by
  have hj := lt_size_of_kindAt h
  have hkind : tokens[j].kind = kind := by simpa [kindAt, hj] using h
  rw [flatCount, Array.extract_succ_right (by omega) hj, Array.foldl_push, hkind, flatCount]

/-- The region that starts at a token if brackets of all kinds count alike: the shortest run of
tokens from it on at whose end no more brackets are open than before, or else all tokens from it
on. -/
structure FlatRegion (tokens : Array Token) (i j : Nat) : Prop where
  nonempty : i < j
  bounded : j ≤ tokens.size
  inside : ∀ k, i < k → k < j → 0 < flatCount tokens i k
  closed : j < tokens.size → flatCount tokens i j = 0

/-! ## Nodes by their tokens -/

/-- A node by the indices of its tokens: the first, the one that names it, and the last. A reference
has no flavor. -/
structure Mention where
  flavor : Option Flavor
  first : Nat
  name : Nat
  last : Nat
deriving DecidableEq, Repr

namespace Mention

/-- The mention of an identifier as a reference. -/
def reference (i : Nat) : Mention := ⟨none, i, i, i⟩

/-- The node that is recorded for a mention. -/
def node (tokens : Array Token) (m : Mention) : Node :=
  let name := identifierAt tokens m.name
  match m.flavor with
  | none => .reference name
  | some flavor =>
    let start := (tokenAt tokens m.first).span.start
    (Node.declaration ⟨flavor, name, min start name.span.start, name.span.stop⟩).extendTo
      (tokenAt tokens m.last).span.stop

@[simp] theorem identifier_node (tokens : Array Token) (m : Mention) :
    (m.node tokens).identifier = identifierAt tokens m.name := by
  unfold node
  cases m.flavor <;> rfl

end Mention

/-! ## Identifiers that are not mentioned -/

/-- The words that are reserved in some places only. -/
def contextualWords : List String := ["var", "record", "yield", "sealed", "non", "permits"]

/-- Whether the token at an index is a segment of the dotted name right behind `package`, `import`
or `import static`. -/
inductive HeaderSegment (tokens : Array Token) : Nat → Prop where
  | behindPackage {i : Nat} (word : kindAt tokens i = some (.keyword .package))
      (name : kindAt tokens (i + 1) = some .ident) : HeaderSegment tokens (i + 1)
  | behindImport {i : Nat} (word : kindAt tokens i = some (.keyword .import))
      (name : kindAt tokens (i + 1) = some .ident) : HeaderSegment tokens (i + 1)
  | behindStatic {i : Nat} (word : kindAt tokens i = some (.keyword .import))
      (static : kindAt tokens (i + 1) = some (.keyword .static))
      (name : kindAt tokens (i + 2) = some .ident) : HeaderSegment tokens (i + 2)
  | segment {i : Nat} (before : HeaderSegment tokens i) (dot : kindAt tokens (i + 1) = some .dot)
      (name : kindAt tokens (i + 2) = some .ident) : HeaderSegment tokens (i + 2)

/-- Whether the grammar may pass over the identifier at an index without mentioning it: it is a word
that may be reserved there, a label, or part of the name of a package or an import. -/
def Unrecorded (tokens : Array Token) (i : Nat) : Prop :=
  (tokenAt tokens i).text ∈ contextualWords ∨ kindAt tokens (i + 1) = some .colon ∨
    HeaderSegment tokens i

/-! ## Moves -/

/-- Tokens that are neither names nor braces. -/
def isPlain : Token.Kind → Bool
  | .ident | .lbrace | .rbrace => false
  | _ => true

/-- Faults that concern a place, and not a region in braces as a whole. -/
def isLocal : Fault → Bool
  | .missing .closingBrace _ | .tooDeep => false
  | _ => true

/-- What is reported about a run of stray tokens. -/
def strayFault (tokens : Array Token) (i j : Nat) : Fault :=
  if j = i + 1 then .strayToken (tokenAt tokens i).text else .strayTokens

/-- The state before a token, with nothing recorded. -/
def State.before (tokens : Array Token) (sourceEnd i : Nat) : State :=
  ⟨tokens, sourceEnd, i, 0, #[], #[], #[]⟩

/-- `Moves tokens sourceEnd levels i j mentions findings` says that with `levels` levels left the
grammar may go from token `i` to token `j`, record the mentions and report the findings. -/
inductive Moves (tokens : Array Token) (sourceEnd : Nat) :
    Nat → Nat → Nat → List Mention → List Finding → Prop where
  | stay (n i : Nat) : Moves tokens sourceEnd n i i [] []
  | trans {n i j k : Nat} {ms ms' : List Mention} {fs fs' : List Finding}
      (first : Moves tokens sourceEnd n i j ms fs) (second : Moves tokens sourceEnd n j k ms' fs') :
      Moves tokens sourceEnd n i k (ms ++ ms') (fs ++ fs')
  | pass {n i : Nat} {kind : Token.Kind} (seen : kindAt tokens i = some kind)
      (plain : isPlain kind) : Moves tokens sourceEnd n i (i + 1) [] []
  | overlook {n i : Nat} (seen : kindAt tokens i = some .ident) (allowed : Unrecorded tokens i) :
      Moves tokens sourceEnd n i (i + 1) [] []
  | reference {n i : Nat} (seen : kindAt tokens i = some .ident) :
      Moves tokens sourceEnd n i (i + 1) [.reference i] []
  | report {n i : Nat} {fault : Fault} (placed : isLocal fault) :
      Moves tokens sourceEnd n i i [] [⟨fault, (State.before tokens sourceEnd i).previousSpan⟩]
  | stray {n i j : Nat} {kind : Token.Kind} (seen : kindAt tokens i = some kind)
      (unnamed : kind ≠ .ident) (moved : i < j)
      (run : ∀ k, i < k → k < j → ∃ kind, kindAt tokens k = some kind ∧ prolongsJunk kind) :
      Moves tokens sourceEnd n i j []
        [⟨strayFault tokens i j, (tokenAt tokens i).span.start,
          (tokenAt tokens (j - 1)).span.stop⟩]
  | skip {n i j : Nat} (opened : kindAt tokens i = some .lbrace)
      (skipped : FlatRegion tokens i j) :
      Moves tokens sourceEnd n i j [] [⟨.tooDeep, (tokenAt tokens i).span⟩]
  | region {n i j : Nat} {ms : List Mention} {fs : List Finding}
      (opened : kindAt tokens i = some .lbrace) (inside : Moves tokens sourceEnd n (i + 1) j ms fs)
      (closed : kindAt tokens j = some .rbrace) : Moves tokens sourceEnd (n + 1) i (j + 1) ms fs
  | openRegion {n i j : Nat} {ms : List Mention} {fs : List Finding} (construct : Construct)
      (opened : kindAt tokens i = some .lbrace) (inside : Moves tokens sourceEnd n (i + 1) j ms fs)
      (ended : kindAt tokens j = none) :
      Moves tokens sourceEnd (n + 1) i j ms
        (fs ++ [⟨.missing .closingBrace construct, (State.before tokens sourceEnd j).previousSpan⟩])
  | declaration {n i j k : Nat} {ms ms' : List Mention} {fs fs' : List Finding} (flavor : Flavor)
      (head : Moves tokens sourceEnd n i j ms fs) (named : kindAt tokens j = some .ident)
      (rest : Moves tokens sourceEnd n (j + 1) k ms' fs') :
      Moves tokens sourceEnd n i k (ms ++ ⟨some flavor, i, j, k - 1⟩ :: ms') (fs ++ fs')

namespace Moves

variable {tokens : Array Token} {sourceEnd n i j : Nat} {ms : List Mention} {fs : List Finding}

theorem le (h : Moves tokens sourceEnd n i j ms fs) : i ≤ j := by
  induction h with
  | stay | report => exact Nat.le_refl _
  | trans _ _ ih ih' => exact Nat.le_trans ih ih'
  | pass | overlook | reference => exact Nat.le_succ _
  | stray _ _ moved => exact Nat.le_of_lt moved
  | skip _ skipped => exact Nat.le_of_lt skipped.nonempty
  | region _ _ _ ih | openRegion _ _ _ _ ih => omega
  | declaration _ _ _ _ ih ih' => omega

/-- A run of stray tokens ends with a token. -/
theorem run_le_size {kind : Token.Kind} (seen : kindAt tokens i = some kind) (moved : i < j)
    (run : ∀ k, i < k → k < j → ∃ kind, kindAt tokens k = some kind ∧ prolongsJunk kind) :
    j ≤ tokens.size := by
  by_cases alone : j = i + 1
  · rw [alone]
    exact lt_size_of_kindAt seen
  · obtain ⟨_, last, _⟩ := run (j - 1) (by omega) (by omega)
    have := lt_size_of_kindAt last
    omega

theorem le_size (h : Moves tokens sourceEnd n i j ms fs) (hi : i ≤ tokens.size) :
    j ≤ tokens.size := by
  induction h with
  | stay | report => exact hi
  | trans _ _ ih ih' => exact ih' (ih hi)
  | pass seen | overlook seen | reference seen => exact lt_size_of_kindAt seen
  | stray seen _ moved run => exact run_le_size seen moved run
  | skip _ skipped => exact skipped.bounded
  | region _ _ closed => exact lt_size_of_kindAt closed
  | openRegion _ opened _ _ ih => exact ih (lt_size_of_kindAt opened)
  | declaration _ _ named _ _ ih' => exact ih' (lt_size_of_kindAt named)

/-- What can be read can be read with more levels left. -/
theorem deeper (h : Moves tokens sourceEnd n i j ms fs) :
    Moves tokens sourceEnd (n + 1) i j ms fs := by
  induction h with
  | stay => exact .stay _ _
  | trans _ _ ih ih' => exact ih.trans ih'
  | pass seen plain => exact .pass seen plain
  | overlook seen allowed => exact .overlook seen allowed
  | reference seen => exact .reference seen
  | report placed => exact .report placed
  | stray seen unnamed moved run => exact .stray seen unnamed moved run
  | skip opened skipped => exact .skip opened skipped
  | region opened _ closed ih => exact .region opened ih closed
  | openRegion construct opened _ ended ih => exact .openRegion construct opened ih ended
  | declaration flavor _ named _ ih ih' => exact .declaration flavor ih named ih'

end Moves

end JavaLens.Grammar
