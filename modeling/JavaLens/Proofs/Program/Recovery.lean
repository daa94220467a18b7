import Mathlib.Data.List.Nodup
import JavaLens.Proofs.Program.Statements
import JavaLens.Proofs.SyntaxTree.Nesting

/-!
# Recovering programs

Every program of the core language is recovered from its text, whatever blanks stand between its
words: nothing is wrong with the text, and the declarations of its syntax tree are those of the
program, in preorder.

## Main statements

* `Program.Spelled.typeDeclWords` — the words of a program are tokens.
* `SyntaxTree.heads_declarations` — declarations that start one behind the other stay in this order
  when the tree is put into document order.
* `SyntaxTree.recovers_program` — a program is recovered from its text.
-/

namespace JavaLens

namespace Program

open Grammar

/-! ## The words of programs are tokens -/

/-- Whether all words are tokens. -/
def Spelled (ws : List Word) : Prop := ∀ w ∈ ws, w.isToken

namespace Spelled

variable {w : Word} {ws ws' : List Word}

@[simp] theorem nil : Spelled [] := by simp [Spelled]

@[simp] theorem cons_iff : Spelled (w :: ws) ↔ w.isToken ∧ Spelled ws := List.forall_mem_cons

@[simp] theorem append_iff : Spelled (ws ++ ws') ↔ Spelled ws ∧ Spelled ws' :=
  List.forall_mem_append

theorem flatMap {α : Type} {xs : List α} {f : α → List Word} (h : ∀ x ∈ xs, Spelled (f x)) :
    Spelled (xs.flatMap f) := by
  intro w hw
  obtain ⟨x, hx, hw⟩ := List.mem_flatMap.1 hw
  exact h x hx w hw

end Spelled

@[simp] theorem Name.isToken_word (x : Name) : x.word.isToken := x.isToken

@[simp] theorem Literal.isToken_word (v : Literal) : v.word.isToken := v.isToken

/-- The words with a fixed spelling are tokens. -/
@[simp] theorem isToken_fixed :
    (∀ k ∈ Keyword.all, (keyword k).isToken) ∧ recordWord.isToken ∧ lbrace.isToken ∧
      rbrace.isToken ∧ lparen.isToken ∧ rparen.isToken ∧ lbracket.isToken ∧ rbracket.isToken ∧
      semi.isToken ∧ comma.isToken ∧ atSign.isToken ∧ assign.isToken ∧ lt.isToken ∧
      gt.isToken := by
  decide +kernel

@[simp] theorem isToken_keyword (k : Keyword) : (keyword k).isToken :=
  isToken_fixed.1 k (Keyword.mem_all k)

namespace Spelled

theorem commaSeparated (wss : List (List Word)) (h : ∀ ws ∈ wss, Spelled ws) :
    Spelled (commaSeparated wss) := by
  cases wss with
  | nil => exact nil
  | cons ws wss =>
    obtain ⟨first, further⟩ := List.forall_mem_cons.1 h
    exact append_iff.2 ⟨first, flatMap fun ws hws => by simp [further ws hws]⟩

@[simp] theorem modifierWords (modifiers : List Modifier) : Spelled (modifierWords modifiers) := by
  simp [Spelled, Program.modifierWords]

mutual

theorem typeWords : (type : TypeExpr) → Spelled type.words
  | .primitive .. | .named _ => by simp [TypeExpr.words]
  | .generic _ first further => by
    simp [TypeExpr.words, typeWords first, furtherWords further]
  | .array element => by simp [TypeExpr.words, typeWords element]

theorem furtherWords : (types : List TypeExpr) → Spelled (TypeExpr.furtherWords types)
  | [] => by simp [TypeExpr.furtherWords]
  | type :: types => by simp [TypeExpr.furtherWords, typeWords type, furtherWords types]

end

attribute [simp] typeWords

@[simp] theorem resultWords (result : Option TypeExpr) : Spelled (resultWords result) := by
  cases result <;> simp [Program.resultWords]

@[simp] theorem valueWords (value : Option Literal) : Spelled (valueWords value) := by
  cases value <;> simp [Program.valueWords]

@[simp] theorem parameterWords (parameters : List Parameter) :
    Spelled (parameterWords parameters) := by
  have separated := commaSeparated (parameters.map Parameter.words) (by simp [Parameter.words])
  simp [Program.parameterWords, separated]

@[simp] theorem introduction (head : Head) : Spelled head.introduction := by
  cases head <;> simp [Head.introduction]

@[simp] theorem componentWords (head : Head) : Spelled head.componentWords := by
  cases head <;> simp [Head.componentWords]

@[simp] theorem constantWords (head : Head) : Spelled head.constantWords := by
  cases head with
  | enum name constants =>
    have separated := commaSeparated (constants.map fun x => [x.word]) (by simp)
    simp [Head.constantWords, separated]
  | «class» | interface | annotationType | record => simp [Head.constantWords]

mutual

theorem typeDeclWords : (declaration : TypeDecl) → Spelled declaration.words
  | .mk _ _ members => by simp [TypeDecl.words, membersWords members]

theorem memberWords : (m : Member) → Spelled m.words
  | .type declaration => typeDeclWords declaration
  | .field .. | .abstractMethod .. => by simp [Member.words]
  | .method _ _ _ _ body | .constructor _ _ _ body => by
    simp [Member.words, statementsWords body]

theorem membersWords : (members : List Member) → Spelled (Program.memberWords members)
  | [] => by simp [Program.memberWords]
  | m :: members => by simp [Program.memberWords, memberWords m, membersWords members]

theorem statementWords : (statement : Statement) → Spelled statement.words
  | .localVariable .. | .assignment .. | .return _ => by simp [Statement.words]
  | .block body | .if _ body => by simp [Statement.words, statementsWords body]
  | .type declaration => typeDeclWords declaration

theorem statementsWords : (body : List Statement) → Spelled (Program.statementWords body)
  | [] => by simp [Program.statementWords]
  | statement :: body => by
    simp [Program.statementWords, statementWords statement, statementsWords body]

end

end Spelled

end Program

/-! ## Document order -/

namespace Grammar

variable {tokens : Array Token} {i j : Nat} {os : List Opening}

/-- Where a declaration starts, its first token does. -/
theorem Openings.start_head (h : Openings i j os) (side : SideBySide tokens)
    (hj : j ≤ tokens.size) {o : Opening} (ho : o ∈ os) :
    (o.head tokens).2 = (tokenAt tokens o.first).span.start := by
  obtain ⟨_, hle, hlt⟩ := h.within o ho
  exact Nat.min_eq_left (side.start_le hle (by omega))

/-- Declarations that are opened one behind the other start one behind the other. -/
theorem Openings.heads_pairwise (h : Openings i j os) (side : SideBySide tokens)
    (hj : j ≤ tokens.size) : (os.map (Opening.head tokens)).Pairwise (·.2 < ·.2) := by
  refine List.pairwise_map.2 (h.ordered.imp_of_mem fun {o o'} ho ho' hlt => ?_)
  rw [h.start_head side hj ho, h.start_head side hj ho']
  obtain ⟨_, hle, hname⟩ := h.within o ho
  obtain ⟨_, hle', hname'⟩ := h.within o' ho'
  have := side.nonempty o.first (by omega)
  have := side.ordered o.first o'.first hlt (by omega)
  omega

end Grammar

namespace SyntaxTree

open Grammar

/-- The declarations of a tree are in the order of their starts. -/
theorem declarations_pairwise (source : String) :
    (ofSource source).declarations.Pairwise (·.span.start ≤ ·.span.start) := by
  have sorted : (ofSource source).nodes.Pairwise fun a b => a.precedes b :=
    List.pairwise_mergeSort Node.precedes_trans Node.precedes_total _
  refine List.pairwise_filterMap.2 (sorted.imp fun {a b} hab d hd d' hd' => ?_)
  cases a <;> cases b <;> simp_all [Node.declaration?, Node.precedes, Node.span]
  omega

/-- Declarations that start one behind the other stay in this order in the tree. -/
theorem heads_declarations (source : String)
    (h : (read (tokenize source).tokens source.utf8ByteSize).heads.Pairwise (·.2 < ·.2)) :
    (ofSource source).declarations.map Declaration.head =
      (read (tokenize source).tokens source.utf8ByteSize).heads := by
  have perm : ((ofSource source).declarations.map Declaration.head).Perm
      (read (tokenize source).tokens source.utf8ByteSize).heads := by
    rw [declarations, List.map_filterMap]
    exact (nodes_perm source).filterMap _
  have sorted : ((ofSource source).declarations.map Declaration.head).Pairwise
      fun a b => a.2 ≤ b.2 := List.pairwise_map.2 (declarations_pairwise source)
  -- No two starts are equal, so that the order by starts leaves no choice.
  have nodup : ((read (tokenize source).tokens source.utf8ByteSize).heads.map Prod.snd).Nodup :=
    List.pairwise_map.2 (h.imp Nat.ne_of_lt)
  exact perm.eq_of_pairwise (fun a b ha hb hab hba =>
    List.inj_on_of_nodup_map nodup (perm.mem_iff.1 ha) hb (Nat.le_antisymm hab hba))
    sorted (h.imp Nat.le_of_lt)

/-- Whatever blanks stand between its words, a program whose braces nest at most 256 levels deep is
recovered from its text: there are no problems, and the declarations of the tree are those of the
program, each type before its components, constants and members, and each method before its
parameters and what its body declares. -/
theorem recovers_program (program : List Program.TypeDecl) (source : String)
    (nesting : ∀ declaration ∈ program, declaration.nesting ≤ 256)
    (printed : Printed (program.flatMap Program.TypeDecl.words) source.toList) :
    (ofSource source).problems = [] ∧
      (ofSource source).declarations.map (fun d => (d.flavor, d.name.text)) =
        program.flatMap Program.TypeDecl.declared := by
  obtain ⟨hwords, hfindings⟩ := tokenize_printed printed
    (Program.Spelled.flatMap fun declaration _ => .typeDeclWords declaration)
  have ahead : (State.start (tokenize source).tokens.toArray source.utf8ByteSize).ahead =
      program.flatMap Program.TypeDecl.words := by
    simpa [State.ahead, State.start] using hwords
  have records : Records _ (program.flatMap Program.TypeDecl.declared) _
      (read (tokenize source).tokens source.utf8ByteSize) :=
    Program.records_compilationUnit (Program.nested_recovers maxNesting 0 rfl) program rfl nesting
      ahead
  constructor
  · refine List.eq_nil_iff_forall_not_mem.2 fun problem hproblem => ?_
    have := mem_problems_iff.1 hproblem
    simp [hfindings, records.findings, records.imports, State.start, Import.unused] at this
  · obtain ⟨os, hos, opened, heads⟩ := records.opened
    rw [cursor_read] at opened
    have heads : (read (tokenize source).tokens source.utf8ByteSize).heads =
        os.map (Opening.head (tokenize source).tokens.toArray) := heads
    have increasing := opened.heads_pairwise (sideBySide_tokenize source) (Nat.le_refl _)
    have same := congrArg (List.map Prod.fst) (heads_declarations source (heads ▸ increasing))
    rw [heads, List.map_map, List.map_map] at same
    exact same.trans hos

end SyntaxTree

namespace Program

/-- A program with types and members of every kind. -/
def ledger : List TypeDecl :=
  let unit : Name := ⟨"Unit", by decide +kernel, by decide⟩
  let ledger : Name := ⟨"Ledger", by decide +kernel, by decide⟩
  let entries : Name := ⟨"entries", by decide +kernel, by decide⟩
  let total : Name := ⟨"total", by decide +kernel, by decide⟩
  let map : Name := ⟨"Map", by decide +kernel, by decide⟩
  let int : TypeExpr := .primitive .int rfl
  let one : Literal := ⟨"1", by decide +kernel⟩
  let pair : TypeDecl := .mk [] (.record ⟨"Pair", by decide +kernel, by decide⟩ [⟨int, total⟩]) []
  let field : Member :=
    .field [.final] (.generic map (.named unit) [.array int]) entries (some one)
  let statements : List Statement :=
    [.localVariable int total none, .if entries [.type pair, .assignment total total],
      .block [.return one]]
  [.mk [.public] (.class ledger) [field,
      .constructor [] ledger [] [],
      .method [.static] (some int) ⟨"sum", by decide +kernel, by decide⟩
        [⟨.named unit, entries⟩, ⟨.array int, total⟩] statements],
    .mk [] (.enum unit [⟨"EUR", by decide +kernel, by decide⟩,
        ⟨"USD", by decide +kernel, by decide⟩])
      [.type (.mk [] (.annotationType map) []),
        .abstractMethod [.public] none total []],
    .mk [] (.interface map) []]

/-- The text of the program. -/
def ledgerText : String :=
  "public class Ledger \x7b final Map < Unit , int [ ] > entries = 1 ; Ledger ( ) \x7b \x7d " ++
  "static int sum ( Unit entries , int [ ] total ) \x7b int total ; if ( entries ) \x7b " ++
  "record Pair ( int total ) \x7b \x7d total = total ; \x7d \x7b return 1 ; \x7d \x7d \x7d " ++
  "enum Unit \x7b EUR , USD ; @ interface Map \x7b \x7d public void total ( ) ; \x7d " ++
  "interface Map \x7b \x7d "

end Program

theorem SyntaxTree.recovers_program_of_ledger :
    (ofSource Program.ledgerText).problems = [] ∧
      (ofSource Program.ledgerText).declarations.map (fun d => (d.flavor, d.name.text)) =
        [(.class, "Ledger"), (.field, "entries"), (.constructor, "Ledger"), (.method, "sum"),
          (.parameter, "entries"), (.parameter, "total"), (.localVariable, "total"),
          (.record, "Pair"), (.field, "total"), (.enum, "Unit"), (.enumConstant, "EUR"),
          (.enumConstant, "USD"), (.annotationType, "Map"), (.method, "total"),
          (.interface, "Map")] := by
  have printed := Printed.spaced (Program.ledger.flatMap Program.TypeDecl.words)
  have text : Program.ledgerText.toList = (Program.ledger.flatMap Program.TypeDecl.words).flatMap
      fun w => w.text.toList ++ [' '] := by decide +kernel
  exact recovers_program Program.ledger _ (by decide) (text ▸ printed)

end JavaLens
