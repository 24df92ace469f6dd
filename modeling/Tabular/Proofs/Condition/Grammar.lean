import Tabular.Condition.Parser

set_option autoImplicit false

/-! # The grammar of conditions

    disjunction := conjunction (OR conjunction)*
    conjunction := negation (AND negation)*
    negation    := NOT negation | comparison
    comparison  := operand
                 | operand relation operand
                 | operand (~ | ~*) operand
                 | operand [NOT] (LIKE | ILIKE) operand
                 | operand [NOT] BETWEEN operand AND operand
    operand     := number | quoted | word | '{' name '}' | '(' disjunction ')'

A comparison that starts with the word `NOT` is no negation, so a `NOT` in front of an operand is
always the operator. Everywhere else a word that could be a keyword is an operand like any other.

A derivation is written down as a tree (`Tree`). From the tree come the condition that the phrase
writes (`Tree.ast`) and how deep parentheses and negations enclose each other in it
(`Tree.nesting`).
-/

namespace Tabular.Condition

/-! ## Classes of phrases -/

/-- The words that chain operands. -/
inductive Connective where
  | or | and
deriving DecidableEq, Repr

/-- The **classes of phrases** of the grammar; disjunctions and conjunctions are chains. -/
inductive Category where
  | chain (c : Connective)
  | negation
  | comparison
  | operand
deriving DecidableEq, Repr

namespace Connective

/-- The keyword between the operands of a chain. -/
def keyword : Connective → Keyword
  | or => .or
  | and => .and

/-- How two neighbours of a chain are joined. -/
def join : Connective → Condition → Condition → Condition
  | or => .or
  | and => .and

/-- The class of the operands of a chain. -/
def part : Connective → Category
  | or => .chain .and
  | and => .negation

end Connective

/-! ## What is asked of an operand -/

/-- What is asked of an operand by means of one other. -/
inductive Question where
  | relation (r : Relation)
  | matching (ignoreCase : Bool)
  | like (ignoreCase negated : Bool)
deriving DecidableEq, Repr

/-- The condition that asks a question. -/
def Question.join : Question → Condition → Condition → Condition
  | relation r => .compare r
  | matching ignoreCase => .matching ignoreCase
  | like ignoreCase negated => .like ignoreCase negated

/-- The keyword for matching a wildcard text. -/
def likeWord (ignoreCase : Bool) : Keyword := if ignoreCase then .ilike else .like

/-- Tokens that spell a keyword, after `NOT` when it is negated. -/
inductive Spells (k : Keyword) : Bool → List Token → Prop
  | plain {t : Token} (ht : t.keyword? = some k) : Spells k false [t]
  | negated {n t : Token} (hn : n.keyword? = some .not) (ht : t.keyword? = some k) :
      Spells k true [n, t]

/-- Tokens that spell a question. -/
inductive Question.Spelled : Question → List Token → Prop
  | relation {t : Token} {r : Relation} (ht : t.lexeme = .relation r) : Spelled (.relation r) [t]
  | matching {t : Token} {ignoreCase : Bool} (ht : t.lexeme = .matching ignoreCase) :
      Spelled (.matching ignoreCase) [t]
  | like {ignoreCase negated : Bool} {marks : List Token}
      (h : Spells (likeWord ignoreCase) negated marks) : Spelled (.like ignoreCase negated) marks

/-! ## Names in braces -/

/-- What a token adds to a column name: its text without the quotes, or its characters. -/
def Token.part (t : Token) : String :=
  match t.lexeme with
  | .quoted s => s
  | _ => t.text

/-- The column name that is written in parts. -/
def nameOf (parts : List Token) : String := parts.foldl (fun name t => joinName name t.part) ""

/-- Whether a token is a brace. -/
def Token.isBrace (t : Token) : Bool :=
  match t.lexeme with
  | .openBrace | .closeBrace => true
  | _ => false

/-! ## Derivation trees -/

/-- A **derivation tree** of a phrase. -/
inductive Tree where
  | number (v : Float)
  | quoted (s : String)
  | word (w : String)
  | name (parts : List Token)
  | parens (a : Tree)
  | ask (q : Question) (a b : Tree)
  | between (negated : Bool) (a low high : Tree)
  | not (a : Tree)
  | chain (c : Connective) (first : Tree) (others : List Tree)

/-- The condition that a word writes as an operand. -/
def wordCondition (w : String) : Condition :=
  match Keyword.ofWord? w with
  | some .true => .number 1
  | some .false => .number 0
  | some .null => .text ""
  | _ => .column w

mutual

/-- The **condition** that a phrase writes. Parentheses leave no trace, and chains are balanced. -/
def Tree.ast : Tree → Condition
  | number v => .number v
  | quoted s => .text s
  | word w => wordCondition w
  | name parts => .column (nameOf parts)
  | parens a => a.ast
  | ask q a b => q.join a.ast b.ast
  | between negated a low high => .between negated a.ast low.ast high.ast
  | not a => .not a.ast
  | chain c first others => balance c.join first.ast (Tree.astAll others)

/-- The conditions that the operands of a chain write. -/
def Tree.astAll : List Tree → List Condition
  | [] => []
  | a :: as => a.ast :: Tree.astAll as

end

mutual

/-- How deep parentheses and negations enclose each other in a phrase. -/
def Tree.nesting : Tree → Nat
  | number _ | quoted _ | word _ | name _ => 0
  | parens a | not a => a.nesting + 1
  | ask _ a b => max a.nesting b.nesting
  | between _ a low high => max a.nesting (max low.nesting high.nesting)
  | chain _ first others => max first.nesting (Tree.nestingAll others)

/-- How deep parentheses and negations enclose each other in the operands of a chain. -/
def Tree.nestingAll : List Tree → Nat
  | [] => 0
  | a :: as => max a.nesting (Tree.nestingAll as)

end

/-! ## Derivations -/

mutual

/-- The **grammar**: tokens that form a phrase of a class, with its derivation tree. -/
inductive Derives : Category → List Token → Tree → Prop
  | number {t : Token} {v : Float} (ht : t.lexeme = .number v) : Derives .operand [t] (.number v)
  | quoted {t : Token} {s : String} (ht : t.lexeme = .quoted s) : Derives .operand [t] (.quoted s)
  | word {t : Token} {w : String} (ht : t.lexeme = .word w) : Derives .operand [t] (.word w)
  | name {o c : Token} {parts : List Token} (ho : o.lexeme = .openBrace)
      (hparts : ∀ p ∈ parts, p.isBrace = false) (hname : nameOf parts ≠ "")
      (hc : c.lexeme = .closeBrace) : Derives .operand (o :: (parts ++ [c])) (.name parts)
  | parens {o c : Token} {ts : List Token} {a : Tree} (ho : o.lexeme = .opening)
      (ha : Derives (.chain .or) ts a) (hc : c.lexeme = .closing) :
      Derives .operand (o :: (ts ++ [c])) (.parens a)
  | plain {ts : List Token} {a : Tree} (ha : Derives .operand ts a) : Derives .comparison ts a
  | ask {q : Question} {us marks vs : List Token} {a b : Tree} (ha : Derives .operand us a)
      (hq : q.Spelled marks) (hb : Derives .operand vs b) :
      Derives .comparison (us ++ (marks ++ vs)) (.ask q a b)
  | between {negated : Bool} {us marks vs ws : List Token} {t : Token} {a low high : Tree}
      (ha : Derives .operand us a) (hmarks : Spells .between negated marks)
      (hlow : Derives .operand vs low) (ht : t.keyword? = some .and)
      (hhigh : Derives .operand ws high) :
      Derives .comparison (us ++ (marks ++ (vs ++ t :: ws))) (.between negated a low high)
  | not {t : Token} {ts : List Token} {a : Tree} (ht : t.keyword? = some .not)
      (ha : Derives .negation ts a) : Derives .negation (t :: ts) (.not a)
  | asserted {ts : List Token} {a : Tree} (ha : Derives .comparison ts a)
      (hts : ∀ t ∈ ts.head?, t.keyword? ≠ some .not) : Derives .negation ts a
  | chain {c : Connective} {ts : List Token} {a : Tree} {as : List Tree}
      (h : DerivesChain c ts a as) : Derives (.chain c) ts (.chain c a as)

/-- Tokens that form operands with a connective between them, with their derivation trees. -/
inductive DerivesChain : Connective → List Token → Tree → List Tree → Prop
  | last {c : Connective} {ts : List Token} {a : Tree} (ha : Derives c.part ts a) :
      DerivesChain c ts a []
  | more {c : Connective} {ts us : List Token} {t : Token} {a b : Tree} {bs : List Tree}
      (ha : Derives c.part ts a) (ht : t.keyword? = some c.keyword)
      (hbs : DerivesChain c us b bs) : DerivesChain c (ts ++ t :: us) a (b :: bs)

end

/-! ## Where phrases end -/

/-- Whether a token, after an operand, goes on with a comparison. -/
def Token.Asks (t : Token) : Prop :=
  (∃ r, t.lexeme = .relation r) ∨ (∃ ignoreCase, t.lexeme = .matching ignoreCase) ∨
    t.keyword? ∈ [some .not, some .between, some .like, some .ilike]

/-- Whether a token, after a phrase of a class, could go on with that phrase. -/
def Token.Extends (t : Token) : Category → Prop
  | .operand => False
  | .comparison | .negation => t.Asks
  | .chain .and => t.Asks ∨ t.keyword? = some .and
  | .chain .or => t.Asks ∨ t.keyword? = some .and ∨ t.keyword? = some .or

/-- A phrase of a class **ends** in front of tokens that cannot go on with it. -/
def Ends (cat : Category) (rest : List Token) : Prop := ∀ t ∈ rest.head?, ¬ t.Extends cat

theorem ends_nil (cat : Category) : Ends cat [] := by
  intro t ht
  cases ht

theorem ends_cons {cat : Category} {t : Token} (h : ¬ t.Extends cat) (rest : List Token) :
    Ends cat (t :: rest) := by
  intro u hu
  cases hu
  exact h

theorem ends_operand (rest : List Token) : Ends .operand rest := fun _ _ => id

/-- Where a chain ends its last operand ends. -/
theorem Ends.part {c : Connective} {rest : List Token} (h : Ends (.chain c) rest) :
    Ends c.part rest := by
  intro t ht hext
  cases c with
  | or =>
      rcases hext with hasks | hand
      · exact h t ht (.inl hasks)
      · exact h t ht (.inr (.inl hand))
  | and => exact h t ht (.inl hext)

/-- The keywords of comparisons ask something. -/
theorem Token.asks_of_keyword {t : Token} {k : Keyword} (ht : t.keyword? = some k)
    (hk : k ∈ [.not, .between, .like, .ilike]) : t.Asks := by
  refine .inr (.inr ?_)
  rw [ht]
  exact List.mem_map_of_mem (f := some) hk

/-- A keyword that is not one of comparisons asks nothing. -/
theorem Token.not_asks {t : Token} {k : Keyword} (ht : t.keyword? = some k)
    (hk : k ∉ [.not, .between, .like, .ilike]) : ¬ t.Asks := by
  rintro (⟨r, hr⟩ | ⟨ignoreCase, hm⟩ | hmem)
  · rw [Token.keyword?, hr] at ht
    cases ht
  · rw [Token.keyword?, hm] at ht
    cases ht
  · rw [ht] at hmem
    simp only [List.mem_cons, Option.some.injEq, List.not_mem_nil, or_false] at hmem hk
    exact hk hmem

/-- An operand of a chain ends in front of the connective. -/
theorem ends_keyword {c : Connective} {t : Token} (ht : t.keyword? = some c.keyword)
    (rest : List Token) : Ends c.part (t :: rest) := by
  refine ends_cons ?_ rest
  have hasks : ¬ t.Asks := Token.not_asks ht (by cases c <;> decide)
  cases c with
  | or =>
      rintro (h | h)
      · exact hasks h
      · rw [ht] at h
        cases h
  | and => exact hasks

/-- A closing parenthesis goes on with no phrase. -/
theorem ends_closing {t : Token} (ht : t.lexeme = .closing) (cat : Category)
    (rest : List Token) : Ends cat (t :: rest) := by
  have hword : t.keyword? = none := by rw [Token.keyword?, ht]
  have hasks : ¬ t.Asks := by
    rintro (⟨r, hr⟩ | ⟨ignoreCase, hm⟩ | hmem)
    · rw [ht] at hr
      cases hr
    · rw [ht] at hm
      cases hm
    · rw [hword] at hmem
      simp at hmem
  refine ends_cons ?_ rest
  intro hext
  cases cat with
  | operand => exact hext
  | comparison => exact hasks hext
  | negation => exact hasks hext
  | chain c => cases c <;> simp [Token.Extends, hasks, hword] at hext

end Tabular.Condition
