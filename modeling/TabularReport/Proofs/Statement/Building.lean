import Mathlib.Data.List.Induction
import TabularReport.Proofs.Statement.ClauseText
import TabularReport.Proofs.Statement.Emission
import TabularReport.Proofs.Statement.RowCondition

/-!
# Building queries

A query is built by calls in any order. Each call belongs to one clause, and what the query has for
a clause depends on the calls for this clause alone. The clauses are written in the order of the
language, in the query and in each query that it contains.
-/

namespace TabularReport

/-- What a call for a clause takes. -/
abbrev QueryClause.Argument : QueryClause → Type
  | .ctes => String × Query
  | .items => List SelectItem
  | .source => TableRef
  | .joins => Join
  | .condition => String
  | .groups => List ColumnExpr
  | .groupCondition => String
  | .order => List OrderItem
  | .rowLimit => Nat
  | .rowOffset => Nat

/-- A call that builds a query. -/
structure BuilderCall where
  clause : QueryClause
  argument : clause.Argument

namespace BuilderCall

/-- The argument of a call, if it is one for a given clause. -/
def argumentFor? (c : QueryClause) (call : BuilderCall) : Option c.Argument :=
  if h : call.clause = c then some (h ▸ call.argument) else none

/-- The arguments of the calls for a clause, in the order of the calls. -/
def arguments (calls : List BuilderCall) (c : QueryClause) : List c.Argument :=
  calls.filterMap (argumentFor? c)

end BuilderCall

namespace Query

/-- Carry out a call. -/
def perform (q : Query) : BuilderCall → Query
  | ⟨.ctes, (name, inner)⟩ => q.withCte name inner
  | ⟨.items, items⟩ => q.select items
  | ⟨.source, table⟩ => q.fromTable table
  | ⟨.joins, j⟩ => q.join j
  | ⟨.condition, condition⟩ => q.filter condition
  | ⟨.groups, groups⟩ => q.groupBy groups
  | ⟨.groupCondition, condition⟩ => q.having condition
  | ⟨.order, order⟩ => q.orderBy order
  | ⟨.rowLimit, n⟩ => q.limit n
  | ⟨.rowOffset, n⟩ => q.offset n

/-- The query that calls build. -/
def build (calls : List BuilderCall) : Query := calls.foldl perform {}

/-- The query with given arguments for each clause. Common table expressions, joins and filters that
are not empty accumulate, of the others the last one counts; an empty condition on groups does not.
-/
def ofArguments (arguments : (c : QueryClause) → List c.Argument) : Query where
  ctes := arguments .ctes
  items := (arguments .items).getLastD []
  source := (arguments .source).getLast?
  joins := arguments .joins
  condition := Text.unlessEmpty (" AND ".intercalate ((arguments .condition).filter (· ≠ "")))
  groups := (arguments .groups).getLastD []
  groupCondition := ((arguments .groupCondition).filter (· ≠ "")).getLast?
  order := (arguments .order).getLastD []
  limitOffset :=
    match (arguments .rowLimit).getLast?, (arguments .rowOffset).getLast? with
    | none, none => none
    | limit, offset => some ⟨limit, offset⟩

private theorem filter_eq (q : Query) (s : String) :
    q.filter s = { q with condition := (filter { condition := q.condition } s).condition } := by
  obtain ⟨_, _, _, _, _, _, _, _, _⟩ := q
  unfold filter
  split
  · rfl
  · dsimp only
    split <;> rfl

private theorem condition_filter {ss : List String} (h : ∀ s ∈ ss, s ≠ "") {s : String}
    (hs : s ≠ "") :
    (filter { condition := Text.unlessEmpty (" AND ".intercalate ss) } s).condition =
      Text.unlessEmpty (" AND ".intercalate (ss ++ [s])) := by
  have hss : ∀ t ∈ ss ++ [s], t ≠ "" := by
    simpa [or_imp, forall_and] using ⟨h, hs⟩
  have hall := foldl_filter hss {} rfl
  rw [List.foldl_append, foldl_filter h {} rfl] at hall
  exact congrArg condition hall

private theorem perform_ofArguments (calls : List BuilderCall) (call : BuilderCall) :
    (ofArguments (BuilderCall.arguments calls)).perform call =
      ofArguments (BuilderCall.arguments (calls ++ [call])) := by
  have hadd (c : QueryClause) : BuilderCall.arguments (calls ++ [call]) c =
      BuilderCall.arguments calls c ++ (call.argumentFor? c).toList := by
    rw [BuilderCall.arguments, List.filterMap_append]
    cases h : call.argumentFor? c <;> simp [BuilderCall.arguments, h]
  obtain ⟨c, a⟩ := call
  cases c with
  | condition =>
    have hne : ∀ s ∈ (BuilderCall.arguments calls .condition).filter (· ≠ ""), s ≠ "" :=
      fun s hs ↦ by simpa using (List.mem_filter.mp hs).2
    obtain rfl | ha := Decidable.em (a = "")
    · simp [ofArguments, perform, filter, hadd, BuilderCall.argumentFor?]
    · have hlast : (BuilderCall.arguments (calls ++ [⟨.condition, a⟩]) .condition).filter (· ≠ "") =
          (BuilderCall.arguments calls .condition).filter (· ≠ "") ++ [a] := by
        rw [hadd, List.filter_append]
        simp [BuilderCall.argumentFor?, ha]
      rw [perform, filter_eq]
      simp only [ofArguments, hlast, condition_filter hne ha]
      simp [hadd, BuilderCall.argumentFor?]
  | groupCondition =>
    obtain rfl | ha := Decidable.em (a = "") <;>
      simp_all [ofArguments, perform, having, BuilderCall.argumentFor?]
  | rowLimit | rowOffset =>
    cases h : (BuilderCall.arguments calls .rowLimit).getLast? <;>
      cases h' : (BuilderCall.arguments calls .rowOffset).getLast? <;>
        simp [ofArguments, perform, limit, offset, hadd, BuilderCall.argumentFor?, h, h']
  | _ =>
    simp [ofArguments, perform, withCte, select, fromTable, join, groupBy, orderBy, hadd,
      BuilderCall.argumentFor?]

private theorem build_eq (calls : List BuilderCall) :
    build calls = ofArguments (BuilderCall.arguments calls) := by
  induction calls using List.reverseRecOn with
  | nil => rfl
  | append_singleton calls call ih =>
    rw [build, List.foldl_append, List.foldl_cons, List.foldl_nil, ← build, ih,
      perform_ofArguments]

end Query

/-! ### The order of clauses -/

/-- The place of a clause in the language. -/
def QueryClause.place (c : QueryClause) : Nat := all.idxOf c

/-- Whether a clause may come after the last one of its query: it comes later in the language, or is
a further join. -/
def QueryClause.mayFollow (c : QueryClause) : Option QueryClause → Bool
  | none => true
  | some last => last.place < c.place || last = .joins && c = .joins

/-- The clause that a word begins. -/
def Token.clause? : Token → Option QueryClause
  | .with => some .ctes
  | .select => some .items
  | .from => some .source
  | .join => some .joins
  | .where => some .condition
  | .groupBy => some .groups
  | .having => some .groupCondition
  | .orderBy => some .order
  | .limit => some .rowLimit
  | .offset => some .rowOffset
  | _ => none

/-- Read a token after the last clauses of the queries that are open, the innermost query first.
Nothing when a clause comes before one that it has to follow, or a query is closed that is not open.
-/
def Token.follow (levels : List (Option QueryClause)) (token : Token) :
    Option (List (Option QueryClause)) :=
  match token, levels with
  | .openParen, ls => some (none :: ls)
  | .closeParen, _ :: around => some around
  | token, l :: around =>
    match token.clause? with
    | none => some (l :: around)
    | some c => if c.mayFollow l then some (some c :: around) else none
  | _, [] => none

/-- Whether the last clause of a query, if it has one, has a smaller place. -/
def QueryClause.Below (n : Nat) (l : Option QueryClause) : Prop := ∀ c ∈ l, c.place < n

/-- Whether tokens can be read wherever a query has no clause yet that belongs after a given one,
and leave the query there. -/
def QueryClause.Reads (c : QueryClause) (tokens : List Token) : Prop :=
  ∀ (l : Option QueryClause) (around : List (Option QueryClause)), Below c.place l →
    ∃ l', Below (c.place + 1) l' ∧ tokens.foldlM Token.follow (l :: around) = some (l' :: around)

namespace Token

variable {l : Option QueryClause} {around : List (Option QueryClause)}

private theorem follow_of_isArgument {token : Token} (h : token.isArgument = true) :
    follow (l :: around) token = some (l :: around) := by
  cases token <;> first | rfl | cases h

private theorem foldlM_follow {tokens : List Token} (h : tokens.all isArgument = true) :
    tokens.foldlM follow (l :: around) = some (l :: around) := by
  induction tokens with
  | nil => rfl
  | cons token rest ih =>
    rw [List.all_cons, Bool.and_eq_true] at h
    rw [List.foldlM_cons, follow_of_isArgument h.1]
    exact ih h.2

private theorem foldlM_intercalate {s : List Token} (hs : s.all isArgument = true)
    {parts : List (List Token)}
    (h : ∀ part ∈ parts, part.foldlM follow (l :: around) = some (l :: around)) :
    (s.intercalate parts).foldlM follow (l :: around) = some (l :: around) := by
  induction parts with
  | nil => rfl
  | cons part rest ih =>
    obtain ⟨hp, hrest⟩ := List.forall_mem_cons.mp h
    cases rest with
    | nil => simpa using hp
    | cons next more =>
      rw [List.intercalate_cons_cons, List.foldlM_append, List.foldlM_append, hp]
      simp only [Option.bind_eq_bind, Option.bind_some, foldlM_follow hs]
      exact ih hrest

private theorem follow_of_clause? {token : Token} {c : QueryClause} (h : token.clause? = some c)
    (hl : c.mayFollow l = true) : follow (l :: around) token = some (some c :: around) := by
  have hf : (if c.mayFollow l then some (some c :: around) else none) = some (some c :: around) :=
    if_pos hl
  cases token <;> first | (cases h; exact hf) | cases h

end Token

namespace QueryClause

variable {c : QueryClause} {l : Option QueryClause}

private theorem Below.mayFollow (h : Below c.place l) : c.mayFollow l = true := by
  cases l with
  | none => rfl
  | some d => simp [QueryClause.mayFollow, h d rfl]

private theorem below_self (c : QueryClause) : Below (c.place + 1) (some c) := by
  rintro d hd
  cases hd
  exact Nat.lt_succ_self _

private theorem reads_arguments (c : QueryClause) {tokens : List Token}
    (h : tokens.all Token.isArgument = true) : c.Reads tokens := fun l _ hl ↦
  ⟨l, fun d hd ↦ Nat.lt_succ_of_lt (hl d hd), Token.foldlM_follow h⟩

private theorem foldlM_word {token : Token} (hc : token.clause? = some c)
    (hl : c.mayFollow l = true) {around : List (Option QueryClause)} {a b : List Token}
    (ha : a.all Token.isArgument = true)
    (hb : b.foldlM Token.follow (some c :: around) = some (some c :: around)) :
    (a ++ token :: b).foldlM Token.follow (l :: around) = some (some c :: around) := by
  rw [List.foldlM_append, Token.foldlM_follow ha]
  simp only [Option.bind_eq_bind, Option.bind_some, List.foldlM_cons, Token.follow_of_clause? hc hl]
  exact hb

private theorem reads_word {token : Token} (hc : token.clause? = some c) {a b : List Token}
    (ha : a.all Token.isArgument = true)
    (hb : ∀ around, b.foldlM Token.follow (some c :: around) = some (some c :: around)) :
    c.Reads (a ++ token :: b) := fun _ around hl ↦
  ⟨some c, below_self c, foldlM_word hc hl.mayFollow ha (hb around)⟩

private theorem foldlM_flatMap {tokens : QueryClause → List Token}
    (h : ∀ c : QueryClause, c.Reads (tokens c)) {cs : List QueryClause}
    (hs : cs.Pairwise fun c d ↦ c.place < d.place) (hl : ∀ c ∈ cs, Below c.place l)
    (around : List (Option QueryClause)) :
    ∃ l', (cs.flatMap tokens).foldlM Token.follow (l :: around) = some (l' :: around) := by
  induction cs generalizing l with
  | nil => exact ⟨l, rfl⟩
  | cons c rest ih =>
    obtain ⟨hc, hrest⟩ := List.pairwise_cons.mp hs
    obtain ⟨l', hl', hread⟩ := h c l around (hl c List.mem_cons_self)
    obtain ⟨l'', hall⟩ := ih hrest (l := l') fun d hd e he ↦
      Nat.lt_of_lt_of_le (hl' e he) (hc d hd)
    refine ⟨l'', ?_⟩
    rw [List.flatMap_cons, List.foldlM_append, hread]
    exact hall

end QueryClause

namespace Query

private theorem reads_clauseTokens {c : QueryClause} {keyword : Token}
    (hc : keyword.clause? = some c) {parts : List (List Token)}
    (h : ∀ part ∈ parts, part.all Token.isArgument = true) :
    c.Reads (clauseTokens keyword parts) := by
  unfold clauseTokens
  split
  · exact c.reads_arguments rfl
  · have hp : (.space :: commaSeparated parts).all Token.isArgument = true := by
      rw [List.all_cons, commaSeparated, Token.all_isArgument_intercalate (by decide) h]
      rfl
    exact QueryClause.reads_word (a := [.newline]) hc (by decide) fun _ ↦ Token.foldlM_follow hp

private theorem reads_selectTokens (items : List SelectItem) :
    QueryClause.items.Reads (selectTokens items) := by
  refine QueryClause.reads_word (a := []) rfl rfl fun _ ↦ Token.foldlM_follow ?_
  split
  · rfl
  · rw [List.all_append, all_isArgument_items]
    decide

private theorem foldlM_join {l : Option QueryClause} (h : QueryClause.joins.mayFollow l = true)
    (around : List (Option QueryClause)) (j : Join) :
    (.newline :: j.tokens : List Token).foldlM Token.follow (l :: around) =
      some (some .joins :: around) := by
  obtain ⟨b, hb, hargument⟩ : ∃ b, .newline :: j.tokens =
      .newline :: j.kind.tokens ++ [.space] ++ .join :: b ∧ b.all Token.isArgument = true := by
    obtain ⟨kind, table, on⟩ := j
    cases on with
    | none => exact ⟨.space :: table.tokens, by simp [Join.tokens], by simp [Token.isArgument,
        Token.isPart]⟩
    | some condition =>
      exact ⟨.space :: (table.tokens ++ [.space, .on, .space, .raw condition]),
        by simp [Join.tokens], by simp [Token.isArgument, Token.isPart]⟩
  rw [hb]
  refine QueryClause.foldlM_word rfl h ?_ (Token.foldlM_follow hargument)
  cases j.kind <;> rfl

private theorem reads_joins (joins : List Join) :
    QueryClause.joins.Reads (joins.flatMap fun j ↦ .newline :: j.tokens) := by
  intro l around hl
  have hmore (joins : List Join) : (joins.flatMap fun j ↦ .newline :: j.tokens).foldlM Token.follow
      (some .joins :: around) = some (some .joins :: around) := by
    induction joins with
    | nil => rfl
    | cons j rest ih =>
      rw [List.flatMap_cons, List.foldlM_append, foldlM_join rfl around j]
      exact ih
  cases joins with
  | nil => exact QueryClause.reads_arguments .joins rfl l around hl
  | cons j rest =>
    refine ⟨some .joins, QueryClause.below_self .joins, ?_⟩
    rw [List.flatMap_cons, List.foldlM_append, foldlM_join hl.mayFollow around j]
    exact hmore rest

private theorem reads_tokensOf (q : Query) (h : ∀ part ∈ cteTokens q.ctes, ∀ l around,
      part.foldlM Token.follow (l :: around) = some (l :: around)) :
    ∀ c : QueryClause, c.Reads (q.tokensOf c)
  | .ctes => by
    rw [tokensOf]
    split
    · exact QueryClause.reads_arguments .ctes rfl
    · have hparts (around : List (Option QueryClause)) :
          ([.space] ++ commaSeparated (cteTokens q.ctes) ++ [.newline] : List Token).foldlM
            Token.follow (some .ctes :: around) = some (some .ctes :: around) := by
        rw [List.foldlM_append, List.foldlM_append, Token.foldlM_follow (by decide)]
        simp only [Option.bind_eq_bind, Option.bind_some, commaSeparated,
          Token.foldlM_intercalate (s := [.comma, .space]) (by decide)
            fun part hp ↦ h part hp (some .ctes) around]
        rfl
      exact QueryClause.reads_word (c := .ctes) (a := []) rfl rfl hparts
  | .items => reads_selectTokens q.items
  | .source => reads_clauseTokens rfl (List.forall_mem_map.mpr fun s _ ↦ all_isArgument_table s)
  | .joins => reads_joins q.joins
  | .condition => reads_clauseTokens rfl (List.forall_mem_map.mpr fun _ _ ↦ rfl)
  | .groups => reads_clauseTokens rfl (List.forall_mem_map.mpr fun e _ ↦ all_isArgument_expr e)
  | .groupCondition => reads_clauseTokens rfl (List.forall_mem_map.mpr fun _ _ ↦ rfl)
  | .order => reads_clauseTokens rfl (List.forall_mem_map.mpr fun o _ ↦ all_isArgument_order o)
  | .rowLimit => by
    rw [tokensOf]
    split
    · exact QueryClause.reads_word (a := [.newline]) rfl rfl fun _ ↦ rfl
    · exact QueryClause.reads_arguments .rowLimit rfl
    · exact QueryClause.reads_arguments .rowLimit rfl
  | .rowOffset => by
    rw [tokensOf]
    split
    · exact QueryClause.reads_word (a := [.space]) rfl rfl fun _ ↦ rfl
    · exact QueryClause.reads_word (a := [.newline]) rfl rfl fun _ ↦ rfl
    · exact QueryClause.reads_arguments .rowOffset rfl

mutual

private theorem foldlM_tokens : (q : Query) → ∀ around, ∃ l,
    q.tokens.foldlM Token.follow (none :: around) = some (l :: around)
  | ⟨ctes, items, source, joins, condition, groups, groupCondition, order, limitOffset⟩,
      around => by
    rw [tokens_eq_flatMap]
    exact QueryClause.foldlM_flatMap (reads_tokensOf _ (foldlM_cteTokens ctes)) (by decide)
      (fun c _ d hd ↦ by cases hd) around

private theorem foldlM_cteTokens : (ctes : List (String × Query)) → ∀ part ∈ cteTokens ctes,
    ∀ l around, part.foldlM Token.follow (l :: around) = some (l :: around)
  | [], _, h, _, _ => absurd h List.not_mem_nil
  | (name, inner) :: rest, part, h, l, around => by
    rcases List.mem_cons.mp h with rfl | h
    · -- The parentheses open a query in which no clause has been read, and close it again.
      obtain ⟨l', hl'⟩ := foldlM_tokens inner (l :: around)
      have hopen : [.name name, .space, .as, .space, .openParen, .newline].foldlM Token.follow
          (l :: around) = some (none :: l :: around) := rfl
      rw [List.foldlM_append, List.foldlM_append, hopen]
      simp only [Option.bind_eq_bind, Option.bind_some, hl']
      rfl
    · exact foldlM_cteTokens rest part h l around

end

end Query

/-! ### Clauses that are set -/

/-- Whether calls with given arguments set a clause. A select list stands in every query. -/
def QueryClause.IsSet : (c : QueryClause) → List c.Argument → Prop
  | .ctes, arguments => arguments ≠ []
  | .items, _ => True
  | .source, arguments => arguments ≠ []
  | .joins, arguments => arguments ≠ []
  | .condition, arguments => ∃ condition ∈ arguments, condition ≠ ""
  | .groups, arguments => arguments.getLastD [] ≠ []
  | .groupCondition, arguments => ∃ condition ∈ arguments, condition ≠ ""
  | .order, arguments => arguments.getLastD [] ≠ []
  | .rowLimit, arguments => arguments ≠ []
  | .rowOffset, arguments => arguments ≠ []

namespace Query

variable {arguments : (c : QueryClause) → List c.Argument} {c : QueryClause}

private theorem within_partsText {parts : List String} (h : parts ≠ []) :
    Text.Within c.words (partsText c parts) := by
  unfold partsText
  rw [if_neg (by simpa using h)]
  exact (Text.Within.refl _).append _

private theorem toList_getLast?_ne_nil {α : Type} {l : List α} (h : l ≠ []) :
    l.getLast?.toList ≠ [] := by
  rw [List.getLast?_eq_some_getLast h]
  exact List.cons_ne_nil _ _

private theorem filter_ne_nil {l : List String} (h : ∃ s ∈ l, s ≠ "") : l.filter (· ≠ "") ≠ [] := by
  obtain ⟨s, hm, hs⟩ := h
  exact List.ne_nil_of_mem (List.mem_filter.mpr ⟨hm, by simpa using hs⟩)

private theorem filter_eq_nil {l : List String} (h : ¬ ∃ s ∈ l, s ≠ "") :
    l.filter (· ≠ "") = [] := by
  refine List.filter_eq_nil_iff.mpr fun s hm ↦ ?_
  simpa using fun hs ↦ h ⟨s, hm, hs⟩

private theorem within_clauseText (h : c.IsSet (arguments c)) :
    Text.Within c.words ((ofArguments arguments).clauseText c) := by
  cases c with
  | ctes =>
    have hc : arguments .ctes ≠ [] := h
    rw [ofArguments, clauseText, if_neg (by simpa using hc)]
    refine (within_partsText ?_).append _
    cases hd : arguments .ctes with
    | nil => exact absurd hd hc
    | cons d rest => exact List.cons_ne_nil _ _
  | items =>
    have hselect : "SELECT\n  " = "SELECT" ++ "\n  " := by decide
    rw [ofArguments, clauseText]
    split
    · exact Text.Within.refl _
    · rw [hselect]
      exact ((Text.Within.refl _).append _).append _
  | source =>
    rw [ofArguments, clauseText]
    exact within_partsText fun hn ↦ toList_getLast?_ne_nil h (List.map_eq_nil_iff.mp hn)
  | joins =>
    rw [ofArguments, clauseText]
    obtain ⟨j, rest, hj⟩ := List.exists_cons_of_ne_nil (show arguments .joins ≠ [] from h)
    rw [hj, List.map_cons, String.join_cons, Join.written]
    have hkeyword : Text.Within " JOIN " (j.kind.written ++ " JOIN ") :=
      (Text.Within.refl _).prepend j.kind.written
    exact (((hkeyword.append _).append _).prepend "\n").append _
  | condition =>
    have hne : " AND ".intercalate ((arguments .condition).filter (· ≠ "")) ≠ "" := by
      rw [ne_eq, Text.intercalate_eq_empty_iff fun s hs ↦ by simpa using (List.mem_filter.mp hs).2]
      exact filter_ne_nil h
    rw [ofArguments, clauseText, Text.unlessEmpty_of_ne hne]
    exact within_partsText (List.cons_ne_nil _ _)
  | groups =>
    rw [ofArguments, clauseText]
    exact within_partsText fun hn ↦ h (List.map_eq_nil_iff.mp hn)
  | groupCondition =>
    rw [ofArguments, clauseText]
    exact within_partsText (toList_getLast?_ne_nil (filter_ne_nil h))
  | order =>
    rw [ofArguments, clauseText]
    exact within_partsText fun hn ↦ h (List.map_eq_nil_iff.mp hn)
  | rowLimit =>
    rw [ofArguments, clauseText, List.getLast?_eq_some_getLast h]
    exact (Text.Within.refl _).append _
  | rowOffset =>
    rw [ofArguments, clauseText, List.getLast?_eq_some_getLast h]
    have hspace : " OFFSET " = " " ++ "OFFSET " := by decide
    have hline : "\nOFFSET " = "\n" ++ "OFFSET " := by decide
    cases (arguments .rowLimit).getLast? with
    | none =>
      rw [offsetText, hline]
      exact ((Text.Within.refl _).prepend _).append _
    | some n =>
      rw [offsetText, hspace]
      exact ((Text.Within.refl _).prepend _).append _

private theorem clauseText_eq_empty (h : ¬ c.IsSet (arguments c)) :
    (ofArguments arguments).clauseText c = "" := by
  cases c with
  | items => exact absurd trivial h
  | condition =>
    rw [ofArguments, clauseText, filter_eq_nil h]
    rfl
  | groupCondition =>
    rw [ofArguments, clauseText, filter_eq_nil h]
    rfl
  | rowLimit =>
    rw [ofArguments, clauseText, not_not.mp h]
    cases (arguments .rowOffset).getLast? <;> rfl
  | rowOffset =>
    rw [ofArguments, clauseText, not_not.mp h]
    cases (arguments .rowLimit).getLast? <;> rfl
  | _ =>
    rw [ofArguments, clauseText, not_not.mp h]
    rfl

end Query

/-! ### What calls build -/

/-- What is known of the query that calls build. -/
structure Query.BuiltBy (calls : List BuilderCall) : Prop where
  /-- Each clause is given by the calls for it. -/
  clauses : Query.build calls = Query.ofArguments (BuilderCall.arguments calls)
  /-- Calls with the same arguments for each clause, in whatever order, build the same text. -/
  order : ∀ others, (∀ c, BuilderCall.arguments others c = BuilderCall.arguments calls c) →
    (Query.build others).sql = (Query.build calls).sql
  /-- The text consists of the clauses in the order of the language. -/
  written : (Query.build calls).sql =
    String.join (QueryClause.all.map fun c ↦ (Query.build calls).clauseText c)
  /-- A clause that calls have set is written with its words. -/
  appears : ∀ c : QueryClause, c.IsSet (BuilderCall.arguments calls c) →
    Text.Within c.words ((Query.build calls).clauseText c)
  /-- Of a clause that calls have not set nothing is written. -/
  absent : ∀ c : QueryClause, ¬ c.IsSet (BuilderCall.arguments calls c) →
    (Query.build calls).clauseText c = ""
  /-- In the query, and in each query in parentheses, clauses come in this order and none but a join
  comes twice. -/
  inOrder : ∃ last, (Query.build calls).tokens.foldlM Token.follow [none] = some [last]

/-- Calls build clause by clause. -/
theorem Query.builtBy (calls : List BuilderCall) : BuiltBy calls where
  clauses := build_eq calls
  order := fun others h ↦ by rw [build_eq, build_eq, funext h]
  written := sql_eq (build calls)
  appears := fun c h ↦ by
    rw [build_eq]
    exact within_clauseText h
  absent := fun c h ↦ by
    rw [build_eq]
    exact clauseText_eq_empty h
  inOrder := foldlM_tokens (build calls) []

end TabularReport
