import TabularReport.Proofs.Statement.Writing

/-!
# The condition on rows in a statement

A statement has a condition on rows where the word `WHERE` stands, once for each query in it that
sets one. A wrapped statement sets none beside that of the query that it wraps.
-/

namespace TabularReport

/-- The conditions on rows in a statement: the texts after the word `WHERE`. -/
def Token.conditions : List Token → List String
  | .where :: .space :: .raw s :: rest => s :: conditions rest
  | _ :: rest => conditions rest
  | [] => []

/-- Tokens that set conditions on rows, with a text after each `WHERE`. -/
inductive Token.Sets : List Token → List String → Prop
  | nil : Sets [] []
  | other {token : Token} {rest : List Token} {ws : List String} :
      token ≠ .where → Sets rest ws → Sets (token :: rest) ws
  | condition {w : String} {rest : List Token} {ws : List String} :
      Sets rest ws → Sets (.where :: .space :: .raw w :: rest) (w :: ws)

namespace Token.Sets

variable {a b : List Token} {v w : List String}

private theorem conditions_eq (h : Sets a v) : conditions a = v := by
  induction h with
  | nil => rfl
  | @other token rest ws ht _ ih =>
    rw [conditions]
    · exact ih
    · intro s more he
      cases he
      exact absurd rfl ht
  | condition _ ih => rw [conditions, ih]

private theorem append (ha : Sets a v) (hb : Sets b w) : Sets (a ++ b) (v ++ w) := by
  induction ha with
  | nil => exact hb
  | other ht _ ih => exact .other ht ih
  | condition _ ih => exact .condition ih

private theorem after (h : .where ∉ a) (hb : Sets b w) : Sets (a ++ b) w := by
  induction a with
  | nil => exact hb
  | cons token rest ih =>
    rw [List.mem_cons, not_or] at h
    exact .other (Ne.symm h.1) (ih h.2)

private theorem before (ha : Sets a v) (h : .where ∉ b) : Sets (a ++ b) v := by
  have hb : Sets b [] := by
    have hs := after h .nil
    rwa [List.append_nil] at hs
  have hs := ha.append hb
  rwa [List.append_nil] at hs

end Token.Sets

namespace Query

mutual

/-- The conditions on rows of a query, after those of its common table expressions. -/
def conditions : Query → List String
  | ⟨ctes, _, _, _, condition, _, _, _, _⟩ => cteConditions ctes ++ condition.toList

/-- The conditions on rows of common table expressions. -/
def cteConditions : List (String × Query) → List String
  | [] => []
  | (_, inner) :: rest => inner.conditions ++ cteConditions rest

end

end Query

private theorem Token.mem_intercalate {token : Token} {sep : List Token} {parts : List (List Token)}
    (h : token ∈ sep.intercalate parts) : token ∈ sep ∨ ∃ part ∈ parts, token ∈ part := by
  induction parts with
  | nil => cases h
  | cons part rest ih =>
    cases rest with
    | nil => exact .inr ⟨part, List.mem_cons_self, by simpa using h⟩
    | cons next more =>
      rw [List.intercalate_cons_cons, List.mem_append, List.mem_append] at h
      rcases h with (h | h) | h
      · exact .inr ⟨part, List.mem_cons_self, h⟩
      · exact .inl h
      · exact (ih h).imp_right fun ⟨p, hp, ht⟩ ↦ ⟨p, List.mem_cons_of_mem _ hp, ht⟩

/-! ### Inside of clauses -/

/-- Whether a token can stand inside of a clause that neither sets a condition on rows nor limits
their number. -/
def Token.isPart : Token → Bool
  | .where | .limit | .offset | .number _ => false
  | _ => true

/-- Whether a token can stand among what is written after the word that begins a clause. -/
def Token.isArgument : Token → Bool
  | .select | .from | .join | .groupBy | .having | .orderBy | .with | .openParen | .closeParen =>
    false
  | token => token.isPart

private theorem Token.where_not_mem {tokens : List Token} (h : tokens.all isPart = true) :
    .where ∉ tokens :=
  fun hm ↦ absurd (List.all_eq_true.mp h _ hm) (by decide)

private theorem Token.all_isPart {tokens : List Token} (h : tokens.all isArgument = true) :
    tokens.all isPart = true := by
  refine List.all_eq_true.mpr fun token hm ↦ ?_
  have ha := List.all_eq_true.mp h token hm
  cases token <;> first | rfl | cases ha

/-- Parts of a clause are put together with what may stand inside of one. -/
theorem Token.all_isArgument_intercalate {sep : List Token} (hs : sep.all isArgument = true)
    {parts : List (List Token)} (h : ∀ part ∈ parts, part.all isArgument = true) :
    (sep.intercalate parts).all isArgument = true := by
  refine List.all_eq_true.mpr fun token hm ↦ ?_
  rcases mem_intercalate hm with hm | ⟨part, hp, hm⟩
  · exact List.all_eq_true.mp hs token hm
  · exact List.all_eq_true.mp (h part hp) token hm

namespace Query

/-- An expression stands inside of a clause. -/
@[simp] theorem all_isArgument_expr (e : ColumnExpr) : e.tokens.all Token.isArgument = true := by
  unfold ColumnExpr.tokens
  split <;> rfl

/-- A name that is given stands inside of a clause. -/
@[simp] theorem all_isArgument_asName (n : Option String) :
    (asName n).all Token.isArgument = true := by
  unfold asName
  split <;> rfl

/-- A relation stands inside of a clause. -/
@[simp] theorem all_isArgument_table (s : TableRef) : s.tokens.all Token.isArgument = true := by
  simp [TableRef.tokens, Token.isArgument, Token.isPart]

/-- An item of a select list stands inside of a clause. -/
@[simp] theorem all_isArgument_item (i : SelectItem) : i.tokens.all Token.isArgument = true := by
  simp [SelectItem.tokens]

/-- An expression to sort by stands inside of a clause. -/
@[simp] theorem all_isArgument_order (o : OrderItem) : o.tokens.all Token.isArgument = true := by
  cases hd : o.direction <;>
    simp [OrderItem.tokens, SortDirection.token, Token.isArgument, Token.isPart, hd]

private theorem all_isPart_clauseTokens {keyword : Token} (hk : keyword.isPart = true)
    {parts : List (List Token)} (h : ∀ part ∈ parts, part.all Token.isArgument = true) :
    (clauseTokens keyword parts).all Token.isPart = true := by
  have hc : (commaSeparated parts).all Token.isPart = true :=
    Token.all_isPart (Token.all_isArgument_intercalate (by decide) h)
  unfold clauseTokens
  split
  · rfl
  · have hblank : Token.newline.isPart = true ∧ Token.space.isPart = true := ⟨rfl, rfl⟩
    simp [hk, hc, hblank]

/-- The items of a select list, each on a line of its own. -/
theorem all_isArgument_items (items : List SelectItem) :
    ([.comma, .newline, .indent 1].intercalate (items.map (·.tokens))).all Token.isArgument =
      true :=
  Token.all_isArgument_intercalate (by decide) (List.forall_mem_map.mpr fun i _ ↦
    all_isArgument_item i)

private theorem all_isPart_selectTokens (items : List SelectItem) :
    (selectTokens items).all Token.isPart = true := by
  have hi := Token.all_isPart (all_isArgument_items items)
  unfold selectTokens
  split
  · rfl
  · simp [hi, Token.isPart]

private theorem all_isPart_joins (joins : List Join) :
    (joins.flatMap (fun j => .newline :: j.tokens)).all Token.isPart = true := by
  rw [List.all_flatMap, List.all_eq_true]
  intro j _
  have ht := Token.all_isPart (all_isArgument_table j.table)
  cases hk : j.kind <;> cases ho : j.on <;>
    simp [Join.tokens, JoinKind.tokens, List.all_append, Token.isPart, hk, ho, ht]

/-- The clauses of a query before its condition on rows, and those between it and the numbers of
rows, consist of what stands inside of clauses. -/
theorem all_isPart_bodyTokens (q : Query) :
    ∃ before after, q.bodyTokens =
        before ++ clauseTokens .where (q.condition.toList.map ([.raw ·])) ++ after ++
          limitTokens q.limitOffset ∧
      before.all Token.isPart = true ∧ after.all Token.isPart = true := by
  have hsource : (clauseTokens .from (q.source.toList.map (·.tokens))).all Token.isPart = true :=
    all_isPart_clauseTokens (by decide) (List.forall_mem_map.mpr fun s _ ↦ all_isArgument_table s)
  have hgroups : (clauseTokens .groupBy (q.groups.map (·.tokens))).all Token.isPart = true :=
    all_isPart_clauseTokens (by decide) (List.forall_mem_map.mpr fun e _ ↦ all_isArgument_expr e)
  have hhaving : (clauseTokens .having (q.groupCondition.toList.map ([.raw ·]))).all
      Token.isPart = true :=
    all_isPart_clauseTokens (by decide) (List.forall_mem_map.mpr fun w _ ↦ rfl)
  have horder : (clauseTokens .orderBy (q.order.map (·.tokens))).all Token.isPart = true :=
    all_isPart_clauseTokens (by decide) (List.forall_mem_map.mpr fun o _ ↦ all_isArgument_order o)
  refine ⟨selectTokens q.items ++ clauseTokens .from (q.source.toList.map (·.tokens)) ++
      q.joins.flatMap (fun j => .newline :: j.tokens),
    clauseTokens .groupBy (q.groups.map (·.tokens)) ++
      clauseTokens .having (q.groupCondition.toList.map ([.raw ·])) ++
      clauseTokens .orderBy (q.order.map (·.tokens)), ?_, ?_, ?_⟩
  · simp only [bodyTokens, List.append_assoc]
  · simp only [List.all_append, all_isPart_selectTokens, hsource, all_isPart_joins, Bool.and_self]
  · simp only [List.all_append, hgroups, hhaving, horder, Bool.and_self]

private theorem where_not_mem_limitTokens (numbers : Option LimitOffset) :
    .where ∉ limitTokens numbers := by
  rcases numbers with _ | ⟨_ | n, _ | m⟩ <;> simp [limitTokens, LimitOffset.tokens]

private theorem sets_condition (condition : Option String) :
    Token.Sets (clauseTokens .where (condition.toList.map ([.raw ·]))) condition.toList := by
  cases condition with
  | none => exact .nil
  | some w => exact .other (by decide) (.condition .nil)

private theorem sets_bodyTokens (q : Query) : Token.Sets q.bodyTokens q.condition.toList := by
  obtain ⟨before, after, hbody, hbefore, hafter⟩ := q.all_isPart_bodyTokens
  rw [hbody]
  exact ((Token.Sets.after (Token.where_not_mem hbefore) (sets_condition q.condition)).before
    (Token.where_not_mem hafter)).before (where_not_mem_limitTokens q.limitOffset)

mutual

private theorem sets_tokens : (q : Query) → Token.Sets q.tokens q.conditions
  | ⟨ctes, items, source, joins, condition, groups, groupCondition, order, limitOffset⟩ => by
    rw [tokens_eq, conditions]
    refine .append ?_ (sets_bodyTokens _)
    have hc := sets_cteTokens ctes
    dsimp only
    split
    · next h =>
      rw [List.isEmpty_iff.mp h]
      exact .nil
    · exact (Token.Sets.after (by simp) hc).before (by simp)

private theorem sets_cteTokens : (ctes : List (String × Query)) →
    Token.Sets (commaSeparated (cteTokens ctes)) (cteConditions ctes)
  | [] => .nil
  | (name, inner) :: rest => by
    have hi : Token.Sets (cteStart name ++ inner.tokens ++ cteEnd) inner.conditions :=
      (Token.Sets.after (by simp [cteStart]) (sets_tokens inner)).before (by simp [cteEnd])
    cases rest with
    | nil =>
      have hc : commaSeparated (cteTokens [(name, inner)]) =
          cteStart name ++ inner.tokens ++ cteEnd := by
        simp [commaSeparated, cteTokens, cteStart, cteEnd]
      rw [hc, cteConditions, cteConditions, List.append_nil]
      exact hi
    | cons d more =>
      have hc : commaSeparated (cteTokens ((name, inner) :: d :: more)) =
          cteStart name ++ inner.tokens ++ cteEnd ++ [.comma, .space] ++
            commaSeparated (cteTokens (d :: more)) :=
        List.intercalate_cons_cons ..
      rw [hc, cteConditions]
      exact (hi.before (by simp)).append (sets_cteTokens (d :: more))

end

/-- The conditions on rows in the text of a query are those that the query and its common table
expressions set. -/
theorem conditions_tokens (q : Query) : Token.conditions q.tokens = q.conditions :=
  (sets_tokens q).conditions_eq

private theorem conditions_paged (inner : Query) (sorts : List SortSpec) (page : AppliedPage) :
    (inner.paged sorts page).conditions = inner.conditions := by
  simp [paged, conditions, cteConditions]

end Query

namespace StatementPlan

variable (p : StatementPlan) (t : ReportTemplate) (parameters : Fields)

/-- A written plan has at most one condition on rows, which its filters give. -/
theorem conditions_statement :
    Token.conditions (p.statement t parameters).query.tokens =
      (Text.unlessEmpty (p.whereText t parameters)).toList := by
  rw [Query.conditions_tokens, statement, query]
  cases p.page with
  | none => rfl
  | some page => exact Query.conditions_paged _ _ _

end StatementPlan

end TabularReport
