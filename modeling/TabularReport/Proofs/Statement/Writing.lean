import TabularReport.Proofs.Statement.Composition

/-!
# Where the text of a statement comes from

Each part of a planned statement is put together from words, names and expressions of its template,
and numbers; the conditions on rows and groups add the clauses. Of a request only page sizes and
offsets are written, and the names it uses are looked up among those of the template.
-/

namespace TabularReport

open Placeholder

/-! ### Tokens -/

/-- Whether the text of tokens can stand before every text that is put together. -/
def Token.Plain (x : Lexicon) (tokens : List Token) : Prop := x.Leads (textOf tokens)

/-- Whether a token is a fixed word or sign. -/
def Token.isWord : Token → Bool
  | .indent _ | .name _ | .qualifiedName _ _ | .number _ | .raw _ => false
  | _ => true

namespace Token

variable {x : Lexicon} {a b : List Token}

private theorem text_mem_vocabulary {token : Token} (h : token.isWord = true) :
    token.text ∈ vocabulary := by
  cases token <;> first | decide | cases h

/-- A token before others. -/
theorem Plain.cons {token : Token} (h : x.Leads token.text) (ha : Plain x a) :
    Plain x (token :: a) := Lexicon.Leads.append h ha

/-- A single token. -/
theorem plain_single {token : Token} (h : x.Leads token.text) : Plain x [token] :=
  .cons h Lexicon.Leads.nil

/-- Fixed words and signs are pieces. -/
theorem plain_words (h : a.all isWord = true) : Plain x a := by
  induction a with
  | nil => exact Lexicon.Leads.nil
  | cons token rest ih =>
    rw [List.all_cons, Bool.and_eq_true] at h
    exact .cons (.word (text_mem_vocabulary h.1)) (ih h.2)

/-- Tokens one after another. -/
theorem Plain.append (ha : Plain x a) (hb : Plain x b) : Plain x (a ++ b) := by
  rw [Plain, textOf_append]
  exact Lexicon.Leads.append ha hb

private theorem leads_indent (levels : Nat) : x.Leads (Token.indent levels).text := by
  have hb : ∀ n, x.Leads (String.ofList (List.replicate n ' ')) := by
    intro n
    induction n with
    | zero => exact .nil
    | succ n ih =>
      have hs : String.ofList (List.replicate (n + 1) ' ') =
          " " ++ String.ofList (List.replicate n ' ') := by
        rw [← String.toList_inj]
        simp only [String.toList_append, String.toList_ofList]
        rfl
      rw [hs]
      exact (Lexicon.Leads.word (by decide)).append ih
  exact hb (2 * levels)

private theorem plain_intercalate {sep : List Token} (hs : Plain x sep) {parts : List (List Token)}
    (h : ∀ part ∈ parts, Plain x part) : Plain x (sep.intercalate parts) := by
  induction parts with
  | nil => exact Lexicon.Leads.nil
  | cons part rest ih =>
    have hp := h part List.mem_cons_self
    have hr := ih fun q hq ↦ h q (List.mem_cons_of_mem part hq)
    cases rest with
    | nil => simpa using hp
    | cons q more =>
      rw [List.intercalate_cons_cons]
      exact (hp.append hs).append hr

end Token

/-- Whether every text that is put together can follow an expression. -/
def ColumnExpr.Plain (x : Lexicon) (e : ColumnExpr) : Prop := Token.Plain x e.tokens

namespace ColumnExpr

variable {x : Lexicon}

/-- A name alone. -/
theorem plain_column {name : String} (h : x.Leads name) : Plain x (.column none name) :=
  Token.plain_single h

/-- An expression that is written already. -/
theorem plain_raw {sql : String} (h : x.Leads sql) : Plain x (.raw sql) :=
  Token.plain_single h

/-- A name with a qualifier. -/
theorem plain_qualified {qualifier name : String} (hq : x.Leads qualifier) (hn : x.Leads name) :
    Plain x (.column (some qualifier) name) :=
  Token.plain_single ((hq.append (.word (by decide))).append hn)

private theorem plain_star {qualifier : String} (h : x.Leads qualifier) :
    Plain x (.star (some qualifier)) :=
  .cons h (Token.plain_words (by decide))

/-- The text of an expression. -/
theorem Plain.composed_sql {e : ColumnExpr} (h : e.Plain x) : Composed x [] e.sql :=
  Lexicon.Leads.composed h

end ColumnExpr

/-- A name that is given. -/
theorem plain_asName {x : Lexicon} {name : Option String} (h : ∀ n ∈ name, x.Leads n) :
    Token.Plain x (asName name) := by
  cases name with
  | none => exact Token.plain_words (by decide)
  | some n =>
    exact .append (a := [.space, .as, .space]) (Token.plain_words (by decide))
      (Token.plain_single (h n rfl))

/-- An item of a select list that is given no name. -/
theorem plain_unnamed {x : Lexicon} {e : ColumnExpr} (he : e.Plain x) :
    Token.Plain x (SelectItem.mk e none).tokens :=
  he.append (plain_asName fun n hn ↦ by cases hn)

/-- An item of a select list with the name it is given. -/
theorem plain_named {x : Lexicon} {e : ColumnExpr} (he : e.Plain x) {name : String}
    (h : x.Leads name) : Token.Plain x (SelectItem.mk e (some name)).tokens :=
  he.append (plain_asName fun n hn ↦ by cases hn; exact h)

/-- An expression of the author in a select list with the name it is given. -/
theorem plain_authored {x : Lexicon} {expression name : String} (he : expression ∈ x.authored)
    (h : x.Leads name) : Token.Plain x (SelectItem.mk (.raw expression) (some name)).tokens := by
  have ha : Token.Plain x (asName (some name)) :=
    plain_asName fun n hn ↦ by cases hn; exact h
  have hs : isSeparate (Token.textOf (asName (some name))).toList = true := by
    rw [asName, Token.textOf, String.toList_append]
    rfl
  refine Lexicon.Leads.authored he hs (fun hn ↦ ?_) ha
  exact absurd (String.append_eq_empty_iff.mp hn).1 (by decide)

/-- An expression to sort by. -/
theorem plain_orderItem {x : Lexicon} {e : ColumnExpr} (he : e.Plain x)
    (direction : SortDirection) : Token.Plain x (OrderItem.mk e direction).tokens := by
  refine he.append (.cons (.word (by decide)) (Token.plain_words ?_))
  cases direction <;> rfl

/-! ### Queries -/

/-- A part of a text that is put together and can follow a clause. -/
structure Section (x : Lexicon) (ks : List NumberedClause) (s : String) : Prop where
  composed : Composed x ks s
  separate : isSeparate s.toList = true

namespace Section

variable {x : Lexicon} {ks ls : List NumberedClause} {a b : String}

private theorem append (ha : Section x ks a) (hb : Section x ls b) :
    Section x (ks ++ ls) (a ++ b) := by
  refine ⟨ha.composed.append hb.composed hb.separate, ?_⟩
  rw [String.toList_append]
  exact isSeparate_append ha.separate hb.separate

private theorem followedBy (ha : Section x ks a) (hb : Section x [] b) : Section x ks (a ++ b) := by
  have hs := ha.append hb
  rwa [List.append_nil] at hs

private theorem line {tokens : List Token} (h : Token.Plain x tokens) (hs : Composed x ks a) :
    Section x ks (Token.textOf (.newline :: tokens) ++ a) := by
  have hl : Token.Plain x (.newline :: tokens) := .cons (.word (by decide)) h
  refine ⟨Lexicon.Leads.before hl hs, ?_⟩
  rw [Token.textOf, String.append_assoc, String.toList_append]
  rfl

private theorem ofLine {tokens : List Token} (h : Token.Plain x tokens) :
    Section x [] (Token.textOf (.newline :: tokens)) := by
  have hl := line h .nil
  rwa [String.append_empty] at hl

private theorem ofNil : Section x [] (Token.textOf []) := ⟨.nil, rfl⟩

end Section

namespace Query

variable {x : Lexicon} {ks ls : List NumberedClause}

private theorem section_clauseTokens (keyword : Token) (hk : keyword.isWord = true)
    {parts : List (List Token)} (h : ∀ part ∈ parts, Token.Plain x part) :
    Section x [] (Token.textOf (clauseTokens keyword parts)) := by
  unfold clauseTokens
  split
  · exact .ofNil
  · refine .ofLine (.cons (.word (Token.text_mem_vocabulary hk)) (.cons (.word (by decide)) ?_))
    exact Token.plain_intercalate (Token.plain_words (by decide)) h

private theorem section_condition (keyword : Token) (hk : keyword.isWord = true)
    {condition : String} (h : Composed x ks condition) :
    Section x ks (Token.textOf
      (clauseTokens keyword ((Text.unlessEmpty condition).toList.map ([.raw ·])))) := by
  unfold Text.unlessEmpty
  split
  · next he =>
    rw [String.isEmpty_iff] at he
    subst he
    rw [h.eq_nil_of_empty]
    exact .ofNil
  · have hl : Token.Plain x [keyword, .space] :=
      .cons (.word (Token.text_mem_vocabulary hk)) (Token.plain_words (by decide))
    have ht : Token.textOf (clauseTokens keyword [[.raw condition]]) =
        Token.textOf [.newline, keyword, .space] ++ condition := by
      simp [clauseTokens, commaSeparated, Token.textOf, Token.text, String.append_assoc]
    rw [Option.toList_some, List.map_singleton, ht]
    exact .line hl h

private theorem section_limitTokens {numbers : Option LimitOffset}
    (h : ∀ w ∈ numbers, Token.Plain x w.tokens) :
    Section x [] (Token.textOf (limitTokens numbers)) := by
  cases numbers with
  | none => exact .ofNil
  | some w => exact .ofLine (h w rfl)

/-- Whether the clauses of a query, apart from its conditions and common table expressions, are put
together from pieces. -/
structure Plain (x : Lexicon) (q : Query) : Prop where
  items : ∀ i ∈ q.items, Token.Plain x i.tokens
  source : ∀ s ∈ q.source, Token.Plain x s.tokens
  joins : ∀ j ∈ q.joins, Token.Plain x j.tokens
  groups : ∀ e ∈ q.groups, e.Plain x
  order : ∀ o ∈ q.order, Token.Plain x o.tokens
  limitOffset : ∀ w ∈ q.limitOffset, Token.Plain x w.tokens

/-- The tokens of a query after its common table expressions. -/
def bodyTokens (q : Query) : List Token :=
  selectTokens q.items ++ clauseTokens .from (q.source.toList.map (·.tokens)) ++
    q.joins.flatMap (fun j => .newline :: j.tokens) ++
    clauseTokens .where (q.condition.toList.map ([.raw ·])) ++
    clauseTokens .groupBy (q.groups.map (·.tokens)) ++
    clauseTokens .having (q.groupCondition.toList.map ([.raw ·])) ++
    clauseTokens .orderBy (q.order.map (·.tokens)) ++ limitTokens q.limitOffset

/-- A query is its common table expressions and its body. -/
theorem tokens_eq (q : Query) :
    q.tokens =
      (if q.ctes.isEmpty then []
        else [.with, .space] ++ commaSeparated (cteTokens q.ctes) ++ [.newline]) ++
        q.bodyTokens := by
  cases q
  simp only [tokens, bodyTokens, List.append_assoc]

/-- A query without common table expressions is its body. -/
theorem tokens_eq_bodyTokens {q : Query} (h : q.ctes = []) : q.tokens = q.bodyTokens := by
  rw [tokens_eq, h]
  rfl

private theorem plain_selectTokens {items : List SelectItem}
    (h : ∀ i ∈ items, Token.Plain x i.tokens) :
    Token.Plain x (selectTokens items) := by
  refine .cons (.word (by decide)) ?_
  split
  · exact Token.plain_words (by decide)
  · have hi : ∀ u : List Token, u.all Token.isWord = true → Token.Plain x (u ++ [.indent 1]) :=
      fun u hu ↦ (Token.plain_words hu).append (Token.plain_single (Token.leads_indent 1))
    refine (hi [.newline] (by decide)).append
      (Token.plain_intercalate (hi [.comma, .newline] (by decide)) ?_)
    intro part hp
    obtain ⟨i, hm, rfl⟩ := List.mem_map.mp hp
    exact h i hm

private theorem section_joins {joins : List Join} (h : ∀ j ∈ joins, Token.Plain x j.tokens) :
    Section x [] (Token.textOf (joins.flatMap fun j => .newline :: j.tokens)) := by
  induction joins with
  | nil => exact .ofNil
  | cons j rest ih =>
    rw [List.flatMap_cons, Token.textOf_append]
    exact (Section.ofLine (h j List.mem_cons_self)).followedBy
      (ih fun i hi ↦ h i (List.mem_cons_of_mem j hi))

/-- The body of a query is put together from the clauses of its condition on rows and then those of
its condition on groups. -/
theorem Plain.composed_bodyTokens {q : Query} (hq : q.Plain x) (condition groupCondition : String)
    (hw : q.condition = Text.unlessEmpty condition) (hc : Composed x ks condition)
    (hg : q.groupCondition = Text.unlessEmpty groupCondition) (hh : Composed x ls groupCondition) :
    Composed x (ks ++ ls) (Token.textOf q.bodyTokens) := by
  have hsource := section_clauseTokens (x := x) .from (by decide)
    (List.forall_mem_map.mpr fun s hs ↦ hq.source s (Option.mem_toList.mp hs))
  have hgroups := section_clauseTokens (x := x) .groupBy (by decide)
    (List.forall_mem_map.mpr hq.groups)
  have horder := section_clauseTokens (x := x) .orderBy (by decide)
    (List.forall_mem_map.mpr hq.order)
  have hwhere := section_condition .where (by decide) hc
  have hhaving := section_condition .having (by decide) hh
  have hfirst : x.Leads (Token.textOf (selectTokens q.items)) := plain_selectTokens hq.items
  have hrest := ((((hsource.append (section_joins hq.joins)).append hwhere).followedBy
    hgroups).append hhaving).followedBy horder |>.followedBy
      (section_limitTokens hq.limitOffset)
  have hall := hfirst.before hrest.composed
  simp only [List.nil_append] at hall
  rw [bodyTokens, hw, hg]
  simp only [Token.textOf_append, String.append_assoc] at hall ⊢
  exact hall

private theorem Plain.composed_sql {q : Query} (hq : q.Plain x) (hc : q.ctes = [])
    (hw : q.condition = none) (hg : q.groupCondition = none) : Composed x [] q.sql := by
  rw [sql, tokens_eq_bodyTokens hc]
  exact hq.composed_bodyTokens "" "" hw .nil hg .nil

/-! ### Pages -/

/-- The query that counts all rows. -/
def countRows : Query :=
  { items := [⟨.raw "COUNT(*)", some totalCountColumn⟩], source := some { table := rowsRelation } }

/-- The query for the rows of a page. -/
def pageRows (sorts : List SortSpec) (page : AppliedPage) : Query :=
  { items := [{ expr := .star (some rowsRelation) }, ⟨.raw "1", some pageRowColumn⟩]
    source := some { table := rowsRelation }
    order := sorts.map fun s => ⟨.column none s.column, s.direction⟩
    limitOffset := some ⟨some page.pageSize, some page.offset⟩ }

/-- The query that puts the rows of a page beside the number of all rows. -/
def pageAndCount (sorts : List SortSpec) : Query :=
  { items :=
      [{ expr := .star (some pageRelation) },
        { expr := .column (some countRelation) totalCountColumn }]
    source := some { table := countRelation }
    joins := [⟨.left, { table := pageRelation }, some "TRUE"⟩]
    order := sorts.map fun s => ⟨.column (some pageRelation) s.column, s.direction⟩ }

/-- A common table expression before its query. -/
def cteStart (name : String) : List Token := [.name name, .space, .as, .space, .openParen, .newline]

/-- A common table expression after its query. -/
def cteEnd : List Token := [.newline, .closeParen]

/-- The tokens of a wrapped query stand around those of the query. -/
theorem tokens_paged (inner : Query) (sorts : List SortSpec) (page : AppliedPage) :
    (inner.paged sorts page).tokens =
      [.with, .space] ++ cteStart rowsRelation ++ (inner.tokens ++
        (cteEnd ++ [.comma, .space] ++ cteStart countRelation ++
          (countRows.tokens ++
            (cteEnd ++ [.comma, .space] ++ cteStart pageRelation ++
              ((pageRows sorts page).tokens ++
                (cteEnd ++ [.newline] ++ (pageAndCount sorts).tokens)))))) := by
  have hc : (inner.paged sorts page).ctes =
      [(rowsRelation, inner), (countRelation, countRows),
        (pageRelation, pageRows sorts page)] := rfl
  have hb : (inner.paged sorts page).bodyTokens = (pageAndCount sorts).tokens :=
    (tokens_eq_bodyTokens (q := pageAndCount sorts) rfl).symm
  rw [tokens_eq, hc, hb, if_neg (by simp)]
  simp only [cteTokens, commaSeparated, List.intercalate_cons_cons, List.intercalate_singleton,
    List.append_assoc, cteStart, cteEnd]

/-- A wrapped query is written around the text of the query. -/
theorem sql_paged (inner : Query) (sorts : List SortSpec) (page : AppliedPage) :
    (inner.paged sorts page).sql =
      Token.textOf ([.with, .space] ++ cteStart rowsRelation) ++ (inner.sql ++
        (Token.textOf (cteEnd ++ [.comma, .space] ++ cteStart countRelation) ++
          (countRows.sql ++
            (Token.textOf (cteEnd ++ [.comma, .space] ++ cteStart pageRelation) ++
              ((pageRows sorts page).sql ++
                (Token.textOf (cteEnd ++ [.newline]) ++ (pageAndCount sorts).sql)))))) := by
  rw [sql, tokens_paged]
  simp only [Token.textOf_append, sql, String.append_assoc]

private theorem plain_cteStart {name : String} (h : name ∈ vocabulary) :
    Token.Plain x (cteStart name) :=
  .cons (.word h) (Token.plain_words (by decide))

private theorem plain_countRows : countRows.Plain x where
  items := by
    intro i hi
    rw [List.mem_singleton.mp hi]
    exact plain_named (ColumnExpr.plain_raw (.word (by decide))) (.word (by decide))
  source := by
    intro s hs
    cases hs
    exact Token.plain_single (.word (by decide))
  joins := by simp [countRows]
  groups := by simp [countRows]
  order := by simp [countRows]
  limitOffset := by simp [countRows]

private theorem plain_pageRows {sorts : List SortSpec} (h : ∀ s ∈ sorts, x.Leads s.column)
    {page : AppliedPage} (hp : ∀ n ∈ [page.pageSize, page.offset], n ∈ x.numbers) :
    (pageRows sorts page).Plain x where
  items := by
    intro i hi
    rcases List.mem_cons.mp hi with rfl | hi
    · exact plain_unnamed (ColumnExpr.plain_star (.word (by decide)))
    · rw [List.mem_singleton.mp hi]
      exact plain_named (ColumnExpr.plain_raw (.word (by decide))) (.word (by decide))
  source := by
    intro s hs
    cases hs
    exact Token.plain_single (.word (by decide))
  joins := by simp [pageRows]
  groups := by simp [pageRows]
  order := List.forall_mem_map.mpr fun s hs ↦
    plain_orderItem (ColumnExpr.plain_column (h s hs)) s.direction
  limitOffset := by
    intro w hw
    cases hw
    have hlimit := hp page.pageSize List.mem_cons_self
    have hoffset := hp page.offset (List.mem_cons_of_mem _ List.mem_cons_self)
    refine Token.Plain.append (a := [.limit, .space]) (Token.plain_words (by decide)) ?_
    refine Token.Plain.cons (.single (.number hlimit)) ?_
    exact .append (a := [.space, .offset, .space]) (Token.plain_words (by decide))
      (Token.plain_single (.single (.number hoffset)))

private theorem plain_pageAndCount {sorts : List SortSpec} (h : ∀ s ∈ sorts, x.Leads s.column) :
    (pageAndCount sorts).Plain x where
  items := by
    intro i hi
    rcases List.mem_cons.mp hi with rfl | hi
    · exact plain_unnamed (ColumnExpr.plain_star (.word (by decide)))
    · rw [List.mem_singleton.mp hi]
      exact plain_unnamed (ColumnExpr.plain_qualified (.word (by decide)) (.word (by decide)))
  source := by
    intro s hs
    cases hs
    exact Token.plain_single (.word (by decide))
  joins := by
    intro j hj
    rw [List.mem_singleton.mp hj]
    refine Token.Plain.append (a := [.left, .space, .join, .space])
      (Token.plain_words (by decide)) ?_
    refine Token.Plain.cons (.word (by decide)) ?_
    exact .append (a := [.space, .on, .space]) (Token.plain_words (by decide))
      (Token.plain_single (.word (by decide)))
  groups := by simp [pageAndCount]
  order := List.forall_mem_map.mpr fun s hs ↦
    plain_orderItem (ColumnExpr.plain_qualified (.word (by decide)) (h s hs)) s.direction
  limitOffset := by simp [pageAndCount]

/-- A wrapped query is put together from the clauses of the query. -/
theorem composed_paged {inner : Query} (h : Composed x ks inner.sql) {sorts : List SortSpec}
    (hs : ∀ s ∈ sorts, x.Leads s.column) {page : AppliedPage}
    (hp : ∀ n ∈ [page.pageSize, page.offset], n ∈ x.numbers) :
    Composed x ks (inner.paged sorts page).sql := by
  have hend {tokens : List Token} {s : String} (ht : Token.Plain x tokens) (hs : Composed x [] s) :
      Section x [] (Token.textOf (cteEnd ++ tokens) ++ s) :=
    .line (.append (a := [.closeParen]) (Token.plain_words (by decide)) ht) hs
  have hnext (name : String) {s : String} (hn : name ∈ vocabulary) (hs : Composed x [] s) :
      Section x [] (Token.textOf (cteEnd ++ [.comma, .space] ++ cteStart name) ++ s) := by
    rw [List.append_assoc]
    exact hend ((Token.plain_words (by decide)).append (plain_cteStart hn)) hs
  have hfirst : Token.Plain x ([.with, .space] ++ cteStart rowsRelation) :=
    (Token.plain_words (by decide)).append (plain_cteStart (by decide))
  have hcount : Composed x [] countRows.sql := plain_countRows.composed_sql rfl rfl rfl
  have hrows := (plain_pageRows hs hp).composed_sql rfl rfl rfl
  have hlast := (plain_pageAndCount hs).composed_sql rfl rfl rfl
  have hafter {a b : String} (ha : Composed x [] a) (hb : Section x [] b) :
      Composed x [] (a ++ b) := ha.append hb.composed hb.separate
  have hrest := hnext countRelation (by decide) (hafter hcount
    (hnext pageRelation (by decide) (hafter hrows
      (hend (Token.plain_words (a := [.newline]) (by decide)) hlast))))
  rw [sql_paged, ← List.append_nil ks]
  exact Lexicon.Leads.before hfirst (h.append hrest.composed hrest.separate)

end Query

end TabularReport
