import TabularReport.Sql.Phrase

/-!
# Reading queries

Expressions are read by the strength of their operators, queries clause by clause. Every reader takes a
bound on the depth of its calls.
-/

namespace TabularReport.Sql

mutual

/-- Read an expression whose operators bind at least as tightly as `least`. -/
def readExpr : Nat → Nat → Step Expr
  | 0, _, _ => none
  | depth + 1, least, ls => do
    let (left, rest) ← readOperand depth ls
    readOperators depth least left rest

/-- Read the operators that follow an operand. -/
def readOperators : Nat → Nat → Expr → Step Expr
  | 0, _, _, _ => none
  | depth + 1, least, left, ls =>
    match readTest ls with
    | some (name, rest) =>
      if 4 < least then some (left, ls) else readOperators depth least (.operation name [left]) rest
    | none =>
      match ls with
      | .symbol "::" :: rest => do
        let (type, more) ← readType rest
        readOperators depth least (.operation ("CAST " ++ Text.lower type) [left]) more
      | .symbol "[" :: rest => do
        let (index, more) ← readExpr depth 0 rest
        let more ← match afterSymbol ":" more with
          | some tail => (readExpr depth 0 tail).map (·.2)
          | none => some more
        readOperators depth least (.operation "ITEM" [left, index]) (← afterSymbol "]" more)
      | .symbol s :: rest =>
        match symbolRank? s with
        | none => some (left, ls)
        | some rank =>
          if rank < least then some (left, ls)
          else do
            let (right, more) ← readExpr depth (rank + 1) rest
            readOperators depth least (.operation s [left, right]) more
      | .word w :: rest => readWordOperator depth least left (Text.lower w) rest ls
      | _ => some (left, ls)

/-- Read an operator that is a word. `rest` follows the word, `ls` starts with it. -/
def readWordOperator : Nat → Nat → Expr → String → List Lexeme → Step Expr
  | 0, _, _, _, _, _ => none
  | depth + 1, least, left, word, rest, ls =>
    match word with
    | "or" => do
      if 1 < least then return (left, ls)
      let (right, more) ← readExpr depth 2 rest
      readOperators depth least (.operation "OR" [left, right]) more
    | "and" => do
      if 2 < least then return (left, ls)
      let (right, more) ← readExpr depth 3 rest
      readOperators depth least (.operation "AND" [left, right]) more
    | "collate" => do
      let (_, more) ← readName rest
      readOperators depth least left more
    | "at" =>
      match afterWords ["time", "zone"] rest with
      | some more => do
        let (zone, after) ← readExpr depth 9 more
        readOperators depth least (.operation "AT TIME ZONE" [left, zone]) after
      | none => some (left, ls)
    | "not" =>
      if 4 < least then some (left, ls)
      else
        match rest with
        | .word w :: more => readMatch depth least left "NOT " (Text.lower w) more
        | _ => none
    | "in" | "between" | "like" | "ilike" | "similar" | "glob" | "regexp" =>
      if 4 < least then some (left, ls) else readMatch depth least left "" word rest
    | "is" =>
      if 4 < least then some (left, ls)
      else
        match afterWords ["distinct", "from"] rest, afterWords ["not", "distinct", "from"] rest with
        | some more, _ => do
          let (right, after) ← readExpr depth 5 more
          readOperators depth least (.operation "IS DISTINCT FROM" [left, right]) after
        | none, some more => do
          let (right, after) ← readExpr depth 5 more
          readOperators depth least (.operation "IS NOT DISTINCT FROM" [left, right]) after
        | none, none => none
    | _ => some (left, ls)

/-- Read the rest of a comparison with a list, a range or a pattern; `negation` goes before its name. -/
def readMatch : Nat → Nat → Expr → String → String → Step Expr
  | 0, _, _, _, _, _ => none
  | depth + 1, least, left, negation, word, ls =>
    match word with
    | "in" => do
      let rest ← afterSymbol "(" ls
      if startsWith "select" rest || startsWith "with" rest || startsWith "values" rest then
        let (query, more) ← readSelect depth rest
        let after ← afterSymbol ")" more
        let test := Expr.inQuery left query
        readOperators depth least (if negation = "" then test else .operation "NOT" [test]) after
      else
        let (items, more) ← readExprs depth rest
        let after ← afterSymbol ")" more
        readOperators depth least (.operation (negation ++ "IN") (left :: items)) after
    | "between" => do
      let (low, more) ← readExpr depth 5 ls
      let more ← afterWord "and" more
      let (high, after) ← readExpr depth 5 more
      readOperators depth least (.operation (negation ++ "BETWEEN") [left, low, high]) after
    | "like" | "ilike" | "similar" | "glob" | "regexp" => do
      let rest ← if word = "similar" then afterWord "to" ls else some ls
      let (right, more) ← readExpr depth 5 rest
      let after ← match afterWord "escape" more with
        | some tail => (readExpr depth 5 tail).map (·.2)
        | none => some more
      readOperators depth least (.operation (negation ++ word.toUpper) [left, right]) after
    | _ => none

/-- Read an operand. -/
def readOperand : Nat → Step Expr
  | 0, _ => none
  | depth + 1, ls =>
    match ls with
    | .number n :: rest => some (.literal (numberCell n), rest)
    | .text s :: rest => some (.literal (.text s), rest)
    | .blob ds :: rest => (blobBytes ds).map fun bytes => (.literal (.blob bytes), rest)
    | .placeholder n :: rest => some (.placeholder ("$" ++ n), rest)
    | .symbol ":" :: .word w :: rest => some (.placeholder (":" ++ w), rest)
    | .symbol "[" :: .symbol "]" :: rest => some (.operation "ARRAY" [], rest)
    | .symbol "[" :: rest => do
      let (items, after) ← readExprs depth rest
      return (.operation "ARRAY" items, ← afterSymbol "]" after)
    | .symbol "-" :: rest => do
      let (e, more) ← readExpr depth 10 rest
      return (.operation "-" [e], more)
    | .symbol "+" :: rest => readExpr depth 10 rest
    | .symbol "~" :: rest => do
      let (e, more) ← readExpr depth 10 rest
      return (.operation "~" [e], more)
    | .symbol "@" :: rest => do
      let (e, more) ← readExpr depth 10 rest
      return (.operation "@" [e], more)
    | .symbol "(" :: rest =>
      if startsWith "select" rest || startsWith "with" rest || startsWith "values" rest then do
        let (query, more) ← readSelect depth rest
        return (.subquery false query, ← afterSymbol ")" more)
      else do
        let (items, more) ← readExprs depth rest
        let after ← afterSymbol ")" more
        match items with
        | [e] => return (e, after)
        | _ => return (.operation "ROW" items, after)
    | .quotedName n :: rest => readColumn depth n rest
    | .word w :: rest => readWordOperand depth w (Text.lower w) rest
    | _ => none

/-- Read an operand that starts with a word; `lower` is the word in lower case. -/
def readWordOperand : Nat → String → String → Step Expr
  | 0, _, _, _ => none
  | depth + 1, w, lower, rest =>
    match lower with
    | "null" => some (.literal .null, rest)
    | "true" => some (.literal (.integer 1), rest)
    | "false" => some (.literal (.integer 0), rest)
    | "not" => do
      let (e, more) ← readExpr depth 3 rest
      return (.operation "NOT" [e], more)
    | "exists" => do
      let more ← afterSymbol "(" rest
      let (query, after) ← readSelect depth more
      return (.subquery true query, ← afterSymbol ")" after)
    | "case" => do
      let (first, more) ← if startsWith "when" rest then some (Expr.literal (.integer 1), rest)
        else readExpr depth 0 rest
      let (branches, after) ← readBranches depth more
      return (.operation (if startsWith "when" rest then "CASE" else "CASE OF") (first :: branches), after)
    | "cast" => do
      let more ← afterSymbol "(" rest
      let (e, more) ← readExpr depth 0 more
      let more ← afterWord "as" more
      let (type, after) ← readType more
      return (.operation ("CAST " ++ Text.lower type) [e], ← afterSymbol ")" after)
    | "extract" =>
      match rest with
      | .symbol "(" :: more => do
        let (_, more) ← readName more
        let more ← afterWord "from" more
        let (e, after) ← readExpr depth 0 more
        return (.call "EXTRACT" false [e], ← afterSymbol ")" after)
      | _ => readColumn depth w rest
    | "interval" | "date" | "timestamp" | "time" =>
      match rest with
      | .text s :: more => some (.literal (.text s), more)
      | _ => readColumn depth w rest
    | "array" =>
      match rest with
      | .symbol "[" :: .symbol "]" :: more => some (.operation "ARRAY" [], more)
      | .symbol "[" :: more => do
        let (items, after) ← readExprs depth more
        return (.operation "ARRAY" items, ← afterSymbol "]" after)
      | _ => readColumn depth w rest
    | _ => if clauseWords.contains lower then none else readColumn depth w rest

/-- Read the branches of a case distinction: conditions and results, and at last the default. -/
def readBranches : Nat → Step (List Expr)
  | 0, _ => none
  | depth + 1, ls =>
    match afterWord "when" ls with
    | some rest => do
      let (condition, more) ← readExpr depth 0 rest
      let more ← afterWord "then" more
      let (result, more) ← readExpr depth 0 more
      if startsWith "when" more then
        let (branches, after) ← readBranches depth more
        return (condition :: result :: branches, after)
      else
        match afterWord "else" more with
        | some tail => do
          let (default, after) ← readExpr depth 0 tail
          return ([condition, result, default], ← afterWord "end" after)
        | none => return ([condition, result], ← afterWord "end" more)
    | none => none

/-- Read a column or a call that starts with a name. -/
def readColumn : Nat → String → Step Expr
  | 0, _, _ => none
  | depth + 1, name, ls =>
    match ls with
    | .symbol "." :: .symbol "*" :: rest => some (.star (some name), rest)
    | .symbol "." :: rest => do
      let (column, more) ← readName rest
      match more with
      | .symbol "(" :: _ | .symbol "." :: _ => readColumn depth column more
      | _ => return (.column (some name) column, more)
    | .symbol "(" :: .symbol ")" :: rest => readWindow (.call name.toUpper false []) rest
    | .symbol "(" :: .symbol "*" :: .symbol ")" :: rest =>
      readWindow (.call name.toUpper false [.star none]) rest
    | .symbol "(" :: rest =>
      if startsWith "select" rest || startsWith "with" rest then do
        let (query, more) ← readSelect depth rest
        return (.call name.toUpper false [.subquery false query], ← afterSymbol ")" more)
      else
        match partCall? (Text.lower name) rest with
        | some tail => do
          let (first, more) ← readExpr depth 5 tail
          let (args, more) ← readParts depth more
          return (.call name.toUpper false (first :: args), ← afterSymbol ")" more)
        | none => do
          let distinct := startsWith "distinct" rest
          let (args, more) ← readExprs depth (skipWord "all" (skipWord "distinct" rest))
          let more ← match afterWords ["order", "by"] more with
            | some tail => (readOrder depth tail).map (·.2)
            | none => some more
          let after ← afterSymbol ")" more
          readWindow (.call name.toUpper distinct args) after
    | _ => some (.column none name, ls)

/-- Read the arguments of a call whose further arguments are introduced by words or commas. -/
def readParts : Nat → Step (List Expr)
  | 0, _ => none
  | depth + 1, ls =>
    match afterPartWord? ls with
    | none => some ([], ls)
    | some rest => do
      let (e, more) ← readExpr depth 5 rest
      let (es, after) ← readParts depth more
      return (e :: es, after)

/-- Read expressions separated by commas. -/
def readExprs : Nat → Step (List Expr)
  | 0, _ => none
  | depth + 1, ls => do
    let (e, rest) ← readExpr depth 0 ls
    match afterSymbol "," rest with
    | some more =>
      let (es, after) ← readExprs depth more
      return (e :: es, after)
    | none => return ([e], rest)

/-- Read a relation and the joins that follow it. -/
def readRelation : Nat → Step Relation
  | 0, _ => none
  | depth + 1, ls => do
    let (first, rest) ← readFactor depth ls
    readJoins depth first rest

/-- Read a relation without joins. -/
def readFactor : Nat → Step Relation
  | 0, _ => none
  | depth + 1, ls =>
    match afterSymbol "(" (skipWord "lateral" ls) with
    | some rest =>
      if startsWith "select" rest || startsWith "with" rest || startsWith "values" rest then do
        let (query, more) ← readSelect depth rest
        let more ← afterSymbol ")" more
        let (aliasName, after) ← readAlias more
        return (.derived query aliasName, after)
      else do
        let (relation, more) ← readRelation depth rest
        let more ← afterSymbol ")" more
        let (_, after) ← readAlias more
        return (relation, after)
    | none => do
      let (name, rest) ← readRelationName ls
      let rest ← match afterSymbol "(" rest with
        | some tail => afterClosing 0 tail
        | none => some rest
      let (aliasName, after) ← readAlias rest
      return (.table name aliasName, after)

/-- Read the joins that follow a relation. -/
def readJoins : Nat → Relation → Step Relation
  | 0, _, _ => none
  | depth + 1, left, ls =>
    match joinHead? ls with
    | none => some (left, ls)
    | some (kind, rest) => do
      let (right, more) ← readFactor depth rest
      if kind = "CROSS" then readJoins depth (.join kind left right none) more
      else
        match afterWord "on" more, afterWord "using" more with
        | some tail, _ => do
          let (condition, after) ← readExpr depth 0 tail
          readJoins depth (.join kind left right (some condition)) after
        | none, some tail => do
          let tail ← afterSymbol "(" tail
          let (_, after) ← readNames depth tail
          readJoins depth (.join kind left right none) (← afterSymbol ")" after)
        | none, none => readJoins depth (.join kind left right none) more

/-- Read the rows of a query, with the queries it is combined with. -/
def readBody : Nat → Step Body
  | 0, _ => none
  | depth + 1, ls => do
    let (first, rest) ← readTerm depth ls
    readCombinations depth first rest

/-- Read the queries that one is combined with. -/
def readCombinations : Nat → Body → Step Body
  | 0, _, _ => none
  | depth + 1, left, ls =>
    match combination? ls with
    | none => some (left, ls)
    | some (how, rest) => do
      let all := startsWith "all" rest
      let (right, more) ← readTerm depth (skipWord "distinct" (skipWord "all" rest))
      readCombinations depth (.combined how all left right) more

/-- Read a query that is combined with none. -/
def readTerm : Nat → Step Body
  | 0, _ => none
  | depth + 1, ls =>
    match afterSymbol "(" ls, afterWord "values" ls, afterWord "select" ls with
    | some rest, _, _ => do
      let (query, more) ← readSelect depth rest
      return (.nested query, ← afterSymbol ")" more)
    | none, some rest, _ => do
      let (rows, more) ← readRows depth rest
      return (.values rows, more)
    | none, none, some rest => readClauses depth rest
    | none, none, none => none

/-- Read rows of values. -/
def readRows : Nat → Step (List (List Expr))
  | 0, _ => none
  | depth + 1, ls => do
    let rest ← afterSymbol "(" ls
    let (row, more) ← readExprs depth rest
    let more ← afterSymbol ")" more
    match afterSymbol "," more with
    | some tail =>
      let (rows, after) ← readRows depth tail
      return (row :: rows, after)
    | none => return ([row], more)

/-- Read what follows the word that a query starts with. -/
def readClauses : Nat → Step Body
  | 0, _ => none
  | depth + 1, ls => do
    let distinct := startsWith "distinct" ls
    let rest ← match afterWords ["distinct", "on"] ls with
      | some tail => (afterSymbol "(" tail).bind (afterClosing 0)
      | none => some (skipWord "all" (skipWord "distinct" ls))
    let (items, rest) ← readItems depth rest
    let rest ← afterTarget rest
    let (source, rest) ← match afterWord "from" rest with
      | some tail => (readRelations depth tail).map fun (r, more) => (some r, more)
      | none => some (none, rest)
    let (condition, rest) ← match afterWord "where" rest with
      | some tail => (readExpr depth 0 tail).map fun (e, more) => (some e, more)
      | none => some (none, rest)
    let (groups, rest) ← match afterWords ["group", "by", "grouping", "sets"] rest,
        afterWords ["group", "by"] rest with
      | some tail, _ => ((afterSymbol "(" tail).bind (afterClosing 0)).map fun more => ([], more)
      | none, some tail => readExprs depth tail
      | none, none => some ([], rest)
    let (groupCondition, rest) ← match afterWord "having" rest with
      | some tail => (readExpr depth 0 tail).map fun (e, more) => (some e, more)
      | none => some (none, rest)
    let rest ← match afterWord "window" rest with
      | some tail => afterWindows depth tail
      | none => some rest
    let rest ← match afterWord "qualify" rest with
      | some tail => (readExpr depth 0 tail).map (·.2)
      | none => some rest
    return (.select distinct items source condition groups groupCondition, rest)

/-- Read relations separated by commas, which are joined without a condition. -/
def readRelations : Nat → Step Relation
  | 0, _ => none
  | depth + 1, ls => do
    let (first, rest) ← readRelation depth ls
    match afterSymbol "," rest with
    | some tail =>
      let (more, after) ← readRelations depth tail
      return (.join "CROSS" first more none, after)
    | none => return (first, rest)

/-- Read the items of a select list. -/
def readItems : Nat → Step (List (Expr × Option String))
  | 0, _ => none
  | depth + 1, ls => do
    let (item, rest) ← match afterSymbol "*" ls with
      | some tail => some ((Expr.star none, none), tail)
      | none => do
        let (e, more) ← readExpr depth 0 ls
        match e with
        | .star _ => pure ((e, none), more)
        | _ =>
          let (name, after) ← readAlias more
          pure ((e, name), after)
    match afterSymbol "," rest with
    | some tail =>
      let (items, after) ← readItems depth tail
      return (item :: items, after)
    | none => return ([item], rest)

/-- Read expressions to sort by. -/
def readOrder : Nat → Step (List (Expr × Bool))
  | 0, _ => none
  | depth + 1, ls => do
    let (e, rest) ← readExpr depth 0 ls
    let falling := startsWith "desc" rest
    let rest := skipWord "desc" (skipWord "asc" rest)
    let rest := ((afterWords ["nulls", "first"] rest).or (afterWords ["nulls", "last"] rest)).getD rest
    match afterSymbol "," rest with
    | some tail =>
      let (items, after) ← readOrder depth tail
      return ((e, falling) :: items, after)
    | none => return ([(e, falling)], rest)

/-- Read the number of rows to return and to skip, in any order; a number of rows to fetch comes last. -/
def readLimits : Nat → Option Expr → Option Expr → Step (Option Expr × Option Expr)
  | 0, _, _, _ => none
  | depth + 1, limit, offset, ls =>
    match afterWord "limit" ls, afterWord "offset" ls with
    | some tail, _ =>
      match afterWord "all" tail with
      | some rest => readLimits depth limit offset rest
      | none => do
        let (e, rest) ← readExpr depth 0 tail
        readLimits depth (some e) offset rest
    | none, some tail => do
      let (e, rest) ← readExpr depth 0 tail
      readLimits depth limit (some e) (skipWord "rows" (skipWord "row" rest))
    | none, none =>
      match (afterWords ["fetch", "first"] ls).or (afterWords ["fetch", "next"] ls) with
      | some tail => do
        let (e, rest) ← readExpr depth 0 tail
        let rest ← afterWord "only" (skipWord "rows" (skipWord "row" rest))
        return ((some e, offset), rest)
      | none => some ((limit, offset), ls)

/-- Read named queries that a query may read. -/
def readCtes : Nat → Step (List (String × Select))
  | 0, _ => none
  | depth + 1, ls => do
    let (name, rest) ← readName ls
    let rest ← match afterSymbol "(" rest with
      | some tail => afterClosing 0 tail
      | none => some rest
    let rest ← afterWord "as" rest
    let rest ← afterSymbol "(" (skipWord "materialized" (skipWord "not" rest))
    let (query, rest) ← readSelect depth rest
    let rest ← afterSymbol ")" rest
    match afterSymbol "," rest with
    | some tail =>
      let (ctes, after) ← readCtes depth tail
      return ((name, query) :: ctes, after)
    | none => return ([(name, query)], rest)

/-- Read a query. After named queries a change of rows may stand in its place. -/
def readSelect : Nat → Step Select
  | 0, _ => none
  | depth + 1, ls => do
    let (ctes, rest) ← match afterWord "with" ls with
      | some tail => readCtes depth (skipWord "recursive" tail)
      | none => some ([], ls)
    if startsWith "insert" rest || startsWith "update" rest then
      let (body, rest) ← readChange depth rest
      return (.mk ctes body [] none none, rest)
    else
      let (body, rest) ← readBody depth rest
      let (order, rest) ← match afterWords ["order", "by"] rest with
        | some tail => readOrder depth tail
        | none => some ([], rest)
      let ((limit, offset), rest) ← readLimits depth none none rest
      return (.mk ctes body order limit offset, afterLock rest)

/-- Read new values of columns, separated by commas. -/
def readAssignments : Nat → Step (List (String × Expr))
  | 0, _ => none
  | depth + 1, ls => do
    let (name, rest) ← readRelationName ls
    let (e, rest) ← readExpr depth 0 (← afterSymbol "=" rest)
    match afterSymbol "," rest with
    | some tail =>
      let (more, after) ← readAssignments depth tail
      return ((name, e) :: more, after)
    | none => return ([(name, e)], rest)

/-- Read the condition on the rows to change, and whether something is returned of them. -/
def readChoice : Nat → Step (Option Expr × Bool)
  | 0, _ => none
  | depth + 1, ls => do
    let (condition, rest) ← match afterWord "where" ls with
      | some tail => (readExpr depth 0 tail).map fun (e, more) => (some e, more)
      | none => some (none, ls)
    match afterWord "returning" rest with
    | some tail => (readItems depth tail).map fun (_, more) => ((condition, true), more)
    | none => some ((condition, false), rest)

/-- Read a statement that removes, inserts or changes rows. Only new values for one relation are read in full.
-/
def readChange : Nat → Step Body
  | 0, _ => none
  | depth + 1, ls =>
    match afterWords ["delete", "from"] ls, afterWord "update" ls, afterWords ["insert", "into"] ls with
    | some tail, _, _ => do
      let (_, rest) ← readRelation depth tail
      let rest ← match afterWord "using" rest with
        | some more => (readRelations depth more).map (·.2)
        | none => some rest
      (readChoice depth rest).map fun (_, more) => (.change, more)
    | _, some tail, _ => do
      let (target, rest) ← readRelation depth tail
      let (assignments, rest) ← readAssignments depth (← afterWord "set" rest)
      let rest' ← match afterWord "from" rest with
        | some more => (readRelations depth more).map (·.2)
        | none => some rest
      let ((condition, returned), after) ← readChoice depth rest'
      match target, returned || startsWith "from" rest with
      | .table name none, false => return (.update name assignments condition, after)
      | _, _ => return (.change, after)
    | _, _, some tail => do
      let (_, rest) ← readRelationName (skipWord "table" tail)
      let rest ← match afterWord "as" rest with
        | some more => (readName more).map (·.2)
        | none => some rest
      let rest ← match afterSymbol "(" rest with
        | some more =>
          if startsWith "select" more || startsWith "with" more then some rest else afterClosing 0 more
        | none => some rest
      let rest ← match afterWords ["default", "values"] rest with
        | some more => some more
        | none => do
          let (_, rest) ← readSelect depth rest
          some (if startsWith "on" rest then rest.dropWhile (· ≠ .symbol ";") else rest)
      (readChoice depth rest).map fun (_, more) => (.change, more)
    | none, none, none => none

end

end TabularReport.Sql
