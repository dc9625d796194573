/-!
# Tokens of a statement

A statement is written as a list of tokens. Names are written as they are, so only checked names may
become tokens; values never do, compiled filters hold placeholders for them.
-/

namespace TabularReport

/-- An element of a statement. -/
inductive Token where
  | select
  | from
  | where
  | as
  | on
  | join
  | inner
  | left
  | right
  | full
  | outer
  | groupBy
  | having
  | orderBy
  | asc
  | desc
  | limit
  | offset
  | with
  | comma
  | dot
  | star
  | openParen
  | closeParen
  | space
  | newline
  /-- Two blanks for each level. -/
  | indent (levels : Nat)
  | name (name : String)
  | qualifiedName (qualifier name : String)
  | number (value : Nat)
  /-- A fragment that is written already. -/
  | raw (sql : String)
deriving DecidableEq, Inhabited

/-- The text of a token. -/
def Token.text : Token → String
  | .select => "SELECT"
  | .from => "FROM"
  | .where => "WHERE"
  | .as => "AS"
  | .on => "ON"
  | .join => "JOIN"
  | .inner => "INNER"
  | .left => "LEFT"
  | .right => "RIGHT"
  | .full => "FULL"
  | .outer => "OUTER"
  | .groupBy => "GROUP BY"
  | .having => "HAVING"
  | .orderBy => "ORDER BY"
  | .asc => "ASC"
  | .desc => "DESC"
  | .limit => "LIMIT"
  | .offset => "OFFSET"
  | .with => "WITH"
  | .comma => ","
  | .dot => "."
  | .star => "*"
  | .openParen => "("
  | .closeParen => ")"
  | .space => " "
  | .newline => "\n"
  | .indent levels => String.ofList (List.replicate (2 * levels) ' ')
  | .name n => n
  | .qualifiedName qualifier n => qualifier ++ "." ++ n
  | .number value => toString value
  | .raw sql => sql

/-- The text of a list of tokens: their texts one after another. -/
def Token.textOf : List Token → String
  | [] => ""
  | t :: rest => t.text ++ textOf rest

/-- The text of two lists is the two texts one after the other. -/
theorem Token.textOf_append (a b : List Token) :
    Token.textOf (a ++ b) = Token.textOf a ++ Token.textOf b := by
  induction a with
  | nil => simp [Token.textOf]
  | cons t rest ih => simp [Token.textOf, ih, String.append_assoc]

end TabularReport
