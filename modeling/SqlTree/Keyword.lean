/-!
# Keywords

The words that the grammar knows. A reserved word never stands for a name; every other keyword is
recognised where the grammar asks for it and is an ordinary name elsewhere.
-/

namespace SqlTree

/-- A keyword, named by its spelling. -/
inductive Keyword where
  | SELECT | FROM | WHERE | ORDER | BY | GROUP | HAVING | LIMIT | OFFSET | DISTINCT | ALL | ASC
  | DESC | NULLS | FIRST | LAST
  | JOIN | INNER | LEFT | RIGHT | FULL | OUTER | CROSS | ON | USING
  | UNION | INTERSECT | EXCEPT
  | INSERT | INTO | VALUES | UPDATE | SET | DELETE | DEFAULT | RETURNING
  | AND | OR | NOT | IN | BETWEEN | LIKE | ILIKE | IS | NULL | TRUE | FALSE | EXISTS | CASE
  | WHEN | THEN | ELSE | END | CAST | AS
  | CREATE | ALTER | DROP | TRUNCATE | TABLE | INDEX | VIEW | SCHEMA | SEQUENCE | TEMP
  | TEMPORARY | UNLOGGED | IF | WITH | TO | RENAME | OWNER | CASCADE | RESTRICT
  | START | INCREMENT | MINVALUE | MAXVALUE | NO | CACHE | CYCLE | OWNED | NONE | RESTART
deriving DecidableEq, Repr

namespace Keyword

/-- Every keyword once. -/
def all : List Keyword := [
  .SELECT, .FROM, .WHERE, .ORDER, .BY, .GROUP, .HAVING, .LIMIT, .OFFSET, .DISTINCT, .ALL, .ASC,
  .DESC, .NULLS, .FIRST, .LAST, .JOIN, .INNER, .LEFT, .RIGHT, .FULL, .OUTER, .CROSS, .ON, .USING,
  .UNION, .INTERSECT, .EXCEPT, .INSERT, .INTO, .VALUES, .UPDATE, .SET, .DELETE, .DEFAULT,
  .RETURNING, .AND, .OR, .NOT, .IN, .BETWEEN, .LIKE, .ILIKE, .IS, .NULL, .TRUE, .FALSE, .EXISTS,
  .CASE, .WHEN, .THEN, .ELSE, .END, .CAST, .AS, .CREATE, .ALTER, .DROP, .TRUNCATE, .TABLE,
  .INDEX, .VIEW, .SCHEMA, .SEQUENCE, .TEMP, .TEMPORARY, .UNLOGGED, .IF, .WITH, .TO, .RENAME,
  .OWNER, .CASCADE, .RESTRICT, .START, .INCREMENT, .MINVALUE, .MAXVALUE, .NO, .CACHE, .CYCLE,
  .OWNED, .NONE, .RESTART]

/-- The upper-case spelling of a keyword. -/
def spelling : Keyword → String
  | .SELECT => "SELECT"
  | .FROM => "FROM"
  | .WHERE => "WHERE"
  | .ORDER => "ORDER"
  | .BY => "BY"
  | .GROUP => "GROUP"
  | .HAVING => "HAVING"
  | .LIMIT => "LIMIT"
  | .OFFSET => "OFFSET"
  | .DISTINCT => "DISTINCT"
  | .ALL => "ALL"
  | .ASC => "ASC"
  | .DESC => "DESC"
  | .NULLS => "NULLS"
  | .FIRST => "FIRST"
  | .LAST => "LAST"
  | .JOIN => "JOIN"
  | .INNER => "INNER"
  | .LEFT => "LEFT"
  | .RIGHT => "RIGHT"
  | .FULL => "FULL"
  | .OUTER => "OUTER"
  | .CROSS => "CROSS"
  | .ON => "ON"
  | .USING => "USING"
  | .UNION => "UNION"
  | .INTERSECT => "INTERSECT"
  | .EXCEPT => "EXCEPT"
  | .INSERT => "INSERT"
  | .INTO => "INTO"
  | .VALUES => "VALUES"
  | .UPDATE => "UPDATE"
  | .SET => "SET"
  | .DELETE => "DELETE"
  | .DEFAULT => "DEFAULT"
  | .RETURNING => "RETURNING"
  | .AND => "AND"
  | .OR => "OR"
  | .NOT => "NOT"
  | .IN => "IN"
  | .BETWEEN => "BETWEEN"
  | .LIKE => "LIKE"
  | .ILIKE => "ILIKE"
  | .IS => "IS"
  | .NULL => "NULL"
  | .TRUE => "TRUE"
  | .FALSE => "FALSE"
  | .EXISTS => "EXISTS"
  | .CASE => "CASE"
  | .WHEN => "WHEN"
  | .THEN => "THEN"
  | .ELSE => "ELSE"
  | .END => "END"
  | .CAST => "CAST"
  | .AS => "AS"
  | .CREATE => "CREATE"
  | .ALTER => "ALTER"
  | .DROP => "DROP"
  | .TRUNCATE => "TRUNCATE"
  | .TABLE => "TABLE"
  | .INDEX => "INDEX"
  | .VIEW => "VIEW"
  | .SCHEMA => "SCHEMA"
  | .SEQUENCE => "SEQUENCE"
  | .TEMP => "TEMP"
  | .TEMPORARY => "TEMPORARY"
  | .UNLOGGED => "UNLOGGED"
  | .IF => "IF"
  | .WITH => "WITH"
  | .TO => "TO"
  | .RENAME => "RENAME"
  | .OWNER => "OWNER"
  | .CASCADE => "CASCADE"
  | .RESTRICT => "RESTRICT"
  | .START => "START"
  | .INCREMENT => "INCREMENT"
  | .MINVALUE => "MINVALUE"
  | .MAXVALUE => "MAXVALUE"
  | .NO => "NO"
  | .CACHE => "CACHE"
  | .CYCLE => "CYCLE"
  | .OWNED => "OWNED"
  | .NONE => "NONE"
  | .RESTART => "RESTART"

/-- The lower-case spelling of a keyword: the name that an unreserved keyword stands for. -/
def name (keyword : Keyword) : String :=
  String.ofList (keyword.spelling.toList.map Char.toLower)

/-- Whether a keyword can never be a name. -/
def isReserved : Keyword → Bool
  | .SELECT | .FROM | .WHERE | .ORDER | .GROUP | .HAVING | .LIMIT | .OFFSET | .DISTINCT | .ALL
  | .ASC | .DESC | .JOIN | .INNER | .LEFT | .RIGHT | .FULL | .OUTER | .CROSS | .ON | .USING
  | .UNION | .INTERSECT | .EXCEPT | .INTO | .DEFAULT | .RETURNING | .AND | .OR | .NOT | .IN
  | .BETWEEN | .LIKE | .ILIKE | .IS | .NULL | .TRUE | .FALSE | .CASE | .WHEN | .THEN | .ELSE
  | .END | .CAST | .AS | .CREATE | .TABLE | .WITH | .TO => true
  | _ => false

/-- The keyword that a word spells, where the letters A to Z may be in either case. -/
def ofWord? (word : List Char) : Option Keyword :=
  let upper := word.map Char.toUpper
  all.find? fun keyword => keyword.spelling.toList == upper

end Keyword

end SqlTree
