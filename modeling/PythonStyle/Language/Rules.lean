import PythonStyle.Grammar.Table
import PythonStyle.Language.Terminal

/-!
# The grammar of Python

The rules accept both Python 3 and the statements of Python 2, and they leave to
later checks what a tree can decide better.  Rules whose names start with an
underscore, and the classes of statements, expressions, patterns and parameters,
do not show in trees.

Main definitions:

- `grammar`: all rules, in order.
-/

namespace PythonStyle.Language

open Grammar (Body Rule RuleSet Side)

namespace Rules

/-- A body of the Python grammar. -/
abbrev Part := Body Terminal

/-! ## Notation -/

/-- A fixed text. -/
def lit (text : String) : Part := .terminal (.literal text none)

/-- One of several fixed texts. -/
def lits (texts : List String) : Part := .oneOf (texts.map lit)

/-- A rule. -/
def ref (name : String) : Part := .rule name

/-- A rule under a field. -/
def fld (name : String) (body : Part) : Part := .field name body

/-- A body that shows as a named node. -/
def shownAs (name : String) (body : Part) : Part := .label ⟨name, true⟩ body

/-- A body that shows as a token. -/
def tokenAs (name : String) (body : Part) : Part := .label ⟨name, false⟩ body

/-- One body after another. -/
def seq (bodies : List Part) : Part := .seqs bodies

/-- Any one of several bodies. -/
def one (bodies : List Part) : Part := .oneOf bodies

/-- A body or nothing. -/
def opt (body : Part) : Part := .optional body

/-- Any number of copies. -/
def many (body : Part) : Part := .many body

/-- At least one copy. -/
def some1 (body : Part) : Part := .repeated body

/-- Copies with commas between them. -/
def commas (body : Part) : Part := .separated (lit ",") body

/-- A body at a level. -/
def prec (value : Int) (body : Part) : Part := .level value none body

/-- A body at a level that groups to the left. -/
def precLeft (value : Int) (body : Part) : Part := .level value (some .left) body

/-- A body at a level that groups to the right. -/
def precRight (value : Int) (body : Part) : Part := .level value (some .right) body

/-- A body whose choice carries a weight. -/
def weighted (value : Int) (body : Part) : Part := .weight value body

/-! ## Terminals that stand in rules -/

/-- The end of a line. -/
def newline : Part := .terminal .newline

/-- The beginning of a deeper block. -/
def indent : Part := .terminal .indent

/-- The end of a block. -/
def dedent : Part := .terminal .dedent

/-- An identifier. -/
def identifier : Part := .terminal .identifier

/-- A whole number. -/
def integer : Part := .terminal .integer

/-- A number with a point or an exponent. -/
def float : Part := .terminal .float

/-- The word for truth. -/
def trueWord : Part := .terminal (.literal "True" (some "true"))

/-- The word for falsehood. -/
def falseWord : Part := .terminal (.literal "False" (some "false"))

/-- The word for nothing. -/
def noneWord : Part := .terminal (.literal "None" (some "none"))

/-- Three points. -/
def ellipsis : Part := .terminal (.literal "..." (some "ellipsis"))

/-! ## Levels of operators -/

/-- How tightly each kind of construct binds. -/
structure Levels where
  lambda : Int := -2
  typedParameter : Int := -1
  conditional : Int := -1
  parenthesized : Int := 1
  or : Int := 10
  and : Int := 11
  not : Int := 12
  comparison : Int := 13
  bitOr : Int := 14
  bitAnd : Int := 15
  bitXor : Int := 16
  shift : Int := 17
  plus : Int := 18
  times : Int := 19
  unary : Int := 20
  power : Int := 21
  call : Int := 22

/-- The levels of Python. -/
def levels : Levels := {}

/-! ## Rules -/

/-- Modules and simple statements. -/
def simpleStatements : List (Rule Terminal) := [
  ⟨"module", many (ref "_statement")⟩,
  ⟨"_statement", one [ref "_simple_statements", ref "_compound_statement"]⟩,
  ⟨"_simple_statements", seq [
    .separated (lit ";") (ref "_simple_statement"), opt (lit ";"), newline]⟩,
  ⟨"_simple_statement", one [
    ref "future_import_statement", ref "import_statement", ref "import_from_statement",
    ref "print_statement", ref "assert_statement", ref "expression_statement",
    ref "return_statement", ref "delete_statement", ref "raise_statement",
    ref "pass_statement", ref "break_statement", ref "continue_statement",
    ref "global_statement", ref "nonlocal_statement", ref "exec_statement",
    ref "type_alias_statement"]⟩,
  ⟨"import_statement", seq [lit "import", ref "_import_list"]⟩,
  ⟨"import_prefix", some1 (lit ".")⟩,
  ⟨"relative_import", seq [ref "import_prefix", opt (ref "dotted_name")]⟩,
  ⟨"future_import_statement", seq [
    lit "from", lit "__future__", lit "import",
    one [ref "_import_list", seq [lit "(", ref "_import_list", lit ")"]]]⟩,
  ⟨"import_from_statement", seq [
    lit "from", fld "module_name" (one [ref "relative_import", ref "dotted_name"]),
    lit "import",
    one [ref "wildcard_import", ref "_import_list", seq [lit "(", ref "_import_list", lit ")"]]]⟩,
  ⟨"_import_list", seq [
    commas (fld "name" (one [ref "dotted_name", ref "aliased_import"])), opt (lit ",")]⟩,
  ⟨"aliased_import", seq [
    fld "name" (ref "dotted_name"), lit "as", fld "alias" identifier]⟩,
  ⟨"wildcard_import", lit "*"⟩,
  ⟨"print_statement", one [
    prec 1 (seq [lit "print", ref "chevron",
      many (seq [lit ",", fld "argument" (ref "expression")]), opt (lit ",")]),
    prec (-3) (weighted (-1) (seq [lit "print",
      commas (fld "argument" (ref "expression")), opt (lit ",")]))]⟩,
  ⟨"chevron", seq [lit ">>", ref "expression"]⟩,
  ⟨"assert_statement", seq [lit "assert", commas (ref "expression")]⟩,
  ⟨"expression_statement", one [
    ref "expression",
    seq [commas (ref "expression"), opt (lit ",")],
    ref "assignment", ref "augmented_assignment", ref "yield"]⟩,
  ⟨"named_expression", seq [
    fld "name" (ref "_named_expression_lhs"), lit ":=", fld "value" (ref "expression")]⟩,
  ⟨"_named_expression_lhs", one [identifier, ref "keyword_identifier"]⟩,
  ⟨"return_statement", seq [lit "return", opt (ref "_expressions")]⟩,
  ⟨"delete_statement", seq [lit "del", ref "_expressions"]⟩,
  ⟨"_expressions", one [ref "expression", ref "expression_list"]⟩,
  ⟨"raise_statement", seq [
    lit "raise", opt (ref "_expressions"),
    opt (seq [lit "from", fld "cause" (ref "expression")])]⟩,
  ⟨"pass_statement", precLeft 0 (lit "pass")⟩,
  ⟨"break_statement", precLeft 0 (lit "break")⟩,
  ⟨"continue_statement", precLeft 0 (lit "continue")⟩]

/-- Compound statements and their clauses. -/
def compoundStatements : List (Rule Terminal) := [
  ⟨"_compound_statement", one [
    ref "if_statement", ref "for_statement", ref "while_statement", ref "try_statement",
    ref "with_statement", ref "function_definition", ref "class_definition",
    ref "decorated_definition", ref "match_statement"]⟩,
  ⟨"if_statement", seq [
    lit "if", fld "condition" (ref "expression"), lit ":",
    fld "consequence" (ref "_suite"),
    many (fld "alternative" (ref "elif_clause")),
    opt (fld "alternative" (ref "else_clause"))]⟩,
  ⟨"elif_clause", seq [
    lit "elif", fld "condition" (ref "expression"), lit ":",
    fld "consequence" (ref "_suite")]⟩,
  ⟨"else_clause", seq [lit "else", lit ":", fld "body" (ref "_suite")]⟩,
  ⟨"match_statement", seq [
    lit "match", commas (fld "subject" (ref "expression")), opt (lit ","), lit ":",
    fld "body" (shownAs "block" (ref "_match_block"))]⟩,
  ⟨"_match_block", one [
    seq [indent, many (fld "alternative" (ref "case_clause")), dedent], newline]⟩,
  ⟨"case_clause", seq [
    lit "case", commas (ref "case_pattern"), opt (lit ","),
    opt (fld "guard" (ref "if_clause")), lit ":", fld "consequence" (ref "_suite")]⟩,
  ⟨"for_statement", seq [
    opt (lit "async"), lit "for", fld "left" (ref "_left_hand_side"), lit "in",
    fld "right" (ref "_expressions"), lit ":", fld "body" (ref "_suite"),
    fld "alternative" (opt (ref "else_clause"))]⟩,
  ⟨"while_statement", seq [
    lit "while", fld "condition" (ref "expression"), lit ":", fld "body" (ref "_suite"),
    opt (fld "alternative" (ref "else_clause"))]⟩,
  ⟨"try_statement", seq [
    lit "try", lit ":", fld "body" (ref "_suite"),
    one [
      seq [some1 (ref "except_clause"), opt (ref "else_clause"), opt (ref "finally_clause")],
      seq [some1 (ref "except_group_clause"), opt (ref "else_clause"),
        opt (ref "finally_clause")],
      ref "finally_clause"]]⟩,
  ⟨"except_clause", seq [
    lit "except",
    opt (seq [ref "expression", opt (seq [lits ["as", ","], ref "expression"])]),
    lit ":", ref "_suite"]⟩,
  ⟨"except_group_clause", seq [
    lit "except*", seq [ref "expression", opt (seq [lit "as", ref "expression"])],
    lit ":", ref "_suite"]⟩,
  ⟨"finally_clause", seq [lit "finally", lit ":", ref "_suite"]⟩,
  ⟨"with_statement", seq [
    opt (lit "async"), lit "with", ref "with_clause", lit ":", fld "body" (ref "_suite")]⟩,
  ⟨"with_clause", one [
    seq [commas (ref "with_item"), opt (lit ",")],
    seq [lit "(", commas (ref "with_item"), opt (lit ","), lit ")"]]⟩,
  ⟨"with_item", weighted 1 (fld "value" (ref "expression"))⟩,
  ⟨"function_definition", seq [
    opt (lit "async"), lit "def", fld "name" identifier,
    fld "type_parameters" (opt (ref "type_parameter")),
    fld "parameters" (ref "parameters"),
    opt (seq [lit "->", fld "return_type" (ref "type")]),
    lit ":", fld "body" (ref "_suite")]⟩,
  ⟨"parameters", seq [lit "(", opt (ref "_parameters"), lit ")"]⟩,
  ⟨"lambda_parameters", ref "_parameters"⟩,
  ⟨"list_splat", seq [lit "*", ref "expression"]⟩,
  ⟨"dictionary_splat", seq [lit "**", ref "expression"]⟩,
  ⟨"global_statement", seq [lit "global", commas identifier]⟩,
  ⟨"nonlocal_statement", seq [lit "nonlocal", commas identifier]⟩,
  ⟨"exec_statement", seq [
    lit "exec", fld "code" (one [ref "string", identifier]),
    opt (seq [lit "in", commas (ref "expression")])]⟩,
  ⟨"type_alias_statement", weighted 1 (seq [
    lit "type", fld "left" (ref "type"), lit "=", fld "right" (ref "type")])⟩,
  ⟨"class_definition", seq [
    lit "class", fld "name" identifier,
    fld "type_parameters" (opt (ref "type_parameter")),
    fld "superclasses" (opt (ref "argument_list")),
    lit ":", fld "body" (ref "_suite")]⟩,
  ⟨"type_parameter", seq [lit "[", commas (ref "type"), opt (lit ","), lit "]"]⟩,
  ⟨"parenthesized_list_splat", prec levels.parenthesized (seq [
    lit "(",
    one [shownAs "parenthesized_expression" (ref "parenthesized_list_splat"), ref "list_splat"],
    lit ")"])⟩,
  ⟨"argument_list", seq [
    lit "(",
    opt (commas (one [
      ref "expression", ref "list_splat", ref "dictionary_splat",
      shownAs "parenthesized_expression" (ref "parenthesized_list_splat"),
      ref "keyword_argument"])),
    opt (lit ","), lit ")"]⟩,
  ⟨"decorated_definition", seq [
    some1 (ref "decorator"),
    fld "definition" (one [ref "class_definition", ref "function_definition"])]⟩,
  ⟨"decorator", seq [lit "@", ref "expression", newline]⟩,
  ⟨"_suite", one [
    shownAs "block" (ref "_simple_statements"),
    seq [indent, ref "block"],
    shownAs "block" newline]⟩,
  ⟨"block", seq [many (ref "_statement"), dedent]⟩,
  ⟨"expression_list", precRight 0 (seq [
    ref "expression",
    one [lit ",", seq [some1 (seq [lit ",", ref "expression"]), opt (lit ",")]]])⟩,
  ⟨"dotted_name", prec 1 (.separated (lit ".") identifier)⟩]

/-- A part between brackets, possibly empty. -/
def bracketed (opening closing : String) (part : Part) : Part :=
  seq [lit opening, opt (seq [commas part, opt (lit ",")]), lit closing]

/-- The patterns of case clauses. -/
def casePatterns : List (Rule Terminal) := [
  ⟨"case_pattern", prec 1 (one [
    shownAs "as_pattern" (ref "_as_pattern"), ref "keyword_pattern", ref "_simple_pattern"])⟩,
  ⟨"_simple_pattern", prec 1 (one [
    ref "class_pattern", ref "splat_pattern", ref "union_pattern",
    shownAs "list_pattern" (ref "_list_pattern"),
    shownAs "tuple_pattern" (ref "_tuple_pattern"),
    ref "dict_pattern", ref "string", ref "concatenated_string",
    trueWord, falseWord, noneWord,
    seq [opt (lit "-"), one [integer, float]],
    ref "complex_pattern", ref "dotted_name", lit "_"])⟩,
  ⟨"_as_pattern", seq [ref "case_pattern", lit "as", identifier]⟩,
  ⟨"union_pattern", precRight 0 (seq [
    ref "_simple_pattern", some1 (precLeft 0 (seq [lit "|", ref "_simple_pattern"]))])⟩,
  ⟨"_list_pattern", bracketed "[" "]" (ref "case_pattern")⟩,
  ⟨"_tuple_pattern", bracketed "(" ")" (ref "case_pattern")⟩,
  ⟨"dict_pattern", bracketed "\x7b" "\x7d" (one [ref "_key_value_pattern", ref "splat_pattern"])⟩,
  ⟨"_key_value_pattern", seq [
    fld "key" (ref "_simple_pattern"), lit ":", fld "value" (ref "case_pattern")]⟩,
  ⟨"keyword_pattern", seq [identifier, lit "=", ref "_simple_pattern"]⟩,
  ⟨"splat_pattern", prec 1 (seq [lits ["*", "**"], one [identifier, lit "_"]])⟩,
  ⟨"class_pattern", prec 1 (seq [
    ref "dotted_name", bracketed "(" ")" (ref "case_pattern")])⟩,
  ⟨"complex_pattern", prec 1 (seq [
    opt (lit "-"), one [integer, float], lits ["+", "-"], one [integer, float]])⟩]

/-- Parameters and the targets of assignments. -/
def patterns : List (Rule Terminal) := [
  ⟨"_parameters", seq [commas (ref "parameter"), opt (lit ",")]⟩,
  ⟨"_patterns", seq [commas (ref "pattern"), opt (lit ",")]⟩,
  ⟨"parameter", one [
    identifier, ref "typed_parameter", ref "default_parameter",
    ref "typed_default_parameter", ref "list_splat_pattern", ref "tuple_pattern",
    ref "keyword_separator", ref "positional_separator", ref "dictionary_splat_pattern"]⟩,
  ⟨"pattern", one [
    identifier, ref "keyword_identifier", ref "subscript", ref "attribute",
    ref "list_splat_pattern", ref "tuple_pattern", ref "list_pattern"]⟩,
  ⟨"tuple_pattern", seq [lit "(", opt (ref "_patterns"), lit ")"]⟩,
  ⟨"list_pattern", seq [lit "[", opt (ref "_patterns"), lit "]"]⟩,
  ⟨"default_parameter", seq [
    fld "name" (one [identifier, ref "tuple_pattern"]), lit "=",
    fld "value" (ref "expression")]⟩,
  ⟨"typed_default_parameter", prec levels.typedParameter (seq [
    fld "name" identifier, lit ":", fld "type" (ref "type"), lit "=",
    fld "value" (ref "expression")])⟩,
  ⟨"list_splat_pattern", seq [
    lit "*", one [identifier, ref "keyword_identifier", ref "subscript", ref "attribute"]]⟩,
  ⟨"dictionary_splat_pattern", seq [
    lit "**", one [identifier, ref "keyword_identifier", ref "subscript", ref "attribute"]]⟩,
  ⟨"as_pattern", precLeft 0 (seq [
    ref "expression", lit "as",
    fld "alias" (shownAs "as_pattern_target" (ref "expression"))])⟩]

/-- A binary operator between primary expressions. -/
def binary (side : Side) (value : Int) (operator : String) : Part :=
  .level value (some side) (seq [
    fld "left" (ref "primary_expression"), fld "operator" (lit operator),
    fld "right" (ref "primary_expression")])

/-- Operators and the classes of expressions. -/
def operators : List (Rule Terminal) := [
  ⟨"_expression_within_for_in_clause", one [
    ref "expression", shownAs "lambda" (ref "lambda_within_for_in_clause")]⟩,
  ⟨"expression", one [
    ref "comparison_operator", ref "not_operator", ref "boolean_operator", ref "lambda",
    ref "primary_expression", ref "conditional_expression", ref "named_expression",
    ref "as_pattern"]⟩,
  ⟨"primary_expression", one [
    ref "await", ref "binary_operator", identifier, ref "keyword_identifier",
    ref "string", ref "concatenated_string", integer, float, trueWord, falseWord, noneWord,
    ref "unary_operator", ref "attribute", ref "subscript", ref "call", ref "list",
    ref "list_comprehension", ref "dictionary", ref "dictionary_comprehension", ref "set",
    ref "set_comprehension", ref "tuple", ref "parenthesized_expression",
    ref "generator_expression", ellipsis,
    shownAs "list_splat" (ref "list_splat_pattern")]⟩,
  ⟨"not_operator", prec levels.not (seq [lit "not", fld "argument" (ref "expression")])⟩,
  ⟨"boolean_operator", one [
    precLeft levels.and (seq [
      fld "left" (ref "expression"), fld "operator" (lit "and"),
      fld "right" (ref "expression")]),
    precLeft levels.or (seq [
      fld "left" (ref "expression"), fld "operator" (lit "or"),
      fld "right" (ref "expression")])]⟩,
  ⟨"binary_operator", one [
    binary .left levels.plus "+", binary .left levels.plus "-",
    binary .left levels.times "*", binary .left levels.times "@",
    binary .left levels.times "/", binary .left levels.times "%",
    binary .left levels.times "//", binary .right levels.power "**",
    binary .left levels.bitOr "|", binary .left levels.bitAnd "&",
    binary .left levels.bitXor "^", binary .left levels.shift "<<",
    binary .left levels.shift ">>"]⟩,
  ⟨"unary_operator", prec levels.unary (seq [
    fld "operator" (lits ["+", "-", "~"]), fld "argument" (ref "primary_expression")])⟩,
  ⟨"_not_in", seq [lit "not", lit "in"]⟩,
  ⟨"_is_not", seq [lit "is", lit "not"]⟩,
  ⟨"comparison_operator", precLeft levels.comparison (seq [
    ref "primary_expression",
    some1 (seq [
      fld "operators" (one [
        lit "<", lit "<=", lit "==", lit "!=", lit ">=", lit ">", lit "<>", lit "in",
        tokenAs "not in" (ref "_not_in"), lit "is", tokenAs "is not" (ref "_is_not")]),
      ref "primary_expression"])])⟩,
  ⟨"lambda", prec levels.lambda (seq [
    lit "lambda", fld "parameters" (opt (ref "lambda_parameters")), lit ":",
    fld "body" (ref "expression")])⟩,
  ⟨"lambda_within_for_in_clause", seq [
    lit "lambda", fld "parameters" (opt (ref "lambda_parameters")), lit ":",
    fld "body" (ref "_expression_within_for_in_clause")]⟩]

/-- Assignments, accesses, calls and types. -/
def accesses : List (Rule Terminal) := [
  ⟨"assignment", seq [
    fld "left" (ref "_left_hand_side"),
    one [
      seq [lit "=", fld "right" (ref "_right_hand_side")],
      seq [lit ":", fld "type" (ref "type")],
      seq [lit ":", fld "type" (ref "type"), lit "=", fld "right" (ref "_right_hand_side")]]]⟩,
  ⟨"augmented_assignment", seq [
    fld "left" (ref "_left_hand_side"),
    fld "operator" (lits [
      "+=", "-=", "*=", "/=", "@=", "//=", "%=", "**=", ">>=", "<<=", "&=", "^=", "|="]),
    fld "right" (ref "_right_hand_side")]⟩,
  ⟨"_left_hand_side", one [ref "pattern", ref "pattern_list"]⟩,
  ⟨"pattern_list", seq [
    ref "pattern",
    one [lit ",", seq [some1 (seq [lit ",", ref "pattern"]), opt (lit ",")]]]⟩,
  ⟨"_right_hand_side", one [
    ref "expression", ref "expression_list", ref "assignment", ref "augmented_assignment",
    ref "pattern_list", ref "yield"]⟩,
  ⟨"yield", precRight 0 (seq [
    lit "yield", one [seq [lit "from", ref "expression"], opt (ref "_expressions")]])⟩,
  ⟨"attribute", prec levels.call (seq [
    fld "object" (ref "primary_expression"), lit ".", fld "attribute" identifier])⟩,
  ⟨"subscript", prec levels.call (seq [
    fld "value" (ref "primary_expression"), lit "[",
    commas (fld "subscript" (one [ref "expression", ref "slice"])), opt (lit ","), lit "]"])⟩,
  ⟨"slice", seq [
    opt (ref "expression"), lit ":", opt (ref "expression"),
    opt (seq [lit ":", opt (ref "expression")])]⟩,
  ⟨"call", prec levels.call (seq [
    fld "function" (ref "primary_expression"),
    fld "arguments" (one [ref "generator_expression", ref "argument_list"])])⟩,
  ⟨"typed_parameter", prec levels.typedParameter (seq [
    one [identifier, ref "list_splat_pattern", ref "dictionary_splat_pattern"],
    lit ":", fld "type" (ref "type")])⟩,
  ⟨"type", one [
    prec 1 (ref "expression"), ref "splat_type", ref "generic_type", ref "union_type",
    ref "constrained_type", ref "member_type"]⟩,
  ⟨"splat_type", prec 1 (seq [lits ["*", "**"], identifier])⟩,
  ⟨"generic_type", prec 1 (seq [
    one [identifier, shownAs "identifier" (lit "type")], ref "type_parameter"])⟩,
  ⟨"union_type", precLeft 0 (seq [ref "type", lit "|", ref "type"])⟩,
  ⟨"constrained_type", precRight 0 (seq [ref "type", lit ":", ref "type"])⟩,
  ⟨"member_type", seq [ref "type", lit ".", identifier]⟩,
  ⟨"keyword_argument", seq [
    fld "name" (one [identifier, ref "keyword_identifier"]), lit "=",
    fld "value" (ref "expression")]⟩]

/-- Displays, comprehensions and what stands in parentheses. -/
def displays : List (Rule Terminal) := [
  ⟨"list", seq [lit "[", opt (ref "_collection_elements"), lit "]"]⟩,
  ⟨"set", seq [lit "\x7b", ref "_collection_elements", lit "\x7d"]⟩,
  ⟨"tuple", seq [lit "(", opt (ref "_collection_elements"), lit ")"]⟩,
  ⟨"dictionary", seq [
    lit "\x7b", opt (commas (one [ref "pair", ref "dictionary_splat"])), opt (lit ","),
    lit "\x7d"]⟩,
  ⟨"pair", seq [fld "key" (ref "expression"), lit ":", fld "value" (ref "expression")]⟩,
  ⟨"list_comprehension", seq [
    lit "[", fld "body" (ref "expression"), ref "_comprehension_clauses", lit "]"]⟩,
  ⟨"dictionary_comprehension", seq [
    lit "\x7b", fld "body" (ref "pair"), ref "_comprehension_clauses", lit "\x7d"]⟩,
  ⟨"set_comprehension", seq [
    lit "\x7b", fld "body" (ref "expression"), ref "_comprehension_clauses", lit "\x7d"]⟩,
  ⟨"generator_expression", seq [
    lit "(", fld "body" (ref "expression"), ref "_comprehension_clauses", lit ")"]⟩,
  ⟨"_comprehension_clauses", seq [
    ref "for_in_clause", many (one [ref "for_in_clause", ref "if_clause"])]⟩,
  ⟨"parenthesized_expression", prec levels.parenthesized (seq [
    lit "(", one [ref "expression", ref "yield"], lit ")"])⟩,
  ⟨"_collection_elements", seq [
    commas (one [
      ref "expression", ref "yield", ref "list_splat", ref "parenthesized_list_splat"]),
    opt (lit ",")]⟩,
  ⟨"for_in_clause", precLeft 0 (seq [
    opt (lit "async"), lit "for", fld "left" (ref "_left_hand_side"), lit "in",
    fld "right" (commas (ref "_expression_within_for_in_clause")), opt (lit ",")])⟩,
  ⟨"if_clause", seq [lit "if", ref "expression"]⟩,
  ⟨"conditional_expression", precRight levels.conditional (seq [
    ref "expression", lit "if", ref "expression", lit "else", ref "expression"])⟩]

/-- Strings and words that may serve as identifiers. -/
def strings : List (Rule Terminal) := [
  ⟨"concatenated_string", seq [ref "string", some1 (ref "string")]⟩,
  ⟨"string", seq [
    .terminal .stringStart, many (one [ref "interpolation", ref "string_content"]),
    .terminal .stringEnd]⟩,
  ⟨"string_content", precRight 0 (some1 (one [
    .terminal .escapeInterpolation, .terminal .escapeSequence, .terminal .loneBackslash,
    .terminal .stringContent]))⟩,
  ⟨"interpolation", seq [
    lit "\x7b", fld "expression" (ref "_f_expression"), opt (lit "="),
    opt (fld "type_conversion" (.terminal .typeConversion)),
    opt (fld "format_specifier" (ref "format_specifier")), lit "\x7d"]⟩,
  ⟨"_f_expression", one [
    ref "expression", ref "expression_list", ref "pattern_list", ref "yield"]⟩,
  ⟨"format_specifier", seq [
    lit ":",
    many (one [.terminal .formatText, shownAs "format_expression" (ref "interpolation")])]⟩,
  ⟨"keyword_identifier", one [
    prec (-3) (shownAs "identifier" (lits ["print", "exec", "async", "await"])),
    shownAs "identifier" (lits ["type", "match"])]⟩,
  ⟨"await", prec levels.unary (seq [lit "await", ref "primary_expression"])⟩,
  ⟨"positional_separator", lit "/"⟩,
  ⟨"keyword_separator", lit "*"⟩]

end Rules

/-- The grammar of Python. -/
def grammar : RuleSet Terminal where
  rules := Rules.simpleStatements ++ Rules.compoundStatements ++ Rules.casePatterns ++
    Rules.patterns ++ Rules.operators ++ Rules.accesses ++ Rules.displays ++ Rules.strings
  inlined := ["_simple_statement", "_compound_statement", "_suite", "_expressions",
    "_left_hand_side", "keyword_identifier"]
  hidden := ["_statement", "_simple_statements", "_simple_statement", "_compound_statement",
    "_import_list", "_named_expression_lhs", "_expressions", "_match_block", "_suite",
    "_simple_pattern", "_as_pattern", "_list_pattern", "_tuple_pattern",
    "_key_value_pattern", "_parameters", "_patterns", "parameter", "pattern",
    "_expression_within_for_in_clause", "expression", "primary_expression", "_not_in",
    "_is_not", "_left_hand_side", "_right_hand_side", "_comprehension_clauses",
    "_collection_elements", "_f_expression", "keyword_identifier"]
  extras := [.comment, .lineContinuation]

end PythonStyle.Language
