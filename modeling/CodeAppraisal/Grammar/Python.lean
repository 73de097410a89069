import CodeAppraisal.Grammar.Rule

/-!
The rules of Python, old and new forms together. A rule whose name starts with an underscore, or
that is listed as hidden, hands its children to the node above it.
-/
namespace CodeAppraisal.Grammar.Python

open Rule

private def kw (t : String) : Rule := .text t

private def fieldOf (name : String) (r : Rule) : Rule := .field name r

private def expr : Rule := .ref "expression"

private def primary : Rule := .ref "primary_expression"

private def ident : Rule := .ref "identifier"

private def suite (label : String) : Rule := .field label (.ref "_suite")

private def listOf (r : Rule) : Rule :=
  inOrder [r, oneOf [kw ",",
    inOrder [.many1 (inOrder [kw ",", r]), optional (kw ",")]]]

private def bracketed (opening : String) (r : Rule) (closing : String) : Rule :=
  inOrder [kw opening, optional r, kw closing]

private def modules : List (String × Rule) := [
  ("module", many (.ref "_statement")),
  ("_statement", oneOf [.ref "_simple_statements", .ref "_compound_statement"]),
  ("_simple_statements",
    inOrder [separated ";" (.ref "_simple_statement"), optional (kw ";"), .ref "_newline"]),
  ("_simple_statement", oneOf [
    .ref "future_import_statement", .ref "import_statement", .ref "import_from_statement",
    .ref "print_statement", .ref "assert_statement", .ref "expression_statement",
    .ref "return_statement", .ref "delete_statement", .ref "raise_statement",
    .ref "pass_statement", .ref "break_statement", .ref "continue_statement",
    .ref "global_statement", .ref "nonlocal_statement", .ref "exec_statement",
    .ref "type_alias_statement"])]

private def simpleStatements : List (String × Rule) := [
  ("import_statement", inOrder [kw "import", .ref "_import_list"]),
  ("import_prefix", .many1 (kw ".")),
  ("relative_import", inOrder [.ref "import_prefix", optional (.ref "dotted_name")]),
  ("future_import_statement", inOrder [kw "from", kw "__future__", kw "import",
    oneOf [.ref "_import_list", inOrder [kw "(", .ref "_import_list", kw ")"]]]),
  ("import_from_statement", inOrder [kw "from",
    fieldOf "module_name" (oneOf [.ref "relative_import", .ref "dotted_name"]), kw "import",
    oneOf [.ref "wildcard_import", .ref "_import_list",
      inOrder [kw "(", .ref "_import_list", kw ")"]]]),
  ("_import_list", commasTrailing
    (fieldOf "name" (oneOf [.ref "dotted_name", .ref "aliased_import"]))),
  ("aliased_import", inOrder [fieldOf "name" (.ref "dotted_name"), kw "as",
    fieldOf "alias" ident]),
  ("wildcard_import", kw "*"),
  ("print_statement", oneOf [
    rank 1 (inOrder [kw "print", .ref "chevron",
      many (inOrder [kw ",", fieldOf "argument" expr]), optional (kw ",")]),
    rank (-3) (.favoured (-1) (inOrder [kw "print",
      commas (fieldOf "argument" expr), optional (kw ",")]))]),
  ("chevron", inOrder [kw ">>", expr]),
  ("assert_statement", inOrder [kw "assert", commas expr]),
  ("expression_statement", oneOf [
    expr,
    inOrder [commas expr, optional (kw ",")],
    .ref "assignment", .ref "augmented_assignment", .ref "yield"]),
  ("named_expression", inOrder [fieldOf "name" (.ref "_named_expression_lhs"), kw ":=",
    fieldOf "value" expr]),
  ("_named_expression_lhs", oneOf [ident, .ref "keyword_identifier"]),
  ("return_statement", inOrder [kw "return", optional (.ref "_expressions")]),
  ("delete_statement", inOrder [kw "del", .ref "_expressions"]),
  ("_expressions", oneOf [expr, .ref "expression_list"]),
  ("raise_statement", inOrder [kw "raise", optional (.ref "_expressions"),
    optional (inOrder [kw "from", fieldOf "cause" expr])]),
  ("pass_statement", leftward 0 (kw "pass")),
  ("break_statement", leftward 0 (kw "break")),
  ("continue_statement", leftward 0 (kw "continue"))]

private def branchStatements : List (String × Rule) := [
  ("_compound_statement", oneOf [
    .ref "if_statement", .ref "for_statement", .ref "while_statement", .ref "try_statement",
    .ref "with_statement", .ref "function_definition", .ref "class_definition",
    .ref "decorated_definition", .ref "match_statement"]),
  ("if_statement", inOrder [kw "if", fieldOf "condition" expr, kw ":", suite "consequence",
    many (fieldOf "alternative" (.ref "elif_clause")),
    optional (fieldOf "alternative" (.ref "else_clause"))]),
  ("elif_clause", inOrder [kw "elif", fieldOf "condition" expr, kw ":", suite "consequence"]),
  ("else_clause", inOrder [kw "else", kw ":", suite "body"]),
  ("match_statement", inOrder [kw "match", commas (fieldOf "subject" expr), optional (kw ","),
    kw ":", fieldOf "body" (shown "block" (.ref "_match_block"))]),
  ("_match_block", oneOf [
    inOrder [.ref "_indent", many (fieldOf "alternative" (.ref "case_clause")), .ref "_dedent"],
    .ref "_newline"]),
  ("case_clause", inOrder [kw "case", commas (.ref "case_pattern"), optional (kw ","),
    optional (fieldOf "guard" (.ref "if_clause")), kw ":", suite "consequence"]),
  ("for_statement", inOrder [optional (kw "async"), kw "for",
    fieldOf "left" (.ref "_left_hand_side"), kw "in", fieldOf "right" (.ref "_expressions"),
    kw ":", suite "body", fieldOf "alternative" (optional (.ref "else_clause"))]),
  ("while_statement", inOrder [kw "while", fieldOf "condition" expr, kw ":", suite "body",
    optional (fieldOf "alternative" (.ref "else_clause"))]),
  ("try_statement", inOrder [kw "try", kw ":", suite "body", many (.ref "except_clause"),
    optional (.ref "else_clause"), optional (.ref "finally_clause")]),
  ("except_clause", inOrder [oneOf [kw "except", kw "except*"],
    optional (commas (fieldOf "value" expr)), kw ":", .ref "_suite"]),
  ("finally_clause", inOrder [kw "finally", kw ":", .ref "_suite"]),
  ("with_statement", inOrder [optional (kw "async"), kw "with", .ref "with_clause", kw ":",
    suite "body"]),
  ("with_clause", oneOf [
    inOrder [commas (.ref "with_item"), optional (kw ",")],
    inOrder [kw "(", commas (.ref "with_item"), optional (kw ","), kw ")"]]),
  ("with_item", .favoured 1 (fieldOf "value" expr))]

private def definitions : List (String × Rule) := [
  ("function_definition", inOrder [optional (kw "async"), kw "def", fieldOf "name" ident,
    fieldOf "type_parameters" (optional (.ref "type_parameter")),
    fieldOf "parameters" (.ref "parameters"),
    optional (inOrder [kw "->", fieldOf "return_type" (.ref "type")]), kw ":", suite "body"]),
  ("parameters", bracketed "(" (.ref "_parameters") ")"),
  ("lambda_parameters", .ref "_parameters"),
  ("list_splat", inOrder [kw "*", expr]),
  ("dictionary_splat", inOrder [kw "**", expr]),
  ("global_statement", inOrder [kw "global", commas ident]),
  ("nonlocal_statement", inOrder [kw "nonlocal", commas ident]),
  ("exec_statement", inOrder [kw "exec", fieldOf "code" (oneOf [.ref "string", ident]),
    optional (inOrder [kw "in", commas expr])]),
  ("type_alias_statement", .favoured 1 (inOrder [kw "type", fieldOf "left" (.ref "type"),
    kw "=", fieldOf "right" (.ref "type")])),
  ("class_definition", inOrder [kw "class", fieldOf "name" ident,
    fieldOf "type_parameters" (optional (.ref "type_parameter")),
    fieldOf "superclasses" (optional (.ref "argument_list")), kw ":", suite "body"]),
  ("type_parameter", inOrder [kw "[", commas (.ref "type"), optional (kw ","), kw "]"]),
  ("parenthesized_list_splat", rank 1 (inOrder [kw "(",
    oneOf [shown "parenthesized_expression" (.ref "parenthesized_list_splat"),
      .ref "list_splat"], kw ")"])),
  ("argument_list", inOrder [kw "(", optional (commas (oneOf [
    expr, .ref "list_splat", .ref "dictionary_splat",
    shown "parenthesized_expression" (.ref "parenthesized_list_splat"),
    .ref "keyword_argument"])), optional (kw ","), kw ")"]),
  ("decorated_definition", inOrder [.many1 (.ref "decorator"),
    fieldOf "definition" (oneOf [.ref "class_definition", .ref "function_definition"])]),
  ("decorator", inOrder [kw "@", expr, .ref "_newline"]),
  ("_suite", oneOf [shown "block" (.ref "_simple_statements"),
    inOrder [.ref "_indent", .ref "block"], shown "block" (.ref "_newline")]),
  ("block", inOrder [many (.ref "_statement"), .ref "_dedent"]),
  ("expression_list", rightward 0 (listOf expr)),
  ("dotted_name", rank 1 (separated "." ident))]

private def casePatterns : List (String × Rule) := [
  ("case_pattern", rank 1 (oneOf [shown "as_pattern" (.ref "_as_pattern"),
    .ref "keyword_pattern", .ref "_simple_pattern"])),
  ("_simple_pattern", rank 1 (oneOf [
    .ref "class_pattern", .ref "splat_pattern", .ref "union_pattern",
    shown "list_pattern" (.ref "_list_pattern"), shown "tuple_pattern" (.ref "_tuple_pattern"),
    .ref "dict_pattern", .ref "string", .ref "concatenated_string", .ref "true", .ref "false",
    .ref "none", inOrder [optional (kw "-"), oneOf [.ref "integer", .ref "float"]],
    .ref "complex_pattern", .ref "dotted_name", kw "_"])),
  ("_as_pattern", inOrder [.ref "case_pattern", kw "as", ident]),
  ("union_pattern", rightward 0 (inOrder [.ref "_simple_pattern",
    .many1 (leftward 0 (inOrder [kw "|", .ref "_simple_pattern"]))])),
  ("_list_pattern", bracketed "[" (commasTrailing (.ref "case_pattern")) "]"),
  ("_tuple_pattern", bracketed "(" (commasTrailing (.ref "case_pattern")) ")"),
  ("dict_pattern", bracketed "\x7b" (commasTrailing
    (oneOf [.ref "_key_value_pattern", .ref "splat_pattern"])) "\x7d"),
  ("_key_value_pattern", inOrder [fieldOf "key" (.ref "_simple_pattern"), kw ":",
    fieldOf "value" (.ref "case_pattern")]),
  ("keyword_pattern", inOrder [ident, kw "=", .ref "_simple_pattern"]),
  ("splat_pattern", rank 1 (inOrder [oneOf [kw "*", kw "**"], oneOf [ident, kw "_"]])),
  ("class_pattern", inOrder [.ref "dotted_name",
    bracketed "(" (commasTrailing (.ref "case_pattern")) ")"]),
  ("complex_pattern", rank 1 (inOrder [optional (kw "-"), oneOf [.ref "integer", .ref "float"],
    oneOf [kw "+", kw "-"], oneOf [.ref "integer", .ref "float"]]))]

private def targets : List (String × Rule) := [
  ("_parameters", commasTrailing (.ref "parameter")),
  ("_patterns", commasTrailing (.ref "pattern")),
  ("parameter", oneOf [ident, .ref "typed_parameter", .ref "default_parameter",
    .ref "typed_default_parameter", .ref "list_splat_pattern", .ref "tuple_pattern",
    .ref "keyword_separator", .ref "positional_separator", .ref "dictionary_splat_pattern"]),
  ("pattern", oneOf [ident, .ref "keyword_identifier", .ref "subscript", .ref "attribute",
    .ref "list_splat_pattern", .ref "tuple_pattern", .ref "list_pattern"]),
  ("tuple_pattern", bracketed "(" (.ref "_patterns") ")"),
  ("list_pattern", bracketed "[" (.ref "_patterns") "]"),
  ("default_parameter", inOrder [fieldOf "name" (oneOf [ident, .ref "tuple_pattern"]), kw "=",
    fieldOf "value" expr]),
  ("typed_default_parameter", rank (-1) (inOrder [fieldOf "name" ident, kw ":",
    fieldOf "type" (.ref "type"), kw "=", fieldOf "value" expr])),
  ("list_splat_pattern", inOrder [kw "*",
    oneOf [ident, .ref "keyword_identifier", .ref "subscript", .ref "attribute"]]),
  ("dictionary_splat_pattern", inOrder [kw "**",
    oneOf [ident, .ref "keyword_identifier", .ref "subscript", .ref "attribute"]]),
  ("as_pattern", leftward 0 (inOrder [expr, kw "as",
    fieldOf "alias" (shown "as_pattern_target" expr)]))]

private def binary (side : Side) (operator : String) (level : Int) : Rule :=
  .ranked level (some side) (inOrder [fieldOf "left" primary, fieldOf "operator" (kw operator),
    fieldOf "right" primary])

private def expressions : List (String × Rule) := [
  ("_expression_within_for_in_clause", oneOf [expr,
    shown "lambda" (.ref "lambda_within_for_in_clause")]),
  ("expression", oneOf [.ref "comparison_operator", .ref "not_operator",
    .ref "boolean_operator", .ref "lambda", primary, .ref "conditional_expression",
    .ref "named_expression", .ref "as_pattern"]),
  ("primary_expression", oneOf [.ref "await", .ref "binary_operator", ident,
    .ref "keyword_identifier", .ref "string", .ref "concatenated_string", .ref "integer",
    .ref "float", .ref "true", .ref "false", .ref "none", .ref "unary_operator",
    .ref "attribute", .ref "subscript", .ref "call", .ref "list", .ref "list_comprehension",
    .ref "dictionary", .ref "dictionary_comprehension", .ref "set", .ref "set_comprehension",
    .ref "tuple", .ref "parenthesized_expression", .ref "generator_expression",
    .ref "ellipsis", shown "list_splat" (.ref "list_splat_pattern")]),
  ("not_operator", rank 12 (inOrder [kw "not", fieldOf "argument" expr])),
  ("boolean_operator", oneOf [
    leftward 11 (inOrder [fieldOf "left" expr, fieldOf "operator" (kw "and"),
      fieldOf "right" expr]),
    leftward 10 (inOrder [fieldOf "left" expr, fieldOf "operator" (kw "or"),
      fieldOf "right" expr])]),
  ("binary_operator", oneOf [
    binary .left "+" 18, binary .left "-" 18, binary .left "*" 19, binary .left "@" 19,
    binary .left "/" 19, binary .left "%" 19, binary .left "//" 19, binary .right "**" 21,
    binary .left "|" 14, binary .left "&" 15, binary .left "^" 16, binary .left "<<" 17,
    binary .left ">>" 17]),
  ("unary_operator", rank 20 (inOrder [fieldOf "operator" (oneOf [kw "+", kw "-", kw "~"]),
    fieldOf "argument" primary])),
  ("_not_in", inOrder [kw "not", kw "in"]),
  ("_is_not", inOrder [kw "is", kw "not"]),
  ("comparison_operator", leftward 13 (inOrder [primary, .many1 (inOrder [
    fieldOf "operators" (oneOf [kw "<", kw "<=", kw "==", kw "!=", kw ">=", kw ">", kw "<>",
      kw "in", shownText "not in" (.ref "_not_in"), kw "is",
      shownText "is not" (.ref "_is_not")]), primary])])),
  ("lambda", rank (-2) (inOrder [kw "lambda",
    fieldOf "parameters" (optional (.ref "lambda_parameters")), kw ":", fieldOf "body" expr])),
  ("lambda_within_for_in_clause", inOrder [kw "lambda",
    fieldOf "parameters" (optional (.ref "lambda_parameters")), kw ":",
    fieldOf "body" (.ref "_expression_within_for_in_clause")]),
  ("assignment", inOrder [fieldOf "left" (.ref "_left_hand_side"), oneOf [
    inOrder [kw "=", fieldOf "right" (.ref "_right_hand_side")],
    inOrder [kw ":", fieldOf "type" (.ref "type")],
    inOrder [kw ":", fieldOf "type" (.ref "type"), kw "=",
      fieldOf "right" (.ref "_right_hand_side")]]]),
  ("augmented_assignment", inOrder [fieldOf "left" (.ref "_left_hand_side"),
    fieldOf "operator" (oneOf [kw "+=", kw "-=", kw "*=", kw "/=", kw "@=", kw "//=", kw "%=",
      kw "**=", kw ">>=", kw "<<=", kw "&=", kw "^=", kw "|="]),
    fieldOf "right" (.ref "_right_hand_side")]),
  ("_left_hand_side", oneOf [.ref "pattern", .ref "pattern_list"]),
  ("pattern_list", listOf (.ref "pattern")),
  ("_right_hand_side", oneOf [expr, .ref "expression_list", .ref "assignment",
    .ref "augmented_assignment", .ref "pattern_list", .ref "yield"]),
  ("yield", rightward 0 (inOrder [kw "yield",
    oneOf [inOrder [kw "from", expr], optional (.ref "_expressions")]])),
  ("attribute", rank 22 (inOrder [fieldOf "object" primary, kw ".",
    fieldOf "attribute" ident])),
  ("subscript", rank 22 (inOrder [fieldOf "value" primary, kw "[",
    commas (fieldOf "subscript" (oneOf [expr, .ref "slice"])), optional (kw ","), kw "]"])),
  ("slice", inOrder [optional expr, kw ":", optional expr,
    optional (inOrder [kw ":", optional expr])]),
  ("ellipsis", kw "..."),
  ("call", rank 22 (inOrder [fieldOf "function" primary,
    fieldOf "arguments" (oneOf [.ref "generator_expression", .ref "argument_list"])])),
  ("typed_parameter", rank (-1) (inOrder [
    oneOf [ident, .ref "list_splat_pattern", .ref "dictionary_splat_pattern"], kw ":",
    fieldOf "type" (.ref "type")])),
  ("type", oneOf [rank 1 expr, .ref "splat_type", .ref "generic_type", .ref "union_type",
    .ref "constrained_type", .ref "member_type"]),
  ("splat_type", rank 1 (inOrder [oneOf [kw "*", kw "**"], ident])),
  ("generic_type", rank 1 (inOrder [oneOf [ident, shown "identifier" (kw "type")],
    .ref "type_parameter"])),
  ("union_type", leftward 0 (inOrder [.ref "type", kw "|", .ref "type"])),
  ("constrained_type", rightward 0 (inOrder [.ref "type", kw ":", .ref "type"])),
  ("member_type", inOrder [.ref "type", kw ".", ident]),
  ("keyword_argument", inOrder [fieldOf "name" (oneOf [ident, .ref "keyword_identifier"]),
    kw "=", fieldOf "value" expr])]

private def collections : List (String × Rule) := [
  ("list", bracketed "[" (.ref "_collection_elements") "]"),
  ("set", inOrder [kw "\x7b", .ref "_collection_elements", kw "\x7d"]),
  ("tuple", bracketed "(" (.ref "_collection_elements") ")"),
  ("dictionary", inOrder [kw "\x7b",
    optional (commas (oneOf [.ref "pair", .ref "dictionary_splat"])), optional (kw ","),
    kw "\x7d"]),
  ("pair", inOrder [fieldOf "key" expr, kw ":", fieldOf "value" expr]),
  ("list_comprehension", inOrder [kw "[", fieldOf "body" expr, .ref "_comprehension_clauses",
    kw "]"]),
  ("dictionary_comprehension", inOrder [kw "\x7b", fieldOf "body" (.ref "pair"),
    .ref "_comprehension_clauses", kw "\x7d"]),
  ("set_comprehension", inOrder [kw "\x7b", fieldOf "body" expr,
    .ref "_comprehension_clauses", kw "\x7d"]),
  ("generator_expression", inOrder [kw "(", fieldOf "body" expr,
    .ref "_comprehension_clauses", kw ")"]),
  ("_comprehension_clauses", inOrder [.ref "for_in_clause",
    many (oneOf [.ref "for_in_clause", .ref "if_clause"])]),
  ("parenthesized_expression", rank 1 (inOrder [kw "(", oneOf [expr, .ref "yield"], kw ")"])),
  ("_collection_elements", commasTrailing
    (oneOf [expr, .ref "yield", .ref "list_splat", .ref "parenthesized_list_splat"])),
  ("for_in_clause", leftward 0 (inOrder [optional (kw "async"), kw "for",
    fieldOf "left" (.ref "_left_hand_side"), kw "in",
    fieldOf "right" (commas (.ref "_expression_within_for_in_clause")), optional (kw ",")])),
  ("if_clause", inOrder [kw "if", expr]),
  ("conditional_expression", rightward (-1) (inOrder [expr, kw "if", expr, kw "else", expr]))]

private def literals : List (String × Rule) := [
  ("concatenated_string", inOrder [.ref "string", .many1 (.ref "string")]),
  ("string", inOrder [.ref "string_start",
    many (oneOf [.ref "interpolation", .ref "string_content"]), .ref "string_end"]),
  ("string_content", rightward 0 (.many1 (oneOf [.ref "escape_interpolation",
    .ref "escape_sequence", .ref "_not_escape_sequence", .ref "_string_content"]))),
  ("interpolation", inOrder [kw "\x7b", fieldOf "expression" (.ref "_f_expression"),
    optional (kw "="), optional (fieldOf "type_conversion" (.ref "type_conversion")),
    optional (fieldOf "format_specifier" (.ref "format_specifier")), kw "\x7d"]),
  ("_f_expression", oneOf [expr, .ref "expression_list", .ref "pattern_list", .ref "yield"]),
  ("escape_sequence", .token .escape),
  ("_not_escape_sequence", .token .loneBackslash),
  ("format_specifier", inOrder [kw ":",
    many (oneOf [.token .formatText, shown "format_expression" (.ref "interpolation")])]),
  ("type_conversion", .token .conversion),
  ("integer", .token .integer),
  ("float", .token .float),
  ("identifier", .token .identifier),
  ("keyword_identifier", oneOf [
    rank (-3) (shown "identifier" (oneOf [kw "print", kw "exec", kw "async", kw "await"])),
    shown "identifier" (oneOf [kw "type", kw "match"])]),
  ("true", kw "True"),
  ("false", kw "False"),
  ("none", kw "None"),
  ("await", rank 20 (inOrder [kw "await", primary])),
  ("comment", .token .comment),
  ("line_continuation", .token .lineJoin),
  ("positional_separator", kw "/"),
  ("keyword_separator", kw "*")]

def description : Description where
  rules := modules ++ simpleStatements ++ branchStatements ++ definitions ++ casePatterns ++
    targets ++ expressions ++ collections ++ literals
  layout := ["_newline", "_indent", "_dedent", "string_start", "_string_content",
    "escape_interpolation", "string_end"]
  extras := ["comment", "line_continuation"]
  inlined := ["_simple_statement", "_compound_statement", "_suite", "_expressions",
    "_left_hand_side", "keyword_identifier"]
  hidden := ["expression", "primary_expression", "pattern", "parameter"]
  word := "identifier"
  reserved := ["False", "None", "True", "and", "as", "assert", "break", "class", "continue", "def",
    "del", "elif", "else", "except", "finally", "for", "from", "global", "if", "import", "in", "is",
    "lambda", "nonlocal", "not", "or", "pass", "raise", "return", "try", "while", "with", "yield"]

end CodeAppraisal.Grammar.Python
