import JsxOutline.Ecma.Lexemes

/-!
# The grammar of ECMAScript modules with JSX

The rules stand in groups: modules, statements, parts of statements, expressions, JSX, classes and
functions, operators, literals, and parts of expressions.  Names that begin with an underscore make
no nodes of their own.
-/

namespace JsxOutline.Ecma

open JsxOutline.Grammar JsxOutline.Lexicon

/-! ### Notation -/

abbrev R := Rule Leaf

def t (s : String) : R := .leaf (.token { pattern := .text s })

def r (s : String) : R := .leaf (.name s)

def tok (l : Lexeme) : R := .leaf (.token l)

/-- One of several fixed texts. -/
def anyOf (ss : List String) : R := .alts (ss.map t)

/-- One or more, with commas between them. -/
def commaSep1 (a : R) : R := .seqs [a, .many (.seqs [t ",", a])]

def commaSep (a : R) : R := .opt (commaSep1 a)

def bindAt (level : String) (a : R) : R := .bind (.name level) none a

def leftAt (level : String) (a : R) : R := .bind (.name level) (some .left) a

def rightAt (level : String) (a : R) : R := .bind (.name level) (some .right) a

def left (a : R) : R := .bind (.number 0) (some .left) a

def right (a : R) : R := .bind (.number 0) (some .right) a

/-- Shows under the name of another rule. -/
def as (name : String) (a : R) : R := .rename name true a

/-- The set of reserved words that holds for names of properties. -/
def propertyWords : Nat := 1

/-! ### Modules -/

def moduleRules : List (String × R) := [
  ("program", .seqs [.opt (r "hash_bang_line"), .many (r "statement")]),
  ("hash_bang_line", tok hashBang),
  ("export_statement", .alts [
    .seqs [t "export",
      .alts [
        .seqs [t "*", r "_from_clause"],
        .seqs [r "namespace_export", r "_from_clause"],
        .seqs [r "export_clause", r "_from_clause"],
        r "export_clause"],
      r "_semicolon"],
    .seqs [.many (.field "decorator" (r "decorator")), t "export",
      .alts [
        .field "declaration" (r "declaration"),
        .seqs [t "default", .alts [
          .field "declaration" (r "declaration"),
          .seqs [.field "value" (r "expression"), r "_semicolon"]]]]]]),
  ("namespace_export", .seqs [t "*", t "as", r "_module_export_name"]),
  ("export_clause", .seqs [t "\x7b", commaSep (r "export_specifier"), .opt (t ","), t "\x7d"]),
  ("export_specifier", .seqs [.field "name" (r "_module_export_name"),
    .opt (.seqs [t "as", .field "alias" (r "_module_export_name")])]),
  ("_module_export_name", .alts [r "identifier", r "string", t "default"]),
  ("declaration", .alts [r "function_declaration", r "generator_function_declaration",
    r "class_declaration", r "lexical_declaration", r "variable_declaration",
    r "using_declaration"]),
  ("import", t "import"),
  ("import_statement", .seqs [t "import",
    .alts [.seqs [r "import_clause", r "_from_clause"], .field "source" (r "string")],
    .opt (r "import_attribute"), r "_semicolon"]),
  ("import_clause", .alts [r "namespace_import", r "named_imports",
    .seqs [r "identifier",
      .opt (.seqs [t ",", .alts [r "namespace_import", r "named_imports"]])]]),
  ("_from_clause", .seqs [t "from", .field "source" (r "string")]),
  ("namespace_import", .seqs [t "*", t "as", r "identifier"]),
  ("named_imports", .seqs [t "\x7b", commaSep (r "import_specifier"), .opt (t ","), t "\x7d"]),
  ("import_specifier", .alts [.field "name" (r "identifier"),
    .seqs [.field "name" (r "_module_export_name"), t "as", .field "alias" (r "identifier")]]),
  ("import_attribute", .seqs [t "with", r "object"])]

/-! ### Statements -/

def statementRules : List (String × R) := [
  ("statement", .alts [r "export_statement", r "import_statement", r "debugger_statement",
    r "expression_statement", r "declaration", r "statement_block", r "if_statement",
    r "switch_statement", r "for_statement", r "for_in_statement", r "while_statement",
    r "do_statement", r "try_statement", r "with_statement", r "break_statement",
    r "continue_statement", r "return_statement", r "throw_statement", r "empty_statement",
    r "labeled_statement"]),
  ("expression_statement", .seqs [r "_expressions", r "_semicolon"]),
  ("variable_declaration", .seqs [t "var", commaSep1 (r "variable_declarator"), r "_semicolon"]),
  ("lexical_declaration", .seqs [.field "kind" (anyOf ["let", "const"]),
    commaSep1 (r "variable_declarator"), r "_semicolon"]),
  ("using_declaration", .seqs [
    .field "kind" (.alts [t "using", .seqs [t "await", t "using"]]),
    commaSep1 (r "variable_declarator"), r "_semicolon"]),
  ("variable_declarator", .seqs [
    .field "name" (.alts [r "identifier", r "_destructuring_pattern"]), .opt (r "_initializer")]),
  ("statement_block", right (.seqs [t "\x7b", .many (r "statement"), t "\x7d",
    .opt (r "_automatic_semicolon")])),
  ("else_clause", .seqs [t "else", r "statement"]),
  ("if_statement", right (.seqs [t "if", .field "condition" (r "parenthesized_expression"),
    .field "consequence" (r "statement"), .opt (.field "alternative" (r "else_clause"))])),
  ("switch_statement", .seqs [t "switch", .field "value" (r "parenthesized_expression"),
    .field "body" (r "switch_body")]),
  ("for_statement", .seqs [t "for", t "(",
    .alts [
      .field "initializer" (.alts [r "lexical_declaration", r "variable_declaration"]),
      .seqs [.field "initializer" (r "_expressions"), t ";"],
      .field "initializer" (r "empty_statement")],
    .field "condition" (.alts [.seqs [r "_expressions", t ";"], r "empty_statement"]),
    .field "increment" (.opt (r "_expressions")), t ")", .field "body" (r "statement")]),
  ("for_in_statement", .seqs [t "for", .opt (t "await"), r "_for_header",
    .field "body" (r "statement")]),
  ("_for_header", .seqs [t "(",
    .alts [
      .field "left" (.alts [r "_lhs_expression", r "parenthesized_expression"]),
      .seqs [.field "kind" (t "var"),
        .field "left" (.alts [r "identifier", r "_destructuring_pattern"]),
        .opt (r "_initializer")],
      .seqs [.field "kind" (anyOf ["let", "const"]),
        .field "left" (.alts [r "identifier", r "_destructuring_pattern"]),
        .opt (r "_automatic_semicolon")]],
    .field "operator" (anyOf ["in", "of"]), .field "right" (r "_expressions"), t ")"]),
  ("while_statement", .seqs [t "while", .field "condition" (r "parenthesized_expression"),
    .field "body" (r "statement")]),
  ("do_statement", right (.seqs [t "do", .field "body" (r "statement"), t "while",
    .field "condition" (r "parenthesized_expression"), .opt (r "_semicolon")])),
  ("try_statement", .seqs [t "try", .field "body" (r "statement_block"),
    .opt (.field "handler" (r "catch_clause")), .opt (.field "finalizer" (r "finally_clause"))]),
  ("with_statement", .seqs [t "with", .field "object" (r "parenthesized_expression"),
    .field "body" (r "statement")]),
  ("break_statement", .seqs [t "break",
    .field "label" (.opt (as "statement_identifier" (r "identifier"))), r "_semicolon"]),
  ("continue_statement", .seqs [t "continue",
    .field "label" (.opt (as "statement_identifier" (r "identifier"))), r "_semicolon"]),
  ("debugger_statement", .seqs [t "debugger", r "_semicolon"]),
  ("return_statement", .seqs [t "return", .opt (r "_expressions"), r "_semicolon"]),
  ("throw_statement", .seqs [t "throw", r "_expressions", r "_semicolon"]),
  ("empty_statement", t ";"),
  ("labeled_statement", .weigh (-1) (.seqs [
    .field "label" (as "statement_identifier" (.alts [r "identifier", r "_reserved_identifier"])),
    t ":", .field "body" (r "statement")]))]

/-! ### Parts of statements -/

def clauseRules : List (String × R) := [
  ("switch_body", .seqs [t "\x7b", .many (.alts [r "switch_case", r "switch_default"]), t "\x7d"]),
  ("switch_case", .seqs [t "case", .field "value" (r "_expressions"), t ":",
    .field "body" (.many (r "statement"))]),
  ("switch_default", .seqs [t "default", t ":", .field "body" (.many (r "statement"))]),
  ("catch_clause", .seqs [t "catch",
    .opt (.seqs [t "(",
      .field "parameter" (.alts [r "identifier", r "_destructuring_pattern"]), t ")"]),
    .field "body" (r "statement_block")]),
  ("finally_clause", .seqs [t "finally", .field "body" (r "statement_block")]),
  ("parenthesized_expression", .seqs [t "(", r "_expressions", t ")"])]

/-! ### Expressions -/

def expressionRules : List (String × R) := [
  ("_expressions", .alts [r "expression", r "sequence_expression"]),
  ("expression", .alts [r "primary_expression", r "_jsx_element", r "assignment_expression",
    r "augmented_assignment_expression", r "await_expression", r "unary_expression",
    r "binary_expression", r "ternary_expression", r "update_expression", r "new_expression",
    r "yield_expression"]),
  ("primary_expression", .alts [r "subscript_expression", r "member_expression",
    r "parenthesized_expression", r "_identifier", as "identifier" (r "_reserved_identifier"),
    r "this", r "super", r "number", r "string", r "template_string", r "regex", r "true",
    r "false", r "null", r "object", r "array", r "function_expression", r "arrow_function",
    r "generator_function", r "class", r "meta_property", r "call_expression"]),
  ("yield_expression", right (.seqs [t "yield",
    .alts [.seqs [t "*", r "expression"], .opt (r "expression")]])),
  ("object", bindAt "object" (.seqs [t "\x7b",
    commaSep (.opt (.alts [r "pair", r "spread_element", r "method_definition",
      as "shorthand_property_identifier" (.alts [r "identifier", r "_reserved_identifier"])])),
    t "\x7d"])),
  ("object_pattern", bindAt "object" (.seqs [t "\x7b",
    commaSep (.opt (.alts [r "pair_pattern", r "rest_pattern", r "object_assignment_pattern",
      as "shorthand_property_identifier_pattern"
        (.alts [r "identifier", r "_reserved_identifier"])])),
    t "\x7d"])),
  ("assignment_pattern", .seqs [.field "left" (r "pattern"), t "=",
    .field "right" (r "expression")]),
  ("object_assignment_pattern", .seqs [
    .field "left" (.alts [
      as "shorthand_property_identifier_pattern" (.alts [r "_reserved_identifier", r "identifier"]),
      r "_destructuring_pattern"]),
    t "=", .field "right" (r "expression")]),
  ("array", .seqs [t "[", commaSep (.opt (.alts [r "expression", r "spread_element"])), t "]"]),
  ("array_pattern", .seqs [t "[",
    commaSep (.opt (.alts [r "pattern", r "assignment_pattern"])), t "]"])]

/-! ### JSX -/

def jsxRules : List (String × R) := [
  ("_jsx_element", .alts [r "jsx_element", r "jsx_self_closing_element"]),
  ("jsx_element", .seqs [.field "open_tag" (r "jsx_opening_element"), .many (r "_jsx_child"),
    .field "close_tag" (r "jsx_closing_element")]),
  ("html_character_reference", tok characterReference),
  ("jsx_expression", .seqs [t "\x7b",
    .opt (.alts [r "expression", r "sequence_expression", r "spread_element"]), t "\x7d"]),
  ("_jsx_child", .alts [r "jsx_text", r "html_character_reference", r "_jsx_element",
    r "jsx_expression"]),
  ("jsx_opening_element", .weigh (-1) (.seqs [t "<",
    .opt (.seqs [.field "name" (r "_jsx_element_name"),
      .many (.field "attribute" (r "_jsx_attribute"))]),
    t ">"])),
  ("jsx_identifier", tok hyphenatedName),
  ("_jsx_identifier", .alts [as "identifier" (r "jsx_identifier"), r "identifier"]),
  ("nested_identifier", bindAt "member" (.seqs [
    .field "object" (.alts [r "identifier", as "member_expression" (r "nested_identifier")]),
    t ".", .field "property" (as "property_identifier" (r "identifier"))])),
  ("jsx_namespace_name", .seqs [r "_jsx_identifier", t ":", r "_jsx_identifier"]),
  ("_jsx_element_name", .alts [r "_jsx_identifier",
    as "member_expression" (r "nested_identifier"), r "jsx_namespace_name"]),
  ("jsx_closing_element", .seqs [t "</", .opt (.field "name" (r "_jsx_element_name")), t ">"]),
  ("jsx_self_closing_element", .seqs [t "<", .field "name" (r "_jsx_element_name"),
    .many (.field "attribute" (r "_jsx_attribute")), t "/>"]),
  ("_jsx_attribute", .alts [r "jsx_attribute", r "jsx_expression"]),
  ("_jsx_attribute_name", .alts [as "property_identifier" (r "_jsx_identifier"),
    r "jsx_namespace_name"]),
  ("jsx_attribute", .seqs [r "_jsx_attribute_name",
    .opt (.seqs [t "=", r "_jsx_attribute_value"])]),
  ("_jsx_string", .alts [
    .seqs [t "\"", .many (.alts [as "string_fragment" (r "unescaped_double_jsx_string_fragment"),
      r "html_character_reference"]), t "\""],
    .seqs [t "'", .many (.alts [as "string_fragment" (r "unescaped_single_jsx_string_fragment"),
      r "html_character_reference"]), t "'"]]),
  ("unescaped_double_jsx_string_fragment", tok (attributePiece "\"")),
  ("unescaped_single_jsx_string_fragment", tok (attributePiece "'")),
  ("_jsx_attribute_value", .alts [as "string" (r "_jsx_string"), r "jsx_expression",
    r "_jsx_element"])]

/-! ### Classes, functions, access -/

def functionRules : List (String × R) := [
  ("class", bindAt "literal" (.seqs [.many (.field "decorator" (r "decorator")), t "class",
    .field "name" (.opt (r "identifier")), .opt (r "class_heritage"),
    .field "body" (r "class_body")])),
  ("class_declaration", bindAt "declare" (.seqs [.many (.field "decorator" (r "decorator")),
    t "class", .field "name" (r "identifier"), .opt (r "class_heritage"),
    .field "body" (r "class_body"), .opt (r "_automatic_semicolon")])),
  ("class_heritage", .seqs [t "extends", r "expression"]),
  ("function_expression", bindAt "literal" (.seqs [.opt (t "async"), t "function",
    .field "name" (.opt (r "identifier")), r "_call_signature",
    .field "body" (r "statement_block")])),
  ("function_declaration", rightAt "declare" (.seqs [.opt (t "async"), t "function",
    .field "name" (r "identifier"), r "_call_signature", .field "body" (r "statement_block"),
    .opt (r "_automatic_semicolon")])),
  ("generator_function", bindAt "literal" (.seqs [.opt (t "async"), t "function", t "*",
    .field "name" (.opt (r "identifier")), r "_call_signature",
    .field "body" (r "statement_block")])),
  ("generator_function_declaration", rightAt "declare" (.seqs [.opt (t "async"), t "function",
    t "*", .field "name" (r "identifier"), r "_call_signature",
    .field "body" (r "statement_block"), .opt (r "_automatic_semicolon")])),
  ("arrow_function", .seqs [.opt (t "async"),
    .alts [
      .field "parameter" (.alts [as "identifier" (r "_reserved_identifier"), r "identifier"]),
      r "_call_signature"],
    t "=>", .field "body" (.alts [r "expression", r "statement_block"])]),
  ("_call_signature", .field "parameters" (r "formal_parameters")),
  ("_formal_parameter", .alts [r "pattern", r "assignment_pattern"]),
  ("optional_chain", t "?."),
  ("call_expression", .alts [
    bindAt "call" (.seqs [.field "function" (.alts [r "expression", r "import"]),
      .field "arguments" (r "arguments")]),
    bindAt "template_call" (.seqs [
      .field "function" (.alts [r "primary_expression", r "new_expression"]),
      .field "arguments" (r "template_string")]),
    bindAt "member" (.seqs [.field "function" (r "primary_expression"),
      .field "optional_chain" (r "optional_chain"), .field "arguments" (r "arguments")])]),
  ("new_expression", rightAt "new" (.seqs [t "new",
    .field "constructor" (.alts [r "primary_expression", r "new_expression"]),
    .field "arguments" (.opt (.weigh 1 (r "arguments")))])),
  ("await_expression", bindAt "unary_void" (.seqs [t "await", r "expression"])),
  ("member_expression", bindAt "member" (.seqs [
    .field "object" (.alts [r "expression", r "primary_expression", r "import"]),
    .alts [t ".", .field "optional_chain" (r "optional_chain")],
    .field "property" (.alts [r "private_property_identifier",
      .reserve propertyWords (as "property_identifier" (r "identifier"))])])),
  ("subscript_expression", rightAt "member" (.seqs [
    .field "object" (.alts [r "expression", r "primary_expression"]),
    .opt (.field "optional_chain" (r "optional_chain")), t "[",
    .field "index" (r "_expressions"), t "]"]))]

/-! ### Assignment and operators -/

/-- The binary operators that group to the left, with their levels. -/
def leftOperators : List (String × String) := [
  ("&&", "logical_and"), ("||", "logical_or"), (">>", "binary_shift"), (">>>", "binary_shift"),
  ("<<", "binary_shift"), ("&", "bitwise_and"), ("^", "bitwise_xor"), ("|", "bitwise_or"),
  ("+", "binary_plus"), ("-", "binary_plus"), ("*", "binary_times"), ("/", "binary_times"),
  ("%", "binary_times")]

/-- The other binary operators but `**`, which also group to the left. -/
def relationOperators : List (String × String) := [
  ("<", "binary_relation"), ("<=", "binary_relation"), ("==", "binary_equality"),
  ("===", "binary_equality"), ("!=", "binary_equality"), ("!==", "binary_equality"),
  (">=", "binary_relation"), (">", "binary_relation"), ("??", "ternary"),
  ("instanceof", "binary_relation")]

def binary (operator : String) (lhs : R := r "expression") : R :=
  .seqs [.field "left" lhs, .field "operator" (t operator), .field "right" (r "expression")]

def operatorRules : List (String × R) := [
  ("_lhs_expression", .alts [r "member_expression", r "subscript_expression", r "_identifier",
    as "identifier" (r "_reserved_identifier"), r "_destructuring_pattern"]),
  ("assignment_expression", rightAt "assign" (.seqs [
    .field "left" (.alts [r "parenthesized_expression", r "_lhs_expression"]), t "=",
    .field "right" (r "expression")])),
  ("_augmented_assignment_lhs", .alts [r "member_expression", r "subscript_expression",
    as "identifier" (r "_reserved_identifier"), r "identifier", r "parenthesized_expression"]),
  ("augmented_assignment_expression", rightAt "assign" (.seqs [
    .field "left" (r "_augmented_assignment_lhs"),
    .field "operator" (anyOf ["+=", "-=", "*=", "/=", "%=", "^=", "&=", "|=", ">>=", ">>>=",
      "<<=", "**=", "&&=", "||=", "??="]),
    .field "right" (r "expression")])),
  ("_initializer", .seqs [t "=", .field "value" (r "expression")]),
  ("_destructuring_pattern", .alts [r "object_pattern", r "array_pattern"]),
  ("spread_element", .seqs [t "...", r "expression"]),
  ("ternary_expression", rightAt "ternary" (.seqs [.field "condition" (r "expression"),
    .rename "?" false (r "_ternary_qmark"), .field "consequence" (r "expression"), t ":",
    .field "alternative" (r "expression")])),
  ("binary_expression", .alts (
    leftOperators.map (fun (op, level) => leftAt level (binary op))
    ++ [rightAt "binary_exp" (binary "**")]
    ++ relationOperators.map (fun (op, level) => leftAt level (binary op))
    ++ [leftAt "binary_relation"
        (binary "in" (.alts [r "expression", r "private_property_identifier"]))])),
  ("unary_expression", leftAt "unary_void" (.seqs [
    .field "operator" (anyOf ["!", "~", "-", "+", "typeof", "void", "delete"]),
    .field "argument" (r "expression")])),
  ("update_expression", left (.alts [
    .seqs [.field "argument" (r "expression"), .field "operator" (anyOf ["++", "--"])],
    .seqs [.field "operator" (anyOf ["++", "--"]), .field "argument" (r "expression")]])),
  ("sequence_expression", right (commaSep1 (r "expression")))]

/-! ### Literals and names -/

def literalRules : List (String × R) := [
  ("string", .alts [
    .seqs [t "\"", .many (.alts [as "string_fragment" (r "unescaped_double_string_fragment"),
      r "escape_sequence"]), t "\""],
    .seqs [t "'", .many (.alts [as "string_fragment" (r "unescaped_single_string_fragment"),
      r "escape_sequence"]), t "'"]]),
  ("unescaped_double_string_fragment", tok (stringPiece "\"")),
  ("unescaped_single_string_fragment", tok (stringPiece "'")),
  ("escape_sequence", tok escape),
  ("comment", tok comment),
  ("template_string", .seqs [t "\x60",
    .many (.alts [as "string_fragment" (r "_template_chars"), r "escape_sequence",
      r "template_substitution"]), t "\x60"]),
  ("template_substitution", .seqs [t "$\x7b", r "_expressions", t "\x7d"]),
  ("regex", .seqs [t "/", .field "pattern" (r "regex_pattern"), tok regexEnd,
    .opt (.field "flags" (r "regex_flags"))]),
  ("regex_pattern", tok regexPattern),
  ("regex_flags", tok regexFlags),
  ("number", tok number),
  ("_identifier", .alts [r "undefined", r "identifier"]),
  ("identifier", tok identifier),
  ("private_property_identifier", tok privateName),
  ("meta_property", .alts [.seqs [t "new", t ".", t "target"],
    .seqs [t "import", t ".", t "meta"]]),
  ("this", t "this"),
  ("super", t "super"),
  ("true", t "true"),
  ("false", t "false"),
  ("null", t "null"),
  ("undefined", t "undefined")]

/-! ### Parts of expressions -/

def partRules : List (String × R) := [
  ("arguments", .seqs [t "(", commaSep (.opt (.alts [r "expression", r "spread_element"])), t ")"]),
  ("decorator", .seqs [t "@", .alts [r "identifier",
    as "member_expression" (r "decorator_member_expression"),
    as "call_expression" (r "decorator_call_expression")]]),
  ("decorator_member_expression", bindAt "member" (.seqs [
    .field "object" (.alts [r "identifier",
      as "member_expression" (r "decorator_member_expression")]),
    t ".", .field "property" (as "property_identifier" (r "identifier"))])),
  ("decorator_call_expression", bindAt "call" (.seqs [
    .field "function" (.alts [r "identifier",
      as "member_expression" (r "decorator_member_expression")]),
    .field "arguments" (r "arguments")])),
  ("class_body", .seqs [t "\x7b",
    .many (.alts [
      .seqs [.field "member" (r "method_definition"), .opt (t ";")],
      .seqs [.field "member" (r "field_definition"), r "_semicolon"],
      .field "member" (r "class_static_block"),
      t ";"]),
    t "\x7d"]),
  ("field_definition", .seqs [.many (.field "decorator" (r "decorator")), .opt (t "static"),
    .field "property" (r "_property_name"), .opt (r "_initializer")]),
  ("formal_parameters", .seqs [t "(",
    .opt (.seqs [commaSep1 (r "_formal_parameter"), .opt (t ",")]), t ")"]),
  ("class_static_block", .seqs [t "static", .opt (r "_automatic_semicolon"),
    .field "body" (r "statement_block")]),
  ("pattern", .weigh (-1) (.alts [r "_lhs_expression", r "rest_pattern"])),
  ("rest_pattern", right (.seqs [t "...", r "_lhs_expression"])),
  ("method_definition", .seqs [.many (.field "decorator" (r "decorator")),
    .opt (.alts [t "static", .rename "static get" false (tok staticGet)]),
    .opt (t "async"), .opt (anyOf ["get", "set", "*"]),
    .field "name" (r "_property_name"), .field "parameters" (r "formal_parameters"),
    .field "body" (r "statement_block")]),
  ("pair", .seqs [.field "key" (r "_property_name"), t ":", .field "value" (r "expression")]),
  ("pair_pattern", .seqs [.field "key" (r "_property_name"), t ":",
    .field "value" (.alts [r "pattern", r "assignment_pattern"])]),
  ("_property_name", .reserve propertyWords (.alts [
    as "property_identifier" (.alts [r "identifier", r "_reserved_identifier"]),
    r "private_property_identifier", r "string", r "number", r "computed_property_name"])),
  ("computed_property_name", .seqs [t "[", r "expression", t "]"]),
  ("_reserved_identifier", anyOf ["get", "set", "async", "static", "export", "let"]),
  ("_semicolon", .alts [r "_automatic_semicolon", t ";"])]

/-! ### The whole grammar -/

/-- The words that name no variable. -/
def reservedWords : List String := ["break", "case", "catch", "class", "const", "continue",
  "debugger", "default", "delete", "do", "else", "export", "extends", "false", "finally", "for",
  "function", "if", "import", "in", "instanceof", "new", "null", "return", "super", "switch", "this",
  "throw", "true", "try", "typeof", "var", "void", "while", "with"]

def grammar : Declaration where
  rules := moduleRules ++ statementRules ++ clauseRules ++ expressionRules ++ jsxRules
    ++ functionRules ++ operatorRules ++ literalRules ++ partRules
  outside := [.name "_automatic_semicolon", .name "_template_chars", .name "_ternary_qmark",
    .name "html_comment", .token { pattern := .text "||" }, .name "escape_sequence",
    .name "regex_pattern", .name "jsx_text"]
  extras := ["comment", "html_comment"]
  blanks := blanks
  supertypes := ["statement", "declaration", "expression", "primary_expression", "pattern"]
  inlined := ["_call_signature", "_formal_parameter", "_expressions", "_semicolon", "_identifier",
    "_reserved_identifier", "_jsx_attribute", "_jsx_element_name", "_jsx_child", "_jsx_element",
    "_jsx_attribute_name", "_jsx_attribute_value", "_jsx_identifier", "_lhs_expression"]
  rankings := [
    [.level "member", .level "template_call", .level "call", .rule "update_expression",
      .level "unary_void", .level "binary_exp", .level "binary_times", .level "binary_plus",
      .level "binary_shift", .level "binary_compare", .level "binary_relation",
      .level "binary_equality", .level "bitwise_and", .level "bitwise_xor", .level "bitwise_or",
      .level "logical_and", .level "logical_or", .level "ternary", .rule "sequence_expression",
      .rule "arrow_function"],
    [.level "assign", .rule "primary_expression"],
    [.level "member", .level "template_call", .level "new", .level "call", .rule "expression"],
    [.level "declare", .level "literal"],
    [.rule "primary_expression", .rule "statement_block", .level "object"],
    [.rule "meta_property", .rule "import"],
    [.rule "import_statement", .rule "import"],
    [.rule "export_statement", .rule "primary_expression"],
    [.rule "lexical_declaration", .rule "primary_expression"]]
  ambiguous := [
    ["primary_expression", "_property_name"],
    ["primary_expression", "_property_name", "arrow_function"],
    ["primary_expression", "arrow_function"],
    ["primary_expression", "method_definition"],
    ["primary_expression", "rest_pattern"],
    ["primary_expression", "pattern"],
    ["primary_expression", "_for_header"],
    ["variable_declarator", "_for_header"],
    ["array", "array_pattern"],
    ["object", "object_pattern"],
    ["assignment_expression", "pattern"],
    ["assignment_expression", "object_assignment_pattern"],
    ["labeled_statement", "_property_name"],
    ["computed_property_name", "array"],
    ["binary_expression", "_initializer"],
    ["class_static_block", "_property_name"]]
  word := "identifier"
  reserved := [reservedWords, []]

end JsxOutline.Ecma
