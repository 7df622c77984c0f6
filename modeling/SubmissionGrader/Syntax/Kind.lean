/-!
# Kinds of the concrete syntax

The named constructs of the TSX grammar that later stages tell apart. All others are
`Kind.other` with their grammar name.
-/

namespace SubmissionGrader.Syntax

inductive Kind where
  | comment | htmlComment | hashBangLine
  | identifier | propertyIdentifier | privatePropertyIdentifier | typeIdentifier
  | shorthandPropertyIdentifier | shorthandPropertyIdentifierPattern
  | undefined | number | string
  | variableDeclaration | lexicalDeclaration | variableDeclarator
  | functionDeclaration | generatorFunctionDeclaration
  | functionExpression | function | generatorFunction | arrowFunction | methodDefinition
  | classDeclaration | catchClause
  | formalParameters | requiredParameter | optionalParameter
  | objectPattern | arrayPattern | pairPattern | objectAssignmentPattern | restPattern
  | returnStatement | importStatement
  | parenthesizedExpression | callExpression | memberExpression | subscriptExpression
  | sequenceExpression | binaryExpression | ternaryExpression | nonNullExpression
  | assignmentExpression | augmentedAssignmentExpression | updateExpression
  | jsxElement | jsxSelfClosingElement | jsxAttribute
  | other (name : String)
  deriving DecidableEq, Repr

namespace Kind

def name : Kind → String
  | comment => "comment"
  | htmlComment => "html_comment"
  | hashBangLine => "hash_bang_line"
  | identifier => "identifier"
  | propertyIdentifier => "property_identifier"
  | privatePropertyIdentifier => "private_property_identifier"
  | typeIdentifier => "type_identifier"
  | shorthandPropertyIdentifier => "shorthand_property_identifier"
  | shorthandPropertyIdentifierPattern => "shorthand_property_identifier_pattern"
  | undefined => "undefined"
  | number => "number"
  | string => "string"
  | variableDeclaration => "variable_declaration"
  | lexicalDeclaration => "lexical_declaration"
  | variableDeclarator => "variable_declarator"
  | functionDeclaration => "function_declaration"
  | generatorFunctionDeclaration => "generator_function_declaration"
  | functionExpression => "function_expression"
  | function => "function"
  | generatorFunction => "generator_function"
  | arrowFunction => "arrow_function"
  | methodDefinition => "method_definition"
  | classDeclaration => "class_declaration"
  | catchClause => "catch_clause"
  | formalParameters => "formal_parameters"
  | requiredParameter => "required_parameter"
  | optionalParameter => "optional_parameter"
  | objectPattern => "object_pattern"
  | arrayPattern => "array_pattern"
  | pairPattern => "pair_pattern"
  | objectAssignmentPattern => "object_assignment_pattern"
  | restPattern => "rest_pattern"
  | returnStatement => "return_statement"
  | importStatement => "import_statement"
  | parenthesizedExpression => "parenthesized_expression"
  | callExpression => "call_expression"
  | memberExpression => "member_expression"
  | subscriptExpression => "subscript_expression"
  | sequenceExpression => "sequence_expression"
  | binaryExpression => "binary_expression"
  | ternaryExpression => "ternary_expression"
  | nonNullExpression => "non_null_expression"
  | assignmentExpression => "assignment_expression"
  | augmentedAssignmentExpression => "augmented_assignment_expression"
  | updateExpression => "update_expression"
  | jsxElement => "jsx_element"
  | jsxSelfClosingElement => "jsx_self_closing_element"
  | jsxAttribute => "jsx_attribute"
  | other name => name

def isFunction : Kind → Bool
  | functionDeclaration | generatorFunctionDeclaration | functionExpression | function
  | generatorFunction | arrowFunction | methodDefinition => true
  | _ => false

/-- Chains grow with the length of an expression and not with its nesting. -/
def isChain : Kind → Bool
  | binaryExpression | memberExpression | callExpression | subscriptExpression
  | sequenceExpression => true
  | _ => false

/-- Constructs that carry no meaning and are left out of the syntax tree. -/
def isSkipped : Kind → Bool
  | comment | htmlComment | hashBangLine => true
  | _ => false

end Kind

end SubmissionGrader.Syntax
