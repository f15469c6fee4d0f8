import TypeGuard.Text.Quoted
import TypeGuard.TypeScript.Cursor

namespace TypeGuard.TypeScript

inductive Cause where
  /-- Exactly one token may stand here, and another one does. -/
  | expected (wanted got : String)
  /-- None of several things that may stand here does. -/
  | unexpected (got wanted : String)
  | unexpectedEnd
  | expectedName
  | expectedExpression
  | expectedSemicolon
  | expectedStatementEnd
  | unexpectedCharacter (c : Char)
  | unclosedComment
  | unclosedRegExp
  | unclosedString
  | nameAfterNumber
  | expectedDigit (radix : Nat)
  | badEscape (wanted : String)
  | badNameCharacter
  | escapedKeyword (word : String)
  | legacyOctal
  | legacyOctalStrict
  | legacyDecimalStrict
  | misplacedSeparator
  | legacyComment
  | conflictMarker
  | breakAfterThrow
  | asyncConstructor
  | duplicateConstructor
  | generatorConstructor
  | accessorConstructor
  | getterParameters
  | setterParameters
  | abstractMember
  | abstractBody
  | secondSuperclass
  | misplacedReturn
  | misplacedBreak
  | misplacedContinue
  | unknownLabel
  | labelAcrossFunction
  | duplicateLabel (name : String)
  | restNotLast
  | restElementNotLast
  | commaAfterRest
  | restInitializer
  | optionalInitializer
  | parameterProperty
  | ambientBody
  | ambientInitializer
  | strictName (name : String)
  | strictBinding
  | restrictedTarget
  | reservedAwait
  | withUnsupported
  | withStrict
  | badAssignmentTarget
  | notPattern
  | deleteName
  | deleteOperand
  | newTarget
  | topLevelAwait
  | shorthandInitializer
  | mixedNullish
  | unaryBeforePower
  | breakBeforeArrow
  | misplacedArrow
  | emptyParentheses
  | spreadInParentheses
  | misplacedDeclaration
  | misplacedImport
  | duplicateDefault
  | reservedShorthand
  | uninitializedPattern
  | trailingDeclarator
  | nestingLimit
  | repeatedModifier (name : String)
  | modifierOrder (first second : String)
  | modifierClash (name other : String)
  | hiddenModifier (name : String)
  | constructorModifier (name : String)
  | typeParameterModifier (name : String)
  /-- A modifier of type parameters that functions and methods do not know. -/
  | varianceModifier (name : String)
  | constModifier (name : String)
  | misplacedModifier
  | misplacedArguments
  | hiddenConstructor
  | constructorProperty
  | readonlyMethod
  | interfaceName
  | secondExtends
  | secondImplements
  | restInSetter
  | directive
  | chainCreated
  | chainTagged
  | invalidSuper
  | dotsWithoutName
  | optionalPattern
  | exportWithoutSource (name : String)
  | importedString (value : String)
  | duplicateFlag (flag : Char)
  /-- Any other rule, in its own words. -/
  | rule (text : String)
deriving Repr, DecidableEq

namespace Cause

def digitName : Nat → String
  | 2 => "a binary"
  | 8 => "an octal"
  | 10 => "a decimal"
  | _ => "a hexadecimal"

def message : Cause → String
  | expected wanted got => "Expected '" ++ wanted ++ "', got '" ++ got ++ "'"
  | unexpected got wanted => "Unexpected token `" ++ got ++ "`. Expected " ++ wanted
  | unexpectedEnd => "Unexpected eof"
  | expectedName => "Expected ident"
  | expectedExpression => "Expression expected"
  | expectedSemicolon => "Expected a semicolon"
  | expectedStatementEnd => "Expected ';', '\x7d' or <eof>"
  | unexpectedCharacter c => "Unexpected character " ++ Text.quotedChar c
  | unclosedComment => "Unterminated block comment"
  | unclosedRegExp => "Unterminated regexp literal"
  | unclosedString => "Unterminated string constant"
  | nameAfterNumber => "Identifier cannot follow number"
  | expectedDigit radix => "Expected " ++ digitName radix ++ " digit"
  | badEscape wanted => "Bad character escape sequence, expected " ++ wanted
  | badNameCharacter => "Invalid character in identifier"
  | escapedKeyword word => "Unexpected escape sequence in reserved word: " ++ word
  | legacyOctal => "Legacy octal literals are not available when targeting ECMAScript 5 and higher"
  | legacyOctalStrict => "Legacy octal escape is not permitted in strict mode"
  | legacyDecimalStrict => "Legacy decimal escape is not permitted in strict mode"
  | misplacedSeparator => "A numeric separator is only allowed between two digits"
  | legacyComment => "Legacy comments cannot be used in module code"
  | conflictMarker => "Merge conflict marker encountered."
  | breakAfterThrow => "LineBreak cannot follow 'throw'"
  | asyncConstructor => "Constructor can't be an async function"
  | duplicateConstructor => "A class can only have one constructor"
  | generatorConstructor => "A constructor cannot be generator"
  | accessorConstructor => "Class constructor can't be an accessor."
  | getterParameters => "A `get` accessor cannot have parameters"
  | setterParameters => "A `set` accessor must have exactly one parameter"
  | abstractMember => "Abstract methods can only appear within an abstract class."
  | abstractBody => "Abstract method cannot have an implementation."
  | secondSuperclass => "Classes can only extend a single class"
  | misplacedReturn => "Return statement is not allowed here"
  | misplacedBreak =>
    "A 'break' statement can only be used within an enclosing iteration or switch statement"
  | misplacedContinue =>
    "A 'continue' statement can only jump to a label of an enclosing iteration statement"
  | unknownLabel => "A 'break' statement can only jump to a label of an enclosing statement"
  | labelAcrossFunction => "Jump target cannot cross function boundary"
  | duplicateLabel name => "Label " ++ name ++ " is already declared"
  | restNotLast => "A rest parameter must be last in a parameter list"
  | restElementNotLast => "Rest element must be final element"
  | commaAfterRest => "Trailing comma isn't permitted after a rest element"
  | restInitializer => "A rest parameter cannot have an initializer"
  | optionalInitializer => "Parameter cannot have question mark and initializer"
  | parameterProperty => "A parameter property is only allowed in a constructor implementation"
  | ambientBody => "An implementation cannot be declared in ambient contexts"
  | ambientInitializer =>
    "A parameter initializer is only allowed in a function or constructor implementation"
  | strictName name => "`" ++ name ++ "` cannot be used as an identifier in strict mode"
  | strictBinding =>
    "'eval' and 'arguments' cannot be used as a binding identifier in strict mode"
  | restrictedTarget => "Invalid use of 'arguments' in strict mode"
  | reservedAwait => "`await` cannot be used as an identifier in an async context"
  | withUnsupported =>
    "The 'with' statement is not supported. All symbols in a 'with' block will have type 'any'."
  | withStrict => "With statement are not allowed in strict mode"
  | badAssignmentTarget =>
    "The left-hand side of an assignment expression must be a variable or a property access."
  | notPattern => "Not a pattern"
  | deleteName => "'delete' cannot be called on an identifier in strict mode"
  | deleteOperand => "The operand of a delete operator must be a property reference."
  | newTarget =>
    "'new.target' is only allowed in the body of a function declaration, function expression, " ++
      "or class."
  | topLevelAwait => "top level await is only allowed in module"
  | shorthandInitializer => "assignment property is invalid syntax"
  | mixedNullish => "Nullish coalescing operator(??) requires parens when mixing with logical operators"
  | unaryBeforePower => "'**' cannot be applied to unary/await expression."
  | breakBeforeArrow => "Unexpected line break between arrow head and arrow"
  | misplacedArrow => "An arrow function is not allowed here"
  | emptyParentheses => "Parenthesized expression cannot be empty"
  | spreadInParentheses => "Parenthesized expression cannot contain spread operator"
  | misplacedDeclaration => "Declaration is not allowed"
  | misplacedImport => "'import', and 'export' cannot be used outside of module code"
  | duplicateDefault => "A switch block cannot have multiple defaults"
  | reservedShorthand => "Cannot use a reserved word as a shorthand property"
  | uninitializedPattern => "Destructuring bindings require initializers"
  | trailingDeclarator => "Trailing comma is not allowed"
  | nestingLimit => "Nesting is too deep"
  | repeatedModifier name => "'" ++ name ++ "' modifier already seen."
  | modifierOrder first second =>
    "'" ++ first ++ "' modifier must precede '" ++ second ++ "' modifier."
  | modifierClash name other =>
    "'" ++ name ++ "' modifier cannot be used with '" ++ other ++ "' modifier."
  | hiddenModifier name => "'" ++ name ++ "' modifier cannot be used with a private identifier"
  | constructorModifier name =>
    "'" ++ name ++ "' modifier cannot appear on a constructor declaration"
  | typeParameterModifier name => "'" ++ name ++ "' modifier cannot appear on a type parameter"
  | varianceModifier name =>
    "'" ++ name ++ "' modifier can only appear on a type parameter of a class, interface or type alias"
  | constModifier name =>
    "'" ++ name ++ "' modifier can only appear on a type parameter of a function, method or class"
  | misplacedModifier => "Modifiers cannot appear here"
  | misplacedArguments => "'arguments' is only allowed in functions and class methods"
  | hiddenConstructor => "Classes can't have a private field named '#constructor'."
  | constructorProperty => "Classes may not have a non-static field named 'constructor'"
  | readonlyMethod => "A method cannot be readonly"
  | interfaceName => "interface name is invalid"
  | secondExtends => "`extends` clause already seen."
  | secondImplements => "`implements` clause already seen"
  | restInSetter => "Rest pattern is not allowed in setter"
  | directive => "Illegal 'use strict' directive in function with non-simple parameter list."
  | chainCreated => "Constructor in/after an optional chaining is not allowed."
  | chainTagged => "Tagged template literal is not allowed in optional chain."
  | invalidSuper => "Invalid access to super"
  | dotsWithoutName => "`...` must be followed by an identifier in declaration contexts"
  | optionalPattern =>
    "A binding pattern parameter cannot be optional in an implementation signature."
  | exportWithoutSource name => "`" ++ name ++ "` cannot be used without `from` clause"
  | importedString value =>
    "A string literal cannot be used as an imported binding.\n- Did you mean `import \x7b \"" ++
      value ++ "\" as foo \x7d`?"
  | duplicateFlag flag => "Duplicated regular expression flag '" ++ flag.toString ++ "'."
  | rule text => text

end Cause

/-- A syntax error at a place of the source, or a few bytes in front of it. -/
structure Fault (src : List Char) where
  place : Cursor src
  cause : Cause
  back : Nat := 0

def Fault.offset {src : List Char} (f : Fault src) : Nat :=
  f.place.offset - f.back

theorem Fault.offset_le {src : List Char} (f : Fault src) : f.offset ≤ Utf8.byteLength src :=
  Nat.le_trans (Nat.sub_le _ _) f.place.offset_le

end TypeGuard.TypeScript
